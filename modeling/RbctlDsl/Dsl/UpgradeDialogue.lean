import RbctlDsl.Dsl.FirmwareIpc

/-!
# The upgrade dialogue

`send_firmware` of `ipc.rs`, the client of a `FIRMWARE` request, and what it makes of the lines
that `handle_firmware_ipc` writes.  The version field of the image stands in one of these lines
as it is.
-/

namespace RbctlDsl.Dsl

open RbctlDsl.Lib RbctlDsl.Proto

/-! ## The client -/

/-- The read loop of `send_firmware` on the lines that are there: what `on_progress` is called
with, and the reply, if the loop has come to its end. -/
def receive : List String → List String × Option String
  | [] => ([], none)
  | line :: rest =>
    let trimmed := trim line
    -- end of response
    if trimmed = "." then ([], some "")
    else if startsWith trimmed "ERR:" || startsWith trimmed "DONE" then ([], some trimmed)
    -- initial acknowledgment
    else if startsWith trimmed "OK" then receive rest
    -- progress line
    else (trimmed :: (receive rest).1, (receive rest).2)

/-- `send_firmware` on everything that is written: a closed connection leaves the reply empty. -/
def sendFirmware (text : String) : List String × String :=
  ((receive (lines text)).1, (receive (lines text)).2.getD "")

/-! ## The dialogue -/

/-- A client that stays connected, an image, and a worker that takes the command and sends
events. -/
def connected (status : FwStatus) (image : Bytes) (events : List FwEvent) : Oracle ipcCalls
  | _, .fwStatus => status
  | _, .readFile _ => .ok image
  | _, .write _ | _, .sendCmd _ => true
  | history, .recv => events[history.countP fun event => event.op = .recv]?
  | _, .flush | _, .setWriteTimeout _ => ()

/-- What has been written, one text a write. -/
def written (events : History ipcCalls) : List String :=
  events.filterMap fun
    | ⟨.write text, true⟩ => some text
    | _ => none

/-- What the handler writes in the dialogue. -/
def dialogue (fuel : Nat) (path : String) (stream : Nat) (status : FwStatus) (image : Bytes)
    (progress : List FwProgress) (result : Except String FwUpgradeResult) : List String :=
  written ((handleFirmwareIpc fuel path stream ()).exec
    (connected status image (progress.map .progress ++ [.done result])) []).events

/-- The lines that the client is to call `on_progress` with. -/
def progressLines (hdr : FwHeader) (image : Bytes) (progress : List FwProgress) : List String :=
  (.image (versionStr hdr) image.length :: progress.map IpcReply.progress).map fun reply =>
    trim reply.text

/-- The client agrees with the worker: it waits until the last text is written, has shown the
image and every progress event by then, and its reply is the worker's result. -/
structure Agrees (hdr : FwHeader) (image : Bytes) (progress : List FwProgress)
    (result : Except String FwUpgradeResult) (writes : List String) : Prop where
  waits : receive (lines (String.join writes.dropLast)) = (progressLines hdr image progress, none)
  calls : (sendFirmware (String.join writes)).1 = progressLines hdr image progress
  done : startsWith (sendFirmware (String.join writes)).2 "DONE" = true ↔
    ∃ value, result = .ok value
  err : startsWith (sendFirmware (String.join writes)).2 "ERR:" = true ↔
    ∃ message, result = .error message

/-- The reply for a result. -/
def finalReply : Except String FwUpgradeResult → IpcReply
  | .ok value => .done value
  | .error message => .err message

/-! ## What is written -/

section Written

variable {status : FwStatus} {image : Bytes} {hdr : FwHeader} {progress : List FwProgress}
  {result : Except String FwUpgradeResult} {history : History ipcCalls} {path : String}
  {stream fuel : Nat}

open IpcHandler

variable {events : List FwEvent}

theorem exec_relayPass_done
    (next : events[history.countP fun event => event.op = .recv]? = some (.done result)) :
    (relayPass () ()).exec (connected status image events) history =
      ⟨[⟨.recv, some (.done result)⟩, ⟨.write (finalReply result).text, true⟩],
        .returned (.ok (.inr ()), ())⟩ := by
  have answer : connected status image events history .recv = some (.done result) := next
  rw [relayPass, Method.exec_perform_bind _ answer]
  cases result with
  | ok value => rfl
  | error message => rfl

theorem exec_relayPass_progress {update : FwProgress}
    (next : events[history.countP fun event => event.op = .recv]? = some (.progress update)) :
    (relayPass () ()).exec (connected status image events) history =
      ⟨[⟨.recv, some (.progress update)⟩, ⟨.write (IpcReply.progress update).text, true⟩,
        ⟨.flush, ()⟩], .returned (.ok (.inl ()), ())⟩ := by
  have answer : connected status image events history .recv = some (.progress update) := next
  rw [relayPass, Method.exec_perform_bind _ answer]
  rfl

/-- The events are passed on in their order, up to the result. -/
theorem written_relayed (enough : progress.length < fuel)
    (next : events.drop (history.countP fun event => event.op = .recv) =
      progress.map .progress ++ [.done result]) :
    written ((Method.iterate relayPass fuel () ()).exec (connected status image events)
        history).events =
      progress.map (fun update => (IpcReply.progress update).text) ++
        [(finalReply result).text] := by
  induction progress generalizing history fuel with
  | nil =>
      obtain ⟨fuel, rfl⟩ := Nat.exists_eq_add_one_of_ne_zero (Nat.ne_of_gt enough)
      have first := congrArg (fun rest => rest[0]?) next
      rw [List.getElem?_drop] at first
      rw [Method.exec_iterate_leave (exec_relayPass_done first)]
      rfl
  | cons update progress ih =>
      obtain ⟨fuel, rfl⟩ := Nat.exists_eq_add_one_of_ne_zero
        (Nat.ne_of_gt (Nat.lt_of_le_of_lt (Nat.zero_le _) enough))
      have first := congrArg (fun rest => rest[0]?) next
      rw [List.getElem?_drop] at first
      rw [Method.exec_iterate_again (exec_relayPass_progress first)]
      refine congrArg ((IpcReply.progress update).text :: ·)
        (ih (Nat.lt_of_succ_lt_succ enough) ?_)
      have tail := congrArg (List.drop 1) next
      rw [List.drop_drop] at tail
      simpa [List.countP_append] using tail

theorem exec_checkStatus (allows : status.allowsUpgrade = true) :
    (checkStatus ()).exec (connected status image events) history =
      ⟨[⟨.fwStatus, status⟩], .returned (.ok (), ())⟩ := by
  have answer : connected status image events history .fwStatus = status := rfl
  rw [checkStatus, Method.exec_perform_bind _ answer, allows]
  rfl

theorem exec_readImage (valid : validateImage image = .ok hdr) :
    (readImage path ()).exec (connected status image events) history =
      ⟨[⟨.readFile path, .ok image⟩], .returned (.ok image, ())⟩ := by
  have answer : connected status image events history (.readFile path) = .ok image := rfl
  rw [readImage, Method.exec_perform_bind _ answer]
  simp only [valid]
  rfl

theorem exec_acknowledge (parsed : parseHeader image = .ok hdr) :
    (acknowledge image ()).exec (connected status image events) history =
      ⟨[⟨.write IpcReply.ok.text, true⟩,
        ⟨.write (IpcReply.image (versionStr hdr) image.length).text, true⟩, ⟨.flush, ()⟩],
        .returned (.ok (), ())⟩ := by
  rw [acknowledge, parsed]
  rfl

theorem exec_submit :
    (submit image stream ()).exec (connected status image events) history =
      ⟨[⟨.sendCmd (.firmwareUpgrade image stream), true⟩, ⟨.setWriteTimeout 10, ()⟩],
        .returned (.ok (), ())⟩ := rfl

/-- The handler writes the acknowledgment, the image, the progress, and the result. -/
theorem dialogue_eq (allows : status.allowsUpgrade = true) (valid : validateImage image = .ok hdr)
    (enough : progress.length < fuel) :
    dialogue fuel path stream status image progress result =
      IpcReply.ok.text :: (IpcReply.image (versionStr hdr) image.length).text ::
        (progress.map (fun update => (IpcReply.progress update).text) ++
          [(finalReply result).text]) := by
  rw [dialogue, handleFirmwareIpc, Method.exec_bind_ok _ (exec_checkStatus allows),
    Method.exec_bind_ok _ (exec_readImage valid),
    Method.exec_bind_ok _ (exec_acknowledge (parseHeader_of_validateImage valid)),
    Method.exec_bind_ok _ exec_submit]
  refine congrArg (IpcReply.ok.text :: (IpcReply.image (versionStr hdr) image.length).text :: ·) ?_
  exact written_relayed enough rfl

end Written

/-! ## What is read -/

section Read

variable {hdr : FwHeader} {image : Bytes}

theorem not_mem_digits (number : Nat) : '\n' ∉ (toString number).toList := by
  intro member
  rw [Nat.toString_eq_repr, Nat.toList_repr] at member
  have digit := Nat.isDigit_of_mem_toDigits (by decide) (by decide) member
  exact absurd digit (by decide)

theorem isLine_ok : IsLine IpcReply.ok.text := ⟨['O', 'K'], rfl, by decide⟩

theorem isLine_image (single : '\n' ∉ (versionStr hdr).toList) :
    IsLine (IpcReply.image (versionStr hdr) image.length).text := by
  refine ⟨"IMAGE version=".toList ++ ((versionStr hdr).toList ++
    (" size=".toList ++ (toString image.length).toList)), ?_, ?_⟩
  · simp only [IpcReply.text_image, String.toList_append, List.append_assoc]
    rfl
  · have digits := not_mem_digits image.length
    simp only [List.mem_append, not_or]
    exact ⟨by decide, single, by decide, digits⟩

theorem isLine_progress (update : FwProgress) : IsLine (IpcReply.progress update).text := by
  have stage := not_mem_digits update.stage.toNat
  have pct := not_mem_digits update.pct.toNat
  rw [IpcReply.text_progress]
  split
  · refine ⟨"PROGRESS stage=".toList ++ ((toString update.stage).toList ++
      (" pct=".toList ++ (toString update.pct).toList)), ?_, ?_⟩
    · simp only [String.toList_append, List.append_assoc]
      rfl
    · simp only [List.mem_append, not_or]
      exact ⟨by decide, stage, by decide, pct⟩
  · refine ⟨"PROGRESS stage=".toList ++ (toString update.stage).toList, ?_, ?_⟩
    · simp only [String.toList_append, List.append_assoc]
      rfl
    · simp only [List.mem_append, not_or]
      exact ⟨by decide, stage⟩

/-- The client reads past the acknowledgment. -/
theorem receive_ok (rest : String) :
    receive (lines (IpcReply.ok.text ++ rest)) = receive (lines rest) := by
  rw [lines_append isLine_ok]
  rfl

/-- A line that begins with a letter of its own is shown. -/
theorem receive_shown {line : String} {first last : Char} {middle : List Char}
    (begins : first :: middle ++ [last] <+: line.toList)
    (visible : isWhitespace first = false) (closed : isWhitespace last = false)
    (other : first ≠ '.' ∧ first ≠ 'E' ∧ first ≠ 'D' ∧ first ≠ 'O') (rest : List String) :
    receive (line :: rest) = (trim line :: (receive rest).1, (receive rest).2) := by
  obtain ⟨noDot, noErr, noDone, noOk⟩ := other
  obtain ⟨after, trimmed⟩ := prefix_trim begins visible closed
  have differs {letter : Char} {more : List Char} (ne : first ≠ letter) :
      ¬ letter :: more <+: (trim line).toList := by
    rw [← trimmed]
    exact fun starts => ne (List.cons_prefix_cons.mp starts).1.symm
  have notDot : trim line ≠ "." := by
    intro equal
    have alone : ¬ ['.'] <+: (trim line).toList := differs noDot
    rw [equal] at alone
    exact alone (List.prefix_refl _)
  have notReply : (startsWith (trim line) "ERR:" || startsWith (trim line) "DONE") = false := by
    rw [Bool.or_eq_false_iff, Bool.eq_false_iff, Bool.eq_false_iff, ne_eq, ne_eq, startsWith_iff,
      startsWith_iff]
    exact ⟨differs noErr, differs noDone⟩
  have notOk : startsWith (trim line) "OK" = false := by
    rw [Bool.eq_false_iff, ne_eq, startsWith_iff]
    exact differs noOk
  simp only [receive, notDot, notReply, notOk, if_false, Bool.false_eq_true]

/-- A line that begins like a reply is one. -/
theorem receive_reply {line : String} (rest : List String)
    (reply : startsWith (trim line) "ERR:" = true ∨ startsWith (trim line) "DONE" = true) :
    receive (line :: rest) = ([], some (trim line)) := by
  have notDot : trim line ≠ "." := by
    intro equal
    rw [equal] at reply
    revert reply
    decide
  simp only [receive, notDot, if_false, Bool.or_eq_true, reply, if_true]

theorem receive_image {line : String} (begins : "IMAGE version=".toList <+: line.toList)
    (isLine : IsLine line) (rest : String) :
    receive (lines (line ++ rest)) =
      (trim line :: (receive (lines rest)).1, (receive (lines rest)).2) := by
  rw [lines_append isLine]
  exact @receive_shown line 'I' '=' "MAGE version".toList begins rfl rfl (by decide) _

theorem receive_progress (update : FwProgress) (rest : String) :
    receive (lines ((IpcReply.progress update).text ++ rest)) =
      (trim (IpcReply.progress update).text :: (receive (lines rest)).1,
        (receive (lines rest)).2) := by
  rw [lines_append (isLine_progress update)]
  refine @receive_shown _ 'P' '=' "ROGRESS stage".toList ?_ rfl rfl (by decide) _
  rw [IpcReply.text_progress, String.toList_append]
  exact List.prefix_append ..

/-- Progress is shown in its order. -/
theorem receive_progresses (progress : List FwProgress) (rest : String) :
    receive (lines (String.join (progress.map fun update => (IpcReply.progress update).text) ++
        rest)) =
      ((progress.map fun update => trim (IpcReply.progress update).text) ++
        (receive (lines rest)).1, (receive (lines rest)).2) := by
  induction progress with
  | nil => rw [List.map_nil, String.join_nil, String.empty_append]; rfl
  | cons update progress ih =>
      rw [List.map_cons, String.join_cons, String.append_assoc, receive_progress, ih]
      rfl

/-- The first line of a text that begins like a reply is the reply. -/
theorem receive_final {text : String} {first last : Char} {middle : List Char}
    (begins : first :: middle ++ [last] <+: text.toList) (single : '\n' ∉ first :: middle ++ [last])
    (feed : '\n' ∈ text.toList) (visible : isWhitespace first = false)
    (closed : isWhitespace last = false)
    (known : first :: middle ++ [last] = "ERR:".toList ∨
      first :: middle ++ [last] = "DONE".toList) :
    ∃ reply, receive (lines text) = ([], some reply) ∧
      first :: middle ++ [last] <+: reply.toList := by
  obtain ⟨line, rest, equal, isLine⟩ := exists_first_line feed
  have starts := prefix_trim (isLine.isPrefix (equal ▸ begins) single) visible closed
  refine ⟨trim line, ?_, starts⟩
  rw [equal, lines_append isLine]
  refine receive_reply _ ?_
  rw [startsWith_iff, startsWith_iff]
  rcases known with same | same
  · exact .inl (by rwa [← same])
  · exact .inr (by rwa [← same])

theorem feed_mem_text (reply : IpcReply) : '\n' ∈ reply.text.toList := by
  cases reply with
  | ok => decide
  | progress update =>
      rw [IpcReply.text_progress]
      split <;>
        (simp only [String.toList_append, List.mem_append]
         exact .inr (.inr (by decide)))
  | image | done | err =>
      simp only [IpcReply.text_image, IpcReply.text_done, IpcReply.text_err,
        String.toList_append, List.mem_append]
      exact .inr (.inr (by decide))

theorem receive_finalReply (result : Except String FwUpgradeResult) :
    ∃ reply, receive (lines (finalReply result).text) = ([], some reply) ∧
      (startsWith reply "DONE" = true ↔ ∃ value, result = .ok value) ∧
      (startsWith reply "ERR:" = true ↔ ∃ message, result = .error message) := by
  simp only [startsWith_iff]
  cases result with
  | ok value =>
      have begins : "DONE".toList <+: (IpcReply.done value).text.toList := by
        rw [IpcReply.text_done, String.toList_append]
        exact (List.prefix_append "DONE".toList " version=0x".toList).trans (List.prefix_append ..)
      obtain ⟨reply, received, starts⟩ := @receive_final _ 'D' 'E' "ON".toList begins (by decide)
        (feed_mem_text _) rfl rfl (.inr rfl)
      refine ⟨reply, received, iff_of_true starts ⟨value, rfl⟩, iff_of_false ?_ ?_⟩
      · obtain ⟨rest, equal⟩ := starts
        rw [← equal]
        exact fun other => absurd (List.cons_prefix_cons.mp other).1 (by decide)
      · rintro ⟨message, ⟨⟩⟩
  | error message =>
      have begins : "ERR:".toList <+: (IpcReply.err message).text.toList := by
        rw [IpcReply.text_err, String.toList_append]
        exact (List.prefix_append "ERR:".toList " ".toList).trans (List.prefix_append ..)
      obtain ⟨reply, received, starts⟩ := @receive_final _ 'E' ':' "RR".toList begins (by decide)
        (feed_mem_text _) rfl rfl (.inl rfl)
      refine ⟨reply, received, iff_of_false ?_ ?_, iff_of_true starts ⟨message, rfl⟩⟩
      · obtain ⟨rest, equal⟩ := starts
        rw [← equal]
        exact fun other => absurd (List.cons_prefix_cons.mp other).1 (by decide)
      · rintro ⟨value, ⟨⟩⟩

/-- What is written before the result. -/
def opening (hdr : FwHeader) (image : Bytes) (progress : List FwProgress) : List String :=
  IpcReply.ok.text :: (IpcReply.image (versionStr hdr) image.length).text ::
    progress.map fun update => (IpcReply.progress update).text

variable (progress : List FwProgress) (rest : String)

theorem image_begins : "IMAGE version=".toList <+:
    (IpcReply.image (versionStr hdr) image.length).text.toList := by
  rw [IpcReply.text_image, String.toList_append]
  exact List.prefix_append ..

theorem join_opening : String.join (opening hdr image progress) ++ rest =
    IpcReply.ok.text ++ ((IpcReply.image (versionStr hdr) image.length).text ++
      (String.join (progress.map fun update => (IpcReply.progress update).text) ++ rest)) := by
  rw [opening, String.join_cons, String.join_cons, String.append_assoc, String.append_assoc]

/-- What the client is shown, where the image is one line. -/
theorem receive_opening (single : '\n' ∉ (versionStr hdr).toList) :
    receive (lines (String.join (opening hdr image progress) ++ rest)) =
      (progressLines hdr image progress ++ (receive (lines rest)).1, (receive (lines rest)).2) := by
  rw [join_opening, receive_ok, receive_image image_begins (isLine_image single),
    receive_progresses, progressLines, List.map_cons, List.map_map]
  rfl

/-- An image that is more than one line is not shown as it has been written. -/
theorem receive_opening_ne (feed : '\n' ∈ (versionStr hdr).toList) :
    (receive (lines (String.join (opening hdr image progress) ++ rest))).1.head? ≠
      (progressLines hdr image progress).head? := by
  obtain ⟨line, more, equal, isLine⟩ :=
    exists_first_line (feed_mem_text (.image (versionStr hdr) image.length))
  have begins : "IMAGE version=".toList <+: line.toList :=
    isLine.isPrefix (equal ▸ image_begins) (by decide)
  rw [join_opening, receive_ok, equal, String.append_assoc, receive_image begins isLine]
  intro same
  -- the version is in the text that has been written, and its line feed is not in the line
  have shown : trim line = trim (IpcReply.image (versionStr hdr) image.length).text :=
    Option.some.inj same
  have whole : 'I' :: ("MAGE version=".toList ++ (versionStr hdr).toList ++ " size".toList) ++
      ['='] <+: (IpcReply.image (versionStr hdr) image.length).text.toList := by
    refine ⟨(toString image.length).toList ++ ['\n'], ?_⟩
    simp only [IpcReply.text_image, String.toList_append, List.append_assoc, List.cons_append]
    rfl
  have kept := (prefix_trim whole rfl rfl).mem (List.mem_append_left _ (List.mem_cons_of_mem _
    (List.mem_append_left _ (List.mem_append_right _ feed))))
  rw [← shown] at kept
  exact isLine.not_mem_trim kept

end Read

section Agrees

variable {fuel stream : Nat} {path : String} {status : FwStatus} {image : Bytes} {hdr : FwHeader}
  {progress : List FwProgress} {result : Except String FwUpgradeResult}

theorem dropLast_opening : (opening hdr image progress ++ [(finalReply result).text]).dropLast =
    opening hdr image progress := List.dropLast_concat

theorem agrees_of_single (single : '\n' ∉ (versionStr hdr).toList) :
    Agrees hdr image progress result
      (opening hdr image progress ++ [(finalReply result).text]) := by
  obtain ⟨reply, received, done, err⟩ := receive_finalReply result
  have whole : receive (lines (String.join
      (opening hdr image progress ++ [(finalReply result).text]))) =
        (progressLines hdr image progress, some reply) := by
    rw [String.join_append, String.join_cons, String.join_nil, String.append_empty,
      receive_opening progress _ single, received, List.append_nil]
  refine ⟨?_, ?_, ?_, ?_⟩
  · have waits : receive (lines (String.join (opening hdr image progress) ++ "")) = _ :=
      receive_opening progress "" single
    rw [String.append_empty] at waits
    rw [dropLast_opening, waits]
    exact congrArg (·, none) (List.append_nil _)
  · rw [sendFirmware, whole]
  · rw [sendFirmware, whole]
    exact done
  · rw [sendFirmware, whole]
    exact err

theorem not_agrees_of_feed (feed : '\n' ∈ (versionStr hdr).toList) :
    ¬ Agrees hdr image progress result
      (opening hdr image progress ++ [(finalReply result).text]) := by
  intro agrees
  have waits : receive (lines (String.join (opening hdr image progress) ++ "")) =
      (progressLines hdr image progress, none) := by
    rw [String.append_empty, ← dropLast_opening]
    exact agrees.waits
  exact receive_opening_ne progress "" feed (congrArg (fun received => received.1.head?) waits)

end Agrees

/-- The client agrees with the worker exactly if the version of the image has no line feed. -/
theorem agrees_iff (fuel : Nat) (path : String) (stream : Nat) (status : FwStatus) (image : Bytes)
    (hdr : FwHeader) (progress : List FwProgress) (result : Except String FwUpgradeResult)
    (allows : status.allowsUpgrade = true) (valid : validateImage image = .ok hdr)
    (enough : progress.length < fuel) :
    Agrees hdr image progress result
        (dialogue fuel path stream status image progress result) ↔
      '\n' ∉ (versionStr hdr).toList := by
  rw [dialogue_eq allows valid enough]
  exact ⟨fun agrees feed => not_agrees_of_feed feed agrees, agrees_of_single⟩

/-! ## An image whose version ends with a line feed -/

/-- The version of a released image, in its field. -/
def releasedVersion : Bytes :=
  [0x37, 0x2e, 0x33, 0x2e, 0x32, 0x36, 0x31, 0x2e, 0x31, 0x5f, 0x76, 0x30, 0x31, 0x36, 0x0a] ++
    List.replicate 16 0

theorem feed_mem_versionStr {hdr : FwHeader} (released : hdr.version = releasedVersion) :
    '\n' ∈ (versionStr hdr).toList := by
  rw [versionStr, released]
  decide +kernel

/-- The client agrees on an image without a version. -/
theorem agrees_iff_blankImage : ∃ hdr, validateImage (blankImage 0x200000) = .ok hdr ∧
    (Agrees hdr (blankImage 0x200000) [⟨0, 0⟩, ⟨1, 50⟩] (.ok ⟨1, 0⟩)
      (dialogue 3 "fw.bin" 0 .idle (blankImage 0x200000) [⟨0, 0⟩, ⟨1, 50⟩] (.ok ⟨1, 0⟩)) ↔
        '\n' ∉ (versionStr hdr).toList) := by
  obtain ⟨hdr, valid⟩ := validateImage_smallest
  exact ⟨hdr, valid, agrees_iff 3 "fw.bin" 0 .idle (blankImage 0x200000) hdr [⟨0, 0⟩, ⟨1, 50⟩]
    (.ok ⟨1, 0⟩) rfl valid (by decide)⟩

/-- The client does not agree on an image whose version ends with a line feed. -/
theorem not_agrees_releasedVersion :
    ¬ ∀ (fuel : Nat) (path : String) (stream : Nat) (status : FwStatus) (image : Bytes)
      (hdr : FwHeader) (progress : List FwProgress) (result : Except String FwUpgradeResult),
      status.allowsUpgrade = true → validateImage image = .ok hdr → progress.length < fuel →
        Agrees hdr image progress result
          (dialogue fuel path stream status image progress result) := by
  intro claim
  obtain ⟨hdr, valid, version⟩ := validateImage_versionedImage
    (rfl : releasedVersion.length = 31)
    (by decide : minImageSize ≤ (0x200000 : UInt32).toNat) (by decide)
  have agrees := claim 1 "fw.bin" 0 .idle _ hdr [] (.ok ⟨1, 0⟩) rfl valid (by decide)
  rw [dialogue_eq rfl valid (by decide)] at agrees
  exact not_agrees_of_feed (feed_mem_versionStr version) agrees

end RbctlDsl.Dsl

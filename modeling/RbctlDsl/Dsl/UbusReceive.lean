import RbctlDsl.Lib.Framing
import RbctlDsl.Dsl.UbusTransport

/-!
# Receiving ubus frames

However the socket cuts the stream of a peer into reads, `recv` returns the frames of the
stream, one for each call, in their order.  The socket is a script of read results with the
end of the stream behind it; one call of `recv` plays it up to the next pause.
-/

namespace RbctlDsl.Dsl

open RbctlDsl.Lib RbctlDsl.Proto UnixUbusTransport

/-! ## Scripts -/

/-- One result of a read before the end of the stream. -/
inductive ReadResult where
  | data (bytes : Bytes)
  | wouldBlock
  | interrupted
  deriving DecidableEq, Repr

namespace ReadResult

def answer (room : Nat) : ReadResult → Except StreamError (Received room)
  | .data bytes => .ok ⟨bytes.take room, List.length_take_le _ _⟩
  | .wouldBlock => .error .wouldBlock
  | .interrupted => .error .interrupted

def bytes : ReadResult → Bytes
  | .data bytes => bytes
  | _ => []

/-- The stream that a script carries. -/
def payload (script : List ReadResult) : Bytes := script.flatMap bytes

/-- The calls that a script keeps waiting. -/
def pauses (script : List ReadResult) : Nat := script.count .wouldBlock

/-- What arrives before the next pause. -/
def burst : List ReadResult → Bytes
  | [] => []
  | .data bytes :: rest => bytes ++ burst rest
  | .wouldBlock :: _ => []
  | .interrupted :: rest => burst rest

def afterPause : List ReadResult → List ReadResult
  | [] => []
  | .data _ :: rest => afterPause rest
  | .wouldBlock :: rest => rest
  | .interrupted :: rest => afterPause rest

/-- What arrives for each of the first calls. -/
def bursts (script : List ReadResult) (calls : Nat) : List Bytes :=
  (List.range calls).map fun call => burst (afterPause^[call] script)

/-- What has arrived after some calls. -/
def delivered (script : List ReadResult) (calls : Nat) : Bytes := (bursts script calls).flatten

/-- Reads of the sizes that a socket may give for the buffer of `fill_rx`. -/
def ReadSizes (script : List ReadResult) : Prop :=
  ∀ bytes, .data bytes ∈ script → 0 < bytes.length ∧ bytes.length ≤ rxChunkSize

@[simp] theorem pauses_data (bytes : Bytes) (rest : List ReadResult) :
    pauses (.data bytes :: rest) = pauses rest := List.count_cons_of_ne (by simp)

@[simp] theorem pauses_wouldBlock (rest : List ReadResult) :
    pauses (.wouldBlock :: rest) = pauses rest + 1 := List.count_cons_self

@[simp] theorem pauses_interrupted (rest : List ReadResult) :
    pauses (.interrupted :: rest) = pauses rest := List.count_cons_of_ne (by simp)

theorem payload_eq (script : List ReadResult) :
    payload script = burst script ++ payload (afterPause script) := by
  induction script with
  | nil => rfl
  | cons result rest ih =>
      cases result with
      | data bytes =>
          rw [burst, afterPause, List.append_assoc, ← ih]
          rfl
      | wouldBlock => rfl
      | interrupted => exact ih

theorem pauses_afterPause (script : List ReadResult) :
    pauses (afterPause script) = pauses script - 1 := by
  induction script with
  | nil => rfl
  | cons result rest ih => cases result <;> simp [afterPause, ih]

theorem pauses_iterate (script : List ReadResult) (calls : Nat) :
    pauses (afterPause^[calls] script) = pauses script - calls := by
  induction calls with
  | zero => rfl
  | succ calls ih => rw [Function.iterate_succ_apply', pauses_afterPause, ih, Nat.sub_sub]

theorem afterPause_eq_nil {script : List ReadResult} (ended : pauses script = 0) :
    afterPause script = [] := by
  induction script with
  | nil => rfl
  | cons result rest ih =>
      cases result with
      | data bytes | interrupted => exact ih (by simpa using ended)
      | wouldBlock => simp at ended

theorem afterPause_suffix (script : List ReadResult) : afterPause script <:+ script := by
  induction script with
  | nil => exact List.suffix_rfl
  | cons result rest ih =>
      cases result with
      | wouldBlock => exact List.suffix_cons _ _
      | data bytes | interrupted => exact ih.trans (List.suffix_cons _ _)

theorem iterate_suffix (script : List ReadResult) (calls : Nat) :
    afterPause^[calls] script <:+ script := by
  induction calls with
  | zero => exact List.suffix_rfl
  | succ calls ih =>
      rw [Function.iterate_succ_apply']
      exact (afterPause_suffix _).trans ih

theorem bursts_succ (script : List ReadResult) (calls : Nat) :
    bursts script (calls + 1) = bursts script calls ++ [burst (afterPause^[calls] script)] := by
  simp [bursts, List.range_succ]

theorem delivered_succ (script : List ReadResult) (calls : Nat) :
    delivered script (calls + 1) =
      delivered script calls ++ burst (afterPause^[calls] script) := by
  simp [delivered, bursts_succ]

theorem ReadSizes.mono {script rest : List ReadResult} (sizes : ReadSizes script)
    (later : rest <:+ script) : ReadSizes rest :=
  fun bytes member => sizes bytes (later.subset member)

end ReadResult

open ReadResult

/-- The reads made so far. -/
def readsIn (history : History unixStream) : Nat :=
  history.countP fun event => match event.op with
    | .read _ => true
    | _ => false

/-- The socket answers its reads as the script says, and reports the end of the stream
behind it. -/
def Plays (oracle : Oracle unixStream) (script : List ReadResult) : Prop :=
  ∀ history room, oracle history (.read room) =
    match script[readsIn history]? with
    | some result => result.answer room
    | none => .ok ⟨[], Nat.zero_le _⟩

/-- The script from the next read on. -/
def upcoming (script : List ReadResult) (history : History unixStream) : List ReadResult :=
  script.drop (readsIn history)

section Playing

variable {oracle : Oracle unixStream} {script rest : List ReadResult}
  {history : History unixStream} {Frame : Type} {codec : UbusCodec Frame}
  {transport : UnixUbusTransport} {fuel : Nat}

@[simp] theorem upcoming_read (script : List ReadResult) (history : History unixStream)
    (room : Nat) (answer : Except StreamError (Received room)) :
    upcoming script (history ++ [⟨.read room, answer⟩]) = (upcoming script history).tail := by
  simp [upcoming, readsIn]

theorem answer_of_upcoming (plays : Plays oracle script) {result : ReadResult}
    (ahead : upcoming script history = result :: rest) (room : Nat) :
    oracle history (.read room) = result.answer room := by
  have here : script[readsIn history]? = some result := by
    rw [← List.head?_drop]
    exact congrArg List.head? ahead
  rw [plays, here]

theorem closed_of_upcoming (plays : Plays oracle script) (ahead : upcoming script history = [])
    (room : Nat) : oracle history (.read room) = .ok ⟨[], Nat.zero_le _⟩ := by
  have past : script[readsIn history]? = none := by
    rw [← List.head?_drop]
    exact congrArg List.head? ahead
  rw [plays, past]

theorem exec_fillPass_data {chunk : Received rxChunkSize} {bytes : Bytes}
    (given : oracle history (.read rxChunkSize) = .ok chunk) (holds : chunk.data = bytes)
    (nonempty : 0 < bytes.length)
    (fits : transport.rxBuf.length + bytes.length ≤ rxBufCap codec) :
    ((fillPass codec ()) transport).exec oracle history =
      ⟨[⟨.read rxChunkSize, .ok chunk⟩],
        .returned (.ok (.inl ()), ⟨transport.rxBuf ++ bytes⟩)⟩ := by
  subst holds
  rw [fillPass, Method.exec_perform_bind _ given]
  simp [List.length_pos_iff.mp nonempty, Nat.not_lt.mpr fits]

theorem exec_fillPass_closed {empty : Received rxChunkSize} (nothing : empty.data = [])
    (given : oracle history (.read rxChunkSize) = .ok empty) :
    ((fillPass codec ()) transport).exec oracle history =
      ⟨[⟨.read rxChunkSize, .ok empty⟩], .returned (.ok (.inr true), transport)⟩ := by
  rw [fillPass, Method.exec_perform_bind _ given]
  simp [nothing]

theorem exec_fillPass_wouldBlock
    (given : oracle history (.read rxChunkSize) = .error .wouldBlock) :
    ((fillPass codec ()) transport).exec oracle history =
      ⟨[⟨.read rxChunkSize, .error .wouldBlock⟩], .returned (.ok (.inr false), transport)⟩ := by
  rw [fillPass, Method.exec_perform_bind _ given]
  rfl

theorem exec_fillPass_interrupted
    (given : oracle history (.read rxChunkSize) = .error .interrupted) :
    ((fillPass codec ()) transport).exec oracle history =
      ⟨[⟨.read rxChunkSize, .error .interrupted⟩], .returned (.ok (.inl ()), transport)⟩ := by
  rw [fillPass, Method.exec_perform_bind _ given]
  rfl

theorem exec_fillRx_again {answer : Except StreamError (Received rxChunkSize)}
    {next : UnixUbusTransport} {events : History unixStream}
    {outcome : Outcome (Except UbusError Bool × UnixUbusTransport)}
    (pass : ((fillPass codec ()) transport).exec oracle history =
      ⟨[⟨.read rxChunkSize, answer⟩], .returned (.ok (.inl ()), next)⟩)
    (rest : ((fillRx codec fuel) next).exec oracle (history ++ [⟨.read rxChunkSize, answer⟩]) =
      ⟨events, outcome⟩) :
    ((fillRx codec (fuel + 1)) transport).exec oracle history =
      ⟨[⟨.read rxChunkSize, answer⟩] ++ events, outcome⟩ := by
  rw [fillRx] at rest ⊢
  rw [Method.exec_iterate_again pass, rest]

/-- One `fill_rx` takes in what arrives before the next pause, and notices the end. -/
theorem exec_fillRx (plays : Plays oracle script) (ahead : upcoming script history = rest)
    (sizes : ReadSizes rest) (enough : rest.length < fuel)
    (fits : transport.rxBuf.length + (burst rest).length ≤ rxBufCap codec) :
    ∃ events, ((fillRx codec fuel) transport).exec oracle history =
        ⟨events, .returned (.ok (decide (pauses rest = 0)),
          ⟨transport.rxBuf ++ burst rest⟩)⟩ ∧
      upcoming script (history ++ events) = afterPause rest := by
  induction rest generalizing history transport fuel with
  | nil =>
      obtain ⟨fuel, rfl⟩ := Nat.exists_eq_succ_of_ne_zero (Nat.ne_zero_of_lt enough)
      have given := closed_of_upcoming plays ahead rxChunkSize
      refine ⟨[⟨.read rxChunkSize, .ok ⟨[], Nat.zero_le _⟩⟩], ?_, by rw [upcoming_read, ahead]; rfl⟩
      rw [fillRx, Method.exec_iterate_leave (exec_fillPass_closed rfl given), burst,
        List.append_nil]
      rfl
  | cons result rest ih =>
      obtain ⟨fuel, rfl⟩ := Nat.exists_eq_succ_of_ne_zero (Nat.ne_zero_of_lt enough)
      have enough := Nat.lt_of_succ_lt_succ enough
      have given := answer_of_upcoming plays ahead rxChunkSize
      have behind : ∀ answer, upcoming script (history ++ [⟨.read rxChunkSize, answer⟩]) = rest :=
        fun answer => by rw [upcoming_read, ahead, List.tail_cons]
      have goOn := fun answer transport =>
        @ih (history ++ [⟨.read rxChunkSize, answer⟩]) transport fuel (behind answer)
          (sizes.mono (List.suffix_cons result rest)) enough
      cases result with
      | data bytes =>
          obtain ⟨nonempty, short⟩ := sizes bytes List.mem_cons_self
          rw [burst, List.length_append] at fits
          have pass := @exec_fillPass_data oracle history Frame codec transport _ _ given
            (List.take_of_length_le short) nonempty (by omega)
          obtain ⟨events, filled, ended⟩ := goOn _ ⟨transport.rxBuf ++ bytes⟩
            (by rw [List.length_append]; omega)
          refine ⟨_, (exec_fillRx_again pass filled).trans ?_,
            by rw [← List.append_assoc, ended]; rfl⟩
          simp [burst]
      | wouldBlock =>
          refine ⟨_, ?_, behind (.error .wouldBlock)⟩
          rw [fillRx, Method.exec_iterate_leave (exec_fillPass_wouldBlock given), burst,
            List.append_nil]
          simp
      | interrupted =>
          obtain ⟨events, filled, ended⟩ := goOn _ transport fits
          refine ⟨_, (exec_fillRx_again (exec_fillPass_interrupted given) filled).trans ?_,
            by rw [← List.append_assoc, ended]; rfl⟩
          simp [burst]

/-! ## One call -/

/-- What is relied on of the codec: it returns the first frame of a buffer and its length if
that frame is complete, and `Short` if the buffer has to go on. -/
structure UbusCodec.Lawful (codec : UbusCodec Frame) : Prop where
  first : ∀ frame rest, codec.readFrame (codec.writeFrame frame ++ rest) =
    .ok (frame, (codec.writeFrame frame).length)
  short : ∀ bytes, Incomplete codec.writeFrame bytes → codec.readFrame bytes = .error .short

theorem UbusCodec.Lawful.prefixCode (lawful : codec.Lawful) : PrefixCode codec.writeFrame where
  nonempty := by
    intro frame empty
    have complete := lawful.first frame []
    rw [empty, List.append_nil, lawful.short [] (.inl rfl)] at complete
    cases complete
  unique := by
    intro frame other rest rest' same
    have read := lawful.first frame rest
    rw [same, lawful.first other rest'] at read
    exact (congrArg Prod.fst (Except.ok.inj read)).symm

/-- The result of a call for which `pauses` calls are still kept waiting, by the inbox in
which the burst of this call has arrived and the inbox it leaves. -/
inductive Answered (codec : UbusCodec Frame) (pauses : Nat)
    (inbox after : Inbox Frame UInt8) : Except UbusError (Option Frame) → Prop where
  | frame (frame : Frame) (next : inbox.pending = frame :: after.pending)
      (taken : after.returned = inbox.returned ++ [frame]) :
      Answered codec pauses inbox after (.ok (some frame))
  | idle (waits : 0 < pauses) (same : after = inbox)
      (incomplete : Incomplete codec.writeFrame inbox.buffered) :
      Answered codec pauses inbox after (.ok none)
  | closed (ended : pauses = 0) (same : after = inbox) (done : inbox.pending = []) :
      Answered codec pauses inbox after (.error .closed)

theorem exec_recv (lawful : codec.Lawful) {frames : List Frame} {tail arrived : Bytes}
    {inbox : Inbox Frame UInt8} (broken : Incomplete codec.writeFrame tail)
    (plays : Plays oracle script) (ahead : upcoming script history = rest)
    (sizes : ReadSizes rest) (enough : rest.length < fuel)
    (reads : inbox.Reads codec.writeFrame frames tail arrived (payload rest))
    (fits : (inbox.arrive (burst rest)).buffered.length ≤ rxBufCap codec) :
    ∃ events result, ((recv codec fuel) ⟨inbox.buffered⟩).exec oracle history =
        ⟨events, .returned (result,
          ⟨((inbox.arrive (burst rest)).collect codec.writeFrame).buffered⟩)⟩ ∧
      upcoming script (history ++ events) = afterPause rest ∧
      Answered codec (pauses rest) (inbox.arrive (burst rest))
        ((inbox.arrive (burst rest)).collect codec.writeFrame) result := by
  obtain ⟨events, filled, behind⟩ : ∃ events,
      ((fillRx codec fuel) ⟨inbox.buffered⟩).exec oracle history =
        ⟨events, .returned (.ok (decide (pauses rest = 0)),
          ⟨(inbox.arrive (burst rest)).buffered⟩)⟩ ∧
        upcoming script (history ++ events) = afterPause rest :=
    exec_fillRx plays ahead sizes enough (by rwa [← List.length_append])
  rw [recv, Method.exec_bind_ok _ (Method.exec_attempt filled)]
  rw [payload_eq rest] at reads
  rcases reads.arrive.collect_cases lawful.prefixCode broken with
    ⟨frame, later, more, waiting, front, collected, -⟩ | ⟨unchanged, incomplete, ended⟩
  · refine ⟨events, .ok (some frame), ?_, behind, ?_⟩
    · rw [front, collected]
      simp [lawful.first, drain]
    · rw [collected]
      exact .frame frame waiting rfl
  · have short := lawful.short _ incomplete
    rw [unchanged]
    by_cases last : pauses rest = 0
    · refine ⟨events, .error .closed, by simp [short, last], behind, .closed last rfl ?_⟩
      exact ended (by rw [afterPause_eq_nil last]; rfl)
    · refine ⟨events, .ok none, by simp [short, last], behind, ?_⟩
      exact .idle (Nat.pos_of_ne_zero last) rfl incomplete

/-! ## Many calls -/

/-- `recv` called again and again, with what every call returned. -/
def receives (codec : UbusCodec Frame) (fuel : Nat) : Nat →
    Method unixStream UnixUbusTransport UbusError (List (Except UbusError (Option Frame)))
  | 0 => pure []
  | calls + 1 => do
      let results ← receives codec fuel calls
      let result ← Method.attempt (recv codec fuel)
      pure (results ++ [result])

/-- The frames that calls of `recv` returned. -/
def yielded (results : List (Except UbusError (Option Frame))) : List Frame :=
  results.filterMap fun result => match result with
    | .ok frame => frame
    | .error _ => none

theorem yielded_append (results later : List (Except UbusError (Option Frame))) :
    yielded (results ++ later) = yielded results ++ yielded later :=
  List.filterMap_append

section Answers

variable {inbox after : Inbox Frame UInt8} {result : Except UbusError (Option Frame)} {waits : Nat}

theorem Answered.returned (answered : Answered codec waits inbox after result) :
    after.returned = inbox.returned ++ yielded [result] := by
  cases answered with
  | frame frame next taken => exact taken
  | idle waits same incomplete =>
      rw [same]
      exact (List.append_nil _).symm
  | closed ended same done =>
      rw [same]
      exact (List.append_nil _).symm

/-- A call returns a frame or uses up one of the pauses. -/
theorem Answered.left (answered : Answered codec waits inbox after result) {all calls total : Nat}
    (ahead : waits = all - calls) (order : inbox.pending.length ≤ total)
    (left : inbox.pending.length ≤ all + total - calls) :
    after.pending.length ≤ all + total - (calls + 1) := by
  cases answered with
  | frame frame next taken =>
      have shorter := congrArg List.length next
      rw [List.length_cons] at shorter
      omega
  | idle waits same incomplete =>
      rw [same]
      omega
  | closed ended same done =>
      rw [same, done]
      exact Nat.zero_le _

end Answers

/-- The stream's inbox after some calls. -/
def inboxAfter (codec : UbusCodec Frame) (frames : List Frame) (script : List ReadResult)
    (calls : Nat) : Inbox Frame UInt8 :=
  Inbox.after codec.writeFrame ⟨[], frames, []⟩ (bursts script calls)

theorem inboxAfter_succ (frames : List Frame) (script : List ReadResult) (calls : Nat) :
    inboxAfter codec frames script (calls + 1) =
      ((inboxAfter codec frames script calls).arrive (burst (afterPause^[calls] script))).collect
        codec.writeFrame := by
  rw [inboxAfter, bursts_succ, Inbox.after_concat]
  rfl

/-- What the results before it say of a result.  `Ok(None)`: a pause cut the reading short,
and what is left of the bytes that arrived begins with no complete frame.  `Closed`: the
reading got to the end of the stream, and every frame has been returned. -/
def Justified (codec : UbusCodec Frame) (frames : List Frame) (script : List ReadResult)
    (before : List (Except UbusError (Option Frame))) :
    Except UbusError (Option Frame) → Prop
  | .ok (some _) => True
  | .ok none => before.length < pauses script ∧ ∃ undecoded,
      delivered script (before.length + 1) =
        (yielded before).flatMap codec.writeFrame ++ undecoded ∧
      ∀ frame, ¬ codec.writeFrame frame <+: undecoded
  | .error .closed => pauses script ≤ before.length ∧ yielded before = frames
  | .error _ => False

/-- What calls of `recv` return of a stream of `frames`. -/
structure Framed (codec : UbusCodec Frame) (frames : List Frame) (script : List ReadResult)
    (results : List (Except UbusError (Option Frame))) : Prop where
  inOrder : yielded results <+: frames
  justified : ∀ before result, before ++ [result] <+: results →
    Justified codec frames script before result
  complete : pauses script + frames.length ≤ results.length → yielded results = frames

/-- The results of the first calls, beside the inbox of the stream. -/
structure FollowsInbox (codec : UbusCodec Frame) (frames : List Frame) (tail : Bytes)
    (script : List ReadResult) (results : List (Except UbusError (Option Frame)))
    (inbox : Inbox Frame UInt8) : Prop where
  yields : yielded results = inbox.returned
  reads : inbox.Reads codec.writeFrame frames tail (delivered script results.length)
    (payload (afterPause^[results.length] script))
  justified : ∀ before result, before ++ [result] <+: results →
    Justified codec frames script before result
  left : inbox.pending.length ≤ pauses script + frames.length - results.length

theorem FollowsInbox.framed {frames : List Frame} {tail : Bytes} {inbox : Inbox Frame UInt8}
    {results : List (Except UbusError (Option Frame))}
    (follows : FollowsInbox codec frames tail script results inbox) :
    Framed codec frames script results where
  inOrder := ⟨inbox.pending, by rw [follows.yields, follows.reads.order]⟩
  justified := follows.justified
  complete := by
    intro enough
    have none_left : inbox.pending = [] := by
      have left := follows.left
      rw [Nat.sub_eq_zero_of_le enough] at left
      exact List.length_eq_zero_iff.mp (Nat.le_zero.mp left)
    rw [follows.yields, ← follows.reads.order, none_left, List.append_nil]

theorem FollowsInbox.justifies (lawful : codec.Lawful) {frames : List Frame} {tail : Bytes}
    {inbox : Inbox Frame UInt8} {results : List (Except UbusError (Option Frame))}
    {result : Except UbusError (Option Frame)}
    (follows : FollowsInbox codec frames tail script results inbox)
    (reads : (inbox.arrive (burst rest)).Reads codec.writeFrame frames tail
      (delivered script (results.length + 1)) (payload (afterPause rest)))
    (ahead : pauses rest = pauses script - results.length)
    (answered : Answered codec (pauses rest) (inbox.arrive (burst rest))
      ((inbox.arrive (burst rest)).collect codec.writeFrame) result) :
    Justified codec frames script results result := by
  cases answered with
  | frame frame next taken => trivial
  | idle waits same incomplete =>
      rw [ahead] at waits
      refine ⟨Nat.lt_of_sub_pos waits, _, ?_,
        lawful.prefixCode.not_prefix_of_incomplete incomplete⟩
      rw [follows.yields]
      exact reads.kept.symm
  | closed ended same done =>
      rw [ahead] at ended
      refine ⟨Nat.le_of_sub_eq_zero ended, ?_⟩
      rw [follows.yields, ← reads.order, done, List.append_nil]
      rfl

/-- One more call keeps the results in step. -/
theorem FollowsInbox.snoc (lawful : codec.Lawful) {frames : List Frame} {tail : Bytes}
    {inbox : Inbox Frame UInt8} {results : List (Except UbusError (Option Frame))}
    {result : Except UbusError (Option Frame)} (broken : Incomplete codec.writeFrame tail)
    (follows : FollowsInbox codec frames tail script results inbox)
    (ahead : afterPause^[results.length] script = rest)
    (answered : Answered codec (pauses rest) (inbox.arrive (burst rest))
      ((inbox.arrive (burst rest)).collect codec.writeFrame) result) :
    FollowsInbox codec frames tail script (results ++ [result])
      ((inbox.arrive (burst rest)).collect codec.writeFrame) := by
  subst ahead
  have waiting := pauses_iterate script results.length
  have reads := follows.reads
  rw [payload_eq] at reads
  have arrived := reads.arrive
  rw [← delivered_succ] at arrived
  have total : inbox.pending.length ≤ frames.length := by
    rw [← follows.reads.order, List.length_append]
    exact Nat.le_add_left _ _
  constructor
  · rw [yielded_append, follows.yields, answered.returned]
    rfl
  · rw [List.length_append, List.length_singleton, Function.iterate_succ_apply']
    exact arrived.collect lawful.prefixCode broken
  · intro before later inside
    rcases List.prefix_concat_iff.mp inside with last | earlier
    · obtain ⟨rfl, same⟩ := List.append_inj' last rfl
      cases same
      exact follows.justifies lawful arrived waiting answered
    · exact follows.justified before later earlier
  · rw [List.length_append, List.length_singleton]
    exact answered.left waiting total follows.left

theorem exec_receives (lawful : codec.Lawful) {frames : List Frame} {tail : Bytes}
    (broken : Incomplete codec.writeFrame tail) (plays : Plays oracle script)
    (sizes : ReadSizes script) (stream : payload script = frames.flatMap codec.writeFrame ++ tail)
    (enough : script.length < fuel) (calls : Nat)
    (fits : Inbox.Fits codec.writeFrame (rxBufCap codec) ⟨[], frames, []⟩
      (bursts script calls)) :
    ∃ events results, ((receives codec fuel calls) connected).exec oracle [] =
        ⟨events, .returned (.ok results, ⟨(inboxAfter codec frames script calls).buffered⟩)⟩ ∧
      results.length = calls ∧ upcoming script events = afterPause^[calls] script ∧
      FollowsInbox codec frames tail script results (inboxAfter codec frames script calls) := by
  induction calls with
  | zero =>
      refine ⟨[], [], rfl, rfl, rfl, rfl, Inbox.Reads.start stream, ?_, Nat.le_add_left _ _⟩
      intro before result inside
      simp at inside
  | succ calls ih =>
      rw [bursts_succ] at fits
      obtain ⟨fitsBefore, fitsNow⟩ := fits.of_concat
      obtain ⟨events, results, before, count, ahead, follows⟩ := ih fitsBefore
      subst count
      have later := iterate_suffix script results.length
      obtain ⟨callEvents, result, called, behind, answered⟩ :=
        exec_recv lawful broken plays ahead (sizes.mono later)
          (Nat.lt_of_le_of_lt later.length_le enough) follows.reads fitsNow
      refine ⟨events ++ callEvents, results ++ [result], ?_, by simp, ?_, ?_⟩
      · rw [receives, Method.exec_bind_ok _ before, List.nil_append,
          Method.exec_bind_ok _ (Method.exec_attempt called), ← inboxAfter_succ]
        simp
      · rw [behind, Function.iterate_succ_apply']
      · rw [inboxAfter_succ]
        exact follows.snoc lawful broken rfl answered

/-- However the socket cuts a stream of frames into reads, calls of `recv` return the frames of
the stream in order; a call returns nothing only while no complete frame is there, and
`Closed` only at the end with every frame returned. -/
theorem framed_receives (lawful : codec.Lawful) {frames : List Frame} {tail : Bytes}
    (broken : Incomplete codec.writeFrame tail) (plays : Plays oracle script)
    (sizes : ReadSizes script) (stream : payload script = frames.flatMap codec.writeFrame ++ tail)
    (enough : script.length < fuel) (calls : Nat)
    (fits : Inbox.Fits codec.writeFrame (rxBufCap codec) ⟨[], frames, []⟩
      (bursts script calls)) :
    ∃ results transport, (((receives codec fuel calls) connected).exec oracle []).outcome =
        .returned (.ok results, transport) ∧
      results.length = calls ∧ Framed codec frames script results ∧
      (yielded results).flatMap codec.writeFrame ++ transport.rxBuf = delivered script calls := by
  obtain ⟨events, results, ran, count, -, follows⟩ :=
    exec_receives lawful broken plays sizes stream enough calls fits
  subst count
  refine ⟨results, _, congrArg Run.outcome ran, rfl, follows.framed, ?_⟩
  rw [follows.yields]
  exact follows.reads.kept

end Playing

/-! ## Two messages and part of a third -/

theorem lawful_emptyMessages : emptyMessages.Lawful where
  first := by
    intro header rest
    have seq := be16_beBytes16 header.seq
    have peer := be32_beBytes32 header.peer
    dsimp only [emptyMessages, beBytes16, beBytes32, List.cons_append, List.nil_append]
    rw [if_pos (by decide), seq, peer]
    rfl
  short := by
    rintro bytes (rfl | ⟨header, rest, inside, split⟩)
    · rfl
    · have total := congrArg List.length split
      have positive := List.length_pos_iff.mpr inside
      rw [List.length_append] at total
      change _ = 12 at total
      dsimp only [emptyMessages]
      split
      · simp only [List.length_cons] at total
        omega
      · rfl

/-- The socket that plays a script, and takes no write. -/
def playing (script : List ReadResult) : Oracle unixStream := fun history op =>
  match op with
  | .read room =>
      match script[readsIn history]? with
      | some result => result.answer room
      | none => .ok ⟨[], Nat.zero_le _⟩
  | .write _ => .error .wouldBlock
  | .now => 0
  | .sleep _ => ()

theorem plays_playing (script : List ReadResult) : Plays (playing script) script :=
  fun _ _ => rfl

def twoHeaders : List UbusHeader := [⟨0, 1, 7⟩, ⟨4, 2, 7⟩]

def cutMessages : List ReadResult :=
  let bytes := twoHeaders.flatMap emptyMessages.writeFrame
  [.interrupted, .data (bytes.take 5), .wouldBlock, .data (bytes.drop 5 ++ [0, 1, 2])]

theorem framed_receives_cutMessages :
    ∃ results transport, (((receives emptyMessages 5 4) connected).exec
        (playing cutMessages) []).outcome = .returned (.ok results, transport) ∧
      results.length = 4 ∧ Framed emptyMessages twoHeaders cutMessages results ∧
      (yielded results).flatMap emptyMessages.writeFrame ++ transport.rxBuf =
        delivered cutMessages 4 := by
  have broken : Incomplete emptyMessages.writeFrame [0, 1, 2] :=
    .inr ⟨⟨1, 512, 0⟩, [0, 0, 0, 0, 0, 0, 0, 0, 4], by decide, by decide⟩
  have sizes : ReadSizes cutMessages := by
    intro bytes member
    simp only [cutMessages, List.mem_cons, reduceCtorEq, false_or, ReadResult.data.injEq,
      List.not_mem_nil, or_false] at member
    rcases member with rfl | rfl <;> decide
  exact framed_receives lawful_emptyMessages broken (plays_playing cutMessages) sizes
    (by decide) (by decide) 4 (Inbox.fits_of_length_le _ _ (by decide))

end RbctlDsl.Dsl

import RbctlDsl.Dsl.RequestTrace

/-!
# Sessions of calls

Many calls of `Board::request` on one board, over a channel that may drop, delay, duplicate
and reorder what the remote board sends.  Each call has a sequence number of its own, so
a late answer to an earlier call is never taken for an answer to a later one.
-/

namespace RbctlDsl.Dsl

open RbctlDsl.Lib RbctlDsl.Proto Board

/-- The arguments of one call, and the retry budget it finds. -/
structure Call where
  subtype : UInt8
  payload : Bytes
  retries : UInt8

/-- One call that was made: what had happened before it, and its run. -/
structure CallRecord where
  call : Call
  before : History transport
  run : Run transport (Except BoardError Bytes × Board)

/-- The calls of a session, one after the other.  A call that does not return ends it. -/
def session (fuel : Nat) (oracle : Oracle transport) :
    List Call → Board → History transport → List CallRecord
  | [], _, _ => []
  | call :: calls, board, history =>
      let run := (request fuel call.subtype call.payload
        { board with retries := call.retries }).exec oracle history
      ⟨call, history, run⟩ ::
        match run.outcome with
        | .returned (_, after) => session fuel oracle calls after (history ++ run.events)
        | _ => []

/-! ## The other side -/

/-- A response to a command: it copies the subtype and the sequence number, and its checksum
is right. -/
def RespondsTo (command reply : WireFrame) : Prop :=
  reply.magic = magicResponse ∧ reply.subtype = command.subtype ∧ reply.seq = command.seq ∧
    reply.stored = reply.checksum

/-- The board at the other end: the responses it may build for a command. -/
structure RemoteBoard where
  produces : WireFrame → WireFrame → Prop
  copies : ∀ {command reply}, produces command reply → RespondsTo command reply

/-- A frame that was handed to the socket. -/
def Sent (events : History transport) (command : WireFrame) : Prop :=
  ∃ answer, (⟨.send command.bytes, answer⟩ : Event transport) ∈ events

/-- What may be received: the echo of a frame sent before, or a response that the board
built for a command sent before.  Nothing is said about when, in which order or how often.
A frame that is longer than the buffer is cut. -/
def channel (remote : RemoteBoard) (before : History transport) : Event transport → Prop
  | ⟨.recvInto capacity, .ok packet⟩ => ∃ frame : WireFrame,
      packet.data = frame.bytes.take capacity ∧
        (Sent before frame ∨ ∃ command, Sent before command ∧ remote.produces command frame)
  | _ => True

/-- The channel keeps to this in every call of a session. -/
def ChannelKept (remote : RemoteBoard) (records : List CallRecord) : Prop :=
  ∀ record ∈ records, Along (channel remote) record.before record.run.events

/-! ## Sequence numbers -/

/-- The sequence number of the call at a position. -/
def number (board : Board) (position : Nat) : UInt32 :=
  board.seq.last + UInt32.ofNat (position + 1)

theorem number_succ (board : Board) (retries : UInt8) (position : Nat) :
    number { board with seq := board.seq.next, retries := retries } position =
      number board (position + 1) := by
  apply UInt32.toNat_inj.mp
  simp only [number, SeqCounter.next, UInt32.toNat_add, UInt32.toNat_ofNat', UInt32.toNat_one]
  omega

theorem number_injective (board : Board) {left right : Nat} (leftBound : left < 4294967295)
    (rightBound : right < 4294967295) (equal : number board left = number board right) :
    left = right := by
  have words := congrArg UInt32.toNat equal
  simp only [number, UInt32.toNat_add, UInt32.toNat_ofNat'] at words
  omega

/-- What one call of a session does: every transmission is the same frame under the call's
number, and a payload it returns is that of a packet accepted for this number. -/
structure CallSpec (board : Board) (position : Nat) (record : CallRecord) : Prop where
  sends : ∀ data answer, (⟨.send data, answer⟩ : Event transport) ∈ record.run.events →
    ∃ fits, data = (transmitted record.call.subtype (number board position) board.mac
      record.call.payload fits).bytes
  accepts : ∀ payload after, record.run.outcome = .returned (.ok payload, after) →
    FromAccepted record.call.subtype (number board position) record.run.events payload

section Session

variable {fuel : Nat} {oracle : Oracle transport} {board : Board}
  {history : History transport}

/-- The first call of a session, and the board it leaves behind. -/
theorem callSpec_request (fuel : Nat) (oracle : Oracle transport) (board : Board)
    (history : History transport) (call : Call) :
    CallSpec board 0 ⟨call, history, (request fuel call.subtype call.payload
      { board with retries := call.retries }).exec oracle history⟩ ∧
    ∀ result after, ((request fuel call.subtype call.payload
      { board with retries := call.retries }).exec oracle history).outcome =
        .returned (result, after) →
      after = { board with seq := board.seq.next, retries := call.retries } := by
  by_cases fits : fitsTxBuf call.payload
  · have kept := (safe_request fuel call.subtype call.payload
      { board with retries := call.retries } history fits).exec
        (along_true history ((request fuel call.subtype call.payload
          { board with retries := call.retries }).exec oracle history).events)
    refine ⟨⟨?_, ?_⟩, ?_⟩
    · intro data answer member
      have same := eq_transmitted fits member
      exact ⟨fits, same⟩
    · intro payload after returned
      have ended := kept.2
      rw [returned] at ended
      obtain ⟨_, events, split, found⟩ := ended
      rw [List.append_cancel_left split]
      exact found payload rfl
    · intro result after returned
      have ended := kept.2
      rw [returned] at ended
      exact ended.1
  · rw [request_panics fuel call.subtype call.payload _ fits]
    refine ⟨⟨?_, ?_⟩, ?_⟩
    · intro data answer member
      cases member
    · intro payload after returned
      cases returned
    · intro result after returned
      cases returned

/-- The record of the first call of a session. -/
def firstRecord (fuel : Nat) (oracle : Oracle transport) (call : Call) (board : Board)
    (history : History transport) : CallRecord :=
  ⟨call, history, (request fuel call.subtype call.payload
    { board with retries := call.retries }).exec oracle history⟩

/-- A session is its first record, and the session that goes on from there, if any. -/
theorem session_cons (fuel : Nat) (oracle : Oracle transport) (board : Board)
    (history : History transport) (call : Call) (calls : List Call) :
    ∃ rest, session fuel oracle (call :: calls) board history =
        firstRecord fuel oracle call board history :: rest ∧
      (rest = [] ∨ rest = session fuel oracle calls
        { board with seq := board.seq.next, retries := call.retries }
        (history ++ (firstRecord fuel oracle call board history).run.events)) := by
  have leaves := (callSpec_request fuel oracle board history call).2
  refine ⟨_, rfl, ?_⟩
  split
  next result after returned =>
      rw [leaves result after returned]
      exact .inr rfl
  next => exact .inl rfl

theorem callSpec_of_session {calls : List Call} {position : Nat} {record : CallRecord}
    (found : (session fuel oracle calls board history)[position]? = some record) :
    CallSpec board position record := by
  induction calls generalizing board history position with
  | nil => cases found
  | cons call calls ih =>
      obtain ⟨rest, split, goesOn⟩ := session_cons fuel oracle board history call calls
      rw [split] at found
      cases position with
      | zero =>
          cases found
          exact (callSpec_request fuel oracle board history call).1
      | succ position =>
          rw [List.getElem?_cons_succ] at found
          rcases goesOn with rfl | rfl
          · cases found
          · have spec := ih found
            exact ⟨by simpa only [number_succ] using spec.sends,
              by simpa only [number_succ] using spec.accepts⟩

/-- What had happened before a call is what happened in the calls before it. -/
theorem mem_before_of_session {calls : List Call} {position : Nat} {record : CallRecord}
    {event : Event transport}
    (found : (session fuel oracle calls board history)[position]? = some record)
    (member : event ∈ record.before) :
    event ∈ history ∨ ∃ earlier < position, ∃ other,
      (session fuel oracle calls board history)[earlier]? = some other ∧
        event ∈ other.run.events := by
  induction calls generalizing board history position with
  | nil => cases found
  | cons call calls ih =>
      obtain ⟨rest, split, goesOn⟩ := session_cons fuel oracle board history call calls
      rw [split] at found ⊢
      cases position with
      | zero =>
          cases found
          exact .inl member
      | succ position =>
          rw [List.getElem?_cons_succ] at found
          rcases goesOn with rfl | rfl
          · cases found
          · rcases ih found with old | ⟨earlier, before, other, isOther, inOther⟩
            · rcases List.mem_append.mp old with old | first
              · exact .inl old
              · exact .inr ⟨0, Nat.succ_pos _, _, rfl, first⟩
            · exact .inr ⟨earlier + 1, Nat.succ_lt_succ before, other, isOther, inOther⟩

theorem length_session_le (fuel : Nat) (oracle : Oracle transport) (board : Board)
    (history : History transport) (calls : List Call) :
    (session fuel oracle calls board history).length ≤ calls.length := by
  induction calls generalizing board history with
  | nil => exact Nat.le_refl _
  | cons call calls ih =>
      obtain ⟨rest, split, goesOn⟩ := session_cons fuel oracle board history call calls
      rw [split]
      rcases goesOn with rfl | rfl
      · exact Nat.succ_le_succ (Nat.zero_le _)
      · exact Nat.succ_le_succ (ih _ _)

end Session

/-! ## Answers -/

/-- The number of a frame that a call has sent. -/
theorem CallSpec.seq_of_sent {board : Board} {position : Nat} {record : CallRecord}
    (spec : CallSpec board position record) {command : WireFrame}
    (sent : Sent record.run.events command) :
    command.seq = number board position ∧ command.magic = magicCommand := by
  obtain ⟨answer, member⟩ := sent
  obtain ⟨fits, same⟩ := spec.sends _ _ member
  constructor
  · have read := command.be32At?_seq
    rw [same, WireFrame.be32At?_seq] at read
    exact (Option.some.inj read).symm
  · have read := command.getElem?_magic
    rw [same, WireFrame.getElem?_magic] at read
    exact (Option.some.inj read).symm

/-- A response taken for an answer to a number carries it, and is what is returned. -/
theorem accepts_take {subtype : UInt8} {seq : UInt32} {capacity : Nat} {payload : Bytes}
    {frame : WireFrame} (accepted : Accepts subtype seq (frame.bytes.take capacity) payload) :
    frame.magic = magicResponse ∧ frame.seq = seq ∧ frame.payload = payload := by
  obtain ⟨f, parsed, isMatch, _, same⟩ := accepted
  obtain ⟨padding, rfl⟩ := frame.parse_take parsed
  simp only [matchesRequest, Frame.isResponse, WireFrame.magic_view, WireFrame.subtype_view,
    WireFrame.seq_view, Bool.and_eq_true, beq_iff_eq] at isMatch
  exact ⟨isMatch.1.1, isMatch.2, by simpa using same⟩

/-- The packet that a call returned came from a response to its own command, and every
response that it can have come from is one to a command that only this call has sent. -/
def AnsweredOwn (remote : RemoteBoard) (record : CallRecord) (payload : Bytes) : Prop :=
  ∃ packet, (⟨.recvInto rxBufSize, .ok packet⟩ : Event transport) ∈ record.run.events ∧
    (∃ command reply, Sent record.run.events command ∧ remote.produces command reply ∧
      packet.data = reply.bytes.take rxBufSize ∧ reply.payload = payload) ∧
    ∀ command reply, Sent (record.before ++ record.run.events) command →
      remote.produces command reply → packet.data = reply.bytes.take rxBufSize →
      Sent record.run.events command ∧ ¬ Sent record.before command ∧ reply.payload = payload

section Answers

variable {fuel : Nat} {oracle : Oracle transport} {board : Board} {calls : List Call}
  {remote : RemoteBoard}

/-- A command with the number of a call was sent by that call and by none before it. -/
theorem sent_by_own_call (few : calls.length < 4294967296) {position : Nat}
    {record : CallRecord}
    (found : (session fuel oracle calls board [])[position]? = some record)
    {command : WireFrame} (own : command.seq = number board position) :
    ¬ Sent record.before command := by
  rintro ⟨answer, member⟩
  rcases mem_before_of_session found member with none | ⟨earlier, before, other, isOther, inOther⟩
  · cases none
  · have bound := (List.getElem?_eq_some_iff.mp found).1
    have short := length_session_le fuel oracle board [] calls
    have theirs := ((callSpec_of_session isOther).seq_of_sent ⟨answer, inOther⟩).1
    have same := number_injective board (by omega) (by omega) (theirs.symm.trans own)
    exact absurd same (Nat.ne_of_lt before)

theorem sent_append {left right : History transport} {command : WireFrame} :
    Sent (left ++ right) command ↔ Sent left command ∨ Sent right command := by
  simp [Sent, exists_or]

/-- The channel's packet that a call returned. -/
theorem answeredOwn_of_accepts (few : calls.length < 4294967296)
    (kept : ChannelKept remote (session fuel oracle calls board [])) {position : Nat}
    {record : CallRecord} {payload : Bytes}
    (found : (session fuel oracle calls board [])[position]? = some record)
    (accepted : FromAccepted record.call.subtype (number board position) record.run.events
      payload) : AnsweredOwn remote record payload := by
  have spec := callSpec_of_session found
  obtain ⟨packet, member, accepts⟩ := accepted
  -- a response to some command that parses as accepted is one to this call's command
  have own (command reply : WireFrame)
      (sent : Sent (record.before ++ record.run.events) command)
      (produced : remote.produces command reply)
      (data : packet.data = reply.bytes.take rxBufSize) :
      Sent record.run.events command ∧ ¬ Sent record.before command ∧
        reply.payload = payload := by
    rw [data] at accepts
    obtain ⟨_, seq, same⟩ := accepts_take accepts
    have fresh := sent_by_own_call few found ((remote.copies produced).2.2.1.symm.trans seq)
    exact ⟨(sent_append.mp sent).resolve_left fresh, fresh, same⟩
  refine ⟨packet, member, ?_, own⟩
  obtain ⟨earlier, later, split⟩ := List.append_of_mem member
  have along := kept record (List.mem_of_getElem? found)
  rw [split] at along
  obtain ⟨frame, data, echo | ⟨command, sent, produced⟩⟩ := along.at
  · -- the echo of a command is not a response
    rw [data] at accepts
    obtain ⟨response, seq, _⟩ := accepts_take accepts
    have fresh := sent_by_own_call few found seq
    have inEvents : Sent record.run.events frame := by
      rw [split]
      exact sent_append.mpr (.inl ((sent_append.mp echo).resolve_left fresh))
    exact absurd (response.symm.trans (spec.seq_of_sent inEvents).2) (by decide)
  · have sentHere : Sent (record.before ++ record.run.events) command := by
      rw [split, ← List.append_assoc]
      exact sent_append.mpr (.inl sent)
    obtain ⟨inEvents, _, same⟩ := own command frame sentHere produced data
    exact ⟨command, frame, inEvents, produced, data, same⟩

end Answers

/-- No stale answers: two transmissions of a session carry the same number exactly if they
belong to the same call, and what a call returns is the payload of a response to its own
command, never to another call's. -/
theorem session_answers_own (fuel : Nat) (calls : List Call)
    (few : calls.length < 4294967296) (board : Board) (oracle : Oracle transport)
    (remote : RemoteBoard)
    (kept : ChannelKept remote (session fuel oracle calls board [])) :
    (∀ (left right : Nat) (first second : CallRecord),
      (session fuel oracle calls board [])[left]? = some first →
      (session fuel oracle calls board [])[right]? = some second →
      ∀ command other, Sent first.run.events command → Sent second.run.events other →
        (command.seq = other.seq ↔ left = right)) ∧
    ∀ (position : Nat) (record : CallRecord) (payload : Bytes) (after : Board),
      (session fuel oracle calls board [])[position]? = some record →
      record.run.outcome = .returned (.ok payload, after) →
        AnsweredOwn remote record payload := by
  constructor
  · intro left right first second isFirst isSecond command other sent otherSent
    have short := length_session_le fuel oracle board [] calls
    have leftBound := (List.getElem?_eq_some_iff.mp isFirst).1
    have rightBound := (List.getElem?_eq_some_iff.mp isSecond).1
    rw [((callSpec_of_session isFirst).seq_of_sent sent).1,
      ((callSpec_of_session isSecond).seq_of_sent otherSent).1]
    constructor
    · exact number_injective board (by omega) (by omega)
    · exact congrArg (number board)
  · intro position record payload after found returned
    exact answeredOwn_of_accepts few kept found
      ((callSpec_of_session found).accepts payload after returned)

/-! ## A session that is answered -/

/-- A response to a command that fits the receive buffer is accepted. -/
theorem accepts_response {command reply : WireFrame} (responds : RespondsTo command reply)
    (fits : reply.bytes.length ≤ rxBufSize) :
    Accepts command.subtype command.seq (reply.bytes.take rxBufSize) reply.payload := by
  obtain ⟨magic, subtype, seq, stored⟩ := responds
  rw [List.take_of_length_le fits]
  refine ⟨reply.view, reply.parse_bytes, ?_, ?_, reply.payload_view⟩
  · simp [matchesRequest, Frame.isResponse, magic, subtype, seq]
  · rw [WireFrame.buf_view, WireFrame.verifyChecksum_bytes, stored, beq_self_eq_true]

/-- A response to another command is passed over. -/
theorem ignored_response {command reply : WireFrame} (responds : RespondsTo command reply)
    (fits : reply.bytes.length ≤ rxBufSize) (subtype : UInt8) {seq : UInt32}
    (other : command.seq ≠ seq) : Ignored subtype seq (reply.bytes.take rxBufSize) := by
  intro f parsed
  rw [List.take_of_length_le fits, reply.parse_bytes] at parsed
  obtain rfl := Option.some.inj parsed
  have foreign : (reply.view.seq == seq) = false := by
    rw [WireFrame.seq_view, responds.2.2.1]
    exact beq_false_of_ne other
  rw [matchesRequest, foreign, Bool.and_false]

/-- The response that repeats the command's payload. -/
def mirror (command : WireFrame) : WireFrame :=
  { command with magic := magicResponse, padding := [] }.sealed

theorem mirror_responds (command : WireFrame) : RespondsTo command (mirror command) :=
  ⟨rfl, rfl, rfl, rfl⟩

def mirrorBoard : RemoteBoard where
  produces command reply := reply = mirror command
  copies produced := produced ▸ mirror_responds _

/-- The command of a status poll by a fresh board. -/
def pollCommand : WireFrame := transmitted 2 1 broadcastMac [0x02] (by decide)

theorem mirror_pollCommand_short : (mirror pollCommand).bytes.length ≤ rxBufSize := by
  rw [WireFrame.length_bytes]
  decide

/-- The next command of the same board, with another payload. -/
def nextCommand : WireFrame := transmitted 2 2 broadcastMac [0x05] (by decide)

theorem mirror_nextCommand_short : (mirror nextCommand).bytes.length ≤ rxBufSize := by
  rw [WireFrame.length_bytes]
  decide

def mirrorPacket (command : WireFrame) : Received rxBufSize :=
  ⟨(mirror command).bytes.take rxBufSize, List.length_take_le _ _⟩

/-- The first call waits in vain. -/
def unansweredCall : History transport := [sent pollCommand.bytes, quiet]

/-- The answer to the first call comes twice in the second one, ahead of its own. -/
def lateAnswers : History transport :=
  [sent nextCommand.bytes, received (mirrorPacket pollCommand),
    received (mirrorPacket pollCommand), received (mirrorPacket nextCommand)]

/-- A channel that delays and repeats. -/
def lateChannel : Oracle transport := replay (unansweredCall ++ lateAnswers) quietChannel

def twoCalls : List Call := [⟨2, [0x02], 0⟩, ⟨2, [0x05], 0⟩]

/-- A fresh board after a number of calls without a retry. -/
def boardAfter (calls : UInt32) : Board :=
  { Board.new broadcastMac with seq := ⟨calls⟩, retries := 0 }

theorem delivers_late : Delivers lateChannel [] (unansweredCall ++ lateAnswers) :=
  along_replay (unansweredCall ++ lateAnswers) quietChannel

theorem request_unanswered : (request 4 2 [0x02]
      { Board.new broadcastMac with retries := 0 }).exec lateChannel [] =
    ⟨unansweredCall, .returned (.error .timeout, boardAfter 1)⟩ := by
  have trace : Attempts 2 1 pollCommand.bytes (boardAfter 1) 1 unansweredCall
      (.returned (.error .timeout, boardAfter 1)) := .again .silence .exhausted
  exact Attempts.request (by decide) trace (fun h => by cases h) (by decide)
    (along_append.mp delivers_late).1

theorem request_late : (request 4 2 [0x05] (boardAfter 1)).exec lateChannel unansweredCall =
    ⟨lateAnswers, .returned (.ok [0x05], boardAfter 2)⟩ := by
  have late : Ignored 2 2 (mirrorPacket pollCommand).data :=
    ignored_response (mirror_responds pollCommand) mirror_pollCommand_short 2 (by decide)
  have trace : Attempts 2 2 nextCommand.bytes (boardAfter 2) 1 lateAnswers
      (.returned (.ok [0x05], boardAfter 2)) :=
    .answered (.skip late (.skip late
      (.answer (accepts_response (mirror_responds nextCommand) mirror_nextCommand_short))))
  exact Attempts.request (by decide) trace (fun h => by cases h) (by decide)
    (along_append.mp delivers_late).2

theorem session_late : session 4 lateChannel twoCalls (.new broadcastMac) [] =
    [⟨⟨2, [0x02], 0⟩, [], ⟨unansweredCall, .returned (.error .timeout, boardAfter 1)⟩⟩,
      ⟨⟨2, [0x05], 0⟩, unansweredCall, ⟨lateAnswers, .returned (.ok [0x05], boardAfter 2)⟩⟩] := by
  rw [twoCalls, session, request_unanswered]
  dsimp only
  rw [List.nil_append, session]
  rw [show { boardAfter 1 with retries := 0 } = boardAfter 1 from rfl, request_late]
  rfl

/-- The answer to a command that has been sent may come at any time. -/
theorem channel_mirror {before : History transport} {command : WireFrame}
    (sent : Sent before command) : channel mirrorBoard before (received (mirrorPacket command)) :=
  ⟨mirror command, rfl, .inr ⟨command, sent, rfl⟩⟩

theorem channelKept_late :
    ChannelKept mirrorBoard (session 4 lateChannel twoCalls (.new broadcastMac) []) := by
  intro record member
  rw [session_late, List.mem_cons, List.mem_singleton] at member
  have poll (later : History transport) : Sent (unansweredCall ++ later) pollCommand :=
    sent_append.mpr (.inl ⟨.ok (), List.mem_cons_self ..⟩)
  rcases member with rfl | rfl
  · exact ⟨trivial, trivial, trivial⟩
  · refine ⟨trivial, channel_mirror (poll _), channel_mirror ?_, channel_mirror ?_, trivial⟩
    · exact poll [sent nextCommand.bytes, received (mirrorPacket pollCommand)]
    · exact ⟨.ok (), by simp [unansweredCall]⟩

theorem session_answers_own_late : ∃ record,
    (session 4 lateChannel twoCalls (.new broadcastMac) [])[1]? = some record ∧
      received (mirrorPacket pollCommand) ∈ record.run.events ∧
        AnsweredOwn mirrorBoard record [0x05] := by
  have own := (session_answers_own 4 twoCalls (by decide) (.new broadcastMac) lateChannel
    mirrorBoard channelKept_late).2
  have second := congrArg (·[1]?) session_late
  exact ⟨_, second, List.mem_cons_of_mem _ (List.mem_cons_self ..), own 1 _ _ _ second rfl⟩

end RbctlDsl.Dsl

import RbctlDsl.Lib.Bytes
import RbctlDsl.Lib.Method

/-!
# The packet dump

`pcap.rs` and `sniff` of `selftest.rs`: the frames of the two management protocols are appended to
a capture file, each behind a header of its own.  The sniffer is ended from outside, at any moment.
-/

namespace RbctlDsl.Dsl

open RbctlDsl.Lib

/-! ## The file -/

namespace Pcap

def PCAP_MAGIC : UInt32 := 0xa1b2c3d4

def VERSION_MAJOR : UInt16 := 2

def VERSION_MINOR : UInt16 := 4

def SNAPLEN : UInt32 := 65535

def LINKTYPE_ETHERNET : UInt32 := 1

/-- `u16::to_le_bytes`. -/
def leBytes16 (value : UInt16) : Bytes := (beBytes16 value).reverse

/-- The header that `create` writes. -/
def globalHeader : Bytes :=
  leBytes32 PCAP_MAGIC ++ (leBytes16 VERSION_MAJOR ++ (leBytes16 VERSION_MINOR ++
    (List.replicate 8 0 ++ (leBytes32 SNAPLEN ++ leBytes32 LINKTYPE_ETHERNET))))

/-- A frame with the time of its arrival, in nanoseconds from the epoch on. -/
structure Stamped where
  now : Int
  frame : Bytes
  deriving DecidableEq, Repr

namespace Stamped

variable (stamped : Stamped)

/-- A time before the epoch counts as the epoch. -/
def tsSec : UInt32 := .ofNat (stamped.now.toNat / 1000000000)

def tsUsec : UInt32 := .ofNat (stamped.now.toNat % 1000000000 / 1000)

/-- The header of a record. -/
def header : Bytes :=
  leBytes32 stamped.tsSec ++ (leBytes32 stamped.tsUsec ++
    (leBytes32 (.ofNat stamped.frame.length) ++ leBytes32 (.ofNat stamped.frame.length)))

def bytes : Bytes := stamped.header ++ stamped.frame

@[simp] theorem length_header : stamped.header.length = 16 := rfl

@[simp] theorem length_bytes : stamped.bytes.length = 16 + stamped.frame.length := by
  simp [bytes]

end Stamped

/-! ## Reading -/

/-- A record as a reader of captures sees it. -/
structure Record where
  tsSec : UInt32
  tsUsec : UInt32
  origLen : UInt32
  data : Bytes
  deriving DecidableEq, Repr

/-- The record at the start of some bytes, and those behind it, where all of it is there. -/
def readRecord (bytes : Bytes) : Option (Record × Bytes) := do
  let tsSec ← le32At? bytes 0
  let tsUsec ← le32At? bytes 4
  let inclLen ← le32At? bytes 8
  let origLen ← le32At? bytes 12
  let data ← slice? bytes 16 (16 + inclLen.toNat)
  some (⟨tsSec, tsUsec, origLen, data⟩, bytes.drop (16 + inclLen.toNat))

/-- The complete records, and what is left behind them. -/
def readRecords : Nat → Bytes → List Record × Bytes
  | 0, bytes => ([], bytes)
  | fuel + 1, bytes =>
    match readRecord bytes with
    | none => ([], bytes)
    | some (record, rest) => (record :: (readRecords fuel rest).1, (readRecords fuel rest).2)

/-- A capture of Ethernet frames. -/
def readCapture (file : Bytes) : Option (List Record × Bytes) := do
  let magic ← le32At? file 0
  let network ← le32At? file 20
  guard (magic = PCAP_MAGIC ∧ network = LINKTYPE_ETHERNET)
  some (readRecords file.length (file.drop 24))

def Stamped.record (stamped : Stamped) : Record :=
  ⟨stamped.tsSec, stamped.tsUsec, .ofNat stamped.frame.length, stamped.frame⟩

/-- A record that has been begun and is not complete. -/
def Unfinished (tail : Bytes) : Prop :=
  ∃ stamped : Stamped, stamped.frame.length < 4294967296 ∧ tail <+: stamped.bytes ∧
    tail.length < stamped.bytes.length

theorem unfinished_nil : Unfinished [] :=
  ⟨⟨0, []⟩, by decide, List.nil_prefix, by decide⟩

theorem readRecord_bytes (stamped : Stamped) (fits : stamped.frame.length < 4294967296)
    (rest : Bytes) : readRecord (stamped.bytes ++ rest) = some (stamped.record, rest) := by
  have count : (UInt32.ofNat stamped.frame.length).toNat = stamped.frame.length :=
    UInt32.toNat_ofNat_of_lt' fits
  have header (before after : Bytes) (value : UInt32) (offset : Nat)
      (layout : stamped.bytes ++ rest = before ++ (leBytes32 value ++ after))
      (offsetEq : before.length = offset) :
      le32At? (stamped.bytes ++ rest) offset = some value := by
    rw [layout, le32At?_append before after value offset offsetEq]
  have sec := header [] _ stamped.tsSec 0 (by simp [Stamped.bytes, Stamped.header]; rfl) rfl
  have usec := header (leBytes32 stamped.tsSec) _ stamped.tsUsec 4
    (by simp [Stamped.bytes, Stamped.header]; rfl) rfl
  have incl := header (leBytes32 stamped.tsSec ++ leBytes32 stamped.tsUsec) _
    (.ofNat stamped.frame.length) 8 (by simp [Stamped.bytes, Stamped.header]; rfl) rfl
  have orig := header (leBytes32 stamped.tsSec ++ (leBytes32 stamped.tsUsec ++
    leBytes32 (.ofNat stamped.frame.length))) _ (.ofNat stamped.frame.length) 12
    (by simp [Stamped.bytes, Stamped.header]; rfl) rfl
  have frame := slice?_middle stamped.header stamped.frame rest 16 (16 + stamped.frame.length)
    rfl rfl
  rw [← List.append_assoc, ← Stamped.bytes] at frame
  have behind : (stamped.bytes ++ rest).drop (16 + stamped.frame.length) = rest :=
    List.drop_left' (Stamped.length_bytes stamped)
  simp only [readRecord, sec, usec, incl, orig, count, frame, behind, Option.bind_eq_bind,
    Option.bind_some]
  rfl

theorem le32At?_append_left {first : Bytes} (second : Bytes) {offset : Nat}
    (inside : offset + 4 ≤ first.length) :
    le32At? (first ++ second) offset = le32At? first offset := by
  have long : 4 ≤ (first.drop offset).length := by
    rw [List.length_drop]
    omega
  rw [le32At?, le32At?, List.drop_append_of_le_length (by omega)]
  generalize first.drop offset = bytes at long
  rcases bytes with _ | ⟨_, _ | ⟨_, _ | ⟨_, _ | ⟨_, _⟩⟩⟩⟩
  · simp at long
  · simp at long
  · simp at long
  · simp at long
  · rfl

/-- A reader stops in front of it. -/
theorem readRecord_unfinished {tail : Bytes} (unfinished : Unfinished tail) :
    readRecord tail = none := by
  obtain ⟨stamped, fits, ⟨rest, whole⟩, short⟩ := unfinished
  rw [Stamped.length_bytes] at short
  by_cases room : 16 ≤ tail.length
  · have count : (UInt32.ofNat stamped.frame.length).toNat = stamped.frame.length :=
      UInt32.toNat_ofNat_of_lt' fits
    have layout : stamped.bytes = (leBytes32 stamped.tsSec ++ leBytes32 stamped.tsUsec) ++
        (leBytes32 (.ofNat stamped.frame.length) ++
          (leBytes32 (.ofNat stamped.frame.length) ++ stamped.frame)) := by
      simp [Stamped.bytes, Stamped.header]
    have incl : le32At? tail 8 = some (.ofNat stamped.frame.length) := by
      rw [← le32At?_append_left rest (by omega), whole, layout]
      exact le32At?_append _ _ _ 8 rfl
    have missing : slice? tail 16 (16 + stamped.frame.length) = none :=
      if_neg fun both => absurd both.2 (by omega)
    simp only [readRecord, incl, Option.bind_eq_bind, Option.bind_some, count, missing,
      Option.bind_none]
    cases le32At? tail 0 <;> cases le32At? tail 4 <;> cases le32At? tail 12 <;> rfl
  · have missing : le32At? tail 12 = none := by
      rw [← Option.not_isSome_iff_eq_none, le32At?_isSome_iff]
      omega
    simp only [readRecord, missing, Option.bind_eq_bind, Option.bind_none]
    cases le32At? tail 0 <;> cases le32At? tail 4 <;> cases le32At? tail 8 <;> rfl

theorem readRecords_append {records : List Stamped}
    (fits : ∀ stamped ∈ records, stamped.frame.length < 4294967296) (fuel : Nat) (rest : Bytes) :
    readRecords (fuel + records.length) (records.flatMap Stamped.bytes ++ rest) =
      (records.map Stamped.record ++ (readRecords fuel rest).1, (readRecords fuel rest).2) := by
  induction records with
  | nil => rfl
  | cons stamped records ih =>
      obtain ⟨here, there⟩ := List.forall_mem_cons.mp fits
      rw [List.length_cons, ← Nat.add_assoc, List.flatMap_cons, List.append_assoc, readRecords,
        readRecord_bytes stamped here]
      dsimp only
      rw [ih there]
      rfl

theorem readRecords_unfinished {tail : Bytes} (unfinished : Unfinished tail) (fuel : Nat) :
    readRecords fuel tail = ([], tail) := by
  cases fuel with
  | zero => rfl
  | succ fuel => rw [readRecords, readRecord_unfinished unfinished]

theorem length_le_bytes (records : List Stamped) :
    records.length ≤ (records.flatMap Stamped.bytes).length := by
  induction records with
  | nil => exact Nat.le_refl _
  | cons stamped records ih =>
      rw [List.flatMap_cons, List.length_append, List.length_cons, Stamped.length_bytes]
      omega

/-- The records that a capture begins with are read, whatever stands behind them. -/
theorem readCapture_append {records : List Stamped}
    (fits : ∀ stamped ∈ records, stamped.frame.length < 4294967296) (rest : Bytes) :
    ∃ fuel, readCapture (globalHeader ++ (records.flatMap Stamped.bytes ++ rest)) =
      some (records.map Stamped.record ++ (readRecords fuel rest).1,
        (readRecords fuel rest).2) := by
  have least := length_le_bytes records
  obtain ⟨fuel, enough⟩ : ∃ fuel, (globalHeader ++ (records.flatMap Stamped.bytes ++ rest)).length =
      fuel + records.length := by
    refine ⟨_, (Nat.sub_add_cancel ?_).symm⟩
    rw [List.length_append, List.length_append]
    omega
  have body : (globalHeader ++ (records.flatMap Stamped.bytes ++ rest)).drop 24 =
    records.flatMap Stamped.bytes ++ rest := List.drop_left' rfl
  refine ⟨fuel, ?_⟩
  rw [readCapture, body, enough, readRecords_append fits]
  rfl

/-- A capture that is cut in a record is read up to that record. -/
theorem readCapture_unfinished {records : List Stamped} {tail : Bytes}
    (fits : ∀ stamped ∈ records, stamped.frame.length < 4294967296)
    (unfinished : Unfinished tail) :
    readCapture (globalHeader ++ (records.flatMap Stamped.bytes ++ tail)) =
      some (records.map Stamped.record, tail) := by
  obtain ⟨fuel, found⟩ := readCapture_append fits tail
  rw [found, readRecords_unfinished unfinished, List.append_nil]

end Pcap

open Pcap

/-! ## The sniffer -/

/-- What `RawSocket::recv` gives for the buffer of the sniffer. -/
structure RxPacket where
  data : Bytes
  pktType : UInt8
  fits : data.length ≤ 1518

inductive SniffOp where
  | openUnfiltered (iface : String)
  | createFile (path : String)
  | recv
  | now
  | writeAll (data : Bytes)
  deriving DecidableEq, Repr

/-- A `write_all` that fails has written a part of its data. -/
abbrev sniffCalls : Signature where
  Op := SniffOp
  Answer
    | .openUnfiltered _ | .createFile _ => Bool
    | .recv => Option RxPacket
    | .now => Int
    | .writeAll data => Except (Fin data.length) Unit

abbrev Sniff (α : Type) := Method sniffCalls Unit Unit α

abbrev onSniff (op : sniffCalls.Op) : Sniff (sniffCalls.Answer op) := Method.perform op

def writeAll (data : Bytes) : Sniff Unit := do
  match ← onSniff (.writeAll data) with
  | .ok () => pure ()
  | .error _ => Method.fail ()

namespace Pcap

def create (path : String) : Sniff Unit := do
  if ← onSniff (.createFile path) then writeAll globalHeader else Method.fail ()

def write (now : Int) (frame : Bytes) : Sniff Unit := do
  writeAll (Stamped.header ⟨now, frame⟩)
  writeAll frame

end Pcap

/-- Whether there is a file to dump to. -/
def openDump : Option String → Sniff Bool
  | none => pure false
  | some path => do
    match ← Method.attempt (Pcap.create path) with
    | .ok () => pure true
    | .error () => pure false

def dumpFrame (dump : Bool) (frame : Bytes) : Sniff Unit := do
  if dump then do
    let now ← onSniff .now
    -- a failure is only logged
    let _ ← (Method.attempt (Pcap.write now frame) : Sniff (Except Unit Unit))
    pure ()
  else
    pure ()

/-- The frames that are shown and dumped. -/
def isManagement (data : Bytes) : Bool :=
  14 ≤ data.length && (be16At? data 12 == some 0x88B5 || be16At? data 12 == some 0x88B6)

/-- One pass of the loop. -/
def sniffPass (dump : Bool) : Sniff (Unit ⊕ Unit) := do
  match ← onSniff .recv with
  | none => pure (.inl ())
  | some pkt =>
    if isManagement pkt.data then do
      dumpFrame dump pkt.data
      pure (.inl ())
    else
      pure (.inl ())

/-- It never ends by itself: the fuel is how long it is let run. -/
def sniff (fuel : Nat) (iface : String) (dumpFile : Option String) : Sniff Unit := do
  if ← onSniff (.openUnfiltered iface) then do
    let dump ← openDump dumpFile
    Method.iterate (fun _ => sniffPass dump) fuel ()
  else
    pure ()

/-! ## What is in the file -/

/-- The bytes that an event adds to the file. -/
def bytesAdded : Event sniffCalls → Bytes
  | ⟨.writeAll data, .ok ()⟩ => data
  | ⟨.writeAll data, .error count⟩ => data.take count
  | _ => []

def fileOf (history : History sniffCalls) : Bytes := history.flatMap bytesAdded

/-- The management frame that an event brings. -/
def frame? : Event sniffCalls → Option Bytes
  | ⟨.recv, some pkt⟩ => if isManagement pkt.data then some pkt.data else none
  | _ => none

def time? : Event sniffCalls → Option Int
  | ⟨.now, time⟩ => some time
  | _ => none

/-- The frames that have come, each with the time that was asked for then. -/
def captured (history : History sniffCalls) : List Stamped :=
  List.zipWith Stamped.mk (history.filterMap time?) (history.filterMap frame?)

def fails : Event sniffCalls → Bool
  | ⟨.writeAll _, .error _⟩ => true
  | _ => false

/-! ## What a reader finds -/

section Captures

/-- The socket and the file are opened, and the file gets its header. -/
structure Opens (oracle : Oracle sniffCalls) (iface path : String) : Prop where
  socket : oracle [] (.openUnfiltered iface) = true
  created : oracle [⟨.openUnfiltered iface, true⟩] (.createFile path) = true
  headed : oracle [⟨.openUnfiltered iface, true⟩, ⟨.createFile path, true⟩]
    (.writeAll globalHeader) = .ok ()

/-- What happens before the loop then. -/
def beforeLoop (iface path : String) : History sniffCalls :=
  [⟨.openUnfiltered iface, true⟩, ⟨.createFile path, true⟩, ⟨.writeAll globalHeader, .ok ()⟩]

def Clean (history : History sniffCalls) : Prop := ∀ event ∈ history, fails event = false

/-- The records of the file, what is left behind them, and the times and the frames that are not in
them yet. -/
structure Holds (history : History sniffCalls) (done : List Stamped) (tail : Bytes)
    (times : List Int) (frames : List Bytes) : Prop where
  file : fileOf history = globalHeader ++ (done.flatMap Stamped.bytes ++ tail)
  times : history.filterMap time? = done.map Stamped.now ++ times
  frames : history.filterMap frame? = done.map Stamped.frame ++ frames
  fits : ∀ stamped ∈ done, stamped.frame.length < 4294967296

/-- A frame that its header is followed by, and that the header can count. -/
def Sized (frame : Bytes) : Prop := 0 < frame.length ∧ frame.length < 4294967296

/-- The places in the loop where something is asked for. -/
inductive Place (history : History sniffCalls) : SniffOp → Prop where
  | recv {done : List Stamped} (held : Holds history done [] [] []) : Place history .recv
  | now {done : List Stamped} {frame : Bytes} (sized : Sized frame)
      (held : Holds history done [] [] [frame]) : Place history .now
  | head {done : List Stamped} (stamped : Stamped) (sized : Sized stamped.frame)
      (held : Holds history done [] [stamped.now] [stamped.frame]) :
      Place history (.writeAll stamped.header)
  | body {done : List Stamped} (stamped : Stamped) (sized : Sized stamped.frame)
      (held : Holds history done stamped.header [stamped.now] [stamped.frame]) :
      Place history (.writeAll stamped.frame)

variable {history : History sniffCalls} {event : Event sniffCalls} {done : List Stamped}
  {tail : Bytes} {times : List Int} {frames : List Bytes}

theorem clean_snoc : Clean (history ++ [event]) ↔ Clean history ∧ fails event = false := by
  simp [Clean, or_imp, forall_and]

/-- An event adds what it writes and what it brings. -/
theorem Holds.snoc (held : Holds history done tail times frames) {time : Option Int}
    {frame : Option Bytes} {data : Bytes} (writes : bytesAdded event = data)
    (isTime : time? event = time) (isFrame : frame? event = frame) :
    Holds (history ++ [event]) done (tail ++ data) (times ++ time.toList)
      (frames ++ frame.toList) := by
  subst writes isTime isFrame
  refine ⟨?_, ?_, ?_, held.fits⟩
  · have file := held.file
    rw [fileOf] at file
    simp [fileOf, file]
  · rw [List.filterMap_append, held.times, List.append_assoc]
    cases isTime : time? event <;> simp [isTime]
  · rw [List.filterMap_append, held.frames, List.append_assoc]
    cases isFrame : frame? event <;> simp [isFrame]

/-- A record is complete. -/
theorem Holds.close (stamped : Stamped) (short : stamped.frame.length < 4294967296)
    (held : Holds history done stamped.bytes [stamped.now] [stamped.frame]) :
    Holds history (done ++ [stamped]) [] [] [] := by
  refine ⟨?_, ?_, ?_, ?_⟩
  · rw [held.file]
    simp
  · rw [held.times]
    simp
  · rw [held.frames]
    simp
  · simpa [or_imp, forall_and] using ⟨held.fits, short⟩

/-- Between two passes, every frame that has come is in a record. -/
def Settled (history : History sniffCalls) : Prop :=
  Clean history → ∃ done, Holds history done [] [] []

/-- As long as nothing has failed, every operation is at its place. -/
def sniffContract : Contract sniffCalls where
  may history op := Clean history → Place history op

theorem settled_of_fails (failed : fails event = true) : Settled (history ++ [event]) := by
  intro clean
  rw [(clean_snoc.mp clean).2] at failed
  cases failed

theorem frame?_recv (pkt : RxPacket) :
    frame? ⟨.recv, some pkt⟩ = if isManagement pkt.data then some pkt.data else none := rfl

theorem sized_of_management {frame : Bytes} (management : isManagement frame = true)
    (fits : frame.length ≤ 1518) : Sized frame := by
  rw [isManagement, Bool.and_eq_true, decide_eq_true_iff] at management
  have least := management.1
  constructor <;> omega

/-- The frame gets the time, the header and the place behind the header. -/
theorem safe_dumpFrame {frame : Bytes} (sized : Sized frame)
    (brought : Clean history → ∃ done, Holds history done [] [] [frame]) :
    Safe sniffContract (fun later _ => Settled later) (dumpFrame true frame ()) history := by
  refine And.intro (fun clean => ?_) fun now _ => ?_
  · obtain ⟨done, held⟩ := brought clean
    exact .now sized held
  have stamped (clean : Clean (history ++ [⟨.now, now⟩])) :
      ∃ done, Holds (history ++ [⟨.now, now⟩]) done [] [now] [frame] := by
    obtain ⟨done, held⟩ := brought (clean_snoc.mp clean).1
    exact ⟨done, held.snoc rfl rfl rfl⟩
  refine And.intro (fun clean => ?_) fun answer _ => ?_
  · obtain ⟨done, held⟩ := stamped clean
    exact .head ⟨now, frame⟩ sized held
  cases answer with
  | error count => exact settled_of_fails rfl
  | ok header =>
      refine And.intro (fun clean => ?_) fun answer _ => ?_
      · obtain ⟨done, held⟩ := stamped (clean_snoc.mp clean).1
        exact .body ⟨now, frame⟩ sized (held.snoc rfl rfl rfl)
      cases answer with
      | error count => exact settled_of_fails rfl
      | ok body =>
          intro clean
          obtain ⟨done, held⟩ := stamped (clean_snoc.mp (clean_snoc.mp clean).1).1
          exact ⟨_, Holds.close ⟨now, frame⟩ sized.2 ((held.snoc rfl rfl rfl).snoc rfl rfl rfl)⟩

theorem safe_sniffPass (settled : Settled history) :
    Safe sniffContract
      (Method.passOwes (fun later (_ : Unit) (_ : Unit) => Settled later) fun _ _ => True)
      (sniffPass true ()) history := by
  refine And.intro (fun clean => ?_) fun answer _ => ?_
  · obtain ⟨done, held⟩ := settled clean
    exact .recv held
  cases answer with
  | none =>
      intro clean
      obtain ⟨done, held⟩ := settled (clean_snoc.mp clean).1
      exact ⟨done, held.snoc rfl rfl rfl⟩
  | some pkt =>
      change Safe _ _ ((if isManagement pkt.data then (dumpFrame true pkt.data >>= fun _ =>
        pure (.inl ())) else pure (.inl ()) : Sniff (Unit ⊕ Unit)) ()) _
      have isFrame := frame?_recv pkt
      cases management : isManagement pkt.data with
      | false =>
          rw [management] at isFrame
          intro clean
          obtain ⟨done, held⟩ := settled (clean_snoc.mp clean).1
          exact ⟨done, held.snoc rfl rfl isFrame⟩
      | true =>
          rw [management] at isFrame
          have sized := sized_of_management management pkt.fits
          refine Method.safe_bind (safe_dumpFrame sized fun clean => ?_)
            (fun later _ _ settled => settled) fun later _ _ settled => trivial
          obtain ⟨done, held⟩ := settled (clean_snoc.mp clean).1
          exact ⟨done, held.snoc rfl rfl isFrame⟩

theorem clean_beforeLoop (iface path : String) : Clean (beforeLoop iface path) := by
  simp [Clean, beforeLoop, fails]

theorem settled_beforeLoop (iface path : String) : Settled (beforeLoop iface path) := by
  intro _
  refine ⟨[], ⟨?_, rfl, rfl, List.forall_mem_nil _⟩⟩
  simp [beforeLoop, fileOf, bytesAdded]

theorem zipWith_stamped (done : List Stamped) :
    List.zipWith Stamped.mk (done.map Stamped.now) (done.map Stamped.frame) = done := by
  induction done with
  | nil => rfl
  | cons stamped done ih => rw [List.map_cons, List.map_cons, List.zipWith_cons_cons, ih]

theorem Holds.captured (held : Holds history done tail times frames) :
    captured history = done ++ List.zipWith Stamped.mk times frames := by
  have same : (done.map Stamped.now).length = (done.map Stamped.frame).length := by simp
  rw [Dsl.captured, held.times, held.frames, List.zipWith_append same, zipWith_stamped]

theorem Holds.count (held : Holds history done tail times frames) :
    (history.filterMap frame?).length = done.length + frames.length := by
  rw [held.frames, List.length_append, List.length_map]

theorem Holds.reads (held : Holds history done tail times frames) (unfinished : Unfinished tail) :
    readCapture (fileOf history) = some (done.map Stamped.record, tail) := by
  rw [held.file, readCapture_unfinished held.fits unfinished]

/-- The complete records stay in front of whatever is written later. -/
theorem Holds.stays (held : Holds history done tail times frames) (more : History sniffCalls) :
    ∃ records left,
      readCapture (fileOf (history ++ more)) = some (done.map Stamped.record ++ records, left) := by
  have file : fileOf (history ++ more) =
      globalHeader ++ (done.flatMap Stamped.bytes ++ (tail ++ fileOf more)) := by
    have here := held.file
    rw [fileOf] at here
    rw [fileOf, List.flatMap_append, here, fileOf]
    simp only [List.append_assoc]
  obtain ⟨fuel, found⟩ := readCapture_append held.fits (tail ++ fileOf more)
  exact ⟨_, _, file ▸ found⟩

/-- The record of a frame is unfinished up to its last byte. -/
theorem unfinished_of_begun {stamped : Stamped} (sized : Sized stamped.frame)
    (begun : tail <+: stamped.bytes) (short : tail.length < 16 + stamped.frame.length) :
    Unfinished tail :=
  ⟨stamped, sized.2, begun, by rwa [Stamped.length_bytes]⟩

/-- What a reader finds in the file after an event: complete records of the frames that have come,
in their order, and all of these frames but the last one, which may be on its way.  Between two
passes it finds all of them, and nothing behind.  It finds these records in front of whatever
happens later. -/
structure Found (history : History sniffCalls) (event : Event sniffCalls) (done : List Stamped)
    (tail : Bytes) : Prop where
  read : readCapture (fileOf (history ++ [event])) = some (done.map Stamped.record, tail)
  inOrder : done <+: captured history
  most : (history.filterMap frame?).length ≤ done.length + 1
  between : event.op = .recv → done.map Stamped.frame = history.filterMap frame? ∧ tail = []
  stays : ∀ more, ∃ records left, readCapture (fileOf (history ++ [event] ++ more)) =
    some (done.map Stamped.record ++ records, left)

/-- Wherever the loop stands, and whatever its next write leaves, the file is a capture. -/
theorem Place.found (place : Place history event.op) :
    ∃ done tail, Found history event done tail := by
  obtain ⟨op, answer⟩ := event
  cases place with
  | @recv done held =>
      have after : Holds (history ++ [⟨.recv, answer⟩]) done [] [] _ := held.snoc rfl rfl rfl
      refine ⟨done, [], after.reads unfinished_nil, ⟨_, held.captured.symm⟩, ?_, fun _ => ⟨?_, rfl⟩,
        after.stays⟩
      · rw [held.count]
        exact Nat.le_succ _
      · rw [held.frames, List.append_nil]
  | @now done frame sized held =>
      have after : Holds (history ++ [⟨.now, answer⟩]) done [] _ [frame] := held.snoc rfl rfl rfl
      exact ⟨done, [], after.reads unfinished_nil, ⟨_, held.captured.symm⟩, Nat.le_of_eq held.count,
        (fun same => by cases same), after.stays⟩
  | @head done stamped sized held =>
      have part : ∀ begun, begun <+: stamped.header →
          bytesAdded ⟨.writeAll stamped.header, answer⟩ = begun →
          ∃ done tail, Found history ⟨.writeAll stamped.header, answer⟩ done tail := by
        intro begun isPart writes
        have after : Holds (history ++ [⟨.writeAll stamped.header, answer⟩]) done begun
            [stamped.now] [stamped.frame] := held.snoc writes rfl rfl
        have length := isPart.length_le
        rw [Stamped.length_header] at length
        have unfinished := unfinished_of_begun sized (isPart.trans (List.prefix_append _ _))
          (by have := sized.1; omega)
        exact ⟨done, begun, after.reads unfinished, ⟨_, held.captured.symm⟩,
          Nat.le_of_eq held.count, (fun same => by cases same), after.stays⟩
      cases answer with
      | ok whole => exact part _ (List.prefix_refl _) rfl
      | error count => exact part _ (List.take_prefix _ _) rfl
  | @body done stamped sized held =>
      cases answer with
      | ok whole =>
          have after : Holds (history ++ [⟨.writeAll stamped.frame, .ok whole⟩]) done stamped.bytes
            [stamped.now] [stamped.frame] := held.snoc rfl rfl rfl
          refine ⟨done ++ [stamped], [], (after.close stamped sized.2).reads unfinished_nil,
            ⟨[], ?_⟩, ?_, (fun same => by cases same), (after.close stamped sized.2).stays⟩
          · rw [held.captured, List.append_nil]
            rfl
          · rw [held.count, List.length_append]
            exact Nat.le_succ _
      | error count =>
          have after : Holds (history ++ [⟨.writeAll stamped.frame, .error count⟩]) done
            (stamped.header ++ stamped.frame.take count) [stamped.now] [stamped.frame] :=
            held.snoc rfl rfl rfl
          have isPart : stamped.header ++ stamped.frame.take count <+: stamped.bytes :=
            (List.prefix_append_right_inj _).mpr (List.take_prefix _ _)
          have unfinished := unfinished_of_begun sized isPart (by
            have few := count.isLt
            rw [List.length_append, List.length_take, Stamped.length_header]
            omega)
          exact ⟨done, _, after.reads unfinished, ⟨_, held.captured.symm⟩,
            Nat.le_of_eq held.count, (fun same => by cases same), after.stays⟩

theorem exec_create {oracle : Oracle sniffCalls} {iface path : String}
    (opens : Opens oracle iface path) :
    (Pcap.create path ()).exec oracle [⟨.openUnfiltered iface, true⟩] =
      ⟨[⟨.createFile path, true⟩, ⟨.writeAll globalHeader, .ok ()⟩], .returned (.ok (), ())⟩ := by
  rw [Pcap.create, Method.exec_perform_bind _ opens.created]
  simp only [if_true, writeAll]
  rw [Method.exec_perform_bind _ opens.headed]
  rfl

/-- The loop is reached, with a file to dump to. -/
theorem exec_sniff {oracle : Oracle sniffCalls} {iface path : String}
    (opens : Opens oracle iface path) (fuel : Nat) :
    ((sniff fuel iface (some path) ()).exec oracle []).events = beforeLoop iface path ++
      ((Method.iterate (fun _ => sniffPass true) fuel () ()).exec oracle
        (beforeLoop iface path)).events := by
  have opened : (openDump (some path) ()).exec oracle [⟨.openUnfiltered iface, true⟩] =
      ⟨[⟨.createFile path, true⟩, ⟨.writeAll globalHeader, .ok ()⟩],
        .returned (.ok true, ())⟩ := by
    rw [openDump, Method.exec_bind_ok _ (Method.exec_attempt (exec_create opens))]
    rfl
  rw [sniff, Method.exec_perform_bind _ opens.socket]
  simp only [if_true, List.nil_append]
  rw [Method.exec_bind_ok _ opened]
  rfl

/-- A socket on which the same frame comes again and again, and a disk that fails at the first frame
behind its header. -/
def fullDisk : Oracle sniffCalls
  | _, .openUnfiltered _ | _, .createFile _ => true
  | _, .recv => some ⟨List.replicate 12 0 ++ [0x88, 0xB5], 0, by decide⟩
  | _, .now => 1700000000123456789
  | history, .writeAll data =>
    if room : history.length = 6 ∧ 0 < data.length then .error ⟨0, room.2⟩ else .ok ()

end Captures

end RbctlDsl.Dsl

import RbctlDsl.Dsl.Daemon
import RbctlDsl.Dsl.UbusObj
import Mathlib.Data.List.Basic
import RbctlDsl.Lib.Decimal
import RbctlDsl.Lib.KeyValue

/-!
# The text of a status

`ipc.rs`: a snapshot is rendered as `key: value` lines, sent as the reply to `STATUS`, and parsed
back by the client.
-/

namespace RbctlDsl.Dsl

open RbctlDsl.Lib

namespace StatusSnapshot

/-- Render as `key: value` lines. -/
def toLines (s : StatusSnapshot) : String :=
  s!"state: {s.state}\nstate_num: {s.stateNum}\nup: {s.up}\nuptime: {s.uptimeSecs}\n" ++
  s!"modulation: {s.modulation}\nannex: {s.annex}\nxfer_mode: {s.xferMode}\n" ++
  s!"down_rate: {s.downRate}\nup_rate: {s.upRate}\ndown_snr: {s.downSnr}\n" ++
  s!"up_snr: {s.upSnr}\nfw_status: {s.fwStatus}"

/-- `str::parse` for the integer types, or 0. -/
def parseU32 (value : String) : UInt32 := UInt32.ofNat ((parseUnsigned 4294967296 value).getD 0)

def parseU64 (value : String) : Nat := (parseUnsigned 18446744073709551616 value).getD 0

def parseI32 (value : String) : Int32 := Int32.ofInt ((parseSigned 2147483648 value).getD 0)

/-- The field of a key, from its trimmed value. -/
def setField (s : StatusSnapshot) (key value : String) : StatusSnapshot :=
  match key with
  | "state" => { s with state := value }
  | "state_num" => { s with stateNum := parseI32 value }
  | "up" => { s with up := value == "true" }
  | "uptime" => { s with uptimeSecs := parseU64 value }
  | "modulation" => { s with modulation := value }
  | "annex" => { s with annex := value }
  | "xfer_mode" => { s with xferMode := value }
  | "down_rate" => { s with downRate := parseU32 value }
  | "up_rate" => { s with upRate := parseU32 value }
  | "down_snr" => { s with downSnr := parseU32 value }
  | "up_snr" => { s with upSnr := parseU32 value }
  | "fw_status" => { s with fwStatus := value }
  | _ => s

def readLine (s : StatusSnapshot) (line : String) : StatusSnapshot :=
  match splitOnce ": " line with
  | some (k, v) => s.setField (trim k) (trim v)
  | none => s

/-- Parse `key: value` lines back into a snapshot. -/
def fromLines (body : String) : StatusSnapshot := (strLines body).foldl readLine {}

end StatusSnapshot

/-! ## The server -/

/-- `str::strip_prefix`. -/
def stripPrefix (s start : String) : Option String :=
  if startsWith s start then some (String.ofList (s.toList.drop start.toList.length)) else none

/-- What a client is sent, and what the daemon is to do. -/
def handleClient (line : String) (stream : Nat) (snapshot : StatusSnapshot) :
    String × IpcAction :=
  let cmd := trim line
  match stripPrefix cmd "FIRMWARE " with
  | some path => ("", .firmwareUpgrade (trim path) stream)
  | none =>
    match cmd with
    | "STATUS" => (s!"OK\n{snapshot.toLines}\n.\n", .none)
    | "RELOAD" => ("OK reloading\n", .reload)
    | "RESTART" => ("OK restarting line\n", .restartLine)
    | "STOP" => ("OK stopping\n", .stop)
    | other => (s!"ERR: unknown command '{other}'\n", .none)

/-! ## The entries of a snapshot -/

namespace StatusSnapshot

/-- A text that is one line, without white space at its ends. -/
structure PlainText (text : String) : Prop where
  feed : '\n' ∉ text.toList
  trimmed : trim text = text

/-- Texts that stand on their lines, and an uptime of 64 bits. -/
structure Plain (s : StatusSnapshot) : Prop where
  state : PlainText s.state
  modulation : PlainText s.modulation
  annex : PlainText s.annex
  xferMode : PlainText s.xferMode
  fwStatus : PlainText s.fwStatus
  uptimeSecs : s.uptimeSecs < 18446744073709551616

/-- The fields with their keys, as they are printed. -/
def entries (s : StatusSnapshot) : List (String × String) :=
  [("state", s.state), ("state_num", toString s.stateNum.toInt), ("up", toString s.up),
    ("uptime", toString s.uptimeSecs), ("modulation", s.modulation), ("annex", s.annex),
    ("xfer_mode", s.xferMode), ("down_rate", toString s.downRate.toNat),
    ("up_rate", toString s.upRate.toNat), ("down_snr", toString s.downSnr.toNat),
    ("up_snr", toString s.upSnr.toNat), ("fw_status", s.fwStatus)]

/-- Each label is a key and a separator, with a line feed in front from the second one on. -/
theorem labels : "state: " = "state" ++ ": " ∧ "\nstate_num: " = "\n" ++ ("state_num" ++ ": ") ∧
    "\nup: " = "\n" ++ ("up" ++ ": ") ∧ "\nuptime: " = "\n" ++ ("uptime" ++ ": ") ∧
    "modulation: " = "modulation" ++ ": " ∧ "\nannex: " = "\n" ++ ("annex" ++ ": ") ∧
    "\nxfer_mode: " = "\n" ++ ("xfer_mode" ++ ": ") ∧ "down_rate: " = "down_rate" ++ ": " ∧
    "\nup_rate: " = "\n" ++ ("up_rate" ++ ": ") ∧ "\ndown_snr: " = "\n" ++ ("down_snr" ++ ": ") ∧
    "up_snr: " = "up_snr" ++ ": " ∧ "\nfw_status: " = "\n" ++ ("fw_status" ++ ": ") := by
  decide

theorem toLines_eq (s : StatusSnapshot) : s.toLines = joinLines (s.entries.map entryLine) := by
  obtain ⟨l1, l2, l3, l4, l5, l6, l7, l8, l9, l10, l11, l12⟩ := labels
  have text (value : String) : toString value = value := rfl
  have number (value : UInt32) : toString value.toNat = toString value := rfl
  have signed : toString s.stateNum.toInt = toString s.stateNum := rfl
  unfold toLines
  simp only [l1, l2, l3, l4, l5, l6, l7, l8, l9, l10, l11, l12, text, number, signed, entries,
    List.map, joinLines, entryLine, String.append_assoc]

/-- A value without white space is plain. -/
theorem plainText_of_visible {text : String}
    (visible : ∀ c ∈ text.toList, isWhitespace c = false) : PlainText text where
  feed member := absurd (visible _ member) (by decide)
  trimmed := trim_of_visible visible

theorem plainText_toString (value : Int) : PlainText (toString value) :=
  plainText_of_visible fun _ member => isWhitespace_of_mem_toString member

theorem plainText_toString_nat (value : Nat) : PlainText (toString value) :=
  plainText_toString (.ofNat value)

section RoundTrip

variable {s : StatusSnapshot}

theorem plainEntry_of_mem (plain : s.Plain) {entry : String × String} (member : entry ∈ s.entries) :
    PlainEntry entry := by
  have keys : ∀ key ∈ s.entries.map (·.1),
      ':' ∉ key.toList ∧ '\n' ∉ key.toList ∧ trim key = key := by
    show ∀ key ∈ ["state", "state_num", "up", "uptime", "modulation", "annex", "xfer_mode",
      "down_rate", "up_rate", "down_snr", "up_snr", "fw_status"], _
    decide
  have flag : PlainText (toString s.up) := by
    cases s.up
    · exact ⟨by decide, by decide⟩
    · exact ⟨by decide, by decide⟩
  have values : ∀ value ∈ s.entries.map (·.2), PlainText value := by
    simp only [entries, List.map, List.forall_mem_cons]
    exact ⟨plain.state, plainText_toString _, flag, plainText_toString_nat _, plain.modulation,
      plain.annex, plain.xferMode, plainText_toString_nat _, plainText_toString_nat _,
      plainText_toString_nat _, plainText_toString_nat _, plain.fwStatus, List.forall_mem_nil _⟩
  have key := keys entry.1 (List.mem_map_of_mem member)
  have value := values entry.2 (List.mem_map_of_mem member)
  exact ⟨key.1, key.2.1, key.2.2, value.feed, value.trimmed⟩

/-- A line that was printed sets the field of its key. -/
theorem readLine_entryLine (before : StatusSnapshot) {entry : String × String}
    (plain : PlainEntry entry) :
    before.readLine (entryLine entry) = before.setField entry.1 entry.2 := by
  rw [readLine, splitOnce_entryLine plain]
  dsimp only
  rw [plain.keyTrimmed, plain.trimmed]

theorem parseU32_toString (value : UInt32) : parseU32 (toString value.toNat) = value := by
  rw [parseU32, parseUnsigned_toString value.toNat_lt, Option.getD_some, UInt32.ofNat_toNat]

theorem parseI32_toString (value : Int32) : parseI32 (toString value.toInt) = value := by
  rw [parseI32, parseSigned_toString value.le_toInt value.toInt_lt, Option.getD_some,
    Int32.ofInt_toInt]

theorem parseU64_toString {value : Nat} (below : value < 18446744073709551616) :
    parseU64 (toString value) = value := by
  rw [parseU64, parseUnsigned_toString below, Option.getD_some]

/-- The printed lines of a snapshot set all of its fields. -/
theorem foldl_entries (plain : s.Plain) (before : StatusSnapshot) :
    (s.entries.map entryLine).foldl readLine before = s := by
  have reads : (s.entries.map entryLine).foldl readLine before =
      s.entries.foldl (fun read entry => read.setField entry.1 entry.2) before := by
    rw [List.foldl_map]
    apply List.foldl_ext
    intro read entry member
    exact readLine_entryLine read (plainEntry_of_mem plain member)
  have flag : (toString s.up == "true") = s.up := by cases s.up <;> decide
  rw [reads]
  simp only [entries, List.foldl_cons, List.foldl_nil, setField, parseU32_toString,
    parseI32_toString, parseU64_toString plain.uptimeSecs, flag]

/-- The reply to `STATUS`: a line before the snapshot, and a dot behind it. -/
theorem statusReply_eq (s : StatusSnapshot) (stream : Nat) :
    (handleClient "STATUS\n" stream s).1 = "OK" ++ "\n" ++ (s.toLines ++ "\n" ++ ".\n") := by
  have cmd : trim "STATUS\n" = "STATUS" := by decide
  have other : stripPrefix "STATUS" "FIRMWARE " = none := by decide
  have first : "OK\n" = "OK" ++ "\n" := by decide
  have last : "\n.\n" = "\n" ++ ".\n" := by decide
  have text (value : String) : toString value = value := rfl
  simp only [handleClient, cmd, other, first, last, text, String.append_assoc]

/-- A snapshot of plain texts is parsed back, from its lines and from the whole reply. -/
theorem fromLines_toLines (s : StatusSnapshot) (plain : s.Plain) (stream : Nat) :
    fromLines s.toLines = s ∧
      fromLines (handleClient "STATUS\n" stream s).1 = s := by
  have lines : ∀ line ∈ s.entries.map entryLine, OneLine line := by
    rw [List.forall_mem_map]
    exact fun entry member => oneLine_entryLine (plainEntry_of_mem plain member)
  have visible : ∀ line ∈ s.entries.map entryLine, line ≠ "" := by
    rw [List.forall_mem_map]
    exact fun _ _ => entryLine_ne_empty
  have reply : (handleClient "STATUS\n" stream s).1 =
      "OK" ++ "\n" ++ (s.toLines ++ "\n" ++ ".\n") := statusReply_eq s stream
  constructor
  · rw [fromLines, toLines_eq, strLines_joinLines lines visible]
    exact foldl_entries plain {}
  · have ok : OneLine "OK" := ⟨by decide, by decide⟩
    have dot : strLines ".\n" = ["."] := by decide
    rw [reply, fromLines, strLines_cons ok, toLines_eq,
      strLines_joinLines_append lines (List.cons_ne_nil _ _), dot, List.foldl_cons,
      List.foldl_append]
    rw [foldl_entries plain]
    rfl

end RoundTrip

/-- Texts that look like entries, or are empty, and numbers at the ends of their ranges. -/
def extremes : StatusSnapshot where
  state := "up: false"
  stateNum := -2147483648
  up := true
  uptimeSecs := 18446744073709551615
  annex := ":"
  downSnr := 4294967295
  fwStatus := "failed: annex: B"

theorem fromLines_toLines_extremes :
    fromLines extremes.toLines = extremes ∧
      fromLines (handleClient "STATUS\n" 0 extremes).1 = extremes := by
  refine fromLines_toLines extremes ?_ 0
  constructor
  · exact ⟨by decide, by decide⟩
  · exact ⟨by decide, by decide⟩
  · exact ⟨by decide, by decide⟩
  · exact ⟨by decide, by decide⟩
  · exact ⟨by decide, by decide⟩
  · decide

end StatusSnapshot

end RbctlDsl.Dsl

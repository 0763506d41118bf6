import Mathlib.Data.List.Infix
import RbctlDsl.Dsl.StatusText
import RbctlDsl.Lib.Decimal

/-!
# The control commands

`ipc_exit` of `main.rs`: a second instance sends one line to the daemon, prints what it is answered
and ends with an exit code that a search of the answer gives.
-/

namespace RbctlDsl.Dsl

open RbctlDsl.Lib RbctlDsl.Proto

inductive IpcCmd where
  | status | reload | restart | stop
  deriving DecidableEq, Repr

def IpcCmd.asWire : IpcCmd → String
  | .status => "STATUS"
  | .reload => "RELOAD"
  | .restart => "RESTART"
  | .stop => "STOP"

/-- What the daemon is asked for. -/
def IpcCmd.action : IpcCmd → IpcAction
  | .status => .none
  | .reload => .reload
  | .restart => .restartLine
  | .stop => .stop

/-- What the daemon answers. -/
def IpcCmd.reply (snapshot : StatusSnapshot) : IpcCmd → String
  | .status => s!"OK\n{snapshot.toLines}\n.\n"
  | .reload => "OK reloading\n"
  | .restart => "OK restarting line\n"
  | .stop => "OK stopping\n"

/-- `str::contains`. -/
def contains (s part : String) : Bool := s.toList.tails.any part.toList.isPrefixOf

/-- The line goes out, and everything up to the end of the connection is the answer. -/
def sendCommand (exchange : String → Except String String) (cmd : IpcCmd) : Except String String :=
  exchange (cmd.asWire ++ "\n")

/-- What is printed, and the exit code. -/
def ipcExit (exchange : String → Except String String) (cmd : IpcCmd) : Option String × Nat :=
  match sendCommand exchange cmd with
  | .ok response => (some response, if contains response "ERR" then 1 else 0)
  | .error _ => (none, 1)

/-- A daemon in this state at the other end. -/
def answerOf (state : DslState) (stream : Nat) (line : String) : Except String String :=
  .ok (handleClient line stream (buildSnapshot state)).1

/-! ## Where a text can occur -/

theorem contains_iff {s part : String} : contains s part = true ↔ part.toList <:+: s.toList := by
  rw [contains, List.any_eq_true, List.infix_iff_prefix_suffix]
  constructor
  · rintro ⟨rest, isTail, begins⟩
    exact ⟨rest, List.isPrefixOf_iff_prefix.mp begins, (List.mem_tails _ _).mp isTail⟩
  · rintro ⟨rest, begins, isTail⟩
    exact ⟨rest, (List.mem_tails _ _).mpr isTail, List.isPrefixOf_iff_prefix.mpr begins⟩

section Fresh

variable {α : Type} {part front text back : List α}

/-- What has no element in common with the front of a text does not begin there. -/
theorem infix_of_fresh (fresh : ∀ a ∈ part, a ∉ front) (occurs : part <:+: front ++ text) :
    part <:+: text := by
  obtain ⟨before, behind, equal⟩ := occurs
  rw [List.append_assoc] at equal
  rcases List.append_eq_append_iff.mp equal with ⟨rest, split, same⟩ | ⟨rest, split, same⟩
  · cases part with
    | nil => exact List.nil_infix
    | cons a part =>
        cases rest with
        | nil => exact ⟨[], behind, by simpa using same⟩
        | cons b rest =>
            rw [List.cons_append, List.cons_append, List.cons.injEq] at same
            have inside : a ∈ front := by simp [split, same.1]
            exact absurd inside (fresh a List.mem_cons_self)
  · exact ⟨rest, behind, by rw [List.append_assoc, same]⟩

theorem infix_of_fresh_back (fresh : ∀ a ∈ part, a ∉ back) (occurs : part <:+: text ++ back) :
    part <:+: text := by
  rw [← List.reverse_infix, List.reverse_append] at occurs
  rw [← List.reverse_infix]
  exact infix_of_fresh (by simpa using fresh) occurs

/-- Nothing around a text adds to the places where it occurs. -/
theorem infix_iff_of_fresh (before : ∀ a ∈ part, a ∉ front) (behind : ∀ a ∈ part, a ∉ back) :
    part <:+: front ++ (text ++ back) ↔ part <:+: text := by
  constructor
  · exact fun occurs => infix_of_fresh_back behind (infix_of_fresh before occurs)
  · rintro ⟨left, right, rfl⟩
    exact ⟨front ++ left, right ++ back, by simp⟩

end Fresh

/-- A text without the letters of the search. -/
def Mute (text : String) : Prop := ∀ c ∈ "ERR".toList, c ∉ text.toList

theorem mute_append {first second : String} (left : Mute first) (right : Mute second) :
    Mute (first ++ second) := by
  intro c letter member
  rw [String.toList_append, List.mem_append] at member
  exact member.elim (left c letter) (right c letter)

theorem mute_toString (value : Nat) : Mute (toString value) := by
  intro c letter member
  have digit := isDigit_of_mem_toString member
  have letters : ("ERR".toList.all fun c => !c.isDigit) = true := by decide
  have other := List.all_eq_true.mp letters c letter
  rw [digit] at other
  cases other

theorem contains_middle {front text back : String} (before : Mute front) (behind : Mute back) :
    contains (front ++ (text ++ back)) "ERR" = contains text "ERR" := by
  rw [Bool.eq_iff_iff, contains_iff, contains_iff, String.toList_append, String.toList_append]
  exact infix_iff_of_fresh before behind

/-! ## The exit code -/

/-- A snapshot with nothing to be found in it, except for the state of an upgrade. -/
structure MuteSnapshot (s : StatusSnapshot) : Prop where
  state : Mute s.state
  stateNum : Mute (toString s.stateNum)
  modulation : Mute s.modulation
  annex : Mute s.annex
  xferMode : Mute s.xferMode

instance decidableMute (text : String) : Decidable (Mute text) :=
  List.decidableBAll (fun c => c ∉ text.toList) "ERR".toList

theorem mute_buildSnapshot (state : DslState) : MuteSnapshot (buildSnapshot state) := by
  have link (status : LinkStatus) : Mute (mapLinkStatus status).1 ∧
      Mute (toString (mapLinkStatus status).2.1) := by
    cases status <;> (simp only [mapLinkStatus]; decide)
  have annex (code : UInt8) : Mute (annexString code) := by
    rw [annexString]
    split <;> decide
  have xferMode (mode : XferMode) : Mute (debugXferMode mode) := by cases mode <;> decide
  have modulation (mod : Modulation) : Mute (debugModulation mod) := by cases mod <;> decide
  have configured (anx : Annex) : Mute (debugAnnex anx) := by cases anx <;> decide
  have absent : Mute "" ∧ Mute (toString (0 : Int32)) := by decide
  rw [buildSnapshot]
  split
  · next line _ =>
      exact ⟨(link line.linkStatus).1, (link line.linkStatus).2,
        mute_toString line.modulationCode.toNat, annex line.annexCode, xferMode _⟩
  · exact ⟨absent.1, absent.2, modulation state.modulation, configured state.annex, xferMode _⟩

/-- Lines with a line feed behind each. -/
def linesBefore (lines : List String) : String :=
  lines.foldr (fun line text => line ++ "\n" ++ text) ""

theorem joinLines_concat (lines : List String) (last : String) :
    joinLines (lines ++ [last]) = linesBefore lines ++ last := by
  induction lines with
  | nil => simp [joinLines, linesBefore]
  | cons line lines ih =>
      have more : lines ++ [last] ≠ [] := by simp
      have unfolded : linesBefore (line :: lines) = line ++ "\n" ++ linesBefore lines := rfl
      rw [List.cons_append, joinLines, ih, unfolded]
      · simp only [String.append_assoc]
      · exact more

theorem mute_linesBefore {lines : List String} (mute : ∀ line ∈ lines, Mute line) :
    Mute (linesBefore lines) := by
  induction lines with
  | nil => decide
  | cons line lines ih =>
      rw [List.forall_mem_cons] at mute
      exact mute_append (mute_append mute.1 (by decide)) (ih mute.2)

theorem mute_entries {s : StatusSnapshot} (mute : MuteSnapshot s) :
    ∀ entry ∈ s.entries.take 11, Mute entry.1 ∧ Mute entry.2 := by
  have keys : ∀ key ∈ ["state", "state_num", "up", "uptime", "modulation", "annex", "xfer_mode",
      "down_rate", "up_rate", "down_snr", "up_snr"], Mute key := by decide
  have flag : Mute (toString s.up) := by cases s.up <;> decide
  have values : ∀ value ∈ (s.entries.take 11).map (·.2), Mute value := by
    simp only [StatusSnapshot.entries, List.take_succ_cons, List.take_zero, List.map,
      List.forall_mem_cons]
    exact ⟨mute.state, mute.stateNum, flag, mute_toString _, mute.modulation, mute.annex,
      mute.xferMode, mute_toString _, mute_toString _, mute_toString _, mute_toString _,
      List.forall_mem_nil _⟩
  intro entry member
  exact ⟨keys entry.1 (List.mem_map_of_mem member), values entry.2 (List.mem_map_of_mem member)⟩

theorem contains_statusReply {s : StatusSnapshot} (mute : MuteSnapshot s) (stream : Nat) :
    contains (handleClient "STATUS\n" stream s).1 "ERR" = contains s.fwStatus "ERR" := by
  have split : s.entries.map entryLine =
      (s.entries.take 11).map entryLine ++ ["fw_status" ++ ": " ++ s.fwStatus] := rfl
  have before : Mute (linesBefore ((s.entries.take 11).map entryLine)) := by
    refine mute_linesBefore (List.forall_mem_map.mpr fun entry member => ?_)
    obtain ⟨key, value⟩ := mute_entries mute entry member
    exact mute_append (mute_append key (by decide)) value
  have layout : (handleClient "STATUS\n" stream s).1 =
      ("OK" ++ "\n" ++
        (linesBefore ((s.entries.take 11).map entryLine) ++ ("fw_status" ++ ": "))) ++
          (s.fwStatus ++ ("\n" ++ ".\n")) := by
    rw [StatusSnapshot.statusReply_eq, StatusSnapshot.toLines_eq, split, joinLines_concat]
    simp only [String.append_assoc]
  rw [layout]
  exact contains_middle (mute_append (by decide) (mute_append before (by decide))) (by decide)

theorem contains_of_mute {text : String} (mute : Mute text) : contains text "ERR" = false := by
  rw [Bool.eq_false_iff, Ne, contains_iff]
  intro occurs
  exact mute 'E' (by decide) (occurs.mem (by decide))

/-- Of the states of an upgrade only the one with a message can have the letters. -/
theorem contains_asStr (status : FwStatus) : contains status.asStr "ERR" = true ↔
    ∃ msg, status = .failed msg ∧ contains msg "ERR" = true := by
  cases status with
  | idle => exact iff_of_false (by decide) (by simp)
  | upgrading => exact iff_of_false (by decide) (by simp)
  | upgradingProgress stage pct =>
      have mute : Mute (FwStatus.upgradingProgress stage pct).asStr :=
        mute_append (mute_append (mute_append (mute_append (by decide)
          (mute_toString stage.toNat)) (by decide)) (mute_toString pct.toNat)) (by decide)
      exact iff_of_false (by rw [contains_of_mute mute]; decide) (by simp)
  | done => exact iff_of_false (by decide) (by simp)
  | failed msg =>
      have found : contains ("failed: " ++ (msg ++ "")) "ERR" = contains msg "ERR" :=
        contains_middle (by decide) (by decide)
      rw [String.append_empty] at found
      change contains ("failed: " ++ msg) "ERR" = true ↔ _
      rw [found]
      simp

theorem handleClient_asWire (cmd : IpcCmd) (stream : Nat) (s : StatusSnapshot) :
    handleClient (cmd.asWire ++ "\n") stream s = (cmd.reply s, cmd.action) := by
  have trimmed : trim (cmd.asWire ++ "\n") = cmd.asWire := by cases cmd <;> decide
  have other : stripPrefix cmd.asWire "FIRMWARE " = none := by cases cmd <;> decide
  simp only [handleClient, trimmed, other]
  cases cmd <;> rfl

theorem contains_reply (state : DslState) (cmd : IpcCmd) :
    contains (cmd.reply (buildSnapshot state)) "ERR" = true ↔
      cmd = .status ∧ ∃ msg, state.fwStatus = .failed msg ∧ contains msg "ERR" = true := by
  have mute : contains "OK reloading\n" "ERR" = false ∧
      contains "OK restarting line\n" "ERR" = false ∧
      contains "OK stopping\n" "ERR" = false := by decide
  have status : (buildSnapshot state).fwStatus = state.fwStatus.asStr := by
    rw [buildSnapshot]
    split <;> rfl
  cases cmd with
  | status =>
      have found := contains_statusReply (mute_buildSnapshot state) 0
      have asked : IpcCmd.status.asWire ++ "\n" = "STATUS\n" := by decide
      rw [← asked, handleClient_asWire] at found
      rw [found, status, contains_asStr]
      simp
  | reload => simp [IpcCmd.reply, mute.1]
  | restart => simp [IpcCmd.reply, mute.2.1]
  | stop => simp [IpcCmd.reply, mute.2.2]

/-- A control command that reaches the daemon asks for its own action and is answered; its exit code
is 0 or 1, and 1 only for `status`, where the message of a failed upgrade has the letters that the
answer is searched for. -/
theorem control_commands (state : DslState) (stream : Nat) (cmd : IpcCmd) :
    (handleClient (cmd.asWire ++ "\n") stream (buildSnapshot state)).2 = cmd.action ∧
    ∃ code, ipcExit (answerOf state stream) cmd = (some (cmd.reply (buildSnapshot state)), code) ∧
      code ≤ 1 ∧ (code = 1 ↔ cmd = .status ∧
        ∃ msg, state.fwStatus = .failed msg ∧ contains msg "ERR" = true) := by
  refine ⟨congrArg Prod.snd (handleClient_asWire cmd stream _),
    if contains (cmd.reply (buildSnapshot state)) "ERR" then 1 else 0, ?_, ?_, ?_⟩
  · rw [ipcExit, sendCommand, answerOf, handleClient_asWire]
  · split <;> decide
  · rw [← contains_reply]
    split
    · next found => exact iff_of_true rfl found
    · next missing => exact iff_of_false (by decide) missing

end RbctlDsl.Dsl

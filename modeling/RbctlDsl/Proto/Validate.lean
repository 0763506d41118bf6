import RbctlDsl.Proto.Pack
import RbctlDsl.Lib.Result

/-!
# Line configuration rules

`validate.rs`: the guard that rejects inconsistent `(modulation, annex, profile)` triples
and transport modes before a command is sent.
-/

namespace RbctlDsl.Proto

open RbctlDsl.Lib

/-- Transport mode hint for `validateXferMode`. -/
inductive TransportHint where
  | atm | ptm
  deriving DecidableEq, Repr

inductive LineConfigError where
  /-- Non-zero VDSL2 profile bitmask with an ADSL modulation code. -/
  | profileRequiresVdsl2 (modulation : UInt8) (profileBitmask : UInt32)
  /-- The modulation standard has no annex concept. -/
  | annexesNotDefined (modulation : UInt8)
  /-- An annex letter is not in the modulation's set. -/
  | annexNotInStandard (annex modulation : UInt8) (letter : Char) (valid : List Char)
  | xferModeMismatch (modulation : UInt8) (expected actual : TransportHint)
  deriving DecidableEq, Repr

/-- The annex letters of a modulation code; `none` where the standard has no annex. -/
def validAnnexes (modulation : UInt8) : Option (List Char) :=
  if modulation = 0 ∨ modulation = 2 then none
  else if modulation = 1 then some ['A', 'B', 'C']
  else if modulation = 3 then some ['A', 'B', 'C', 'I', 'J', 'M']
  else if modulation = 4 ∨ modulation = 5 ∨ modulation = 6 ∨ modulation = 7 then
    some ['A', 'B', 'C', 'I', 'J', 'L', 'M']
  else none

/-- The letters of an annex code. -/
def annexLetters (annex : UInt8) : List Char :=
  if annex = 0 then ['A']
  else if annex = 1 then ['B']
  else if annex = 2 then ['I']
  else if annex = 3 then ['M']
  else if annex = 4 then ['A', 'L']
  else if annex = 5 then ['A', 'L', 'M']
  else if annex = 6 then ['J']
  else if annex = 7 then ['B', 'J']
  -- Annex auto has no letters to check
  else []

def isAdsl (modulation : UInt8) : Bool := modulation ≤ 5

def isVdsl2 (modulation : UInt8) : Bool := modulation == 6

/-- Validate the `(modulation, annex, profile)` triple. -/
def validateLineConfig (modulation : Modulation) (annex : Annex) (profiles : Vdsl2Profiles) :
    Except LineConfigError Unit := do
  let modCode := modulation.code
  let annexCode := annex.code
  let bitmask := profiles.bitmask
  -- Rule 1: profile and modulation
  if bitmask ≠ 0 ∧ ¬ (modCode = 6 ∨ modCode = 7) then
    throw (.profileRequiresVdsl2 modCode bitmask)
  -- Rule 2: annex and modulation
  if annexCode ≠ 8 then
    match validAnnexes modCode with
    | none => throw (.annexesNotDefined modCode)
    | some valid =>
      (annexLetters annexCode).forM fun letter =>
        if valid.contains letter then pure ()
        else throw (.annexNotInStandard annexCode modCode letter valid)

/-- Validate the `(modulation, transport)` consistency: VDSL2 requires PTM, the ADSL codes
require ATM, and Multimode accepts either. -/
def validateXferMode (modulation : Modulation) (transport : TransportHint) :
    Except LineConfigError Unit := do
  let modCode := modulation.code
  if isVdsl2 modCode && transport != .ptm then
    throw (.xferModeMismatch modCode .ptm transport)
  if isAdsl modCode && transport != .atm then
    throw (.xferModeMismatch modCode .atm transport)

/-- A transport mode that the two exclusive families accept. -/
theorem validateXferMode_iff (modulation : Modulation) (transport : TransportHint) :
    validateXferMode modulation transport = .ok () ↔
      modulation = .multimode ∨ (modulation = .vdsl2 ↔ transport = .ptm) := by
  cases modulation <;> cases transport <;> decide

/-- The encoder and the first rule agree on who carries profiles. -/
theorem carriesProfiles_iff (modulation : Modulation) :
    modulation.carriesProfiles = true ↔ modulation.code = 6 ∨ modulation.code = 7 := by
  cases modulation <;> decide

/-- Profiles that the first rule lets through play no further part. -/
theorem validateLineConfig_profiles (modulation : Modulation) (annex : Annex)
    (profiles : Vdsl2Profiles)
    (allowed : profiles.bitmask = 0 ∨ modulation.carriesProfiles = true) :
    validateLineConfig modulation annex profiles =
      validateLineConfig modulation annex .none := by
  have given : ¬ (profiles.bitmask ≠ 0 ∧ ¬ (modulation.code = 6 ∨ modulation.code = 7)) := by
    rintro ⟨nonzero, single⟩
    cases allowed with
    | inl zero => exact nonzero zero
    | inr carries => exact single ((carriesProfiles_iff modulation).mp carries)
  have absent : ¬ (Vdsl2Profiles.none.bitmask ≠ 0 ∧
      ¬ (modulation.code = 6 ∨ modulation.code = 7)) := fun both => both.1 rfl
  simp only [validateLineConfig, if_neg given, if_neg absent]

/-- Every letter that an annex name can stand for is in the sets of the two modulations
that a configuration file can select. -/
theorem validateLineConfig_vdsl2 (annex : Annex) (profiles : Vdsl2Profiles) :
    validateLineConfig .vdsl2 annex profiles = .ok () := by
  rw [validateLineConfig_profiles .vdsl2 annex profiles (.inr rfl)]
  cases annex <;> decide

theorem validateLineConfig_adsl2Plus (annex : Annex) :
    validateLineConfig .adsl2Plus annex .none = .ok () := by
  cases annex <;> decide

end RbctlDsl.Proto

import RbctlDsl.Lib.Bytes

/-!
# Classic packet filters

The language of socket filters, as far as it reads a packet, jumps and returns: its meaning, and
the check that a program has to pass.  A jump is relative to the next instruction and goes forward,
so a checked program ends on every packet.
-/

namespace RbctlDsl.Lib

namespace Bpf

/-- `sock_filter`. -/
structure SockFilter where
  code : UInt16
  jt : UInt8
  jf : UInt8
  k : UInt32
  deriving DecidableEq, Repr

inductive Width where
  | word
  | half
  | byte
  deriving DecidableEq, Repr

/-- The comparisons of the accumulator with a constant. -/
inductive Comparison where
  | equal
  | greater
  | greaterOrEqual
  | bits
  deriving DecidableEq, Repr

inductive Insn where
  | load (width : Width) (offset : UInt32)
  | jump (comparison : Comparison) (k : UInt32) (jt jf : UInt8)
  | always (k : UInt32)
  | ret (k : UInt32)
  | retAcc
  deriving DecidableEq, Repr

/-- The instruction that a code stands for. -/
def SockFilter.insn (filter : SockFilter) : Option Insn :=
  match filter.code with
  | 0x20 => some (.load .word filter.k)
  | 0x28 => some (.load .half filter.k)
  | 0x30 => some (.load .byte filter.k)
  | 0x05 => some (.always filter.k)
  | 0x15 => some (.jump .equal filter.k filter.jt filter.jf)
  | 0x25 => some (.jump .greater filter.k filter.jt filter.jf)
  | 0x35 => some (.jump .greaterOrEqual filter.k filter.jt filter.jf)
  | 0x45 => some (.jump .bits filter.k filter.jt filter.jf)
  | 0x06 => some (.ret filter.k)
  | 0x16 => some .retAcc
  | _ => none

/-! ## Meaning -/

/-- The number at an offset of a packet, in the order of the network. -/
def Width.read (packet : Bytes) (offset : Nat) : Width → Option UInt32
  | .word => be32At? packet offset
  | .half => (be16At? packet offset).map UInt16.toUInt32
  | .byte => packet[offset]?.map UInt8.toUInt32

def Comparison.holds (acc k : UInt32) : Comparison → Bool
  | .equal => acc == k
  | .greater => k < acc
  | .greaterOrEqual => k ≤ acc
  | .bits => acc &&& k != 0

/-- What comes after an instruction in front of others: the verdict, or how many of them are passed
over and the accumulator. -/
def Insn.next (packet : Bytes) (acc : UInt32) : Insn → UInt32 ⊕ Nat × UInt32
  | .load width offset =>
    match width.read packet offset.toNat with
    | none => .inl 0
    | some value => .inr (0, value)
  | .jump comparison k jt jf =>
    .inr (if comparison.holds acc k then jt.toNat else jf.toNat, acc)
  | .always k => .inr (k.toNat, acc)
  | .ret k => .inl k
  | .retAcc => .inl acc

/-- The verdict of a program on a packet, with a bound on the number of its steps.  A program that
it leaves at its end has none. -/
def run (packet : Bytes) : Nat → List SockFilter → UInt32 → Option UInt32
  | 0, _, _ => none
  | _ + 1, [], _ => none
  | fuel + 1, filter :: rest, acc => do
    let insn ← filter.insn
    match insn.next packet acc with
    | .inl verdict => some verdict
    | .inr (skip, acc) => run packet fuel (rest.drop skip) acc

/-- What a socket with this filter gets of a packet: no more bytes of it than the verdict says, and
nothing at all for the verdict 0. -/
def kept (program : List SockFilter) (packet : Bytes) : Option Bytes :=
  match run packet program.length program 0 with
  | none => none
  | some verdict => if verdict = 0 then none else some (packet.take verdict.toNat)

/-! ## The check -/

/-- It stays in a program that goes on with `behind` instructions. -/
def Insn.staysIn (behind : Nat) : Insn → Bool
  | .load .. => 0 < behind
  | .jump _ _ jt jf => jt.toNat < behind && jf.toNat < behind
  | .always k => k.toNat < behind
  | .ret _ | .retAcc => true

def Checked : List SockFilter → Prop
  | [] => True
  | filter :: rest => filter.insn.any (Insn.staysIn rest.length) = true ∧ Checked rest

theorem checked_drop {program : List SockFilter} (checked : Checked program) (count : Nat) :
    Checked (program.drop count) := by
  induction count generalizing program with
  | zero => exact checked
  | succ count ih =>
      cases program with
      | nil => trivial
      | cons filter rest => exact ih checked.2

/-- An instruction that stays in its program leaves something behind it. -/
theorem skip_lt {insn : Insn} {behind : Nat} (stays : insn.staysIn behind = true) {packet : Bytes}
    {acc acc' : UInt32} {skip : Nat} (goes : insn.next packet acc = .inr (skip, acc')) :
    skip < behind := by
  cases insn with
  | load width offset =>
      rw [Insn.next] at goes
      split at goes
      · cases goes
      · cases goes
        exact of_decide_eq_true stays
  | jump comparison k jt jf =>
      simp only [Insn.staysIn, Bool.and_eq_true, decide_eq_true_iff] at stays
      cases goes
      split
      · exact stays.1
      · exact stays.2
  | always k =>
      cases goes
      exact of_decide_eq_true stays
  | ret k => cases goes
  | retAcc => cases goes

/-- A checked program has a verdict on every packet, after no more steps than it has
instructions. -/
theorem run_of_checked {program : List SockFilter} (checked : Checked program)
    (begins : program ≠ []) (packet : Bytes) (acc : UInt32) {fuel : Nat}
    (enough : program.length ≤ fuel) : ∃ verdict, run packet fuel program acc = some verdict := by
  induction fuel generalizing program acc with
  | zero => exact absurd (List.length_eq_zero_iff.mp (Nat.le_zero.mp enough)) begins
  | succ fuel ih =>
      cases program with
      | nil => exact absurd rfl begins
      | cons filter rest =>
          obtain ⟨insn, isInsn, stays⟩ := (Option.any_eq_true _ _).mp checked.1
          rw [run, isInsn]
          cases goes : insn.next packet acc with
          | inl verdict => exact ⟨verdict, by simp [goes]⟩
          | inr onward =>
              obtain ⟨skip, acc'⟩ := onward
              have inside : skip < rest.length := skip_lt stays goes
              have remain : rest.drop skip ≠ [] := by simpa using inside
              have shorter : (rest.drop skip).length ≤ fuel := by
                simp only [List.length_drop, List.length_cons] at *
                omega
              simpa [goes] using ih (checked_drop checked.2 skip) remain acc' shorter

end Bpf

end RbctlDsl.Lib

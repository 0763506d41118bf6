import RbctlDsl.Lib.Text

/-!
# Decimal numbers

A number that is printed in decimal is read back by `str::parse`, at every type that holds it.
-/

namespace RbctlDsl.Lib

/-- `str::parse` for a signed integer type with `2 * bound` values: a minus sign and at least one
digit, or what an unsigned type reads. -/
def parseSigned (bound : Nat) (s : String) : Option Int :=
  match s.toList with
  | '-' :: [] => none
  | '-' :: digits => (parseDigits (bound + 1) 0 digits).map fun value => -↑value
  | _ => (parseUnsigned bound s).map Int.ofNat

/-! ## Digits -/

theorem digitValue_digitChar {digit : Nat} (below : digit < 10) :
    digitValue digit.digitChar = some digit := by
  have all : ∀ digit < 10, digitValue (Nat.digitChar digit) = some digit := by decide
  exact all digit below

theorem parseDigits_append (bound value : Nat) (first later : List Char) :
    parseDigits bound value (first ++ later) =
      (parseDigits bound value first).bind (parseDigits bound · later) := by
  induction first generalizing value with
  | nil => rfl
  | cons c first ih =>
      rw [List.cons_append, parseDigits, parseDigits]
      cases digitValue c with
      | none => rfl
      | some digit =>
          change (if value * 10 + digit < bound then _ else none) =
            (if value * 10 + digit < bound then _ else none).bind _
          split
          · exact ih (value * 10 + digit)
          · rfl

/-- The digits of a number spell it. -/
theorem parseDigits_toDigits {bound value : Nat} (below : value < bound) :
    parseDigits bound 0 (Nat.toDigits 10 value) = some value := by
  have single (before digit : Nat) (small : digit < 10) (fits : before * 10 + digit < bound) :
      parseDigits bound before [digit.digitChar] = some (before * 10 + digit) := by
    rw [parseDigits, digitValue_digitChar small]
    exact if_pos fits
  induction value using Nat.strongRecOn with
  | ind value ih =>
      by_cases small : value < 10
      · rw [Nat.toDigits_of_lt_base small, single 0 value small (by omega), Nat.zero_mul,
          Nat.zero_add]
      · rw [Nat.toDigits_of_base_le (by decide) (Nat.not_lt.mp small), parseDigits_append,
          ih (value / 10) (by omega) (by omega), Option.bind_some,
          single (value / 10) (value % 10) (Nat.mod_lt _ (by decide)) (by omega)]
        congr 1
        omega

theorem isWhitespace_of_isDigit {c : Char} (digit : c.isDigit = true) : isWhitespace c = false := by
  have bounds : 48 ≤ c.toNat ∧ c.toNat ≤ 57 := by
    simpa [Char.isDigit, UInt32.le_iff_toNat_le] using digit
  simp [isWhitespace]
  omega

/-! ## Printed numbers -/

section Printed

variable {c : Char}

theorem toList_toString (value : Nat) : (toString value).toList = Nat.toDigits 10 value := by
  rw [Nat.toString_eq_ofList_toDigits, String.toList_ofList]

theorem isDigit_of_mem_toString {value : Nat} (member : c ∈ (toString value).toList) :
    c.isDigit = true := by
  rw [toList_toString] at member
  exact Nat.isDigit_of_mem_toDigits (by decide) (by decide) member

/-- A printed number starts with a digit, not with a sign. -/
theorem exists_toDigits (value : Nat) :
    ∃ first rest, Nat.toDigits 10 value = first :: rest ∧ first.isDigit = true := by
  cases digits : Nat.toDigits 10 value with
  | nil => exact absurd digits Nat.toDigits_ne_nil
  | cons first rest =>
      have member : first ∈ Nat.toDigits 10 value := by
        rw [digits]
        exact .head _
      exact ⟨first, rest, rfl, Nat.isDigit_of_mem_toDigits (by decide) (by decide) member⟩

theorem parseUnsigned_toString {bound value : Nat} (below : value < bound) :
    parseUnsigned bound (toString value) = some value := by
  have spelled := parseDigits_toDigits below
  obtain ⟨first, rest, digits, isDigit⟩ := exists_toDigits value
  have noSign : first ≠ '+' := fun sign => by rw [sign] at isDigit; cases isDigit
  rw [digits] at spelled
  rw [parseUnsigned, toList_toString, digits]
  split
  · next empty => cases empty
  · next sign => exact absurd (List.cons.inj sign).1 noSign
  · next sign => exact absurd (List.cons.inj sign).1 noSign
  · exact spelled

theorem parseSigned_toString {bound : Nat} {value : Int} (lower : -↑bound ≤ value)
    (upper : value < bound) : parseSigned bound (toString value) = some value := by
  cases value with
  | ofNat value =>
      have below : value < bound := Int.ofNat_lt.mp upper
      obtain ⟨first, rest, digits, isDigit⟩ := exists_toDigits value
      have noSign : first ≠ '-' := fun sign => by rw [sign] at isDigit; cases isDigit
      change parseSigned bound (toString value) = _
      rw [parseSigned, toList_toString, digits]
      split
      · next sign => exact absurd (List.cons.inj sign).1 noSign
      · next sign => exact absurd (List.cons.inj sign).1 noSign
      · rw [parseUnsigned_toString below]
        rfl
  | negSucc before =>
      have below : before + 1 < bound + 1 := by omega
      have spelled := parseDigits_toDigits below
      obtain ⟨first, rest, digits, _⟩ := exists_toDigits (before + 1)
      rw [digits] at spelled
      have printed : (toString (Int.negSucc before)).toList = '-' :: first :: rest := by
        change ("-" ++ toString (before + 1)).toList = _
        rw [String.toList_append, toList_toString, digits]
        rfl
      rw [parseSigned, printed]
      change (parseDigits (bound + 1) 0 (first :: rest)).map _ = _
      rw [spelled]
      rfl

/-- A printed number has no white space and no line feed. -/
theorem isWhitespace_of_mem_toString {value : Int} (member : c ∈ (toString value).toList) :
    isWhitespace c = false := by
  cases value with
  | ofNat value => exact isWhitespace_of_isDigit (@isDigit_of_mem_toString c value member)
  | negSucc before =>
      change c ∈ ("-" ++ toString (before + 1)).toList at member
      rw [String.toList_append, List.mem_append] at member
      rcases member with sign | digit
      · obtain rfl := List.mem_singleton.mp sign
        rfl
      · exact isWhitespace_of_isDigit (isDigit_of_mem_toString digit)

end Printed

end RbctlDsl.Lib

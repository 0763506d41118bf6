import Mathlib.Data.Nat.ChineseRemainder
import Mathlib.FieldTheory.Finite.Basic

/-!
# RSA keys

Exponents that undo one another modulo a product of distinct primes.
-/

namespace RbctlDsl.Lib

/-- Two exponents that undo one another modulo each of some distinct primes. -/
structure RsaExponents (primes : List Nat) (d e : Nat) : Prop where
  prime : ∀ p ∈ primes, p.Prime
  distinct : primes.Nodup
  positive : 0 < d * e
  inverse : ∀ p ∈ primes, d * e ≡ 1 [MOD p - 1]

/-- By Fermat's little theorem, with both cases of divisibility. -/
theorem pow_modEq_self {p power base : Nat} (prime : p.Prime) (positive : 0 < power)
    (inverse : power ≡ 1 [MOD p - 1]) : base ^ power ≡ base [MOD p] := by
  by_cases divides : p ∣ base
  · have zero : base ≡ 0 [MOD p] := (Nat.modEq_zero_iff_dvd).mpr divides
    have zeros := zero.pow power
    rw [Nat.zero_pow positive] at zeros
    exact zeros.trans zero.symm
  · obtain ⟨rounds, excess⟩ := (Nat.modEq_iff_dvd' positive).mp inverse.symm
    have split : power = (p - 1) * rounds + 1 := by
      rw [← excess]
      exact (Nat.sub_add_cancel positive).symm
    have coprime : base.Coprime p := ((Nat.Prime.coprime_iff_not_dvd prime).mpr divides).symm
    have fermat : base ^ (p - 1) ≡ 1 [MOD p] := by
      rw [← Nat.totient_prime prime]
      exact Nat.ModEq.pow_totient coprime
    rw [split, Nat.pow_succ, Nat.pow_mul]
    simpa using (fermat.pow rounds).mul_right base

/-- What is raised to one exponent and then to the other comes back. -/
theorem RsaExponents.inverts {primes : List Nat} {d e : Nat} (key : RsaExponents primes d e) :
    ∀ m < primes.prod, (m ^ d) ^ e % primes.prod = m := by
  intro m below
  have coprime : primes.Pairwise Nat.Coprime := key.distinct.imp_of_mem fun left right apart =>
    (Nat.coprime_primes (key.prime _ left) (key.prime _ right)).mpr apart
  have same : m ^ (d * e) ≡ m [MOD primes.prod] :=
    (Nat.modEq_list_prod_iff coprime).mpr fun index =>
      have member := List.getElem_mem index.isLt
      pow_modEq_self (key.prime _ member) key.positive (key.inverse _ member)
  have reduced : m ^ (d * e) % primes.prod = m % primes.prod := same
  rw [← Nat.pow_mul, reduced, Nat.mod_eq_of_lt below]

end RbctlDsl.Lib

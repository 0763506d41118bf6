import Mathlib.Data.List.Basic

/-!
# Spacing

Times of which any two are a gap apart.  In a window of time there is room for only so many of
them.
-/

namespace RbctlDsl.Lib

/-- Each time is at least a gap after those before it. -/
def Spaced (gap : Nat) (times : List Nat) : Prop :=
  times.Pairwise fun earlier later => earlier + gap ≤ later

namespace Spaced

variable {gap : Nat} {times : List Nat}

theorem nil : Spaced gap [] := List.Pairwise.nil

/-- One more time, a gap after the last one. -/
theorem snoc {time : Nat} (spaced : Spaced gap times)
    (last : ∀ earlier, times.getLast? = some earlier → earlier + gap ≤ time) :
    Spaced gap (times ++ [time]) := by
  rw [Spaced, List.pairwise_append]
  refine ⟨spaced, List.pairwise_singleton _ _, fun earlier member later isLast => ?_⟩
  rw [List.mem_singleton.mp isLast]
  rcases List.eq_nil_or_concat times with rfl | ⟨before, final, rfl⟩
  · cases member
  · rw [List.concat_eq_append] at member spaced last
    have close := last final List.getLast?_concat
    rcases List.mem_append.mp member with inside | isFinal
    · have apart := (List.pairwise_append.mp spaced).2.2 earlier inside final
        (List.mem_singleton_self final)
      omega
    · rw [List.mem_singleton.mp isFinal]
      exact close

theorem filter (spaced : Spaced gap times) (keep : Nat → Bool) :
    Spaced gap (times.filter keep) := List.Pairwise.filter keep spaced

/-- Between two bounds there are no more times than gaps fit in, and one. -/
theorem length_mul_le {first last : Nat} (spaced : Spaced gap times)
    (inside : ∀ time ∈ times, first ≤ time ∧ time ≤ last) :
    times.length * gap ≤ last - first + gap := by
  induction times generalizing first with
  | nil => exact Nat.zero_mul gap ▸ Nat.zero_le _
  | cons time rest ih =>
      obtain ⟨apart, spacedRest⟩ := List.pairwise_cons.mp spaced
      obtain ⟨here, insideRest⟩ := List.forall_mem_cons.mp inside
      have fewer : rest.length * gap ≤ last - (time + gap) + gap :=
        ih spacedRest fun later member => ⟨apart later member, (insideRest later member).2⟩
      rw [List.length_cons, Nat.succ_mul]
      cases rest with
      | nil =>
          rw [List.length_nil, Nat.zero_mul, Nat.zero_add]
          exact Nat.le_add_left _ _
      | cons next rest =>
          have close := apart next (List.mem_cons_self ..)
          have bound := (insideRest next (List.mem_cons_self ..)).2
          omega

/-- How many times there are in a window. -/
theorem length_window (spaced : Spaced gap times) (positive : 0 < gap) (start span : Nat) :
    (times.filter fun time => start ≤ time ∧ time ≤ start + span).length ≤ span / gap + 1 := by
  have inside : ∀ time ∈ times.filter (fun time => start ≤ time ∧ time ≤ start + span),
      start ≤ time ∧ time ≤ start + span := by
    intro time member
    exact of_decide_eq_true (List.mem_filter.mp member).2
  have product := length_mul_le (spaced.filter _) inside
  rw [Nat.add_sub_cancel_left] at product
  rw [← Nat.add_div_right span positive]
  exact (Nat.le_div_iff_mul_le positive).mpr product

end Spaced

end RbctlDsl.Lib

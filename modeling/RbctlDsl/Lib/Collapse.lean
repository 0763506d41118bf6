import Mathlib.Data.List.Destutter

/-!
# Collapsing runs of equal elements

`List.destutter` for `≠` grows at the end by what differs from the last element.  A mapping
commutes with it exactly if the mapping tells neighbours apart.
-/

namespace RbctlDsl.Lib

variable {α β : Type} [DecidableEq α] [DecidableEq β]

/-- Equal elements in a row count once. -/
def collapse (values : List α) : List α := values.destutter (· ≠ ·)

@[simp] theorem collapse_nil : collapse ([] : List α) = [] := rfl

section Cons

variable {first : α} {rest : List α}

/-- What is collapsed begins with its first element. -/
theorem destutter'_ne_eq_cons (first : α) (rest : List α) :
    ∃ others, rest.destutter' (· ≠ ·) first = first :: others := by
  induction rest with
  | nil => exact ⟨[], rfl⟩
  | cons next rest ih =>
      by_cases differs : first ≠ next
      · exact ⟨_, List.destutter'_cons_pos _ differs⟩
      · rw [List.destutter'_cons_neg _ differs]
        exact ih

theorem destutter'_ne_snoc (first : α) (rest : List α) (value : α) :
    (rest ++ [value]).destutter' (· ≠ ·) first =
      if (first :: rest).getLast? = some value then rest.destutter' (· ≠ ·) first
      else rest.destutter' (· ≠ ·) first ++ [value] := by
  induction rest generalizing first with
  | nil =>
      by_cases same : first = value
      · simp [same]
      · simp [same]
  | cons next rest ih =>
      rw [List.cons_append, List.getLast?_cons_cons]
      by_cases differs : first ≠ next
      · rw [List.destutter'_cons_pos _ differs, List.destutter'_cons_pos _ differs, ih]
        split
        · rfl
        · rfl
      · obtain rfl : first = next := not_not.mp differs
        rw [List.destutter'_cons_neg _ differs, List.destutter'_cons_neg _ differs, ih]

end Cons

/-- The last element again adds nothing. -/
theorem collapse_snoc_same {values : List α} {value : α} (same : values.getLast? = some value) :
    collapse (values ++ [value]) = collapse values := by
  cases values with
  | nil => cases same
  | cons first rest =>
      change (rest ++ [value]).destutter' (· ≠ ·) first = rest.destutter' (· ≠ ·) first
      rw [destutter'_ne_snoc, if_pos same]

/-- An element that differs from the last is added. -/
theorem collapse_snoc_other {values : List α} {value : α}
    (differs : values.getLast? ≠ some value) :
    collapse (values ++ [value]) = collapse values ++ [value] := by
  cases values with
  | nil => rfl
  | cons first rest =>
      change (rest ++ [value]).destutter' (· ≠ ·) first = rest.destutter' (· ≠ ·) first ++ [value]
      rw [destutter'_ne_snoc, if_neg differs]

section Map

variable {f : α → β}

theorem map_destutter'_ne_iff (first : α) (rest : List α) :
    (rest.destutter' (· ≠ ·) first).map f = (rest.map f).destutter' (· ≠ ·) (f first) ↔
      (first :: rest).IsChain fun earlier later => f earlier = f later → earlier = later := by
  induction rest generalizing first with
  | nil => exact iff_of_true rfl (.singleton first)
  | cons next rest ih =>
      rw [List.map_cons, List.isChain_cons_cons]
      by_cases equal : first = next
      · subst equal
        rw [List.destutter'_cons_neg _ (not_not_intro rfl),
          List.destutter'_cons_neg _ (not_not_intro rfl), ih first]
        exact (and_iff_right fun _ => rfl).symm
      · rw [List.destutter'_cons_pos _ equal, List.map_cons]
        by_cases same : f first = f next
        · rw [List.destutter'_cons_neg _ (not_not_intro same)]
          constructor
          · -- what is collapsed has no two equal neighbours, but the left side begins with two
            intro commutes
            obtain ⟨others, begins⟩ := destutter'_ne_eq_cons next rest
            have chain := (rest.map f).isChain_destutter' (· ≠ ·) (f first)
            rw [← commutes, begins, List.map_cons, List.isChain_cons_cons] at chain
            exact absurd same chain.1
          · exact fun told => absurd (told.1 same) equal
        · rw [List.destutter'_cons_pos _ same, List.cons_inj_right, ih next]
          exact (and_iff_right fun told => absurd told same).symm

/-- Mapping what is collapsed is collapsing what is mapped, exactly if neighbours with the same
image are equal. -/
theorem map_collapse_iff (values : List α) :
    (collapse values).map f = collapse (values.map f) ↔
      values.IsChain fun earlier later => f earlier = f later → earlier = later := by
  cases values with
  | nil => exact iff_of_true rfl .nil
  | cons first rest => exact map_destutter'_ne_iff first rest

end Map

end RbctlDsl.Lib

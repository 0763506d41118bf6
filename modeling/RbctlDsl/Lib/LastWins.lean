/-!
# Settings of which the last one counts

A fold over items that overwrite settings: a setting ends as the last item leaves it that is about
it, and a switch is on if one of the items is.
-/

namespace RbctlDsl.Lib

variable {σ ι β : Type} {set : σ → ι → σ}

/-- A setting is what the last item about it says, if there is one. -/
theorem foldl_last {get : σ → Option β} {pick : ι → Option β}
    (overwrites : ∀ state item, get (set state item) = (pick item).or (get state))
    (items : List ι) (state : σ) :
    get (items.foldl set state) = ((items.filterMap pick).getLast?).or (get state) := by
  induction items generalizing state with
  | nil => rfl
  | cons item items ih =>
      rw [List.foldl_cons, ih, overwrites, List.filterMap_cons]
      cases pick item with
      | none => rfl
      | some value =>
          rw [List.getLast?_cons]
          cases (items.filterMap pick).getLast? <;> rfl

/-- A switch that nothing turns off is on if it was, or if one of the items turns it on. -/
theorem foldl_switch [DecidableEq ι] {get : σ → Bool} {switch : ι}
    (sets : ∀ state item, get (set state item) = (get state || decide (item = switch)))
    (items : List ι) (state : σ) :
    get (items.foldl set state) = true ↔ get state = true ∨ switch ∈ items := by
  induction items generalizing state with
  | nil => simp
  | cons item items ih =>
      rw [List.foldl_cons, ih, sets, Bool.or_eq_true, decide_eq_true_eq, List.mem_cons, or_assoc,
        @eq_comm _ item]

end RbctlDsl.Lib

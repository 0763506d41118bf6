/-!
# Results

Equality of results, and what the success of a sequence says about its parts.
-/

namespace RbctlDsl.Lib

variable {ε α β : Type}

instance decidableEqExcept [DecidableEq ε] [DecidableEq α] : DecidableEq (Except ε α)
  | .error left, .error right => decidable_of_iff (left = right) ⟨congrArg _, Except.error.inj⟩
  | .ok left, .ok right => decidable_of_iff (left = right) ⟨congrArg _, Except.ok.inj⟩
  | .error _, .ok _ => isFalse fun same => by cases same
  | .ok _, .error _ => isFalse fun same => by cases same

theorem ok_bind (value : α) (next : α → Except ε β) :
    Except.ok value >>= next = next value := rfl

theorem bind_eq_ok {first : Except ε α} {next : α → Except ε β} {result : β} :
    first >>= next = .ok result ↔ ∃ value, first = .ok value ∧ next value = .ok result := by
  cases first with
  | error error => exact iff_of_false nofun nofun
  | ok value =>
      constructor
      · intro done
        exact ⟨value, rfl, done⟩
      · rintro ⟨_, same, done⟩
        cases same
        exact done

end RbctlDsl.Lib

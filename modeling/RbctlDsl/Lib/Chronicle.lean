import RbctlDsl.Lib.Threads

/-!
# Chronicles

What is noted of the steps of parallel threads, in the order of the steps.  The histories of the
threads say what each thread has done; a chronicle says in which order.
-/

namespace RbctlDsl.Lib

variable {ι : Type} {sig : ι → Signature} {α : ι → Type} {σ β : Type}

namespace Threads

variable [DecidableEq ι]

/-- A run from `first` with what is noted of its steps. -/
inductive Chronicle (meaning : Meaning sig α σ) (note : (i : ι) → Event (sig i) → List β)
    (first : Threads sig α σ) : Threads sig α σ → List β → Prop
  | first : Chronicle meaning note first first []
  | step {threads threads' : Threads sig α σ} {notes : List β} {i : ι} {event : Event (sig i)}
      (before : Chronicle meaning note first threads notes)
      (step : Step meaning threads i event threads') :
      Chronicle meaning note first threads' (notes ++ note i event)

/-- What is noted of the steps of one thread. -/
def notesOf (note : (i : ι) → Event (sig i) → List β) (threads : Threads sig α σ) (i : ι) :
    List β := (threads.history i).flatMap (note i)

namespace Chronicle

variable {meaning : Meaning sig α σ} {note : (i : ι) → Event (sig i) → List β}
  {first threads : Threads sig α σ} {notes : List β}

theorem reaches (chronicle : Chronicle meaning note first threads notes) :
    Reaches meaning (fun _ _ _ => True) first threads := by
  induction chronicle with
  | first => exact .first
  | step _ step ih => exact .step ih trivial step

/-- Every run has a chronicle. -/
theorem exists_of_reaches (note : (i : ι) → Event (sig i) → List β)
    (reaches : Reaches meaning (fun _ _ _ => True) first threads) :
    ∃ notes, Chronicle meaning note first threads notes := by
  induction reaches with
  | first => exact ⟨[], .first⟩
  | step _ _ step ih =>
      obtain ⟨notes, before⟩ := ih
      exact ⟨_, .step before step⟩

end Chronicle

section Notes

variable {meaning : Meaning sig α σ} {note : (i : ι) → Event (sig i) → List β}
  {first threads threads' : Threads sig α σ} {notes : List β} {i j : ι} {event : Event (sig i)}

theorem notesOf_step_self (step : Step meaning threads i event threads') :
    notesOf note threads' i = notesOf note threads i ++ note i event := by
  rw [notesOf, step.history_self, List.flatMap_append, List.flatMap_singleton, notesOf]

theorem notesOf_step_other (step : Step meaning threads i event threads') (other : j ≠ i) :
    notesOf note threads' j = notesOf note threads j := by
  rw [notesOf, step.history_other other, notesOf]

/-- Where one thread has its notes before another begins with its own, and no other thread has
any, the chronicle is the notes of the one followed by those of the other. -/
theorem Chronicle.eq_append {early late : ι} (different : early ≠ late)
    (only : ∀ i event, i ≠ early → i ≠ late → note i event = [])
    (ordered : ∀ threads threads' event, Reaches meaning (fun _ _ _ => True) first threads →
      Step meaning threads early event threads' → note early event = [] ∨
        notesOf note threads late = [])
    (fresh : notesOf note first early = [] ∧ notesOf note first late = [])
    (chronicle : Chronicle meaning note first threads notes) :
    notes = notesOf note threads early ++ notesOf note threads late := by
  induction chronicle with
  | first => rw [fresh.1, fresh.2, List.append_nil]
  | @step threads threads' notes i event before step ih =>
      rw [ih]
      by_cases isEarly : i = early
      · subst isEarly
        rw [notesOf_step_self step, notesOf_step_other step (Ne.symm different)]
        rcases ordered _ _ _ before.reaches step with silent | unbegun
        · rw [silent, List.append_nil, List.append_nil]
        · rw [unbegun, List.append_nil, List.append_nil]
      · rw [notesOf_step_other step (Ne.symm isEarly)]
        by_cases isLate : i = late
        · subst isLate
          rw [notesOf_step_self step, List.append_assoc]
        · rw [notesOf_step_other step (Ne.symm isLate), only i event isEarly isLate,
            List.append_nil]

end Notes

end Threads

end RbctlDsl.Lib

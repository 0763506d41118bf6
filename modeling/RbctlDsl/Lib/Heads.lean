import RbctlDsl.Lib.Method

/-!
# Loop heads

The points of a run at which a loop begins a pass, with the history and the state it begins
the pass in.  An invariant that every pass preserves holds at every head, and everything
that happens in the loop happens in the pass of some head.
-/

namespace RbctlDsl.Lib

variable {sig : Signature} {σ ε α β : Type}

/-- The heads of a loop that is entered with `locals` and `state` after `before`. -/
inductive Head (oracle : Oracle sig) (body : β → Method sig σ ε (β ⊕ α))
    (before : History sig) (locals : β) (state : σ) : History sig → β → σ → Prop
  | first : Head oracle body before locals state before locals state
  | next {history events : History sig} {current locals' : β} {reached after : σ}
      (head : Head oracle body before locals state history current reached)
      (pass : (body current reached).exec oracle history =
        ⟨events, .returned (.ok (.inl locals'), after)⟩) :
      Head oracle body before locals state (history ++ events) locals' after

section Head

variable {oracle : Oracle sig} {body : β → Method sig σ ε (β ⊕ α)} {before : History sig}
  {locals : β} {state : σ}

/-- The heads after a pass are heads of the whole loop. -/
theorem Head.afterFirst {events history : History sig} {locals' current : β}
    {after reached : σ}
    (pass : (body locals state).exec oracle before =
      ⟨events, .returned (.ok (.inl locals'), after)⟩)
    (head : Head oracle body (before ++ events) locals' after history current reached) :
    Head oracle body before locals state history current reached := by
  induction head with
  | first => exact .next .first pass
  | next _ onward ih => exact .next ih onward

/-- The head after a number of passes, if the loop goes on that far. -/
def headAfter (oracle : Oracle sig) (body : β → Method sig σ ε (β ⊕ α)) (before : History sig)
    (locals : β) (state : σ) : Nat → Option (History sig × β × σ)
  | 0 => some (before, locals, state)
  | passes + 1 =>
    (headAfter oracle body before locals state passes).bind fun (history, current, reached) =>
      match (body current reached).exec oracle history with
      | ⟨events, .returned (.ok (.inl locals'), after)⟩ => some (history ++ events, locals', after)
      | _ => none

theorem head_of_headAfter {passes : Nat} {history : History sig} {current : β} {reached : σ}
    (found : headAfter oracle body before locals state passes = some (history, current, reached)) :
    Head oracle body before locals state history current reached := by
  induction passes generalizing history current reached with
  | zero =>
      cases found
      exact .first
  | succ passes ih =>
      obtain ⟨⟨earlier, here, current'⟩, reachedHere, found⟩ := Option.bind_eq_some_iff.mp found
      dsimp only at found
      split at found
      · next pass =>
          cases found
          exact .next (ih reachedHere) pass
      · cases found

/-- Every event of a loop belongs to the pass of one of its heads. -/
theorem exists_head_of_mem {fuel : Nat} {event : Event sig}
    (member : event ∈ ((Method.iterate body fuel locals state).exec oracle before).events) :
    ∃ history current reached, Head oracle body before locals state history current reached ∧
      event ∈ ((body current reached).exec oracle history).events := by
  induction fuel generalizing before locals state with
  | zero => cases member
  | succ fuel ih =>
      rw [Method.iterate, Method.bind_apply, Program.exec_bind] at member
      cases pass : (body locals state).exec oracle before with
      | mk events outcome =>
          rw [pass] at member
          have inFirst (here : event ∈ events) : ∃ history current reached,
              Head oracle body before locals state history current reached ∧
                event ∈ ((body current reached).exec oracle history).events :=
            ⟨before, locals, state, .first, by rw [pass]; exact here⟩
          rcases outcome with ⟨error | locals' | value, after⟩ | message | _
          · exact inFirst (by simpa using member)
          · cases List.mem_append.mp member with
            | inl here => exact inFirst here
            | inr later =>
                obtain ⟨history, current, reached, head, found⟩ := ih later
                exact ⟨history, current, reached, head.afterFirst pass, found⟩
          · exact inFirst (by simpa using member)
          · exact inFirst member
          · exact inFirst member

/-- The contract of a run under an oracle. -/
def against (oracle : Oracle sig) : Contract sig where
  may _ _ := True
  answers before event := event.answer = oracle before event.op

/-- The invariant rule of heads. -/
theorem Head.invariant (contract : Contract sig) (holds : History sig → β → σ → Prop)
    (post : History sig → Except ε α × σ → Prop)
    (pass : ∀ history current reached,
      Head oracle body before locals state history current reached →
        holds history current reached →
          Safe contract (Method.passOwes holds post) (body current reached) history)
    (answered : ∀ history current reached,
      Head oracle body before locals state history current reached →
      Along contract.answers history ((body current reached).exec oracle history).events)
    (start : holds before locals state) {history : History sig} {current : β} {reached : σ}
    (head : Head oracle body before locals state history current reached) :
    holds history current reached := by
  induction head with
  | first => exact start
  | next head run ih =>
      have ended := ((pass _ _ _ head ih).exec (answered _ _ _ head)).2
      rw [run] at ended
      exact ended

/-- What is done up to a head is what the contract of the passes permits. -/
theorem Head.permitted (contract : Contract sig) (holds : History sig → β → σ → Prop)
    (post : History sig → Except ε α × σ → Prop)
    (pass : ∀ history current reached,
      Head oracle body before locals state history current reached →
        holds history current reached →
          Safe contract (Method.passOwes holds post) (body current reached) history)
    (answered : ∀ history current reached,
      Head oracle body before locals state history current reached →
      Along contract.answers history ((body current reached).exec oracle history).events)
    (start : holds before locals state) {history : History sig} {current : β} {reached : σ}
    (head : Head oracle body before locals state history current reached) :
    ∃ events, history = before ++ events ∧
      Along (fun earlier event => contract.may earlier event.op) before events := by
  induction head with
  | first => exact ⟨[], (List.append_nil _).symm, trivial⟩
  | @next history passed _ _ _ _ head run ih =>
      obtain ⟨events, split, permitted⟩ := ih
      have here := Head.invariant contract holds post pass answered start head
      have made := ((pass _ _ _ head here).exec (answered _ _ _ head)).1
      rw [run, split] at made
      refine ⟨events ++ passed, ?_, along_append.mpr ⟨permitted, made⟩⟩
      rw [split, List.append_assoc]

end Head

end RbctlDsl.Lib

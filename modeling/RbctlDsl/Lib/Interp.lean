import RbctlDsl.Lib.Method

/-!
# Handlers

A handler gives every operation of one signature a method over another.  `interp` runs a
program through a handler.  A contract of the program carries over to the interpreted
program when each handler keeps the two histories related.
-/

namespace RbctlDsl.Lib

variable {upper lower : Signature} {σ ε α β : Type}

abbrev Handler (upper lower : Signature) (σ ε : Type) :=
  (op : upper.Op) → Method lower σ ε (upper.Answer op)

namespace Program

/-- Run a program by running the handler's method at each of its operations. -/
def interp (handler : Handler upper lower σ ε) : Program upper α → Method lower σ ε α
  | .pure value => fun state => .pure (.ok value, state)
  | .perform op next => fun state =>
      (handler op state).bind (Method.resume fun answer => (next answer).interp handler)
  | .panic message => fun _ => .panic message
  | .spin => fun _ => .spin

variable (handler : Handler upper lower σ ε)

@[simp] theorem interp_pure (value : α) (state : σ) :
    (Program.pure value : Program upper α).interp handler state =
      .pure (.ok value, state) := rfl

@[simp] theorem interp_perform (op : upper.Op)
    (next : upper.Answer op → Program upper α) (state : σ) :
    (Program.perform op next).interp handler state =
      (handler op state).bind
        (Method.resume fun answer => (next answer).interp handler) := rfl

@[simp] theorem interp_panic (message : String) (state : σ) :
    (Program.panic message : Program upper α).interp handler state =
      .panic message := rfl

@[simp] theorem interp_spin (state : σ) :
    (Program.spin : Program upper α).interp handler state = .spin := rfl

end Program

/-- What a handler owes at one operation: to stay within the lower contract, and to end in
a related pair of histories after an answer that the upper contract allows. -/
def HandlerKeeps (above : Contract upper) (below : Contract lower)
    (related : History upper → History lower → σ → Prop)
    (handler : Handler upper lower σ ε) : Prop :=
  ∀ asked done state op, related asked done state → above.may asked op →
    Safe below
      (fun later result =>
        match result with
        | (.ok answer, after) =>
            above.answers asked ⟨op, answer⟩ ∧ related (asked ++ [⟨op, answer⟩]) later after
        | (.error _, _) => True)
      (handler op state) done

/-- What an interpreted program ends in: the upper postcondition at a related history. -/
def EndsRelated (related : History upper → History lower → σ → Prop)
    (post : History upper → α → Prop) (later : History lower) : Except ε α × σ → Prop
  | (.ok value, after) => ∃ asked, related asked later after ∧ post asked value
  | (.error _, _) => True

/-- The refinement rule of handlers. -/
theorem safe_interp {above : Contract upper} {below : Contract lower}
    {related : History upper → History lower → σ → Prop}
    {handler : Handler upper lower σ ε} (keeps : HandlerKeeps above below related handler)
    (panics : ∀ asked done state, related asked done state → above.mayPanic asked →
      below.mayPanic done)
    {post : History upper → α → Prop} {program : Program upper α} {asked : History upper}
    {done : History lower} {state : σ} (start : related asked done state)
    (safe : Safe above post program asked) :
    Safe below (EndsRelated related post) (program.interp handler state) done := by
  induction program generalizing asked done state with
  | pure value => exact ⟨asked, start, safe⟩
  | perform op next ih =>
      obtain ⟨allowed, rest⟩ := safe
      rw [Program.interp_perform]
      refine (keeps asked done state op start allowed).bind fun later result owed => ?_
      obtain ⟨result, after⟩ := result
      cases result with
      | ok answer => exact ih answer owed.2 (rest answer owed.1)
      | error error => trivial
  | panic message => exact panics asked done state start safe
  | spin => trivial

end RbctlDsl.Lib

import RbctlDsl.Lib.Interp

/-!
# Frame conditions

A method keeps a part of its receiver, and performs operations of a given kind only, on
every run.  Methods that are put together from such methods do so as well.
-/

namespace RbctlDsl.Lib

variable {upper sig : Signature} {σ τ ε α β : Type}

/-- The contract that restricts the operations, and nothing else. -/
def onlyOps (allowed : sig.Op → Prop) : Contract sig where
  may _ op := allowed op

theorem safe_trivial (program : Program sig α) (history : History sig) :
    Safe (onlyOps fun _ => True) (fun _ _ => True) program history := by
  induction program generalizing history with
  | pure value => trivial
  | perform op next ih => exact ⟨trivial, fun answer _ => ih answer _⟩
  | panic message => trivial
  | spin => trivial

/-- A program that is restricted to some operations adds only these to the history. -/
theorem Safe.onlyAdds {allowed : sig.Op → Prop} {post : History sig → α → Prop}
    {program : Program sig α} {history : History sig}
    (safe : Safe (onlyOps allowed) post program history) :
    Safe (onlyOps fun _ => True)
      (fun later value =>
        (∃ events, later = history ++ events ∧ ∀ event ∈ events, allowed event.op) ∧
          post later value) program history := by
  induction program generalizing history with
  | pure value => exact ⟨⟨[], (List.append_nil _).symm, nofun⟩, safe⟩
  | perform op next ih =>
      refine ⟨trivial, fun answer _ => (ih answer (safe.2 answer trivial)).mono ?_⟩
      rintro later value ⟨⟨events, split, each⟩, ended⟩
      refine ⟨⟨⟨op, answer⟩ :: events, ?_, ?_⟩, ended⟩
      · rw [split, List.append_assoc, List.singleton_append]
      · exact List.forall_mem_cons.mpr ⟨safe.1, each⟩
  | panic message => trivial
  | spin => trivial

/-- In every run of a program that is restricted to some operations, only these occur. -/
theorem Safe.allowed_of_mem {allowed : sig.Op → Prop} {post : History sig → α → Prop}
    {program : Program sig α} {history : History sig}
    (safe : Safe (onlyOps allowed) post program history) (oracle : Oracle sig) :
    ∀ event ∈ (program.exec oracle history).events, allowed event.op :=
  along_iff_forall_mem.mp (safe.exec (along_true history _)).1

/-- A method performs allowed operations only, and does not change `view` of its receiver. -/
def Keeps (allowed : sig.Op → Prop) (view : σ → τ) (method : Method sig σ ε α) : Prop :=
  ∀ state history,
    Safe (onlyOps allowed) (fun _ result => view result.2 = view state) (method state) history

section Keeps

variable {allowed : sig.Op → Prop} {view : σ → τ}

theorem Keeps.mono {weaker : sig.Op → Prop} {method : Method sig σ ε α}
    (keeps : Keeps allowed view method) (implies : ∀ op, allowed op → weaker op) :
    Keeps weaker view method := by
  intro state history
  exact (keeps state history).weaken (fun _ op => implies op) (fun _ _ _ => trivial)
    fun _ _ => trivial

theorem keeps_pure (value : α) : Keeps allowed view (pure value : Method sig σ ε α) :=
  fun _ _ => rfl

theorem keeps_read : Keeps allowed view (Method.read : Method sig σ ε σ) := fun _ _ => rfl

theorem keeps_update {change : σ → σ} (same : ∀ state, view (change state) = view state) :
    Keeps allowed view (Method.update change : Method sig σ ε Unit) :=
  fun state _ => same state

theorem keeps_perform {op : sig.Op} (permitted : allowed op) :
    Keeps allowed view (Method.perform op : Method sig σ ε (sig.Answer op)) :=
  fun _ _ => ⟨permitted, fun _ _ => rfl⟩

theorem keeps_bind {method : Method sig σ ε α} {next : α → Method sig σ ε β}
    (first : Keeps allowed view method) (rest : ∀ value, Keeps allowed view (next value)) :
    Keeps allowed view (method >>= next) := by
  intro state history
  refine Method.safe_bind (first state history) ?_ fun _ _ _ same => same
  intro later value after same
  have kept := rest value after later
  dsimp only at same
  rwa [same] at kept

theorem keeps_fail (error : ε) : Keeps allowed view (Method.fail error : Method sig σ ε α) :=
  fun _ _ => rfl

theorem keeps_attempt {δ : Type} {method : Method sig σ ε α}
    (keeps : Keeps allowed view method) :
    Keeps allowed view (Method.attempt method : Method sig σ δ (Except ε α)) :=
  fun state history => (keeps state history).bind fun _ _ same => same

theorem keeps_orPanic (message : String) (value : Option α) :
    Keeps allowed view (Method.orPanic message value : Method sig σ ε α) := by
  intro state history
  cases value with
  | some value => exact rfl
  | none => trivial

theorem keeps_iterate {body : β → Method sig σ ε (β ⊕ α)}
    (pass : ∀ locals, Keeps allowed view (body locals)) (fuel : Nat) (locals : β) :
    Keeps allowed view (Method.iterate body fuel locals) := by
  induction fuel generalizing locals with
  | zero => exact fun _ _ => trivial
  | succ fuel ih =>
      refine keeps_bind (pass locals) fun next => ?_
      cases next with
      | inl locals => exact ih locals
      | inr value => exact keeps_pure value

theorem keeps_ite {condition : Prop} [Decidable condition]
    {whenTrue whenFalse : Method sig σ ε α} (onTrue : Keeps allowed view whenTrue)
    (onFalse : Keeps allowed view whenFalse) :
    Keeps allowed view (if condition then whenTrue else whenFalse) := by
  split
  · exact onTrue
  · exact onFalse

/-- An interpreted program keeps what every one of its operations keeps. -/
theorem keeps_interp {asks : upper.Op → Prop} {handler : Handler upper sig σ ε}
    (each : ∀ op, asks op → Keeps allowed view (handler op)) {program : Program upper α}
    {asked : History upper} (safe : Safe (onlyOps asks) (fun _ _ => True) program asked) :
    Keeps allowed view (program.interp handler) := by
  induction program generalizing asked with
  | pure value => exact fun _ _ => rfl
  | perform op next ih =>
      exact keeps_bind (each op safe.1) fun answer => ih answer (safe.2 answer trivial)
  | panic message => exact fun _ _ => trivial
  | spin => exact fun _ _ => trivial

end Keeps

/-! ## Methods that do not fail -/

/-- A contract and what else is known of the end. -/
theorem Safe.and_ends {contract : Contract sig} {post ends : History sig → α → Prop}
    {allowed : sig.Op → Prop} {program : Program sig α} {history : History sig}
    (safe : Safe contract post program history)
    (also : Safe (onlyOps allowed) ends program history) :
    Safe contract (fun later value => post later value ∧ ends later value) program history := by
  induction program generalizing history with
  | pure value => exact ⟨safe, also⟩
  | perform op next ih =>
      refine ⟨safe.1, fun answer promised => ?_⟩
      exact ih answer (safe.2 answer promised) (also.2 answer trivial)
  | panic message => exact safe
  | spin => trivial

/-- Wherever the method comes to its end, it has a value. -/
def Succeeds (method : Method sig σ ε α) : Prop :=
  ∀ state history, Safe (onlyOps fun _ => True) (fun _ result => ∃ value, result.1 = .ok value)
    (method state) history

section Succeeds

theorem succeeds_pure (value : α) : Succeeds (pure value : Method sig σ ε α) :=
  fun _ _ => ⟨value, rfl⟩

theorem succeeds_read : Succeeds (Method.read : Method sig σ ε σ) := fun state _ => ⟨state, rfl⟩

theorem succeeds_perform (op : sig.Op) :
    Succeeds (Method.perform op : Method sig σ ε (sig.Answer op)) :=
  fun _ _ => ⟨trivial, fun answer _ => ⟨answer, rfl⟩⟩

theorem succeeds_bind {method : Method sig σ ε α} {next : α → Method sig σ ε β}
    (first : Succeeds method) (rest : ∀ value, Succeeds (next value)) :
    Succeeds (method >>= next) := by
  intro state history
  refine Method.safe_bind (first state history)
    (fun later value after _ => rest value after later) ?_
  rintro later error after ⟨value, equal⟩
  cases equal

theorem succeeds_iterate {body : β → Method sig σ ε (β ⊕ α)}
    (pass : ∀ locals, Succeeds (body locals)) (fuel : Nat) (locals : β) :
    Succeeds (Method.iterate body fuel locals) := by
  induction fuel generalizing locals with
  | zero => exact fun _ _ => trivial
  | succ fuel ih =>
      refine succeeds_bind (pass locals) fun next => ?_
      cases next with
      | inl locals => exact ih locals
      | inr value => exact succeeds_pure value

end Succeeds

end RbctlDsl.Lib

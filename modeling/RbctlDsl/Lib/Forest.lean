import Mathlib.Data.List.Basic

/-!
# Bracketed sequences

An ordered forest, the sequence of tokens that writes it down, and the one-pass check that finds
out whether a sequence of tokens is that of a forest.
-/

namespace RbctlDsl.Lib

/-- An ordered forest.  A tree is a leaf or an inner node over a forest of its own. -/
inductive Forest (Leaf Node : Type) where
  | nil
  | leaf (label : Leaf) (rest : Forest Leaf Node)
  | nest (label : Node) (children rest : Forest Leaf Node)
  deriving DecidableEq, Repr

/-- One step of writing a forest down. -/
inductive Token (Leaf Node : Type) where
  | item (label : Leaf)
  | opening (label : Node)
  | closing
  deriving DecidableEq, Repr

variable {Leaf Node : Type}

namespace Forest

/-- The tokens of a forest, from left to right. -/
def tokens : Forest Leaf Node → List (Token Leaf Node)
  | nil => []
  | leaf label rest => .item label :: rest.tokens
  | nest label children rest => .opening label :: (children.tokens ++ .closing :: rest.tokens)

end Forest

/-- No bracket is closed that is not open, and none of them, nor of `depth` brackets that were open
before the sequence, is left open by it. -/
def ClosesFrom : Nat → List (Token Leaf Node) → Prop
  | depth, [] => depth = 0
  | depth, .item _ :: rest => ClosesFrom depth rest
  | depth, .opening _ :: rest => ClosesFrom (depth + 1) rest
  | 0, .closing :: _ => False
  | depth + 1, .closing :: rest => ClosesFrom depth rest

/-- Every bracket that is opened is closed, and no other. -/
abbrev WellBracketed (sequence : List (Token Leaf Node)) : Prop := ClosesFrom 0 sequence

instance decidableClosesFrom :
    (depth : Nat) → (sequence : List (Token Leaf Node)) → Decidable (ClosesFrom depth sequence)
  | depth, [] => inferInstanceAs (Decidable (depth = 0))
  | depth, .item _ :: rest => decidableClosesFrom depth rest
  | depth, .opening _ :: rest => decidableClosesFrom (depth + 1) rest
  | 0, .closing :: _ => inferInstanceAs (Decidable False)
  | depth + 1, .closing :: rest => decidableClosesFrom depth rest

/-- A sequence that closes `depth` brackets from outside is a forest, and behind each of those
brackets another one. -/
theorem exists_forests_of_closesFrom {depth : Nat} {sequence : List (Token Leaf Node)}
    (closes : ClosesFrom depth sequence) :
    ∃ (forest : Forest Leaf Node) (behind : List (Forest Leaf Node)), behind.length = depth ∧
      sequence = forest.tokens ++ behind.flatMap fun forest => .closing :: forest.tokens := by
  induction sequence generalizing depth with
  | nil => exact ⟨.nil, [], Eq.symm closes, rfl⟩
  | cons token sequence ih =>
      cases token with
      | item label =>
          obtain ⟨forest, behind, counted, rfl⟩ := ih closes
          exact ⟨.leaf label forest, behind, counted, rfl⟩
      | opening label =>
          obtain ⟨children, behind, counted, rfl⟩ := ih closes
          cases behind with
          | nil => cases counted
          | cons rest behind =>
              refine ⟨.nest label children rest, behind, Nat.succ.inj counted, ?_⟩
              simp [Forest.tokens]
      | closing =>
          cases depth with
          | zero => exact closes.elim
          | succ depth =>
              obtain ⟨forest, behind, counted, rfl⟩ := ih closes
              exact ⟨.nil, forest :: behind, congrArg Nat.succ counted, rfl⟩

theorem closesFrom_tokens_append (forest : Forest Leaf Node) (depth : Nat)
    (sequence : List (Token Leaf Node)) :
    ClosesFrom depth (forest.tokens ++ sequence) ↔ ClosesFrom depth sequence := by
  induction forest generalizing depth sequence with
  | nil => rfl
  | leaf label rest ih => exact ih depth sequence
  | nest label children rest inner outer =>
      rw [Forest.tokens, List.cons_append, List.append_assoc, ClosesFrom, inner]
      exact outer depth sequence

/-- The well-bracketed sequences are those of the forests. -/
theorem wellBracketed_iff {sequence : List (Token Leaf Node)} :
    WellBracketed sequence ↔ ∃ forest : Forest Leaf Node, forest.tokens = sequence := by
  constructor
  · intro bracketed
    obtain ⟨forest, behind, counted, rfl⟩ := exists_forests_of_closesFrom bracketed
    cases List.length_eq_zero_iff.mp counted
    exact ⟨forest, by simp⟩
  · rintro ⟨forest, rfl⟩
    have closed := (closesFrom_tokens_append forest 0 []).mpr rfl
    rwa [List.append_nil] at closed

end RbctlDsl.Lib

import RbctlDsl.Lib.Text

/-!
# Words and separators

The texts that spell a list of words, with separators between any two words and around them.
Splitting finds the words of such a text and of no other.
-/

namespace RbctlDsl.Lib

variable {α : Type} {p : α → Bool}

/-- A word is not empty, and has no separator in it. -/
structure IsWord (p : α → Bool) (word : List α) : Prop where
  nonempty : word ≠ []
  solid : ∀ a ∈ word, p a = false

/-- The texts of a list of words. -/
inductive Spells (p : α → Bool) : List (List α) → List α → Prop where
  | blank {gap : List α} (separates : ∀ a ∈ gap, p a = true) : Spells p [] gap
  | word {gap word rest : List α} {words : List (List α)} (separates : ∀ a ∈ gap, p a = true)
      (isWord : IsWord p word) (ends : ∀ a, rest.head? = some a → p a = true)
      (later : Spells p words rest) : Spells p (word :: words) (gap ++ (word ++ rest))

/-- A separator in front changes nothing. -/
theorem Spells.separator {words : List (List α)} {text : List α} (spells : Spells p words text)
    {a : α} (separates : p a = true) : Spells p words (a :: text) := by
  cases spells with
  | blank gap => exact .blank (List.forall_mem_cons.mpr ⟨separates, gap⟩)
  | word gap isWord ends later =>
      exact .word (List.forall_mem_cons.mpr ⟨separates, gap⟩) isWord ends later

/-! ## Splitting -/

theorem splitNonempty_separator {a : α} (separates : p a = true) (piece rest : List α) :
    splitNonempty p piece (a :: rest) =
      if piece.isEmpty then splitNonempty p [] rest else piece :: splitNonempty p [] rest := by
  rw [splitNonempty, if_pos separates]

theorem splitNonempty_letter {a : α} (visible : ¬ p a = true) (piece rest : List α) :
    splitNonempty p piece (a :: rest) = splitNonempty p (piece ++ [a]) rest := by
  rw [splitNonempty, if_neg visible]

theorem splitNonempty_gap {gap : List α} (separates : ∀ a ∈ gap, p a = true) (rest : List α) :
    splitNonempty p [] (gap ++ rest) = splitNonempty p [] rest := by
  induction gap with
  | nil => rfl
  | cons a gap ih =>
      rw [List.forall_mem_cons] at separates
      rw [List.cons_append, splitNonempty_separator separates.1, ih separates.2]
      rfl

theorem splitNonempty_solid {word : List α} (solid : ∀ a ∈ word, p a = false)
    (piece rest : List α) :
    splitNonempty p piece (word ++ rest) = splitNonempty p (piece ++ word) rest := by
  induction word generalizing piece with
  | nil => rw [List.append_nil, List.nil_append]
  | cons a word ih =>
      rw [List.forall_mem_cons] at solid
      rw [List.cons_append, splitNonempty_letter (by simp [solid.1]), ih solid.2,
        List.append_assoc, List.singleton_append]

/-- Separators at the end change nothing. -/
theorem splitNonempty_trail {trail : List α} (separates : ∀ a ∈ trail, p a = true)
    (piece text : List α) : splitNonempty p piece (text ++ trail) = splitNonempty p piece text := by
  induction text generalizing piece with
  | nil =>
      cases trail with
      | nil => rfl
      | cons a trail =>
          rw [List.forall_mem_cons] at separates
          have blank := splitNonempty_gap separates.2 []
          rw [List.append_nil] at blank
          rw [List.nil_append, splitNonempty_separator separates.1, blank, splitNonempty,
            splitNonempty]
          rfl
  | cons a text ih => rw [List.cons_append, splitNonempty, splitNonempty, ih, ih]

/-- What a text is split into, it spells.  `piece` is what has been read of the current word. -/
theorem spells_splitNonempty {piece : List α} (solid : ∀ a ∈ piece, p a = false)
    (text : List α) : Spells p (splitNonempty p piece text) (piece ++ text) := by
  induction text generalizing piece with
  | nil =>
      rw [splitNonempty]
      split
      · next empty =>
          rw [List.isEmpty_iff.mp empty]
          exact .blank (List.forall_mem_nil _)
      · next nonempty =>
          exact .word (List.forall_mem_nil _) ⟨by simpa using nonempty, solid⟩ (by simp)
            (.blank (List.forall_mem_nil _))
  | cons a text ih =>
      by_cases separates : p a = true
      · have later := (ih (List.forall_mem_nil _)).separator separates
        rw [splitNonempty_separator separates]
        split
        · next empty =>
            rw [List.isEmpty_iff.mp empty]
            exact later
        · next nonempty =>
            exact .word (List.forall_mem_nil _) ⟨by simpa using nonempty, solid⟩
              (by simp [separates]) later
      · have longer : ∀ b ∈ piece ++ [a], p b = false := by
          rw [List.forall_mem_append]
          exact ⟨solid, by simpa using separates⟩
        have spells := ih longer
        rw [List.append_assoc, List.singleton_append] at spells
        rwa [splitNonempty_letter separates]

/-- Splitting finds the words of a text. -/
theorem Spells.splitNonempty_eq {words : List (List α)} {text : List α}
    (spells : Spells p words text) : splitNonempty p [] text = words := by
  induction spells with
  | blank separates =>
      have blank := splitNonempty_gap separates []
      rw [List.append_nil] at blank
      rw [blank]
      rfl
  | @word gap word rest words separates isWord ends later ih =>
      have nonempty : ¬ word.isEmpty = true := by simpa using isWord.nonempty
      rw [splitNonempty_gap separates, splitNonempty_solid isWord.solid, List.nil_append]
      cases rest with
      | nil =>
          rw [← ih, splitNonempty, if_neg nonempty]
          rfl
      | cons a rest =>
          have separates := ends a rfl
          rw [← ih, splitNonempty_separator separates, splitNonempty_separator separates,
            if_neg nonempty]
          rfl

theorem splitNonempty_eq_iff {words : List (List α)} {text : List α} :
    splitNonempty p [] text = words ↔ Spells p words text := by
  constructor
  · rintro rfl
    exact spells_splitNonempty (List.forall_mem_nil _) text
  · exact Spells.splitNonempty_eq

/-- Words with one separator between any two. -/
theorem spells_intercalate {a : α} (separates : p a = true) {words : List (List α)}
    (areWords : ∀ word ∈ words, IsWord p word) : Spells p words ([a].intercalate words) := by
  induction words with
  | nil => exact .blank (List.forall_mem_nil _)
  | cons word words ih =>
      rw [List.forall_mem_cons] at areWords
      have later := ih areWords.2
      cases words with
      | nil =>
          rw [List.intercalate_singleton]
          have spells := Spells.word (List.forall_mem_nil _) areWords.1 (by simp) later
          rwa [List.intercalate_nil, List.append_nil] at spells
      | cons next words =>
          rw [List.intercalate_cons_cons, List.append_assoc]
          exact .word (List.forall_mem_nil _) areWords.1 (by simp [separates])
            (later.separator separates)

/-! ## Trimming -/

/-- Trimming does not change the words of a text. -/
theorem splitWhitespace_trim (s : String) : splitWhitespace (trim s) = splitWhitespace s := by
  have blanks (chars : List Char) : ∀ c ∈ chars.takeWhile isWhitespace, isWhitespace c = true :=
    List.all_eq_true.mp List.all_takeWhile
  have front : s.toList.takeWhile isWhitespace ++ s.toList.dropWhile isWhitespace = s.toList :=
    List.takeWhile_append_dropWhile
  have back : (trim s).toList ++
      ((s.toList.dropWhile isWhitespace).reverse.takeWhile isWhitespace).reverse =
        s.toList.dropWhile isWhitespace := by
    rw [trim, String.toList_ofList, ← List.reverse_append, List.takeWhile_append_dropWhile,
      List.reverse_reverse]
  have whole : splitNonempty isWhitespace [] (trim s).toList =
      splitNonempty isWhitespace [] s.toList := by
    calc
      splitNonempty isWhitespace [] (trim s).toList =
          splitNonempty isWhitespace [] (s.toList.dropWhile isWhitespace) := by
        rw [← back, splitNonempty_trail]
        exact fun c member => blanks _ c (List.mem_reverse.mp member)
      _ = splitNonempty isWhitespace []
          (s.toList.takeWhile isWhitespace ++ s.toList.dropWhile isWhitespace) :=
        (splitNonempty_gap (blanks _) _).symm
      _ = _ := by rw [front]
  rw [splitWhitespace, splitWhitespace, whole]

end RbctlDsl.Lib

import RbctlDsl.Lib.Text

/-!
# Texts of keys and values

A list of entries is printed with one `key: value` on each line, and read back line by line.
-/

namespace RbctlDsl.Lib

/-! ## Lines and pairs -/

/-- A line without its line end, which is a line feed or a carriage return and a line feed. -/
def chomp (line : String) : String :=
  match line.toList.reverse with
  | '\n' :: '\r' :: front => String.ofList front.reverse
  | '\n' :: front => String.ofList front.reverse
  | _ => line

/-- `str::lines`. -/
def strLines (text : String) : List String := (lines text).map chomp

/-- What stands before and after the first occurrence of a separator. -/
def splitChars (sep : List Char) : List Char → Option (List Char × List Char)
  | [] => if sep.isEmpty then some ([], []) else none
  | c :: rest =>
    if sep.isPrefixOf (c :: rest) then some ([], (c :: rest).drop sep.length)
    else (splitChars sep rest).map fun (before, after) => (c :: before, after)

/-- `str::split_once`. -/
def splitOnce (sep s : String) : Option (String × String) :=
  (splitChars sep.toList s.toList).map fun (before, after) =>
    (String.ofList before, String.ofList after)

/-- An entry on a line of its own. -/
def entryLine (entry : String × String) : String := entry.1 ++ ": " ++ entry.2

/-- Lines with a line feed between any two. -/
def joinLines : List String → String
  | [] => ""
  | [line] => line
  | line :: rest => line ++ "\n" ++ joinLines rest

/-! ## Reading lines back -/

/-- A line that a reader of lines gives back: no line feed, and no carriage return at its end. -/
structure OneLine (line : String) : Prop where
  feed : '\n' ∉ line.toList
  carriage : line.toList.getLast? ≠ some '\r'

theorem splitLines_of_not_mem {front : List Char} (single : '\n' ∉ front) (piece : List Char) :
    splitLines piece front = if (piece ++ front).isEmpty then [] else [piece ++ front] := by
  induction front generalizing piece with
  | nil => rw [splitLines, List.append_nil]
  | cons c front ih =>
      rw [List.mem_cons, not_or] at single
      rw [splitLines, if_neg (Ne.symm single.1), ih single.2, List.append_assoc]
      rfl

section Lines

variable {line : String}

theorem chomp_of_oneLine (single : OneLine line) : chomp line = line := by
  unfold chomp
  split
  · next equal =>
      refine absurd ?_ single.feed
      rw [← List.mem_reverse, equal]
      exact .head _
  · next equal =>
      refine absurd ?_ single.feed
      rw [← List.mem_reverse, equal]
      exact .head _
  · rfl

theorem chomp_feed (single : OneLine line) : chomp (line ++ "\n") = line := by
  have whole : (line ++ "\n").toList.reverse = '\n' :: line.toList.reverse := by
    rw [String.toList_append, List.reverse_append]
    rfl
  rw [chomp, whole]
  split
  · next front equal =>
      refine absurd ?_ single.carriage
      rw [← List.head?_reverse, (List.cons.inj equal).2]
      rfl
  · next front _ equal =>
      rw [← (List.cons.inj equal).2, List.reverse_reverse, String.ofList_toList]
  · next other => exact absurd rfl (other _)

theorem strLines_cons (single : OneLine line) (rest : String) :
    strLines (line ++ "\n" ++ rest) = line :: strLines rest := by
  have isLine : IsLine (line ++ "\n") := ⟨line.toList, String.toList_append, single.feed⟩
  rw [strLines, lines_append isLine, List.map_cons, chomp_feed single]
  rfl

theorem strLines_single (single : OneLine line) (visible : line ≠ "") : strLines line = [line] := by
  have some' : ¬ line.toList.isEmpty = true := by
    rw [List.isEmpty_iff, String.toList_eq_nil_iff]
    exact visible
  rw [strLines, lines, splitLines_of_not_mem single.feed, List.nil_append, if_neg some',
    List.map_singleton, List.map_singleton, String.ofList_toList, chomp_of_oneLine single]

/-- Lines that are joined are read back, with any lines behind them. -/
theorem strLines_joinLines_append {texts : List String} (single : ∀ line ∈ texts, OneLine line)
    (some' : texts ≠ []) (rest : String) :
    strLines (joinLines texts ++ "\n" ++ rest) = texts ++ strLines rest := by
  induction texts with
  | nil => exact absurd rfl some'
  | cons line texts ih =>
      rw [List.forall_mem_cons] at single
      cases texts with
      | nil => exact strLines_cons single.1 rest
      | cons next texts =>
          have later := ih single.2 (List.cons_ne_nil _ _)
          have parts : joinLines (line :: next :: texts) ++ "\n" ++ rest =
              line ++ "\n" ++ (joinLines (next :: texts) ++ "\n" ++ rest) := by
            simp only [joinLines, String.append_assoc]
          rw [parts, strLines_cons single.1, later]
          rfl

theorem strLines_joinLines {texts : List String} (single : ∀ line ∈ texts, OneLine line)
    (visible : ∀ line ∈ texts, line ≠ "") : strLines (joinLines texts) = texts := by
  induction texts with
  | nil => rfl
  | cons line texts ih =>
      rw [List.forall_mem_cons] at single visible
      cases texts with
      | nil => exact strLines_single single.1 visible.1
      | cons next texts =>
          rw [joinLines, strLines_cons single.1, ih single.2 visible.2]
          exact List.cons_ne_nil _ _

end Lines

/-! ## Reading entries back -/

/-- A key and a value that stand on one line and have no white space at their ends, and no colon
in the key. -/
structure PlainEntry (entry : String × String) : Prop where
  colon : ':' ∉ entry.1.toList
  keyFeed : '\n' ∉ entry.1.toList
  keyTrimmed : trim entry.1 = entry.1
  feed : '\n' ∉ entry.2.toList
  trimmed : trim entry.2 = entry.2

theorem splitChars_append {first : Char} {sep key : List Char} (absent : first ∉ key)
    (value : List Char) :
    splitChars (first :: sep) (key ++ first :: sep ++ value) = some (key, value) := by
  induction key with
  | nil =>
      rw [List.nil_append, List.cons_append, splitChars, if_pos, ← List.cons_append,
        List.drop_left]
      rw [← List.cons_append, List.isPrefixOf_iff_prefix]
      exact List.prefix_append _ _
  | cons c key ih =>
      rw [List.mem_cons, not_or] at absent
      rw [List.cons_append, List.cons_append, splitChars, if_neg, ih absent.2]
      · rfl
      · intro begins
        rw [List.isPrefixOf_cons_cons, Bool.and_eq_true] at begins
        exact absent.1 (beq_iff_eq.mp begins.1)

section Entries

variable {entry : String × String}

/-- The key is what stands before the first colon and blank. -/
theorem splitOnce_entryLine (plain : PlainEntry entry) :
    splitOnce ": " (entryLine entry) = some entry := by
  have whole : (entryLine entry).toList = entry.1.toList ++ ':' :: [' '] ++ entry.2.toList := by
    rw [entryLine, String.toList_append, String.toList_append]
    rfl
  have split : splitChars ": ".toList (entryLine entry).toList =
      some (entry.1.toList, entry.2.toList) := by
    rw [whole]
    exact splitChars_append plain.colon entry.2.toList
  rw [splitOnce, split, Option.map_some]
  dsimp only
  rw [String.ofList_toList, String.ofList_toList]

theorem not_isWhitespace_getLast {value : String} (trimmed : trim value = value) {c : Char}
    (last : value.toList.getLast? = some c) : isWhitespace c = false := by
  have back := congrArg (fun text => text.toList.reverse.head?) trimmed
  rw [trim, String.toList_ofList, List.reverse_reverse, List.head?_reverse, last] at back
  have kept := List.head?_dropWhile_not isWhitespace
    ((value.toList.dropWhile isWhitespace).reverse)
  rw [back] at kept
  simpa using kept

theorem oneLine_entryLine (plain : PlainEntry entry) : OneLine (entryLine entry) := by
  have whole : (entryLine entry).toList = entry.1.toList ++ [':', ' '] ++ entry.2.toList := by
    rw [entryLine, String.toList_append, String.toList_append]
    rfl
  constructor
  · rw [whole, List.mem_append, List.mem_append]
    rintro ((key | sep) | value)
    · exact plain.keyFeed key
    · exact absurd sep (by decide)
    · exact plain.feed value
  · rw [whole]
    intro ends
    rcases List.eq_nil_or_concat entry.2.toList with empty | ⟨front, c, split⟩
    · rw [empty, List.append_nil, List.getLast?_append] at ends
      exact absurd ends (by simp)
    · have last : entry.2.toList.getLast? = some c := by
        rw [split]
        simp
      rw [List.getLast?_append, last] at ends
      have visible := not_isWhitespace_getLast plain.trimmed last
      rw [Option.some.inj ends] at visible
      exact absurd visible (by decide)

theorem entryLine_ne_empty : entryLine entry ≠ "" := by
  intro empty
  have none := congrArg String.toList empty
  rw [entryLine, String.toList_append, String.toList_append] at none
  simp at none

end Entries

end RbctlDsl.Lib

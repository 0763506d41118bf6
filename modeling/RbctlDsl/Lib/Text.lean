/-!
# Text

Trimming, splitting and number parsing as Rust's standard library does them.
-/

namespace RbctlDsl.Lib

/-- The Unicode property `White_Space`. -/
def isWhitespace (c : Char) : Bool :=
  let n := c.toNat
  (9 ≤ n && n ≤ 13) || n == 0x20 || n == 0x85 || n == 0xA0 || n == 0x1680 ||
    (0x2000 ≤ n && n ≤ 0x200A) || n == 0x2028 || n == 0x2029 || n == 0x202F ||
    n == 0x205F || n == 0x3000

/-- `str::trim`. -/
def trim (s : String) : String :=
  String.ofList ((s.toList.dropWhile isWhitespace).reverse.dropWhile isWhitespace).reverse

/-- `str::starts_with`. -/
def startsWith (s start : String) : Bool := start.toList.isPrefixOf s.toList

/-- The lines of a text, each with its line feed, and the rest if it is not empty.  `piece` is
what has been read of the current line. -/
def splitLines (piece : List Char) : List Char → List (List Char)
  | [] => if piece.isEmpty then [] else [piece]
  | c :: rest =>
    if c = '\n' then (piece ++ [c]) :: splitLines [] rest else splitLines (piece ++ [c]) rest

/-- What `BufRead::read_line` reads, one line after the other. -/
def lines (text : String) : List String := (splitLines [] text.toList).map String.ofList

/-- The pieces between the elements that satisfy `p`, the empty ones left out.  `piece` is
the piece read so far. -/
def splitNonempty {α : Type} (p : α → Bool) (piece : List α) : List α → List (List α)
  | [] => if piece.isEmpty then [] else [piece]
  | a :: rest =>
    if p a then
      if piece.isEmpty then splitNonempty p [] rest else piece :: splitNonempty p [] rest
    else
      splitNonempty p (piece ++ [a]) rest

/-- `str::split_whitespace`. -/
def splitWhitespace (s : String) : List String :=
  (splitNonempty isWhitespace [] s.toList).map String.ofList

/-- The value of a decimal digit. -/
def digitValue (c : Char) : Option Nat :=
  if '0' ≤ c ∧ c ≤ '9' then some (c.toNat - '0'.toNat) else none

/-- The number that digits spell after `value`, unless it does not stay below `bound`. -/
def parseDigits (bound : Nat) (value : Nat) : List Char → Option Nat
  | [] => some value
  | c :: rest => do
    let digit ← digitValue c
    if value * 10 + digit < bound then parseDigits bound (value * 10 + digit) rest else none

/-- `str::parse` for an unsigned integer type with `bound` values: an optional plus sign and
at least one digit. -/
def parseUnsigned (bound : Nat) (s : String) : Option Nat :=
  match s.toList with
  | [] => none
  | '+' :: [] => none
  | '+' :: digits => parseDigits bound 0 digits
  | digits => parseDigits bound 0 digits

/-! ## Lines -/

/-- A text that is one line: a line feed at its end, and no other. -/
def IsLine (text : String) : Prop := ∃ front, text.toList = front ++ ['\n'] ∧ '\n' ∉ front

theorem splitLines_append {front : List Char} (single : '\n' ∉ front)
    (piece rest : List Char) :
    splitLines piece (front ++ '\n' :: rest) =
      (piece ++ front ++ ['\n']) :: splitLines [] rest := by
  induction front generalizing piece with
  | nil => simp [splitLines]
  | cons c front ih =>
      simp only [List.mem_cons, not_or] at single
      obtain ⟨other, single⟩ := single
      rw [List.cons_append, splitLines, if_neg (Ne.symm other), ih single]
      simp

/-- The first line of a text is read first. -/
theorem lines_append {line : String} (isLine : IsLine line) (rest : String) :
    lines (line ++ rest) = line :: lines rest := by
  obtain ⟨front, equal, single⟩ := isLine
  rw [lines, String.toList_append, equal, List.append_assoc, List.singleton_append,
    splitLines_append single, List.nil_append, List.map_cons, ← equal, String.ofList_toList]
  rfl

/-- A text with a line feed has a first line, which ends with the first line feed. -/
theorem exists_first_line {text : String} (feed : '\n' ∈ text.toList) :
    ∃ line rest, text = line ++ rest ∧ IsLine line := by
  obtain ⟨front, rest, equal, single⟩ := List.eq_append_cons_of_mem feed
  refine ⟨String.ofList (front ++ ['\n']), String.ofList rest, ?_, front, by simp, single⟩
  rw [← String.ofList_append, List.append_assoc, List.singleton_append, ← equal,
    String.ofList_toList]

/-- What a text begins with, without a line feed, its first line begins with. -/
theorem IsLine.isPrefix {line rest : String} {start : List Char} (isLine : IsLine line)
    (begins : start <+: (line ++ rest).toList) (single : '\n' ∉ start) : start <+: line.toList := by
  rw [String.toList_append] at begins
  rcases List.prefix_or_prefix_of_prefix begins (List.prefix_append ..) with inside | outside
  · exact inside
  · obtain ⟨front, equal, _⟩ := isLine
    have feed : '\n' ∈ line.toList := by simp [equal]
    exact absurd (outside.mem feed) single

/-! ## Trimming -/

/-- A prefix that has no white space at its ends survives trimming. -/
theorem prefix_trim {text : String} {first last : Char} {middle : List Char}
    (begins : first :: middle ++ [last] <+: text.toList)
    (visible : isWhitespace first = false) (closed : isWhitespace last = false) :
    first :: middle ++ [last] <+: (trim text).toList := by
  obtain ⟨rest, equal⟩ := begins
  have front : text.toList.dropWhile isWhitespace = text.toList := by
    rw [← equal]
    simp [visible]
  have back : text.toList.reverse.dropWhile isWhitespace =
      rest.reverse.dropWhile isWhitespace ++ (first :: middle ++ [last]).reverse := by
    rw [← equal, List.reverse_append, List.dropWhile_append]
    split
    · next gone =>
        rw [List.isEmpty_iff.mp gone]
        simp [closed]
    · rfl
  rw [trim, String.toList_ofList, front, back, List.reverse_append, List.reverse_reverse]
  exact List.prefix_append ..

/-- A line keeps no line feed. -/
theorem IsLine.not_mem_trim {line : String} (isLine : IsLine line) : '\n' ∉ (trim line).toList := by
  obtain ⟨front, equal, single⟩ := isLine
  intro member
  rw [trim, String.toList_ofList, List.mem_reverse, equal, List.dropWhile_append] at member
  split at member
  · simp [show isWhitespace '\n' = true from rfl] at member
  · rw [List.reverse_append, List.reverse_singleton, List.singleton_append,
      List.dropWhile_cons_of_pos rfl] at member
    have kept := List.mem_reverse.mp ((List.dropWhile_sublist _).mem member)
    exact single ((List.dropWhile_sublist _).mem kept)

/-- A text without white space survives trimming. -/
theorem trim_of_visible {text : String} (visible : ∀ c ∈ text.toList, isWhitespace c = false) :
    trim text = text := by
  have kept (chars : List Char) (visible : ∀ c ∈ chars, isWhitespace c = false) :
      chars.dropWhile isWhitespace = chars := by
    cases chars with
    | nil => rfl
    | cons c rest => exact List.dropWhile_cons_of_neg (by rw [visible c (.head _)]; decide)
  have back : ∀ c ∈ text.toList.reverse, isWhitespace c = false :=
    fun c member => visible c (List.mem_reverse.mp member)
  rw [trim, kept _ visible, kept _ back, List.reverse_reverse, String.ofList_toList]

theorem startsWith_iff {s start : String} :
    startsWith s start = true ↔ start.toList <+: s.toList := List.isPrefixOf_iff_prefix

end RbctlDsl.Lib

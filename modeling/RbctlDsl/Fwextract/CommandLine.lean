import RbctlDsl.Fwextract.Split
import RbctlDsl.Lib.LastWins
import RbctlDsl.Lib.Text

/-!
# The command line

`parse_args` of `fwextract` against a grammar: what is accepted is a list of options and one file,
and of an option that is given twice the last one counts.  The text of the usage is left out.
-/

namespace RbctlDsl.Fwextract

open RbctlDsl.Lib

/-- `Args`, which decrypts only with a key. -/
structure Options extends Args where
  decrypt : Bool
  rsaKey : Option String
  keyed : decrypt = true → rsaKey.isSome = true
  deriving DecidableEq

/-- The variables of the loop. -/
structure ArgVars where
  fwPath : Option String := none
  output : Option String := none
  extractAll : Bool := false
  decrypt : Bool := false
  rsaKey : Option String := none
  splitDir : Option String := none
  deriving DecidableEq

/-- An early return: the error that is printed, whether the usage is, and the exit code. -/
structure Refusal where
  error : Option String
  usage : Bool
  code : Nat
  deriving DecidableEq

/-- The arms of the loop. -/
inductive ArgWord where
  | help | output | all | decrypt | rsaKey | split | unknown | file
  deriving DecidableEq

def ArgWord.of (word : String) : ArgWord :=
  match word with
  | "-h" | "--help" => .help
  | "-o" | "--output" => .output
  | "-a" | "--all" => .all
  | "-d" | "--decrypt" => .decrypt
  | "-k" | "--rsa-key" => .rsaKey
  | "-s" | "--split" => .split
  | s => if startsWith s "-" then .unknown else .file

/-- The loop, from a word on.  `withDecrypt` is the feature that the program is built with. -/
def parseWords (withDecrypt : Bool) (vars : ArgVars) : List String → Except Refusal ArgVars
  | [] => .ok vars
  | word :: rest =>
    match ArgWord.of word with
    | .help => .error ⟨none, true, 0⟩
    | .output =>
      match rest with
      | [] => .error ⟨some "error: -o requires a path", false, 2⟩
      | path :: rest => parseWords withDecrypt { vars with output := some path } rest
    | .all => parseWords withDecrypt { vars with extractAll := true } rest
    | .decrypt =>
      if withDecrypt then parseWords withDecrypt { vars with decrypt := true } rest
      else .error ⟨some "error: --decrypt requires building with --features decrypt", false, 2⟩
    | .rsaKey =>
      match rest with
      | [] => .error ⟨some "error: --rsa-key requires a path", false, 2⟩
      | path :: rest => parseWords withDecrypt { vars with rsaKey := some path } rest
    | .split =>
      match rest with
      | [] => .error ⟨some "error: --split requires a directory", false, 2⟩
      | dir :: rest => parseWords withDecrypt { vars with splitDir := some dir } rest
    | .unknown => .error ⟨some s!"error: unknown option '{word}'", true, 2⟩
    | .file =>
      if vars.fwPath.isSome then .error ⟨some "error: multiple input files", false, 2⟩
      else parseWords withDecrypt { vars with fwPath := some word } rest

/-- What is checked behind the loop. -/
def finishArgs (vars : ArgVars) : Except Refusal Options :=
  match vars.fwPath with
  | none => .error ⟨none, true, 2⟩
  | some fwPath =>
    if keyless : vars.decrypt ∧ vars.rsaKey.isNone then
      .error ⟨some "error: --decrypt requires --rsa-key <PATH>", false, 2⟩
    else
      .ok {
        fwPath, output := vars.output, extractAll := vars.extractAll, splitDir := vars.splitDir
        decrypt := vars.decrypt, rsaKey := vars.rsaKey
        keyed decrypts := Option.isSome_iff_ne_none.mpr fun missing =>
          keyless ⟨decrypts, Option.isNone_iff_eq_none.mpr missing⟩ }

/-- `parse_args` on the words behind the name of the program. -/
def parseArgs (withDecrypt : Bool) (words : List String) : Except Refusal Options := do
  finishArgs (← parseWords withDecrypt {} words)

/-! ## The grammar -/

/-- The words of an arm other than the last two. -/
def ArgWord.words : ArgWord → List String
  | .help => ["-h", "--help"]
  | .output => ["-o", "--output"]
  | .all => ["-a", "--all"]
  | .decrypt => ["-d", "--decrypt"]
  | .rsaKey => ["-k", "--rsa-key"]
  | .split => ["-s", "--split"]
  | .unknown | .file => []

/-- An option with its value, or the file. -/
inductive Item where
  | output (path : String)
  | all
  | decrypt
  | rsaKey (path : String)
  | split (dir : String)
  | file (path : String)
  deriving DecidableEq

namespace Item

/-- The ways to write an item down. -/
def spellings : Item → List (List String)
  | output path => ArgWord.output.words.map ([·, path])
  | all => ArgWord.all.words.map ([·])
  | decrypt => ArgWord.decrypt.words.map ([·])
  | rsaKey path => ArgWord.rsaKey.words.map ([·, path])
  | split dir => ArgWord.split.words.map ([·, dir])
  | file path => if startsWith path "-" then [] else [[path]]

def file? : Item → Option String
  | file path => some path
  | _ => none

def output? : Item → Option String
  | output path => some path
  | _ => none

def rsaKey? : Item → Option String
  | rsaKey path => some path
  | _ => none

def split? : Item → Option String
  | split dir => some dir
  | _ => none

end Item

/-- The words spell the items, one behind the other. -/
inductive Spelled : List Item → List String → Prop where
  | nil : Spelled [] []
  | cons {item : Item} {words rest : List String} {items : List Item} :
      words ∈ item.spellings → Spelled items rest → Spelled (item :: items) (words ++ rest)

/-- At most one file, and no decryption without the feature. -/
structure Admits (withDecrypt : Bool) (items : List Item) : Prop where
  single : (items.filterMap Item.file?).length ≤ 1
  built : .decrypt ∈ items → withDecrypt = true

/-- What the items ask for: one file, and for each option the last value. -/
structure Means (items : List Item) (options : Options) : Prop where
  file : items.filterMap Item.file? = [options.fwPath]
  output : (items.filterMap Item.output?).getLast? = options.output
  rsaKey : (items.filterMap Item.rsaKey?).getLast? = options.rsaKey
  splitDir : (items.filterMap Item.split?).getLast? = options.splitDir
  extractAll : .all ∈ items ↔ options.extractAll = true
  decrypt : .decrypt ∈ items ↔ options.decrypt = true

/-- The words ask for help, and nothing in front of that is refused. -/
def AsksHelp (withDecrypt : Bool) (words : List String) : Prop :=
  ∃ items before help rest, Spelled items before ∧ Admits withDecrypt items ∧
    help ∈ ArgWord.help.words ∧ words = before ++ help :: rest

/-! ## The words of the arms -/

namespace ArgWord

theorem of_cases (word : String) :
    word ∈ (of word).words ∨ (startsWith word "-" = true ∧ of word = unknown) ∨
      (startsWith word "-" = false ∧ of word = file) := by
  unfold of
  split
  case h_13 =>
    split
    next starts => exact .inr (.inl ⟨starts, rfl⟩)
    next other => exact .inr (.inr ⟨Bool.eq_false_iff.mpr other, rfl⟩)
  all_goals exact .inl (by decide)

theorem mem_words {word : String} {arm : ArgWord} (isArm : of word = arm)
    (known : arm ≠ unknown ∧ arm ≠ file) : word ∈ arm.words := by
  rcases of_cases word with member | ⟨-, other⟩ | ⟨-, other⟩
  · exact isArm ▸ member
  · exact absurd (isArm.symm.trans other) known.1
  · exact absurd (isArm.symm.trans other) known.2

theorem of_of_mem_words {word : String} {arm : ArgWord} (member : word ∈ arm.words) :
    of word = arm := by
  revert member
  cases arm with
  | unknown | file => exact fun member => absurd member List.not_mem_nil
  | _ =>
      simp only [words, List.mem_cons, List.not_mem_nil, or_false]
      rintro (rfl | rfl) <;> rfl

theorem of_eq_file_iff {word : String} : of word = file ↔ startsWith word "-" = false := by
  rcases of_cases word with member | ⟨starts, isUnknown⟩ | ⟨starts, isFile⟩
  · have starts : startsWith word "-" = true := by
      revert member
      cases of word with
      | unknown | file => exact fun member => absurd member List.not_mem_nil
      | _ =>
          simp only [words, List.mem_cons, List.not_mem_nil, or_false]
          rintro (rfl | rfl) <;> decide
    refine iff_of_false (fun isFile => ?_) (by simp [starts])
    rw [isFile] at member
    exact absurd member List.not_mem_nil
  · rw [isUnknown, starts]
    decide
  · exact iff_of_true isFile starts

end ArgWord

/-! ## The loop -/

/-- What an item does to the variables. -/
def ArgVars.set (vars : ArgVars) : Item → ArgVars
  | .output path => { vars with output := some path }
  | .all => { vars with extractAll := true }
  | .decrypt => { vars with decrypt := true }
  | .rsaKey path => { vars with rsaKey := some path }
  | .split dir => { vars with splitDir := some dir }
  | .file path => { vars with fwPath := some path }

/-- The items are admitted behind what the variables hold. -/
structure AdmitsFrom (withDecrypt : Bool) (vars : ArgVars) (items : List Item) : Prop where
  single : vars.fwPath.toList.length + (items.filterMap Item.file?).length ≤ 1
  built : .decrypt ∈ items → withDecrypt = true

section Loop

variable {withDecrypt : Bool} {vars after : ArgVars} {item : Item} {items : List Item}
  {words rest : List String}

theorem admitsFrom_nil : AdmitsFrom withDecrypt vars [] :=
  ⟨Option.length_toList_le, fun member => absurd member List.not_mem_nil⟩

theorem admitsFrom_cons :
    AdmitsFrom withDecrypt vars (item :: items) ↔
      (item.file?.isSome = true → vars.fwPath = none) ∧ (item = .decrypt → withDecrypt = true) ∧
        AdmitsFrom withDecrypt (vars.set item) items := by
  constructor
  · rintro ⟨single, built⟩
    refine ⟨fun isFile => ?_, fun decrypts => built (decrypts ▸ List.mem_cons_self), ?_,
      fun member => built (List.mem_cons_of_mem _ member)⟩
    · cases item with
      | file path =>
          cases given : vars.fwPath with
          | none => rfl
          | some other =>
              simp only [given, Item.file?, Option.toList_some, List.filterMap_cons,
                List.length_cons] at single
              omega
      | _ => cases isFile
    · cases item with
      | file path =>
          simp only [Item.file?, List.filterMap_cons, List.length_cons] at single
          simp only [ArgVars.set, Option.toList_some, List.length_singleton]
          omega
      | _ => exact single
  · rintro ⟨first, decrypts, single, built⟩
    refine ⟨?_, fun member => ?_⟩
    · cases item with
      | file path =>
          simp only [ArgVars.set, Option.toList_some, List.length_singleton] at single
          simp only [first rfl, Item.file?, List.filterMap_cons, List.length_cons,
            Option.toList_none, List.length_nil]
          omega
      | _ => exact single
    · rcases List.mem_cons.mp member with same | later
      · exact decrypts same.symm
      · exact built later

/-- The loop takes an item in. -/
theorem parseWords_item (spelled : words ∈ item.spellings)
    (first : item.file?.isSome = true → vars.fwPath = none)
    (built : item = .decrypt → withDecrypt = true) :
    parseWords withDecrypt vars (words ++ rest) = parseWords withDecrypt (vars.set item) rest := by
  cases item with
  | file path =>
      rw [Item.spellings] at spelled
      split at spelled
      · cases spelled
      · next other =>
          cases List.mem_singleton.mp spelled
          have isFile := ArgWord.of_eq_file_iff.mpr (Bool.eq_false_iff.mpr other)
          rw [List.singleton_append, parseWords.eq_def]
          simp only [isFile, first rfl, Option.isSome_none, Bool.false_eq_true, if_false,
            ArgVars.set]
  | decrypt =>
      obtain ⟨word, member, rfl⟩ := List.mem_map.mp spelled
      rw [List.singleton_append, parseWords.eq_def]
      simp only [ArgWord.of_of_mem_words member, built rfl, if_true, ArgVars.set]
  | _ =>
      obtain ⟨word, member, rfl⟩ := List.mem_map.mp spelled
      rw [parseWords.eq_def]
      simp only [List.cons_append, List.nil_append, ArgWord.of_of_mem_words member, ArgVars.set]

theorem parseWords_spelled (spelled : Spelled items words)
    (admits : AdmitsFrom withDecrypt vars items) :
    parseWords withDecrypt vars (words ++ rest) =
      parseWords withDecrypt (items.foldl ArgVars.set vars) rest := by
  induction spelled generalizing vars with
  | nil => rfl
  | cons item _ ih =>
      obtain ⟨first, built, admits⟩ := admitsFrom_cons.mp admits
      rw [List.append_assoc, parseWords_item item first built, ih admits]
      rfl

/-- What the loop makes of the words: they are items, or refused with one of two codes. -/
def LoopEnds (withDecrypt : Bool) (vars : ArgVars) (words : List String) :
    Except Refusal ArgVars → Prop
  | .ok after => ∃ items, Spelled items words ∧ AdmitsFrom withDecrypt vars items ∧
      after = items.foldl ArgVars.set vars
  | .error refusal => refusal.code = 2 ∨ ∃ items before help rest, Spelled items before ∧
      AdmitsFrom withDecrypt vars items ∧ help ∈ ArgWord.help.words ∧
      words = before ++ help :: rest

/-- One more item in front. -/
theorem LoopEnds.cons {result : Except Refusal ArgVars} (item : Item)
    (spelled : words ∈ item.spellings)
    (first : item.file?.isSome = true → vars.fwPath = none)
    (built : item = .decrypt → withDecrypt = true)
    (ends : LoopEnds withDecrypt (vars.set item) rest result) :
    LoopEnds withDecrypt vars (words ++ rest) result := by
  cases result with
  | ok after =>
      obtain ⟨items, later, admits, same⟩ := ends
      exact ⟨item :: items, .cons spelled later, admitsFrom_cons.mpr ⟨first, built, admits⟩, same⟩
  | error refusal =>
      refine ends.imp_right fun asks => ?_
      obtain ⟨items, before, help, behind, later, admits, isHelp, split⟩ := asks
      refine ⟨item :: items, words ++ before, help, behind, .cons spelled later,
        admitsFrom_cons.mpr ⟨first, built, admits⟩, isHelp, ?_⟩
      rw [split, List.append_assoc]

theorem loopEnds_parseWords (withDecrypt : Bool) (vars : ArgVars) (words : List String) :
    LoopEnds withDecrypt vars words (parseWords withDecrypt vars words) := by
  fun_induction parseWords withDecrypt vars words with
  | case1 vars => exact ⟨[], .nil, admitsFrom_nil, rfl⟩
  | case2 vars word rest isHelp =>
      exact .inr ⟨[], [], word, rest, .nil, admitsFrom_nil,
        ArgWord.mem_words isHelp (by decide), rfl⟩
  | case3 | case7 | case8 | case10 | case12 | case13 => exact .inl rfl
  | case4 vars word isOutput path rest ih =>
      have member := ArgWord.mem_words isOutput (by decide)
      exact LoopEnds.cons (.output path) (List.mem_map_of_mem member)
        (fun isFile => by cases isFile) (fun other => by cases other) ih
  | case5 vars word rest isAll ih =>
      have member := ArgWord.mem_words isAll (by decide)
      exact LoopEnds.cons .all (List.mem_map_of_mem member) (fun isFile => by cases isFile)
        (fun other => by cases other) ih
  | case6 vars word rest isDecrypt built ih =>
      have member := ArgWord.mem_words isDecrypt (by decide)
      exact LoopEnds.cons .decrypt (List.mem_map_of_mem member) (fun isFile => by cases isFile)
        (fun _ => built) ih
  | case9 vars word isKey path rest ih =>
      have member := ArgWord.mem_words isKey (by decide)
      exact LoopEnds.cons (.rsaKey path) (List.mem_map_of_mem member)
        (fun isFile => by cases isFile) (fun other => by cases other) ih
  | case11 vars word isSplit dir rest ih =>
      have member := ArgWord.mem_words isSplit (by decide)
      exact LoopEnds.cons (.split dir) (List.mem_map_of_mem member) (fun isFile => by cases isFile)
        (fun other => by cases other) ih
  | case14 vars word rest isFile first ih =>
      have spelled : [word] ∈ (Item.file word).spellings := by
        rw [Item.spellings, ArgWord.of_eq_file_iff.mp isFile]
        exact List.mem_singleton_self _
      exact LoopEnds.cons (.file word) spelled (fun _ => Option.not_isSome_iff_eq_none.mp first)
        (fun other => by cases other) ih

end Loop

/-! ## What is accepted -/

theorem finishArgs_iff {vars : ArgVars} {options : Options} :
    finishArgs vars = .ok options ↔
      vars.fwPath = some options.fwPath ∧ vars.output = options.output ∧
        vars.rsaKey = options.rsaKey ∧ vars.splitDir = options.splitDir ∧
        vars.extractAll = options.extractAll ∧ vars.decrypt = options.decrypt := by
  obtain ⟨fwPath, output, extractAll, decrypt, rsaKey, splitDir⟩ := vars
  constructor
  · intro finished
    cases fwPath with
    | none => cases finished
    | some fwPath =>
        unfold finishArgs at finished
        split at finished
        · cases finished
        · next path given =>
            cases given
            split at finished <;> cases finished
            exact ⟨rfl, rfl, rfl, rfl, rfl, rfl⟩
  · rintro ⟨given, same⟩
    obtain ⟨⟨path, output', extractAll', splitDir'⟩, decrypt', rsaKey', keyed⟩ := options
    dsimp only at given same
    obtain ⟨rfl, rfl, rfl, rfl, rfl⟩ := same
    cases given
    have keyless : ¬ (decrypt = true ∧ rsaKey.isNone = true) := fun ⟨decrypts, missing⟩ => by
      have given := keyed decrypts
      rw [Option.isNone_iff_eq_none.mp missing] at given
      cases given
    unfold finishArgs
    exact dif_neg keyless

theorem code_of_finishArgs {vars : ArgVars} {refusal : Refusal}
    (refused : finishArgs vars = .error refusal) : refusal.code = 2 := by
  unfold finishArgs at refused
  split at refused
  · cases refused
    rfl
  · split at refused <;> cases refused
    rfl

section Accepted

variable {withDecrypt : Bool} {items : List Item} {words : List String} {options : Options}

theorem admitsFrom_empty : AdmitsFrom withDecrypt {} items ↔ Admits withDecrypt items := by
  have single : (({} : ArgVars).fwPath.toList).length + (items.filterMap Item.file?).length =
      (items.filterMap Item.file?).length := Nat.zero_add _
  constructor
  · rintro ⟨one, built⟩
    exact ⟨single ▸ one, built⟩
  · rintro ⟨one, built⟩
    exact ⟨single.symm ▸ one, built⟩

theorem fwPath_foldl : (items.foldl ArgVars.set {}).fwPath =
    (items.filterMap Item.file?).getLast? := by
  have last := @foldl_last _ _ _ ArgVars.set ArgVars.fwPath Item.file?
    (fun _ item => by cases item <;> rfl) items {}
  rw [last, Option.or_none]

/-- The variables behind the loop hold what the items mean. -/
theorem means_iff (single : (items.filterMap Item.file?).length ≤ 1) :
    Means items options ↔ finishArgs (items.foldl ArgVars.set {}) = .ok options := by
  have output := @foldl_last _ _ _ ArgVars.set ArgVars.output Item.output?
    (fun _ item => by cases item <;> rfl) items {}
  have rsaKey := @foldl_last _ _ _ ArgVars.set ArgVars.rsaKey Item.rsaKey?
    (fun _ item => by cases item <;> rfl) items {}
  have splitDir := @foldl_last _ _ _ ArgVars.set ArgVars.splitDir Item.split?
    (fun _ item => by cases item <;> rfl) items {}
  have extractAll := @foldl_switch _ _ ArgVars.set _ ArgVars.extractAll Item.all
    (fun _ item => by cases item <;> simp [ArgVars.set]) items {}
  have decrypt := @foldl_switch _ _ ArgVars.set _ ArgVars.decrypt Item.decrypt
    (fun _ item => by cases item <;> simp [ArgVars.set]) items {}
  rw [Option.or_none] at output rsaKey splitDir
  simp only [Bool.false_eq_true, false_or] at extractAll decrypt
  have file : items.filterMap Item.file? = [options.fwPath] ↔
      (items.filterMap Item.file?).getLast? = some options.fwPath := by
    revert single
    cases items.filterMap Item.file? with
    | nil => simp
    | cons path rest =>
        intro single
        have alone : rest = [] :=
          List.eq_nil_of_length_eq_zero (Nat.le_zero.mp (Nat.le_of_succ_le_succ single))
        simp [alone]
  have all : (items.foldl ArgVars.set {}).extractAll = options.extractAll ↔
      (.all ∈ items ↔ options.extractAll = true) := by rw [Bool.eq_iff_iff, extractAll]
  have decrypts : (items.foldl ArgVars.set {}).decrypt = options.decrypt ↔
      (.decrypt ∈ items ↔ options.decrypt = true) := by rw [Bool.eq_iff_iff, decrypt]
  rw [finishArgs_iff, fwPath_foldl, output, rsaKey, splitDir, all, decrypts, ← file]
  constructor
  · rintro ⟨file, output, rsaKey, splitDir, extractAll, decrypt⟩
    exact ⟨file, output, rsaKey, splitDir, extractAll, decrypt⟩
  · rintro ⟨file, output, rsaKey, splitDir, extractAll, decrypt⟩
    exact ⟨file, output, rsaKey, splitDir, extractAll, decrypt⟩

theorem parseArgs_eq (items : List Item) (spelled : Spelled items words)
    (admits : Admits withDecrypt items) :
    parseArgs withDecrypt words = finishArgs (items.foldl ArgVars.set {}) := by
  have loop := @parseWords_spelled _ _ _ _ [] spelled (admitsFrom_empty.mpr admits)
  rw [List.append_nil] at loop
  rw [parseArgs, loop]
  rfl

/-- The words that ask for help end the program with success. -/
theorem parseArgs_asksHelp (asks : AsksHelp withDecrypt words) :
    parseArgs withDecrypt words = .error ⟨none, true, 0⟩ := by
  obtain ⟨items, before, help, rest, spelled, admits, isHelp, rfl⟩ := asks
  rw [parseArgs, parseWords_spelled spelled (admitsFrom_empty.mpr admits), parseWords.eq_def]
  simp only [ArgWord.of_of_mem_words isHelp]
  rfl

end Accepted

/-- The command line is accepted exactly where it spells options and one file, with what they
mean; the last of several values counts.  Else the exit code is 2, or 0 where help is asked for
before anything is refused. -/
theorem parseArgs_grammar (withDecrypt : Bool) (words : List String) :
    (∀ options, parseArgs withDecrypt words = .ok options ↔
        ∃ items, Spelled items words ∧ Admits withDecrypt items ∧ Means items options) ∧
      ∀ refusal, parseArgs withDecrypt words = .error refusal →
        (refusal.code = 0 ∧ AsksHelp withDecrypt words) ∨
          (refusal.code = 2 ∧ ¬ AsksHelp withDecrypt words) := by
  have ends := loopEnds_parseWords withDecrypt {} words
  constructor
  · intro options
    constructor
    · intro accepted
      cases loop : parseWords withDecrypt {} words with
      | error refusal =>
          rw [parseArgs, loop] at accepted
          cases accepted
      | ok after =>
          rw [loop] at ends
          obtain ⟨items, spelled, admits, rfl⟩ := ends
          have admitted := admitsFrom_empty.mp admits
          rw [parseArgs_eq items spelled admitted] at accepted
          exact ⟨items, spelled, admitted, (means_iff admitted.single).mpr accepted⟩
    · rintro ⟨items, spelled, admits, means⟩
      rw [parseArgs_eq items spelled admits]
      exact (means_iff admits.single).mp means
  · intro refusal refused
    by_cases asks : AsksHelp withDecrypt words
    · rw [parseArgs_asksHelp asks] at refused
      cases refused
      exact .inl ⟨rfl, asks⟩
    · refine .inr ⟨?_, asks⟩
      rw [parseArgs] at refused
      cases loop : parseWords withDecrypt {} words with
      | error other =>
          rw [loop] at refused ends
          cases refused
          rcases ends with code | ⟨items, before, help, rest, spelled, admits, isHelp, split⟩
          · exact code
          · exact absurd
              ⟨items, before, help, rest, spelled, admitsFrom_empty.mp admits, isHelp, split⟩ asks
      | ok after =>
          rw [loop] at refused
          exact code_of_finishArgs refused

/-- A command line that gives a key twice, and one that lacks the key. -/
theorem parseArgs_grammar_keyless :
    (∃ items, Spelled items ["-d", "fw.bin", "-k", "old", "--rsa-key", "new"] ∧
        Admits true items ∧
        Means items ⟨⟨"fw.bin", none, false, none⟩, true, some "new", fun _ => rfl⟩) ∧
      ¬ AsksHelp true ["-d", "fw.bin"] := by
  refine ⟨((parseArgs_grammar true ["-d", "fw.bin", "-k", "old", "--rsa-key", "new"]).1 _).mp rfl,
    ?_⟩
  rcases (parseArgs_grammar true ["-d", "fw.bin"]).2
    ⟨some "error: --decrypt requires --rsa-key <PATH>", false, 2⟩ rfl with ⟨code, -⟩ | ⟨-, quiet⟩
  · cases code
  · exact quiet

end RbctlDsl.Fwextract

import RbctlDsl.Dsl.UciResolution
import RbctlDsl.Dsl.UbusObj
import RbctlDsl.Lib.Words

/-!
# The grammar of tones

`parse_tone` against what it accepts: nothing, two aliases, and lists of profile names.  What
`profile_string` prints is a list of names again.
-/

namespace RbctlDsl.Dsl

open RbctlDsl.Lib RbctlDsl.Proto

/-! ## Unions of profiles -/

/-- The profiles of all names in a list. -/
def union (names : List (Vdsl2Profiles × String)) : Vdsl2Profiles :=
  names.foldr (fun name profiles => name.1 ||| profiles) .none

section Union

variable {names names' : List (Vdsl2Profiles × String)}

theorem union_cons (name : Vdsl2Profiles × String) (names : List (Vdsl2Profiles × String)) :
    union (name :: names) = name.1 ||| union names := rfl

theorem or_union_of_mem {name : Vdsl2Profiles × String} (member : name ∈ names) :
    name.1 ||| union names = union names := by
  induction member with
  | head => rw [union_cons, ← Vdsl2Profiles.or_assoc, Vdsl2Profiles.or_self]
  | tail other _ ih =>
      rw [union_cons, ← Vdsl2Profiles.or_assoc, Vdsl2Profiles.or_comm name.1,
        Vdsl2Profiles.or_assoc, ih]

theorem union_or_of_subset (subset : names ⊆ names') :
    union names ||| union names' = union names' := by
  induction names with
  | nil => exact Vdsl2Profiles.none_or _
  | cons name names ih =>
      rw [List.cons_subset] at subset
      rw [union_cons, Vdsl2Profiles.or_assoc, ih subset.2, or_union_of_mem subset.1]

/-- Neither order nor repetition matters. -/
theorem union_congr (same : ∀ name, name ∈ names ↔ name ∈ names') :
    union names = union names' := by
  have left := union_or_of_subset fun name => (same name).mp
  have right := union_or_of_subset fun name => (same name).mpr
  rw [← right, Vdsl2Profiles.or_comm, left]

end Union

/-- A mask has the bit of a name, or nothing of it. -/
theorem and_profile_cases (mask : UInt16) {name : Vdsl2Profiles × String}
    (member : name ∈ profileNames) :
    mask &&& name.1.mask = 0 ∨ mask &&& name.1.mask = name.1.mask := by
  have single : ∀ name ∈ profileNames, ∃ bit ∈ List.range 9,
      name.1.mask.toBitVec = BitVec.twoPow 16 bit := by decide
  obtain ⟨bit, -, isBit⟩ := single name member
  have cut := BitVec.and_twoPow mask.toBitVec bit
  rw [← isBit] at cut
  split at cut
  · exact .inr (UInt16.toBitVec_inj.mp cut)
  · exact .inl (UInt16.toBitVec_inj.mp cut)

theorem and_or_distrib (mask first second : UInt16) :
    mask &&& (first ||| second) = mask &&& first ||| mask &&& second :=
  UInt16.toBitVec_inj.mp BitVec.and_or_distrib_left

/-- The names that a mask has a bit of make up what the mask has in common with all names. -/
theorem union_filter_eq (profiles : Vdsl2Profiles) {names : List (Vdsl2Profiles × String)}
    (named : names ⊆ profileNames) :
    union (names.filter fun (profile, _) => profiles.mask &&& profile.mask ≠ 0) =
      ⟨profiles.mask &&& (union names).mask⟩ := by
  induction names with
  | nil => exact congrArg Vdsl2Profiles.mk UInt16.and_zero.symm
  | cons name names ih =>
      rw [List.cons_subset] at named
      have split : profiles.mask &&& (union (name :: names)).mask =
          profiles.mask &&& name.1.mask ||| profiles.mask &&& (union names).mask :=
        and_or_distrib _ _ _
      rw [split]
      by_cases apart : profiles.mask &&& name.1.mask = 0
      · rw [List.filter_cons_of_neg (by simpa using apart), ih named.2, apart, UInt16.zero_or]
      · have whole := (and_profile_cases profiles.mask named.1).resolve_left apart
        rw [List.filter_cons_of_pos (by simpa using apart), union_cons, ih named.2, whole]
        rfl

/-- A mask of named profiles is the union of their names. -/
theorem union_filter_of_namedOnly {profiles : Vdsl2Profiles} (namedOnly : NamedOnly profiles) :
    union (profileNames.filter fun (profile, _) => profiles.mask &&& profile.mask ≠ 0) =
      profiles := by
  have all : (union profileNames).mask = 0x1ff := by decide
  rw [union_filter_eq profiles (List.Subset.refl _), all, namedOnly]

/-! ## Lists of names -/

/-- A text that lists profile names, with white space between any two and around them. -/
structure Lists (s : String) (names : List (Vdsl2Profiles × String)) : Prop where
  named : names ⊆ profileNames
  spells : Spells isWhitespace (names.map fun name => name.2.toList) s.toList

theorem parseProfile_eq_ok_iff {tok : String} {profiles : Vdsl2Profiles} :
    parseProfile tok = .ok profiles ↔ (profiles, tok) ∈ profileNames := by
  constructor
  · intro parsed
    unfold parseProfile at parsed
    split at parsed <;> cases parsed <;> decide
  · intro member
    have table : ∀ name ∈ profileNames, parseProfile name.2 = .ok name.1 := by
      simp only [profileNames, List.forall_mem_cons]
      exact ⟨rfl, rfl, rfl, rfl, rfl, rfl, rfl, rfl, rfl, List.forall_mem_nil _⟩
    exact table _ member

/-- The fold over the tokens collects the profiles that they name. -/
theorem foldlM_parseProfile_iff {tokens : List String} {start profiles : Vdsl2Profiles} :
    tokens.foldlM (fun profiles tok => do return profiles ||| (← parseProfile tok)) start =
        (.ok profiles : Except ConfigError Vdsl2Profiles) ↔
      ∃ names, names ⊆ profileNames ∧ tokens = names.map (·.2) ∧
        start ||| union names = profiles := by
  induction tokens generalizing start with
  | nil =>
      constructor
      · rintro ⟨⟩
        exact ⟨[], List.nil_subset _, rfl, Vdsl2Profiles.or_none _⟩
      · rintro ⟨names, -, none, rfl⟩
        rw [List.map_eq_nil_iff.mp none.symm, union, List.foldr_nil, Vdsl2Profiles.or_none]
        rfl
  | cons tok tokens ih =>
      rw [List.foldlM_cons, bind_eq_ok]
      constructor
      · rintro ⟨next, one, folded⟩
        obtain ⟨profile, parsed, same⟩ := bind_eq_ok.mp one
        cases same
        obtain ⟨names, named, rfl, rfl⟩ := ih.mp folded
        refine ⟨(profile, tok) :: names, ?_, rfl, ?_⟩
        · exact List.cons_subset.mpr ⟨parseProfile_eq_ok_iff.mp parsed, named⟩
        · rw [union_cons, Vdsl2Profiles.or_assoc]
      · rintro ⟨names, named, equal, rfl⟩
        obtain ⟨name, names, rfl, rfl, rfl⟩ := List.map_eq_cons_iff.mp equal.symm
        rw [List.cons_subset] at named
        refine ⟨start ||| name.1, ?_, ih.mpr ⟨names, named.2, rfl, ?_⟩⟩
        · rw [parseProfile_eq_ok_iff.mpr named.1]
          rfl
        · rw [union_cons, Vdsl2Profiles.or_assoc]

theorem lists_iff {s : String} {names : List (Vdsl2Profiles × String)} :
    Lists s names ↔ names ⊆ profileNames ∧ splitWhitespace s = names.map (·.2) := by
  have texts : splitWhitespace s = names.map (·.2) ↔
      splitNonempty isWhitespace [] s.toList = names.map fun name => name.2.toList := by
    rw [splitWhitespace]
    constructor
    · intro same
      have chars := congrArg (List.map String.toList) same
      rw [List.map_map, List.map_map] at chars
      simpa [Function.comp_def] using chars
    · intro same
      rw [same, List.map_map]
      simp [Function.comp_def]
  rw [texts, splitNonempty_eq_iff]
  constructor
  · intro lists
    exact ⟨lists.named, lists.spells⟩
  · rintro ⟨named, spells⟩
    exact ⟨named, spells⟩

theorem Lists.trim {s : String} {names : List (Vdsl2Profiles × String)} (lists : Lists s names) :
    Lists (trim s) names := by
  rw [lists_iff] at lists ⊢
  rwa [splitWhitespace_trim]

/-! ## The grammar -/

/-- The tones, with the profiles that they stand for. -/
inductive Tone (s : String) : Vdsl2Profiles → Prop where
  | empty (nothing : trim s = "") : Tone s .none
  | adsl (group : trim s = "a") : Tone s .none
  | av (all : trim s = "av") : Tone s allProfiles
  | list (names : List (Vdsl2Profiles × String)) (lists : Lists (trim s) names) :
      Tone s (union names)

/-- An alias is no list of names. -/
theorem not_lists_alias {word : String} (single : splitWhitespace word = [word])
    (other : ∀ name ∈ profileNames, name.2 ≠ word) (names : List (Vdsl2Profiles × String)) :
    ¬ Lists word names := by
  rw [lists_iff, single]
  rintro ⟨named, same⟩
  obtain ⟨name, rest, rfl, isWord, -⟩ := List.map_eq_cons_iff.mp same.symm
  exact other name (named (.head _)) isWord

theorem parseTone_list {s : String} {names : List (Vdsl2Profiles × String)}
    (lists : Lists (trim s) names) : parseTone s = .ok (union names) := by
  obtain ⟨named, tokens⟩ := lists_iff.mp lists
  have folded := foldlM_parseProfile_iff.mpr ⟨names, named, tokens, Vdsl2Profiles.none_or _⟩
  rw [parseTone]
  split
  · next special =>
      rcases special with blank | group
      · rw [blank] at tokens
        rw [List.map_eq_nil_iff.mp tokens.symm]
        rfl
      · rw [group] at lists
        exact absurd lists (not_lists_alias (by decide) (by decide) names)
  · split
    · next all =>
        rw [all] at lists
        exact absurd lists (not_lists_alias (by decide) (by decide) names)
    · exact folded

/-- `parse_tone` accepts the tones of the grammar. -/
theorem parseTone_eq_ok_iff {s : String} {profiles : Vdsl2Profiles} :
    parseTone s = .ok profiles ↔ Tone s profiles := by
  constructor
  · intro parsed
    rw [parseTone] at parsed
    split at parsed
    · next special =>
        cases parsed
        exact special.elim .empty .adsl
    · split at parsed
      · next all =>
          cases parsed
          exact .av all
      · obtain ⟨names, named, tokens, rfl⟩ := foldlM_parseProfile_iff.mp parsed
        rw [Vdsl2Profiles.none_or]
        exact .list names (lists_iff.mpr ⟨named, tokens⟩)
  · intro tone
    cases tone with
    | empty nothing => rw [parseTone, nothing]; rfl
    | adsl group => rw [parseTone, group]; rfl
    | av all => rw [parseTone, all]; rfl
    | list names lists => exact parseTone_list lists

/-- What is printed lists the names of the profiles. -/
theorem lists_profileString (profiles : Vdsl2Profiles) :
    Lists (profileString profiles)
      (profileNames.filter fun (profile, _) => profiles.mask &&& profile.mask ≠ 0) := by
  have visible : ∀ name ∈ profileNames,
      name.2.toList ≠ [] ∧ name.2.toList.all (!isWhitespace ·) = true := by decide
  refine ⟨List.filter_sublist.subset, ?_⟩
  rw [profileString, String.toList_intercalate, List.map_map]
  refine spells_intercalate (by decide) fun word member => ?_
  obtain ⟨name, inside, rfl⟩ := List.mem_map.mp member
  obtain ⟨nonempty, solid⟩ := visible name (List.mem_filter.mp inside).1
  simp only [List.all_eq_true, Bool.not_eq_true'] at solid
  exact ⟨nonempty, solid⟩

/-- `parse_tone` accepts the grammar of tones.  A list stands for the union of its profiles,
whatever their order, repetition and spacing, and what is printed of a tone is a tone of the same
profiles. -/
theorem parseTone_grammar :
    (∀ s profiles, parseTone s = .ok profiles ↔ Tone s profiles) ∧
      (∀ s s' names names', Lists (trim s) names → Lists (trim s') names' →
        (∀ name, name ∈ names ↔ name ∈ names') →
        parseTone s = .ok (union names) ∧ parseTone s' = parseTone s) ∧
      ∀ s profiles, parseTone s = .ok profiles →
        parseTone (profileString profiles) = .ok profiles := by
  refine ⟨fun s profiles => parseTone_eq_ok_iff, ?_, ?_⟩
  · intro s s' names names' lists lists' same
    rw [parseTone_list lists, parseTone_list lists', union_congr same]
    exact ⟨rfl, rfl⟩
  · intro s profiles parsed
    rw [parseTone_list (lists_profileString profiles).trim,
      union_filter_of_namedOnly (namedOnly_of_parseTone parsed)]

/-- Two lists of two profiles, one of them with a repetition and other white space. -/
theorem parseTone_grammar_repeated :
    parseTone "8a 17a" = .ok (union [(.eightA, "8a"), (.seventeenA, "17a")]) ∧
      parseTone " 17a\t8a  17a " = parseTone "8a 17a" := by
  have lists : Lists (trim "8a 17a") [(.eightA, "8a"), (.seventeenA, "17a")] :=
    lists_iff.mpr ⟨by simp [profileNames], by decide⟩
  have lists' : Lists (trim " 17a\t8a  17a ")
      [(.seventeenA, "17a"), (.eightA, "8a"), (.seventeenA, "17a")] :=
    lists_iff.mpr ⟨by simp [profileNames], by decide⟩
  refine parseTone_grammar.2.1 _ _ _ _ lists lists' fun name => ?_
  simp only [List.mem_cons, List.not_mem_nil, or_false]
  exact ⟨fun either => either.symm.imp_right .inl, fun either => either.elim .inr id⟩

end RbctlDsl.Dsl

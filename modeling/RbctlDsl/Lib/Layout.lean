import RbctlDsl.Lib.Bytes

/-!
# Records of fixed layout

A record is a list of fields, each with an offset.  If the fields tile the record, every position
belongs to exactly one of them, and the record that is put together from them carries each field
at its offset.
-/

namespace RbctlDsl.Lib

variable {α : Type}

/-- A field of a record, with the offset that it is to stand at. -/
structure RecordField (α : Type) where
  offset : Nat
  content : List α

namespace RecordField

/-- The positions of a field. -/
def Covers (field : RecordField α) (index : Nat) : Prop :=
  field.offset ≤ index ∧ index < field.offset + field.content.length

instance (field : RecordField α) (index : Nat) : Decidable (field.Covers index) :=
  inferInstanceAs (Decidable (_ ∧ _))

end RecordField

/-- The fields stand one behind the other, from `start` to `stop`. -/
def Tiles (start : Nat) : List (RecordField α) → Nat → Prop
  | [], stop => start = stop
  | field :: rest, stop => field.offset = start ∧ Tiles (start + field.content.length) rest stop

/-- The fields that a position belongs to. -/
def covering (fields : List (RecordField α)) (index : Nat) : List (RecordField α) :=
  fields.filter fun field => field.Covers index

/-- The record that the fields make up. -/
def record (fields : List (RecordField α)) : List α := fields.flatMap RecordField.content

/-- Every field stands at its offset. -/
def Carries (data : List α) (fields : List (RecordField α)) : Prop :=
  ∀ field ∈ fields,
    slice? data field.offset (field.offset + field.content.length) = some field.content

section Tiles

variable {start stop : Nat} {fields : List (RecordField α)}

theorem Tiles.length_record (tiles : Tiles start fields stop) :
    start + (record fields).length = stop := by
  induction fields generalizing start with
  | nil => exact tiles
  | cons field rest ih =>
      obtain ⟨-, later⟩ := tiles
      have behind := ih later
      rw [record, List.flatMap_cons, List.length_append, ← record]
      omega

theorem Tiles.covering_eq_nil (tiles : Tiles start fields stop) {index : Nat}
    (before : index < start) : covering fields index = [] := by
  induction fields generalizing start with
  | nil => rfl
  | cons field rest ih =>
      obtain ⟨here, later⟩ := tiles
      have outside : ¬ field.Covers index := by
        rw [RecordField.Covers, here]
        omega
      rw [covering, List.filter_cons_of_neg (by simpa using outside)]
      exact ih later (Nat.lt_add_right _ before)

/-- Every position belongs to exactly one field. -/
theorem Tiles.covering_eq_singleton (tiles : Tiles start fields stop) {index : Nat}
    (lower : start ≤ index) (upper : index < stop) :
    ∃ field, covering fields index = [field] := by
  induction fields generalizing start with
  | nil =>
      rw [Tiles] at tiles
      omega
  | cons field rest ih =>
      obtain ⟨here, later⟩ := tiles
      by_cases inside : index < start + field.content.length
      · have covers : field.Covers index := by
          rw [RecordField.Covers, here]
          exact ⟨lower, inside⟩
        refine ⟨field, ?_⟩
        rw [covering, List.filter_cons_of_pos (by simpa using covers), ← covering,
          later.covering_eq_nil inside]
      · have outside : ¬ field.Covers index := by
          rw [RecordField.Covers, here]
          exact fun covers => inside covers.2
        rw [covering, List.filter_cons_of_neg (by simpa using outside)]
        exact ih later (Nat.le_of_not_lt inside)

/-- The record carries its fields, with anything in front of it and behind it. -/
theorem Tiles.carries (tiles : Tiles start fields stop) {before : List α}
    (length : before.length = start) (extra : List α) :
    Carries (before ++ (record fields ++ extra)) fields := by
  induction fields generalizing start before with
  | nil => exact List.forall_mem_nil _
  | cons field rest ih =>
      obtain ⟨here, later⟩ := tiles
      rw [Carries, List.forall_mem_cons, record, List.flatMap_cons, List.append_assoc, ← record]
      constructor
      · rw [here]
        exact slice?_middle _ _ _ _ _ length (by rw [length])
      · rw [← List.append_assoc before]
        exact ih later (by rw [List.length_append, length])

end Tiles

/-! ## Reading fields -/

section Fields

variable {data : Bytes} {fields : List (RecordField UInt8)} {offset : Nat}

theorem Carries.drop_eq (carries : Carries data fields) {content : Bytes}
    (member : ⟨offset, content⟩ ∈ fields) :
    ∃ rest, data.drop offset = content ++ rest := by
  have found := carries _ member
  rw [slice?] at found
  split at found
  · rw [Nat.add_sub_cancel_left, Option.some_inj] at found
    have whole := List.take_append_drop content.length (data.drop offset)
    rw [found] at whole
    exact ⟨_, whole.symm⟩
  · cases found

theorem Carries.be32At? (carries : Carries data fields) {value : UInt32}
    (member : ⟨offset, beBytes32 value⟩ ∈ fields) : be32At? data offset = some value := by
  obtain ⟨rest, there⟩ := carries.drop_eq member
  rw [Lib.be32At?, there]
  exact congrArg some (be32_beBytes32 value)

theorem Carries.be16At? (carries : Carries data fields) {value : UInt16}
    (member : ⟨offset, beBytes16 value⟩ ∈ fields) : be16At? data offset = some value := by
  obtain ⟨rest, there⟩ := carries.drop_eq member
  rw [Lib.be16At?, there]
  exact congrArg some (be16_beBytes16 value)

theorem Carries.getElem? (carries : Carries data fields) {value : UInt8}
    (member : ⟨offset, [value]⟩ ∈ fields) : data[offset]? = some value := by
  obtain ⟨rest, there⟩ := carries.drop_eq member
  rw [← List.head?_drop, there]
  rfl

end Fields

end RbctlDsl.Lib

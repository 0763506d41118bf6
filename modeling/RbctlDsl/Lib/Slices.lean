/-!
# Slices of a list

A list cut into consecutive slices of one size, the last of which may be shorter.  The first
slices put together are a prefix of the list, and enough of them are all of it.
-/

namespace RbctlDsl.Lib

variable {α : Type}

/-- The slice at an index. -/
def sliceAt (size : Nat) (items : List α) (index : Nat) : List α :=
  (items.drop (index * size)).take size

/-- The first slices, put together. -/
theorem flatten_slices (size : Nat) (items : List α) (count : Nat) :
    ((List.range count).map (sliceAt size items)).flatten = items.take (count * size) := by
  induction count with
  | zero => simp
  | succ count ih =>
      rw [List.range_succ, List.map_append, List.flatten_append, ih, Nat.succ_mul,
        List.take_add]
      simp [sliceAt]

end RbctlDsl.Lib

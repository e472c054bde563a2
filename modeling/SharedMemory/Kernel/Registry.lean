/-!
# Registries

A registry hands out numbers from 0 on for the values put into it. A new value always gets the
lowest number that is free, so a number comes back into use after its value was erased.
-/
namespace SharedMemory

structure Registry (α : Type) where
  entries : List (Option α) := []

namespace Registry

variable {α : Type}

def empty : Registry α := {}

instance : Inhabited (Registry α) := ⟨empty⟩

def get? (r : Registry α) (n : Nat) : Option α := r.entries[n]?.join

/-- The lowest number without a value. -/
def free (r : Registry α) : Nat := r.entries.findIdx Option.isNone

/-- Puts a value at a number, or clears the number. -/
def put (r : Registry α) (n : Nat) (v : Option α) : Registry α :=
  ⟨(r.entries ++ List.replicate (n + 1 - r.entries.length) none).set n v⟩

def insert (r : Registry α) (a : α) : Nat × Registry α := (r.free, r.put r.free (some a))

def erase (r : Registry α) (n : Nat) : Registry α := r.put n none

/-- The values, lowest number first. -/
def values (r : Registry α) : List α := r.entries.filterMap id

/-- How many numbers have a value. -/
def count (r : Registry α) : Nat := r.values.length

@[simp] theorem get?_empty (n : Nat) : (empty : Registry α).get? n = none := rfl

theorem get?_put (r : Registry α) (n m : Nat) (v : Option α) :
    (r.put n v).get? m = if m = n then v else r.get? m := by
  by_cases h : m = n
  · subst h
    have hm : m < r.entries.length + (m + 1 - r.entries.length) := by omega
    simp [put, get?, hm]
  · by_cases hm : m < r.entries.length
    · simp [put, get?, h, Ne.symm h, List.getElem?_append_left hm]
    · have hn : r.entries[m]? = none := List.getElem?_eq_none (by omega)
      have hr : (List.replicate (n + 1 - r.entries.length)
          (none : Option α))[m - r.entries.length]?.join = none := by
        rw [List.getElem?_replicate]
        split <;> rfl
      simp only [put, get?, List.getElem?_set_ne (Ne.symm h),
        List.getElem?_append_right (Nat.le_of_not_lt hm), hr, hn, if_neg h, Option.join_none]

theorem get?_free (r : Registry α) : r.get? r.free = none := by
  by_cases h : r.free < r.entries.length
  · have hn : (r.entries[r.free]).isNone = true := List.findIdx_getElem (w := h)
    rw [get?, List.getElem?_eq_getElem h]
    simpa using hn
  · rw [get?, List.getElem?_eq_none (Nat.le_of_not_lt h), Option.join_none]

theorem get?_insert (r : Registry α) (a : α) (m : Nat) :
    (r.insert a).2.get? m = if m = r.free then some a else r.get? m :=
  get?_put r r.free m (some a)

theorem get?_erase (r : Registry α) (n m : Nat) :
    (r.erase n).get? m = if m = n then none else r.get? m :=
  get?_put r n m none

end Registry

end SharedMemory

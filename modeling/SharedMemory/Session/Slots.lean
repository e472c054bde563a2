/-!
# Slots

A table of values under names. A name is either vacant or holds one value.
-/
namespace SharedMemory

structure Slots (α : Type) where
  entries : List (String × α) := []

namespace Slots

variable {α : Type}

def empty : Slots α := {}

instance : Inhabited (Slots α) := ⟨empty⟩

def get? (s : Slots α) (name : String) : Option α := s.entries.lookup name

def contains (s : Slots α) (name : String) : Bool := (s.get? name).isSome

def erase (s : Slots α) (name : String) : Slots α := ⟨s.entries.filter (·.1 != name)⟩

def put (s : Slots α) (name : String) (a : α) : Slots α := ⟨(name, a) :: (s.erase name).entries⟩

def values (s : Slots α) : List α := s.entries.map (·.2)

@[simp] theorem get?_empty (name : String) : (empty : Slots α).get? name = none := rfl

theorem lookup_filter (entries : List (String × α)) (name other : String) :
    (entries.filter (·.1 != name)).lookup other =
      if other = name then none else entries.lookup other := by
  induction entries with
  | nil => simp
  | cons e rest ih =>
    rw [List.filter_cons]
    by_cases hk : e.1 = name
    · have hf : (e.1 != name) = false := by simpa using hk
      rw [hf, if_neg Bool.false_ne_true, ih]
      by_cases ho : other = name
      · rw [if_pos ho, if_pos ho]
      · have hb : (other == e.1) = false := by simpa [hk] using ho
        rw [if_neg ho, if_neg ho, List.lookup_cons, hb]
    · have hf : (e.1 != name) = true := by simpa using hk
      rw [hf, if_pos rfl, List.lookup_cons, List.lookup_cons, ih]
      by_cases ho : other = e.1
      · have hn : other ≠ name := ho ▸ hk
        have hb : (other == e.1) = true := by simpa using ho
        simp only [hb, if_neg hn]
      · have hb : (other == e.1) = false := by simpa using ho
        simp only [hb]

theorem get?_erase (s : Slots α) (name other : String) :
    (s.erase name).get? other = if other = name then none else s.get? other :=
  lookup_filter s.entries name other

theorem get?_put (s : Slots α) (name other : String) (a : α) :
    (s.put name a).get? other = if other = name then some a else s.get? other := by
  by_cases h : other = name
  · simp [put, get?, h]
  · have hb : (other == name) = false := by simpa using h
    have he := get?_erase s name other
    simp only [get?, if_neg h] at he
    simp only [put, get?, List.lookup_cons, hb, if_neg h, he]

end Slots

end SharedMemory

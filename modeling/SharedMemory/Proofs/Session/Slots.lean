import SharedMemory.Session.Slots
/-!
# What a table holds

No name is in a table twice. So a value that is taken out of a table or replaced is gone from it,
and the table holds what it held besides.
-/
namespace Option

variable {α β : Type} {R R' : α → β → Prop} {a : Option α} {b : Option β} {x : α}

theorem Rel.imp (h : Option.Rel R a b) (hR : ∀ x y, a = .some x → R x y → R' x y) :
    Option.Rel R' a b := by
  cases h with
  | none => exact .none
  | some hxy => exact .some (hR _ _ rfl hxy)

theorem Rel.isSome_eq (h : Option.Rel R a b) : a.isSome = b.isSome := by
  cases h with
  | none => rfl
  | some hxy => rfl

theorem Rel.eq_none (h : Option.Rel R a b) (ha : a = .none) : b = .none := by
  subst ha
  cases h
  rfl

theorem Rel.eq_some (h : Option.Rel R a b) (ha : a = .some x) : ∃ y, b = .some y ∧ R x y := by
  subst ha
  cases h with
  | some hxy => exact ⟨_, rfl, hxy⟩

end Option

namespace SharedMemory.Slots

variable {α β : Type} {s : Slots α} {name : String} {a : α}

/-- No name has two values. -/
def Distinct (s : Slots α) : Prop := (s.entries.map (·.1)).Nodup

theorem distinct_empty : (empty : Slots α).Distinct := .nil

theorem Distinct.erase (h : s.Distinct) (name : String) : (s.erase name).Distinct :=
  h.sublist (List.filter_sublist.map _)

theorem Distinct.put (h : s.Distinct) (name : String) (a : α) : (s.put name a).Distinct := by
  refine List.nodup_cons.mpr ⟨fun hmem => ?_, h.erase name⟩
  obtain ⟨e, he, hname⟩ := List.mem_map.mp hmem
  have hne := (List.mem_filter.mp he).2
  rw [hname] at hne
  simp at hne

/-- What the values of a table stand for, each for some things. -/
def gather (s : Slots α) (f : α → List β) : List β := s.values.flatMap f

/-- The same where the name of a value counts as well. -/
def collect (s : Slots α) (f : String → α → List β) : List β :=
  s.entries.flatMap fun e => f e.1 e.2

theorem collect_const (s : Slots α) (f : α → List β) : (s.collect fun _ => f) = s.gather f :=
  (List.flatMap_map Prod.snd f s.entries).symm

theorem gather_put (s : Slots α) (name : String) (a : α) (f : α → List β) :
    (s.put name a).gather f = f a ++ (s.erase name).gather f := by
  simp only [gather, put, values, List.map_cons, List.flatMap_cons]

theorem collect_put (s : Slots α) (name : String) (a : α) (f : String → α → List β) :
    (s.put name a).collect f = f name a ++ (s.erase name).collect f := by
  simp only [collect, put, List.flatMap_cons]

private theorem erase_perm {entries : List (String × α)} (h : (entries.map (·.1)).Nodup)
    (name : String) :
    entries.Perm
      ((entries.lookup name).toList.map (name, ·) ++ entries.filter (·.1 != name)) := by
  induction entries with
  | nil => exact .nil
  | cons e rest ih =>
    obtain ⟨hnew, hrest⟩ := List.nodup_cons.mp h
    rw [List.filter_cons, List.lookup_cons]
    by_cases hname : e.1 = name
    · subst hname
      have hkeep : ∀ x ∈ rest, (x.1 != e.1) = true := by
        intro x hx
        have hne : x.1 ≠ e.1 := fun heq => hnew (List.mem_map.mpr ⟨x, hx, heq⟩)
        simpa using hne
      rw [beq_self_eq_true, bne_self_eq_false, if_neg Bool.false_ne_true,
        List.filter_eq_self.mpr hkeep]
      exact .refl _
    · have hother : (name == e.1) = false := by simpa using Ne.symm hname
      have hkeep : (e.1 != name) = true := by simpa using hname
      rw [hother, hkeep, if_pos rfl]
      exact ((ih hrest).cons e).trans List.perm_middle.symm

/-- A table holds the value of a name and what is left when the name is erased. -/
theorem collect_perm (h : s.Distinct) (name : String) (f : String → α → List β) :
    (s.collect f).Perm ((s.get? name).toList.flatMap (f name) ++ (s.erase name).collect f) := by
  have hperm := (erase_perm h name).flatMap_right fun e => f e.1 e.2
  rwa [List.flatMap_append, List.flatMap_map] at hperm

theorem gather_perm (h : s.Distinct) (name : String) (f : α → List β) :
    (s.gather f).Perm ((s.get? name).toList.flatMap f ++ (s.erase name).gather f) := by
  have hperm := collect_perm h name fun _ => f
  rwa [collect_const, collect_const] at hperm

/-- What is left when a name is erased does not depend on what the name would stand for. -/
theorem collect_erase_congr {f g : String → α → List β} (s : Slots α) (name : String)
    (h : ∀ other, other ≠ name → f other = g other) :
    (s.erase name).collect f = (s.erase name).collect g := by
  simp only [collect, List.flatMap_def]
  refine congrArg List.flatten (List.map_congr_left fun e he => ?_)
  rw [h e.1 (by simpa using (List.mem_filter.mp he).2)]

theorem mem_values_of_get? (h : s.get? name = some a) : a ∈ s.values := by
  obtain ⟨before, after, hentries, _⟩ := List.lookup_eq_some_iff.mp h
  refine List.mem_map.mpr ⟨(name, a), ?_, rfl⟩
  rw [hentries]
  exact List.mem_append_right _ List.mem_cons_self

theorem Distinct.get?_of_mem (hd : s.Distinct) (h : a ∈ s.values) :
    ∃ name, s.get? name = some a := by
  obtain ⟨e, he, rfl⟩ := List.mem_map.mp h
  obtain ⟨before, after, hentries⟩ := List.append_of_mem he
  refine ⟨e.1, List.lookup_eq_some_iff.mpr ⟨before, after, hentries, fun p hp => ?_⟩⟩
  unfold Distinct at hd
  rw [hentries, List.map_append, List.nodup_append] at hd
  have hne := hd.2.2 p.1 (List.mem_map_of_mem hp) e.1 (List.mem_map_of_mem List.mem_cons_self)
  simpa using hne.symm

theorem mem_values_of_erase (h : a ∈ (s.erase name).values) : a ∈ s.values := by
  obtain ⟨e, he, rfl⟩ := List.mem_map.mp h
  exact List.mem_map_of_mem (List.mem_filter.mp he).1

theorem put_erase (s : Slots α) (name : String) (a : α) :
    (s.erase name).put name a = s.put name a := by
  simp only [put, erase, List.filter_filter, Bool.and_self]

/-- Two tables are in use at the same names, and what they hold there is related. -/
def Rel (R : α → β → Prop) (s : Slots α) (t : Slots β) : Prop :=
  ∀ name, Option.Rel R (s.get? name) (t.get? name)

namespace Rel

variable {R R' : α → β → Prop} {t : Slots β} {b : β}

theorem mono (h : Rel R s t) (hR : ∀ name a b, s.get? name = some a → R a b → R' a b) :
    Rel R' s t := fun name => (h name).imp (hR name)

theorem erase (h : Rel R s t) (name : String) : Rel R (s.erase name) (t.erase name) := by
  intro other
  rw [get?_erase, get?_erase]
  split
  · exact .none
  · exact h other

theorem put (h : Rel R s t) (name : String) (hab : R a b) :
    Rel R (s.put name a) (t.put name b) := by
  intro other
  rw [get?_put, get?_put]
  split
  · exact .some hab
  · exact h other

end Rel

end SharedMemory.Slots

import SharedMemory.Proofs.Kernel.Calls
/-!
# What operations do to descriptors and objects

An operation of a region closes some descriptors, opens some at numbers that were vacant, adds
seals to some objects, and leaves all other descriptors and all other objects as they were. A
shift says so of the states before and after. What it says of objects concerns the shapes of those
that were there before: a new object may still be given its length and its seals.
-/
namespace SharedMemory

namespace Kernel

/-- A descriptor refers to an open file. -/
def IsOpen (k : Kernel) (d : Descriptor) : Prop := ∃ file, k.file? d = some file

theorem IsOpen.fileId? {k : Kernel} {d : Descriptor} (h : k.IsOpen d) :
    ∃ id, k.fileId? d = some id := by
  obtain ⟨file, hfile⟩ := h
  obtain ⟨id, hid, _⟩ := Option.bind_eq_some_iff.mp hfile
  exact ⟨id, hid⟩

structure Shift (gone fresh : List Descriptor) (touched : List ObjectId) (k k' : Kernel) :
    Prop where
  fileId? : ∀ d, d ∉ gone → d ∉ fresh → k'.fileId? d = k.fileId? d
  closed : ∀ d ∈ gone, k'.fileId? d = none
  vacant : ∀ d ∈ fresh, k.fileId? d = none
  opened : ∀ d ∈ fresh, k'.IsOpen d
  files : k.files <+: k'.files
  objects : k.objects.length ≤ k'.objects.length
  sealing : ∀ id < k.objects.length, (k.object id).Sealing (k'.object id)
  shape : ∀ id < k.objects.length, id ∉ touched → (k.object id).SameShape (k'.object id)

theorem not_isOpen_of_fileId?_none {k : Kernel} {d : Descriptor} (h : k.fileId? d = none) :
    ¬ k.IsOpen d := by
  rintro ⟨file, hfile⟩
  rw [file?, h] at hfile
  cases hfile

theorem file?_of_files {k k' : Kernel} {d d' : Descriptor} {file : OpenFile}
    (hid : k'.fileId? d' = k.fileId? d) (hfiles : k.files <+: k'.files)
    (h : k.file? d = some file) : k'.file? d' = some file := by
  obtain ⟨rest, hrest⟩ := hfiles
  rw [file?, hid]
  rw [file?] at h
  cases hk : k.fileId? d with
  | none =>
    rw [hk] at h
    cases h
  | some id =>
    rw [hk, Option.bind_some] at h
    have hlt : id < k.files.length := (List.getElem?_eq_some_iff.mp h).1
    rw [Option.bind_some, ← hrest, List.getElem?_append_left hlt, h]

theorem object_append {k : Kernel} {o : Object} {id : ObjectId} (h : id < k.objects.length) :
    ({ k with objects := k.objects ++ [o] } : Kernel).object id = k.object id := by
  simp only [Kernel.object, List.getD_eq_getElem?_getD, List.getElem?_append_left h]

theorem object_append_new (k : Kernel) (o : Object) :
    ({ k with objects := k.objects ++ [o] } : Kernel).object k.objects.length = o := by
  simp [Kernel.object, List.getD_eq_getElem?_getD]

theorem object_modifyObject_ne (k : Kernel) {id other : ObjectId} {f : Object → Object}
    (h : other ≠ id) : (k.modifyObject id f).object other = k.object other := by
  simp only [Kernel.object, modifyObject, List.getD_eq_getElem?_getD, List.getElem?_modify,
    if_neg (Ne.symm h), Option.map_eq_map, Option.map_id']

theorem object_modifyObject (k : Kernel) (id other : ObjectId) (f : Object → Object)
    (h : id < k.objects.length) :
    (k.modifyObject id f).object other =
      if other = id then f (k.object id) else k.object other := by
  by_cases ho : other = id
  · subst ho
    simp [Kernel.object, modifyObject, List.getD_eq_getElem?_getD, h]
  · rw [object_modifyObject_ne k ho, if_neg ho]

theorem lt_of_kind_memory {k : Kernel} {id : ObjectId} (h : (k.object id).kind = .memory) :
    id < k.objects.length := by
  apply Nat.lt_of_not_le
  intro hle
  rw [Kernel.object, List.getD_eq_getElem?_getD, List.getElem?_eq_none hle] at h
  cases h

namespace Shift

variable {gone fresh : List Descriptor} {touched : List ObjectId} {k k₁ k₂ : Kernel}
  {d : Descriptor} {id : FileId}

theorem refl (k : Kernel) : Shift [] [] [] k k where
  fileId? _ _ _ := rfl
  closed _ h := absurd h List.not_mem_nil
  vacant _ h := absurd h List.not_mem_nil
  opened _ h := absurd h List.not_mem_nil
  files := List.prefix_rfl
  objects := Nat.le_refl _
  sealing _ _ := (Object.SameShape.refl _).sealing
  shape _ _ _ := .refl _

theorem file? (h : Shift gone fresh touched k k₁) (hgone : d ∉ gone) {file : OpenFile}
    (hopen : k.file? d = some file) : k₁.file? d = some file := by
  have hfresh : d ∉ fresh := fun hd =>
    not_isOpen_of_fileId?_none (h.vacant d hd) ⟨file, hopen⟩
  exact file?_of_files (h.fileId? d hgone hfresh) h.files hopen

theorem isOpen (h : Shift gone fresh touched k k₁) (hgone : d ∉ gone) (hopen : k.IsOpen d) :
    k₁.IsOpen d := by
  obtain ⟨file, hfile⟩ := hopen
  exact ⟨file, h.file? hgone hfile⟩

theorem alike (h : Shift gone fresh touched k k₁) (ha : k₁.Alike k₂) :
    Shift gone fresh touched k k₂ := by
  obtain ⟨_, _, rfl⟩ := ha
  exact ⟨h.fileId?, h.closed, h.vacant, h.opened, h.files, h.objects, h.sealing, h.shape⟩

theorem perm (h : Shift gone fresh touched k k₁) {gone' fresh' : List Descriptor}
    (hgone : gone.Perm gone') (hfresh : fresh.Perm fresh') : Shift gone' fresh' touched k k₁ :=
  ⟨fun d hg hf => h.fileId? d (fun hd => hg (hgone.mem_iff.mp hd))
      fun hd => hf (hfresh.mem_iff.mp hd),
    fun d hd => h.closed d (hgone.mem_iff.mpr hd), fun d hd => h.vacant d (hfresh.mem_iff.mpr hd),
    fun d hd => h.opened d (hfresh.mem_iff.mpr hd), h.files, h.objects, h.sealing, h.shape⟩

theorem names (h : Shift gone fresh touched k k₁) (names : List (String × ObjectId)) :
    Shift gone fresh touched k { k₁ with names } :=
  ⟨h.fileId?, h.closed, h.vacant, h.opened, h.files, h.objects, h.sealing, h.shape⟩

theorem addObject (h : Shift gone fresh touched k k₁) (o : Object) :
    Shift gone fresh touched k { k₁ with objects := k₁.objects ++ [o] } := by
  have hlt : ∀ {id}, id < k.objects.length → id < k₁.objects.length := fun hid =>
    Nat.lt_of_lt_of_le hid h.objects
  refine ⟨h.fileId?, h.closed, h.vacant, h.opened, h.files, ?_, fun id hid => ?_,
    fun id hid ht => ?_⟩
  · rw [List.length_append]
    exact Nat.le_add_right_of_le h.objects
  · rw [object_append (hlt hid)]
    exact h.sealing id hid
  · rw [object_append (hlt hid)]
    exact h.shape id hid ht

theorem addFile (h : Shift gone fresh touched k k₁) (file : OpenFile) :
    Shift gone fresh touched k { k₁ with files := k₁.files ++ [file] } := by
  refine ⟨h.fileId?, h.closed, h.vacant, fun d hd => ?_,
    h.files.trans (List.prefix_append _ _), h.objects, h.sealing, h.shape⟩
  obtain ⟨f, hf⟩ := h.opened d hd
  exact ⟨f, file?_of_files (k := k₁) rfl (List.prefix_append _ _) hf⟩

theorem installs (h : Shift [] fresh touched k k₁) (hi : Installs d id k₁ k₂)
    (hid : id < k₁.files.length) : Shift [] (d :: fresh) touched k k₂ := by
  have hd : d ∉ fresh := fun hd => not_isOpen_of_fileId?_none hi.vacant (h.opened d hd)
  have hne : ∀ {e}, e ∈ fresh → e ≠ d := fun he heq => hd (heq ▸ he)
  have hobject : ∀ id, k₂.object id = k₁.object id := fun id => by
    rw [Kernel.object, Kernel.object, hi.objects]
  refine ⟨fun e hg he => ?_, fun e he => absurd he List.not_mem_nil, fun e he => ?_,
    fun e he => ?_, hi.files ▸ h.files, hi.objects ▸ h.objects, fun o ho => ?_,
    fun o ho ht => ?_⟩
  · rw [List.mem_cons, not_or] at he
    rw [hi.fileId?, if_neg he.1, h.fileId? e hg he.2]
  · rcases List.mem_cons.mp he with rfl | he
    · rw [← h.fileId? e List.not_mem_nil hd, hi.vacant]
    · exact h.vacant e he
  · rcases List.mem_cons.mp he with rfl | he
    · exact ⟨_, hi.file?.trans (List.getElem?_eq_getElem hid)⟩
    · obtain ⟨f, hf⟩ := h.opened e he
      refine ⟨f, file?_of_files ?_ (hi.files ▸ List.prefix_rfl) hf⟩
      rw [hi.fileId?, if_neg (hne he)]
  · rw [hobject]
    exact h.sealing o ho
  · rw [hobject]
    exact h.shape o ho ht

theorem append {fresh' : List Descriptor} (h : Shift [] fresh [] k k₁)
    (h' : Shift [] fresh' [] k₁ k₂) : Shift [] (fresh' ++ fresh) [] k k₂ := by
  refine ⟨fun d hg hd => ?_, fun _ hd => absurd hd List.not_mem_nil, fun d hd => ?_,
    fun d hd => ?_, h.files.trans h'.files, Nat.le_trans h.objects h'.objects, fun o ho => ?_,
    fun o ho ht => ?_⟩
  · rw [List.mem_append, not_or] at hd
    rw [h'.fileId? d hg hd.1, h.fileId? d hg hd.2]
  · rcases List.mem_append.mp hd with hd | hd
    · have hnot : d ∉ fresh := fun hf => not_isOpen_of_fileId?_none (h'.vacant d hd) (h.opened d hf)
      rw [← h.fileId? d List.not_mem_nil hnot, h'.vacant d hd]
    · exact h.vacant d hd
  · rcases List.mem_append.mp hd with hd | hd
    · exact h'.opened d hd
    · exact h'.isOpen List.not_mem_nil (h.opened d hd)
  · exact (h.sealing o ho).trans (h'.sealing o (Nat.lt_of_lt_of_le ho h.objects))
  · have hfirst := h.shape o ho ht
    have hsecond := h'.shape o (Nat.lt_of_lt_of_le ho h.objects) ht
    exact ⟨hsecond.kind.trans hfirst.kind, hsecond.length.trans hfirst.length,
      hsecond.seals.trans hfirst.seals⟩

theorem forgetFresh (h : Shift gone (d :: fresh) touched k k₁) (hg : d ∉ gone) (hd : d ∉ fresh) :
    Shift gone fresh touched k (k₁.forget d) := by
  refine ⟨fun e hge he => ?_, fun e he => ?_, fun e he => h.vacant e (List.mem_cons_of_mem d he),
    fun e he => ?_, (files_forget k₁ d).symm ▸ h.files, (objects_forget k₁ d).symm ▸ h.objects,
    fun o ho => ?_, fun o ho ht => ?_⟩
  · rw [fileId?_forget]
    by_cases heq : e = d
    · rw [if_pos heq, heq, h.vacant d List.mem_cons_self]
    · rw [if_neg heq]
      exact h.fileId? e hge fun hmem => (List.mem_cons.mp hmem).elim heq he
  · rw [fileId?_forget, if_neg fun heq : e = d => hg (heq ▸ he)]
    exact h.closed e he
  · obtain ⟨f, hf⟩ := h.opened e (List.mem_cons_of_mem d he)
    refine ⟨f, file?_of_files ?_ ((files_forget k₁ d).symm ▸ List.prefix_rfl) hf⟩
    rw [fileId?_forget, if_neg fun heq : e = d => hd (heq ▸ he)]
  · rw [object_forget]
    exact h.sealing o ho
  · rw [object_forget]
    exact h.shape o ho ht

theorem forget (h : Shift gone fresh touched k k₁) (hd : d ∉ fresh) :
    Shift (d :: gone) fresh touched k (k₁.forget d) := by
  refine ⟨fun e hge he => ?_, fun e he => ?_, h.vacant, fun e he => ?_,
    (files_forget k₁ d).symm ▸ h.files, (objects_forget k₁ d).symm ▸ h.objects, fun o ho => ?_,
    fun o ho ht => ?_⟩
  · rw [List.mem_cons, not_or] at hge
    rw [fileId?_forget, if_neg hge.1, h.fileId? e hge.2 he]
  · rw [fileId?_forget]
    by_cases heq : e = d
    · rw [if_pos heq]
    · rw [if_neg heq]
      exact h.closed e ((List.mem_cons.mp he).resolve_left heq)
  · obtain ⟨f, hf⟩ := h.opened e he
    refine ⟨f, file?_of_files ?_ ((files_forget k₁ d).symm ▸ List.prefix_rfl) hf⟩
    rw [fileId?_forget, if_neg fun heq : e = d => hd (heq ▸ he)]
  · rw [object_forget]
    exact h.sealing o ho
  · rw [object_forget]
    exact h.shape o ho ht

theorem modifyNew (h : Shift gone fresh touched k k₁) {o : ObjectId} (ho : k.objects.length ≤ o)
    (hlt : o < k₁.objects.length) (f : Object → Object) :
    Shift gone fresh touched k (k₁.modifyObject o f) := by
  have hne : ∀ {id}, id < k.objects.length → id ≠ o := fun hid =>
    Nat.ne_of_lt (Nat.lt_of_lt_of_le hid ho)
  refine ⟨h.fileId?, h.closed, h.vacant, h.opened, h.files, ?_, fun id hid => ?_,
    fun id hid ht => ?_⟩
  · simpa only [modifyObject, List.length_modify] using h.objects
  · rw [object_modifyObject k₁ o id f hlt, if_neg (hne hid)]
    exact h.sealing id hid
  · rw [object_modifyObject k₁ o id f hlt, if_neg (hne hid)]
    exact h.shape id hid ht

/-- Seals that are added to an object while its seal set is open. -/
theorem addSeals (k : Kernel) {o : ObjectId} (ho : o < k.objects.length)
    (hopen : (k.object o).seals.closed = false) (extra : Seals) :
    Shift [] [] [o] k (k.modifyObject o (·.withSeals extra)) := by
  have hobject := fun id => object_modifyObject k o id (·.withSeals extra) ho
  refine ⟨fun _ _ _ => rfl, fun _ h => absurd h List.not_mem_nil,
    fun _ h => absurd h List.not_mem_nil, fun _ h => absurd h List.not_mem_nil,
    List.prefix_rfl, ?_, fun id hid => ?_, fun id hid ht => ?_⟩
  · simp only [modifyObject, List.length_modify, Nat.le_refl]
  · rw [hobject]
    by_cases heq : id = o
    · rw [if_pos heq, heq]
      exact Object.sealing_withSeals hopen extra
    · rw [if_neg heq]
      exact (Object.SameShape.refl _).sealing
  · rw [hobject, if_neg fun heq => ht (List.mem_singleton.mpr heq)]
    exact .refl _

theorem of_duplicate {copy : Descriptor} (hopen : k.IsOpen d)
    (h : duplicate d k = (some copy, k₁)) :
    Shift [] [copy] [] k k₁ ∧ k₁.fileId? copy = k.fileId? d := by
  obtain ⟨id, k₀, hid, hinstall, halike⟩ := duplicate_some h
  obtain ⟨file, hfile⟩ := hopen
  rw [Kernel.file?, hid, Option.bind_some] at hfile
  have hlt : id < k.files.length := (List.getElem?_eq_some_iff.mp hfile).1
  refine ⟨((refl k).installs hinstall hlt).alike halike, ?_⟩
  rw [halike.fileId?, hinstall.fileId?, if_pos rfl, hid]

end Shift

end Kernel

end SharedMemory

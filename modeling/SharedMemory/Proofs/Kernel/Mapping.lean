import SharedMemory.Proofs.Kernel.Shift
/-!
# What mappings need and what they change

A mapping is granted on what its descriptor refers to, and a writable one only through a descriptor
for reading and writing of an object that does not refuse writes. Mappings, and stores through
them, change no descriptor, no length and no seals.
-/
namespace SharedMemory.Kernel

variable {k k' : Kernel} {d : Descriptor} {offset length : Nat} {p : Protection} {id : MappingId}

/-- What the kernel asks of the numbers of a request before it looks at the descriptor's rights. -/
structure Fits (k : Kernel) (offset length : Nat) : Prop where
  aligned : offset % k.pageSize = 0
  pos : 0 < length
  free : k.wholePages length ≤ k.longestFree
  reach : offset + k.wholePages length ≤ maxPosition

instance (k : Kernel) (offset length : Nat) : Decidable (k.Fits offset length) :=
  decidable_of_iff (offset % k.pageSize = 0 ∧ 0 < length ∧ k.wholePages length ≤ k.longestFree ∧
      offset + k.wholePages length ≤ maxPosition)
    ⟨fun ⟨ha, hp, hf, hr⟩ => ⟨ha, hp, hf, hr⟩, fun h => ⟨h.aligned, h.pos, h.free, h.reach⟩⟩

/-- What the kernel asks of a descriptor, a protection and an object. -/
structure Permits (k : Kernel) (p : Protection) (file : OpenFile) : Prop where
  kind : (k.object file.object).kind = .memory
  read : file.access.canRead = true
  write : p.write = true →
    file.access = .readWrite ∧ (k.object file.object).seals.blocksWrites = false

theorem map_some (h : map d offset length p k = (some id, k')) :
    ∃ file, k.file? d = some file ∧ k.Fits offset length ∧ k.Permits p file ∧
      id = k.mappings.free ∧
      ({ k with mappings :=
          (k.mappings.insert ⟨file.object, offset, length, p.write⟩).2 } : Kernel).Alike k' := by
  obtain ⟨k₁, hanswer, hk⟩ := invoke_some h
  split at hanswer
  · cases hanswer
  · rename_i haligned
    obtain ⟨file, hfile, hanswer⟩ := onFile_ok hanswer
    dsimp only at hanswer
    split at hanswer
    · cases hanswer
    · rename_i hpos
      split at hanswer
      · cases hanswer
      · rename_i hfree
        split at hanswer
        · cases hanswer
        · rename_i hreach
          split at hanswer
          · cases hanswer
          · rename_i haccess
            split at hanswer
            · cases hanswer
            · rename_i hread
              split at hanswer
              · cases hanswer
              · rename_i hpipe
                split at hanswer
                · cases hanswer
                · rename_i hseals
                  cases hanswer
                  have hkind : (k.object file.object).kind = .memory := by
                    cases hobject : (k.object file.object).kind with
                    | memory => rfl
                    | pipe => exact absurd hobject hpipe
                  refine ⟨file, hfile, ⟨Decidable.not_not.mp haligned, Nat.pos_of_ne_zero hpos,
                    Nat.le_of_not_lt hfree, Nat.le_of_not_lt fun hlt => hreach ⟨hkind, hlt⟩⟩,
                    ⟨hkind, Decidable.not_not.mp hread, fun hw => ⟨?_, ?_⟩⟩, rfl, hk⟩
                  · exact Decidable.byContradiction fun hne => haccess ⟨hw, hne⟩
                  · exact Bool.eq_false_iff.mpr fun hb => hseals ⟨hw, hb⟩

theorem map_of_permits (ho : k.Obliging) (hfits : k.Fits offset length) {file : OpenFile}
    (hfile : k.file? d = some file) (hpermits : k.Permits p file) :
    ∃ k', map d offset length p k = (some k.mappings.free, k') ∧
      ({ k with mappings :=
          (k.mappings.insert ⟨file.object, offset, length, p.write⟩).2 } : Kernel).Alike k' := by
  have hkind : (k.object file.object).kind ≠ .pipe := by
    rw [hpermits.kind]
    nofun
  have hblocks : p.write = true → (k.object file.object).seals.blocksWrites ≠ true := fun hw =>
    Bool.eq_false_iff.mp (hpermits.write hw).2
  refine invoke_of_answer ho ?_
  rw [if_neg (not_not_intro hfits.aligned), onFile_of_file? hfile]
  dsimp only
  rw [if_neg (Nat.ne_of_gt hfits.pos), if_neg (Nat.not_lt.mpr hfits.free),
    if_neg fun h => Nat.not_lt.mpr hfits.reach h.2,
    if_neg fun h => h.2 (hpermits.write h.1).1, if_neg (not_not_intro hpermits.read),
    if_neg hkind, if_neg fun h => hblocks h.1 h.2]
  rfl

/-- Where there is no plan, the numbers and the rights decide. -/
theorem map_granted_iff (ho : k.Obliging) :
    (∃ id, (map d offset length p k).1 = some id) ↔
      k.Fits offset length ∧ ∃ file, k.file? d = some file ∧ k.Permits p file := by
  constructor
  · rintro ⟨id, hid⟩
    cases h : map d offset length p k with
    | mk outcome k' =>
      rw [h] at hid
      obtain rfl : outcome = some id := hid
      obtain ⟨file, hfile, hfits, hpermits, -, -⟩ := map_some h
      exact ⟨hfits, file, hfile, hpermits⟩
  · rintro ⟨hfits, file, hfile, hpermits⟩
    obtain ⟨k', h, -⟩ := map_of_permits ho hfits hfile hpermits
    exact ⟨_, by rw [h]⟩

/-- A mapping that starts at no page is refused, whatever it is of. -/
theorem map_unaligned (ho : k.Obliging) (d : Descriptor) (length : Nat) (p : Protection)
    (hstart : offset % k.pageSize ≠ 0) :
    ∃ k', map d offset length p k = (none, k') ∧ k.Alike k' ∧ k'.lastError = .invalidArgument :=
  invoke_of_error ho (if_pos hstart)

/-- A descriptor that is not for reading cannot be mapped at all. -/
theorem map_unreadable (ho : k.Obliging) (hfits : k.Fits offset length) {file : OpenFile}
    (hfile : k.file? d = some file) (hread : file.access.canRead = false) :
    ∃ k', map d offset length p k = (none, k') ∧ k.Alike k' ∧ k'.lastError = .accessDenied := by
  refine invoke_of_error ho ?_
  rw [if_neg (not_not_intro hfits.aligned), onFile_of_file? hfile]
  dsimp only
  rw [if_neg (Nat.ne_of_gt hfits.pos), if_neg (Nat.not_lt.mpr hfits.free),
    if_neg fun h => Nat.not_lt.mpr hfits.reach h.2, if_pos (Bool.eq_false_iff.mp hread)]
  exact ite_self _

/-- If no writable mapping of an object is live, then every live one of it is for reading. -/
theorem writable_of_hasWritableMapping {o : ObjectId} (h : k.hasWritableMapping o = false)
    {m : Mapping} (hm : k.mappings.get? id = some m) (ho : m.object = o) : m.writable = false := by
  have hmem : m ∈ k.mappings.values := by
    refine List.mem_filterMap.mpr ⟨some m, ?_, rfl⟩
    exact List.mem_of_getElem? (Option.join_eq_some_iff.mp hm)
  have hnot := List.any_eq_false.mp h m hmem
  simpa [ho] using hnot

/-- A new mapping, or an old one taken away, is all that differs. -/
theorem map_mappings (d : Descriptor) (offset length : Nat) (p : Protection) (k : Kernel) :
    ∃ mappings, ({ k with mappings } : Kernel).Alike (map d offset length p k).2 := by
  cases h : map d offset length p k with
  | mk outcome k' =>
    cases outcome with
    | none => exact ⟨k.mappings, invoke_none h⟩
    | some id =>
      obtain ⟨_, _, _, _, _, hk⟩ := map_some h
      exact ⟨_, hk⟩

theorem unmap_cases (id : MappingId) (k : Kernel) :
    k.Alike (unmap id k).2 ∨
      ({ k with mappings := k.mappings.erase id } : Kernel).Alike (unmap id k).2 := by
  rcases invoke_cases (.unmap id) _ k with h | ⟨_, k₁, hanswer, hk⟩
  · exact .inl h
  · cases hanswer
    exact .inr hk

theorem unmap_mappings (id : MappingId) (k : Kernel) :
    ∃ mappings, ({ k with mappings } : Kernel).Alike (unmap id k).2 := by
  rcases unmap_cases id k with hk | hk
  · exact ⟨k.mappings, hk⟩
  · exact ⟨_, hk⟩

theorem store_cases (id : MappingId) (position : Nat) (data : List UInt8) (k : Kernel) :
    store id position data k = k ∨ ∃ m, k.mappings.get? id = some m ∧ m.writable = true ∧
      store id position data k =
        k.modifyObject m.object (·.overwrite (m.offset + position) data) := by
  unfold store
  split
  · exact .inl rfl
  · rename_i m hm
    split
    · rename_i hw
      exact .inr ⟨m, hm, hw, rfl⟩
    · exact .inl rfl

namespace Shift

theorem mappings {mappings : Registry Mapping} (h : ({ k with mappings } : Kernel).Alike k') :
    Shift [] [] [] k k' := by
  have hk := refl k
  obtain ⟨_, _, rfl⟩ := h
  exact ⟨hk.fileId?, hk.closed, hk.vacant, hk.opened, hk.files, hk.objects, hk.sealing, hk.shape⟩

theorem store (id : MappingId) (position : Nat) (data : List UInt8) (k : Kernel) :
    Shift [] [] [] k (store id position data k) := by
  rcases store_cases id position data k with hsame | ⟨m, _, _, hstore⟩
  · rw [hsame]
    exact refl k
  · have hk := refl k
    have hshape : ∀ o < k.objects.length, (k.object o).SameShape
        ((k.modifyObject m.object (·.overwrite (m.offset + position) data)).object o) := by
      intro o ho
      by_cases heq : o = m.object
      · subst heq
        rw [object_modifyObject k _ _ _ ho, if_pos rfl]
        exact ⟨rfl, rfl, rfl⟩
      · rw [object_modifyObject_ne k heq]
        exact .refl _
    rw [hstore]
    refine ⟨hk.fileId?, hk.closed, hk.vacant, hk.opened, hk.files, ?_,
      fun o ho => (hshape o ho).sealing, fun o ho _ => hshape o ho⟩
    simp only [modifyObject, List.length_modify, Nat.le_refl]

end Shift

end SharedMemory.Kernel

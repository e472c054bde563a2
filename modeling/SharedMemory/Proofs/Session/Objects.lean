import SharedMemory.Proofs.Backing.SealedFile
import SharedMemory.Proofs.Session.Turns
import SharedMemory.Session.Regions
/-!
# The objects behind the regions of a session

Which object a region of sealed files has, and what is known of that object when a step has made
the region, converted it or accepted it from elsewhere. A session may keep anything: a descriptor
of a region may be closed or another object may have its number, and then nothing is said of it.
-/
namespace SharedMemory.Session

open Kernel SealedFile

/-- The object of the region that is kept under a name. -/
def objectUnder? {H : Type} [Backing H] (s : Session H) (name : String) : Option ObjectId :=
  ((s.regions.get? name).bind (·.handle)).bind fun h =>
    s.system.kernel.objectOf? (Backing.descriptor h)

variable {s s' : Session SealedFile} {name : String} {r : Region SealedFile} {o : ObjectId}

private theorem objectUnder?_region (hr : s.regions.get? name = some r)
    (ho : s.objectUnder? name = some o) :
    ∃ h access, r.handle = some h ∧ s.system.kernel.file? h.fd = some ⟨o, access⟩ := by
  rw [objectUnder?, hr, Option.bind_some] at ho
  obtain ⟨h, hhandle, ho⟩ := Option.bind_eq_some_iff.mp ho
  obtain ⟨file, hfile, rfl⟩ := Option.map_eq_some_iff.mp ho
  exact ⟨h, file.access, hhandle, hfile⟩

/-- A region is kept under a name. What was there before is closed, and nothing else changes. -/
structure Keeps (name : String) (r : Region SealedFile) (s s' : Session SealedFile) : Prop where
  region : s'.regions.get? name = some r
  file? : ∀ d file, s'.system.kernel.file? d = some file → s.system.kernel.file? d = some file
  object : ∀ id, s'.system.kernel.object id = s.system.kernel.object id

theorem Keeps.objectUnder? (h : Keeps name r s s') (ho : s'.objectUnder? name = some o) :
    ∃ handle access, r.handle = some handle ∧
      s.system.kernel.file? handle.fd = some ⟨o, access⟩ := by
  obtain ⟨handle, access, hhandle, hfile⟩ := objectUnder?_region h.region ho
  exact ⟨handle, access, hhandle, h.file? _ _ hfile⟩

private theorem file?_of_forget {k k' : Kernel} {d d' : Descriptor} {file : OpenFile}
    (hk : (k.forget d).Alike k') (h : k'.file? d' = some file) : k.file? d' = some file := by
  rw [hk.file?, Kernel.file?, fileId?_forget, files_forget] at h
  split at h
  · cases h
  · exact h

private theorem putRegion_keeps (name : String) (r : Region SealedFile) (s : Session SealedFile) :
    (putRegion name r).Yields s fun x s' => x = some () ∧ Keeps name r s s' := by
  have hregion : (s.regions.put name r).get? name = some r := by
    rw [Slots.get?_put, if_pos rfl]
  refine .bind (.get (.bind (.modify ?_)))
  cases s.regions.get? name with
  | none => exact .pure ⟨rfl, hregion, fun _ _ h => h, fun _ => rfl⟩
  | some old =>
    refine .act ?_
    split
    · refine .pure fun system hsystem => ⟨rfl, hregion, fun d file h => ?_, fun id => ?_⟩
      · exact hsystem ▸ h
      · exact congrArg (Kernel.object · id) hsystem
    · refine .closeDescriptor fun k' hk' system hsystem => ⟨rfl, hregion, fun d file h => ?_,
        fun id => ?_⟩
      · exact file?_of_forget (hsystem ▸ hk') h
      · change system.kernel.object id = _
        rw [hsystem, hk'.object, object_forget]

private theorem createRegion_allocates (mode : Mode) (size : Nat) (layout : Layout) (k : Kernel) :
    (Region.create (H := SealedFile) mode size layout).Yields k fun outcome k' =>
      match outcome with
      | .error _ => True
      | .ok r => ∃ h allocated, r.handle = some h ∧ layout.roundUp? size = some allocated ∧
          Allocated mode allocated h k k' := by
  unfold Region.create
  split
  · exact .pure trivial
  · split
    · exact .pure trivial
    · split
      · exact .pure trivial
      · rename_i allocated hround
        refine .bind ((allocate_yields mode allocated k).mono ?_)
        intro outcome k' hk'
        cases outcome with
        | error e => exact .bind (.record (.pure trivial))
        | ok h =>
          exact .bind (.freshGuid fun _ =>
            .bind (.record (.pure ⟨h, allocated, rfl, hround, hk'.2⟩)))

private theorem convertRegion_seals (r : Region SealedFile) (k : Kernel) :
    (r.convert Region.toReadOnly).Yields k fun outcome k' =>
      match outcome with
      | .error _ => True
      | .ok _ => ∃ h file, r.handle = some h ∧ k.file? h.fd = some file ∧
          (k'.object file.object).kind = .memory ∧
          (k'.object file.object).seals.blocksWrites = true := by
  refine .convert (fun _ => trivial) (fun _ _ _ => trivial) fun h hhandle _ => ?_
  refine (toReadOnly_yields h k).mono ?_
  intro outcome k' hk'
  cases outcome with
  | error e => exact trivial
  | ok h' =>
    obtain ⟨-, file, added, hfile, hkind, -, hadded, hk'⟩ := hk'
    have hblocks : added.blocksWrites = true := by
      rcases hadded with rfl | ⟨rfl, -⟩
      · rfl
      · rfl
    have hobject : k'.object file.object = (k.object file.object).withSeals added := by
      rw [hk'.object, object_modifyObject k _ _ _ (lt_of_kind_memory hkind), if_pos rfl]
    refine ⟨h, file, hhandle, hfile, ?_, ?_⟩
    · rw [hobject]
      exact hkind
    · rw [hobject]
      exact (Seals.Subset.union_left _ _).blocksWrites hblocks

private theorem convertRegion_closes (r : Region SealedFile) (k : Kernel) :
    (r.convert Region.toShared).Yields k fun outcome k' =>
      match outcome with
      | .error _ => True
      | .ok _ => ∃ h file, r.handle = some h ∧ k.file? h.fd = some file ∧
          (k'.object file.object).kind = .memory ∧
          (k'.object file.object).seals = (k.object file.object).seals.union closingSeals := by
  refine .convert (fun _ => trivial) (fun _ _ _ => trivial) fun h hhandle _ => ?_
  refine (toShared_yields h k).mono ?_
  intro outcome k' hk'
  cases outcome with
  | error e => exact trivial
  | ok h' =>
    obtain ⟨-, file, hfile, hkind, -, hk'⟩ := hk'
    have hobject : k'.object file.object = (k.object file.object).withSeals closingSeals := by
      rw [hk'.object, object_modifyObject k _ _ _ (lt_of_kind_memory hkind), if_pos rfl]
    refine ⟨h, file, hhandle, hfile, ?_, ?_⟩
    · rw [hobject]
      exact hkind
    · rw [hobject]
      rfl

/-- A region is only made of a handle that the kernel confirms. -/
theorem takeRegion_admits (h : SealedFile) (header : Header) (k : Kernel) :
    (Region.take h header).Yields k fun outcome k' => ∀ r, outcome = .ok r →
      r = ⟨some h, header.mode, header.size, header.guid⟩ ∧ validSize header.size = true ∧
        k.Alike k' ∧ Admitted k h header.mode header.size :=
  Region.take_checked h header <| (corresponds_yields h header.mode header.size k).mono
    fun _ _ hk' => ⟨hk'.1, hk'.2.1⟩

theorem spans_of_admitted {k : Kernel} {h : SealedFile} {mode : Mode} {size : Nat}
    (ha : Admitted k h mode size) {file : OpenFile} (hfile : k.file? h.fd = some file) :
    (k.object file.object).kind = .memory ∧ size ≤ (k.object file.object).length := by
  obtain ⟨_, seals, length, -, hseals, hlength, hsize, -⟩ := ha
  rw [lengthOf?, hfile, Option.bind_some] at hlength
  exact ⟨(memory_of_sealsOf? hfile hseals).1, Option.some.inj hlength ▸ hsize⟩

/-- A region that is made has a new object of a whole number of pages, with the seals of its
mode. -/
theorem create_allocates (mode : Mode) (size : Nat) (layout : Layout) (dest : String)
    (s : Session SealedFile) :
    (create mode size layout dest none).Yields s fun x s' => ∀ view, x = some (.ok view) →
      ∀ o, s'.objectUnder? dest = some o → (s'.system.kernel.object o).kind = .memory ∧
        (s'.system.kernel.object o).seals = initialSeals mode ∧
        layout.roundUp? size = some (s'.system.kernel.object o).length := by
  refine .bind (.act ((createRegion_allocates mode size layout _).mono ?_))
  intro outcome k hk system hsystem
  cases outcome with
  | error e => exact .pure fun _ h => nomatch Option.some.inj h
  | ok r =>
    obtain ⟨h, allocated, hhandle, hround, hmade⟩ := hk
    have hlength := eq_of_signed_eq (Layout.le_of_roundUp? hround).2 hmade.length
    refine .bind ((putRegion_keeps dest r _).mono ?_)
    intro x s' hs'
    obtain ⟨rfl, hkeeps⟩ := hs'
    refine .bind (.viewRegion fun v => .pure ?_)
    intro view _ o ho
    obtain ⟨h', access, hhandle', hfile⟩ := hkeeps.objectUnder? ho
    obtain rfl : h = h' := Option.some.inj (hhandle.symm.trans hhandle')
    have hsame : system.kernel.file? h.fd = some ⟨s.system.kernel.objects.length, .readWrite⟩ :=
      hsystem ▸ hmade.file?
    obtain ⟨rfl, -⟩ := OpenFile.mk.inj (Option.some.inj (hfile.symm.trans hsame))
    rw [hkeeps.object]
    exact hsystem ▸ ⟨hmade.kind, hmade.seals, by rw [hlength, hround]⟩

/-- A region that is made has a new object, which cannot change its length. -/
theorem create_object (mode : Mode) (size : Nat) (layout : Layout) (dest : String)
    (s : Session SealedFile) :
    (create mode size layout dest none).Yields s fun x s' => ∀ view, x = some (.ok view) →
      ∀ o, s'.objectUnder? dest = some o → (s'.system.kernel.object o).kind = .memory ∧
        (s'.system.kernel.object o).seals = initialSeals mode := by
  refine (create_allocates mode size layout dest s).mono fun x s' hs' view hview o ho => ?_
  obtain ⟨hkind, hseals, -⟩ := hs' view hview o ho
  exact ⟨hkind, hseals⟩

/-- An object whose region has become read-only refuses writes. -/
theorem convert_object (name : String) (s : Session SealedFile) :
    (convert name Region.toReadOnly none).Yields s fun x s' => ∀ view, x = some (.ok (), view) →
      ∀ o, s.objectUnder? name = some o → (s'.system.kernel.object o).kind = .memory ∧
        (s'.system.kernel.object o).seals.blocksWrites = true := by
  refine .bind (.held (fun _ h => nomatch h) fun r hr => .bind (.act ((convertRegion_seals r _).mono
    ?_)))
  intro outcome k hk system hsystem
  cases outcome with
  | error e =>
    exact .bind (.viewRegion fun v => .pure fun _ h => nomatch Option.some.inj h)
  | ok converted =>
    obtain ⟨h, file, hhandle, hfile, hkind, hblocks⟩ := hk
    refine .bind (.modify (.bind (.viewRegion fun v => .pure ?_)))
    intro view _ o ho
    obtain ⟨h', access, hhandle', hfile'⟩ := objectUnder?_region hr ho
    obtain rfl : h = h' := Option.some.inj (hhandle.symm.trans hhandle')
    obtain rfl : file = ⟨o, access⟩ := Option.some.inj (hfile.symm.trans hfile')
    exact hsystem ▸ ⟨hkind, hblocks⟩

/-- The seal set of an object is closed when its region becomes shared, and nothing else happens to
it. -/
theorem convert_closes (name : String) (s : Session SealedFile) :
    (convert name Region.toShared none).Yields s fun x s' => ∀ view, x = some (.ok (), view) →
      ∀ o, s.objectUnder? name = some o → (s'.system.kernel.object o).kind = .memory ∧
        (s'.system.kernel.object o).seals =
          (s.system.kernel.object o).seals.union closingSeals := by
  refine .bind (.held (fun _ h => nomatch h) fun r hr => .bind (.act
    ((convertRegion_closes r _).mono ?_)))
  intro outcome k hk system hsystem
  cases outcome with
  | error e =>
    exact .bind (.viewRegion fun v => .pure fun _ h => nomatch Option.some.inj h)
  | ok converted =>
    obtain ⟨h, file, hhandle, hfile, hkind, hseals⟩ := hk
    refine .bind (.modify (.bind (.viewRegion fun v => .pure ?_)))
    intro view _ o ho
    obtain ⟨h', access, hhandle', hfile'⟩ := objectUnder?_region hr ho
    obtain rfl : h = h' := Option.some.inj (hhandle.symm.trans hhandle')
    obtain rfl : file = ⟨o, access⟩ := Option.some.inj (hfile'.symm.trans hfile).symm
    exact hsystem ▸ ⟨hkind, hseals⟩

/-- A region that is accepted has the size of its header, and its object has at least so many
bytes. -/
theorem take_object (source : String) (header : Header) (dest : String) (s : Session SealedFile) :
    (take source header dest).Yields s fun x s' => ∀ view, x = some (.ok view) →
      ∃ r, s'.regions.get? dest = some r ∧ r.header = header ∧ 0 < r.size ∧
        ∀ o, s'.objectUnder? dest = some o → (s'.system.kernel.object o).kind = .memory ∧
          r.size ≤ (s'.system.kernel.object o).length := by
  refine .bind (.held (fun _ h => nomatch h) fun h _ => .bind (.modify (.bind (.act
    ((takeRegion_admits h header _).mono ?_)))))
  intro outcome k hk system hsystem
  cases outcome with
  | error e => exact .pure fun _ h => nomatch Option.some.inj h
  | ok r =>
    obtain ⟨rfl, hvalid, halike, hadmitted⟩ := hk r rfl
    obtain ⟨hpos, -⟩ := validSize_iff.mp hvalid
    subst hsystem
    refine .bind ((putRegion_keeps dest _ _).mono ?_)
    intro x s' hs'
    obtain ⟨rfl, hkeeps⟩ := hs'
    refine .bind (.viewRegion fun v => .pure fun view _ => ⟨_, hkeeps.region, rfl, hpos,
      fun o ho => ?_⟩)
    obtain ⟨h', access, hhandle, hfile⟩ := hkeeps.objectUnder? ho
    obtain rfl : h = h' := Option.some.inj hhandle
    rw [hkeeps.object, halike.object]
    exact spans_of_admitted hadmitted ((halike.file? _).symm.trans hfile)

end SharedMemory.Session

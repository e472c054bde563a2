import SharedMemory.Proofs.Accounts
import SharedMemory.Proofs.Complete
/-!
# Descriptors for reading

All descriptors that the operations of regions open are for reading, and a duplicate is for what its
source is for. So whatever steps a session takes and whichever system calls fail, every region can
be read through its handle. The rights of a handle do not tell this: a sealed file counts as
read-only whatever its descriptor was opened for.
-/
namespace SharedMemory

open Kernel Backing Effect

variable {k k' : Kernel} {ds : List Descriptor}

theorem Kernel.SameFiles.file? (h : SameFiles k k') (d : Descriptor) : k'.file? d = k.file? d := by
  rw [Kernel.file?, Kernel.file?, h.fileId?, h.files]

/-- The descriptors differ, and each is open for reading. -/
structure AllRead (k : Kernel) (ds : List Descriptor) : Prop where
  nodup : ds.Nodup
  read : ∀ d ∈ ds, ∃ file, k.file? d = some file ∧ file.access.canRead = true

namespace AllRead

theorem perm {ds' : List Descriptor} (h : AllRead k ds) (hp : ds.Perm ds') : AllRead k ds' :=
  ⟨hp.nodup_iff.mp h.nodup, fun d hd => h.read d (hp.mem_iff.mpr hd)⟩

/-- Some descriptors may be closed, and the others refer to what they referred to. -/
theorem drop {gone : List Descriptor} (h : AllRead k (gone ++ ds))
    (hstay : ∀ d file, d ∉ gone → k.file? d = some file → k'.file? d = some file) :
    AllRead k' ds := by
  obtain ⟨-, hnodup, hapart⟩ := List.nodup_append.mp h.nodup
  refine ⟨hnodup, fun d hd => ?_⟩
  obtain ⟨file, hfile, hread⟩ := h.read d (List.mem_append_right gone hd)
  exact ⟨file, hstay d file (fun hdg => hapart d hdg d hd rfl) hfile, hread⟩

theorem keep (h : AllRead k ds)
    (hstay : ∀ d file, k.file? d = some file → k'.file? d = some file) : AllRead k' ds :=
  @drop _ _ _ [] h fun d file _ => hstay d file

theorem same (h : AllRead k ds) (hk : SameFiles k k') : AllRead k' ds :=
  h.keep fun d _ hfile => (hk.file? d).trans hfile

theorem gain {fresh : List Descriptor} (h : AllRead k ds) (hs : Shift [] fresh [] k k')
    (hfresh : AllRead k' fresh) : AllRead k' (fresh ++ ds) := by
  have hkept : AllRead k' ds := h.keep fun _ _ hfile => hs.file? List.not_mem_nil hfile
  refine ⟨List.nodup_append.mpr ⟨hfresh.nodup, h.nodup, ?_⟩, fun d hd => ?_⟩
  · rintro d hd _ hold rfl
    obtain ⟨file, hfile, -⟩ := h.read d hold
    exact not_isOpen_of_fileId?_none (hs.vacant d hd) ⟨file, hfile⟩
  · rcases List.mem_append.mp hd with hd | hd
    · exact hfresh.read d hd
    · exact hkept.read d hd

end AllRead

private theorem allRead_closed : Closed Operation.keepsDescriptors fun y y' =>
    ∀ ds, AllRead y.kernel ds → AllRead y'.kernel ds where
  refl _ _ h := h
  trans h h' ds hds := h' ds (h ds hds)
  perform y _ hop _ h := h.same (perform_sameFiles hop y.kernel)
  journal _ _ _ h := h

/-- Some of the descriptors `before` are closed. The others are `after`, and they refer to what they
referred to. -/
def Retains (k k' : Kernel) (before after : List Descriptor) : Prop :=
  ∃ gone, (gone ++ after).Perm before ∧
    ∀ d file, d ∉ gone → k.file? d = some file → k'.file? d = some file

private theorem Retains.of_sameFiles {before : List Descriptor} (hk : SameFiles k k') :
    Retains k k' before before :=
  ⟨[], .refl _, fun d _ _ hfile => (hk.file? d).trans hfile⟩

private theorem AllRead.retain {before after : List Descriptor} (h : AllRead k (before ++ ds))
    (hr : Retains k k' before after) : AllRead k' (after ++ ds) := by
  obtain ⟨gone, hperm, hstay⟩ := hr
  have hall : AllRead k (gone ++ (after ++ ds)) := by
    rw [← List.append_assoc]
    exact h.perm (hperm.symm.append_right ds)
  exact hall.drop hstay

/-- A backing whose conversions close descriptors of the handle or leave them as they are, whatever
the handle grants. -/
class RetainingBacking (H : Type) [Backing H] : Prop where
  native (goal : Region.Downgrade) (h : H) (k : Kernel) :
    ((goal.conversion (H := H)).native h).Yields k fun outcome k' =>
      Retains k k' (descriptors h) (retained h outcome)

/-- A sealed file keeps its descriptor. -/
instance : RetainingBacking SealedFile where
  native goal h k := by
    have hsealed : ∀ id added, SameFiles k (k.modifyObject id (·.withSeals added)) :=
      fun _ _ => ⟨fun _ => rfl, rfl, List.length_modify _ _ _⟩
    cases goal with
    | readOnly =>
      refine (SealedFile.toReadOnly_yields h k).mono fun outcome k' hk' => ?_
      cases outcome with
      | error e => exact .of_sameFiles hk'.sameFiles
      | ok h' =>
        obtain ⟨rfl, file, added, -, -, -, -, hk'⟩ := hk'
        exact .of_sameFiles ((hsealed _ _).alike hk')
    | shared =>
      refine (SealedFile.toShared_yields h k).mono fun outcome k' hk' => ?_
      cases outcome with
      | error e => exact .of_sameFiles hk'.sameFiles
      | ok h' =>
        obtain ⟨rfl, file, -, -, -, hk'⟩ := hk'
        exact .of_sameFiles ((hsealed _ _).alike hk')

/-- A pair closes one of its descriptors. -/
instance : RetainingBacking DescriptorPair where
  native goal h k := by
    cases goal with
    | readOnly =>
      refine (DescriptorPair.toReadOnly_yields h k).mono fun outcome k' hk' => ?_
      cases outcome with
      | error e =>
        obtain ⟨-, -, rfl⟩ := hk'
        exact ⟨[], .refl _, fun _ _ _ hfile => hfile⟩
      | ok h' =>
        obtain ⟨spare, hspare, rfl, hshift⟩ := hk'
        refine ⟨[h.fd], ?_, fun d file hd hfile => hshift.file? hd hfile⟩
        change List.Perm [h.fd, spare] (h.fd :: h.spare.toList)
        rw [hspare]
        exact .refl _
    | shared =>
      refine (DescriptorPair.toShared_yields h k).mono fun outcome k' hk' => ?_
      obtain ⟨rfl, hshift⟩ := hk'
      exact ⟨h.spare.toList, List.perm_append_comm, fun d file hd hfile => hshift.file? hd hfile⟩

section

variable {H : Type} [Backing H]

namespace Region

private theorem create_allRead [Rights H] [LawfulBacking H] [CompleteBacking H] (mode : Mode)
    (size : Nat) (layout : Layout) (h : AllRead k ds) :
    (create (H := H) mode size layout).Yields k fun outcome k' =>
      match outcome with
      | .error _ => AllRead k' ds
      | .ok r => AllRead k' (r.descriptors ++ ds) := by
  unfold create
  split
  · exact .pure h
  · rename_i hmode
    split
    · exact .pure h
    · split
      · exact .pure h
      · rename_i allocated hround
        obtain ⟨-, hlt⟩ := Layout.le_of_roundUp? hround
        refine .bind (((LawfulBacking.allocate_yields mode allocated k hmode hlt).and
          (CompleteBacking.allocate_readable mode allocated k)).mono ?_)
        rintro outcome k' ⟨hmakes, hreadable⟩
        cases outcome with
        | error e => exact .bind (.record (.pure (h.keep fun _ _ => hmakes.file? List.not_mem_nil)))
        | ok handle =>
          exact .bind (.freshGuid fun _ => .bind (.record (.pure
            (h.gain hmakes.shift ⟨hmakes.nodup, hreadable handle rfl⟩))))

private theorem convert_allRead [RetainingBacking H] (r : Region H) (goal : Downgrade)
    (h : AllRead k (r.descriptors ++ ds)) :
    (r.convert goal.conversion).Yields k fun outcome k' =>
      match outcome with
      | .error _ => AllRead k' (r.descriptors ++ ds)
      | .ok converted => AllRead k' (converted.descriptors ++ ds) := by
  refine .convert (fun _ => h) (fun _ _ _ => h) fun handle hhandle _ => ?_
  rw [descriptors_of_some hhandle] at h ⊢
  refine (RetainingBacking.native goal handle k).mono ?_
  intro outcome k' hk'
  have hretained := h.retain hk'
  cases outcome with
  | error e => exact hretained
  | ok converted => exact hretained

private theorem duplicate_allRead [Rights H] [LawfulBacking H] (r : Region H)
    (h : AllRead k (r.descriptors ++ ds)) :
    r.duplicate.Yields k fun outcome k' =>
      match outcome with
      | .error _ => AllRead k' (r.descriptors ++ ds)
      | .ok copy => AllRead k' (copy.descriptors ++ (r.descriptors ++ ds)) := by
  unfold duplicate
  split
  · exact .pure h
  · rename_i handle hhandle
    rw [descriptors_of_some hhandle] at h ⊢
    split
    · exact .pure h
    · have hread := fun d hd => h.read d (List.mem_append_left ds hd)
      have hopen : ∀ d ∈ Backing.descriptors handle, k.IsOpen d := fun d hd =>
        (hread d hd).imp fun _ hfile => hfile.1
      refine .bind ((LawfulBacking.duplicate_yields handle k hopen).mono ?_)
      intro outcome k' hk'
      cases outcome with
      | error e => exact .bind (.record (.pure (h.keep fun _ _ => hk'.file? List.not_mem_nil)))
      | ok copy =>
        obtain ⟨hshift, hnodup, hcopies⟩ := hk'
        refine .pure (h.gain hshift ⟨hnodup, fun d hd => ?_⟩)
        obtain ⟨d', hd', hfile⟩ := hcopies.file? hd
        rw [hfile]
        exact hread d' hd'

end Region

variable [Rights H] [LawfulBacking H]

private theorem release_allRead (handle : H) (h : AllRead k (descriptors handle ++ ds)) :
    (Backing.release handle).Yields k fun _ k' => AllRead k' ds :=
  (LawfulBacking.release_yields handle k).mono fun _ _ hk' =>
    h.drop fun _ _ hgone hfile => hk'.file? hgone hfile

private theorem Region.release_allRead (r : Region H) (h : AllRead k (r.descriptors ++ ds)) :
    r.release.Yields k fun _ k' => AllRead k' ds := by
  unfold release
  split
  · rename_i hhandle
    rw [descriptors_of_none hhandle] at h
    exact .pure h
  · rename_i handle hhandle
    rw [descriptors_of_some hhandle] at h
    exact SharedMemory.release_allRead handle h

private theorem Region.take_allRead [ThriftyBacking H] (handle : H) (header : Header)
    (h : AllRead k (Backing.descriptors handle ++ ds)) :
    (take handle header).Yields k fun outcome k' =>
      match outcome with
      | .error _ => AllRead k' ds
      | .ok r => AllRead k' (r.descriptors ++ ds) := by
  unfold take
  split
  · exact .bind ((SharedMemory.release_allRead handle h).mono fun _ _ hk' => .pure hk')
  · have hlook := ThriftyBacking.corresponds handle header.mode header.size allRead_closed
    have hchecked : (Backing.corresponds handle header.mode header.size).Yields k fun _ k' =>
        AllRead k' (Backing.descriptors handle ++ ds) := by
      rintro s rfl
      exact hlook s _ h
    refine .bind (hchecked.mono fun answer k₁ h₁ => ?_)
    split
    · exact .pure h₁
    · exact .bind ((SharedMemory.release_allRead handle h₁).mono fun _ _ h₂ => .pure h₂)

variable [CompleteBacking H] [RetainingBacking H]

private theorem allRead_last :
    (Inventory.descriptors (H := H)).Lasts fun y ds => AllRead y.kernel ds where
  perm := AllRead.perm
  still := allRead_closed
  invalid h := h
  create mode size layout h := .of_yields (Region.create_allRead mode size layout h)
  convert r goal h := .of_yields (r.convert_allRead goal h)
  duplicate r h := .of_yields (r.duplicate_allRead h)
  release r h := .of_yields (r.release_allRead h)
  releaseHandle _ h hr := .of_yields (release_allRead h hr)

namespace Session

variable [ThriftyBacking H]

private theorem runSteps_allRead {s : Session H} {hand : List Descriptor}
    (hs : Stocked .descriptors (fun y ds => AllRead y.kernel ds) hand s) (steps : List Step) :
    Stocked .descriptors (fun y ds => AllRead y.kernel ds) hand (s.runSteps steps) := by
  induction steps generalizing s with
  | nil => exact hs
  | cons step rest ih =>
    exact ih (hs.descriptors_step allRead_last
      (fun _ h header _ _ hr => .of_yields (Region.take_allRead h header hr)) step)

/-- The handle of every region of a session that owned nothing at the start can be read through. -/
theorem readable_of_runSteps {start : Session H} (hstart : start.OwnsNothing) (steps : List Step)
    {name : String} {r : Region H} {h : H} (hr : (start.runSteps steps).regions.get? name = some r)
    (hhandle : r.handle = some h) : Readable (start.runSteps steps).system.kernel h := by
  have hempty : Stocked .descriptors (fun y ds => AllRead y.kernel ds) [] start :=
    stocked_of_empty hstart.regions hstart.handles hstart.loose ⟨.nil, nofun⟩
  have hs := runSteps_allRead hempty steps
  intro d hd
  refine hs.has.read d (List.mem_append_right _ (List.mem_append_left _ ?_))
  rw [← Region.descriptors_of_some hhandle] at hd
  exact List.mem_flatMap.mpr ⟨r, Slots.mem_values_of_get? hr, hd⟩

end Session

end

end SharedMemory

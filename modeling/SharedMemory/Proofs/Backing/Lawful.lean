import SharedMemory.Proofs.Effect
import SharedMemory.Proofs.Kernel.Shift
/-!
# What a backing promises

The rights that a mode stands for show in three places: in the access of the descriptor that is
mapped, in that of the reserve, and in the seals of the object. A handle grants a mode if it has
these rights. A backing keeps its promises if what it makes grants the mode asked for, and if its
check finds out which mode a handle grants.
-/
namespace SharedMemory

/-- How the modes show in the kernel. -/
class Rights (H : Type) where
  /-- The objects that the backing works with. -/
  Fit : Object → Prop
  Admits : Mode → Access → Option Access → Seals → Prop

namespace Backing

open Kernel

variable {H : Type} [Backing H] [Rights H] {k k' : Kernel} {h : H} {o : ObjectId} {mode : Mode}

/-- A descriptor of an object that the backing works with. -/
def Refers (H : Type) [Rights H] (k : Kernel) (d : Descriptor) (o : ObjectId) : Prop :=
  (∃ access, k.file? d = some ⟨o, access⟩) ∧ Rights.Fit H (k.object o)

def Sound (k : Kernel) (h : H) : Prop := ∀ d ∈ descriptors h, ∃ o, Refers H k d o

/-- All descriptors of the handle refer to one object. -/
def Whole (k : Kernel) (h : H) : Prop := ∃ o, ∀ d ∈ descriptors h, Refers H k d o

def Grants (k : Kernel) (h : H) (o : ObjectId) (mode : Mode) : Prop :=
  ∃ access, k.file? (descriptor h) = some ⟨o, access⟩ ∧ Rights.Fit H (k.object o) ∧
    Rights.Admits H mode access ((reserve h).bind k.accessOf?) (k.object o).seals

/-- A handle grants a mode on an object of at least so many bytes. -/
def GrantsBytes (k : Kernel) (h : H) (mode : Mode) (size : Nat) : Prop :=
  ∃ o, Grants k h o mode ∧ size ≤ (k.object o).length

/-- The descriptors of one handle have the open files of the other. -/
structure Copies (k : Kernel) (h : H) (k' : Kernel) (copy : H) : Prop where
  mapped : k'.file? (descriptor copy) = k.file? (descriptor h)
  kept : (reserve copy).map k'.file? = (reserve h).map k.file?

/-- A handle of the given size and mode, of an object that was not there before. -/
structure Makes (mode : Mode) (size : Nat) (h : H) (k k' : Kernel) : Prop where
  shift : Shift [] (descriptors h) [] k k'
  nodup : (descriptors h).Nodup
  refers : ∀ d ∈ descriptors h, Refers H k' d k.objects.length
  grants : Grants k' h k.objects.length mode
  length : (k'.object k.objects.length).length = size

/-- The handle keeps some of its descriptors and closes the others. Seals are added to no object
but its own. -/
structure Turns (goal : Mode) (h h' : H) (o : ObjectId) (k k' : Kernel) : Prop where
  shift : ∃ gone touched, Shift gone [] touched k k' ∧
    (gone ++ descriptors h').Perm (descriptors h) ∧ ∀ t ∈ touched, t = o
  grants : ∃ o', Grants k' h' o' goal

/-- A native conversion takes handles that grant the writable mode to some other mode. -/
def Converts (native : H → Effect (Except Errno H)) (goal : Mode) : Prop :=
  ∀ k h o, Sound k h → (descriptors h).Nodup → Grants k h o .writable →
    (native h).Yields k fun outcome k' =>
      match outcome with
      | .error _ => Shift [] [] [] k k'
      | .ok h' => Turns goal h h' o k k'

end Backing

open Kernel Backing in
class LawfulBacking (H : Type) [Backing H] [Rights H] : Prop where
  memory_of_fit {object : Object} : Rights.Fit H object → object.kind = .memory
  fit_sealing {object object' : Object} :
    object.Sealing object' → Rights.Fit H object → Rights.Fit H object'
  /-- No two modes show in one way. -/
  admits_functional {m m' : Mode} {a : Access} {r : Option Access} {s : Seals} :
    Rights.Admits H m a r s → Rights.Admits H m' a r s → m = m'
  /-- Only the writable mode can be lost by sealing the object. -/
  admits_sealing {m : Mode} {a : Access} {r : Option Access} {s s' : Seals} :
    s.Subset s' → (s.closed = true → s' = s) → m ≠ .writable →
      Rights.Admits H m a r s → Rights.Admits H m a r s'
  /-- The writable mode cannot be gained by sealing the object. -/
  admits_of_subset {a : Access} {r : Option Access} {s s' : Seals} :
    s.Subset s' → Rights.Admits H .writable a r s' → Rights.Admits H .writable a r s
  blocked {object : Object} {a : Access} {r : Option Access} :
    Rights.Admits H .readOnly a r object.seals →
      a ≠ .readWrite ∧ r ≠ some .readWrite ∨ object.seals.blocksWrites = true
  mappable {m : Mode} {object : Object} {a : Access} {r : Option Access} :
    Rights.Fit H object → m ≠ .readOnly → Rights.Admits H m a r object.seals →
      a = .readWrite ∧ object.seals.blocksWrites = false
  allocate_yields (mode : Mode) (size : Nat) (k : Kernel) :
    mode ≠ .readOnly → size < UInt64.size →
      (Backing.allocate (H := H) mode size).Yields k fun outcome k' =>
        match outcome with
        | .error _ => Shift [] [] [] k k'
        | .ok h => Makes mode size h k k'
  duplicate_yields (h : H) (k : Kernel) : (∀ d ∈ descriptors h, k.IsOpen d) →
    (Backing.duplicate h).Yields k fun outcome k' =>
      match outcome with
      | .error _ => Shift [] [] [] k k'
      | .ok copy => Shift [] (descriptors copy) [] k k' ∧ (descriptors copy).Nodup ∧
          Copies k h k' copy
  /-- Where there is neither a plan nor a limit, every handle can be duplicated. -/
  duplicate_succeeds (h : H) (k : Kernel) : (∀ d ∈ descriptors h, k.IsOpen d) → k.Obliging →
    k.limit = none →
      (Backing.duplicate h).Yields k fun outcome k' => (∃ copy, outcome = .ok copy) ∧ k'.Obliging
  toReadOnly_converts : Converts (Backing.toReadOnly (H := H)) .readOnly
  toShared_converts : Converts (Backing.toShared (H := H)) .shared
  release_yields (h : H) (k : Kernel) :
    (Backing.release h).Yields k fun _ k' => Shift (descriptors h) [] [] k k'
  corresponds_yields (h : H) (mode : Mode) (size : Nat) (k : Kernel) : Sound k h →
    (Backing.corresponds h mode size).Yields k fun answer k' =>
      k.Alike k' ∧ (answer = true → GrantsBytes k h mode size) ∧
        (k.Candid → GrantsBytes k h mode size → answer = true)

namespace Kernel.Shift

variable {gone fresh : List Descriptor} {touched : List ObjectId} {k k' : Kernel}

theorem file?_eq (hs : Shift gone fresh touched k k') {d : Descriptor} (hgone : d ∉ gone)
    (hopen : k.IsOpen d) : k'.file? d = k.file? d := by
  obtain ⟨file, hfile⟩ := hopen
  rw [hs.file? hgone hfile, hfile]

theorem file?_eq_of_fileId? (hs : Shift gone fresh touched k k') {d d' : Descriptor}
    (hopen : k.IsOpen d) (hid : k'.fileId? d' = k.fileId? d) : k'.file? d' = k.file? d := by
  obtain ⟨file, hfile⟩ := hopen
  rw [file?_of_files hid hs.files hfile, hfile]

end Kernel.Shift

namespace Backing

open Kernel

variable {H : Type} {k k' : Kernel} {h copy : H} {o : ObjectId} {mode : Mode}
  {gone fresh : List Descriptor} {touched : List ObjectId}

section

variable [Rights H] {d : Descriptor}

theorem Refers.isOpen (hr : Refers H k d o) : k.IsOpen d := by
  obtain ⟨⟨access, hfile⟩, _⟩ := hr
  exact ⟨_, hfile⟩

theorem Refers.object_eq {o' : ObjectId} (hr : Refers H k d o) (hr' : Refers H k d o') :
    o = o' := by
  obtain ⟨⟨access, hfile⟩, _⟩ := hr
  obtain ⟨⟨access', hfile'⟩, _⟩ := hr'
  exact congrArg OpenFile.object (Option.some.inj (hfile.symm.trans hfile'))

end

variable [Backing H]

theorem descriptor_mem (h : H) : descriptor h ∈ descriptors h := List.mem_cons_self

theorem reserve_mem {d : Descriptor} (hd : reserve h = some d) : d ∈ descriptors h := by
  rw [descriptors, hd]
  exact List.mem_cons_of_mem _ List.mem_cons_self

theorem descriptor?_mem {spare : Bool} {d : Descriptor} (hd : descriptor? h spare = some d) :
    d ∈ descriptors h := by
  cases spare with
  | false => exact Option.some.inj hd ▸ descriptor_mem h
  | true => exact reserve_mem hd

/-- Every descriptor of a copy has the open file of one of the source. -/
theorem Copies.file? (hc : Copies k h k' copy) {d : Descriptor} (hd : d ∈ descriptors copy) :
    ∃ d' ∈ descriptors h, k'.file? d = k.file? d' := by
  rcases List.mem_cons.mp hd with rfl | hd
  · exact ⟨_, descriptor_mem h, hc.mapped⟩
  · have hreserve := hc.kept
    rw [Option.mem_toList] at hd
    rw [hd] at hreserve
    cases hsource : reserve h with
    | none =>
      rw [hsource] at hreserve
      cases hreserve
    | some d' =>
      rw [hsource] at hreserve
      exact ⟨d', reserve_mem hsource, Option.some.inj hreserve⟩

variable [Rights H]

theorem Sound.isOpen (hs : Sound k h) {d : Descriptor} (hd : d ∈ descriptors h) : k.IsOpen d := by
  obtain ⟨o, hr⟩ := hs d hd
  exact hr.isOpen

theorem Grants.refers (hg : Grants k h o mode) : Refers H k (descriptor h) o := by
  obtain ⟨access, hfile, hfit, _⟩ := hg
  exact ⟨⟨access, hfile⟩, hfit⟩

/-- What a converted handle has left it had before, and none of it was closed. -/
theorem Turns.stays {goal : Mode} {h' : H} (ht : Turns goal h h' o k k')
    (hnodup : (descriptors h).Nodup) :
    ∃ gone touched, Shift gone [] touched k k' ∧ (∀ d ∈ gone, d ∈ descriptors h) ∧
      (∀ t ∈ touched, t = o) ∧ (descriptors h').Nodup ∧
      ∀ d ∈ descriptors h', d ∈ descriptors h ∧ d ∉ gone := by
  obtain ⟨⟨gone, touched, hshift, hperm, htouched⟩, -⟩ := ht
  have hparts := List.nodup_append.mp (hperm.nodup_iff.mpr hnodup)
  exact ⟨gone, touched, hshift, fun d hd => hperm.mem_iff.mp (List.mem_append_left _ hd), htouched,
    hparts.2.1, fun d hd => ⟨hperm.mem_iff.mp (List.mem_append_right gone hd),
      fun hdg => hparts.2.2 d hdg d hd rfl⟩⟩

private theorem stays (hsound : Sound k h) (hs : Shift gone fresh touched k k')
    (hgone : ∀ d ∈ descriptors h, d ∉ gone) :
    k'.file? (descriptor h) = k.file? (descriptor h) ∧
      (reserve h).bind k'.accessOf? = (reserve h).bind k.accessOf? := by
  have hfile : ∀ d ∈ descriptors h, k'.file? d = k.file? d := fun d hd =>
    hs.file?_eq (hgone d hd) (hsound.isOpen hd)
  refine ⟨hfile _ (descriptor_mem h), ?_⟩
  cases hreserve : reserve h with
  | none => rfl
  | some d =>
    simp only [Option.bind_some, accessOf?, hfile d (reserve_mem hreserve)]

variable [LawfulBacking H]

theorem Refers.lt {d : Descriptor} (hr : Refers H k d o) : o < k.objects.length :=
  lt_of_kind_memory (LawfulBacking.memory_of_fit hr.2)

theorem Refers.shift {d : Descriptor} (hr : Refers H k d o) (hs : Shift gone fresh touched k k')
    (hgone : d ∉ gone) : Refers H k' d o := by
  have hsealing := hs.sealing o hr.lt
  obtain ⟨⟨access, hfile⟩, hfit⟩ := hr
  exact ⟨⟨access, hs.file? hgone hfile⟩, LawfulBacking.fit_sealing hsealing hfit⟩

theorem Sound.shift (hsound : Sound k h) (hs : Shift gone fresh touched k k')
    (hgone : ∀ d ∈ descriptors h, d ∉ gone) : Sound k' h := by
  intro d hd
  obtain ⟨o, hr⟩ := hsound d hd
  exact ⟨o, hr.shift hs (hgone d hd)⟩

theorem Whole.shift (hw : Whole k h) (hs : Shift gone fresh touched k k')
    (hgone : ∀ d ∈ descriptors h, d ∉ gone) : Whole k' h := by
  obtain ⟨o, hr⟩ := hw
  exact ⟨o, fun d hd => (hr d hd).shift hs (hgone d hd)⟩

theorem Grants.mode_eq {mode' : Mode} {o' : ObjectId} (hg : Grants k h o mode)
    (hg' : Grants k h o' mode') : mode = mode' := by
  obtain ⟨access, hfile, _, hadmits⟩ := hg
  obtain ⟨access', hfile', _, hadmits'⟩ := hg'
  obtain ⟨rfl, rfl⟩ := OpenFile.mk.inj (Option.some.inj (hfile.symm.trans hfile'))
  exact LawfulBacking.admits_functional hadmits hadmits'

/-- A grant stays, unless it is for writing and seals are added to the object. -/
theorem Grants.shift (hg : Grants k h o mode) (hsound : Sound k h)
    (hs : Shift gone fresh touched k k') (hgone : ∀ d ∈ descriptors h, d ∉ gone)
    (htouched : mode = .writable → o ∉ touched) : Grants k' h o mode := by
  have hlt := hg.refers.lt
  obtain ⟨access, hfile, hfit, hadmits⟩ := hg
  obtain ⟨hsame, hreserve⟩ := stays hsound hs hgone
  have hsealing := hs.sealing o hlt
  refine ⟨access, hsame.trans hfile, LawfulBacking.fit_sealing hsealing hfit, ?_⟩
  rw [hreserve]
  by_cases hmode : mode = .writable
  · rw [(hs.shape o hlt (htouched hmode)).seals]
    exact hadmits
  · exact LawfulBacking.admits_sealing hsealing.seals hsealing.closed hmode hadmits

theorem Grants.of_shift (hg : Grants k' h o .writable) (hsound : Sound k h)
    (hs : Shift gone fresh touched k k') (hgone : ∀ d ∈ descriptors h, d ∉ gone) :
    Grants k h o .writable := by
  obtain ⟨access, hfile, hfit, hadmits⟩ := hg
  obtain ⟨hsame, hreserve⟩ := stays hsound hs hgone
  have hfile := hsame.symm.trans hfile
  obtain ⟨o', hr⟩ := hsound _ (descriptor_mem h)
  obtain rfl : o' = o := by
    obtain ⟨access', hfile'⟩ := hr.1
    exact congrArg OpenFile.object (Option.some.inj (hfile'.symm.trans hfile))
  rw [hreserve] at hadmits
  exact ⟨access, hfile, hr.2, LawfulBacking.admits_of_subset (hs.sealing o' hr.lt).seals hadmits⟩

private theorem Copies.refers {fresh : List Descriptor} (hc : Copies k h k' copy)
    (hs : Shift [] fresh [] k k') {d : Descriptor} (hd : d ∈ descriptors copy) :
    ∃ d' ∈ descriptors h, ∀ o, Refers H k d' o → Refers H k' d o := by
  obtain ⟨d', hd', hfile⟩ := hc.file? hd
  refine ⟨d', hd', ?_⟩
  rintro o ⟨⟨access, hfile'⟩, hfit⟩
  have hlt : o < k.objects.length := Refers.lt (H := H) ⟨⟨access, hfile'⟩, hfit⟩
  exact ⟨⟨access, hfile.trans hfile'⟩, LawfulBacking.fit_sealing (hs.sealing o hlt) hfit⟩

theorem Copies.sound {fresh : List Descriptor} (hc : Copies k h k' copy)
    (hs : Shift [] fresh [] k k') (hsound : Sound k h) : Sound k' copy := by
  intro d hd
  obtain ⟨d', hd', hrefers⟩ := hc.refers hs hd
  obtain ⟨o, hr⟩ := hsound d' hd'
  exact ⟨o, hrefers o hr⟩

theorem Copies.whole {fresh : List Descriptor} (hc : Copies k h k' copy)
    (hs : Shift [] fresh [] k k') (hw : Whole k h) : Whole k' copy := by
  obtain ⟨o, hr⟩ := hw
  refine ⟨o, fun d hd => ?_⟩
  obtain ⟨d', hd', hrefers⟩ := hc.refers hs hd
  exact hrefers o (hr d' hd')

theorem Copies.grants_iff {fresh : List Descriptor} (hc : Copies k h k' copy)
    (hs : Shift [] fresh [] k k') (hsound : Sound k h) :
    Grants k' copy o mode ↔ Grants k h o mode := by
  obtain ⟨hmapped, hkept⟩ := hc
  have haccess : (reserve copy).bind k'.accessOf? = (reserve h).bind k.accessOf? := by
    unfold accessOf?
    cases hr : reserve h with
    | none =>
      rw [hr, Option.map_none, Option.map_eq_none_iff] at hkept
      rw [hkept]
      rfl
    | some d =>
      rw [hr, Option.map_some, Option.map_eq_some_iff] at hkept
      obtain ⟨d', hd', hfile⟩ := hkept
      rw [hd', Option.bind_some, Option.bind_some, hfile]
  have hshape : ∀ {access}, k.file? (descriptor h) = some ⟨o, access⟩ →
      (k.object o).SameShape (k'.object o) ∧ Rights.Fit H (k.object o) := by
    intro access hfile
    obtain ⟨o', hr⟩ := hsound _ (descriptor_mem h)
    obtain ⟨access', hfile'⟩ := hr.1
    obtain rfl : o' = o := congrArg OpenFile.object (Option.some.inj (hfile'.symm.trans hfile))
    exact ⟨hs.shape o' hr.lt List.not_mem_nil, hr.2⟩
  unfold Grants
  rw [hmapped, haccess]
  constructor
  · rintro ⟨access, hfile, _, hadmits⟩
    obtain ⟨hsame, hfit⟩ := hshape hfile
    exact ⟨access, hfile, hfit, hsame.seals ▸ hadmits⟩
  · rintro ⟨access, hfile, hfit, hadmits⟩
    obtain ⟨hsame, _⟩ := hshape hfile
    exact ⟨access, hfile, LawfulBacking.fit_sealing hsame.sealing hfit, hsame.seals ▸ hadmits⟩

variable {goal : Mode} {h' : H}

/-- A handle that has all its descriptors on one object stays on that object. -/
theorem Turns.grants_of_whole (ht : Turns goal h h' o k k') (hnodup : (descriptors h).Nodup)
    (hw : Whole k h) (hg : Grants k h o .writable) : Grants k' h' o goal := by
  obtain ⟨gone, touched, hshift, -, -, -, hstays⟩ := ht.stays hnodup
  obtain ⟨o', hg'⟩ := ht.grants
  obtain ⟨o₁, hr⟩ := hw
  obtain ⟨hmem, hgone⟩ := hstays _ (descriptor_mem h')
  have hsame : o' = o₁ := hg'.refers.object_eq ((hr _ hmem).shift hshift hgone)
  have hobject : o₁ = o := (hr _ (descriptor_mem h)).object_eq hg.refers
  rw [← hobject, ← hsame]
  exact hg'

end Backing

end SharedMemory

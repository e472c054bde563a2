import SharedMemory.Region.Basic
import SharedMemory.Proofs.Backing.Lawful
/-!
# Custody

What holds of all the handles that are in use at a time. No two share a descriptor, every
descriptor refers to an object of the backing, a handle that belongs to a region grants the mode
that the region says, and no two handles grant the writable mode on one object. The operations of
a region keep all this, whatever else is in use.

As long as handles are only made by the operations of the backing, all descriptors of a handle
refer to one object, and the object is as long as the region says. This part is kept under the
condition `own`, since handles can also be put together by hand.
-/
namespace SharedMemory

open Kernel Backing

/-- A handle in use, with the header of its region if it belongs to one. -/
structure Holding (H : Type) where
  handle : H
  header : Option Header

section Custody

variable {H : Type} [Backing H] [Rights H]

/-- What a region says of its handle is so. -/
def Labelled (own : Prop) (k : Kernel) (h : H) (header : Header) : Prop :=
  validSize header.size = true ∧
    ∃ o, Grants k h o header.mode ∧ (own → header.size ≤ (k.object o).length)

structure Kept (own : Prop) (k : Kernel) (x : Holding H) : Prop where
  nodup : (descriptors x.handle).Nodup
  sound : Sound k x.handle
  whole : own → Whole k x.handle
  label : ∀ header, x.header = some header → Labelled own k x.handle header

structure Apart (k : Kernel) (x y : Holding H) : Prop where
  disjoint : ∀ d ∈ descriptors x.handle, d ∉ descriptors y.handle
  writers : ∀ o, Grants k x.handle o .writable → ¬ Grants k y.handle o .writable

structure Custody (own : Prop) (k : Kernel) (hs : List (Holding H)) : Prop where
  each : ∀ x ∈ hs, Kept own k x
  apart : hs.Pairwise (Apart k)

end Custody

variable {H : Type} [Backing H] [Rights H] {own : Prop} {k k' : Kernel} {x y : Holding H}
  {hs hs' : List (Holding H)} {gone fresh : List Descriptor} {touched : List ObjectId}

theorem Apart.symm (h : Apart k x y) : Apart k y x :=
  ⟨fun d hy hx => h.disjoint d hx hy, fun o hy hx => h.writers o hx hy⟩

namespace Custody

theorem nil : Custody own k ([] : List (Holding H)) := ⟨nofun, .nil⟩

theorem perm (h : Custody own k hs) (hp : hs.Perm hs') : Custody own k hs' :=
  ⟨fun x hx => h.each x (hp.mem_iff.mpr hx),
    (hp.pairwise_iff fun hxy => Apart.symm hxy).mp h.apart⟩

theorem cons_iff : Custody own k (x :: hs) ↔
    Kept own k x ∧ (∀ y ∈ hs, Apart k x y) ∧ Custody own k hs := by
  constructor
  · intro h
    obtain ⟨hx, hrest⟩ := List.pairwise_cons.mp h.apart
    exact ⟨h.each x List.mem_cons_self, hx,
      fun y hy => h.each y (List.mem_cons_of_mem x hy), hrest⟩
  · rintro ⟨hx, hapart, hrest⟩
    refine ⟨fun y hy => ?_, List.pairwise_cons.mpr ⟨hapart, hrest.apart⟩⟩
    rcases List.mem_cons.mp hy with rfl | hy
    · exact hx
    · exact hrest.each y hy

theorem unlabel (h : Custody own k (x :: hs)) : Custody own k (⟨x.handle, none⟩ :: hs) := by
  obtain ⟨hx, hapart, hrest⟩ := cons_iff.mp h
  exact cons_iff.mpr ⟨⟨hx.nodup, hx.sound, hx.whole, nofun⟩,
    fun y hy => ⟨(hapart y hy).disjoint, (hapart y hy).writers⟩, hrest⟩

theorem label (h : Custody own k (x :: hs)) {header : Header}
    (hlabel : Labelled own k x.handle header) :
    Custody own k (⟨x.handle, some header⟩ :: hs) := by
  obtain ⟨hx, hapart, hrest⟩ := cons_iff.mp h
  refine cons_iff.mpr ⟨⟨hx.nodup, hx.sound, hx.whole, ?_⟩,
    fun y hy => ⟨(hapart y hy).disjoint, (hapart y hy).writers⟩, hrest⟩
  rintro _ ⟨⟩
  exact hlabel

private theorem disjoint_of_fresh {h : H} (hc : Custody own k hs)
    (hshift : Shift [] (descriptors h) [] k k') (hy : y ∈ hs) :
    ∀ d ∈ descriptors h, d ∉ descriptors y.handle := fun d hd hdy =>
  not_isOpen_of_fileId?_none (hshift.vacant d hd) ((hc.each y hy).sound.isOpen hdy)

end Custody

variable [LawfulBacking H]

theorem Kept.shift (hx : Kept own k x) (hs : Shift gone fresh touched k k')
    (hgone : ∀ d ∈ descriptors x.handle, d ∉ gone)
    (htouched : ∀ o ∈ touched, ¬ Grants k x.handle o .writable) : Kept own k' x where
  nodup := hx.nodup
  sound := hx.sound.shift hs hgone
  whole hw := (hx.whole hw).shift hs hgone
  label header hheader := by
    obtain ⟨hvalid, o, hg, hlength⟩ := hx.label header hheader
    refine ⟨hvalid, o, hg.shift hx.sound hs hgone fun hmode ho => htouched o ho (hmode ▸ hg),
      fun hw => ?_⟩
    rw [(hs.sealing o hg.refers.lt).length]
    exact hlength hw

theorem Apart.shift (h : Apart k x y) (hx : Sound k x.handle) (hy : Sound k y.handle)
    (hs : Shift gone fresh touched k k') (hgx : ∀ d ∈ descriptors x.handle, d ∉ gone)
    (hgy : ∀ d ∈ descriptors y.handle, d ∉ gone) : Apart k' x y :=
  ⟨h.disjoint, fun o hwx hwy => h.writers o (hwx.of_shift hx hs hgx) (hwy.of_shift hy hs hgy)⟩

namespace Custody

/-- What happens to other descriptors and to other objects is no matter. -/
theorem shift (h : Custody own k hs) (hshift : Shift gone fresh touched k k')
    (hgone : ∀ x ∈ hs, ∀ d ∈ descriptors x.handle, d ∉ gone)
    (htouched : ∀ x ∈ hs, ∀ o ∈ touched, ¬ Grants k x.handle o .writable) :
    Custody own k' hs where
  each x hx := (h.each x hx).shift hshift (hgone x hx) (htouched x hx)
  apart := h.apart.imp_of_mem fun hx hy hxy =>
    hxy.shift (h.each _ hx).sound (h.each _ hy).sound hshift (hgone _ hx) (hgone _ hy)

theorem quiet (h : Custody own k hs) (hshift : Shift [] fresh [] k k') :
    Custody own k' hs :=
  h.shift hshift (fun _ _ _ _ => List.not_mem_nil) fun _ _ _ ho => absurd ho List.not_mem_nil

theorem alike (h : Custody own k hs) (hk : k.Alike k') : Custody own k' hs :=
  h.quiet ((Shift.refl k).alike hk)

theorem release (h : Custody own k (x :: hs))
    (hshift : Shift (descriptors x.handle) [] [] k k') : Custody own k' hs := by
  obtain ⟨_, hapart, hrest⟩ := cons_iff.mp h
  exact hrest.shift hshift (fun y hy d hd hx => (hapart y hy).disjoint d hx hd)
    fun _ _ _ ho => absurd ho List.not_mem_nil

theorem makes {h : H} {mode : Mode} {size : Nat} (hc : Custody own k hs)
    (hmakes : Makes mode size h k k') {header : Header} (hmode : header.mode = mode)
    (hvalid : validSize header.size = true) (hsize : header.size ≤ size) :
    Custody own k' (⟨h, some header⟩ :: hs) := by
  refine cons_iff.mpr ⟨⟨hmakes.nodup, fun d hd => ⟨_, hmakes.refers d hd⟩,
    fun _ => ⟨_, hmakes.refers⟩, ?_⟩, fun y hy => ⟨disjoint_of_fresh hc hmakes.shift hy, ?_⟩,
    hc.quiet hmakes.shift⟩
  · rintro _ ⟨⟩
    refine ⟨hvalid, _, hmode ▸ hmakes.grants, fun _ => ?_⟩
    rw [hmakes.length]
    exact hsize
  · intro o hg hgy
    obtain rfl := (hmakes.refers _ (descriptor_mem h)).object_eq hg.refers
    have hsound := (hc.each y hy).sound
    have hlt := (hgy.of_shift hsound hmakes.shift fun _ _ => List.not_mem_nil).refers.lt
    exact Nat.lt_irrefl _ hlt

theorem copies {copy : H} (hc : Custody own k hs) (hx : Kept own k x)
    (hreader : ∀ o, ¬ Grants k x.handle o .writable)
    (hshift : Shift [] (descriptors copy) [] k k') (hnodup : (descriptors copy).Nodup)
    (hcopies : Copies k x.handle k' copy) :
    Custody own k' (⟨copy, x.header⟩ :: hs) := by
  have hgrants : ∀ {o mode}, Grants k' copy o mode ↔ Grants k x.handle o mode :=
    hcopies.grants_iff hshift hx.sound
  refine cons_iff.mpr ⟨⟨hnodup, hcopies.sound hshift hx.sound,
    fun hw => hcopies.whole hshift (hx.whole hw), fun header hheader => ?_⟩,
    fun y hy => ⟨disjoint_of_fresh hc hshift hy, fun o hg => ?_⟩, hc.quiet hshift⟩
  · obtain ⟨hvalid, o, hg, hlength⟩ := hx.label header hheader
    refine ⟨hvalid, o, hgrants.mpr hg, fun hw => ?_⟩
    rw [(hshift.sealing o hg.refers.lt).length]
    exact hlength hw
  · exact absurd (hgrants.mp hg) (hreader o)

theorem turns {h h' : H} {header : Option Header} {o : ObjectId} {goal : Mode}
    (hc : Custody own k (⟨h, header⟩ :: hs)) (hg : Grants k h o .writable)
    (ht : Turns goal h h' o k k') (hgoal : goal ≠ .writable) :
    Custody own k' (⟨h', header.map fun header => { header with mode := goal }⟩ :: hs) := by
  obtain ⟨hx, hapart, hrest⟩ := cons_iff.mp hc
  obtain ⟨gone, touched, hshift, hclosed, htouched, hnodup, hstays⟩ := ht.stays hx.nodup
  refine cons_iff.mpr ⟨⟨hnodup, fun d hd => ?_, fun hw => ?_, fun header' hheader => ?_⟩,
    fun y hy => ⟨fun d hd => (hapart y hy).disjoint d (hstays d hd).1, fun o₁ hw => ?_⟩, ?_⟩
  · obtain ⟨o₁, hr⟩ := hx.sound d (hstays d hd).1
    exact ⟨o₁, hr.shift hshift (hstays d hd).2⟩
  · obtain ⟨o₁, hr⟩ := hx.whole hw
    exact ⟨o₁, fun d hd => (hr d (hstays d hd).1).shift hshift (hstays d hd).2⟩
  · obtain ⟨header, rfl, rfl⟩ := Option.map_eq_some_iff.mp hheader
    obtain ⟨hvalid, o₁, hg₁, hlength⟩ := hx.label header rfl
    obtain ⟨o', hg'⟩ := ht.grants
    refine ⟨hvalid, o', hg', fun hw => ?_⟩
    obtain rfl : o' = o :=
      hg'.refers.object_eq (ht.grants_of_whole hx.nodup (hx.whole hw) hg).refers
    obtain rfl := hg₁.refers.object_eq hg.refers
    rw [(hshift.sealing o₁ hg.refers.lt).length]
    exact hlength hw
  · obtain ⟨o', hg'⟩ := ht.grants
    exact absurd (hw.mode_eq hg') (Ne.symm hgoal)
  · exact hrest.shift hshift
      (fun y hy d hd hdg => (hapart y hy).disjoint d (hclosed d hdg) hd)
      fun y hy t ht hgy => (hapart y hy).writers t (htouched t ht ▸ hg) hgy

end Custody

end SharedMemory

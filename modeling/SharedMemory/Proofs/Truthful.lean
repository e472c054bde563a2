import SharedMemory.Backing.DescriptorPair
import SharedMemory.Proofs.Backing.DescriptorPair
import SharedMemory.Proofs.Backing.SealedFile
import SharedMemory.Proofs.Session.Steps
/-!
# Regions tell the truth

The mode of a region is only bookkeeping, while the rights are in the kernel: in the seals of the
object, which all handles of it share, or in the access of the descriptors. Still the two agree in
every session that starts with nothing in use, whatever steps it takes.
-/
namespace SharedMemory

namespace Kernel

/-- The kernel with another plan of refusals. -/
def planned (k : Kernel) (refusal : List Event → Call → Option Errno) : Kernel :=
  { k with refusal }

/-- The kernel that turns nothing down for reasons of its own. -/
def unplanned (k : Kernel) : Kernel := k.planned fun _ _ => none

theorem fits_planned {k : Kernel} {refusal : List Event → Call → Option Errno}
    {offset length : Nat} : (k.planned refusal).Fits offset length ↔ k.Fits offset length :=
  ⟨fun h => ⟨h.aligned, h.pos, h.free, h.reach⟩, fun h => ⟨h.aligned, h.pos, h.free, h.reach⟩⟩

theorem obliging_unplanned (k : Kernel) : k.unplanned.Obliging := fun _ _ => rfl

end Kernel

open Kernel Backing

variable {H : Type} [Backing H]

/-- What is said of a handle is what the kernel does with it. The kernel may turn down any call by
its plan, so what must succeed does so where there is no plan. -/
structure Agrees (k : Kernel) (h : H) (header : Header) : Prop where
  pos : 1 ≤ header.size
  le : header.size ≤ maxRegionSize
  length : ∃ length, k.lengthOf? (descriptor h) = some length ∧ header.size ≤ length
  checked : ∀ s : System, s.kernel = k.unplanned → ∀ mode,
    ((corresponds h mode header.size).run s).1 = decide (mode = header.mode)
  unmistaken : ∀ s : System, ∀ plan, s.kernel = k.planned plan → ∀ mode,
    ((corresponds h mode header.size).run s).1 = true → mode = header.mode
  refused : header.mode = .readOnly → ∀ d ∈ descriptors h, ∀ offset length p, p.write = true →
    ∀ plan, (map d offset length p (k.planned plan)).1 = none
  admitted : header.mode ≠ .readOnly → ∀ offset length p, k.Fits offset length →
    ∃ id, (map (descriptor h) offset length p k.unplanned).1 = some id

/-- A region is valid if it has bytes, and then it agrees with the kernel. -/
structure Region.Truthful (k : Kernel) (r : Region H) : Prop where
  valid_iff : r.isValid = true ↔ 0 < r.size
  agrees : ∀ h, r.handle = some h → Agrees k h r.header

variable [Rights H] {own : Prop} {k : Kernel} {h : H} {header : Header}

theorem Kept.planned {x : Holding H} (hx : Kept own k x)
    (plan : List Event → Call → Option Errno) : Kept own (k.planned plan) x :=
  ⟨hx.nodup, hx.sound, hx.whole, hx.label⟩

variable [LawfulBacking H]

private theorem refused_of_kept (hk : Kept own k ⟨h, some header⟩) (hmode : header.mode = .readOnly)
    {d : Descriptor} (hd : d ∈ descriptors h) {offset length : Nat} {p : Protection}
    (hp : p.write = true) (hwhole : Whole k h) : (map d offset length p k).1 = none := by
  cases hmap : map d offset length p k with
  | mk outcome k' =>
    cases outcome with
    | none => rfl
    | some id =>
      exfalso
      obtain ⟨file, hfile, -, hpermits, -, -⟩ := map_some hmap
      obtain ⟨haccess, hblocks⟩ := hpermits.write hp
      obtain ⟨-, o, ⟨access, hmapped, -, hadmits⟩, -⟩ := hk.label _ rfl
      obtain ⟨o', hrefers⟩ := hwhole
      -- All descriptors refer to the object that the grant is about.
      obtain rfl : o' = o := by
        obtain ⟨access', hfile'⟩ := (hrefers _ (descriptor_mem h)).1
        exact congrArg OpenFile.object (Option.some.inj (hfile'.symm.trans hmapped))
      obtain ⟨access', hfile'⟩ := (hrefers d hd).1
      obtain rfl := Option.some.inj (hfile.symm.trans hfile')
      rw [hmode] at hadmits
      rcases LawfulBacking.blocked hadmits with ⟨hne, hne'⟩ | hsealed
      · rcases List.mem_cons.mp hd with rfl | hreserve
        · obtain rfl := (OpenFile.mk.inj (Option.some.inj (hfile.symm.trans hmapped))).2
          exact hne haccess
        · rw [Option.mem_toList.mp hreserve, Option.bind_some, accessOf?, hfile] at hne'
          exact hne' (congrArg some haccess)
      · rw [hsealed] at hblocks
        cases hblocks

private theorem agrees_of_kept (hk : Kept True k ⟨h, some header⟩) : Agrees k h header := by
  obtain ⟨hvalid, o, hg, hlength⟩ := hk.label _ rfl
  have hvalid := validSize_iff.mp hvalid
  have hlength := hlength trivial
  have hmode : ∀ {k' : Kernel} {mode}, GrantsBytes k' h mode header.size →
      Kept True k' ⟨h, some header⟩ → mode = header.mode := by
    rintro k' mode ⟨o', hg', -⟩ hk'
    obtain ⟨-, o₁, hg₁, -⟩ := hk'.label _ rfl
    exact hg'.mode_eq hg₁
  refine ⟨hvalid.1, hvalid.2, ?_, ?_, ?_, ?_, ?_⟩
  · obtain ⟨access, hfile, -⟩ := hg
    exact ⟨_, by rw [lengthOf?, hfile, Option.bind_some], hlength⟩
  · intro s hs mode
    have hk' := hk.planned fun _ _ => none
    have hcheck := LawfulBacking.corresponds_yields h mode header.size _ hk'.sound s hs
    obtain ⟨-, hsound, hcomplete⟩ := hcheck
    rw [Bool.eq_iff_iff, decide_eq_true_eq]
    refine ⟨fun htrue => hmode (hsound htrue) hk', ?_⟩
    rintro rfl
    exact hcomplete (obliging_unplanned k).candid ⟨o, hg, hlength⟩
  · intro s plan hs mode htrue
    have hk' := hk.planned plan
    have hcheck := LawfulBacking.corresponds_yields h mode header.size _ hk'.sound s hs
    exact hmode (hcheck.2.1 htrue) hk'
  · intro hreadOnly d hd offset length p hp plan
    have hk' := hk.planned plan
    exact refused_of_kept hk' hreadOnly hd hp (hk'.whole trivial)
  · intro hother offset length p hfits
    obtain ⟨access, hfile, hfit, hadmits⟩ := hg
    obtain ⟨rfl, hblocks⟩ := LawfulBacking.mappable hfit hother hadmits
    have hpermits : k.unplanned.Permits p ⟨o, .readWrite⟩ :=
      ⟨LawfulBacking.memory_of_fit hfit, rfl, fun _ => ⟨rfl, hblocks⟩⟩
    obtain ⟨k', hmap, -⟩ := map_of_permits (d := descriptor h) (obliging_unplanned k)
      (fits_planned.mpr hfits) hfile hpermits
    exact ⟨_, by rw [hmap]⟩

namespace Session

variable {loose : Slots Descriptor} {hand : List (Holding H)} {s : Session H}

private theorem InCustody.truthful (hs : InCustody True loose hand s) {name : String} {r : Region H}
    (hr : s.regions.get? name = some r) : r.Truthful s.system.kernel := by
  have hmem := Slots.mem_values_of_get? hr
  have hagrees : ∀ h, r.handle = some h → Agrees s.system.kernel h r.header := by
    intro h hhandle
    refine agrees_of_kept (hs.custody.each _ (List.mem_append_left _ (List.mem_append_left _ ?_)))
    refine List.mem_flatMap.mpr ⟨r, hmem, ?_⟩
    rw [Region.holdings_of_some hhandle]
    exact List.mem_singleton_self _
  refine ⟨?_, hagrees⟩
  cases hhandle : r.handle with
  | none =>
    rw [hs.tidy r hmem hhandle, Region.isValid, hhandle]
    exact ⟨nofun, nofun⟩
  | some h =>
    rw [Region.isValid, hhandle]
    exact ⟨fun _ => (hagrees h hhandle).pos, fun _ => rfl⟩

/-- In every session that starts with nothing in use, whatever plan the kernel has and whatever
random numbers are drawn, all regions tell the truth after all steps. -/
theorem regions_truthful :
    (∀ (s : Session SealedFile) (steps : List Step), s.regions = .empty → s.handles = .empty →
      ∀ name r, (s.runSteps steps).regions.get? name = some r →
        r.Truthful (s.runSteps steps).system.kernel) ∧
    (∀ (s : Session DescriptorPair) (steps : List Step), s.regions = .empty → s.handles = .empty →
      ∀ name r, (s.runSteps steps).regions.get? name = some r →
        r.Truthful (s.runSteps steps).system.kernel) :=
  ⟨fun _ steps hregions hhandles _ _ hr =>
      ((inCustody_of_empty hregions hhandles).steps steps).truthful hr,
    fun _ steps hregions hhandles _ _ hr =>
      ((inCustody_of_empty hregions hhandles).steps steps).truthful hr⟩

/-- A writable region is made read-only and copied. -/
def copySteps : List Step :=
  [.create .writable 100 .host "first", .convert "first" .readOnly, .duplicate "first" "second"]

theorem regions_truthful_of_copy :
    (∃ r, (({} : Session SealedFile).runSteps copySteps).regions.get? "second" = some r ∧
      r.isValid = true ∧
      r.Truthful (({} : Session SealedFile).runSteps copySteps).system.kernel) ∧
    (∃ r, (({} : Session DescriptorPair).runSteps copySteps).regions.get? "second" = some r ∧
      r.isValid = true ∧
      r.Truthful (({} : Session DescriptorPair).runSteps copySteps).system.kernel) := by
  refine ⟨⟨_, rfl, rfl, ?_⟩, ⟨_, rfl, rfl, ?_⟩⟩
  · exact regions_truthful.1 {} copySteps rfl rfl "second" _ rfl
  · exact regions_truthful.2 {} copySteps rfl rfl "second" _ rfl

end Session

end SharedMemory

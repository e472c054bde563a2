import SharedMemory.Proofs.Layout
import SharedMemory.Proofs.Session.Readers
import SharedMemory.Proofs.Truthful
/-!
# Requests for windows

What a request for bytes of a region comes to is decided step by step: by the region, by the size,
by the bounds of the region, and at last by the kernel, which is asked for the bytes from a
multiple of the granularity on. No sum on the way leaves a word. A kernel that refuses only what it
must grants the mapping if it starts at a hardware page, whatever has been done with the region.
-/
namespace SharedMemory

open Kernel Backing

/-- The native range for the bytes from `offset` to `offset + size`: it starts at the last multiple
of the granularity that is not above them, and it ends where they end. -/
structure Layout.Covers (l : Layout) (offset size start length : Nat) : Prop where
  multiple : l.granularity ∣ start
  le : start ≤ offset
  greatest : ∀ m, l.granularity ∣ m → m ≤ offset → m ≤ start
  length_eq : length = size + (offset - start)
  ends : start + length = offset + size
  word : length < UInt64.size
  signed : start ≤ maxPosition

theorem Layout.covers (l : Layout) {offset size total : Nat} (hrange : offset + size ≤ total)
    (htotal : total ≤ maxRegionSize) :
    l.Covers offset size (l.alignDown offset) (size + (offset - l.alignDown offset)) where
  multiple := l.granularity_dvd_alignDown offset
  le := l.alignDown_le offset
  greatest _ := le_alignDown
  length_eq := rfl
  ends := by
    have hle := l.alignDown_le offset
    omega
  word := by
    simp only [maxRegionSize, UInt64.size] at *
    omega
  signed := l.alignDown_le_maxPosition (Nat.le_of_add_right_le hrange) htotal

theorem Layout.Covers.unique {l : Layout} {offset size start start' length length' : Nat}
    (h : l.Covers offset size start length) (h' : l.Covers offset size start' length') :
    start = start' ∧ length = length' := by
  have hstart : start = start' := Nat.le_antisymm (h'.greatest start h.multiple h.le)
    (h.greatest start' h'.multiple h'.le)
  refine ⟨hstart, ?_⟩
  rw [h.length_eq, h'.length_eq, hstart]

namespace Window

variable {H : Type} [Backing H]

/-- A request for bytes of a region whose bytes are there: the kernel is asked for the native range
`start`, `length`, and the answer is its answer. The layout is the one that is given, or that of
the host. -/
structure Asks (r : Region H) (h : H) (offset size : Nat) (given : Option Layout)
    (s : System) (start length : Nat) : Prop where
  covers : (given.getD s.kernel.layout).Covers offset size start length
  granted : ∀ id k', Kernel.map (descriptor h) start length (.ofMode r.mode) s.kernel =
    (some id, k') → (ofRequest { region := some r, offset, size, layout := given }).run s =
      (.ok ⟨id, offset - start, size, .ofMode r.mode⟩, { s with kernel := k' })
  refused : ∀ k', Kernel.map (descriptor h) start length (.ofMode r.mode) s.kernel = (none, k') →
    (ofRequest { region := some r, offset, size, layout := given }).run s =
      (.error (.systemCallFailed k'.lastError), { s with kernel := k' })
  granted_iff : s.kernel.Obliging →
    ((∃ w, ((ofRequest { region := some r, offset, size, layout := given }).run s).1 = .ok w) ↔
      start % s.kernel.pageSize = 0)
  misplaced : s.kernel.Obliging → start % s.kernel.pageSize ≠ 0 →
    ((ofRequest { region := some r, offset, size, layout := given }).run s).1 =
      .error (.systemCallFailed .invalidArgument)

/-- How a request for bytes of a region is decided, in this order. -/
structure Decided (r : Region H) (offset size : Nat) (given : Option Layout) (s : System) :
    Prop where
  invalid : r.handle = none →
    (ofRequest { region := some r, offset, size, layout := given }).run s =
      (.error .invalidRegion, s)
  empty : r.isValid = true → size = 0 →
    (ofRequest { region := some r, offset, size, layout := given }).run s =
      (.error .invalidArgument, s)
  outside : r.isValid = true → 0 < size → r.size < offset + size →
    (ofRequest { region := some r, offset, size, layout := given }).run s =
      (.error (.invalidRange offset size r.size), s)
  asks : ∀ h, r.handle = some h → 0 < size → offset + size ≤ r.size →
    ∃ start length, Asks r h offset size given s start length
  coarse : r.isValid = true → 0 < size → offset + size ≤ r.size → s.kernel.Obliging →
    s.kernel.pageSize ≤ (given.getD s.kernel.layout).granularity →
      ∃ w, ((ofRequest { region := some r, offset, size, layout := given }).run s).1 = .ok w
  no_invalidOffset :
    ((ofRequest { region := some r, offset, size, layout := given }).run s).1 ≠
      .error .invalidOffset

section

variable {r : Region H} {h : H} {offset size : Nat} {given : Option Layout} {layout : Layout}
  {s : System}

private theorem run_invalid (hhandle : r.handle = none) :
    (ofRequest { region := some r, offset, size, layout := given }).run s =
      (.error .invalidRegion, s) := by
  simp only [ofRequest, hhandle]
  rfl

private theorem run_empty (hhandle : r.handle = some h) :
    (ofRequest { region := some r, offset, size := 0, layout := given }).run s =
      (.error .invalidArgument, s) := by
  simp only [ofRequest, hhandle, if_pos]
  rfl

private theorem run_outside (hhandle : r.handle = some h) (hpos : 0 < size)
    (hrange : r.size < offset + size) :
    (ofRequest { region := some r, offset, size, layout := given }).run s =
      (.error (.invalidRange offset size r.size), s) := by
  have hbeyond : ¬ rangeWithin offset size r.size = true := fun hwithin =>
    Nat.not_le.mpr hrange (of_decide_eq_true hwithin)
  simp only [ofRequest, hhandle, if_neg (Nat.ne_of_gt hpos), if_pos hbeyond]
  rfl

/-- The kernel refuses a mapping of a region only if it starts at no page. -/
theorem asks_of_permits (hlayout : given.getD s.kernel.layout = layout)
    (hhandle : r.handle = some h) (hpos : 0 < size) (hrange : offset + size ≤ r.size)
    (hsmall : r.size ≤ maxRegionSize) {file : OpenFile}
    (hfile : s.kernel.file? (descriptor h) = some file)
    (hpermits : s.kernel.Permits (.ofMode r.mode) file) :
    Asks r h offset size given s (layout.alignDown offset)
      (size + (offset - layout.alignDown offset)) := by
  have hmisplaced : s.kernel.Obliging → layout.alignDown offset % s.kernel.pageSize ≠ 0 →
      ((ofRequest { region := some r, offset, size, layout := given }).run s).1 =
        .error (.systemCallFailed .invalidArgument) := by
    intro ho hstart
    obtain ⟨k', hmap, -, herror⟩ := map_unaligned ho (descriptor h)
      (size + (offset - layout.alignDown offset)) (.ofMode r.mode) hstart
    rw [ofRequest_of_refused hlayout hhandle hpos hrange hsmall hmap, herror]
  refine ⟨hlayout ▸ layout.covers hrange hsmall,
    fun _ _ hmap => ofRequest_of_granted hlayout hhandle hpos hrange hsmall hmap,
    fun _ hmap => ofRequest_of_refused hlayout hhandle hpos hrange hsmall hmap,
    fun ho => ⟨?_, ?_⟩, hmisplaced⟩
  · rintro ⟨w, hw⟩
    by_contra hstart
    rw [hmisplaced ho hstart] at hw
    cases hw
  · intro hstart
    have hsum := Nat.add_sub_of_le (layout.alignDown_le offset)
    have hwithin : layout.alignDown offset + (offset - layout.alignDown offset) + size ≤
        r.size := hsum.symm ▸ hrange
    have hfits := fits_of_within (Nat.ne_of_gt hpos) hwithin hsmall hstart
    obtain ⟨k', hmap, -⟩ := map_of_permits ho hfits hfile hpermits
    exact ⟨_, by rw [ofRequest_of_granted hlayout hhandle hpos hrange hsmall hmap]⟩

/-- Where the kernel permits what the mode of a region stands for, requests are decided by the
numbers. -/
private theorem decided_of_permits (hsmall : r.size ≤ maxRegionSize)
    (hpermits : ∀ h, r.handle = some h → ∃ file, s.kernel.file? (descriptor h) = some file ∧
      s.kernel.Permits (.ofMode r.mode) file) : Decided r offset size given s := by
  obtain ⟨layout, hlayout⟩ : ∃ layout, given.getD s.kernel.layout = layout := ⟨_, rfl⟩
  have hasks : ∀ h, r.handle = some h → 0 < size → offset + size ≤ r.size →
      Asks r h offset size given s (layout.alignDown offset)
        (size + (offset - layout.alignDown offset)) := by
    intro h hhandle hpos hrange
    obtain ⟨file, hfile, hpermits⟩ := hpermits h hhandle
    exact asks_of_permits hlayout hhandle hpos hrange hsmall hfile hpermits
  refine ⟨run_invalid, ?_, ?_, fun h hhandle hpos hrange => ⟨_, _, hasks h hhandle hpos hrange⟩,
    ?_, ?_⟩
  · rintro hvalid rfl
    obtain ⟨h, hhandle⟩ := Option.isSome_iff_exists.mp hvalid
    exact run_empty hhandle
  · intro hvalid hpos hrange
    obtain ⟨h, hhandle⟩ := Option.isSome_iff_exists.mp hvalid
    exact run_outside hhandle hpos hrange
  · intro hvalid hpos hrange ho hcoarse
    obtain ⟨h, hhandle⟩ := Option.isSome_iff_exists.mp hvalid
    rw [hlayout, pageSize_eq] at hcoarse
    have hbits : s.kernel.pageBits.val ≤ layout.granularityBits.val :=
      Layout.two_pow_le_granularity_iff.mp hcoarse
    refine ((hasks h hhandle hpos hrange).granted_iff ho).mpr ?_
    rw [pageSize_eq]
    exact Layout.alignDown_mod hbits offset
  · cases hhandle : r.handle with
    | none =>
      rw [run_invalid hhandle]
      nofun
    | some h =>
      rcases Nat.eq_zero_or_pos size with rfl | hpos
      · rw [run_empty hhandle]
        nofun
      · rcases Nat.lt_or_ge r.size (offset + size) with hbeyond | hrange
        · rw [run_outside hhandle hpos hbeyond]
          nofun
        · have hask := hasks h hhandle hpos hrange
          cases hmap : Kernel.map (descriptor h) (layout.alignDown offset)
              (size + (offset - layout.alignDown offset)) (.ofMode r.mode) s.kernel with
          | mk outcome k' =>
            cases outcome with
            | none =>
              rw [hask.refused k' hmap]
              nofun
            | some id =>
              rw [hask.granted id k' hmap]
              nofun

end

end Window

namespace Session

open Window

section

variable {H : Type} [Backing H] [Rights H] [LawfulBacking H] [CompleteBacking H]
  [RetainingBacking H] [ThriftyBacking H]

private theorem decided_of_runSteps {start : Session H} (hstart : start.OwnsNothing)
    (steps : List Step)
    {name : String} {r : Region H} (hr : (start.runSteps steps).regions.get? name = some r)
    (offset size : Nat) (given : Option Layout) {s : System}
    {plan : List Event → Call → Option Errno}
    (hs : s.kernel = (start.runSteps steps).system.kernel.planned plan) :
    Decided r offset size given s := by
  have hcustody : InCustody True start.loose [] (start.runSteps steps) :=
    (inCustody_of_empty hstart.regions hstart.handles).steps steps
  refine decided_of_permits ?_ ?_
  · cases hhandle : r.handle with
    | none =>
      rw [hcustody.tidy r (Slots.mem_values_of_get? hr) hhandle]
      exact Nat.zero_le _
    | some h =>
      obtain ⟨hvalid, -⟩ := (hcustody.kept hr hhandle).label _ rfl
      exact (validSize_iff.mp hvalid).2
  · intro h hhandle
    obtain ⟨-, o, hgrants, -⟩ := (hcustody.kept hr hhandle).label _ rfl
    obtain ⟨access, hfile, hpermits⟩ :=
      hgrants.permits (readable_of_runSteps hstart steps hr hhandle)
    rw [hs]
    exact ⟨_, hfile, hpermits.kind, hpermits.read, hpermits.write⟩

end

/-- In a session that owned nothing at the start, requests for bytes of a region are decided by the
numbers, whatever steps have been taken and whatever the kernel has refused. -/
theorem requests_decided :
    (∀ (start : Session SealedFile) (steps : List Step) (name : String) (r : Region SealedFile),
      start.OwnsNothing → (start.runSteps steps).regions.get? name = some r →
        ∀ (offset size : Nat) (given : Option Layout) (plan : List Event → Call → Option Errno)
          (s : System), s.kernel = (start.runSteps steps).system.kernel.planned plan →
            Decided r offset size given s) ∧
    (∀ (start : Session DescriptorPair) (steps : List Step) (name : String)
      (r : Region DescriptorPair),
      start.OwnsNothing → (start.runSteps steps).regions.get? name = some r →
        ∀ (offset size : Nat) (given : Option Layout) (plan : List Event → Call → Option Errno)
          (s : System), s.kernel = (start.runSteps steps).system.kernel.planned plan →
            Decided r offset size given s) :=
  ⟨fun _ steps _ _ hstart hr offset size given _ _ hs =>
      decided_of_runSteps hstart steps hr offset size given hs,
    fun _ steps _ _ hstart hr offset size given _ _ hs =>
      decided_of_runSteps hstart steps hr offset size given hs⟩

/-- The finest layout. A mapping may start at any byte of it, but hardware pages are coarser. -/
def bytewise : Layout :=
  ⟨⟨0, Nat.zero_lt_succ 63⟩, ⟨0, Nat.zero_lt_succ 63⟩, Nat.le_refl 0⟩

/-- A region of 10000 bytes is made. -/
def wideSteps : List Step := [.create .writable 10000 .host "region"]

/-- A hundred bytes in the second page of a region can be asked for by pages, and not by bytes. The
last byte asked for must be one of the region. -/
theorem requests_decided_of_created :
    (∃ r, (({} : Session SealedFile).runSteps wideSteps).regions.get? "region" = some r ∧
      (∃ w, ((ofRequest { region := some r, offset := 5000, size := 100 }).run
        (({} : Session SealedFile).runSteps wideSteps).system).1 = .ok w) ∧
      ((ofRequest { region := some r, offset := 5000, size := 100, layout := bytewise }).run
        (({} : Session SealedFile).runSteps wideSteps).system).1 =
          .error (.systemCallFailed .invalidArgument)) ∧
    (∃ r, (({} : Session DescriptorPair).runSteps wideSteps).regions.get? "region" = some r ∧
      ((ofRequest { region := some r, offset := 9000, size := 1001 }).run
        (({} : Session DescriptorPair).runSteps wideSteps).system).1 =
          .error (.invalidRange 9000 1001 10000)) := by
  obtain ⟨r, hr, hvalid, hsize⟩ : ∃ r, (({} : Session SealedFile).runSteps wideSteps).regions.get?
      "region" = some r ∧ r.isValid = true ∧ r.size = 10000 := ⟨_, rfl, rfl, rfl⟩
  obtain ⟨r', hr', hvalid', hsize'⟩ : ∃ r, (({} : Session DescriptorPair).runSteps
      wideSteps).regions.get? "region" = some r ∧ r.isValid = true ∧ r.size = 10000 :=
    ⟨_, rfl, rfl, rfl⟩
  have hplan : (({} : Session SealedFile).runSteps wideSteps).system.kernel.Obliging :=
    fun _ _ => rfl
  obtain ⟨h, hhandle⟩ := Option.isSome_iff_exists.mp hvalid
  have hwithin : 5000 + 100 ≤ r.size := by
    rw [hsize]
    decide
  refine ⟨⟨r, hr, ?_, ?_⟩, ⟨r', hr', ?_⟩⟩
  · have hdecided := requests_decided.1 {} wideSteps "region" r ⟨rfl, rfl, rfl⟩ hr 5000 100 none _
      (({} : Session SealedFile).runSteps wideSteps).system rfl
    exact hdecided.coarse hvalid (by decide) hwithin hplan (by decide)
  · have hdecided := requests_decided.1 {} wideSteps "region" r ⟨rfl, rfl, rfl⟩ hr 5000 100
      (some bytewise) _ (({} : Session SealedFile).runSteps wideSteps).system rfl
    obtain ⟨start, length, hasks⟩ := hdecided.asks h hhandle (by decide) hwithin
    have hcovers : bytewise.Covers 5000 100 5000 100 :=
      bytewise.covers hwithin (Nat.le_trans (Nat.le_of_eq hsize) (by decide))
    obtain ⟨rfl, -⟩ := hasks.covers.unique hcovers
    exact hasks.misplaced hplan (by decide)
  · have hdecided := requests_decided.2 {} wideSteps "region" r' ⟨rfl, rfl, rfl⟩ hr' 9000 1001 none
      _ (({} : Session DescriptorPair).runSteps wideSteps).system rfl
    have hbeyond : r'.size < 9000 + 1001 := by
      rw [hsize']
      decide
    rw [hdecided.outside hvalid' (by decide) hbeyond, hsize']

end Session

end SharedMemory

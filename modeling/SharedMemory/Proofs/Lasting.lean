import SharedMemory.Proofs.Layout
import SharedMemory.Proofs.Session.Dealings
import SharedMemory.Proofs.Session.Objects
import SharedMemory.Proofs.Truthful
import SharedMemory.Proofs.Window
/-!
# Memory that lasts

The object of a region that a session has made keeps the length it was made with, whatever is done
with any descriptor of it. Once its seal set is closed, by its creation as a shared region or by a
conversion, nobody can take the possibility of mapping it for reading and writing away. A
conversion to shared closes the set as it is: where somebody has kept writes away before, it stays
so.
-/
namespace SharedMemory

open Kernel

namespace Session

/-- From a session on, whatever dealings follow, an object has `n` bytes. What a check makes of a
size comes from this number alone. -/
structure KeepsLength (s : Session SealedFile) (o : ObjectId) (n : Nat) : Prop where
  length (dealings : List Dealing) : ((s.runDealings dealings).system.kernel.object o).length = n
  checked (dealings : List Dealing) (h : SealedFile) (mode : Mode) (size : Nat) :
    (s.runDealings dealings).system.kernel.objectOf? h.fd = some o →
      ((h.corresponds mode size).run (s.runDealings dealings).system).1 =
        (decide (size ≤ n) && ((h.corresponds mode 0).run (s.runDealings dealings).system).1)

/-- From a session on, whatever dealings follow, the seals of an object stay as they are, and with
them the answer to who asks to map it for reading and writing: through any descriptor for both it
is granted, unless a seal keeps writes away. -/
structure Settled (s : Session SealedFile) (o : ObjectId) : Prop where
  seals (dealings : List Dealing) :
    ((s.runDealings dealings).system.kernel.object o).seals = (s.system.kernel.object o).seals
  maps (dealings : List Dealing) {d : Descriptor} {offset length : Nat} :
    (s.runDealings dealings).system.kernel.file? d = some ⟨o, .readWrite⟩ →
      (s.runDealings dealings).system.kernel.Fits offset length →
        ((∃ id, (Kernel.map d offset length .readWrite
            (s.runDealings dealings).system.kernel.unplanned).1 = some id) ↔
          (s.system.kernel.object o).seals.blocksWrites = false)
  windows (dealings : List Dealing) {r : Region SealedFile} {h : SealedFile} {offset size : Nat}
      {given : Option Layout} {system : System} :
    r.handle = some h → r.mode ≠ .readOnly → r.size ≤ maxRegionSize →
      (s.runDealings dealings).system.kernel.file? h.fd = some ⟨o, .readWrite⟩ →
      0 < size → offset + size ≤ r.size →
      system.kernel = (s.runDealings dealings).system.kernel.unplanned →
      (given.getD system.kernel.layout).alignDown offset % system.kernel.pageSize = 0 →
        ((∃ w, ((Window.ofRequest { region := some r, offset, size, layout := given }).run
            system).1 = .ok w) ↔
          (s.system.kernel.object o).seals.blocksWrites = false)

variable {s : Session SealedFile} {o : ObjectId}

private theorem keepsLength_of_sealed (hkind : (s.system.kernel.object o).kind = .memory)
    (hshrink : (s.system.kernel.object o).seals.shrink = true)
    (hgrow : (s.system.kernel.object o).seals.grow = true) :
    KeepsLength s o (s.system.kernel.object o).length := by
  have hlength : ∀ dealings, ((s.runDealings dealings).system.kernel.object o).length =
      (s.system.kernel.object o).length := by
    intro dealings
    exact ((runDealings_reaches s dealings).evolves hkind).length hshrink hgrow
  refine ⟨hlength, ?_⟩
  intro dealings h mode size hobject
  obtain ⟨file, hfile, rfl⟩ := Option.map_eq_some_iff.mp hobject
  have hmeasured : (s.runDealings dealings).system.kernel.lengthOf? h.fd =
      some ((s.runDealings dealings).system.kernel.object file.object).length := by
    rw [lengthOf?, hfile, Option.bind_some]
  rw [← hlength dealings]
  exact h.corresponds_size mode size hmeasured

private theorem settled_of_closed (hkind : (s.system.kernel.object o).kind = .memory)
    (hclosed : (s.system.kernel.object o).seals.closed = true) : Settled s o := by
  have hlater : ∀ dealings, (s.system.kernel.object o).Evolves
      ((s.runDealings dealings).system.kernel.object o) := by
    intro dealings
    exact (runDealings_reaches s dealings).evolves hkind
  have hmaps : ∀ (dealings : List Dealing) {d : Descriptor} {offset length : Nat},
      (s.runDealings dealings).system.kernel.file? d = some ⟨o, .readWrite⟩ →
        (s.runDealings dealings).system.kernel.Fits offset length →
        ((∃ id, (Kernel.map d offset length .readWrite
            (s.runDealings dealings).system.kernel.unplanned).1 = some id) ↔
          (s.system.kernel.object o).seals.blocksWrites = false) := by
    intro dealings d offset length hfile hfits
    have hseals := (hlater dealings).closed hclosed
    rw [map_granted_iff (obliging_unplanned _)]
    constructor
    · rintro ⟨-, file, hfile', hpermits⟩
      obtain rfl : file = ⟨o, .readWrite⟩ := Option.some.inj (hfile'.symm.trans hfile)
      exact hseals ▸ (hpermits.write rfl).2
    · intro hblocks
      refine ⟨fits_planned.mpr hfits, ⟨o, .readWrite⟩, hfile, (hlater dealings).kind.trans hkind,
        rfl, fun _ => ?_⟩
      exact ⟨rfl, (congrArg Seals.blocksWrites hseals).trans hblocks⟩
  refine ⟨fun dealings => (hlater dealings).closed hclosed, hmaps, ?_⟩
  intro dealings r h offset size given system hhandle hmode hsmall hfile hpos hrange hsystem hpage
  obtain ⟨layout, hlayout⟩ : ∃ layout, given.getD system.kernel.layout = layout := ⟨_, rfl⟩
  rw [Window.ofRequest_granted_iff hlayout hhandle hpos hrange hsmall,
    Protection.ofMode_of_ne hmode]
  rw [hlayout, hsystem] at hpage
  have hwithin : layout.alignDown offset + (offset - layout.alignDown offset) + size ≤ r.size := by
    have hle := layout.alignDown_le offset
    omega
  have hfits := fits_of_within (Nat.ne_of_gt hpos) hwithin hsmall hpage
  rw [hsystem]
  exact hmaps dealings hfile (fits_planned.mp hfits)

/-- The object of a region that was made writable or shared keeps its length for ever. From the
moment when it was made shared, or a region of it was converted to shared, its seals stay too, and
a mapping for reading and writing is granted for ever or never, as it is at that moment. An object
that was made shared is of the first kind. -/
theorem created_lasts {s₀ s₁ : Session SealedFile} {mode : Mode} {size : Nat} {layout : Layout}
    {dest : String} {made : RegionView} {o : ObjectId}
    (hmake : (create mode size layout dest none).run.run s₀ = (some (.ok made), s₁))
    (hmade : s₁.objectUnder? dest = some o) :
    ∃ allocated, layout.roundUp? size = some allocated ∧ KeepsLength s₁ o allocated ∧
      (mode = .shared → Settled s₁ o ∧ (s₁.system.kernel.object o).seals.blocksWrites = false) ∧
      ∀ (before : List Dealing) (name : String) (left : RegionView) (s₃ : Session SealedFile),
        (s₁.runDealings before).objectUnder? name = some o →
        (convert name Region.toShared none).run.run (s₁.runDealings before) =
          (some (.ok (), left), s₃) →
        Settled s₃ o ∧ (s₃.system.kernel.object o).seals.blocksWrites =
          ((s₁.runDealings before).system.kernel.object o).seals.blocksWrites := by
  obtain ⟨hkind, hseals, hround⟩ := (create_allocates _ _ _ _ _).of_run hmake made rfl o hmade
  refine ⟨_, hround, keepsLength_of_sealed hkind ?_ ?_, ?_, ?_⟩
  · rw [hseals]
    rfl
  · rw [hseals]
    rfl
  · rintro rfl
    refine ⟨settled_of_closed hkind ?_, ?_⟩
    · rw [hseals]
      rfl
    · rw [hseals]
      rfl
  · intro before name left s₃ hname hconvert
    obtain ⟨hkind₃, hseals₃⟩ := (convert_closes name _).of_run hconvert left rfl o hname
    refine ⟨settled_of_closed hkind₃ ?_, ?_⟩
    · rw [hseals₃]
      exact Bool.or_true _
    · rw [hseals₃]
      simp only [Seals.blocksWrites, Seals.union, SealedFile.closingSeals, Bool.or_false]

/-- Others open the object of a writable region anew, try to cut and to extend it, and try to seal
it against everything; the region becomes shared under another name. -/
def settledDealings : List Dealing :=
  [.turn (.theirs (.reopen ⟨0⟩ .readWrite)), .turn (.theirs (.setLength ⟨1⟩ 0)),
    .turn (.theirs (.writeAt ⟨1⟩ 4090 [1, 2, 3, 4, 5, 6, 7, 8])),
    .turn (.ours (.move "region" "other"))]

/-- A region of 100 bytes keeps a page, and once it is shared the page can be mapped through a
descriptor that somebody else has opened, also after an attempt to seal it. -/
theorem created_lasts_of_converted :
    ∃ made s₁ left s₃,
      (create .writable 100 .host "region" none).run.run ({} : Session SealedFile) =
        (some (.ok made), s₁) ∧
      (convert "other" Region.toShared none).run.run (s₁.runDealings settledDealings) =
        (some (.ok (), left), s₃) ∧
      KeepsLength s₁ 0 4096 ∧ Settled s₃ 0 ∧
      ∃ id, (Kernel.map ⟨1⟩ 0 4096 .readWrite (s₃.runDealings
        [.turn (.theirs (.addSeals ⟨1⟩ 8))]).system.kernel.unplanned).1 = some id := by
  obtain ⟨allocated, hround, hlength, -, hconverted⟩ :=
    @created_lasts {} _ .writable 100 .host "region" _ 0 rfl rfl
  obtain rfl : 4096 = allocated := Option.some.inj (Eq.trans rfl hround)
  obtain ⟨hsettled, hblocks⟩ := hconverted settledDealings "other" _ _ rfl rfl
  refine ⟨_, _, _, _, rfl, rfl, hlength, hsettled, ?_⟩
  refine (hsettled.maps [.turn (.theirs (.addSeals ⟨1⟩ 8))] rfl (by decide)).mpr ?_
  exact hblocks.trans rfl

/-- A conversion to shared succeeds on an object that somebody has sealed against writing, and then
the region cannot be mapped. -/
theorem converted_can_refuse_windows :
    ∃ made s₁ left s₃ r,
      (create .writable 4096 .host "region" none).run.run ({} : Session SealedFile) =
        (some (.ok made), s₁) ∧
      (convert "region" Region.toShared none).run.run
        (s₁.runDealings [.turn (.theirs (.addSeals ⟨0⟩ 8))]) = (some (.ok (), left), s₃) ∧
      s₃.regions.get? "region" = some r ∧ r.mode = .shared ∧ r.size = 4096 ∧
      s₃.objectUnder? "region" = some 0 ∧
      s₃.system.kernel.file? ⟨0⟩ = some ⟨0, .readWrite⟩ ∧
      ((Window.ofRequest { region := some r, offset := 0, size := 4096 }).run s₃.system).1 =
        .error (.systemCallFailed .notPermitted) :=
  ⟨_, _, _, _, _, rfl, rfl, rfl, rfl, rfl, rfl, rfl, rfl⟩

end Session

end SharedMemory

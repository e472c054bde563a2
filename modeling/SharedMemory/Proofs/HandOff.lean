import SharedMemory.Proofs.Backing.Steady
import SharedMemory.Proofs.Careful
import SharedMemory.Proofs.Truthful
import SharedMemory.Proofs.Wire
/-!
# Handing regions over

A region that is handed over is split, its header is written and read again, and the receiver takes
the handle with what it read. The receiver trusts nothing and checks the handle anew. Neither a
hand-off nor a duplicate changes what the check goes by, so a region that was confirmed can be
handed on as often as one likes.
-/
namespace SharedMemory

open Kernel Backing Effect

namespace Header

/-- What arrives of a header that is sent as a text. -/
def sent (header : Header) : Except Json.Rejection Header :=
  Json.readAll Wire.readHeader (String.ofList (Wire.writeHeader header))

private theorem sent_of_validSize {header : Header} (hsize : validSize header.size = true) :
    header.sent = .ok header := by
  have hsize := validSize_iff.mp hsize
  have hfits : header.size < UInt64.size := by
    simp only [maxRegionSize, UInt64.size] at hsize ⊢
    omega
  exact (Wire.readHeader_readsBack header hfits).readAll

end Header

/-- What a region says of itself, and the object behind each of its descriptors. -/
structure Portrait where
  header : Header
  objects : List (Option ObjectId)
  deriving DecidableEq

namespace Region

variable {H : Type} [Backing H]

def portrait (k : Kernel) (r : Region H) : Portrait := ⟨r.header, r.descriptors.map k.objectOf?⟩

/-- The size of a region is valid, and its check answers that mode and size are so. -/
structure Confirmed (s : System) (r : Region H) : Prop where
  size : validSize r.size = true
  check : ∃ h, r.handle = some h ∧ ((Backing.corresponds h r.mode r.size).run s).1 = true

/-- Splits a region, sends its header and takes the handle with what was received. -/
def handOff (r : Region H) : Effect (Option (Region H)) := do
  match r.parts? with
  | none => return none
  | some (h, header) =>
    match header.sent with
    | .error _ =>
      Backing.release h
      return none
    | .ok received =>
      match ← take h received with
      | .error _ => return none
      | .ok taken => return some taken

/-- The hand-off of a region succeeds and loses nothing: the parts are there, the header arrives as
it was, and what the receiver takes is the region with all that it had. -/
def HandsOver (s : System) (r : Region H) : Prop :=
  ∃ h header, r.parts? = some (h, header) ∧ header.sent = .ok header ∧
    (take h header).Leads s fun outcome s' =>
      outcome = .ok r ∧ r.portrait s'.kernel = r.portrait s.kernel

variable {s s' : System} {r : Region H}

private theorem portrait_alike {k k' : Kernel} (hk : k.Alike k') (r : Region H) :
    r.portrait k' = r.portrait k := by
  have hobject : k'.objectOf? = k.objectOf? := by
    funext d
    rw [objectOf?, objectOf?, hk.file?]
  rw [portrait, portrait, hobject]

section Once

variable [CarefulBacking H]

theorem Confirmed.take {h : H} (hc : r.Confirmed s) (hh : r.handle = some h) :
    (take h r.header).Leads s fun outcome s' => outcome = .ok r ∧ s.kernel.Alike s'.kernel := by
  obtain ⟨h', hh', hcheck⟩ := hc.check
  obtain rfl := Option.some.inj (hh.symm.trans hh')
  have halike := CarefulBacking.corresponds h r.mode r.size s.kernel s rfl
  have hregion : (⟨some h, r.mode, r.size, r.guid⟩ : Region H) = r := by
    rw [← hh]
  have hvalid : ¬¬validSize r.header.size = true := not_not_intro hc.size
  unfold Region.take
  rw [if_neg hvalid]
  refine .bind (.of_run ?_)
  change (if ((Backing.corresponds h r.mode r.size).run s).1 = true then _ else _ :
    Effect (Except RegionError (Region H))).Leads _ _
  rw [if_pos hcheck]
  exact .pure ⟨congrArg Except.ok hregion, halike⟩

theorem Confirmed.handsOver (hc : r.Confirmed s) : r.HandsOver s := by
  obtain ⟨h, hh, -⟩ := hc.check
  refine ⟨h, r.header, parts?_of_some hh, Header.sent_of_validSize hc.size, (hc.take hh).mono ?_⟩
  intro outcome s' htaken
  exact ⟨htaken.1, portrait_alike htaken.2 r⟩

private theorem Confirmed.handOff_leads (hc : r.Confirmed s) :
    r.handOff.Leads s fun outcome s' => outcome = some r ∧ s.kernel.Alike s'.kernel := by
  obtain ⟨h, hh, -⟩ := hc.check
  have hsent : r.header.sent = .ok r.header := Header.sent_of_validSize hc.size
  unfold handOff
  rw [parts?_of_some hh]
  dsimp only
  rw [hsent]
  refine .bind ((hc.take hh).mono ?_)
  rintro outcome s' ⟨rfl, halike⟩
  exact .pure ⟨rfl, halike⟩

end Once

section Again

variable {h copy : H}

private theorem portrait_copies (hh : r.handle = some h)
    (hcopies : Copies s.kernel h s'.kernel copy) :
    ({ r with handle := some copy } : Region H).portrait s'.kernel = r.portrait s.kernel := by
  have hobjects := hcopies.objects
  rw [portrait, portrait, descriptors_of_some hh, descriptors_of_some rfl, hobjects]
  rfl

variable [SteadyBacking H]

/-- What was confirmed is confirmed of every copy, as long as the objects are the same. -/
theorem Confirmed.copies (hc : r.Confirmed s) (hh : r.handle = some h)
    (hcopies : Copies s.kernel h s'.kernel copy) (hobjects : s'.kernel.objects = s.kernel.objects)
    (hcandid : s'.kernel.Candid) : ({ r with handle := some copy } : Region H).Confirmed s' := by
  obtain ⟨h', hh', hcheck⟩ := hc.check
  obtain rfl := Option.some.inj (hh.symm.trans hh')
  exact ⟨hc.size, copy, rfl, SteadyBacking.again hcheck hcandid hcopies hobjects⟩

/-- What was confirmed of a region stays so as long as its descriptors and the objects stay. -/
theorem Confirmed.stays (hc : r.Confirmed s)
    (hfile : ∀ d, s.kernel.IsOpen d → s'.kernel.file? d = s.kernel.file? d)
    (hobjects : s'.kernel.objects = s.kernel.objects) (hcandid : s'.kernel.Candid) :
    r.Confirmed s' ∧ r.portrait s'.kernel = r.portrait s.kernel := by
  obtain ⟨h, hh, hcheck⟩ := hc.check
  have hcopies : Copies s.kernel h s'.kernel h :=
    .of_file? fun d hd => hfile d (SteadyBacking.isOpen hcheck d hd)
  have hsame : ({ r with handle := some h } : Region H) = r := by
    rw [← hh]
  have hconfirmed := hc.copies hh hcopies hobjects hcandid
  have hportrait := portrait_copies hh hcopies
  rw [hsame] at hconfirmed hportrait
  exact ⟨hconfirmed, hportrait⟩

variable [Rights H] [LawfulBacking H]

/-- A duplicate changes no object, and a copy that comes of it has the open files of its source. -/
private theorem Confirmed.duplicate_leads (hc : r.Confirmed s) :
    r.duplicate.Leads s fun outcome s' =>
      (∃ fresh, Shift [] fresh [] s.kernel s'.kernel) ∧
        ∀ copied, outcome = .ok copied → ∃ h copy, r.handle = some h ∧
          copied = { r with handle := some copy } ∧ Copies s.kernel h s'.kernel copy := by
  obtain ⟨h, hh, hcheck⟩ := hc.check
  unfold duplicate
  rw [hh]
  dsimp only
  split
  · exact .pure ⟨⟨[], .refl _⟩, nofun⟩
  · have hopen := SteadyBacking.isOpen hcheck
    refine .bind ((Leads.of_yields (LawfulBacking.duplicate_yields h s.kernel hopen)).mono ?_)
    intro outcome s' hs'
    cases outcome with
    | error e => exact .bind (.record fun _ => .pure ⟨⟨[], hs'⟩, nofun⟩)
    | ok copy =>
      obtain ⟨hshift, -, hcopies⟩ := hs'
      refine .pure ⟨⟨_, hshift⟩, ?_⟩
      rintro copied ⟨⟩
      exact ⟨h, copy, rfl, rfl, hcopies⟩

/-- Where the mode allows it and the kernel refuses nothing, there is a copy to be had. -/
theorem Confirmed.duplicate_succeeds (hc : r.Confirmed s) (hmode : r.mode ≠ .writable)
    (ho : s.kernel.Obliging) (hlimit : s.kernel.limit = none) :
    r.duplicate.Leads s fun outcome _ => ∃ copied, outcome = .ok copied := by
  obtain ⟨h, hh, hcheck⟩ := hc.check
  have hsucceeds :=
    LawfulBacking.duplicate_succeeds h s.kernel (SteadyBacking.isOpen hcheck) ho hlimit
  unfold duplicate
  rw [hh]
  dsimp only
  rw [if_neg hmode]
  refine .bind ((Leads.of_yields hsucceeds).mono ?_)
  rintro outcome s' ⟨⟨copy, rfl⟩, -⟩
  exact .pure ⟨_, rfl⟩

end Again

end Region

/-- A system in which regions are handed on. -/
structure Relay (H : Type) where
  system : System
  regions : List (Region H)

/-- A leg of a relay, about the region at a place: it is handed over, or duplicated. -/
inductive Leg where
  | handOff (place : Nat)
  | duplicate (place : Nat)
  deriving DecidableEq, Repr

namespace Relay

variable {H : Type} [Backing H]

/-- A region that is handed over stays at its place if the receiver takes it, else it is gone. -/
def leg (y : Relay H) : Leg → Relay H
  | .handOff place =>
    match y.regions[place]? with
    | none => y
    | some r =>
      match r.handOff.run y.system with
      | (some taken, system) => ⟨system, y.regions.set place taken⟩
      | (none, system) => ⟨system, y.regions.eraseIdx place⟩
  | .duplicate place =>
    match y.regions[place]? with
    | none => y
    | some r =>
      match r.duplicate.run y.system with
      | (.ok copy, system) => ⟨system, y.regions ++ [copy]⟩
      | (.error _, system) => ⟨system, y.regions⟩

def run (y : Relay H) (legs : List Leg) : Relay H := legs.foldl leg y

/-- All regions look the same, and the kernel answers what it is asked of them. -/
structure Keeps (p : Portrait) (y : Relay H) : Prop where
  candid : y.system.kernel.Candid
  confirmed : ∀ r ∈ y.regions, r.Confirmed y.system
  portrait : ∀ r ∈ y.regions, r.portrait y.system.kernel = p

variable [SteadyBacking H] {p : Portrait} {y : Relay H}

theorem Keeps.stays {system : System} (hy : y.Keeps p)
    (hfile : ∀ d, y.system.kernel.IsOpen d → system.kernel.file? d = y.system.kernel.file? d)
    (hobjects : system.kernel.objects = y.system.kernel.objects)
    (hcandid : system.kernel.Candid) : (⟨system, y.regions⟩ : Relay H).Keeps p := by
  refine ⟨hcandid, ?_, ?_⟩
  · intro r hr
    exact ((hy.confirmed r hr).stays hfile hobjects hcandid).1
  · intro r hr
    exact ((hy.confirmed r hr).stays hfile hobjects hcandid).2.trans (hy.portrait r hr)

section

variable [Rights H] [LawfulBacking H] [ModestBacking H]

theorem Keeps.duplicate (hy : y.Keeps p) (place : Nat) :
    (y.leg (.duplicate place)).Keeps p ∧ y.regions <+: (y.leg (.duplicate place)).regions := by
  unfold leg
  dsimp only
  cases hr : y.regions[place]? with
  | none => exact ⟨hy, List.prefix_rfl⟩
  | some r =>
    have hmem := List.mem_of_getElem? hr
    have hconfirmed := hy.confirmed r hmem
    have hleads := hconfirmed.duplicate_leads
    have hsame := r.duplicate_within sameObjects_closed y.system
    dsimp only
    cases hrun : r.duplicate.run y.system with
    | mk outcome system =>
      rw [hrun] at hsame
      rw [Leads, hrun] at hleads
      obtain ⟨hobjects, hrefusal⟩ := hsame
      obtain ⟨⟨fresh, hshift⟩, hcopied⟩ := hleads
      have hcandid := hy.candid.of_refusal hrefusal
      have hstays : (⟨system, y.regions⟩ : Relay H).Keeps p :=
        hy.stays (fun d hopen => hshift.file?_eq List.not_mem_nil hopen) hobjects hcandid
      cases outcome with
      | error e => exact ⟨hstays, List.prefix_rfl⟩
      | ok copied =>
        obtain ⟨h, copy, hh, rfl, hcopies⟩ := hcopied copied rfl
        refine ⟨⟨hcandid, ?_, ?_⟩, List.prefix_append _ _⟩
        · intro r' hr'
          rcases List.mem_append.mp hr' with hr' | hr'
          · exact hstays.confirmed r' hr'
          · obtain rfl := List.mem_singleton.mp hr'
            exact hconfirmed.copies hh hcopies hobjects hcandid
        · intro r' hr'
          rcases List.mem_append.mp hr' with hr' | hr'
          · exact hstays.portrait r' hr'
          · obtain rfl := List.mem_singleton.mp hr'
            exact (Region.portrait_copies hh hcopies).trans (hy.portrait r hmem)

end

variable [CarefulBacking H]

private theorem Keeps.handOff (hy : y.Keeps p) (place : Nat) :
    (y.leg (.handOff place)).Keeps p ∧ (y.leg (.handOff place)).regions = y.regions := by
  unfold leg
  dsimp only
  cases hr : y.regions[place]? with
  | none => exact ⟨hy, rfl⟩
  | some r =>
    have hleads := (hy.confirmed r (List.mem_of_getElem? hr)).handOff_leads
    dsimp only
    cases hrun : r.handOff.run y.system with
    | mk outcome system =>
      obtain ⟨houtcome, halike⟩ : outcome = some r ∧ y.system.kernel.Alike system.kernel := by
        rw [Leads, hrun] at hleads
        exact hleads
      have hset : y.regions.set place r = y.regions := by
        obtain ⟨hlt, hget⟩ := List.getElem?_eq_some_iff.mp hr
        rw [← hget]
        exact List.set_getElem_self hlt
      rw [houtcome]
      dsimp only
      rw [hset]
      exact ⟨hy.stays (fun d _ => halike.file? d) halike.objects (halike.candid hy.candid), rfl⟩

variable [Rights H] [LawfulBacking H] [ModestBacking H]

private theorem Keeps.leg (hy : y.Keeps p) (l : Leg) :
    (y.leg l).Keeps p ∧ y.regions <+: (y.leg l).regions := by
  cases l with
  | handOff place =>
    obtain ⟨hkeeps, hsame⟩ := hy.handOff place
    exact ⟨hkeeps, hsame ▸ List.prefix_rfl⟩
  | duplicate place => exact hy.duplicate place

theorem Keeps.run (hy : y.Keeps p) (legs : List Leg) :
    (y.run legs).Keeps p ∧ y.regions <+: (y.run legs).regions := by
  induction legs generalizing y with
  | nil => exact ⟨hy, List.prefix_rfl⟩
  | cons l rest ih =>
    obtain ⟨hkeeps, hleg⟩ := hy.leg l
    obtain ⟨hrun, hrest⟩ := ih hkeeps
    exact ⟨hrun, hleg.trans hrest⟩

end Relay

namespace Region

variable {H : Type} [Backing H] {s : System} {r : Region H}

/-- However often a region is handed over and duplicated, no region is lost on the way. All of them
are what the first one was, can be handed over again and, if their mode allows it, duplicated. -/
def HandsOn (s : System) (r : Region H) : Prop :=
  ∀ legs more : List Leg, let y := (⟨s, [r]⟩ : Relay H).run legs
    y.regions <+: (y.run more).regions ∧
      ∀ r' ∈ y.regions, r'.portrait y.system.kernel = r.portrait s.kernel ∧
        r'.HandsOver y.system ∧
        (r'.mode ≠ .writable → y.system.kernel.Obliging → y.system.kernel.limit = none →
          r'.duplicate.Leads y.system fun outcome _ => ∃ copied, outcome = .ok copied)

private theorem Confirmed.handsOn [SteadyBacking H] [CarefulBacking H] [Rights H] [LawfulBacking H]
    [ModestBacking H] (hc : r.Confirmed s) (hcandid : s.kernel.Candid) : r.HandsOn s := by
  intro legs more y
  have hstart : (⟨s, [r]⟩ : Relay H).Keeps (r.portrait s.kernel) := by
    refine ⟨hcandid, ?_, ?_⟩
    · intro r' hr'
      obtain rfl := List.mem_singleton.mp hr'
      exact hc
    · intro r' hr'
      obtain rfl := List.mem_singleton.mp hr'
      rfl
  obtain ⟨hy, -⟩ := hstart.run legs
  refine ⟨(hy.run more).2, ?_⟩
  intro r' hr'
  have hconfirmed := hy.confirmed r' hr'
  exact ⟨hy.portrait r' hr', hconfirmed.handsOver, hconfirmed.duplicate_succeeds⟩

end Region

namespace Session

variable {H : Type} [Backing H] [Rights H] [LawfulBacking H] {loose : Slots Descriptor}
  {hand : List (Holding H)} {s : Session H}

/-- Where the kernel answers what it is asked, every valid region of a session is confirmed. -/
private theorem InCustody.confirmed (hs : InCustody True loose hand s)
    (hcandid : s.system.kernel.Candid)
    {name : String} {r : Region H} (hr : s.regions.get? name = some r) (hvalid : r.isValid = true) :
    r.Confirmed s.system := by
  obtain ⟨h, hh⟩ := Option.isSome_iff_exists.mp hvalid
  have hkept := hs.kept hr hh
  obtain ⟨hsize, o, hg, hlength⟩ := hkept.label _ rfl
  obtain ⟨-, -, hanswer⟩ :=
    LawfulBacking.corresponds_yields h r.mode r.size _ hkept.sound s.system rfl
  exact ⟨hsize, h, hh, hanswer hcandid ⟨o, hg, hlength trivial⟩⟩

/-- A region that is confirmed can be handed over, and where the kernel goes on answering what it is
asked it can be handed on for ever. All valid regions of all sessions that start with nothing in use
are confirmed where the kernel answers. -/
theorem handOff_lossless :
    (∀ (s : System) (r : Region SealedFile), r.Confirmed s →
      r.HandsOver s ∧ (s.kernel.Candid → r.HandsOn s)) ∧
    (∀ (s : System) (r : Region DescriptorPair), r.Confirmed s →
      r.HandsOver s ∧ (s.kernel.Candid → r.HandsOn s)) ∧
    (∀ (s : Session SealedFile) (steps : List Step), s.regions = .empty → s.handles = .empty →
      (s.runSteps steps).system.kernel.Candid →
        ∀ name r, (s.runSteps steps).regions.get? name = some r → r.isValid = true →
          r.Confirmed (s.runSteps steps).system) ∧
    (∀ (s : Session DescriptorPair) (steps : List Step), s.regions = .empty → s.handles = .empty →
      (s.runSteps steps).system.kernel.Candid →
        ∀ name r, (s.runSteps steps).regions.get? name = some r → r.isValid = true →
          r.Confirmed (s.runSteps steps).system) := by
  refine ⟨?_, ?_, ?_, ?_⟩
  · intro s r hc
    exact ⟨hc.handsOver, hc.handsOn⟩
  · intro s r hc
    exact ⟨hc.handsOver, hc.handsOn⟩
  · intro s steps hregions hhandles hcandid name r hr hvalid
    exact ((inCustody_of_empty hregions hhandles).steps steps).confirmed hcandid hr hvalid
  · intro s steps hregions hhandles hcandid name r hr hvalid
    exact ((inCustody_of_empty hregions hhandles).steps steps).confirmed hcandid hr hvalid

/-- The copy of a read-only region. -/
theorem handOff_lossless_of_copy :
    (∃ r, (({} : Session SealedFile).runSteps copySteps).regions.get? "second" = some r ∧
      r.HandsOver (({} : Session SealedFile).runSteps copySteps).system ∧
      r.HandsOn (({} : Session SealedFile).runSteps copySteps).system) ∧
    (∃ r, (({} : Session DescriptorPair).runSteps copySteps).regions.get? "second" = some r ∧
      r.HandsOver (({} : Session DescriptorPair).runSteps copySteps).system ∧
      r.HandsOn (({} : Session DescriptorPair).runSteps copySteps).system) := by
  constructor
  · have hcandid : (({} : Session SealedFile).runSteps copySteps).system.kernel.Candid :=
      ⟨fun _ _ => rfl, fun _ _ => rfl, fun _ _ => rfl⟩
    obtain ⟨r, hr, hvalid⟩ : ∃ r, (({} : Session SealedFile).runSteps copySteps).regions.get?
        "second" = some r ∧ r.isValid = true := ⟨_, rfl, rfl⟩
    have hconfirmed := handOff_lossless.2.2.1 {} copySteps rfl rfl hcandid "second" r hr hvalid
    obtain ⟨honce, hon⟩ := handOff_lossless.1 _ r hconfirmed
    exact ⟨r, hr, honce, hon hcandid⟩
  · have hcandid : (({} : Session DescriptorPair).runSteps copySteps).system.kernel.Candid :=
      ⟨fun _ _ => rfl, fun _ _ => rfl, fun _ _ => rfl⟩
    obtain ⟨r, hr, hvalid⟩ : ∃ r, (({} : Session DescriptorPair).runSteps copySteps).regions.get?
        "second" = some r ∧ r.isValid = true := ⟨_, rfl, rfl⟩
    have hconfirmed := handOff_lossless.2.2.2 {} copySteps rfl rfl hcandid "second" r hr hvalid
    obtain ⟨honce, hon⟩ := handOff_lossless.2.1 _ r hconfirmed
    exact ⟨r, hr, honce, hon hcandid⟩

/-- The region is copied, and the copy is handed over. -/
example : ∃ r, (({} : Session SealedFile).runSteps copySteps).regions.get? "second" = some r ∧
    ((⟨(({} : Session SealedFile).runSteps copySteps).system, [r]⟩ : Relay SealedFile).run
      [.duplicate 0, .handOff 1]).regions.length = 2 := ⟨_, rfl, rfl⟩

end Session

end SharedMemory

import SharedMemory.Proofs.Requests
import SharedMemory.Proofs.Session.Objects
/-!
# Opening what was received

A handle that was received is accepted for the mode of its header, and then the region is mapped
with the protection of that mode. The check of a handle and the mapping are decided in two places.
They agree on everything but this: a sealed file is accepted for reading on account of its seals
alone, so its descriptor may be for writing only, and then it cannot be mapped. A pair is accepted
on account of its descriptors alone, so its object may refuse the writes that they are for.
-/
namespace SharedMemory

open Kernel Backing

namespace Region

variable {H : Type} [Backing H]

/-- A request for all bytes of a region. -/
def whole (r : Region H) : WindowRequest H := { region := some r, size := r.size }

/-- The window `w` shows all bytes of a region. They are those of its object, which has them all. -/
structure ShownBy (r : Region H) (s : System) (w : Window) (s' : System) : Prop where
  size_eq : w.size = r.size
  protection_eq : w.protection = .ofMode r.mode
  reads : ∃ h o, r.handle = some h ∧ s.kernel.objectOf? (descriptor h) = some o ∧
    r.size ≤ (s.kernel.object o).length ∧
    ∀ (buffer : List UInt8) (offset : Nat), offset + buffer.length ≤ r.size →
      ((w.readSlice buffer offset).run s').1 =
        .ok (buffer.length, (s.kernel.object o).bytes offset buffer.length)

/-- All bytes of a region can be mapped and read. -/
def Opens (r : Region H) (s : System) : Prop :=
  ∃ w s', (Window.ofRequest r.whole).run s = (.ok w, s') ∧ r.ShownBy s w s'

variable {r : Region H} {h : H} {s : System} {file : OpenFile}

private theorem shownBy_of_run {w : Window} {s' : System} (hhandle : r.handle = some h)
    (hfile : s.kernel.file? (descriptor h) = some file)
    (hlength : r.size ≤ (s.kernel.object file.object).length)
    (hrun : (Window.ofRequest r.whole).run s = (.ok w, s')) : r.ShownBy s w s' := by
  have hgrants := Window.ofRequest_grants r.whole s.kernel s rfl
  rw [hrun] at hgrants
  obtain ⟨r', hr', hgranted⟩ := hgrants
  obtain rfl := Option.some.inj hr'
  have hgranted : Window.Granted r 0 r.size w s.kernel s'.kernel := hgranted
  obtain ⟨h', o, hhandle', hobject, hview⟩ := hgranted.view
  obtain rfl := Option.some.inj (hhandle.symm.trans hhandle')
  obtain rfl : file.object = o := by
    rw [objectOf?, hfile] at hobject
    exact Option.some.inj hobject
  refine ⟨hgranted.size_eq, hgranted.protection_eq, h, _, hhandle, hobject, hlength, ?_⟩
  intro buffer offset hrange
  have hcount : min (w.size - offset) buffer.length = buffer.length := by
    rw [hgranted.size_eq]
    omega
  have hstart : ¬ w.size < offset := by
    rw [hgranted.size_eq]
    omega
  rw [Window.readSlice_run, if_neg hstart, hcount, hview, Nat.zero_add, List.drop_length,
    List.append_nil]

/-- Where the kernel refuses only what it must, the rights of the descriptor that is mapped decide
whether a region opens. -/
private theorem opens_iff_permits (hhandle : r.handle = some h) (hvalid : validSize r.size = true)
    (ho : s.kernel.Obliging) (hfile : s.kernel.file? (descriptor h) = some file)
    (hlength : r.size ≤ (s.kernel.object file.object).length) :
    r.Opens s ↔ s.kernel.Permits (.ofMode r.mode) file := by
  obtain ⟨hpos, hsmall⟩ := validSize_iff.mp hvalid
  have hrange : 0 + r.size ≤ r.size := Nat.le_of_eq (Nat.zero_add _)
  constructor
  · rintro ⟨w, s', hrun, -⟩
    have hwindow : ∃ w, ((Window.ofRequest r.whole).run s).1 = .ok w := ⟨w, congrArg Prod.fst hrun⟩
    have hgranted := (Window.ofRequest_granted_iff rfl hhandle hpos hrange hsmall).mp hwindow
    obtain ⟨-, file', hfile', hpermits⟩ := (map_granted_iff ho).mp hgranted
    obtain rfl := Option.some.inj (hfile.symm.trans hfile')
    exact hpermits
  · intro hpermits
    have hasks : Window.Asks r h 0 r.size none s _ _ :=
      Window.asks_of_permits rfl hhandle hpos hrange hsmall hfile hpermits
    have hpage : s.kernel.layout.alignDown 0 % s.kernel.pageSize = 0 := by
      rw [Layout.alignDown_zero, Nat.zero_mod]
    obtain ⟨w, hw⟩ := (hasks.granted_iff ho).mpr hpage
    have hrun : (Window.ofRequest r.whole).run s =
        (.ok w, ((Window.ofRequest r.whole).run s).2) := Prod.ext hw rfl
    exact ⟨w, _, hrun, shownBy_of_run hhandle hfile hlength hrun⟩

/-- A region whose mapping the kernel refuses does not open, and the refusal is the answer. -/
private theorem refused_of_map (hhandle : r.handle = some h) (hvalid : validSize r.size = true)
    {e : Errno} (hmap : ∀ offset length, s.kernel.Fits offset length →
      ∃ k', Kernel.map (descriptor h) offset length (.ofMode r.mode) s.kernel = (none, k') ∧
        s.kernel.Alike k' ∧ k'.lastError = e) :
    ((Window.ofRequest r.whole).run s).1 = .error (.systemCallFailed e) := by
  obtain ⟨hpos, hsmall⟩ := validSize_iff.mp hvalid
  have hrange : 0 + r.size ≤ r.size := Nat.le_of_eq (Nat.zero_add _)
  have hstart : (none.getD s.kernel.layout).alignDown 0 = 0 := Layout.alignDown_zero _
  have hfits : s.kernel.Fits ((none.getD s.kernel.layout).alignDown 0)
      (r.size + (0 - (none.getD s.kernel.layout).alignDown 0)) := by
    have hwithin : 0 + (0 - 0) + r.size ≤ r.size := hrange
    rw [hstart]
    exact fits_of_within (Nat.ne_of_gt hpos) hwithin hsmall (Nat.zero_mod _)
  obtain ⟨k', hmap, -, herror⟩ := hmap _ _ hfits
  have hrun : (Window.ofRequest r.whole).run s = _ :=
    Window.ofRequest_of_refused rfl hhandle hpos hrange hsmall hmap
  rw [hrun, herror]

end Region

/-- A sealed file that is accepted for writing has a descriptor for it and an object that lets it
be. -/
theorem SealedFile.Admitted.writes {k : Kernel} {h : SealedFile} {mode : Mode} {size : Nat}
    {file : OpenFile} (ha : Admitted k h mode size) (hfile : k.file? h.fd = some file)
    (hmode : mode ≠ .readOnly) :
    file.access = .readWrite ∧ (k.object file.object).seals.blocksWrites = false := by
  obtain ⟨access, seals, length, haccess, hseals, -, -, hadmits⟩ := ha
  obtain ⟨hkind, rfl⟩ := memory_of_sealsOf? hfile hseals
  rw [accessOf?, hfile] at haccess
  obtain rfl := Option.some.inj haccess
  exact LawfulBacking.mappable (H := SealedFile) (r := none) hkind hmode hadmits

/-- A sealed file that is accepted permits its mapping if its descriptor is for reading. -/
theorem SealedFile.Admitted.permits {k : Kernel} {h : SealedFile} {mode : Mode} {size : Nat}
    {file : OpenFile} (ha : Admitted k h mode size) (hfile : k.file? h.fd = some file)
    (hread : file.access.canRead = true) : k.Permits (.ofMode mode) file := by
  refine ⟨(Session.spans_of_admitted ha hfile).1, hread, fun hwrite => ha.writes hfile ?_⟩
  rintro rfl
  cases hwrite

theorem SealedFile.Admitted.spans {k : Kernel} {h : SealedFile} {mode : Mode} {size : Nat}
    (ha : Admitted k h mode size) :
    ∃ file, k.file? h.fd = some file ∧ size ≤ (k.object file.object).length := by
  obtain ⟨-, -, length, -, -, hlength, hsize, -⟩ := ha
  obtain ⟨file, hfile, rfl⟩ := file?_of_lengthOf? hlength
  exact ⟨file, hfile, hsize⟩

/-- A pair that is accepted permits its mapping unless its object refuses the writes. -/
theorem DescriptorPair.Admitted.permits {k : Kernel} {h : DescriptorPair} {mode : Mode} {size : Nat}
    {file : OpenFile} (ha : Admitted k h mode size) (hfile : k.file? h.fd = some file)
    (hkind : (k.object file.object).kind = .memory)
    (hseals : mode ≠ .readOnly → (k.object file.object).seals.blocksWrites = false) :
    k.Permits (.ofMode mode) file := by
  obtain ⟨haccess, -, -⟩ := ha
  have haccess : file.access = expectedAccess mode := by
    rw [accessOf?, hfile] at haccess
    exact Option.some.inj haccess
  refine ⟨hkind, ?_, fun hwrite => ?_⟩
  · rw [haccess]
    cases mode <;> rfl
  · cases mode with
    | readOnly => cases hwrite
    | writable | shared => exact ⟨haccess, hseals (by decide)⟩

theorem DescriptorPair.Admitted.spans {k : Kernel} {h : DescriptorPair} {mode : Mode} {size : Nat}
    (ha : Admitted k h mode size) :
    ∃ file, k.file? h.fd = some file ∧ size ≤ (k.object file.object).length := by
  obtain ⟨-, ⟨length, hlength, hsize⟩, -⟩ := ha
  obtain ⟨file, hfile, rfl⟩ := file?_of_lengthOf? hlength
  exact ⟨file, hfile, hsize⟩

namespace Region

/-- A region of an accepted sealed file opens if the descriptor is for reading, and a region that
is for writing always does. -/
private theorem opens_of_take {s s' t : System} {h : SealedFile} {header : Header}
    {r : Region SealedFile}
    (htake : (take h header).run s = (.ok r, s')) (ht : t.kernel = s'.kernel.unplanned) :
    r.header = header ∧ ∃ file, s.kernel.file? h.fd = some file ∧
      (r.Opens t ↔ file.access.canRead = true) ∧
      (header.mode ≠ .readOnly → file.access.canRead = true) ∧
      (file.access.canRead = false →
        ((Window.ofRequest r.whole).run t).1 = .error (.systemCallFailed .accessDenied)) := by
  have hyields := Session.takeRegion_admits h header _ s rfl
  rw [htake] at hyields
  obtain ⟨rfl, hvalid, halike, hadmitted⟩ := hyields r rfl
  have ho : t.kernel.Obliging := ht ▸ obliging_unplanned _
  obtain ⟨_, _, hs'⟩ := halike
  have hadmitted' : SealedFile.Admitted t.kernel h header.mode header.size := by
    rw [ht, hs']
    exact hadmitted
  obtain ⟨file, hfile, hlength⟩ := hadmitted'.spans
  have hfile₀ : s.kernel.file? h.fd = some file := by
    rw [ht, hs'] at hfile
    exact hfile
  refine ⟨rfl, file, hfile₀, ⟨fun hopens => ?_, fun hread => ?_⟩, fun hmode => ?_, fun hread => ?_⟩
  · exact ((opens_iff_permits rfl hvalid ho hfile hlength).mp hopens).read
  · exact (opens_iff_permits rfl hvalid ho hfile hlength).mpr (hadmitted'.permits hfile hread)
  · rw [(hadmitted.writes hfile₀ hmode).1]
    rfl
  · exact refused_of_map rfl hvalid fun offset length hfits =>
      map_unreadable ho hfits hfile hread

/-- A region of an accepted pair opens unless it is for writing and its object refuses writes. -/
private theorem opens_of_takePair {s s' t : System} {h : DescriptorPair} {header : Header}
    {r : Region DescriptorPair} (htake : (take h header).run s = (.ok r, s'))
    (ht : t.kernel = s'.kernel.unplanned) :
    r.header = header ∧ ∃ file, s.kernel.file? h.fd = some file ∧
      ((s.kernel.object file.object).kind = .memory →
        (r.Opens t ↔
          header.mode = .readOnly ∨ (s.kernel.object file.object).seals.blocksWrites = false)) := by
  have hyields := take_checked h header ((DescriptorPair.corresponds_yields h header.mode
    header.size s.kernel).mono fun _ _ hk' => ⟨hk'.1, hk'.2.1⟩) s rfl
  rw [htake] at hyields
  obtain ⟨rfl, hvalid, halike, hadmitted⟩ := hyields r rfl
  have ho : t.kernel.Obliging := ht ▸ obliging_unplanned _
  obtain ⟨_, _, hs'⟩ := halike
  have hadmitted' : DescriptorPair.Admitted t.kernel h header.mode header.size := by
    rw [ht, hs']
    exact hadmitted
  obtain ⟨file, hfile, hlength⟩ := hadmitted'.spans
  have hobject : s.kernel.object = t.kernel.object := by
    rw [ht, hs']
    rfl
  refine ⟨rfl, file, ?_, fun hkind => ?_⟩
  · rw [ht, hs'] at hfile
    exact hfile
  · rw [hobject] at hkind ⊢
    rw [opens_iff_permits rfl hvalid ho hfile hlength]
    constructor
    · intro hpermits
      by_cases hmode : header.mode = .readOnly
      · exact .inl hmode
      · have hwrite : (Protection.ofMode header.mode).write = true := by
          rw [Protection.ofMode_of_ne hmode]
          rfl
        exact .inr (hpermits.write hwrite).2
    · intro hseals
      exact hadmitted'.permits hfile hkind fun hmode => hseals.resolve_left hmode

/-- Accepted regions open if the kernel refuses only what it must, except for two kinds: those of
sealed files whose descriptor is not for reading, which the check for reading does not look at, and
those of pairs that are for writing on an object that refuses writes. -/
theorem accepted_opens_iff {s s' t : System} (ht : t.kernel = s'.kernel.unplanned) :
    (∀ (h : SealedFile) (header : Header) (r : Region SealedFile),
      (take h header).run s = (.ok r, s') →
        r.header = header ∧ ∃ file, s.kernel.file? h.fd = some file ∧
          (r.Opens t ↔ file.access.canRead = true) ∧
          (header.mode ≠ .readOnly → file.access.canRead = true) ∧
          (file.access.canRead = false →
            ((Window.ofRequest r.whole).run t).1 = .error (.systemCallFailed .accessDenied))) ∧
    (∀ (h : DescriptorPair) (header : Header) (r : Region DescriptorPair),
      (take h header).run s = (.ok r, s') →
        r.header = header ∧ ∃ file, s.kernel.file? h.fd = some file ∧
          ((s.kernel.object file.object).kind = .memory →
            (r.Opens t ↔
              header.mode = .readOnly ∨
                (s.kernel.object file.object).seals.blocksWrites = false))) :=
  ⟨fun _ _ _ htake => opens_of_take htake ht, fun _ _ _ htake => opens_of_takePair htake ht⟩

/-- An object of 4096 bytes that is sealed against writing, with a descriptor for reading and
writing, 0, and one for writing, 1. -/
def sealedSession : Session SealedFile :=
  ((Session.wrap (.memory 4096 true) "handle").leave {}).runTurns
    [.theirs (.addSeals ⟨0⟩ 17), .theirs (.reopen ⟨0⟩ .write)]

/-- A writable region is made and split into its handle and its header. -/
def handedSession : Session DescriptorPair :=
  ({} : Session DescriptorPair).runSteps
    [.create .writable 100 .host "region", .split "region" "handle"]

theorem accepted_opens_of_readable :
    (∃ r s', (take (⟨⟨0⟩⟩ : SealedFile) ⟨.readOnly, 4096, .nil⟩).run sealedSession.system =
        (.ok r, s') ∧
      r.Opens { s' with kernel := s'.kernel.unplanned }) ∧
    (∃ r s', (take (⟨⟨0⟩, some ⟨1⟩⟩ : DescriptorPair) ⟨.writable, 100, .nil⟩).run
        handedSession.system = (.ok r, s') ∧
      r.Opens { s' with kernel := s'.kernel.unplanned }) := by
  obtain ⟨r, y, hsealed⟩ : ∃ r y, (take (⟨⟨0⟩⟩ : SealedFile) ⟨.readOnly, 4096, .nil⟩).run
      sealedSession.system = (.ok r, y) := ⟨_, _, rfl⟩
  obtain ⟨p, z, hpair⟩ : ∃ p z, (take (⟨⟨0⟩, some ⟨1⟩⟩ : DescriptorPair) ⟨.writable, 100, .nil⟩).run
      handedSession.system = (.ok p, z) := ⟨_, _, rfl⟩
  refine ⟨⟨r, y, hsealed, ?_⟩, ⟨p, z, hpair, ?_⟩⟩
  · obtain ⟨hopens, -⟩ := @accepted_opens_iff sealedSession.system y
      { y with kernel := y.kernel.unplanned } rfl
    obtain ⟨-, file, hfile, hiff, -⟩ := hopens _ _ r hsealed
    obtain rfl : ⟨0, .readWrite⟩ = file := Option.some.inj hfile
    exact hiff.mpr rfl
  · obtain ⟨-, hopens⟩ := @accepted_opens_iff handedSession.system z
      { z with kernel := z.kernel.unplanned } rfl
    obtain ⟨-, file, hfile, hiff⟩ := hopens _ _ p hpair
    obtain rfl : ⟨0, .readWrite⟩ = file := Option.some.inj hfile
    exact (hiff rfl).mpr (.inr rfl)

/-- A descriptor for writing is accepted as one for reading, and then nothing can be read. -/
theorem accepted_can_refuse_reading :
    ∃ r s', sealedSession.system.kernel.file? ⟨1⟩ = some ⟨0, .write⟩ ∧
      (sealedSession.system.kernel.object 0).kind = .memory ∧
      (take (⟨⟨1⟩⟩ : SealedFile) ⟨.readOnly, 4096, .nil⟩).run sealedSession.system = (.ok r, s') ∧
      ((Window.ofRequest r.whole).run s').1 = .error (.systemCallFailed .accessDenied) :=
  ⟨_, _, rfl, rfl, rfl, rfl⟩

end Region

end SharedMemory

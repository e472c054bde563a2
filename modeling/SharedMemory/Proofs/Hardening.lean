import SharedMemory.Proofs.Kernel.Reaches
import SharedMemory.Proofs.Truthful
/-!
# Making a sealed file read-only

The native conversion of a sealed file asks for seals once or twice. It asks for those that let the
writable mappings be that there are, and only if the kernel finds these invalid for those that do
not. What the last of the calls answers is the outcome. A success leaves an object with a closed
seal set of which no writable mapping is made any more, and a failure leaves everything as it was.
-/
namespace SharedMemory

open Kernel

namespace Kernel

variable {k k' : Kernel} {o : ObjectId} {asked : Seals}

/-- Nothing that happens to the object of a kernel makes it take a writable mapping again. The
kernel may have any plan of refusals. -/
def Unwritable (k : Kernel) (o : ObjectId) : Prop :=
  ∀ later, Reaches (fun _ => True) k later → ∀ d, later.objectOf? d = some o →
    ∀ plan offset length p, p.write = true →
      (map d offset length p (later.planned plan)).1 = none

private theorem unwritable_of_blocksWrites (hkind : (k.object o).kind = .memory)
    (hblocks : (k.object o).seals.blocksWrites = true) : k.Unwritable o := by
  intro later hreach d hd plan offset length p hp
  cases hmap : map d offset length p (later.planned plan) with
  | mk outcome k' =>
    cases outcome with
    | none => rfl
    | some id =>
      obtain ⟨file, hfile, -, hpermits, -⟩ := map_some hmap
      have hfile : later.file? d = some file := hfile
      obtain rfl : file.object = o := by
        rw [objectOf?, hfile] at hd
        exact Option.some.inj hd
      have hsealed := (hreach.evolves hkind).seals.blocksWrites hblocks
      have hopen : (later.object file.object).seals.blocksWrites = false := (hpermits.write hp).2
      rw [hsealed] at hopen
      cases hopen

/-- The object has got the seals that were asked for, for good, and nothing else has changed. -/
structure Hardens (o : ObjectId) (asked : Seals) (k k' : Kernel) : Prop where
  sealed : (k.modifyObject o (·.withSeals asked)).Alike k'
  closed : (k'.object o).seals.closed = true
  blocks : (k'.object o).seals.blocksWrites = true
  kept : (k.object o).seals.Subset (k'.object o).seals
  unwritable : k'.Unwritable o
  unmapped : asked.write = true → ∀ id m, k'.mappings.get? id = some m → m.object = o →
    m.writable = false

private theorem hardens_of_accepts {d : Descriptor} {file : OpenFile} (ha : k.Accepts d asked file)
    (hclosed : asked.closed = true) (hblocks : asked.blocksWrites = true)
    (hk' : (k.modifyObject file.object (·.withSeals asked)).Alike k') :
    Hardens file.object asked k k' := by
  have hobject : k'.object file.object = (k.object file.object).withSeals asked := by
    rw [hk'.object, object_modifyObject k _ _ _ (lt_of_kind_memory ha.kind), if_pos rfl]
  have hseals : (k'.object file.object).seals = (k.object file.object).seals.union asked := by
    rw [hobject]
    rfl
  have hgained : asked.Subset (k'.object file.object).seals := by
    rw [hseals]
    exact .union_left _ _
  have hkind : (k'.object file.object).kind = .memory := by
    rw [hobject]
    exact ha.kind
  refine ⟨hk', hgained.closed hclosed, hgained.blocksWrites hblocks, ?_,
    unwritable_of_blocksWrites hkind (hgained.blocksWrites hblocks), fun hwrite id m hm ho => ?_⟩
  · rw [hseals]
    exact .union_right _ _
  · rw [hk'.mappings] at hm
    exact writable_of_hasWritableMapping (ha.idle hwrite) hm ho

end Kernel

namespace SealedFile

open Effect

variable {k : Kernel}

/-- A kernel without a plan makes every object read-only that accepts one of the two sets. -/
private theorem toReadOnly_of_obliging (h : SealedFile) (ho : k.Obliging) {asked : Seals}
    {file : OpenFile} (hasked : asked = readOnlySeals ∨ asked = strictSeals)
    (haccepts : k.Accepts h.fd asked file) :
    h.toReadOnly.Yields k fun outcome _ => outcome = .ok h := by
  cases hknown : k.knowsFutureWrite with
  | true =>
    exact toReadOnly_of_accepts h (ho _ _)
      { haccepts with known := fun _ => hknown, idle := nofun }
  | false =>
    -- The first call asks for a seal that is not known, so it must be the other set.
    obtain rfl : asked = strictSeals := by
      refine hasked.resolve_left ?_
      rintro rfl
      rw [haccepts.known rfl] at hknown
      cases hknown
    obtain ⟨k₁, hfirst, hk₁, hinvalid⟩ := addSeals_unknown readOnlySeals (ho _ _)
      haccepts.file? haccepts.access rfl hknown
    obtain ⟨k₂, hsecond, -⟩ := (hk₁.accepts_iff.mpr haccepts).addSeals rfl (hk₁.obliging ho _ _)
    refine .bind (.attemptNone hfirst ?_)
    rw [hinvalid]
    exact .bind (.record (.bind (.attemptSome hsecond (.pure rfl))))

/-- From whatever state of the kernel, through whatever descriptor, and whichever calls the kernel
turns down: the conversion asks for one or two sets of seals, and its outcome is that of the last
call. If that failed, then everything is as before. If it succeeded, then the seal set is closed,
no writable mapping of the object is made any more, and none is live if the stricter set was asked
for. A kernel without a plan accepts one of the two sets if it can. -/
theorem toReadOnly_hardens (h : SealedFile) (s : System) :
    h.toReadOnly.Leads s fun outcome s' => ∃ events asked,
      Attempts h.fd events asked (failure? outcome) ∧
        s'.kernel.history = events ++ s.kernel.history ∧
        (∀ e, outcome = .error e → s.kernel.Alike s'.kernel) ∧
        (∀ h', outcome = .ok h' → h' = h ∧ ∃ file, s.kernel.Accepts h.fd asked file ∧
          Hardens file.object asked s.kernel s'.kernel) ∧
        (s.kernel.Obliging → ∀ seals file, (seals = readOnlySeals ∨ seals = strictSeals) →
          s.kernel.Accepts h.fd seals file → outcome = .ok h) := by
  obtain ⟨events, asked, hattempts, hhistory, hfailed, hdone⟩ :=
    toReadOnly_attempts h s.kernel s rfl
  refine ⟨events, asked, hattempts, hhistory, hfailed, fun h' hh' => ?_,
    fun ho _ _ hseals haccepts => toReadOnly_of_obliging h ho hseals haccepts s rfl⟩
  obtain ⟨hsame, file, haccepts, hsealed⟩ := hdone h' hh'
  refine ⟨hsame, file, haccepts, hardens_of_accepts haccepts ?_ ?_ hsealed⟩
  · rcases hattempts.asked with rfl | rfl
    · rfl
    · rfl
  · rcases hattempts.asked with rfl | rfl
    · rfl
    · rfl

/-- A kernel that does not know the seal against future writable mappings. -/
def oldSystem : System where
  kernel := {
    objects := [.memory true], files := [⟨0, .readWrite⟩], descriptors := ⟨[some 0]⟩
    knowsFutureWrite := false }

example : ((toReadOnly ⟨⟨0⟩⟩).run oldSystem).1 = .ok ⟨⟨0⟩⟩ ∧
    (((toReadOnly ⟨⟨0⟩⟩).run oldSystem).2.kernel.object 0).seals = strictSeals :=
  ⟨rfl, rfl⟩

end SealedFile

end SharedMemory

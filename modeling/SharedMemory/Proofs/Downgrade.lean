import SharedMemory.Proofs.Session.Dealings
import SharedMemory.Proofs.Session.Objects
/-!
# Downgrades are final

The seals of an object decide which mode its handles have. Seals are only added, and none once the
set is closed, so an object that was read-only or shared at one time has that mode for ever,
whatever is done with whichever of its descriptors.
-/
namespace SharedMemory

open Kernel

namespace SealedFile

variable {k k' : Kernel} {h h' : SealedFile} {o : ObjectId} {mode mode' : Mode} {size size' : Nat}

theorem Admitted.seals (ha : Admitted k h mode size) (ho : k.objectOf? h.fd = some o) :
    (k.object o).kind = .memory ∧
      ∃ access, admits mode access (k.object o).seals = true := by
  obtain ⟨access, seals, -, -, hseals, -, -, hadmits⟩ := ha
  obtain ⟨file, hfile, rfl⟩ := Option.map_eq_some_iff.mp ho
  obtain ⟨hkind, rfl⟩ := memory_of_sealsOf? hfile hseals
  exact ⟨hkind, access, hadmits⟩

/-- Two handles of one object, one at a time and one at a later time, have one mode, unless the
object was writable at first. -/
theorem Admitted.mode_eq {through : MappingId → Prop} (ha : Admitted k h mode size)
    (ho : k.objectOf? h.fd = some o) (hmode : mode ≠ .writable) (hreach : Reaches through k k')
    (ha' : Admitted k' h' mode' size') (ho' : k'.objectOf? h'.fd = some o) : mode' = mode := by
  obtain ⟨hkind, access, hadmits⟩ := ha.seals ho
  obtain ⟨-, access', hadmits'⟩ := ha'.seals ho'
  have hlater := hreach.evolves hkind
  exact admits_functional hadmits' (admits_sealing hlater.seals hlater.closed hmode hadmits)

end SealedFile

namespace Session

open SealedFile

/-- What the kernel confirms of an object and what a region of it can be made for. -/
structure OnlyMode (s : Session SealedFile) (o : ObjectId) (mode : Mode) : Prop where
  checked (h : SealedFile) (mode' : Mode) (size : Nat) : s.system.kernel.objectOf? h.fd = some o →
    mode' ≠ mode → ((h.corresponds mode' size).run s.system).1 = false
  taken (h : SealedFile) (header : Header) (r : Region SealedFile) (system : System) :
    s.system.kernel.objectOf? h.fd = some o →
      (Region.take h header).run s.system = (.ok r, system) → r.mode = mode

private theorem onlyMode_of_admitted {s : Session SealedFile} {o : ObjectId} {mode : Mode}
    (hmode : ∀ h mode' size, s.system.kernel.objectOf? h.fd = some o →
      Admitted s.system.kernel h mode' size → mode' = mode) : s.OnlyMode o mode where
  checked h mode' size ho hne := by
    obtain ⟨-, hadmitted, -⟩ := corresponds_yields h mode' size _ s.system rfl
    exact Bool.eq_false_iff.mpr fun htrue => hne (hmode h mode' size ho (hadmitted htrue))
  taken h header r system ho htake := by
    have hyields := takeRegion_admits h header _ s.system rfl
    rw [htake] at hyields
    obtain ⟨rfl, -, -, hadmitted⟩ := hyields r rfl
    exact hmode h _ _ ho hadmitted

/-- Once the kernel has confirmed that a handle is read-only or shared, it confirms no other mode
for any handle of the object, whatever calls anybody makes in the meantime, and regions of the
object are made for no other mode. -/
theorem downgrade_final {s : Session SealedFile} {h : SealedFile} {o : ObjectId} {mode : Mode}
    {size : Nat} {system : System} (hmode : mode ≠ .writable)
    (hobject : s.system.kernel.objectOf? h.fd = some o)
    (hcheck : (h.corresponds mode size).run s.system = (true, system)) (dealings : List Dealing) :
    (({ s with system } : Session SealedFile).runDealings dealings).OnlyMode o mode := by
  have hyields := corresponds_yields h mode size _ s.system rfl
  have hcalls :=
    corresponds_within Effect.calls_closed_keepsBytes.objects.looks h mode size s.system
  rw [hcheck] at hyields hcalls
  have hreach := (hcalls.mono fun _ => False.elim).trans
    (runDealings_reaches ({ s with system } : Session SealedFile) dealings)
  exact onlyMode_of_admitted fun h' mode' size' ho' ha' =>
    (hyields.2.1 rfl).mode_eq hobject hmode hreach ha' ho'

/-- A session with a shared region, whose descriptor has the number 0. -/
def sharedSession : Session SealedFile :=
  ({} : Session SealedFile).runSteps [.create .shared 4096 .host "region"]

/-- Others open the object anew and add seals to it, and the session tries to make its handle
read-only. -/
def sharedDealings : List Dealing :=
  [.turn (.theirs (.reopen ⟨0⟩ .readWrite)), .turn (.theirs (.addSeals ⟨1⟩ 16)),
    .turn (.ours (.takeHandle "region" "handle")), .convertHandle "handle" .readOnly]

theorem downgrade_final_of_shared :
    ∃ system, ((⟨⟨0⟩⟩ : SealedFile).corresponds .shared 4096).run sharedSession.system =
        (true, system) ∧
      (({ sharedSession with system } : Session SealedFile).runDealings
        sharedDealings).OnlyMode 0 .shared := by
  have hmode : Mode.shared ≠ .writable := nofun
  have hobject : sharedSession.system.kernel.objectOf? ⟨0⟩ = some 0 := rfl
  obtain ⟨system, hcheck⟩ : ∃ system,
      ((⟨⟨0⟩⟩ : SealedFile).corresponds .shared 4096).run sharedSession.system = (true, system) :=
    ⟨_, rfl⟩
  exact ⟨system, hcheck, downgrade_final hmode hobject hcheck sharedDealings⟩

end Session

end SharedMemory

import SharedMemory.Proofs.Accounts
import SharedMemory.Proofs.Ledger.Basic
import SharedMemory.Proofs.Session.Places
import SharedMemory.Proofs.Session.Turns
/-!
# Converting once

As long as nothing but the steps of regions is done, whatever the kernel turned down in the
meantime, a writable region has what its conversion needs: a reserve, if it is a pair, and else an
open seal set. So its conversion succeeds, whatever windows there are. It comes to one descriptor,
and from then on the region stays as it is and every conversion of it is misuse.
-/
namespace SharedMemory

open Kernel Effect Backing

/-- At this moment the kernel turns no request for seals down for reasons of its own. -/
def Kernel.GrantsSeals (k : Kernel) : Prop :=
  ∀ d mask, k.refusal k.history (.addSeals d mask) = none

/-- The native conversion of a handle comes to a handle with one descriptor. -/
def Backing.ComesToOne {H : Type} [Backing H] (native : Effect (Except Errno H)) (k : Kernel) :
    Prop :=
  native.Yields k fun outcome _ => ∃ h, outcome = .ok h ∧ (descriptors h).length = 1

namespace Region

variable {H : Type} [Backing H] {r : Region H} {h : H} {goal : Downgrade} {k : Kernel}

/-- What the conversion of a region comes to. -/
structure Narrowed (r : Region H) (goal : Downgrade) (r' : Region H) : Prop where
  isValid : r'.isValid = true
  mode : r'.mode = goal.goal
  size : r'.size = r.size
  guid : r'.guid = r.guid
  descriptors : r'.descriptors.length = 1

private theorem convert_narrows (hhandle : r.handle = some h) (hmode : r.mode = .writable)
    (hnative : ComesToOne ((goal.conversion (H := H)).native h) k) :
    (r.convert goal.conversion).Yields k fun outcome _ =>
      ∃ r', outcome = .ok r' ∧ r.Narrowed goal r' := by
  refine convert_of_handle hhandle hmode (hnative.mono ?_)
  rintro _ k' ⟨h', rfl, hlength⟩
  exact ⟨_, rfl, rfl, goal.conversion_goal, rfl, rfl, hlength⟩

private theorem convert_misused (hvalid : r.isValid = true) (hmode : r.mode ≠ .writable)
    (goal : Downgrade) (y : System) :
    (r.convert goal.conversion).run y = (.error (.misuse goal.misuse), y) := by
  obtain ⟨h, hhandle⟩ := Option.isSome_iff_exists.mp hvalid
  have hleads : (r.convert goal.conversion).Leads y fun outcome y' =>
      outcome = .error (.misuse goal.misuse) ∧ y' = y := by
    refine .convert (fun hnone => ?_) (fun _ _ _ => ⟨by rw [goal.conversion_misuse], rfl⟩)
      fun _ _ hother => absurd hother hmode
    rw [hhandle] at hnone
    cases hnone
  exact Prod.ext hleads.1 hleads.2

private theorem settled_persistent :
    Persistent fun r r' : Region H => r.mode ≠ .writable → r' = r where
  refl _ _ := rfl
  trans h h' hmode := by
    obtain rfl := h hmode
    exact h' hmode
  convert _ _ _ := .convert (fun _ => nofun) (fun _ _ _ => nofun) fun _ _ hmode =>
    .of_run fun _ _ _ hother => absurd hmode hother

end Region

namespace Session

variable {H : Type} [Backing H] {s : Session H} {name : String} {r r' : Region H}
  {goal : Region.Downgrade}

/-- Wherever the region of a name goes, it stays as it is, and all conversions of it are misuse. -/
def Final (s : Session H) (name : String) (r : Region H) : Prop :=
  ∀ steps place, s.places name steps = some place →
    (s.runSteps steps).regions.get? place = some r ∧
      ∀ goal : Region.Downgrade, (r.convert goal.conversion).run (s.runSteps steps).system =
        (.error (.misuse goal.misuse), (s.runSteps steps).system)

private theorem final_of_mode (hr : s.regions.get? name = some r) (hvalid : r.isValid = true)
    (hmode : r.mode ≠ .writable) : s.Final name r := by
  intro steps place hplace
  obtain ⟨r', hr', hsame⟩ := persists_of_places Region.settled_persistent hr hplace
  obtain rfl := hsame hmode
  exact ⟨hr', fun goal => Region.convert_misused hvalid hmode goal _⟩

/-- The conversion of the region of a name succeeds, and it is the last one. -/
def ConvertsOnce (s : Session H) (name : String) (r : Region H) (goal : Region.Downgrade) : Prop :=
  ∃ r' system, (r.convert goal.conversion).run s.system = (.ok r', system) ∧ r.Narrowed goal r' ∧
    (Step.convert name goal).run s = { s with system, regions := s.regions.put name r' } ∧
    ((Step.convert name goal).run s).Final name r'

/-- Every writable region can be converted to either mode. -/
def Convertible (s : Session H) : Prop :=
  ∀ name r goal, s.regions.get? name = some r → r.isValid = true → r.mode = .writable →
    s.ConvertsOnce name r goal

private theorem run_convert (hr : s.regions.get? name = some r) {system : System}
    (hconvert : (r.convert goal.conversion).run s.system = (.ok r', system)) :
    (Step.convert name goal).run s = { s with system, regions := s.regions.put name r' } := by
  have hyields : (convert name goal.conversion none).Yields s fun _ s' =>
      s' = { s with system, regions := s.regions.put name r' } := by
    have hleads : (r.convert goal.conversion).Leads s.system fun outcome y =>
        outcome = .ok r' ∧ y = system := .of_run (by rw [hconvert]; exact ⟨rfl, rfl⟩)
    refine .bind (.heldSome hr (.bind (.leads (hleads.mono ?_))))
    rintro _ y ⟨rfl, rfl⟩
    exact .bind (.modify (.bind (.viewRegion fun _ => .pure rfl)))
  exact hyields

private theorem convertsOnce_of_converts (hr : s.regions.get? name = some r)
    (hconverts : (r.convert goal.conversion).Yields s.system.kernel fun outcome _ =>
      ∃ r', outcome = .ok r' ∧ r.Narrowed goal r') : s.ConvertsOnce name r goal := by
  obtain ⟨r', hok, hnarrowed⟩ := hconverts s.system rfl
  have hconvert : (r.convert goal.conversion).run s.system =
      (.ok r', ((r.convert goal.conversion).run s.system).2) := Prod.ext hok rfl
  have hrun := run_convert hr hconvert
  have hplaced : ((Step.convert name goal).run s).regions.get? name = some r' := by
    rw [hrun, Slots.get?_put, if_pos rfl]
  have hmode : r'.mode ≠ .writable := by
    rw [hnarrowed.mode, ← goal.conversion_goal (H := H)]
    exact goal.goal_ne
  exact ⟨r', _, hconvert, hnarrowed, hrun, final_of_mode hplaced hnarrowed.isValid hmode⟩

private theorem convertible_of_native [Rights H] [LawfulBacking H] {start : Session H}
    (hstart : start.OwnsNothing) (steps : List Step)
    (hnative : ∀ (goal : Region.Downgrade) (h : H) (o : ObjectId),
      Grants (start.runSteps steps).system.kernel h o .writable →
        ComesToOne ((goal.conversion (H := H)).native h) (start.runSteps steps).system.kernel) :
    (start.runSteps steps).Convertible := by
  intro name r goal hr hvalid hmode
  have hs : InCustody True start.loose [] (start.runSteps steps) :=
    (inCustody_of_empty hstart.regions hstart.handles).steps steps
  obtain ⟨h, hhandle⟩ := Option.isSome_iff_exists.mp hvalid
  obtain ⟨-, o, hg, -⟩ := (hs.kept hr hhandle).label _ rfl
  have hg : Grants (start.runSteps steps).system.kernel h o .writable := hmode ▸ hg
  exact convertsOnce_of_converts hr (Region.convert_narrows hhandle hmode (hnative goal h o hg))

private theorem runSteps_knowsFutureWrite [CallingBacking H] [ModestBacking H] (s : Session H)
    (steps : List Step) :
    (s.runSteps steps).system.kernel.knowsFutureWrite = s.system.kernel.knowsFutureWrite := by
  induction steps generalizing s with
  | nil => rfl
  | cons step rest ih => exact (ih (step.run s)).trans (step.reaches s).knowsFutureWrite

end Session

namespace DescriptorPair

variable {h : DescriptorPair} {o : ObjectId} {k : Kernel}

/-- A pair for writing has a reserve, and each conversion closes one of its two descriptors. -/
private theorem native_comesToOne (goal : Region.Downgrade) (hg : Grants k h o .writable) :
    ComesToOne ((goal.conversion (H := DescriptorPair)).native h) k := by
  cases goal with
  | shared =>
    refine (toShared_yields h k).mono ?_
    rintro _ k' ⟨rfl, -⟩
    exact ⟨_, rfl, rfl⟩
  | readOnly =>
    obtain ⟨-, -, -, -, hreserve⟩ := hg
    have hreserve : h.spare.bind k.accessOf? = some .read := hreserve
    obtain ⟨spare, hspare, -⟩ := Option.bind_eq_some_iff.mp hreserve
    refine (toReadOnly_yields h k).mono ?_
    intro outcome k' hk'
    cases outcome with
    | error e =>
      rw [hspare] at hk'
      cases hk'.1
    | ok h' =>
      obtain ⟨_, -, rfl, -⟩ := hk'
      exact ⟨_, rfl, rfl⟩

end DescriptorPair

namespace SealedFile

variable {h : SealedFile} {o : ObjectId} {k : Kernel}

/-- The seal set of a file for writing is open, and the seals asked for do not mind windows. -/
private theorem native_comesToOne (goal : Region.Downgrade) (hg : Grants k h o .writable)
    (hknown : k.knowsFutureWrite = true) (hplan : k.GrantsSeals) :
    ComesToOne ((goal.conversion (H := SealedFile)).native h) k := by
  cases goal with
  | shared =>
    have haccepts := accepts_of_grants closingSeals hg
      (fun hfuture => absurd hfuture Bool.false_ne_true) rfl
    exact (toShared_of_accepts h (hplan _ _) haccepts).mono fun _ _ hok => ⟨h, hok, rfl⟩
  | readOnly =>
    have haccepts := accepts_of_grants readOnlySeals hg (fun _ => hknown) rfl
    exact (toReadOnly_of_accepts h (hplan _ _) haccepts).mono fun _ _ hok => ⟨h, hok, rfl⟩

end SealedFile

namespace Session

/-- After any steps of a session that owned nothing at the start, every writable region can be
converted, once. The reserve of a pair is reason enough. With sealed files the kernel must know the
seal against future writable mappings, and it must not turn the request down for reasons of its
own. -/
theorem writable_convertible :
    (∀ (start : Session DescriptorPair) (steps : List Step), start.OwnsNothing →
      (start.runSteps steps).Convertible) ∧
    ∀ (start : Session SealedFile) (steps : List Step), start.OwnsNothing →
      start.system.kernel.knowsFutureWrite = true →
        (start.runSteps steps).system.kernel.GrantsSeals → (start.runSteps steps).Convertible := by
  constructor
  · intro start steps hstart
    exact convertible_of_native hstart steps fun goal _ _ hg =>
      DescriptorPair.native_comesToOne goal hg
  · intro start steps hstart hknown hplan
    have hknown := (runSteps_knowsFutureWrite start steps).trans hknown
    exact convertible_of_native hstart steps fun goal _ _ hg =>
      SealedFile.native_comesToOne goal hg hknown hplan

/-- A writable region is handed on and taken again, and a window is made of it. -/
def retakenSteps : List Step :=
  [.create .writable 100 .host "first", .split "first" "handle",
    .take "handle" ⟨.writable, 100, .nil⟩ "region", .map (some "region") 0 16 .host "window"]

def retaken (H : Type) [Backing H] : Session H := ({} : Session H).runSteps retakenSteps

theorem writable_convertible_of_retaken :
    (∃ r, (retaken DescriptorPair).regions.get? "region" = some r ∧
      (retaken DescriptorPair).ConvertsOnce "region" r .readOnly) ∧
    ∃ r, (retaken SealedFile).regions.get? "region" = some r ∧
      (retaken SealedFile).ConvertsOnce "region" r .shared := by
  obtain ⟨hpairs, hfiles⟩ := writable_convertible
  constructor
  · obtain ⟨r, hr, hvalid, hmode⟩ : ∃ r, (retaken DescriptorPair).regions.get? "region" = some r ∧
        r.isValid = true ∧ r.mode = .writable := ⟨_, rfl, rfl, rfl⟩
    exact ⟨r, hr, hpairs {} retakenSteps ⟨rfl, rfl, rfl⟩ _ r _ hr hvalid hmode⟩
  · obtain ⟨r, hr, hvalid, hmode⟩ : ∃ r, (retaken SealedFile).regions.get? "region" = some r ∧
        r.isValid = true ∧ r.mode = .writable := ⟨_, rfl, rfl, rfl⟩
    have hplan : (retaken SealedFile).system.kernel.GrantsSeals := fun _ _ => rfl
    exact ⟨r, hr, hfiles {} retakenSteps ⟨rfl, rfl, rfl⟩ rfl hplan _ r _ hr hvalid hmode⟩

end Session

end SharedMemory

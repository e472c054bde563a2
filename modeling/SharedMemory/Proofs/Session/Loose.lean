import SharedMemory.Proofs.Session.Natives
/-!
# Loose descriptors

A descriptor may be taken out of a handle, or be cloned while the handle stays where it is. Handles
can be made of one descriptor, and a loose descriptor is in custody as the handle that could be made
of it. So a clone makes a second writer only if this handle would grant the writable mode.
-/
namespace SharedMemory

open Kernel Backing

/-- A backing whose handles can be made of one descriptor. -/
class SingleBacking (H : Type) [Backing H] where
  single : Descriptor → H
  descriptor_single (d : Descriptor) : Backing.descriptor (single d) = d
  reserve_single (d : Descriptor) : Backing.reserve (single d) = none

namespace Session

open SingleBacking Script

variable {H : Type} [Backing H] [SingleBacking H]

/-- A loose descriptor, as a handle of its own. -/
def loosened (d : Descriptor) : List (Holding H) := [⟨single d, none⟩]

private theorem descriptors_single (d : Descriptor) : descriptors (single d : H) = [d] := by
  rw [Backing.descriptors, descriptor_single, reserve_single]
  rfl

variable [Rights H]

theorem kept_single {own : Prop} {k : Kernel} {x : Holding H} (hx : Kept own k x) {d : Descriptor}
    (hd : d ∈ descriptors x.handle) : Kept own k ⟨(single d : H), none⟩ := by
  have hmem : ∀ c ∈ descriptors (single d : H), c ∈ descriptors x.handle := by
    intro c hc
    rw [descriptors_single, List.mem_singleton] at hc
    exact hc ▸ hd
  refine ⟨?_, fun c hc => hx.sound c (hmem c hc), fun hw => ?_, nofun⟩
  · rw [descriptors_single]
    exact List.pairwise_singleton _ _
  · obtain ⟨o, hrefers⟩ := hx.whole hw
    exact ⟨o, fun c hc => hrefers c (hmem c hc)⟩

/-- A step with what a process keeps, which may clone descriptors and drop them. -/
inductive LooseStep : Type 1 where
  | native (step : NativeStep)
  | cloneDescriptor (source dest : String)
  /-- The descriptor belongs to a handle that is only borrowed. -/
  | cloneBorrowed (source : Holder) (spare : Bool) (dest : String)
  | discardDescriptor (name : String)

omit [SingleBacking H] [Rights H] in
def LooseStep.run (s : Session H) : LooseStep → Session H
  | .native step => step.run s
  | .cloneDescriptor source dest => (Session.cloneDescriptor source dest).leave s
  | .cloneBorrowed source spare dest => (Session.cloneBorrowed source spare dest).leave s
  | .discardDescriptor name => (Session.discardDescriptor name).leave s

/-- The step is about to make a second handle that grants the writable mode on one object, or a
second descriptor that such a handle can be made of. -/
def LooseStep.Multiplies (s : Session H) : LooseStep → Prop
  | .native step => step.Multiplies s
  | .cloneDescriptor source _ =>
    ∃ d o, s.loose.get? source = some d ∧ Grants s.system.kernel (single d : H) o .writable
  | .cloneBorrowed source spare _ =>
    ∃ h d o, s.holder? source = some h ∧ descriptor? h spare = some d ∧
      Grants s.system.kernel (single d : H) o .writable
  | .discardDescriptor _ => False

/-- The loose descriptors are in custody too. -/
structure LooseCustody (own : Prop) (hand : List (Holding H)) (s : Session H) : Prop where
  distinct : s.loose.Distinct
  keeps : InCustody own s.loose (s.loose.gather loosened ++ hand) s

variable {own : Prop} {k : Kernel} {hand hand' : List (Holding H)} {s : Session H} {h : H}
  {d : Descriptor} {name : String}

namespace LooseCustody

private theorem of_inCustody {loose : Slots Descriptor} (hd : loose.Distinct)
    (hs : InCustody own loose (loose.gather loosened ++ hand) s) : LooseCustody own hand s := by
  obtain rfl := hs.loose
  exact ⟨hd, hs⟩

theorem of_empty (hregions : s.regions = .empty) (hhandles : s.handles = .empty)
    (hloose : s.loose = .empty) : LooseCustody own [] s := by
  have hs : InCustody own s.loose [] s := inCustody_of_empty hregions hhandles
  rw [hloose] at hs
  exact .of_inCustody Slots.distinct_empty hs

theorem perm (hs : LooseCustody own hand s) (hp : hand.Perm hand') : LooseCustody own hand' s :=
  ⟨hs.distinct, hs.keeps.perm (hp.append_left _)⟩

theorem front (hs : LooseCustody own hand s) :
    Custody own s.system.kernel (hand ++ (s.loose.gather loosened ++ s.holdings)) := by
  have hc := (hs.keeps.perm List.perm_append_comm).front
  rwa [List.append_assoc] at hc

theorem act {system : System} (hs : LooseCustody own hand s)
    (hc : Custody own system.kernel (hand' ++ (s.loose.gather loosened ++ s.holdings))) :
    LooseCustody own hand' { s with system } := by
  rw [← List.append_assoc] at hc
  exact ⟨hs.distinct, (hs.keeps.act hc).perm List.perm_append_comm⟩

theorem eraseLoose (hs : LooseCustody own hand s) (name : String) :
    LooseCustody own ((s.loose.get? name).toList.flatMap loosened ++ hand)
      { s with loose := s.loose.erase name } := by
  refine ⟨hs.distinct.erase name, hs.keeps.regions, hs.keeps.handles, rfl, hs.keeps.tidy, ?_⟩
  refine hs.keeps.custody.perm (List.Perm.append_left s.holdings ?_)
  refine ((Slots.gather_perm hs.distinct name loosened).append_right hand).trans ?_
  rw [List.append_assoc]
  exact List.perm_append_comm_assoc _ _ _

theorem takeLoose (hs : LooseCustody own hand s) (hd : s.loose.get? name = some d) :
    LooseCustody own (⟨single d, none⟩ :: hand) { s with loose := s.loose.erase name } := by
  have herase := hs.eraseLoose name
  rw [hd] at herase
  exact herase

theorem layLoose
    (hs : LooseCustody own (⟨single d, none⟩ :: hand) { s with loose := s.loose.erase name })
    (hdistinct : s.loose.Distinct) :
    LooseCustody own hand { s with loose := s.loose.put name d } := by
  refine ⟨hdistinct.put name d, hs.keeps.regions, hs.keeps.handles, rfl, hs.keeps.tidy, ?_⟩
  refine hs.keeps.custody.perm (List.Perm.append_left s.holdings ?_)
  rw [Slots.gather_put, List.append_assoc]
  exact (List.perm_append_comm_assoc (loosened d) _ hand).symm

theorem takeHandle (hs : LooseCustody own hand s) (hh : s.handles.get? name = some h) :
    LooseCustody own (⟨h, none⟩ :: hand) { s with handles := s.handles.erase name } :=
  ⟨hs.distinct, (hs.keeps.takeHandle hh).perm
    (List.perm_append_comm_assoc (bare h) (s.loose.gather loosened) hand)⟩

theorem kept (hs : LooseCustody own hand s) (hd : s.loose.get? name = some d) :
    Kept own s.system.kernel ⟨(single d : H), none⟩ :=
  hs.front.each _ (List.mem_append_right _ (List.mem_append_left _
    (List.mem_flatMap.mpr ⟨d, Slots.mem_values_of_get? hd, List.mem_singleton_self _⟩)))

variable [LawfulBacking H]

theorem putHandle (hs : LooseCustody own (⟨h, none⟩ :: hand) s) :
    (Session.putHandle name h).Yields s fun _ s' => LooseCustody own hand s' :=
  (putHandle_yields (hs.keeps.perm
    (List.perm_append_comm_assoc (s.loose.gather loosened) (bare h) hand))).mono
      fun _ _ hkeeps => of_inCustody hs.distinct hkeeps

end LooseCustody

variable [LawfulBacking H]

private theorem dropDescriptor_yields (old : Option Descriptor)
    (hs : LooseCustody own (old.toList.flatMap loosened ++ hand) s) :
    (dropDescriptor old).Yields s fun x s' => x = some () ∧ LooseCustody own hand s' := by
  cases old with
  | none => exact .pure ⟨rfl, hs⟩
  | some d =>
    refine .act (.closeDescriptor ?_)
    intro k' hk' system hsys
    have hshift : Shift (descriptors (single d : H)) [] [] s.system.kernel k' := by
      rw [descriptors_single]
      exact ((Shift.refl _).forget List.not_mem_nil).alike hk'
    subst hsys
    exact ⟨rfl, hs.act (hs.front.release hshift)⟩

theorem putDescriptor_yields (hs : LooseCustody own (⟨single d, none⟩ :: hand) s) :
    (putDescriptor name d).Yields s fun x s' => x = some () ∧ LooseCustody own hand s' := by
  refine .bind (.get (.bind (.modify (dropDescriptor_yields _ ?_))))
  have herase := (hs.eraseLoose name).perm
    (List.perm_append_comm_assoc ((s.loose.get? name).toList.flatMap loosened) (loosened d) hand)
  exact herase.layLoose hs.distinct

theorem clone_yields {x : Holding H} (hs : LooseCustody own hand s)
    (hx : Kept own s.system.kernel x) (hd : d ∈ descriptors x.handle)
    (hreader : ∀ o, ¬ Grants s.system.kernel (single d : H) o .writable) :
    (Effect.attempt (Kernel.duplicate d)).Yields s.system.kernel fun outcome k' =>
      ∀ system : System, system.kernel = k' →
        match outcome with
        | .error _ => LooseCustody own hand { s with system }
        | .ok copy => LooseCustody own (⟨single copy, none⟩ :: hand) { s with system } ∧
            Shift [] [copy] [] s.system.kernel k' ∧ k'.file? copy = s.system.kernel.file? d := by
  have hopen := hx.sound.isOpen hd
  refine .attempt (fun copy k' hcall system hsys => ?_) fun k' hcall system hsys => ?_
  · subst hsys
    obtain ⟨hshift, hid⟩ := Shift.of_duplicate hopen hcall
    have hfile := hshift.file?_eq_of_fileId? hopen hid
    refine ⟨hs.act ?_, hshift, hfile⟩
    refine hs.front.copies (kept_single hx hd) hreader ?_ ?_ ⟨?_, ?_⟩
    · rwa [descriptors_single]
    · rw [descriptors_single]
      exact List.pairwise_singleton _ _
    · rwa [descriptor_single, descriptor_single]
    · rw [reserve_single, reserve_single]
      rfl
  · subst hsys
    exact hs.act (hs.front.alike (invoke_none hcall))

private theorem keepClone_yields {x : Holding H} (dest : String) (hs : LooseCustody own hand s)
    (hx : Kept own s.system.kernel x) (hd : d ∈ descriptors x.handle)
    (hreader : ∀ o, ¬ Grants s.system.kernel (single d : H) o .writable) :
    (keepClone d dest).Yields s fun _ s' => LooseCustody own hand s' := by
  refine .bind (.act ((clone_yields hs hx hd hreader).mono ?_))
  intro outcome k' hk' system hsys
  have hclone := hk' system hsys
  cases outcome with
  | error e => exact .pure hclone
  | ok copy =>
    exact .keep ((putDescriptor_yields hclone.1).mono fun _ _ hs' => hs'.2) fun _ _ hs' =>
      .bind (.viewDescriptor fun _ => .pure hs')

private theorem cloneDescriptor_yields (source dest : String) (hs : LooseCustody own hand s)
    (hstep : ¬ LooseStep.Multiplies s (.cloneDescriptor source dest)) :
    (cloneDescriptor source dest).Yields s fun _ s' => LooseCustody own hand s' := by
  refine .bind (.held hs fun d hd => keepClone_yields dest hs (hs.kept hd) ?_ ?_)
  · rw [descriptors_single]
    exact List.mem_singleton_self d
  · exact fun o hg => hstep ⟨d, o, hd, hg⟩

private theorem cloneBorrowed_yields (source : Holder) (spare : Bool) (dest : String)
    (hs : LooseCustody own hand s)
    (hstep : ¬ LooseStep.Multiplies s (.cloneBorrowed source spare dest)) :
    (cloneBorrowed source spare dest).Yields s fun _ s' => LooseCustody own hand s' := by
  refine .bind (.holder hs fun h hh => ?_)
  dsimp only
  split
  · rename_i d hd
    obtain ⟨header, hmem⟩ := mem_holdings_of_holder? hh
    have hkept := hs.keeps.custody.each _ (List.mem_append_left _ hmem)
    exact keepClone_yields dest hs hkept (descriptor?_mem hd) fun o hg =>
      hstep ⟨h, d, o, hh, hd, hg⟩
  · exact hs

private theorem discardDescriptor_yields (name : String) (hs : LooseCustody own hand s) :
    (discardDescriptor name).Yields s fun _ s' => LooseCustody own hand s' :=
  .bind (.get (.bind (.modify (.keep
    ((dropDescriptor_yields _ (hs.eraseLoose name)).mono fun _ _ hs' => hs'.2)
    fun _ _ hs' => .pure hs'))))

theorem LooseCustody.loose (hs : LooseCustody own [] s) (step : LooseStep)
    (hstep : ¬ step.Multiplies s) : LooseCustody own [] (step.run s) := by
  cases step with
  | native step => exact of_inCustody hs.distinct (hs.keeps.native step hstep)
  | cloneDescriptor source dest => exact cloneDescriptor_yields source dest hs hstep
  | cloneBorrowed source spare dest => exact cloneBorrowed_yields source spare dest hs hstep
  | discardDescriptor name => exact discardDescriptor_yields name hs

end Session

end SharedMemory

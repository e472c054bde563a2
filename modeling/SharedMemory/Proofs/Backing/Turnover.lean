import SharedMemory.Proofs.Backing.SealedFile
import SharedMemory.Proofs.Calling
import SharedMemory.Proofs.Kernel.Turnover
/-!
# The descriptors of a backing

Each operation of a backing accounts for the descriptors that it opens: they are those of the
handle that it answers with, or it has closed them. A conversion has those of the old handle at the
start and those of the new one at the end, or still those of the old one if it failed.
-/
namespace SharedMemory

open Kernel Effect

variable {k k₀ : Kernel} {ds ds₀ : List Descriptor} {d : Descriptor}

/-- What opens no descriptor and closes none leaves a caller with those that it has. -/
theorem turnover_closed (k₀ : Kernel) (ds₀ : List Descriptor) :
    Closed Operation.keepsDescriptors fun s s' =>
      ∀ ds, Turnover k₀ ds₀ s.kernel ds → Turnover k₀ ds₀ s'.kernel ds where
  refl _ _ h := h
  trans h h' ds hds := h' ds (h ds hds)
  perform _ _ hop _ h := h.keep hop
  journal _ _ _ h := h

namespace Kernel.Turnover

theorem within {α : Type} {a : Effect α} (h : Turnover k₀ ds₀ k ds)
    (ha : Within (fun s s' => ∀ ds, Turnover k₀ ds₀ s.kernel ds → Turnover k₀ ds₀ s'.kernel ds) a) :
    a.Yields k fun _ k' => Turnover k₀ ds₀ k' ds := by
  rintro s rfl
  exact ha s ds h

theorem attempt {call : Kernel → Option Descriptor × Kernel} (op : Operation)
    (hcloses : op.closes = false) (hperform : op.perform k = (call k).2)
    (hopened : op.opened k = (call k).1.toList) (h : Turnover k₀ ds₀ k ds) :
    (Effect.attempt call).Yields k fun outcome k' =>
      Turnover k₀ ds₀ k' (outcome.toOption.toList ++ ds) := by
  have hopens := h.opens hcloses hperform hopened
  refine .attempt (fun x k' hcall => ?_) fun k' hcall => ?_
  · rw [hcall] at hopens
    exact hopens
  · rw [hcall] at hopens
    exact hopens

theorem closeDescriptor (h : Turnover k₀ ds₀ k (d :: ds)) :
    (Backing.closeDescriptor d).Yields k fun _ k' => Turnover k₀ ds₀ k' ds := by
  have hclose := h.close d
  refine .bind (.attempt (fun x k' hcall => .pure ?_) fun k' hcall => .pure ?_)
  · rw [hcall] at hclose
    exact hclose
  · rw [hcall] at hclose
    exact hclose

theorem swap {e : Descriptor} (h : Turnover k₀ ds₀ k (d :: e :: ds)) :
    Turnover k₀ ds₀ k (e :: d :: ds) := h.perm (.swap e d ds)

end Kernel.Turnover

namespace Backing

variable {H ε : Type} [Backing H]

/-- The descriptors of the handle that an operation has made. -/
def gained : Except ε H → List Descriptor
  | .ok h => descriptors h
  | .error _ => []

/-- The descriptors of the handle that there is after a conversion. -/
def retained (h : H) : Except ε H → List Descriptor
  | .ok converted => descriptors converted
  | .error _ => descriptors h

end Backing

open Backing

/-- A backing that closes what it has opened and does not answer with. -/
class ThriftyBacking (H : Type) [Backing H] : Prop where
  allocate {k k₀ : Kernel} {ds ds₀ : List Descriptor} (mode : Mode) (size : Nat) :
    Turnover k₀ ds₀ k ds → (Backing.allocate (H := H) mode size).Yields k fun outcome k' =>
      Turnover k₀ ds₀ k' (gained outcome ++ ds)
  duplicate {k k₀ : Kernel} {ds ds₀ : List Descriptor} (h : H) :
    Turnover k₀ ds₀ k ds → (Backing.duplicate h).Yields k fun outcome k' =>
      Turnover k₀ ds₀ k' (gained outcome ++ ds)
  toReadOnly {k k₀ : Kernel} {ds ds₀ : List Descriptor} (h : H) :
    Turnover k₀ ds₀ k (descriptors h ++ ds) →
      (Backing.toReadOnly h).Yields k fun outcome k' =>
        Turnover k₀ ds₀ k' (retained h outcome ++ ds)
  toShared {k k₀ : Kernel} {ds ds₀ : List Descriptor} (h : H) :
    Turnover k₀ ds₀ k (descriptors h ++ ds) →
      (Backing.toShared h).Yields k fun outcome k' => Turnover k₀ ds₀ k' (retained h outcome ++ ds)
  release {k k₀ : Kernel} {ds ds₀ : List Descriptor} (h : H) :
    Turnover k₀ ds₀ k (descriptors h ++ ds) →
      (Backing.release h).Yields k fun _ k' => Turnover k₀ ds₀ k' ds
  corresponds {R : System → System → Prop} (h : H) (mode : Mode) (size : Nat) :
    Closed Operation.keepsDescriptors R → Within R (Backing.corresponds h mode size)
  sameFile {R : System → System → Prop} (a b : Descriptor) :
    Closed Operation.keepsDescriptors R → Within R (Backing.sameFile H a b)

theorem Effect.Closed.looks_of_keepsDescriptors {R : System → System → Prop}
    (hR : Closed Operation.keepsDescriptors R) : Closed Operation.looks R :=
  hR.mono fun op hop => by
    cases op with
    | queryAccess | queryLength | querySeals => rfl
    | _ => cases hop

namespace SealedFile

private theorem orClose_turnover {step : Effect (Except Errno Unit)}
    (hstep : Within (fun s s' => ∀ ds, Turnover k₀ ds₀ s.kernel ds → Turnover k₀ ds₀ s'.kernel ds)
      step) (h : Turnover k₀ ds₀ k (d :: ds)) :
    (orClose d step).Yields k fun outcome k' =>
      match outcome with
      | .ok () => Turnover k₀ ds₀ k' (d :: ds)
      | .error _ => Turnover k₀ ds₀ k' ds := by
  refine .bind ((h.within hstep).mono ?_)
  intro outcome k' hk'
  cases outcome with
  | ok x => exact .pure hk'
  | error e => exact .bind (hk'.closeDescriptor.mono fun _ _ hk'' => .pure hk'')

private theorem allocate_turnover (mode : Mode) (size : Nat) (h : Turnover k₀ ds₀ k ds) :
    (allocate mode size).Yields k fun outcome k' => Turnover k₀ ds₀ k' (gained outcome ++ ds) := by
  have hclosed := turnover_closed k₀ ds₀
  refine .bind ((h.attempt (.createMemory true) rfl rfl rfl).mono ?_)
  intro outcome k₁ h₁
  cases outcome with
  | error e => exact .pure h₁
  | ok fd =>
    have hlength := hclosed.attempt (.setLength fd (signed size)) rfl fun _ => rfl
    refine .bind ((orClose_turnover hlength h₁).mono ?_)
    intro outcome k₂ h₂
    cases outcome with
    | error e => exact .pure h₂
    | ok x =>
      have hseals := addSeals_within hclosed (fun _ _ => rfl) fd (initialSeals mode)
      refine .bind ((orClose_turnover hseals h₂).mono ?_)
      intro outcome k₃ h₃
      cases outcome with
      | error e => exact .pure h₃
      | ok x => exact .pure h₃

theorem duplicate_turnover (h : SealedFile) (ht : Turnover k₀ ds₀ k ds) :
    h.duplicate.Yields k fun outcome k' => Turnover k₀ ds₀ k' (gained outcome ++ ds) := by
  refine .bind ((ht.attempt (.duplicate h.fd) rfl rfl rfl).mono ?_)
  intro outcome k' hk'
  cases outcome with
  | error e => exact .pure hk'
  | ok fd => exact .pure hk'

private theorem toReadOnly_turnover (h : SealedFile)
    (ht : Turnover k₀ ds₀ k (descriptors h ++ ds)) :
    h.toReadOnly.Yields k fun outcome k' => Turnover k₀ ds₀ k' (retained h outcome ++ ds) := by
  have hwithin := toReadOnly_within (turnover_closed k₀ ds₀) (fun _ _ => rfl) h
  refine ((ht.within hwithin).and (toReadOnly_yields h k)).mono ?_
  rintro outcome k' ⟨hk', hsame⟩
  cases outcome with
  | error e => exact hk'
  | ok converted => exact hsame.1 ▸ hk'

private theorem toShared_turnover (h : SealedFile) (ht : Turnover k₀ ds₀ k (descriptors h ++ ds)) :
    h.toShared.Yields k fun outcome k' => Turnover k₀ ds₀ k' (retained h outcome ++ ds) := by
  have hwithin := toShared_within (turnover_closed k₀ ds₀) (fun _ _ => rfl) h
  refine ((ht.within hwithin).and (toShared_yields h k)).mono ?_
  rintro outcome k' ⟨hk', hsame⟩
  cases outcome with
  | error e => exact hk'
  | ok converted => exact hsame.1 ▸ hk'

private theorem sameFile_within {R : System → System → Prop}
    (hR : Closed Operation.keepsDescriptors R)
    (a b : Descriptor) : Within R (SealedFile.sameFile a b) := by
  unfold SealedFile.sameFile
  split
  · exact hR.pure _
  · refine hR.bind (hR.attempt (.compareFiles a b) rfl fun _ => rfl) ?_
    intro outcome
    cases outcome with
    | ok same => exact hR.pure _
    | error e => exact hR.pure _

instance : ThriftyBacking SealedFile where
  allocate := allocate_turnover
  duplicate := duplicate_turnover
  toReadOnly := toReadOnly_turnover
  toShared := toShared_turnover
  release _ ht := ht.closeDescriptor
  corresponds h mode size hR := corresponds_within hR.looks_of_keepsDescriptors h mode size
  sameFile a b hR := sameFile_within hR a b

end SealedFile

namespace DescriptorPair

private theorem openMarked_turnover {call : Kernel → Option Descriptor × Kernel} (op : Operation)
    (hcloses : op.closes = false) (hperform : op.perform k = (call k).2)
    (hopened : op.opened k = (call k).1.toList) (h : Turnover k₀ ds₀ k ds) :
    (openMarked call).Yields k fun outcome k' =>
      Turnover k₀ ds₀ k' (outcome.toOption.toList ++ ds) := by
  refine .bind ((h.attempt op hcloses hperform hopened).mono ?_)
  intro outcome k₁ h₁
  cases outcome with
  | error e => exact .pure h₁
  | ok d =>
    have hmark := (turnover_closed k₀ ds₀).attempt (.markCloseOnExec d) rfl fun _ => rfl
    refine .bind ((h₁.within hmark).mono ?_)
    intro outcome k₂ h₂
    cases outcome with
    | ok x => exact .pure h₂
    | error e => exact .bind (h₂.closeDescriptor.mono fun _ _ h₃ => .pure h₃)

private theorem unlink_turnover (name : String) (h : Turnover k₀ ds₀ k ds) :
    (unlink name).Yields k fun _ k' => Turnover k₀ ds₀ k' ds := by
  have hunlink := (turnover_closed k₀ ds₀).attempt (.unlinkShared name) rfl fun _ => rfl
  refine .bind ((h.within hunlink).mono ?_)
  intro outcome k' hk'
  cases outcome with
  | ok x => exact .pure hk'
  | error e => exact .record hk'

private theorem setLength_within {R : System → System → Prop}
    (hR : Closed Operation.keepsDescriptors R)
    (d : Descriptor) (size : Nat) : Within R (DescriptorPair.setLength d size) := by
  unfold DescriptorPair.setLength
  split
  · exact hR.attempt (.setLength d size) rfl fun _ => rfl
  · exact hR.pure _

private theorem sized_turnover (h : DescriptorPair) (size : Nat)
    (ht : Turnover k₀ ds₀ k (descriptors h ++ ds)) :
    (sized h size).Yields k fun outcome k' => Turnover k₀ ds₀ k' (gained outcome ++ ds) := by
  obtain ⟨fd, spare⟩ := h
  refine .bind ((ht.within (setLength_within (turnover_closed k₀ ds₀) fd size)).mono ?_)
  intro outcome k₁ h₁
  cases outcome with
  | ok x => exact .pure h₁
  | error e =>
    cases spare with
    | none => exact .bind (h₁.closeDescriptor.mono fun _ _ h₂ => .pure h₂)
    | some spare =>
      refine .bind (h₁.swap.closeDescriptor.mono fun _ k₂ h₂ => ?_)
      exact .bind (h₂.closeDescriptor.mono fun _ _ h₃ => .pure h₃)

private theorem allocate_turnover (mode : Mode) (size : Nat) (h : Turnover k₀ ds₀ k ds) :
    (allocate mode size).Yields k fun outcome k' => Turnover k₀ ds₀ k' (gained outcome ++ ds) := by
  refine .bind (.freshName fun name => ?_)
  refine .bind ((openMarked_turnover (.createShared name) rfl rfl rfl h).mono ?_)
  intro outcome k₁ h₁
  cases outcome with
  | error e => exact .bind ((unlink_turnover name h₁).mono fun _ _ h₂ => .pure h₂)
  | ok fd =>
    dsimp only
    split
    · refine .bind ((openMarked_turnover (.openShared name) rfl rfl rfl h₁).mono ?_)
      intro spare k₂ h₂
      refine .bind ((unlink_turnover name h₂).mono fun _ k₃ h₃ => ?_)
      cases spare with
      | error e => exact .bind (h₃.closeDescriptor.mono fun _ _ h₄ => .pure h₄)
      | ok spare => exact sized_turnover ⟨fd, some spare⟩ size h₃.swap
    · exact .bind ((unlink_turnover name h₁).mono fun _ _ h₂ => sized_turnover ⟨fd, none⟩ size h₂)

theorem duplicate_turnover (h : DescriptorPair) (ht : Turnover k₀ ds₀ k ds) :
    h.duplicate.Yields k fun outcome k' => Turnover k₀ ds₀ k' (gained outcome ++ ds) := by
  unfold duplicate
  split
  · refine .bind ((ht.attempt (.duplicate h.fd) rfl rfl rfl).mono ?_)
    intro outcome k₁ h₁
    cases outcome with
    | error e => exact .pure h₁
    | ok fd => exact .pure h₁
  · rename_i spare _
    refine .bind ((ht.attempt (.duplicate spare) rfl rfl rfl).mono ?_)
    intro outcome k₁ h₁
    cases outcome with
    | error e => exact .pure h₁
    | ok spare =>
      refine .bind ((h₁.attempt (.duplicate h.fd) rfl rfl rfl).mono ?_)
      intro outcome k₂ h₂
      cases outcome with
      | ok fd => exact .pure h₂
      | error e => exact .bind (h₂.closeDescriptor.mono fun _ _ h₃ => .pure h₃)

private theorem toReadOnly_turnover (h : DescriptorPair)
    (ht : Turnover k₀ ds₀ k (descriptors h ++ ds)) :
    h.toReadOnly.Yields k fun outcome k' => Turnover k₀ ds₀ k' (retained h outcome ++ ds) := by
  obtain ⟨fd, spare⟩ := h
  cases spare with
  | none => exact .pure ht
  | some spare => exact .bind (ht.closeDescriptor.mono fun _ _ hk' => .pure hk')

private theorem toShared_turnover (h : DescriptorPair)
    (ht : Turnover k₀ ds₀ k (descriptors h ++ ds)) :
    h.toShared.Yields k fun outcome k' => Turnover k₀ ds₀ k' (retained h outcome ++ ds) := by
  obtain ⟨fd, spare⟩ := h
  cases spare with
  | none => exact .pure ht
  | some spare => exact .bind (ht.swap.closeDescriptor.mono fun _ _ hk' => .pure hk')

theorem release_turnover (h : DescriptorPair) (ht : Turnover k₀ ds₀ k (descriptors h ++ ds)) :
    h.release.Yields k fun _ k' => Turnover k₀ ds₀ k' ds := by
  obtain ⟨fd, spare⟩ := h
  refine .bind (ht.closeDescriptor.mono fun _ k₁ h₁ => ?_)
  cases spare with
  | none => exact .pure h₁
  | some spare => exact h₁.closeDescriptor

instance : ThriftyBacking DescriptorPair where
  allocate := allocate_turnover
  duplicate := duplicate_turnover
  toReadOnly := toReadOnly_turnover
  toShared := toShared_turnover
  release := release_turnover
  corresponds h mode size hR := corresponds_within hR.looks_of_keepsDescriptors h mode size
  sameFile a b hR := hR.pure (a == b)

end DescriptorPair

end SharedMemory

import SharedMemory.Proofs.Backing.Turnover
import SharedMemory.Proofs.Failure
import SharedMemory.Proofs.Session.Inventory
/-!
# The descriptors that a session owns

Behind a region stand the descriptors of its handle, if it has one; handles and loose descriptors
own what they are made of. What the steps of a session do with them is a turnover of descriptors,
so what a session owns is open, once each, and all that it has opened and not closed.
-/
namespace SharedMemory

open Kernel Backing Effect

variable {H : Type} [Backing H] {k k₀ : Kernel} {ds ds₀ : List Descriptor}

namespace Region

variable [ThriftyBacking H]

private theorem create_turnover (mode : Mode) (size : Nat) (layout : Layout)
    (h : Turnover k₀ ds₀ k ds) :
    (create (H := H) mode size layout).Yields k fun outcome k' =>
      match outcome with
      | .error _ => Turnover k₀ ds₀ k' ds
      | .ok r => Turnover k₀ ds₀ k' (r.descriptors ++ ds) := by
  unfold create
  split
  · exact .pure h
  · split
    · exact .pure h
    · split
      · exact .pure h
      · refine .bind ((ThriftyBacking.allocate mode _ h).mono ?_)
        intro outcome k' hk'
        cases outcome with
        | error e => exact .bind (.record (.pure hk'))
        | ok handle => exact .bind (.freshGuid fun guid => .bind (.record (.pure hk')))

private theorem Downgrade.native_turnover (goal : Downgrade) (handle : H)
    (h : Turnover k₀ ds₀ k (Backing.descriptors handle ++ ds)) :
    ((goal.conversion (H := H)).native handle).Yields k fun outcome k' =>
      Turnover k₀ ds₀ k' (retained handle outcome ++ ds) := by
  cases goal with
  | readOnly => exact ThriftyBacking.toReadOnly handle h
  | shared => exact ThriftyBacking.toShared handle h

private theorem convert_turnover (r : Region H) (goal : Downgrade)
    (h : Turnover k₀ ds₀ k (r.descriptors ++ ds)) :
    (r.convert goal.conversion).Yields k fun outcome k' =>
      match outcome with
      | .error _ => Turnover k₀ ds₀ k' (r.descriptors ++ ds)
      | .ok converted => Turnover k₀ ds₀ k' (converted.descriptors ++ ds) := by
  refine .convert (fun _ => h) (fun _ _ _ => h) fun handle hhandle _ => ?_
  rw [descriptors_of_some hhandle] at h ⊢
  refine (goal.native_turnover handle h).mono ?_
  intro outcome k' hk'
  cases outcome with
  | error e => exact hk'
  | ok converted => exact hk'

theorem duplicate_turnover (r : Region H) (h : Turnover k₀ ds₀ k ds) :
    r.duplicate.Yields k fun outcome k' =>
      match outcome with
      | .error _ => Turnover k₀ ds₀ k' ds
      | .ok copy => Turnover k₀ ds₀ k' (copy.descriptors ++ ds) := by
  unfold duplicate
  split
  · exact .pure h
  · split
    · exact .pure h
    · refine .bind ((ThriftyBacking.duplicate _ h).mono ?_)
      intro outcome k' hk'
      cases outcome with
      | error e => exact .bind (.record (.pure hk'))
      | ok handle => exact .pure hk'

theorem release_turnover (r : Region H) (h : Turnover k₀ ds₀ k (r.descriptors ++ ds)) :
    r.release.Yields k fun _ k' => Turnover k₀ ds₀ k' ds := by
  unfold release
  split
  · rename_i hhandle
    rw [descriptors_of_none hhandle] at h
    exact .pure h
  · rename_i handle hhandle
    rw [descriptors_of_some hhandle] at h
    exact ThriftyBacking.release handle h

private theorem take_turnover (handle : H) (header : Header)
    (h : Turnover k₀ ds₀ k (Backing.descriptors handle ++ ds)) :
    (take handle header).Yields k fun outcome k' =>
      match outcome with
      | .error _ => Turnover k₀ ds₀ k' ds
      | .ok r => Turnover k₀ ds₀ k' (r.descriptors ++ ds) := by
  unfold take
  split
  · exact .bind ((ThriftyBacking.release handle h).mono fun _ _ hk' => .pure hk')
  · have hlook := ThriftyBacking.corresponds handle header.mode header.size (turnover_closed k₀ ds₀)
    refine .bind ((h.within hlook).mono ?_)
    intro answer k₁ h₁
    split
    · exact .pure h₁
    · exact .bind ((ThriftyBacking.release handle h₁).mono fun _ _ h₂ => .pure h₂)

end Region

/-- The descriptors that stand behind what a session keeps. -/
def Inventory.descriptors : Inventory H Descriptor where
  region := Region.descriptors
  handle _ := Backing.descriptors
  loose d := [d]

namespace Session

open Script

/-- The descriptors that a session owns, one for each that owns it. -/
def owned (s : Session H) : List Descriptor := s.items .descriptors

/-- The property of a system that the descriptors `ds` are what its caller has after a turnover. -/
def Accounts (k₀ : Kernel) (y : System) (ds : List Descriptor) : Prop :=
  Turnover k₀ [] y.kernel ds

variable {hand : List Descriptor} {s : Session H} {d : Descriptor} {name : String}

omit [Backing H] in
theorem accounts_closed (k₀ : Kernel) :
    Closed Operation.keepsDescriptors fun y y' => ∀ ds, Accounts k₀ y ds → Accounts k₀ y' ds :=
  turnover_closed k₀ []

private theorem descriptors_passes (dest : String) (r : Option (Region H)) :
    (Inventory.descriptors (H := H)).Passes .descriptors dest r := by
  unfold Inventory.Passes
  split
  · rfl
  · rename_i r h heq
    obtain ⟨r', rfl, hr'⟩ := Option.bind_eq_some_iff.mp heq
    obtain ⟨h', hhandle, hpair⟩ := Option.map_eq_some_iff.mp hr'
    obtain ⟨rfl, rfl⟩ := Prod.mk.inj hpair
    exact ⟨Backing.descriptors, (Region.descriptors_of_some hhandle).symm,
      (Inventory.relabel_self _ dest).symm⟩

theorem Stocked.descriptors_step {P : System → List Descriptor → Prop}
    (hs : Stocked .descriptors P hand s) (hP : (Inventory.descriptors (H := H)).Lasts P)
    (haccepts : ∀ name h header, (Inventory.descriptors (H := H)).Accepts P name h header)
    (step : Step) : Stocked .descriptors P hand (step.run s) := by
  cases hstep : step.handsOver with
  | false => exact hs.step hP hstep
  | true =>
    cases step with
    | takeHandle source dest =>
      exact takeHandle_stocked hP source dest hs (descriptors_passes dest _)
    | passHandle source dest =>
      exact passHandle_stocked hP source dest hs (descriptors_passes dest _)
    | split source dest => exact split_stocked hP source dest hs (descriptors_passes dest _)
    | take source header dest =>
      exact take_stocked hP source header dest hs fun h _ => haccepts source h header
    | _ => cases hstep

private theorem dropDescriptor_stocked (old : Option Descriptor)
    (hs : Stocked .descriptors (Accounts k₀)
      (old.toList.flatMap (Inventory.descriptors (H := H)).loose ++ hand) s) :
    (dropDescriptor old).Yields s fun x s' =>
      x = some () ∧ Stocked .descriptors (Accounts k₀) hand s' := by
  cases old with
  | none => exact .pure ⟨rfl, hs⟩
  | some d =>
    exact .leads ((Leads.of_yields (Turnover.closeDescriptor hs.has)).mono fun _ _ hy =>
      ⟨rfl, hs.act hy⟩)

theorem tryMap_stocked (source : Holder) (protection : Protection) (offset size : Nat)
    (hs : Stocked .descriptors (Accounts k₀) hand s) :
    (tryMap source protection offset size none).Yields s fun _ s' =>
      Stocked .descriptors (Accounts k₀) hand s' := by
  have hclosed := accounts_closed k₀
  refine .bind (.holder hs fun h _ => ?_)
  have hmap := Window.mapNative_within hclosed (fun _ _ _ _ => rfl) (Backing.descriptor h)
    offset size protection
  refine .keep (act_stocked hs hmap) fun outcome s' hs' => ?_
  cases outcome with
  | error e => exact .pure hs'
  | ok id =>
    have hunmap := hclosed.attempt (.unmap id) rfl fun _ => rfl
    exact .keep (act_stocked hs' hunmap) fun _ _ hs'' => .pure hs''

variable [ThriftyBacking H]

theorem accounts_last (k₀ : Kernel) :
    (Inventory.descriptors (H := H)).Lasts (Accounts k₀) where
  perm := Turnover.perm
  still := accounts_closed k₀
  invalid h := h
  create mode size layout h := .of_yields (Region.create_turnover mode size layout h)
  convert r goal h := .of_yields (r.convert_turnover goal h)
  duplicate r h := .of_yields (r.duplicate_turnover h)
  release r h := .of_yields (r.release_turnover h)
  releaseHandle _ h ht := .of_yields (ThriftyBacking.release h ht)

private theorem descriptors_accepts (name : String) (h : H) (header : Header) :
    Inventory.descriptors.Accepts (Accounts k₀) name h header :=
  fun ht => .of_yields (Region.take_turnover h header ht)

theorem step_stocked (step : Step) (hs : Stocked .descriptors (Accounts k₀) hand s) :
    Stocked .descriptors (Accounts k₀) hand (step.run s) :=
  hs.descriptors_step (accounts_last k₀) descriptors_accepts step

theorem putHandle_accounts {h : H}
    (hs : Stocked .descriptors (Accounts k₀) (Backing.descriptors h ++ hand) s) :
    (putHandle name h).Yields s fun _ s' => Stocked .descriptors (Accounts k₀) hand s' :=
  putHandle_stocked_self (accounts_last k₀) hs

theorem Stocked.takeDescriptor (hs : Stocked .descriptors (Accounts k₀) hand s)
    (hd : s.loose.get? name = some d) :
    Stocked .descriptors (Accounts k₀) (d :: hand) { s with loose := s.loose.erase name } :=
  hs.takeLoose (accounts_last k₀) hd

theorem putDescriptor_stocked (hs : Stocked .descriptors (Accounts k₀) (d :: hand) s) :
    (putDescriptor name d).Yields s fun x s' =>
      x = some () ∧ Stocked .descriptors (Accounts k₀) hand s' := by
  have hd : Stocked .descriptors (Accounts k₀)
      ((Inventory.descriptors (H := H)).loose d ++ hand) s := hs
  exact .bind (.get (.bind (.modify
    (dropDescriptor_stocked _ (hd.swapLoose (accounts_last k₀) name)))))

/-- A handle that was just made is put under a name, or nothing was made. -/
theorem allocate_stocked (mode : Mode) (size : Nat) (dest : String)
    (hs : Stocked .descriptors (Accounts k₀) hand s) :
    (allocate mode size dest none).Yields s fun _ s' =>
      Stocked .descriptors (Accounts k₀) hand s' := by
  refine .bind (.leads ((Leads.of_yields (ThriftyBacking.allocate mode size hs.has)).mono ?_))
  intro outcome y hy
  cases outcome with
  | error e => exact .pure (hs.act hy)
  | ok h =>
    exact .keep (putHandle_accounts (hs.gain hy)) fun _ _ hs' =>
      .bind (.viewHandle fun _ => .pure hs')

theorem duplicateHandle_stocked (source : Holder) (dest : String)
    (hs : Stocked .descriptors (Accounts k₀) hand s) :
    (duplicateHandle source dest none).Yields s fun _ s' =>
      Stocked .descriptors (Accounts k₀) hand s' := by
  refine .bind (.holder hs fun h _ => ?_)
  refine .bind (.leads ((Leads.of_yields (ThriftyBacking.duplicate h hs.has)).mono ?_))
  intro outcome y hy
  cases outcome with
  | error e => exact .pure (hs.act hy)
  | ok copy =>
    exact .keep (putHandle_accounts (hs.gain hy)) fun _ _ hs' =>
      .bind (.viewHandle fun _ => .pure hs')

theorem convertHandle_stocked (name : String) (goal : Region.Downgrade)
    (hs : Stocked .descriptors (Accounts k₀) hand s) :
    (convertHandle name goal.conversion none).Yields s fun _ s' =>
      Stocked .descriptors (Accounts k₀) hand s' := by
  have hlast := accounts_last (H := H) k₀
  refine .bind (.held hs fun h hh => ?_)
  have htake := hs.takeHandle hlast hh
  refine .bind (.leads ((Leads.of_yields (goal.native_turnover h htake.front)).mono ?_))
  intro outcome y hy
  cases outcome with
  | error e =>
    have hperm : List.Perm _ (hand ++ s.owned) := hand_perm_handle hand hs.handles hh
    exact .bind (.viewHandle fun _ => .pure (hs.act (hlast.perm hy hperm)))
  | ok converted =>
    have hconverted : Stocked .descriptors (Accounts k₀)
        ((Inventory.descriptors (H := H)).handle name converted ++ hand)
        { s with system := y, handles := s.handles.erase name } := htake.gain hy
    exact .bind (.modify (.bind (.viewHandle fun _ =>
      .pure (hconverted.putBack hlast hs.handles))))

theorem compare_stocked (a b : Holder) (hs : Stocked .descriptors (Accounts k₀) hand s) :
    (compare a b).Yields s fun _ s' => Stocked .descriptors (Accounts k₀) hand s' := by
  refine .bind (.holder hs fun h _ => .bind (.holder hs fun h' _ => ?_))
  exact .keep (act_stocked hs (ThriftyBacking.sameFile _ _ (accounts_closed k₀))) fun _ _ hs' =>
    .pure hs'

theorem discardDescriptor_stocked (name : String)
    (hs : Stocked .descriptors (Accounts k₀) hand s) :
    (discardDescriptor (H := H) name).Yields s fun _ s' =>
      Stocked .descriptors (Accounts k₀) hand s' :=
  .bind (.get (.bind (.modify (.keep
    ((dropDescriptor_stocked _ (hs.eraseLoose (accounts_last k₀) name)).mono fun _ _ hs' => hs'.2)
    fun _ _ hs' => .pure hs'))))

private theorem keepClone_stocked (d : Descriptor) (dest : String)
    (hs : Stocked .descriptors (Accounts k₀) hand s) :
    (keepClone d dest).Yields s fun _ s' => Stocked .descriptors (Accounts k₀) hand s' := by
  have hclone := Turnover.attempt (.duplicate d) rfl rfl rfl hs.has
  refine .bind (.leads ((Leads.of_yields hclone).mono ?_))
  intro outcome y hy
  cases outcome with
  | error e => exact .pure (hs.act hy)
  | ok copy =>
    have hcopy : Stocked .descriptors (Accounts k₀) (copy :: hand) { s with system := y } :=
      hs.act hy
    exact .keep ((putDescriptor_stocked hcopy).mono fun _ _ hs' => hs'.2) fun _ _ hs' =>
      .bind (.viewDescriptor fun _ => .pure hs')

theorem cloneDescriptor_stocked (source dest : String)
    (hs : Stocked .descriptors (Accounts k₀) hand s) :
    (cloneDescriptor source dest).Yields s fun _ s' =>
      Stocked .descriptors (Accounts k₀) hand s' :=
  .bind (.held hs fun d _ => keepClone_stocked d dest hs)

theorem cloneBorrowed_stocked (source : Holder) (spare : Bool) (dest : String)
    (hs : Stocked .descriptors (Accounts k₀) hand s) :
    (cloneBorrowed source spare dest).Yields s fun _ s' =>
      Stocked .descriptors (Accounts k₀) hand s' := by
  refine .bind (.holder hs fun h _ => ?_)
  dsimp only
  split
  · rename_i d _
    exact keepClone_stocked d dest hs
  · exact hs

theorem letGo_stocked (name : String) (hs : Stocked .descriptors (Accounts k₀) hand s) :
    (letGo name).Yields s fun x s' =>
      Stocked .descriptors (Accounts k₀) (x.toList ++ hand) s' :=
  .bind (.held hs fun _ hd => .bind (.modify (.pure (hs.takeDescriptor hd))))

theorem takeUp_stocked (dest : String) (hs : Stocked .descriptors (Accounts k₀) (d :: hand) s) :
    (takeUp d dest).Yields s fun _ s' => Stocked .descriptors (Accounts k₀) hand s' :=
  .keep ((putDescriptor_stocked hs).mono fun _ _ hs' => hs'.2) fun _ _ hs' =>
    .viewDescriptor fun _ => hs'

theorem pipeEnd_turnover {ds₀ ds : List Descriptor} {k : Kernel} (reader : Bool)
    (h : Turnover k₀ ds₀ k ds) : (pipeEnd reader).Yields k fun outcome k' =>
      Turnover k₀ ds₀ k' (outcome.toOption.toList ++ ds) := by
  have hpipe := h.call .makePipe rfl
  refine .bind (.attempt (fun ends k₁ hcall => ?_) fun k₁ hcall => ?_)
  · have hends : Turnover k₀ ds₀ k₁ (ends.1 :: ends.2 :: ds) := by
      simpa [Operation.perform, Operation.opened, hcall] using hpipe
    cases reader with
    | false => exact .bind (hends.closeDescriptor.mono fun _ _ hk' => .pure hk')
    | true => exact .bind (hends.swap.closeDescriptor.mono fun _ _ hk' => .pure hk')
  · have hnone : Turnover k₀ ds₀ k₁ ds := by
      simpa [Operation.perform, Operation.opened, hcall] using hpipe
    exact .pure hnone

end Session

end SharedMemory

import SharedMemory.Proofs.Calling
import SharedMemory.Proofs.Kernel.Turnover
import SharedMemory.Proofs.Session.Steps
/-!
# What a session has

An inventory says what stands behind a region, a handle and a loose descriptor. A session has what
stands behind everything that it keeps, and a step has some more in hand for the moment. A property
of the system and of such a list lasts under all steps if the single operations on regions keep it,
each for what it is about, and if the order of the list does not matter.
-/
namespace SharedMemory

open Effect

/-- What stands behind the things that a session keeps. For a handle its name may count. -/
structure Inventory (H I : Type) where
  region : Region H → List I
  handle : String → H → List I
  loose : Descriptor → List I

namespace Inventory

variable {H I : Type} {inv : Inventory H I} {name : String} {f : H → List I}

/-- The inventory in which something else stands behind the handle of a name. -/
def relabel (inv : Inventory H I) (name : String) (f : H → List I) : Inventory H I :=
  { inv with handle := fun other => if other = name then f else inv.handle other }

private theorem relabel_handle (inv : Inventory H I) (name : String) (f : H → List I) :
    (inv.relabel name f).handle name = f := if_pos rfl

theorem relabel_self (inv : Inventory H I) (name : String) :
    inv.relabel name (inv.handle name) = inv := by
  have hhandle : (fun other => if other = name then inv.handle name else inv.handle other) =
      inv.handle := by
    funext other
    split
    · rename_i hother
      rw [hother]
    · rfl
  rw [relabel, hhandle]

/-- The property `P` lasts under the operations of a region, each of which makes and uses up what
it is about. -/
structure Lasts [Backing H] (inv : Inventory H I) (P : System → List I → Prop) : Prop where
  perm {y : System} {xs ys : List I} : P y xs → xs.Perm ys → P y ys
  still : Closed Kernel.Operation.keepsDescriptors fun y y' => ∀ xs, P y xs → P y' xs
  invalid {y : System} {xs : List I} : P y xs → P y (inv.region .invalid ++ xs)
  create {y : System} {xs : List I} (mode : Mode) (size : Nat) (layout : Layout) : P y xs →
    (Region.create (H := H) mode size layout).Leads y fun outcome y' =>
      match outcome with
      | .error _ => P y' xs
      | .ok r => P y' (inv.region r ++ xs)
  convert {y : System} {xs : List I} (r : Region H) (goal : Region.Downgrade) :
    P y (inv.region r ++ xs) → (r.convert goal.conversion).Leads y fun outcome y' =>
      match outcome with
      | .error _ => P y' (inv.region r ++ xs)
      | .ok converted => P y' (inv.region converted ++ xs)
  duplicate {y : System} {xs : List I} (r : Region H) :
    P y (inv.region r ++ xs) → r.duplicate.Leads y fun outcome y' =>
      match outcome with
      | .error _ => P y' (inv.region r ++ xs)
      | .ok copy => P y' (inv.region copy ++ (inv.region r ++ xs))
  release {y : System} {xs : List I} (r : Region H) :
    P y (inv.region r ++ xs) → r.release.Leads y fun _ y' => P y' xs
  releaseHandle {y : System} {xs : List I} (name : String) (h : H) :
    P y (inv.handle name h ++ xs) → (Backing.release h).Leads y fun _ y' => P y' xs

theorem Lasts.drop [Backing H] {P : System → List I → Prop} (hP : inv.Lasts P) {y : System}
    {xs : List I} {r : Region H} (hr : r.handle = none) (h : P y (inv.region r ++ xs)) :
    P y xs := by
  have hrelease := hP.release r h
  unfold Region.release at hrelease
  rw [hr] at hrelease
  exact hrelease

/-- What stands behind a region comes to stand behind its handle, which gets a name of its own. -/
def Passes (inv inv' : Inventory H I) (dest : String) (r : Option (Region H)) : Prop :=
  match r.bind fun r => r.handle.map (r, ·) with
  | none => inv' = inv
  | some (r, h) => ∃ f, f h = inv.region r ∧ inv' = inv.relabel dest f

/-- The header makes a region of the handle that is kept under a name. -/
def Accepts [Backing H] (inv : Inventory H I) (P : System → List I → Prop) (name : String)
    (h : H) (header : Header) : Prop :=
  ∀ {y : System} {xs : List I}, P y (inv.handle name h ++ xs) →
    (Region.take h header).Leads y fun outcome y' =>
      match outcome with
      | .error _ => P y' xs
      | .ok r => P y' (inv.region r ++ xs)

end Inventory

namespace Session

open Script

variable {H I α : Type}

/-- What stands behind everything that a session keeps. -/
def items (inv : Inventory H I) (s : Session H) : List I :=
  s.regions.gather inv.region ++ (s.handles.collect inv.handle ++ s.loose.gather inv.loose)

variable {inv inv' : Inventory H I} {P : System → List I → Prop} {hand hand' : List I}
  {s : Session H}
  {name : String} {r : Region H} {h : H} {d : Descriptor} {f : H → List I}

private theorem items_perm_region (hd : s.regions.Distinct) (name : String) :
    (s.items inv).Perm ((s.regions.get? name).toList.flatMap inv.region ++
      ({ s with regions := s.regions.erase name } : Session H).items inv) := by
  refine ((Slots.gather_perm hd name inv.region).append_right _).trans ?_
  rw [List.append_assoc]
  exact .refl _

private theorem items_perm_handle (hd : s.handles.Distinct) (name : String) :
    (s.items inv).Perm ((s.handles.get? name).toList.flatMap (inv.handle name) ++
      ({ s with handles := s.handles.erase name } : Session H).items inv) := by
  refine (((Slots.collect_perm hd name inv.handle).append_right _).append_left _).trans ?_
  rw [List.append_assoc]
  exact List.perm_append_comm_assoc _ _ _

private theorem items_perm_loose (hd : s.loose.Distinct) (name : String) :
    (s.items inv).Perm ((s.loose.get? name).toList.flatMap inv.loose ++
      ({ s with loose := s.loose.erase name } : Session H).items inv) := by
  refine (((Slots.gather_perm hd name inv.loose).append_left _).append_left _).trans ?_
  refine ((List.perm_append_comm_assoc _ _ _).append_left _).trans ?_
  exact List.perm_append_comm_assoc _ _ _

private theorem items_put_region (s : Session H) (name : String) (r : Region H) :
    ({ s with regions := s.regions.put name r } : Session H).items inv =
      inv.region r ++ ({ s with regions := s.regions.erase name } : Session H).items inv := by
  simp only [items, Slots.gather_put, List.append_assoc]

private theorem items_put_handle (s : Session H) (name : String) (h : H) (f : H → List I) :
    (({ s with handles := s.handles.put name h } : Session H).items (inv.relabel name f)).Perm
      (f h ++ ({ s with handles := s.handles.erase name } : Session H).items inv) := by
  have herase : (s.handles.erase name).collect (inv.relabel name f).handle =
      (s.handles.erase name).collect inv.handle :=
    Slots.collect_erase_congr _ _ fun other hother => if_neg hother
  simp only [items, Slots.collect_put, herase, Inventory.relabel_handle, List.append_assoc]
  exact List.perm_append_comm_assoc _ _ _

private theorem items_put_loose (s : Session H) (name : String) (d : Descriptor) :
    (({ s with loose := s.loose.put name d } : Session H).items inv).Perm
      (inv.loose d ++ ({ s with loose := s.loose.erase name } : Session H).items inv) := by
  simp only [items, Slots.gather_put]
  refine ((List.perm_append_comm_assoc _ _ _).append_left _).trans ?_
  exact List.perm_append_comm_assoc _ _ _

private theorem hand_perm_region (hand : List I) (hd : s.regions.Distinct)
    (hr : s.regions.get? name = some r) :
    (inv.region r ++ (hand ++
      ({ s with regions := s.regions.erase name } : Session H).items inv)).Perm
      (hand ++ s.items inv) := by
  refine (List.perm_append_comm_assoc _ _ _).trans (List.Perm.append_left hand ?_)
  have hperm : (s.items inv).Perm _ := items_perm_region hd name
  rw [hr] at hperm
  simpa using hperm.symm

theorem hand_perm_handle (hand : List I) (hd : s.handles.Distinct)
    (hh : s.handles.get? name = some h) :
    (inv.handle name h ++ (hand ++
      ({ s with handles := s.handles.erase name } : Session H).items inv)).Perm
      (hand ++ s.items inv) := by
  refine (List.perm_append_comm_assoc _ _ _).trans (List.Perm.append_left hand ?_)
  have hperm : (s.items inv).Perm _ := items_perm_handle hd name
  rw [hh] at hperm
  simpa using hperm.symm

/-- The property `P` holds of what a step has in hand and what its session has. -/
structure Stocked (inv : Inventory H I) (P : System → List I → Prop) (hand : List I)
    (s : Session H) : Prop where
  regions : s.regions.Distinct
  handles : s.handles.Distinct
  loose : s.loose.Distinct
  has : P s.system (hand ++ s.items inv)

theorem stocked_of_empty (hregions : s.regions = .empty) (hhandles : s.handles = .empty)
    (hloose : s.loose = .empty) (hP : P s.system hand) : Stocked inv P hand s := by
  obtain ⟨system, logging, regions, handles, headers, windows, loose⟩ := s
  dsimp only at hregions hhandles hloose
  subst hregions hhandles hloose
  refine ⟨Slots.distinct_empty, Slots.distinct_empty, Slots.distinct_empty, ?_⟩
  rwa [← List.append_nil hand] at hP

namespace Stocked

theorem act {system : System} (hs : Stocked inv P hand s)
    (hP : P system (hand' ++ s.items inv)) : Stocked inv P hand' { s with system } :=
  ⟨hs.regions, hs.handles, hs.loose, hP⟩

theorem gain {xs : List I} {system : System} (hs : Stocked inv P hand s)
    (hP : P system (xs ++ (hand' ++ s.items inv))) :
    Stocked inv P (xs ++ hand') { s with system } :=
  hs.act (by rwa [List.append_assoc])

theorem front {xs : List I} (hs : Stocked inv P (xs ++ hand) s) :
    P s.system (xs ++ (hand ++ s.items inv)) := by
  rw [← List.append_assoc]
  exact hs.has

theorem windows (hs : Stocked inv P hand s) (windows : Slots Window) :
    Stocked inv P hand { s with windows } := ⟨hs.regions, hs.handles, hs.loose, hs.has⟩

theorem headers (hs : Stocked inv P hand s) (headers : Slots Header) :
    Stocked inv P hand { s with headers } := ⟨hs.regions, hs.handles, hs.loose, hs.has⟩

variable [Backing H] (hP : inv.Lasts P)
include hP

theorem perm (hs : Stocked inv P hand s) (hp : hand.Perm hand') :
    Stocked inv P hand' s := { hs with has := hP.perm hs.has (hp.append_right _) }

theorem eraseRegion (hs : Stocked inv P hand s) (name : String) :
    Stocked inv P ((s.regions.get? name).toList.flatMap inv.region ++ hand)
      { s with regions := s.regions.erase name } where
  regions := hs.regions.erase name
  handles := hs.handles
  loose := hs.loose
  has := hP.perm hs.has <| by
    refine ((items_perm_region hs.regions name).append_left hand).trans ?_
    rw [List.append_assoc]
    exact List.perm_append_comm_assoc _ _ _

theorem eraseHandle (hs : Stocked inv P hand s) (name : String) :
    Stocked inv P ((s.handles.get? name).toList.flatMap (inv.handle name) ++ hand)
      { s with handles := s.handles.erase name } where
  regions := hs.regions
  handles := hs.handles.erase name
  loose := hs.loose
  has := hP.perm hs.has <| by
    refine ((items_perm_handle hs.handles name).append_left hand).trans ?_
    rw [List.append_assoc]
    exact List.perm_append_comm_assoc _ _ _

theorem eraseLoose (hs : Stocked inv P hand s) (name : String) :
    Stocked inv P ((s.loose.get? name).toList.flatMap inv.loose ++ hand)
      { s with loose := s.loose.erase name } where
  regions := hs.regions
  handles := hs.handles
  loose := hs.loose.erase name
  has := hP.perm hs.has <| by
    refine ((items_perm_loose hs.loose name).append_left hand).trans ?_
    rw [List.append_assoc]
    exact List.perm_append_comm_assoc _ _ _

theorem takeRegion (hs : Stocked inv P hand s) (hr : s.regions.get? name = some r) :
    Stocked inv P (inv.region r ++ hand) { s with regions := s.regions.erase name } := by
  have herase := hs.eraseRegion hP name
  rw [hr] at herase
  simpa using herase

theorem takeHandle (hs : Stocked inv P hand s) (hh : s.handles.get? name = some h) :
    Stocked inv P (inv.handle name h ++ hand) { s with handles := s.handles.erase name } := by
  have herase := hs.eraseHandle hP name
  rw [hh] at herase
  simpa using herase

theorem takeLoose (hs : Stocked inv P hand s) (hd : s.loose.get? name = some d) :
    Stocked inv P (inv.loose d ++ hand) { s with loose := s.loose.erase name } := by
  have herase := hs.eraseLoose hP name
  rw [hd] at herase
  simpa using herase

theorem layRegion (hs : Stocked inv P (inv.region r ++ hand)
      { s with regions := s.regions.erase name }) (hdistinct : s.regions.Distinct) :
    Stocked inv P hand { s with regions := s.regions.put name r } where
  regions := hdistinct.put name r
  handles := hs.handles
  loose := hs.loose
  has := hP.perm hs.has <| by
    rw [items_put_region, List.append_assoc]
    exact List.perm_append_comm_assoc _ _ _

theorem layHandle (hs : Stocked inv P (f h ++ hand)
      { s with handles := s.handles.erase name }) (hdistinct : s.handles.Distinct) :
    Stocked (inv.relabel name f) P hand { s with handles := s.handles.put name h } where
  regions := hs.regions
  handles := hdistinct.put name h
  loose := hs.loose
  has := hP.perm hs.has <| by
    rw [List.append_assoc]
    exact (List.perm_append_comm_assoc _ _ _).trans
      ((items_put_handle s name h f).symm.append_left hand)

theorem putBack (hs : Stocked inv P (inv.handle name h ++ hand)
      { s with handles := s.handles.erase name }) (hdistinct : s.handles.Distinct) :
    Stocked inv P hand { s with handles := s.handles.put name h } := by
  have hlay := hs.layHandle hP hdistinct
  rwa [Inventory.relabel_self] at hlay

theorem layLoose (hs : Stocked inv P (inv.loose d ++ hand)
      { s with loose := s.loose.erase name }) (hdistinct : s.loose.Distinct) :
    Stocked inv P hand { s with loose := s.loose.put name d } where
  regions := hs.regions
  handles := hs.handles
  loose := hdistinct.put name d
  has := hP.perm hs.has <| by
    rw [List.append_assoc]
    exact (List.perm_append_comm_assoc _ _ _).trans
      ((items_put_loose s name d).symm.append_left hand)

/-- What is in the hand is put under a name, and what was there comes to hand. -/
theorem swapRegion (hs : Stocked inv P (inv.region r ++ hand) s) (name : String) :
    Stocked inv P ((s.regions.get? name).toList.flatMap inv.region ++ hand)
      { s with regions := s.regions.put name r } :=
  ((hs.eraseRegion hP name).perm hP (List.perm_append_comm_assoc _ _ _)).layRegion hP hs.regions

theorem swapHandle (hs : Stocked inv P (f h ++ hand) s) (name : String) :
    Stocked (inv.relabel name f) P
      ((s.handles.get? name).toList.flatMap (inv.handle name) ++ hand)
      { s with handles := s.handles.put name h } :=
  ((hs.eraseHandle hP name).perm hP (List.perm_append_comm_assoc _ _ _)).layHandle hP hs.handles

theorem swapLoose (hs : Stocked inv P (inv.loose d ++ hand) s) (name : String) :
    Stocked inv P ((s.loose.get? name).toList.flatMap inv.loose ++ hand)
      { s with loose := s.loose.put name d } :=
  ((hs.eraseLoose hP name).perm hP (List.perm_append_comm_assoc _ _ _)).layLoose hP hs.loose

/-- A region is taken out of its place, and an invalid one is left there. -/
theorem leaveInvalid (hs : Stocked inv P hand s) (hr : s.regions.get? name = some r) :
    Stocked inv P (inv.region r ++ hand) { s with regions := s.regions.put name .invalid } := by
  have hinvalid := (hs.takeRegion hP hr).gain (hP.invalid (hs.takeRegion hP hr).has)
  exact layRegion (r := .invalid) hP hinvalid hs.regions

end Stocked

theorem act_stocked {a : Effect α} (hs : Stocked inv P hand s)
    (ha : Within (fun y y' => ∀ xs, P y xs → P y' xs) a) :
    (act a : Script H α).Yields s fun _ s' => Stocked inv P hand s' :=
  .leads (hs.act (ha _ _ hs.has))

private theorem window_stocked {a : Window → Effect α} (name : String) (hs : Stocked inv P hand s)
    (ha : ∀ w, Within (fun y y' => ∀ xs, P y xs → P y' xs) (a w)) :
    (do act (a (← window name)) : Script H α).Yields s fun _ s' => Stocked inv P hand s' :=
  .bind (.held hs fun w _ => act_stocked hs (ha w))

theorem holder_stocked {a : H → Effect α} (source : Holder) (hs : Stocked inv P hand s)
    (ha : ∀ h, Within (fun y y' => ∀ xs, P y xs → P y' xs) (a h)) :
    (do act (a (← holder source)) : Script H α).Yields s fun _ s' => Stocked inv P hand s' :=
  .bind (.holder hs fun h _ => act_stocked hs (ha h))

variable [Backing H] (hP : inv.Lasts P)
include hP

private theorem dropRegion_stocked (old : Option (Region H))
    (hs : Stocked inv P (old.toList.flatMap inv.region ++ hand) s) :
    (dropRegion old).Yields s fun _ s' => Stocked inv P hand s' := by
  cases old with
  | none => exact .pure hs
  | some r =>
    have hr : P s.system (inv.region r ++ (hand ++ s.items inv)) := by simpa using hs.has
    exact .leads ((hP.release r hr).mono fun _ _ hy => hs.act hy)

private theorem dropHandle_stocked (old : Option H)
    (hs : Stocked inv' P (old.toList.flatMap (inv.handle name) ++ hand) s) :
    (dropHandle old).Yields s fun _ s' => Stocked inv' P hand s' := by
  cases old with
  | none => exact .pure hs
  | some h =>
    have hh : P s.system (inv.handle name h ++ (hand ++ s.items inv')) := by simpa using hs.has
    exact .leads ((hP.releaseHandle name h hh).mono fun _ _ hy => hs.act hy)

private theorem putRegion_stocked (hs : Stocked inv P (inv.region r ++ hand) s) :
    (putRegion name r).Yields s fun _ s' => Stocked inv P hand s' :=
  .bind (.get (.bind (.modify (dropRegion_stocked hP _ (hs.swapRegion hP name)))))

private theorem putHandle_stocked (f : H → List I) (hs : Stocked inv P (f h ++ hand) s) :
    (putHandle name h).Yields s fun _ s' => Stocked (inv.relabel name f) P hand s' :=
  .bind (.get (.bind (.modify (dropHandle_stocked hP _ (hs.swapHandle hP name)))))

theorem putHandle_stocked_self (hs : Stocked inv P (inv.handle name h ++ hand) s) :
    (putHandle name h).Yields s fun _ s' => Stocked inv P hand s' := by
  have hput : (putHandle name h).Yields s fun _ s' =>
      Stocked (inv.relabel name (inv.handle name)) P hand s' := putHandle_stocked hP _ hs
  rwa [Inventory.relabel_self] at hput

private theorem create_stocked (mode : Mode) (size : Nat) (layout : Layout) (dest : String)
    (hs : Stocked inv P hand s) :
    (create mode size layout dest none).Yields s fun _ s' => Stocked inv P hand s' := by
  refine .bind (.leads ((hP.create mode size layout hs.has).mono ?_))
  intro outcome y hy
  cases outcome with
  | error e => exact .pure (hs.act hy)
  | ok r =>
    exact .keep (putRegion_stocked hP (hs.gain hy)) fun _ _ hs' =>
      .bind (.viewRegion fun _ => .pure hs')

private theorem vacate_stocked (dest : String) (hs : Stocked inv P hand s) :
    (vacate dest).Yields s fun _ s' => Stocked inv P hand s' :=
  .keep (putRegion_stocked hP (hs.gain (hP.invalid hs.has))) fun _ _ hs' =>
    .viewRegion fun _ => hs'

private theorem convert_stocked (name : String) (goal : Region.Downgrade)
    (hs : Stocked inv P hand s) :
    (convert name goal.conversion none).Yields s fun _ s' => Stocked inv P hand s' := by
  refine .bind (.held hs ?_)
  intro r hr
  have htake := hs.takeRegion hP hr
  refine .bind (.leads ((hP.convert r goal htake.front).mono ?_))
  intro outcome y hy
  cases outcome with
  | error e =>
    exact .bind (.viewRegion fun _ =>
      .pure (hs.act (hP.perm hy (hand_perm_region hand hs.regions hr))))
  | ok converted =>
    have hconverted : Stocked inv P (inv.region converted ++ hand)
        { s with system := y, regions := s.regions.erase name } := htake.gain hy
    exact .bind (.modify (.bind (.viewRegion fun _ =>
      .pure (hconverted.layRegion hP hs.regions))))

private theorem duplicate_stocked (source dest : String) (hs : Stocked inv P hand s) :
    (duplicate source dest none).Yields s fun _ s' => Stocked inv P hand s' := by
  refine .bind (.held hs ?_)
  intro r hr
  have hperm : List.Perm _ (hand ++ s.items inv) := hand_perm_region hand hs.regions hr
  refine .bind (.leads ((hP.duplicate r (hP.perm hs.has hperm.symm)).mono ?_))
  intro outcome y hy
  cases outcome with
  | error e => exact .pure (hs.act (hP.perm hy hperm))
  | ok copy =>
    have hgain := hs.gain (hP.perm hy (hperm.append_left _))
    exact .bind (.viewRegion fun _ => .keep (putRegion_stocked hP hgain) fun _ _ hs' =>
      .bind (.viewRegion fun _ => .pure hs'))

omit hP in
private theorem inspect_stocked (name : String) (hs : Stocked inv P hand s) :
    (inspect name).Yields s fun _ s' => Stocked inv P hand s' :=
  .bind (.held hs fun _ _ => .viewRegion fun _ => hs)

private theorem move_stocked (source dest : String) (hs : Stocked inv P hand s) :
    (move source dest).Yields s fun _ s' => Stocked inv P hand s' := by
  refine .bind (.held hs fun r hr => .bind (.modify (.bind (.viewRegion ?_))))
  intro _
  exact .keep (putRegion_stocked hP (hs.leaveInvalid hP hr)) fun _ _ hs' =>
    .bind (.viewRegion fun _ => .pure hs')

/-- What is done with the handle of a region that was taken out of its place, if it has one. -/
private theorem handOver_stocked {dest : String} (hs : Stocked inv P (inv.region r ++ hand) s)
    (hpasses : inv.Passes inv' dest (some r)) :
    (r.handle = none → Stocked inv' P hand s) ∧
      ∀ h, r.handle = some h → (putHandle dest h).Yields s fun _ s' => Stocked inv' P hand s' := by
  unfold Inventory.Passes at hpasses
  constructor
  · intro hhandle
    rw [Option.bind_some, hhandle] at hpasses
    cases hpasses
    exact hs.act (hP.drop hhandle hs.front)
  · intro h hhandle
    rw [Option.bind_some, hhandle] at hpasses
    obtain ⟨f, hf, rfl⟩ := hpasses
    rw [← hf] at hs
    exact putHandle_stocked hP f hs

theorem takeHandle_stocked (source dest : String) (hs : Stocked inv P hand s)
    (hpasses : inv.Passes inv' dest (s.regions.get? source)) :
    (takeHandle source dest).Yields s fun _ s' => Stocked inv' P hand s' := by
  refine .bind (.heldGet ?_)
  cases hr : s.regions.get? source with
  | none =>
    rw [hr] at hpasses
    cases hpasses
    exact hs
  | some r =>
    refine .bind (.modify (.bind (.viewRegion fun _ => ?_)))
    rw [hr] at hpasses
    obtain ⟨hnone, hsome⟩ := handOver_stocked hP (hs.leaveInvalid hP hr) hpasses
    cases hhandle : r.handle with
    | none => exact .pure (hnone hhandle)
    | some h =>
      exact .keep (hsome h hhandle) fun _ _ hs' => .bind (.viewHandle fun _ => .pure hs')

theorem passHandle_stocked (source dest : String) (hs : Stocked inv P hand s)
    (hpasses : inv.Passes inv' dest (s.regions.get? source)) :
    (passHandle source dest).Yields s fun _ s' => Stocked inv' P hand s' := by
  refine .bind (.heldGet ?_)
  cases hr : s.regions.get? source with
  | none =>
    rw [hr] at hpasses
    cases hpasses
    exact hs
  | some r =>
    refine .bind (.modify ?_)
    rw [hr] at hpasses
    obtain ⟨hnone, hsome⟩ := handOver_stocked hP (hs.takeRegion hP hr) hpasses
    cases hhandle : r.handle with
    | none => exact .pure (hnone hhandle)
    | some h =>
      exact .keep (hsome h hhandle) fun _ _ hs' => .bind (.viewHandle fun _ => .pure hs')

theorem split_stocked (source dest : String) (hs : Stocked inv P hand s)
    (hpasses : inv.Passes inv' dest (s.regions.get? source)) :
    (split source dest).Yields s fun _ s' => Stocked inv' P hand s' := by
  refine .bind (.heldGet ?_)
  cases hr : s.regions.get? source with
  | none =>
    rw [hr] at hpasses
    cases hpasses
    exact hs
  | some r =>
    refine .bind (.modify ?_)
    rw [hr] at hpasses
    obtain ⟨hnone, hsome⟩ := handOver_stocked hP (hs.takeRegion hP hr) hpasses
    unfold Region.parts?
    cases hhandle : r.handle with
    | none => exact .pure (hnone hhandle)
    | some h =>
      exact .keep (hsome h hhandle) fun _ _ hs' =>
        .bind (.modify (.bind (.viewHandle fun _ => .pure (hs'.headers _))))

theorem take_stocked (source : String) (header : Header) (dest : String)
    (hs : Stocked inv P hand s)
    (haccepts : ∀ h, s.handles.get? source = some h → inv.Accepts P source h header) :
    (take source header dest).Yields s fun _ s' => Stocked inv P hand s' := by
  refine .bind (.held hs fun h hh => .bind (.modify ?_))
  have htake := hs.takeHandle hP hh
  refine .bind (.leads ((haccepts h hh htake.front).mono ?_))
  intro outcome y hy
  cases outcome with
  | error e => exact .pure (htake.act hy)
  | ok r =>
    exact .keep (putRegion_stocked hP (htake.gain hy)) fun _ _ hs' =>
      .bind (.viewRegion fun _ => .pure hs')

private theorem discardRegion_stocked (name : String) (hs : Stocked inv P hand s) :
    (discardRegion name).Yields s fun _ s' => Stocked inv P hand s' :=
  .bind (.get (.bind (.modify (.keep (dropRegion_stocked hP _ (hs.eraseRegion hP name))
    fun _ _ hs' => .pure hs'))))

private theorem discardHandle_stocked (name : String) (hs : Stocked inv P hand s) :
    (discardHandle name).Yields s fun _ s' => Stocked inv P hand s' :=
  .bind (.get (.bind (.modify (.keep (dropHandle_stocked hP _ (hs.eraseHandle hP name))
    fun _ _ hs' => .pure hs'))))

private theorem dropWindow_stocked (w : Option Window) (hs : Stocked inv P hand s) :
    (dropWindow w).Yields s fun _ s' => Stocked inv P hand s' := by
  cases w with
  | none => exact .pure hs
  | some w => exact act_stocked hs (w.release_within hP.still rfl)

private theorem discardWindow_stocked (name : String) (hs : Stocked inv P hand s) :
    (discardWindow (H := H) name).Yields s fun _ s' => Stocked inv P hand s' :=
  .bind (.get (.bind (.modify (.keep (dropWindow_stocked hP _ (hs.windows _))
    fun _ _ hs' => .pure hs'))))

private theorem map_stocked (source : Option String) (offset size : Nat) (layout : Layout)
    (dest : String) (hs : Stocked inv P hand s) :
    (map source offset size layout dest none).Yields s fun _ s' => Stocked inv P hand s' := by
  refine .bind (.sourceGet ?_)
  cases source.mapM s.regions.get? with
  | none => exact hs
  | some r =>
    have hrequest := Window.ofRequest_within hP.still (fun _ _ _ _ => rfl)
      { region := r, offset, size, layout }
    refine .keep (act_stocked hs hrequest) fun outcome s' hs' => ?_
    cases outcome with
    | error e => exact .pure hs'
    | ok w =>
      refine .keep ?_ fun _ _ hs'' => .pure hs''
      exact .bind (.get (.bind (.modify (dropWindow_stocked hP _ (hs'.windows _)))))

/-- The steps in which a handle leaves a region or becomes one. -/
def Step.handsOver : Step → Bool
  | .takeHandle .. | .passHandle .. | .split .. | .take .. => true
  | _ => false

theorem Stocked.step (hs : Stocked inv P hand s) {step : Step} (hstep : step.handsOver = false) :
    Stocked inv P hand (step.run s) := by
  cases step with
  | create mode size layout dest => exact create_stocked hP mode size layout dest hs
  | vacate dest => exact vacate_stocked hP dest hs
  | convert name goal => exact convert_stocked hP name goal hs
  | duplicate source dest => exact duplicate_stocked hP source dest hs
  | inspect name => exact inspect_stocked name hs
  | move source dest => exact move_stocked hP source dest hs
  | takeHandle | passHandle | split | take => cases hstep
  | map source offset size layout dest =>
    exact map_stocked hP source offset size layout dest hs
  | write name data offset =>
    exact window_stocked name hs fun w =>
      w.writeSlice_within hP.still (fun _ _ => rfl) data offset
  | read name buffer offset =>
    exact window_stocked name hs fun w => hP.still.look (w.readSlice_looks buffer offset)
  | writeObject name e value offset =>
    exact window_stocked name hs fun w =>
      w.writeObject_within hP.still (fun _ _ => rfl) e value offset
  | readObject name e offset =>
    exact window_stocked name hs fun w => hP.still.look (w.readObject_looks e offset)
  | discardRegion name => exact discardRegion_stocked hP name hs
  | discardHandle name => exact discardHandle_stocked hP name hs
  | discardWindow name => exact discardWindow_stocked hP name hs

end Session

end SharedMemory

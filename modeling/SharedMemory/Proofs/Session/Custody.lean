import SharedMemory.Proofs.Region
import SharedMemory.Proofs.Session.Script
import SharedMemory.Proofs.Session.Slots
import SharedMemory.Proofs.Window
import SharedMemory.Session.Handles
import SharedMemory.Session.Regions
import SharedMemory.Session.Windows
/-!
# Custody of what a session keeps

The regions and the handles of a session are in custody together, and with them whatever a step has
in hand for the moment. A step takes a value out of its table into the hand, works on it, and lays
it down again, so each step keeps custody if its single moves do.
-/
namespace SharedMemory

namespace Session

open Kernel Backing Script

variable {H α : Type}

/-- A handle that belongs to no region. -/
def bare (h : H) : List (Holding H) := [⟨h, none⟩]

def holdings (s : Session H) : List (Holding H) :=
  s.regions.gather Region.holdings ++ s.handles.gather bare

variable {s : Session H} {name : String} {r : Region H} {hand hand' : List (Holding H)}

theorem holdings_subset_of_region (hr : s.regions.get? name = some r) :
    r.holdings ⊆ s.holdings := fun _ hx =>
  List.mem_append_left _ (List.mem_flatMap.mpr ⟨r, Slots.mem_values_of_get? hr, hx⟩)

theorem mem_holdings_of_handle {h : H} (hh : s.handles.get? name = some h) :
    ⟨h, none⟩ ∈ s.holdings :=
  List.mem_append_right _
    (List.mem_flatMap.mpr ⟨h, Slots.mem_values_of_get? hh, List.mem_singleton_self _⟩)

private theorem holdings_perm_region (hd : s.regions.Distinct) (name : String) :
    s.holdings.Perm ((s.regions.get? name).toList.flatMap Region.holdings ++
      ({ s with regions := s.regions.erase name } : Session H).holdings) := by
  refine ((Slots.gather_perm hd name Region.holdings).append_right _).trans ?_
  rw [List.append_assoc]
  exact .refl _

private theorem holdings_perm_handle (hd : s.handles.Distinct) (name : String) :
    s.holdings.Perm ((s.handles.get? name).toList.flatMap bare ++
      ({ s with handles := s.handles.erase name } : Session H).holdings) := by
  refine ((Slots.gather_perm hd name bare).append_left _).trans ?_
  exact List.perm_append_comm_assoc _ _ _

private theorem holdings_put_region (s : Session H) (name : String) (r : Region H) :
    ({ s with regions := s.regions.put name r } : Session H).holdings =
      r.holdings ++ ({ s with regions := s.regions.erase name } : Session H).holdings := by
  simp only [holdings, Slots.gather_put, List.append_assoc]

private theorem holdings_put_handle (s : Session H) (name : String) (h : H) :
    ({ s with handles := s.handles.put name h } : Session H).holdings.Perm
      (bare h ++ ({ s with handles := s.handles.erase name } : Session H).holdings) := by
  simp only [holdings, Slots.gather_put]
  exact List.perm_append_comm_assoc _ _ _

/-- What a session holds with a region that was taken out of it. -/
theorem hand_perm (hand : List (Holding H)) (hd : s.regions.Distinct)
    (hr : s.regions.get? name = some r) :
    (r.holdings ++ (hand ++ ({ s with regions := s.regions.erase name } : Session H).holdings)).Perm
      (hand ++ s.holdings) := by
  refine (List.perm_append_comm_assoc _ _ _).trans (List.Perm.append_left hand ?_)
  have hperm := holdings_perm_region hd name
  rw [hr] at hperm
  simpa using hperm.symm

structure InCustody [Backing H] [Rights H] (own : Prop) (loose : Slots Descriptor)
    (hand : List (Holding H)) (s : Session H) : Prop where
  regions : s.regions.Distinct
  handles : s.handles.Distinct
  /-- The loose descriptors are not touched. -/
  loose : s.loose = loose
  tidy : ∀ r ∈ s.regions.values, r.Tidy
  custody : Custody own s.system.kernel (s.holdings ++ hand)

variable [Backing H] [Rights H] {own : Prop} {loose : Slots Descriptor} {h : H} {system : System}

namespace InCustody

theorem front (hs : InCustody own loose hand s) :
    Custody own s.system.kernel (hand ++ s.holdings) :=
  hs.custody.perm List.perm_append_comm

theorem act (hs : InCustody own loose hand s)
    (hc : Custody own system.kernel (hand' ++ s.holdings)) :
    InCustody own loose hand' { s with system } :=
  { hs with custody := hc.perm List.perm_append_comm }

theorem perm (hs : InCustody own loose hand s) (hp : hand.Perm hand') :
    InCustody own loose hand' s :=
  { hs with custody := hs.custody.perm (hp.append_left _) }

theorem windows (hs : InCustody own loose hand s) (windows : Slots Window) :
    InCustody own loose hand { s with windows } := { hs with }

theorem headers (hs : InCustody own loose hand s) (headers : Slots Header) :
    InCustody own loose hand { s with headers } := { hs with }

theorem kept (hs : InCustody own loose hand s) (hr : s.regions.get? name = some r)
    (hh : r.handle = some h) : Kept own s.system.kernel ⟨h, some r.header⟩ := by
  have hmem : (⟨h, some r.header⟩ : Holding H) ∈ r.holdings := by
    rw [Region.holdings_of_some hh]
    exact List.mem_singleton_self _
  exact hs.custody.each _ (List.mem_append_left _ (holdings_subset_of_region hr hmem))

theorem eraseRegion (hs : InCustody own loose hand s) (name : String) :
    InCustody own loose ((s.regions.get? name).toList.flatMap Region.holdings ++ hand)
      { s with regions := s.regions.erase name } where
  regions := hs.regions.erase name
  handles := hs.handles
  loose := hs.loose
  tidy r hr := hs.tidy r (Slots.mem_values_of_erase hr)
  custody := hs.custody.perm <| by
    refine ((holdings_perm_region hs.regions name).append_right hand).trans ?_
    rw [List.append_assoc]
    exact List.perm_append_comm_assoc _ _ _

theorem takeRegion (hs : InCustody own loose hand s) (hr : s.regions.get? name = some r) :
    InCustody own loose (r.holdings ++ hand) { s with regions := s.regions.erase name } := by
  have herase := hs.eraseRegion name
  rw [hr] at herase
  simpa using herase

theorem layRegion (hs : InCustody own loose (r.holdings ++ hand)
      { s with regions := s.regions.erase name })
    (hdistinct : s.regions.Distinct) (hr : r.Tidy) :
    InCustody own loose hand { s with regions := s.regions.put name r } where
  regions := hdistinct.put name r
  handles := hs.handles
  loose := hs.loose
  tidy r' hr' := by
    rcases List.mem_cons.mp hr' with rfl | hr'
    · exact hr
    · exact hs.tidy r' hr'
  custody := hs.custody.perm <| by
    rw [holdings_put_region, List.append_assoc]
    exact (List.perm_append_comm_assoc _ _ _).symm

theorem eraseHandle (hs : InCustody own loose hand s) (name : String) :
    InCustody own loose ((s.handles.get? name).toList.flatMap bare ++ hand)
      { s with handles := s.handles.erase name } where
  regions := hs.regions
  handles := hs.handles.erase name
  loose := hs.loose
  tidy := hs.tidy
  custody := hs.custody.perm <| by
    refine ((holdings_perm_handle hs.handles name).append_right hand).trans ?_
    rw [List.append_assoc]
    exact List.perm_append_comm_assoc _ _ _

/-- A region in the hand is put under a name, and the region that was there comes to hand. -/
theorem swapRegion (hs : InCustody own loose (r.holdings ++ hand) s) (name : String)
    (hr : r.Tidy) :
    InCustody own loose ((s.regions.get? name).toList.flatMap Region.holdings ++ hand)
      { s with regions := s.regions.put name r } :=
  ((hs.eraseRegion name).perm (List.perm_append_comm_assoc _ _ _)).layRegion hs.regions hr

theorem takeHandle (hs : InCustody own loose hand s) (hh : s.handles.get? name = some h) :
    InCustody own loose (⟨h, none⟩ :: hand) { s with handles := s.handles.erase name } := by
  have herase := hs.eraseHandle name
  rw [hh] at herase
  exact herase

theorem layHandle (hs : InCustody own loose (⟨h, none⟩ :: hand)
      { s with handles := s.handles.erase name }) (hdistinct : s.handles.Distinct) :
    InCustody own loose hand { s with handles := s.handles.put name h } where
  regions := hs.regions
  handles := hdistinct.put name h
  loose := hs.loose
  tidy := hs.tidy
  custody := hs.custody.perm <| by
    refine .trans ?_ ((holdings_put_handle s name h).append_right hand).symm
    rw [List.append_assoc]
    exact (List.perm_append_comm_assoc (bare h) _ hand).symm

theorem swapHandle (hs : InCustody own loose (⟨h, none⟩ :: hand) s) (name : String) :
    InCustody own loose ((s.handles.get? name).toList.flatMap bare ++ hand)
      { s with handles := s.handles.put name h } := by
  have herase := (hs.eraseHandle name).perm
    (List.perm_append_comm_assoc ((s.handles.get? name).toList.flatMap bare) (bare h) hand)
  exact herase.layHandle hs.handles

theorem unlabel (hs : InCustody own loose (r.holdings ++ hand) s) (hr : r.handle = some h) :
    InCustody own loose (⟨h, none⟩ :: hand) s := by
  have hc := hs.front
  rw [Region.holdings_of_some hr] at hc
  have hperm : (⟨h, none⟩ :: hand ++ s.holdings).Perm (s.holdings ++ ⟨h, none⟩ :: hand) :=
    List.perm_append_comm
  exact { hs with custody := hc.unlabel.perm hperm }

end InCustody

/-- A region is taken out of its place, and an invalid one is left there. -/
theorem InCustody.leaveInvalid (hs : InCustody own loose hand s)
    (hr : s.regions.get? name = some r) :
    InCustody own loose (r.holdings ++ hand)
      { s with regions := s.regions.put name .invalid } :=
  InCustody.layRegion (r := .invalid) (hs.takeRegion hr) hs.regions fun _ => rfl

theorem inspect_yields (name : String) (hs : InCustody own loose hand s) :
    (inspect name).Yields s fun _ s' => InCustody own loose hand s' :=
  .bind (.held hs fun _ _ => .viewRegion fun _ => hs)

variable [LawfulBacking H]

/-- What a step has put in the place of an old region leads to the old one being dropped. -/
private theorem dropRegion_yields (old : Option (Region H))
    (hs : InCustody own loose (old.toList.flatMap Region.holdings ++ hand) s) :
    (dropRegion old).Yields s fun _ s' => InCustody own loose hand s' := by
  cases old with
  | none => exact .pure hs
  | some r =>
    have hc : Custody own s.system.kernel (r.holdings ++ (hand ++ s.holdings)) := by
      simpa using hs.front
    exact .act ((Region.release_yields r hc).mono fun _ k' hk' system hsys =>
      hs.act (hsys ▸ hk'))

private theorem dropHandle_yields (old : Option H)
    (hs : InCustody own loose (old.toList.flatMap bare ++ hand) s) :
    (dropHandle old).Yields s fun _ s' => InCustody own loose hand s' := by
  cases old with
  | none => exact .pure hs
  | some h =>
    exact .act ((LawfulBacking.release_yields h _).mono fun _ k' hk' system hsys =>
      hs.act (hsys ▸ Custody.release hs.front hk'))

private theorem putRegion_yields (hs : InCustody own loose (r.holdings ++ hand) s) (hr : r.Tidy) :
    (putRegion name r).Yields s fun _ s' => InCustody own loose hand s' :=
  .bind (.get (.bind (.modify (dropRegion_yields _ (hs.swapRegion name hr)))))

theorem putHandle_yields (hs : InCustody own loose (⟨h, none⟩ :: hand) s) :
    (putHandle name h).Yields s fun _ s' => InCustody own loose hand s' :=
  .bind (.get (.bind (.modify (dropHandle_yields _ (hs.swapHandle name)))))

theorem create_yields (mode : Mode) (size : Nat) (layout : Layout) (dest : String)
    (hs : InCustody own loose hand s) :
    (create mode size layout dest none).Yields s fun _ s' => InCustody own loose hand s' := by
  refine .bind (.act ((Region.create_yields mode size layout hs.front).mono ?_))
  intro outcome k' hk' system hsys
  subst hsys
  cases outcome with
  | error e => exact .pure (hs.act hk')
  | ok r =>
    have hr : InCustody own loose (r.holdings ++ hand) { s with system } :=
      hs.act (by rw [List.append_assoc]; exact hk'.2)
    exact .keep (putRegion_yields hr hk'.1) fun _ _ hs' => .bind (.viewRegion fun _ => .pure hs')

theorem vacate_yields (dest : String) (hs : InCustody own loose hand s) :
    (vacate dest).Yields s fun _ s' => InCustody own loose hand s' := by
  have hinvalid : InCustody own loose ((Region.invalid : Region H).holdings ++ hand) s := hs
  exact .keep (putRegion_yields hinvalid fun _ => rfl) fun _ _ hs' => .viewRegion fun _ => hs'

theorem convert_yields (name : String) (g : Region.Downgrade) (hs : InCustody own loose hand s) :
    (convert name g.conversion none).Yields s fun _ s' => InCustody own loose hand s' := by
  refine .bind (.held hs ?_)
  intro r hr
  have htake := hs.takeRegion hr
  have hc := hs.front.perm (hand_perm hand hs.regions hr).symm
  refine .bind (.act ((Region.convert_yields r g hc).mono ?_))
  intro outcome k' hk' system hsys
  subst hsys
  cases outcome with
  | error e =>
    exact .bind (.viewRegion fun _ => .pure (hs.act (hk'.perm (hand_perm hand hs.regions hr))))
  | ok converted =>
    have hr : InCustody own loose (converted.holdings ++ hand)
        { s with system, regions := s.regions.erase name } :=
      htake.act (by rw [List.append_assoc]; exact hk'.2)
    exact .bind (.modify (.bind (.viewRegion fun _ => .pure (hr.layRegion hs.regions hk'.1))))

theorem duplicate_yields (source dest : String) (hs : InCustody own loose hand s) :
    (duplicate source dest none).Yields s fun _ s' => InCustody own loose hand s' := by
  refine .bind (.held hs ?_)
  intro r hr
  have hc := hs.front.perm (hand_perm hand hs.regions hr).symm
  refine .bind (.act ((Region.duplicate_yields r hc).mono ?_))
  intro outcome k' hk' system hsys
  subst hsys
  cases outcome with
  | error e => exact .pure (hs.act (hk'.perm (hand_perm hand hs.regions hr)))
  | ok copy =>
    have hperm := (hand_perm hand hs.regions hr).append_left copy.holdings
    rw [← List.append_assoc copy.holdings hand] at hperm
    refine .bind (.viewRegion fun _ => .keep
      (putRegion_yields (hs.act (hk'.2.perm hperm)) hk'.1) fun _ _ hs' =>
        .bind (.viewRegion fun _ => .pure hs'))

theorem move_yields (source dest : String) (hs : InCustody own loose hand s) :
    (move source dest).Yields s fun _ s' => InCustody own loose hand s' := by
  refine .bind (.held hs fun r hr => .bind (.modify (.bind (.viewRegion ?_))))
  intro _
  have htidy := hs.tidy r (Slots.mem_values_of_get? hr)
  exact .keep (putRegion_yields (hs.leaveInvalid hr) htidy) fun _ _ hs' =>
    .bind (.viewRegion fun _ => .pure hs')

theorem takeHandle_yields (source dest : String) (hs : InCustody own loose hand s) :
    (takeHandle source dest).Yields s fun _ s' => InCustody own loose hand s' := by
  refine .bind (.held hs fun r hr => .bind (.modify (.bind (.viewRegion ?_))))
  intro _
  have hleft := hs.leaveInvalid hr
  cases hhandle : r.handle with
  | none =>
    rw [Region.holdings_of_none hhandle] at hleft
    exact .pure hleft
  | some h =>
    exact .keep (putHandle_yields (hleft.unlabel hhandle)) fun _ _ hs' =>
      .bind (.viewHandle fun _ => .pure hs')

theorem passHandle_yields (source dest : String) (hs : InCustody own loose hand s) :
    (passHandle source dest).Yields s fun _ s' => InCustody own loose hand s' := by
  refine .bind (.held hs fun r hr => .bind (.modify ?_))
  have htake := hs.takeRegion hr
  cases hhandle : r.handle with
  | none =>
    rw [Region.holdings_of_none hhandle] at htake
    exact .pure htake
  | some h =>
    exact .keep (putHandle_yields (htake.unlabel hhandle)) fun _ _ hs' =>
      .bind (.viewHandle fun _ => .pure hs')

theorem split_yields (source dest : String) (hs : InCustody own loose hand s) :
    (split source dest).Yields s fun _ s' => InCustody own loose hand s' := by
  refine .bind (.held hs fun r hr => .bind (.modify ?_))
  have htake := hs.takeRegion hr
  unfold Region.parts?
  cases hhandle : r.handle with
  | none =>
    rw [Region.holdings_of_none hhandle] at htake
    exact .pure htake
  | some h =>
    refine .keep (putHandle_yields (htake.unlabel hhandle)) ?_
    intro _ _ hs'
    exact .bind (.modify (.bind (.viewHandle fun _ => .pure (hs'.headers _))))

theorem take_yields (source : String) (header : Header) (dest : String)
    (hs : InCustody own loose hand s) :
    (take source header dest).Yields s fun _ s' => InCustody own loose hand s' := by
  refine .bind (.held hs fun h hh => .bind (.modify ?_))
  have htake := hs.takeHandle hh
  refine .bind (.act ((Region.take_yields h header htake.front).mono ?_))
  intro outcome k' hk' system hsys
  subst hsys
  cases outcome with
  | error e => exact .pure (htake.act hk')
  | ok r =>
    have hr : InCustody own loose (r.holdings ++ hand)
        { s with system, handles := s.handles.erase source } :=
      htake.act (by rw [List.append_assoc]; exact hk'.2)
    exact .keep (putRegion_yields hr hk'.1) fun _ _ hs' => .bind (.viewRegion fun _ => .pure hs')

theorem discardRegion_yields (name : String) (hs : InCustody own loose hand s) :
    (discardRegion name).Yields s fun _ s' => InCustody own loose hand s' :=
  .bind (.get (.bind (.modify (.keep (dropRegion_yields _ (hs.eraseRegion name))
    fun _ _ hs' => .pure hs'))))

theorem discardHandle_yields (name : String) (hs : InCustody own loose hand s) :
    (discardHandle name).Yields s fun _ s' => InCustody own loose hand s' :=
  .bind (.get (.bind (.modify (.keep (dropHandle_yields _ (hs.eraseHandle name))
    fun _ _ hs' => .pure hs'))))

private theorem dropWindow_yields (w : Option Window) (hs : InCustody own loose hand s) :
    (dropWindow w).Yields s fun _ s' => InCustody own loose hand s' := by
  cases w with
  | none => exact .pure hs
  | some w =>
    exact .act ((Window.release_yields w _).mono fun _ _ hk' _ hsys =>
      hs.act (hsys ▸ hs.front.quiet hk'))

theorem map_yields (source : Option String) (offset size : Nat) (layout : Layout) (dest : String)
    (hs : InCustody own loose hand s) :
    (map source offset size layout dest none).Yields s fun _ s' =>
      InCustody own loose hand s' := by
  refine .bind (.sourceGet ?_)
  cases source.mapM s.regions.get? with
  | none => exact hs
  | some r =>
    refine .bind (.act ((Window.ofRequest_yields _ _).mono ?_))
    intro outcome k' hk' system hsys
    have hs' : InCustody own loose hand { s with system } := hs.act (hsys ▸ hs.front.quiet hk')
    cases outcome with
    | error e => exact .pure hs'
    | ok w =>
      refine .keep ?_ fun _ _ hs'' => .pure hs''
      exact .bind (.get (.bind (.modify (dropWindow_yields _ (hs'.windows _)))))

/-- Work on the system that changes no descriptor and no object's shape. -/
theorem act_quiet {α : Type} {a : Effect α} (hs : InCustody own loose hand s)
    (ha : a.Yields s.system.kernel fun _ k' => Shift [] [] [] s.system.kernel k') :
    (act a).Yields s fun _ s' => InCustody own loose hand s' :=
  .act (ha.mono fun _ _ hk' _ hsys => hs.act (hsys ▸ hs.front.quiet hk'))

theorem discardWindow_yields (name : String) (hs : InCustody own loose hand s) :
    (discardWindow (H := H) name).Yields s fun _ s' => InCustody own loose hand s' :=
  .bind (.get (.bind (.modify (.keep (dropWindow_yields _ (hs.windows _))
    fun _ _ hs' => .pure hs'))))

end Session

end SharedMemory

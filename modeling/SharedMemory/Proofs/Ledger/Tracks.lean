import SharedMemory.Proofs.Ledger.Holds
/-!
# Keeping track of a session

A ledger keeps track of a session if both have the same names in use, each handle of the session
holds the grant that the ledger has for it, and the memory without descriptors and seals is the
same. Here the moves that steps are made of are followed in the ledger.
-/
namespace SharedMemory

open Kernel Effect

namespace System

variable {s : System}

theorem unhindered_bare_iff : s.bare.Unhindered ↔ s.Unhindered :=
  ⟨fun h => ⟨⟨h.kernel.obliging, h.kernel.limit, h.kernel.knowsFutureWrite⟩, h.names⟩,
    fun h => ⟨⟨h.kernel.obliging, h.kernel.limit, h.kernel.knowsFutureWrite⟩, h.names⟩⟩

theorem Unhindered.withMemory (hu : s.Unhindered) (objects : List Object)
    (mappings : Registry Mapping) (guids : Supply) :
    ({ s with kernel := { s.kernel with objects, mappings }, guids } : System).Unhindered :=
  ⟨⟨hu.kernel.obliging, hu.kernel.limit, hu.kernel.knowsFutureWrite⟩, hu.names⟩

end System

namespace Ledger

variable {s : System}

theorem make_unhindered (hu : s.Unhindered) (mode : Mode) (size : Nat) (layout : Layout) :
    (make s mode size layout).2.Unhindered := by
  unfold make
  split
  · exact hu
  · split
    · exact hu
    · split
      · exact hu
      · split
        · exact hu.withMemory _ s.kernel.mappings s.guids.advance
        · exact hu.withMemory _ s.kernel.mappings s.guids

private theorem unmap_unhindered (hu : s.Unhindered) (w : Option Window) :
    (unmap s w).Unhindered := by
  cases w with
  | none => exact hu
  | some w => exact hu.withMemory s.kernel.objects _ s.guids

end Ledger

/-- What the effect answers and does is the same without descriptors, seals and records, and it
touches nothing but the objects. -/
structure Effect.Unaware {α : Type} (a : Effect α) : Prop where
  answer (s : System) : (a.run s).1 = (a.run s.bare).1
  leaves (s : System) : (a.run s).2.bare = (a.run s.bare).2
  objects (s : System) :
    ∃ objects, (a.run s).2 = { s with kernel := { s.kernel with objects } }

theorem Effect.Unaware.pure {α : Type} (x : α) : (pure x : Effect α).Unaware :=
  ⟨fun _ => rfl, fun _ => rfl, fun s => ⟨s.kernel.objects, rfl⟩⟩

namespace Window

variable {α : Type} (w : Window)

private theorem view_bare (s : System) (position count : Nat) :
    w.view s.bare.kernel position count = w.view s.kernel position count :=
  bare_load s.kernel w.mapping _ count

private theorem put_unaware (position : Nat) (data : List UInt8) (x : α) :
    (do w.put position data; return x : Effect α).Unaware where
  answer _ := rfl
  leaves s := congrArg (fun kernel => { s.bare with kernel }) (bare_store s.kernel w.mapping _ data)
  objects s := by
    change ∃ objects, ({ s with kernel := s.kernel.store w.mapping _ data } : System) = _
    unfold Kernel.store
    split
    · exact ⟨s.kernel.objects, rfl⟩
    · split
      · exact ⟨_, rfl⟩
      · exact ⟨s.kernel.objects, rfl⟩

theorem writeSlice_unaware (data : List UInt8) (offset : Nat) :
    (w.writeSlice data offset).Unaware := by
  unfold writeSlice
  split
  · exact .pure _
  · split
    · exact .pure _
    · exact w.put_unaware _ _ _

theorem writeObject_unaware (e : Encoding α) (value : α) (offset : Nat) :
    (w.writeObject e value offset).Unaware := by
  unfold writeObject
  split
  · exact .pure _
  · split
    · exact .pure _
    · exact w.put_unaware _ _ _

theorem readSlice_unaware (buffer : List UInt8) (offset : Nat) :
    (w.readSlice buffer offset).Unaware where
  answer s := by simp only [readSlice_run, view_bare]
  leaves s := by rw [readSlice_looks, readSlice_looks]
  objects s := ⟨s.kernel.objects, readSlice_looks w buffer offset s⟩

theorem readObject_unaware (e : Encoding α) (offset : Nat) : (w.readObject e offset).Unaware where
  answer s := by simp only [readObject_run, view_bare]
  leaves s := by rw [readObject_looks, readObject_looks]
  objects s := ⟨s.kernel.objects, readObject_looks w e offset s⟩

private theorem release_leads {s : System} (hu : s.kernel.Unhindered) :
    w.release.Leads s fun _ s' => s'.bare = Ledger.unmap s.bare (some w) := by
  obtain ⟨k', hcall, halike⟩ := hu.generous.unmap w.mapping
  refine .bind (.granted hcall (.pure ?_))
  exact congrArg (fun kernel => { s.bare with kernel }) halike.bare

end Window

variable {H : Type} [Backing H] [Rights H]

/-- The ledger keeps track of the session. -/
structure Session.Tracks (l : Ledger) (s : Session H) : Prop where
  unhindered : l.system.Unhindered
  system : s.system.bare = l.system
  regions : s.regions.Rel (Region.Tallies s.system.kernel) l.regions
  handles : s.handles.Rel (Holds s.system.kernel) l.handles
  windows : s.windows = l.windows

namespace Session

open Script

variable {α β γ : Type} {l l' : Ledger} {s : Session H} {name : String} {r : Region H} {h : H}
  {v : Region Grant} {g : Grant} {own : Prop} {loose : Slots Descriptor} {hand : List (Holding H)}

namespace Tracks

theorem free (ht : s.Tracks l) : s.system.Unhindered :=
  System.unhindered_bare_iff.mp (ht.system ▸ ht.unhindered)

theorem holder (ht : s.Tracks l) (source : Holder) :
    Option.Rel (fun h g => s.holder? source = some h ∧ Holds s.system.kernel h g)
      (s.holder? source) (l.holder? source) := by
  cases source with
  | handle name => exact (ht.handles name).imp fun _ _ hh hholds => ⟨hh, hholds⟩
  | region name =>
    dsimp only [Session.holder?, Ledger.holder?]
    cases hr : s.regions.get? name with
    | none =>
      rw [(ht.regions name).eq_none hr]
      exact .none
    | some r =>
      obtain ⟨v, hv, htally⟩ := (ht.regions name).eq_some hr
      rw [hv]
      exact htally.handle.imp fun _ _ hh hholds => ⟨hh, hholds⟩

theorem act (ht : s.Tracks l) {system base : System} (hu : base.Unhindered)
    (hbare : system.bare = base) (hkeeps : Keeps s.holdings s.system.kernel system.kernel) :
    ({ s with system } : Session H).Tracks { l with system := base } where
  unhindered := hu
  system := hbare
  regions := ht.regions.mono fun _ _ _ hr htally =>
    htally.keeps (hkeeps.subset (holdings_subset_of_region hr))
  handles := ht.handles.mono fun _ _ _ hh hholds => hkeeps _ (mem_holdings_of_handle hh) _ hholds
  windows := ht.windows

/-- Work on the system that only shows in descriptors and seals. -/
theorem act_bare (ht : s.Tracks l) {system : System} (hbare : system.bare = s.system.bare)
    (hkeeps : Keeps s.holdings s.system.kernel system.kernel) :
    ({ s with system } : Session H).Tracks l :=
  ht.act ht.unhindered (hbare.trans ht.system) hkeeps

theorem putRegion (ht : s.Tracks l) (name : String) (hr : r.Tallies s.system.kernel v) :
    ({ s with regions := s.regions.put name r } : Session H).Tracks
      { l with regions := l.regions.put name v } :=
  { ht with regions := ht.regions.put name hr }

theorem eraseRegion (ht : s.Tracks l) (name : String) :
    ({ s with regions := s.regions.erase name } : Session H).Tracks
      { l with regions := l.regions.erase name } :=
  { ht with regions := ht.regions.erase name }

theorem putHandle (ht : s.Tracks l) (name : String) (hh : Holds s.system.kernel h g) :
    ({ s with handles := s.handles.put name h } : Session H).Tracks
      { l with handles := l.handles.put name g } :=
  { ht with handles := ht.handles.put name hh }

/-- Work on a region in its place, which the other handles do not notice. -/
theorem replaceRegion (ht : s.Tracks l) {system : System} (hbare : system.bare = s.system.bare)
    (hkeeps : Keeps ({ s with regions := s.regions.erase name } : Session H).holdings
      s.system.kernel system.kernel) (hr : r.Tallies system.kernel v) :
    ({ s with system, regions := s.regions.put name r } : Session H).Tracks
      { l with regions := l.regions.put name v } := by
  have h := ((ht.eraseRegion name).act_bare hbare hkeeps).putRegion name hr
  dsimp only at h
  rwa [Slots.put_erase, Slots.put_erase] at h

theorem eraseHandle (ht : s.Tracks l) (name : String) :
    ({ s with handles := s.handles.erase name } : Session H).Tracks
      { l with handles := l.handles.erase name } :=
  { ht with handles := ht.handles.erase name }

theorem putWindow (ht : s.Tracks l) (name : String) (w : Window) :
    ({ s with windows := s.windows.put name w } : Session H).Tracks
      { l with windows := l.windows.put name w } :=
  { ht with windows := congrArg (·.put name w) ht.windows }

theorem eraseWindow (ht : s.Tracks l) (name : String) :
    ({ s with windows := s.windows.erase name } : Session H).Tracks
      { l with windows := l.windows.erase name } :=
  { ht with windows := congrArg (·.erase name) ht.windows }

end Tracks

/-- The script gives the answer of the ledger, as far as one looks, and the ledger keeps track of
what is left. -/
def Meets (look : α → β) (p : Option β × Ledger) (x : Option α) (s' : Session H) : Prop :=
  x.map look = p.1 ∧ s'.Tracks p.2

theorem Meets.plain {p : Option α × Ledger} {x : Option α} {s' : Session H}
    (h : Meets id p x s') : x = p.1 ∧ s'.Tracks p.2 := by
  rwa [Meets, Option.map_id_apply] at h

/-- The script comes to its end, and the ledger keeps track of what is left. -/
def Settles (a : Script H Unit) (s : Session H) (l : Ledger) : Prop :=
  a.Yields s fun x s' => x = some () ∧ s'.Tracks l

theorem Settles.andThen {a : Script H Unit} {f : Unit → Script H α}
    {Q : Option α → Session H → Prop} (h : Settles a s l)
    (hf : ∀ s', s'.Tracks l → (f ()).Yields s' Q) : (a >>= f).Yields s Q := by
  refine .bind (h.mono ?_)
  rintro x s' ⟨rfl, ht⟩
  exact hf s' ht

omit [Rights H] in
theorem viewRegion_tells {Q : Option RegionView → Session H → Prop}
    (h : ∀ view : RegionView, view.summary = r.summary → Q (some view) s) :
    (viewRegion r).Yields s Q :=
  h _ (RegionView.summary_of r s.system.kernel)

/-- A step on a value is followed in the ledger if it is for every value that there can be. -/
theorem onValue_meets {ν δ : Type} {a : Script H α} {f : α → Script H γ} {look : γ → δ}
    {R : α → ν → Prop} {value : Option ν} {p : ν → δ × Ledger} (ht : s.Tracks l)
    (ha : a.Yields s fun x s' => s' = s ∧ Option.Rel R x value)
    (hf : ∀ x y, R x y → (f x).Yields s (Meets look (some (p y).1, (p y).2))) :
    (a >>= f).Yields s (Meets look (l.onValue value p)) := by
  refine .bind (ha.mono ?_)
  rintro x s' ⟨rfl, hx⟩
  cases hx with
  | none => exact ⟨rfl, ht⟩
  | some hxy => exact hf _ _ hxy

theorem held_meets {ν δ : Type} {table : Session H → Slots α} {f : α → Script H γ} {look : γ → δ}
    {R : α → ν → Prop} {values : Slots ν} {p : ν → δ × Ledger} (ht : s.Tracks l)
    (hrel : (table s).Rel R values)
    (hf : ∀ x y, (table s).get? name = some x → R x y →
      (f x).Yields s (Meets look (some (p y).1, (p y).2))) :
    (held table name >>= f).Yields s (Meets look (l.onValue (values.get? name) p)) := by
  have hvalue : Option.Rel (fun x y => (table s).get? name = some x ∧ R x y)
      ((table s).get? name) (values.get? name) :=
    (hrel name).imp fun _ _ hx hxy => ⟨hx, hxy⟩
  exact onValue_meets ht (.heldGet ⟨rfl, hvalue⟩) fun x y hxy => hf x y hxy.1 hxy.2

variable [LawfulBacking H]

theorem dropWindow_settles (old : Option Window) (hs : InCustody own loose hand s)
    (ht : s.Tracks l) :
    Settles (dropWindow old) s { l with system := Ledger.unmap l.system old } := by
  cases old with
  | none => exact .pure ⟨rfl, ht⟩
  | some w =>
    have hbare : (w.release.run s.system).2.bare = Ledger.unmap l.system (some w) :=
      ht.system ▸ w.release_leads ht.free.kernel
    have hkeeps := hs.front.keeps_quiet (w.release_yields _ s.system rfl)
    change (Session.act w.release).Yields s _
    refine .leads ⟨rfl, ?_⟩
    exact ht.act (Ledger.unmap_unhindered ht.unhindered _) hbare
      (hkeeps.subset (List.subset_append_right _ _))

theorem putWindow_settles (w : Window) (hs : InCustody own loose hand s) (ht : s.Tracks l) :
    Settles (putWindow name w) s
      { l with
        system := Ledger.unmap l.system (l.windows.get? name)
        windows := l.windows.put name w } := by
  refine .bind (.get (.bind (.modify ?_)))
  have hdrop := dropWindow_settles (s.windows.get? name) (hs.windows _) (ht.putWindow name w)
  rwa [ht.windows] at hdrop ⊢

variable [ModestBacking H]

theorem dropRegion_settles (old : Option (Region H))
    (hs : InCustody own loose (old.toList.flatMap Region.holdings ++ hand) s) (ht : s.Tracks l) :
    Settles (dropRegion old) s l := by
  cases old with
  | none => exact .pure ⟨rfl, ht⟩
  | some r =>
    have hc : Custody own s.system.kernel (r.holdings ++ (hand ++ s.holdings)) := by
      simpa using hs.front
    have hbare := r.release_within Effect.bare_closed.objects s.system
    have hkeeps := Region.release_keeps hc s.system rfl
    exact .leads ⟨rfl, ht.act_bare hbare (hkeeps.subset (List.subset_append_right _ _))⟩

theorem dropHandle_settles (old : Option H)
    (hs : InCustody own loose (old.toList.flatMap bare ++ hand) s) (ht : s.Tracks l) :
    Settles (dropHandle old) s l := by
  cases old with
  | none => exact .pure ⟨rfl, ht⟩
  | some h =>
    have hbare := ModestBacking.release h Effect.bare_closed.objects s.system
    have hkeeps := Custody.keeps_release hs.front s.system rfl
    exact .leads ⟨rfl, ht.act_bare hbare (hkeeps.subset (List.subset_append_right _ _))⟩

theorem putRegion_settles (hs : InCustody own loose (r.holdings ++ hand) s) (hr : r.Tidy)
    (ht : s.Tracks l) (htally : r.Tallies s.system.kernel v) :
    Settles (putRegion name r) s { l with regions := l.regions.put name v } :=
  .bind (.get (.bind (.modify
    (dropRegion_settles _ (hs.swapRegion name hr) (ht.putRegion name htally)))))

theorem putRegion_meets {γ δ : Type} {f : RegionView → γ} {look : γ → δ} {answer : δ}
    (hs : InCustody own loose (r.holdings ++ hand) s) (hr : r.Tidy) (ht : s.Tracks l)
    (htally : r.Tallies s.system.kernel v)
    (hlook : ∀ view : RegionView, view.summary = v.summary → look (f view) = answer) :
    (do putRegion name r; return f (← viewRegion r) : Script H γ).Yields s
      (Meets look (some answer, { l with regions := l.regions.put name v })) := by
  refine (putRegion_settles hs hr ht htally).andThen ?_
  intro s' ht'
  refine .bind (viewRegion_tells fun view hview => .pure ⟨?_, ht'⟩)
  exact congrArg some (hlook view (hview.trans htally.summary))

theorem putHandle_settles (hs : InCustody own loose (⟨h, none⟩ :: hand) s) (ht : s.Tracks l)
    (hh : Holds s.system.kernel h g) :
    Settles (putHandle name h) s { l with handles := l.handles.put name g } :=
  .bind (.get (.bind (.modify
    (dropHandle_settles _ (hs.swapHandle name) (ht.putHandle name hh)))))

end Session

end SharedMemory

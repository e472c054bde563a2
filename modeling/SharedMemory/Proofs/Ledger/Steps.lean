import SharedMemory.Proofs.Ledger.Tracks
import SharedMemory.Proofs.Session.Natives
/-!
# Steps and what the ledger says of them

With nothing in its way, each step of a session gives the answer that the ledger has for it and
leaves a session that the ledger keeps track of.
-/
namespace SharedMemory

open Kernel Effect

namespace Session

open Script

variable {H : Type} [Backing H] [Rights H] {l : Ledger} {s : Session H} {loose : Slots Descriptor}
  {hand : List (Holding H)}

theorem inspect_meets (name : String) (ht : s.Tracks l) :
    (inspect name).Yields s (Meets RegionView.summary
      (l.onValue (l.regions.get? name) fun v => (v.summary, l))) := by
  refine held_meets ht ht.regions ?_
  intro r v _ htally
  exact viewRegion_tells fun view hview => ⟨congrArg some (hview.trans htally.summary), ht⟩

/-- The region that is to be mapped is what it says of itself. -/
theorem Tracks.source (ht : s.Tracks l) (hs : InCustody True loose hand s)
    (source : Option String) :
    Option.Rel (fun r v => Option.Rel (Region.Tallies s.system.kernel) r v ∧
      ∀ r' h, r = some r' → r'.handle = some h → Labelled True s.system.kernel h r'.header)
        (source.mapM s.regions.get?) (source.mapM l.regions.get?) := by
  cases source with
  | none => exact .some ⟨.none, nofun⟩
  | some name =>
    change Option.Rel _ ((s.regions.get? name).map some) ((l.regions.get? name).map some)
    cases hr : s.regions.get? name with
    | none =>
      rw [(ht.regions name).eq_none hr]
      exact .none
    | some r =>
      obtain ⟨v, hv, htally⟩ := (ht.regions name).eq_some hr
      rw [hv]
      refine .some ⟨.some htally, ?_⟩
      rintro r' h ⟨⟩ hh
      exact (hs.kept hr hh).label _ rfl

variable [LawfulBacking H]

theorem through_meets {α : Type} {name : String} {a : Window → Effect α}
    (ha : ∀ w, (a w).Unaware)
    (hquiet : ∀ w k, (a w).Yields k fun _ k' => Shift [] [] [] k k')
    (hs : InCustody True loose hand s) (ht : s.Tracks l) :
    (do act (a (← window name)) : Script H α).Yields s (Meets id (l.through name a)) := by
  have hvalue : Option.Rel Eq (s.windows.get? name) (l.windows.get? name) := by
    rw [ht.windows]
    cases l.windows.get? name with
    | none => exact .none
    | some w => exact .some rfl
  refine onValue_meets ht (.heldGet ⟨rfl, hvalue⟩) ?_
  rintro w _ rfl
  have hkeeps := hs.front.keeps_quiet (hquiet w _ s.system rfl)
  have hanswer := (ha w).answer s.system
  have hbare := (ha w).leaves s.system
  rw [ht.system] at hanswer hbare
  have hu : (((a w).run l.system).2).Unhindered := by
    obtain ⟨objects, hobjects⟩ := (ha w).objects l.system
    rw [hobjects]
    exact ht.unhindered.withMemory objects l.system.kernel.mappings l.system.guids
  refine .leads ⟨congrArg some hanswer, ?_⟩
  exact ht.act hu hbare (hkeeps.subset (List.subset_append_right hand _))

theorem discardWindow_meets (name : String) (hs : InCustody True loose hand s) (ht : s.Tracks l) :
    (discardWindow name).Yields s
      (Meets id (some (l.discardWindow name).1, (l.discardWindow name).2)) := by
  refine .bind (.get (.bind (.modify ?_)))
  refine (dropWindow_settles _ (hs.windows _) (ht.eraseWindow name)).andThen ?_
  intro s' ht'
  rw [ht.windows] at ht' ⊢
  exact .pure ⟨rfl, ht'⟩

theorem map_meets (source : Option String) (offset size : Nat) (layout : Layout) (dest : String)
    (hs : InCustody True loose hand s) (ht : s.Tracks l) :
    (map source offset size layout dest none).Yields s
      (Meets id (l.map source offset size layout dest)) := by
  refine onValue_meets ht (.sourceGet ⟨rfl, ht.source hs source⟩) ?_
  rintro r v ⟨hrel, hlabel⟩
  have hrequest := (Window.ofRequest_tallies offset size layout ht.free.kernel hrel hlabel).and
    (.of_yields (Window.ofRequest_yields _ _))
  refine .bind (.leads (hrequest.mono ?_))
  rintro outcome _ ⟨⟨k', rfl, hexpose⟩, hshift⟩
  have hkeeps := (hs.front.keeps_quiet hshift).subset (List.subset_append_right hand _)
  rw [ht.system] at hexpose
  dsimp only
  generalize Ledger.expose l.system.kernel v offset size layout = exposed at hexpose ⊢
  cases exposed with
  | error e =>
    obtain ⟨rfl, halike⟩ := hexpose
    have hbare := congrArg (fun kernel => { s.system.bare with kernel }) halike.bare
    exact .pure ⟨rfl, ht.act_bare hbare hkeeps⟩
  | ok exposed =>
    obtain ⟨w, m⟩ := exposed
    obtain ⟨rfl, halike⟩ := hexpose
    have hbare : ({ s.system with kernel := k' } : System).bare = Ledger.addMapping l.system m := by
      rw [← ht.system]
      exact congrArg (fun kernel => { s.system.bare with kernel }) halike.bare
    have hu := ht.unhindered.withMemory l.system.kernel.objects
      (l.system.kernel.mappings.insert m).2 l.system.guids
    have hs' : InCustody True loose hand { s with system := { s.system with kernel := k' } } :=
      hs.act (hs.front.quiet hshift)
    refine (putWindow_settles w hs' (ht.act hu hbare hkeeps)).andThen ?_
    intro s' ht'
    exact .pure ⟨rfl, ht'⟩

variable [ModestBacking H]

theorem vacate_meets (dest : String) (hs : InCustody True loose hand s) (ht : s.Tracks l) :
    (vacate dest).Yields s (Meets RegionView.summary (some (Region.invalid : Region Grant).summary,
      { l with regions := l.regions.put dest .invalid })) := by
  have hr : InCustody True loose ((Region.invalid : Region H).holdings ++ hand) s := hs
  refine (putRegion_settles hr (fun _ => rfl) ht .invalid).andThen ?_
  intro s' ht'
  exact viewRegion_tells fun view hview => ⟨congrArg some hview, ht'⟩

theorem duplicate_meets (source dest : String) (hs : InCustody True loose hand s)
    (ht : s.Tracks l) :
    (duplicate source dest none).Yields s
      (Meets (Except.map fun p => (p.1.summary, p.2.summary)) (l.duplicate source dest)) := by
  refine held_meets ht ht.regions ?_
  intro r v hr htally
  have hc := hs.front.perm (hand_perm hand hs.regions hr).symm
  have hduplicate :=
    (Leads.of_yields ((Region.duplicate_tallies ht.free.kernel htally hc).and
      (r.duplicate_yields hc))).and (.of_within (r.duplicate_within Effect.bare_closed.objects))
  refine .bind (.leads (hduplicate.mono ?_))
  rintro outcome system ⟨⟨⟨hsame, hkeeps⟩, hc'⟩, hbare⟩
  have hkeeps : Keeps s.holdings s.system.kernel system.kernel := hkeeps.subset fun x hx =>
    (hand_perm hand hs.regions hr).mem_iff.mpr (List.mem_append_right _ hx)
  have ht' := ht.act_bare hbare hkeeps
  dsimp only
  generalize Ledger.copy v = copied at hsame ⊢
  cases hsame with
  | error e => exact .pure ⟨rfl, ht'⟩
  | @ok copy c hcopy =>
    have hperm := (hand_perm hand hs.regions hr).append_left copy.holdings
    rw [← List.append_assoc copy.holdings hand] at hperm
    refine .bind (viewRegion_tells fun before hbefore => ?_)
    refine putRegion_meets (hs.act (hc'.2.perm hperm)) hc'.1 ht' hcopy ?_
    intro view hview
    simp only [Except.map, hview, hbefore, htally.summary]

theorem move_meets (source dest : String) (hs : InCustody True loose hand s) (ht : s.Tracks l) :
    (move source dest).Yields s
      (Meets (fun p => (p.1.summary, p.2.summary)) (l.move source dest)) := by
  refine held_meets ht ht.regions ?_
  intro r v hr htally
  refine .bind (.modify (.bind (viewRegion_tells fun left hleft => ?_)))
  have htidy := hs.tidy r (Slots.mem_values_of_get? hr)
  have hleave := ht.putRegion source .invalid
  refine putRegion_meets (hs.leaveInvalid hr) htidy hleave htally ?_
  intro view hview
  simp only [hview, hleft]
  rfl

theorem takeHandle_meets (source dest : String) (hs : InCustody True loose hand s)
    (ht : s.Tracks l) :
    (takeHandle source dest).Yields s
      (Meets (fun p => (p.1.isSome, p.2.summary)) (l.takeHandle source dest)) := by
  refine held_meets ht ht.regions ?_
  intro r v hr htally
  refine .bind (.modify (.bind (viewRegion_tells fun left hleft => ?_)))
  have hleave := ht.putRegion source .invalid
  have hhand := hs.leaveInvalid hr
  dsimp only [Ledger.lay, Region.isValid]
  cases hhandle : r.handle with
  | none =>
    rw [htally.handle.eq_none hhandle]
    exact .pure ⟨congrArg (fun left => some (false, left)) hleft, hleave⟩
  | some h =>
    obtain ⟨g, hg, hholds⟩ := htally.handle.eq_some hhandle
    rw [hg]
    refine (putHandle_settles (hhand.unlabel hhandle) hleave hholds).andThen ?_
    intro s' ht'
    exact .bind (.viewHandle fun _ => .pure ⟨congrArg (fun left => some (true, left)) hleft, ht'⟩)

theorem passHandle_meets (source dest : String) (hs : InCustody True loose hand s)
    (ht : s.Tracks l) :
    (passHandle source dest).Yields s (Meets Option.isSome (l.passHandle source dest)) := by
  refine held_meets ht ht.regions ?_
  intro r v hr htally
  refine .bind (.modify ?_)
  have herase := ht.eraseRegion source
  dsimp only [Ledger.lay, Region.isValid]
  cases hhandle : r.handle with
  | none =>
    rw [htally.handle.eq_none hhandle]
    exact .pure ⟨rfl, herase⟩
  | some h =>
    obtain ⟨g, hg, hholds⟩ := htally.handle.eq_some hhandle
    rw [hg]
    refine (putHandle_settles ((hs.takeRegion hr).unlabel hhandle) herase hholds).andThen ?_
    intro s' ht'
    exact .bind (.viewHandle fun _ => .pure ⟨rfl, ht'⟩)

theorem split_meets (source dest : String) (hs : InCustody True loose hand s) (ht : s.Tracks l) :
    (split source dest).Yields s (Meets (Option.map (·.2)) (l.split source dest)) := by
  refine held_meets ht ht.regions ?_
  intro r v hr htally
  refine .bind (.modify ?_)
  have herase := ht.eraseRegion source
  unfold Region.parts?
  dsimp only [Ledger.lay]
  cases hhandle : r.handle with
  | none =>
    rw [htally.handle.eq_none hhandle]
    exact .pure ⟨rfl, herase⟩
  | some h =>
    obtain ⟨g, hg, hholds⟩ := htally.handle.eq_some hhandle
    rw [hg]
    refine (putHandle_settles ((hs.takeRegion hr).unlabel hhandle) herase hholds).andThen ?_
    intro s' ht'
    refine .bind (.modify (.bind (.viewHandle fun _ => .pure ⟨?_, { ht' with }⟩)))
    exact congrArg (fun header => some (some header)) htally.header

theorem take_meets (source : String) (header : Header) (dest : String)
    (hs : InCustody True loose hand s) (ht : s.Tracks l) :
    (take source header dest).Yields s
      (Meets (Except.map RegionView.summary) (l.take source header dest)) := by
  refine held_meets ht ht.handles ?_
  intro h g hh hholds
  refine .bind (.modify ?_)
  have htake := hs.takeHandle hh
  have haccept := (Leads.of_yields ((Region.take_tallies ht.free.kernel hholds htake.front).and
    (Region.take_yields h header htake.front))).and
    (.of_within (Region.take_within Effect.bare_closed.objects h header))
  refine .bind (.leads (haccept.mono ?_))
  rintro outcome system ⟨⟨⟨hsame, hkeeps⟩, hc⟩, hbare⟩
  have ht' := (ht.eraseHandle source).act_bare hbare
    (hkeeps.subset (List.subset_append_right hand _))
  have hkernel : s.system.kernel.bare = l.system.kernel := congrArg System.kernel ht.system
  rw [hkernel] at hsame
  dsimp only
  generalize Ledger.accept l.system.kernel g header = accepted at hsame ⊢
  cases hsame with
  | error e => exact .pure ⟨rfl, ht'⟩
  | @ok r v htally =>
    have hr : InCustody True loose (r.holdings ++ hand)
        { s with system, handles := s.handles.erase source } :=
      htake.act (by rw [List.append_assoc]; exact hc.2)
    exact putRegion_meets hr hc.1 ht' htally fun _ hview => congrArg Except.ok hview

theorem discardRegion_meets (name : String) (hs : InCustody True loose hand s) (ht : s.Tracks l) :
    (discardRegion name).Yields s (Meets id (some (l.regions.get? name).isSome,
      { l with regions := l.regions.erase name })) := by
  refine .bind (.get (.bind (.modify ?_)))
  refine (dropRegion_settles _ (hs.eraseRegion name) (ht.eraseRegion name)).andThen ?_
  intro s' ht'
  exact .pure ⟨congrArg some (ht.regions name).isSome_eq, ht'⟩

theorem discardHandle_meets (name : String) (hs : InCustody True loose hand s) (ht : s.Tracks l) :
    (discardHandle name).Yields s (Meets id (some (l.handles.get? name).isSome,
      { l with handles := l.handles.erase name })) := by
  refine .bind (.get (.bind (.modify ?_)))
  refine (dropHandle_settles _ (hs.eraseHandle name) (ht.eraseHandle name)).andThen ?_
  intro s' ht'
  exact .pure ⟨congrArg some (ht.handles name).isSome_eq, ht'⟩

theorem check_meets (source : Holder) (mode : Mode) (size : Nat)
    (hs : InCustody True loose hand s) (ht : s.Tracks l) :
    (check source mode size none).Yields s (Meets id (l.check source mode size)) := by
  refine onValue_meets ht (.holderGet ⟨rfl, ht.holder source⟩) ?_
  rintro h g ⟨hh, hholds⟩
  obtain ⟨header, hmem⟩ := mem_holdings_of_holder? hh
  have hsound := (hs.custody.each _ (List.mem_append_left _ hmem)).sound
  have hcheck := (Leads.of_yields
    (hholds.corresponds hsound ht.free.kernel.obliging mode size)).and
    (.of_within (ModestBacking.corresponds h mode size Effect.bare_closed.objects))
  refine .leads (hcheck.mono ?_)
  rintro answer system ⟨⟨halike, rfl⟩, hbare⟩
  have hkernel : s.system.kernel.bare = l.system.kernel := congrArg System.kernel ht.system
  have hkeeps := hs.front.keeps_quiet ((Shift.refl _).alike halike)
  rw [hkernel]
  exact ⟨rfl, ht.act_bare hbare (hkeeps.subset (List.subset_append_right hand _))⟩

variable [CompleteBacking H]

theorem create_meets (mode : Mode) (size : Nat) (layout : Layout) (dest : String)
    (hs : InCustody True loose hand s) (ht : s.Tracks l) :
    (create mode size layout dest none).Yields s (Meets (Except.map RegionView.summary)
      (some (l.create mode size layout dest).1, (l.create mode size layout dest).2)) := by
  have hcreate := (Region.create_tallies mode size layout ht.free hs.front).and
    (.of_yields (Region.create_yields mode size layout hs.front))
  refine .bind (.leads (hcreate.mono ?_))
  rintro outcome system ⟨⟨hsame, hbare, hkeeps⟩, hc⟩
  rw [ht.system] at hsame hbare
  have hu := Ledger.make_unhindered ht.unhindered mode size layout
  have hkeeps := hkeeps.subset (List.subset_append_right hand _)
  unfold Ledger.create
  generalize Ledger.make l.system mode size layout = made at hsame hbare hu ⊢
  obtain ⟨made, base⟩ := made
  cases hsame with
  | error e => exact .pure ⟨rfl, ht.act hu hbare hkeeps⟩
  | @ok r v htally =>
    have hr : InCustody True loose (r.holdings ++ hand) { s with system } :=
      hs.act (by rw [List.append_assoc]; exact hc.2)
    exact putRegion_meets hr hc.1 (ht.act hu hbare hkeeps) htally fun _ hview =>
      congrArg Except.ok hview

theorem convert_meets (name : String) (goal : Region.Downgrade) (hs : InCustody True loose hand s)
    (ht : s.Tracks l) :
    (convert name goal.conversion none).Yields s
      (Meets (fun p => (p.1, p.2.summary)) (l.convert name goal)) := by
  refine held_meets ht ht.regions ?_
  intro r v hr htally
  have hc := hs.front.perm (hand_perm hand hs.regions hr).symm
  have hconvert := (Leads.of_yields (Region.convert_tallies goal ht.free.kernel htally hc)).and
    (.of_within (r.convert_within Effect.bare_closed goal))
  refine .bind (.leads (hconvert.mono ?_))
  rintro outcome system ⟨⟨hsame, hkeeps, hfailed⟩, hbare⟩
  dsimp only
  generalize Ledger.downgrade v goal = converted at hsame ⊢
  cases hsame with
  | error e =>
    have hkernel : system.kernel = s.system.kernel := hfailed e rfl
    have ht' := ht.act_bare hbare (hkernel ▸ Keeps.refl s.holdings s.system.kernel)
    refine .bind (viewRegion_tells fun view hview => .pure ⟨?_, ht'⟩)
    exact congrArg (fun summary => some (Except.error e, summary)) (hview.trans htally.summary)
  | @ok converted v' htally' =>
    have ht' := ht.replaceRegion hbare (hkeeps.subset (List.subset_append_right hand _)) htally'
    refine .bind (.modify (.bind (viewRegion_tells fun view hview => .pure ⟨?_, ht'⟩)))
    exact congrArg (fun summary => some (Except.ok (), summary)) (hview.trans htally'.summary)

end Session

end SharedMemory

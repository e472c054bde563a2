import SharedMemory.Proofs.Kernel.Mapping
import SharedMemory.Proofs.Ledger.Basic
/-!
# Handles and the rights that they stand for

A handle holds a grant if the kernel grants its mode on its object and all its descriptors are for
reading. With nothing in their way, the operations of a region come to what the ledger says of the
grant, and other handles hold what they held.
-/
namespace SharedMemory

open Kernel Backing Effect

theorem Backing.Readable.shift {H : Type} [Backing H] {k k' : Kernel} {h : H}
    {gone fresh : List Descriptor} {touched : List ObjectId} (hr : Readable k h)
    (hshift : Shift gone fresh touched k k') (hgone : ∀ d ∈ descriptors h, d ∉ gone) :
    Readable k' h := by
  intro d hd
  obtain ⟨file, hfile, hread⟩ := hr d hd
  exact ⟨file, hshift.file? (hgone d hd) hfile, hread⟩

/-- Two outcomes are the same error or agree on what they give. -/
inductive SameOutcome {ε α β : Type} (R : α → β → Prop) : Except ε α → Except ε β → Prop
  | error (e : ε) : SameOutcome R (.error e) (.error e)
  | ok {a : α} {b : β} : R a b → SameOutcome R (.ok a) (.ok b)

section

variable {H : Type} [Backing H] [Rights H]

structure Holds (k : Kernel) (h : H) (g : Grant) : Prop where
  grants : Grants k h g.object g.mode
  readable : Readable k h

/-- These handles hold what they held. -/
def Keeps (hs : List (Holding H)) (k k' : Kernel) : Prop :=
  ∀ x ∈ hs, ∀ g, Holds k x.handle g → Holds k' x.handle g

structure Region.Tallies (k : Kernel) (r : Region H) (v : Region Grant) : Prop where
  header : r.header = v.header
  handle : Option.Rel (Holds k) r.handle v.handle

variable {k k' : Kernel} {h : H} {g : Grant} {x : Holding H} {hs xs : List (Holding H)}
  {gone fresh : List Descriptor} {touched : List ObjectId} {own : Prop}

theorem Keeps.refl (hs : List (Holding H)) (k : Kernel) : Keeps hs k k := fun _ _ _ h => h

theorem Keeps.trans {k₁ : Kernel} (h : Keeps hs k k₁) (h' : Keeps hs k₁ k') : Keeps hs k k' :=
  fun x hx g hg => h' x hx g (h x hx g hg)

theorem Keeps.subset (h : Keeps hs k k') (hsub : xs ⊆ hs) : Keeps xs k k' :=
  fun x hx => h x (hsub hx)

theorem Region.Tallies.keeps {r : Region H} {v : Region Grant} (ht : r.Tallies k v)
    (h : Keeps r.holdings k k') : r.Tallies k' v := by
  refine ⟨ht.header, ht.handle.imp ?_⟩
  intro handle g hr hg
  rw [Region.holdings_of_some hr] at h
  exact h _ (List.mem_singleton_self _) g hg

theorem Region.Tallies.invalid : (Region.invalid : Region H).Tallies k .invalid := ⟨rfl, .none⟩

theorem Region.Tallies.mode {r : Region H} {v : Region Grant} (h : r.Tallies k v) :
    r.mode = v.mode := congrArg Header.mode h.header

theorem Region.Tallies.isValid {r : Region H} {v : Region Grant} (h : r.Tallies k v) :
    r.isValid = v.isValid := h.handle.isSome_eq

theorem Region.Tallies.summary {r : Region H} {v : Region Grant} (h : r.Tallies k v) :
    r.summary = v.summary := by
  rw [Region.summary, Region.summary, h.isValid, h.header]

private theorem Region.Downgrade.completes [CompleteBacking H] (goal : Region.Downgrade)
    {o : ObjectId} (hu : k.Unhindered) (hsound : Sound k h) (hg : Grants k h o .writable) :
    ((goal.conversion (H := H)).native h).Yields k fun outcome _ => ∃ h', outcome = .ok h' := by
  cases goal with
  | readOnly => exact CompleteBacking.toReadOnly h o k hu hsound hg
  | shared => exact CompleteBacking.toShared h o k hu hsound hg

variable [LawfulBacking H]

/-- What is done to the descriptors of some handles and to the objects that these write to is no
matter to the others. -/
theorem Custody.keeps (xs : List (Holding H)) (hc : Custody own k (xs ++ hs))
    (hshift : Shift gone fresh touched k k')
    (hgone : ∀ d ∈ gone, ∃ x ∈ xs, d ∈ descriptors x.handle)
    (htouched : ∀ o ∈ touched, ∃ x ∈ xs, Grants k x.handle o .writable) : Keeps hs k k' := by
  obtain ⟨-, -, hapart⟩ := List.pairwise_append.mp hc.apart
  intro y hy g hg
  have hstays : ∀ d ∈ descriptors y.handle, d ∉ gone := by
    intro d hd hdg
    obtain ⟨x, hx, hdx⟩ := hgone d hdg
    exact (hapart x hx y hy).disjoint d hdx hd
  refine ⟨hg.grants.shift (hc.each y (List.mem_append_right xs hy)).sound hshift hstays ?_,
    hg.readable.shift hshift hstays⟩
  intro hmode ho
  obtain ⟨x, hx, hwrites⟩ := htouched _ ho
  exact (hapart x hx y hy).writers _ hwrites (hmode ▸ hg.grants)

theorem Custody.keeps_quiet (hc : Custody own k hs) (hshift : Shift [] fresh [] k k') :
    Keeps hs k k' :=
  Custody.keeps [] hc hshift (fun _ hd => absurd hd List.not_mem_nil)
    fun _ ho => absurd ho List.not_mem_nil

theorem Custody.keeps_release (hc : Custody own k (x :: hs)) :
    (Backing.release x.handle).Yields k fun _ k' => Keeps hs k k' :=
  (LawfulBacking.release_yields x.handle k).mono fun _ _ hk' =>
    Custody.keeps [x] hc hk' (fun _ hd => ⟨x, List.mem_singleton_self x, hd⟩)
      fun _ ho => absurd ho List.not_mem_nil

theorem Holds.grantsBytes_iff (hh : Holds k h g) (mode : Mode) (size : Nat) :
    GrantsBytes k h mode size ↔ Ledger.confirms k.bare g mode size = true := by
  rw [Ledger.confirms, bare_object_length, Bool.and_eq_true, decide_eq_true_eq, decide_eq_true_eq]
  constructor
  · rintro ⟨o, hg, hsize⟩
    obtain rfl := hh.grants.refers.object_eq hg.refers
    exact ⟨hh.grants.mode_eq hg, hsize⟩
  · rintro ⟨rfl, hsize⟩
    exact ⟨g.object, hh.grants, hsize⟩

theorem Holds.corresponds (hh : Holds k h g) (hsound : Sound k h) (ho : k.Obliging) (mode : Mode)
    (size : Nat) : (Backing.corresponds h mode size).Yields k fun answer k' =>
      k.Alike k' ∧ answer = Ledger.confirms k.bare g mode size := by
  refine (LawfulBacking.corresponds_yields h mode size k hsound).mono ?_
  rintro answer k' ⟨halike, hconfirms, hanswers⟩
  rw [hh.grantsBytes_iff] at hconfirms hanswers
  exact ⟨halike, Bool.eq_iff_iff.mpr ⟨hconfirms, hanswers ho.candid⟩⟩

namespace Region

variable {r : Region H} {v : Region Grant}

theorem duplicate_tallies (hu : k.Unhindered) (ht : r.Tallies k v)
    (hc : Custody True k (r.holdings ++ hs)) :
    r.duplicate.Yields k fun outcome k' =>
      SameOutcome (Tallies k') outcome (Ledger.copy v) ∧ Keeps (r.holdings ++ hs) k k' := by
  unfold duplicate Ledger.copy
  rw [← ht.mode]
  cases hhandle : r.handle with
  | none =>
    rw [ht.handle.eq_none hhandle]
    exact .pure ⟨.error _, .refl _ k⟩
  | some h =>
    obtain ⟨g, hg, hholds⟩ := ht.handle.eq_some hhandle
    rw [hg]
    dsimp only
    by_cases hmode : r.mode = .writable
    · rw [if_pos hmode, if_pos hmode]
      exact .pure ⟨.error _, .refl _ k⟩
    · rw [if_neg hmode, if_neg hmode]
      have hsound : Sound k h := by
        rw [holdings_of_some hhandle] at hc
        exact (Custody.cons_iff.mp hc).1.sound
      have hopen : ∀ d ∈ Backing.descriptors h, k.IsOpen d := fun _ => hsound.isOpen
      refine .bind (((LawfulBacking.duplicate_yields h k hopen).and
        (LawfulBacking.duplicate_succeeds h k hopen hu.obliging hu.limit)).mono ?_)
      rintro outcome k' ⟨hcopied, ⟨copy, rfl⟩, -⟩
      obtain ⟨hshift, -, hcopies⟩ := hcopied
      have hreadable : Readable k' copy := by
        intro d hd
        obtain ⟨d', hd', hfile⟩ := hcopies.file? hd
        rw [hfile]
        exact hholds.readable d' hd'
      refine .pure ⟨.ok ⟨ht.header, ?_⟩, hc.keeps_quiet hshift⟩
      rw [hg]
      exact .some ⟨(hcopies.grants_iff hshift hsound).mpr hholds.grants, hreadable⟩

/-- The check of a handle that is received looks at what the handle holds. -/
theorem take_tallies {header : Header} (hu : k.Unhindered) (hh : Holds k h g)
    (hc : Custody True k (⟨h, none⟩ :: hs)) :
    (take h header).Yields k fun outcome k' =>
      SameOutcome (Tallies k') outcome (Ledger.accept k.bare g header) ∧ Keeps hs k k' := by
  unfold take Ledger.accept
  by_cases hvalid : validSize header.size = true
  · rw [if_neg (not_not_intro hvalid), if_neg (not_not_intro hvalid)]
    obtain ⟨hx, -, -⟩ := Custody.cons_iff.mp hc
    refine .bind ((hh.corresponds hx.sound hu.obliging header.mode header.size).mono ?_)
    rintro answer k₁ ⟨halike, rfl⟩
    have hkeeps := hc.keeps_quiet ((Shift.refl k).alike halike)
    cases Ledger.confirms k.bare g header.mode header.size with
    | false =>
      refine .bind ((Custody.keeps_release (hc.alike halike)).mono fun _ k' hk' => .pure ?_)
      exact ⟨.error _, (hkeeps.subset (List.subset_cons_self _ _)).trans hk'⟩
    | true =>
      exact .pure ⟨.ok ⟨rfl, .some (hkeeps _ List.mem_cons_self g hh)⟩,
        hkeeps.subset (List.subset_cons_self _ _)⟩
  · rw [if_pos hvalid, if_pos hvalid]
    refine .bind ((Custody.keeps_release hc).mono fun _ k' hk' => .pure ?_)
    exact ⟨.error _, hk'⟩

theorem release_keeps (hc : Custody own k (r.holdings ++ hs)) :
    r.release.Yields k fun _ k' => Keeps hs k k' := by
  unfold release
  cases hhandle : r.handle with
  | none => exact .pure (.refl hs k)
  | some handle =>
    rw [holdings_of_some hhandle] at hc
    exact Custody.keeps_release hc

variable [CompleteBacking H]

theorem create_tallies (mode : Mode) (size : Nat) (layout : Layout) {s : System}
    (hu : s.Unhindered) (hc : Custody own s.kernel hs) :
    (create (H := H) mode size layout).Leads s fun outcome s' =>
      SameOutcome (Tallies s'.kernel) outcome (Ledger.make s.bare mode size layout).1 ∧
        s'.bare = (Ledger.make s.bare mode size layout).2 ∧ Keeps hs s.kernel s'.kernel := by
  unfold create Ledger.make
  by_cases hmode : mode = .readOnly
  · simp only [if_pos hmode]
    exact .pure ⟨.error _, rfl, .refl hs _⟩
  simp only [if_neg hmode]
  by_cases hvalid : validSize size = true
  · simp only [if_neg (not_not_intro hvalid)]
    cases hround : layout.roundUp? size with
    | none => exact .pure ⟨.error _, rfl, .refl hs _⟩
    | some allocated =>
      obtain ⟨-, hlt⟩ := Layout.le_of_roundUp? hround
      have hallocate := ((CompleteBacking.allocate (H := H) mode allocated s hu hlt).and
        (.of_yields (LawfulBacking.allocate_yields mode allocated s.kernel hmode hlt))).and
        (.of_yields (CompleteBacking.allocate_readable mode allocated s.kernel))
      refine .bind (hallocate.mono ?_)
      rintro outcome s₁ ⟨⟨hallots, hmakes⟩, hreadable⟩
      unfold Allots at hallots
      by_cases hfits : allocated ≤ maxPosition
      · rw [if_pos hfits] at hallots
        simp only [if_pos hfits]
        obtain ⟨⟨h, rfl⟩, hbare⟩ := hallots
        have hguids : s₁.guids = s.guids := (congrArg System.guids hbare :)
        have hgrants : Grants s₁.kernel h s.bare.kernel.objects.length mode := by
          rw [show s.bare.kernel.objects.length = _ from length_bare_objects s.kernel]
          exact hmakes.grants
        refine .bind (.freshGuid (.bind (.record fun journal => .pure ⟨.ok ⟨?_, ?_⟩, ?_, ?_⟩)))
        · rw [Region.header, hguids]
          rfl
        · exact .some ⟨hgrants, hreadable h rfl⟩
        · exact congrArg (fun base : System => { base with guids := base.guids.advance }) hbare
        · exact hc.keeps_quiet hmakes.shift
      · rw [if_neg hfits] at hallots
        simp only [if_neg hfits]
        obtain ⟨rfl, hbare⟩ := hallots
        exact .bind (.record fun journal => .pure ⟨.error _, hbare, hc.keeps_quiet hmakes⟩)
  · simp only [if_pos hvalid]
    exact .pure ⟨.error _, rfl, .refl hs _⟩

theorem convert_tallies (goal : Downgrade) (hu : k.Unhindered) (ht : r.Tallies k v)
    (hc : Custody True k (r.holdings ++ hs)) :
    (r.convert goal.conversion).Yields k fun outcome k' =>
      SameOutcome (Tallies k') outcome (Ledger.downgrade v goal) ∧ Keeps hs k k' ∧
        ∀ e, outcome = .error e → k' = k := by
  unfold Ledger.downgrade
  rw [← ht.mode]
  refine .convert (fun hnone => ?_) (fun h hhandle hmode => ?_) fun h hhandle hmode => ?_
  · rw [ht.handle.eq_none hnone]
    exact ⟨.error _, .refl hs k, fun _ _ => rfl⟩
  · obtain ⟨g, hg, -⟩ := ht.handle.eq_some hhandle
    rw [hg]
    dsimp only
    rw [goal.conversion_misuse, if_pos hmode]
    exact ⟨.error _, .refl hs k, fun _ _ => rfl⟩
  · obtain ⟨g, hg, hholds⟩ := ht.handle.eq_some hhandle
    rw [hg]
    dsimp only
    rw [if_neg (not_not_intro hmode)]
    rw [holdings_of_some hhandle] at hc
    obtain ⟨hx, -, -⟩ := Custody.cons_iff.mp hc
    obtain ⟨-, o, hgrants, -⟩ := hx.label _ rfl
    have hgrants : Grants k h o .writable := hmode ▸ hgrants
    obtain rfl : g.object = o := hholds.grants.refers.object_eq hgrants.refers
    refine ((goal.converts k h _ hx.sound hx.nodup hgrants).and
      (goal.completes hu hx.sound hgrants)).mono ?_
    rintro outcome k' ⟨hturns, h', rfl⟩
    have hturns : Turns (goal.conversion (H := H)).goal h h' g.object k k' := hturns
    rw [goal.conversion_goal] at hturns
    obtain ⟨gone, touched, hshift, hclosed, htouched, -, hstays⟩ := hturns.stays hx.nodup
    have hreadable : Readable k' h' := by
      intro d hd
      obtain ⟨file, hfile, hread⟩ := hholds.readable d (hstays d hd).1
      exact ⟨file, hshift.file? (hstays d hd).2 hfile, hread⟩
    unfold converted
    rw [goal.conversion_goal]
    refine ⟨.ok ⟨?_, ?_⟩, ?_, nofun⟩
    · exact congrArg (fun header : Header => { header with mode := goal.goal }) ht.header
    · exact .some ⟨hturns.grants_of_whole hx.nodup (hx.whole trivial) hgrants, hreadable⟩
    · refine Custody.keeps [_] hc hshift
        (fun d hd => ⟨_, List.mem_singleton_self _, hclosed d hd⟩)
        fun t ht => ⟨_, List.mem_singleton_self _, ?_⟩
      rw [htouched t ht]
      exact hgrants

end Region

private theorem Holds.mapNative_leads {mode : Mode} {start rest size total : Nat} {s : System}
    (hh : Holds s.kernel h g) (hg : Grants s.kernel h g.object mode) (hu : s.kernel.Unhindered)
    (hsize : size ≠ 0) (hwithin : start + rest + size ≤ total) (htotal : total ≤ maxRegionSize) :
    (Window.mapNative (descriptor h) start (size + rest) (.ofMode mode)).Leads s fun outcome s' =>
      ∃ k', s' = { s with kernel := k' } ∧
        if start % s.kernel.pageSize = 0 then
          outcome = .ok s.kernel.mappings.free ∧ ({ s.kernel with
            mappings := (s.kernel.mappings.insert
              ⟨g.object, start, size + rest, (Protection.ofMode mode).write⟩).2 } : Kernel).Alike k'
        else outcome = .error (.systemCallFailed .invalidArgument) ∧ s.kernel.Alike k' := by
  have hposition : start ≤ maxPosition := by
    simp only [maxRegionSize, maxPosition] at htotal ⊢
    omega
  unfold Window.mapNative
  rw [if_pos hposition]
  by_cases haligned : start % s.kernel.pageSize = 0
  · simp only [if_pos haligned]
    obtain ⟨access, hfile, hpermits⟩ := hg.permits hh.readable
    have hfits := fits_of_within hsize hwithin htotal haligned
    obtain ⟨k', hcall, halike⟩ := map_of_permits hu.obliging hfits hfile hpermits
    exact .bind (.granted hcall (.pure ⟨k', rfl, rfl, halike⟩))
  · simp only [if_neg haligned]
    obtain ⟨k', hcall, halike, herror⟩ := map_unaligned hu.obliging (descriptor h) (size + rest)
      (.ofMode mode) haligned
    exact .bind (.refused hcall (.pure ⟨k', rfl, by rw [herror], halike⟩))

theorem Window.ofRequest_tallies {r : Option (Region H)} {v : Option (Region Grant)}
    (offset size : Nat) (layout : Layout) {s : System} (hu : s.kernel.Unhindered)
    (ht : Option.Rel (Region.Tallies s.kernel) r v)
    (hlabel : ∀ r' h, r = some r' → r'.handle = some h → Labelled True s.kernel h r'.header) :
    (ofRequest { region := r, offset, size, layout }).Leads s fun outcome s' =>
      ∃ k', s' = { s with kernel := k' } ∧
        match Ledger.expose s.bare.kernel v offset size layout with
        | .error e => outcome = .error e ∧ s.kernel.Alike k'
        | .ok (w, m) => outcome = .ok w ∧ ({ s.kernel with
            mappings := (s.kernel.mappings.insert m).2 } : Kernel).Alike k' := by
  have hrefused : ∀ e : WindowError,
      (pure (.error e) : Effect (Except WindowError Window)).Leads s fun outcome s' =>
        ∃ k', s' = { s with kernel := k' } ∧ outcome = .error e ∧ s.kernel.Alike k' :=
    fun e => .pure ⟨s.kernel, rfl, rfl, .refl s.kernel⟩
  unfold ofRequest Ledger.expose
  cases ht with
  | none => exact hrefused _
  | @some r v ht =>
    dsimp only
    cases hhandle : r.handle with
    | none =>
      rw [ht.handle.eq_none hhandle]
      exact hrefused _
    | some h =>
      obtain ⟨g, hg, hholds⟩ := ht.handle.eq_some hhandle
      obtain ⟨hvalid, o, hgrants, -⟩ := hlabel r h rfl hhandle
      obtain rfl : g.object = o := hholds.grants.refers.object_eq hgrants.refers
      have hsize : v.size = r.size := (congrArg Header.size ht.header).symm
      rw [hg, ← ht.mode, hsize]
      dsimp only
      split
      · exact hrefused _
      · rename_i hpos
        split
        · exact hrefused _
        · rename_i hrange
          have hrange : offset + size ≤ r.size := of_decide_eq_true (Decidable.not_not.mp hrange)
          have htotal : r.size ≤ maxRegionSize := (validSize_iff.mp hvalid).2
          have hstart := layout.alignDown_le offset
          have hwithin : layout.alignDown offset + (offset - layout.alignDown offset) + size ≤
              r.size := by omega
          refine .bind (chosenLayout_leads (.bind
            ((hholds.mapNative_leads hgrants hu hpos hwithin htotal).mono ?_)))
          rintro outcome _ ⟨k', rfl, hmapped⟩
          have hpage : s.bare.kernel.pageSize = s.kernel.pageSize := rfl
          rw [hpage]
          by_cases haligned : layout.alignDown offset % s.kernel.pageSize = 0
          · rw [if_pos haligned] at hmapped ⊢
            obtain ⟨rfl, halike⟩ := hmapped
            exact .pure ⟨k', rfl, rfl, halike⟩
          · rw [if_neg haligned] at hmapped ⊢
            obtain ⟨rfl, halike⟩ := hmapped
            exact .pure ⟨k', rfl, rfl, halike⟩

end

end SharedMemory

import SharedMemory.Proofs.Session.Frames
/-!
# Where a region goes

A region stays under its name, or it is moved to another, until it is dropped or its handle is
taken out of it. All that time it keeps its size and its identifier, and it stays valid. Its mode
and its handle may change, namely when it is converted. So whatever a conversion keeps, the region
keeps wherever it goes.
-/
namespace SharedMemory

/-- What a region keeps. -/
structure Region.SameRegion {H : Type} (r r' : Region H) : Prop where
  isValid : r'.isValid = r.isValid
  size : r'.size = r.size
  guid : r'.guid = r.guid

theorem Region.SameRegion.refl {H : Type} (r : Region H) : r.SameRegion r := ⟨rfl, rfl, rfl⟩

theorem Region.SameRegion.trans {H : Type} {r r' r'' : Region H} (h : r.SameRegion r')
    (h' : r'.SameRegion r'') : r.SameRegion r'' :=
  ⟨h'.isValid.trans h.isValid, h'.size.trans h.size, h'.guid.trans h.guid⟩

private theorem Region.convert_sameRegion {H : Type} [Backing H] (r : Region H) (c : Conversion H)
    (y : System) : (r.convert c).Leads y fun outcome _ =>
      ∀ converted, outcome = .ok converted → r.SameRegion converted := by
  refine .convert (fun _ => nofun) (fun _ _ _ => nofun) fun h hhandle _ => .of_run fun _ => ?_
  rintro converted hok
  cases hnative : ((c.native h).run y).1 with
  | error e =>
    rw [hnative] at hok
    cases hok
  | ok h' =>
    rw [hnative] at hok
    cases hok
    exact ⟨by rw [isValid, isValid, hhandle, Option.isSome_some, Option.isSome_some], rfl, rfl⟩

/-- A relation of what a region was to what it is, which holds across every conversion. -/
structure Region.Persistent {H : Type} [Backing H] (R : Region H → Region H → Prop) : Prop where
  refl (r : Region H) : R r r
  trans {r r' r'' : Region H} : R r r' → R r' r'' → R r r''
  convert (r : Region H) (c : Conversion H) (y : System) : (r.convert c).Leads y fun outcome _ =>
    ∀ converted, outcome = .ok converted → R r converted

private theorem Region.sameRegion_persistent {H : Type} [Backing H] :
    Persistent (SameRegion (H := H)) := ⟨.refl, .trans, convert_sameRegion⟩

namespace Session

open Script

variable {H α : Type} [Backing H] {s : Session H} {name other dest : String} {r : Region H}

private theorem dropRegion_regions (old : Option (Region H)) (s : Session H) :
    (dropRegion old).Yields s fun x s' => x = some () ∧ s'.regions = s.regions := by
  cases old with
  | none => exact .pure ⟨rfl, rfl⟩
  | some r => exact .work fun _ _ => ⟨rfl, rfl⟩

private theorem putRegion_regions (name : String) (r : Region H) (s : Session H) :
    (putRegion name r).Yields s fun x s' => x = some () ∧ s'.regions = s.regions.put name r :=
  .bind (.get (.bind (.modify (dropRegion_regions _ _))))

private theorem dropHandle_regions (old : Option H) (s : Session H) :
    (dropHandle old).Yields s fun _ s' => s'.regions = s.regions := by
  cases old with
  | none => exact .pure rfl
  | some h => exact .work fun _ _ => rfl

private theorem putHandle_regions (name : String) (h : H) (s : Session H) :
    (putHandle name h).Yields s fun _ s' => s'.regions = s.regions :=
  .bind (.get (.bind (.modify (dropHandle_regions _ _))))

/-- Whether a script comes to an answer that is not an error. -/
def succeeds {ε : Type} (a : Script H (Except ε α)) (s : Session H) : Bool :=
  (a.answer s).any Except.isOk

/-- The region that a step drops or empties is the one under this name, if there is any. -/
def Step.ends? (s : Session H) : Step → Option String
  | .create mode size layout dest =>
    if succeeds (Session.create (H := H) mode size layout dest none) s then some dest else none
  | .duplicate source dest =>
    if succeeds (Session.duplicate source dest none) s then some dest else none
  | .take source header dest =>
    if succeeds (Session.take source header dest) s then some dest else none
  | .move source dest => if s.regions.contains source ∧ source ≠ dest then some dest else none
  | .vacate name | .takeHandle name _ | .passHandle name _ | .split name _ | .discardRegion name =>
    some name
  | _ => none

/-- Where a region is after a step, unless the step has dropped or emptied it. -/
def Step.place (s : Session H) (name : String) (step : Step) : Option String :=
  if step.ends? s = some name then none
  else
    match step with
    | .move source dest => some (if name = source then dest else name)
    | _ => some name

/-- Where a region is after some steps. -/
def places (s : Session H) (name : String) : List Step → Option String
  | [] => some name
  | step :: rest => (step.place s name).bind fun place => (step.run s).places place rest

/-- A script puts a region under a name if it succeeds, and else leaves the regions as they are. -/
def Puts {ε : Type} (a : Script H (Except ε α)) (dest : String) (s : Session H) : Prop :=
  a.Yields s fun x s' =>
    match x with
    | some (.ok _) => ∃ r, s'.regions = s.regions.put dest r
    | _ => s'.regions = s.regions

private theorem create_puts (mode : Mode) (size : Nat) (layout : Layout) (dest : String)
    (s : Session H) :
    Puts (create mode size layout dest none) dest s := by
  refine Yields.bind (.work ?_)
  intro outcome system
  cases outcome with
  | error e => exact Yields.pure rfl
  | ok r =>
    refine .bind ((putRegion_regions dest r _).mono ?_)
    rintro x s' ⟨rfl, hs'⟩
    exact .bind (.viewRegion fun _ => .pure ⟨r, hs'⟩)

private theorem duplicate_puts (source dest : String) (s : Session H) :
    Puts (duplicate source dest none) dest s := by
  refine Yields.bind (.held rfl fun r _ => .bind (.work ?_))
  intro outcome system
  cases outcome with
  | error e => exact Yields.pure rfl
  | ok copy =>
    refine .bind (.viewRegion fun _ => .bind ((putRegion_regions dest copy _).mono ?_))
    rintro x s' ⟨rfl, hs'⟩
    exact .bind (.viewRegion fun _ => .pure ⟨copy, hs'⟩)

private theorem take_puts (source : String) (header : Header) (dest : String) (s : Session H) :
    Puts (take source header dest) dest s := by
  refine Yields.bind (.held rfl fun h _ => .bind (.modify (.bind (.work ?_))))
  intro outcome system
  cases outcome with
  | error e => exact Yields.pure rfl
  | ok r =>
    refine .bind ((putRegion_regions dest r _).mono ?_)
    rintro x s' ⟨rfl, hs'⟩
    exact .bind (.viewRegion fun _ => .pure ⟨r, hs'⟩)

private theorem vacate_regions (dest : String) (s : Session H) :
    (vacate dest).Yields s fun _ s' => s'.regions = s.regions.put dest .invalid := by
  refine .bind ((putRegion_regions dest _ s).mono ?_)
  rintro x s' ⟨rfl, hs'⟩
  exact .viewRegion fun _ => hs'

private theorem discardRegion_regions (name : String) (s : Session H) :
    (discardRegion name).Yields s fun _ s' => s'.regions = s.regions.erase name := by
  refine .bind (.get (.bind (.modify (.bind ((dropRegion_regions _ _).mono ?_)))))
  rintro x s' ⟨rfl, hs'⟩
  exact .pure hs'

/-- The regions of other names are as they were. -/
def Spares (name : String) (s s' : Session H) : Prop :=
  ∀ other, other ≠ name → s'.regions.get? other = s.regions.get? other

omit [Backing H] in
private theorem spares_of_erase {s' : Session H} (h : s'.regions = s.regions.erase name) :
    Spares name s s' := by
  intro other hother
  rw [h, Slots.get?_erase, if_neg hother]

omit [Backing H] in
private theorem spares_of_put {s' : Session H} (h : s'.regions = s.regions.put name r) :
    Spares name s s' := by
  intro other hother
  rw [h, Slots.get?_put, if_neg hother]

private theorem takeHandle_spares (source dest : String) (s : Session H) :
    (takeHandle source dest).Yields s fun _ s' => Spares source s s' := by
  refine .bind (.held (fun _ _ => rfl) fun r _ => .bind (.modify (.bind (.viewRegion fun _ => ?_))))
  cases r.handle with
  | none => exact .pure (spares_of_put rfl)
  | some h =>
    exact .keep ((putHandle_regions dest h _).mono fun _ _ hs' => spares_of_put hs') fun _ _ hs' =>
      .bind (.viewHandle fun _ => .pure hs')

private theorem passHandle_spares (source dest : String) (s : Session H) :
    (passHandle source dest).Yields s fun _ s' => Spares source s s' := by
  refine .bind (.held (fun _ _ => rfl) fun r _ => .bind (.modify ?_))
  cases r.handle with
  | none => exact .pure (spares_of_erase rfl)
  | some h =>
    exact .keep ((putHandle_regions dest h _).mono fun _ _ hs' => spares_of_erase hs')
      fun _ _ hs' => .bind (.viewHandle fun _ => .pure hs')

private theorem split_spares (source dest : String) (s : Session H) :
    (split source dest).Yields s fun _ s' => Spares source s s' := by
  refine .bind (.held (fun _ _ => rfl) fun r _ => .bind (.modify ?_))
  unfold Region.parts?
  cases r.handle with
  | none => exact .pure (spares_of_erase rfl)
  | some h =>
    exact .keep ((putHandle_regions dest h _).mono fun _ _ hs' => spares_of_erase hs')
      fun _ _ hs' => .bind (.modify (.bind (.viewHandle fun _ => .pure hs')))

private theorem discardHandle_regions (name : String) (s : Session H) :
    (discardHandle name).Yields s fun _ s' => s'.regions = s.regions :=
  .bind (.get (.bind (.modify (.keep (dropHandle_regions _ _) fun _ _ hs' => .pure hs'))))

omit [Backing H] in
private theorem act_regions (a : Effect α) (s : Session H) :
    (act a : Script H α).Yields s fun _ s' => s'.regions = s.regions := .work fun _ _ => rfl

omit [Backing H] in
private theorem dropWindow_regions (w : Option Window) (s : Session H) :
    (dropWindow w).Yields s fun _ s' => s'.regions = s.regions := by
  cases w with
  | none => exact .pure rfl
  | some w => exact act_regions w.release s

omit [Backing H] in
private theorem discardWindow_regions (name : String) (s : Session H) :
    (discardWindow name).Yields s fun _ s' => s'.regions = s.regions :=
  .bind (.get (.bind (.modify (.keep (dropWindow_regions _ _) fun _ _ hs' => .pure hs'))))

private theorem map_regions (source : Option String) (offset size : Nat) (layout : Layout)
    (dest : String) (s : Session H) :
    (map source offset size layout dest none).Yields s fun _ s' => s'.regions = s.regions := by
  refine .bind (.sourceGet ?_)
  cases source.mapM s.regions.get? with
  | none => rfl
  | some r =>
    refine .bind (.work fun outcome system => ?_)
    cases outcome with
    | error e => exact .pure rfl
    | ok w =>
      refine .keep ?_ fun _ _ hs' => .pure hs'
      exact .bind (.get (.bind (.modify (dropWindow_regions _ _))))

omit [Backing H] in
private theorem window_regions {a : Window → Effect α} (name : String) (s : Session H) :
    (do act (a (← window name)) : Script H α).Yields s fun _ s' => s'.regions = s.regions :=
  .bind (.held rfl fun w _ => act_regions (a w) s)

private theorem convert_region_stays {R : Region H → Region H → Prop} (hR : Region.Persistent R)
    (source : String) (goal : Region.Downgrade) (hr : s.regions.get? name = some r) :
    (convert source goal.conversion none).Yields s fun _ s' =>
      ∃ r', s'.regions.get? name = some r' ∧ R r r' := by
  have hsame : ∃ r', s.regions.get? name = some r' ∧ R r r' := ⟨r, hr, hR.refl r⟩
  refine .bind (.held hsame fun old hold => ?_)
  refine .bind (.leads ((hR.convert old goal.conversion s.system).mono ?_))
  intro outcome y hconverted
  cases outcome with
  | error e => exact .bind (.viewRegion fun _ => .pure hsame)
  | ok converted =>
    refine .bind (.modify (.bind (.viewRegion fun _ => .pure ?_)))
    by_cases hname : name = source
    · subst hname
      obtain rfl := Option.some.inj (hr.symm.trans hold)
      exact ⟨converted, by rw [Slots.get?_put, if_pos rfl], hconverted _ rfl⟩
    · exact ⟨r, by rw [Slots.get?_put, if_neg hname, hr], hR.refl r⟩

private theorem move_region_stays (source dest : String) (hr : s.regions.get? name = some r)
    (hends : (Step.move source dest).ends? s ≠ some name) :
    (move source dest).Yields s fun _ s' =>
      s'.regions.get? (if name = source then dest else name) = some r := by
  refine .bind (.heldGet ?_)
  cases hmoved : s.regions.get? source with
  | none =>
    have hname : name ≠ source := by
      rintro rfl
      rw [hr] at hmoved
      cases hmoved
    rw [if_neg hname]
    exact hr
  | some moved =>
    refine .bind (.modify (.bind (.viewRegion fun _ => ?_)))
    refine .bind ((putRegion_regions dest moved _).mono ?_)
    rintro x s' ⟨rfl, hs'⟩
    refine .bind (.viewRegion fun _ => .pure ?_)
    rw [hs', Slots.get?_put]
    by_cases hname : name = source
    · subst hname
      obtain rfl := Option.some.inj (hr.symm.trans hmoved)
      rw [if_pos rfl, if_pos rfl]
    · have hdest : name ≠ dest := by
        rintro rfl
        refine hends (if_pos ⟨?_, Ne.symm hname⟩)
        rw [Slots.contains, hmoved, Option.isSome_some]
      rw [if_neg hname, if_neg hdest, Slots.get?_put, if_neg hname, hr]

omit [Backing H] in
private theorem get?_of_puts {ε : Type} {a : Script H (Except ε α)} (ha : Puts a dest s)
    (hends : (if succeeds a s then some dest else none) ≠ some name) :
    (a.leave s).regions.get? name = s.regions.get? name := by
  unfold Puts Yields at ha
  unfold succeeds answer at hends
  cases hx : (a.run.run s).1 with
  | none =>
    rw [hx] at ha
    exact congrArg (·.get? name) ha
  | some outcome =>
    rw [hx] at ha hends
    cases outcome with
    | error e => exact congrArg (·.get? name) ha
    | ok x =>
      obtain ⟨r', hregions⟩ := ha
      have hne : name ≠ dest := fun heq => hends (congrArg some heq.symm)
      rw [hregions, Slots.get?_put, if_neg hne]

/-- After a step the region is found in its place, and is what conversions make of it at most. -/
theorem Step.keeps {R : Region H → Region H → Prop} (hR : Region.Persistent R) {place : String}
    (step : Step) (hr : s.regions.get? name = some r) (hplace : step.place s name = some place) :
    ∃ r', (step.run s).regions.get? place = some r' ∧ R r r' := by
  unfold Step.place at hplace
  split at hplace
  · cases hplace
  rename_i hends
  have stays (hplace : some name = some place)
      (hget : (step.run s).regions.get? name = s.regions.get? name) :
      ∃ r', (step.run s).regions.get? place = some r' ∧ R r r' := by
    cases hplace
    exact ⟨r, hget.trans hr, hR.refl r⟩
  have spared {other : String} (hspares : Spares other s (step.run s))
      (hother : some other ≠ some name) :
      (step.run s).regions.get? name = s.regions.get? name :=
    hspares name fun heq => hother (congrArg some heq.symm)
  have kept (hregions : (step.run s).regions = s.regions) :
      (step.run s).regions.get? name = s.regions.get? name := congrArg (·.get? name) hregions
  cases step with
  | create mode size layout dest =>
    exact stays hplace (get?_of_puts (create_puts mode size layout dest s) hends)
  | duplicate source dest => exact stays hplace (get?_of_puts (duplicate_puts source dest s) hends)
  | take source header dest =>
    exact stays hplace (get?_of_puts (take_puts source header dest s) hends)
  | convert source goal =>
    cases hplace
    exact convert_region_stays hR source goal hr
  | move source dest =>
    cases hplace
    exact ⟨r, move_region_stays source dest hr hends, hR.refl r⟩
  | vacate dest => exact stays hplace (spared (spares_of_put (vacate_regions dest s)) hends)
  | takeHandle source dest => exact stays hplace (spared (takeHandle_spares source dest s) hends)
  | passHandle source dest => exact stays hplace (spared (passHandle_spares source dest s) hends)
  | split source dest => exact stays hplace (spared (split_spares source dest s) hends)
  | discardRegion name' =>
    exact stays hplace (spared (spares_of_erase (discardRegion_regions name' s)) hends)
  | inspect name' =>
    have hregions : (Session.inspect name').Yields s fun _ s' => s'.regions = s.regions :=
      .bind (.held rfl fun _ _ => .viewRegion fun _ => rfl)
    exact stays hplace (kept hregions)
  | map source offset size layout dest =>
    exact stays hplace (kept (map_regions source offset size layout dest s))
  | write name' => exact stays hplace (kept (window_regions name' s))
  | read name' => exact stays hplace (kept (window_regions name' s))
  | writeObject name' => exact stays hplace (kept (window_regions name' s))
  | readObject name' => exact stays hplace (kept (window_regions name' s))
  | discardHandle name' => exact stays hplace (kept (discardHandle_regions name' s))
  | discardWindow name' => exact stays hplace (kept (discardWindow_regions name' s))

theorem persists_of_places {R : Region H → Region H → Prop} (hR : Region.Persistent R)
    {place : String} {steps : List Step} (hr : s.regions.get? name = some r)
    (hplace : s.places name steps = some place) :
    ∃ r', (s.runSteps steps).regions.get? place = some r' ∧ R r r' := by
  induction steps generalizing s name r with
  | nil =>
    cases hplace
    exact ⟨r, hr, hR.refl r⟩
  | cons step rest ih =>
    obtain ⟨next, hnext, hrest⟩ := Option.bind_eq_some_iff.mp hplace
    obtain ⟨r₁, hr₁, hstep⟩ := step.keeps hR hr hnext
    obtain ⟨r', hr', hlater⟩ := ih hr₁ hrest
    exact ⟨r', hr', hR.trans hstep hlater⟩

theorem keeps_of_places {place : String} {steps : List Step}
    (hr : s.regions.get? name = some r) (hplace : s.places name steps = some place) :
    ∃ r', (s.runSteps steps).regions.get? place = some r' ∧ r.SameRegion r' :=
  persists_of_places Region.sameRegion_persistent hr hplace

end Session

end SharedMemory

import SharedMemory.Proofs.Session.Steps
/-!
# Steps below the regions

A handle that was taken out of a region, or that is borrowed from one, may be duplicated whatever
its mode is. Such a step keeps custody unless the handle grants the writable mode.
-/
namespace SharedMemory.Session

open Kernel Backing Script

section Holdings

variable {H : Type} {s : Session H}

theorem mem_holdings_of_holder? {source : Holder} {h : H}
    (hh : s.holder? source = some h) : ∃ header, ⟨h, header⟩ ∈ s.holdings := by
  cases source with
  | handle name => exact ⟨none, mem_holdings_of_handle hh⟩
  | region name =>
    obtain ⟨r, hr, hhandle⟩ := Option.bind_eq_some_iff.mp hh
    refine ⟨some r.header, holdings_subset_of_region hr ?_⟩
    rw [Region.holdings_of_some hhandle]
    exact List.mem_singleton_self _

/-- The other way round, the holder is a region or a name of a handle. -/
theorem holder?_of_mem_holdings (hregions : s.regions.Distinct) (hhandles : s.handles.Distinct)
    {x : Holding H} (hx : x ∈ s.holdings) : ∃ holder, s.holder? holder = some x.handle := by
  rcases List.mem_append.mp hx with hx | hx
  · obtain ⟨r, hr, hx⟩ := List.mem_flatMap.mp hx
    obtain ⟨name, hname⟩ := hregions.get?_of_mem hr
    obtain ⟨h, hhandle, rfl⟩ := Option.map_eq_some_iff.mp (Option.mem_toList.mp hx)
    exact ⟨.region name, by rw [holder?, hname, Option.bind_some, hhandle]⟩
  · obtain ⟨h, hh, hx⟩ := List.mem_flatMap.mp hx
    obtain ⟨name, hname⟩ := hhandles.get?_of_mem hh
    obtain rfl := List.mem_singleton.mp hx
    exact ⟨.handle name, hname⟩

end Holdings

variable {H : Type} [Backing H]

/-- A step with regions, or the duplication of a handle that was taken out of a region or is
borrowed from one. -/
inductive NativeStep : Type 1 where
  | basic (step : Step)
  | duplicateHandle (source : Holder) (dest : String)

def NativeStep.run (s : Session H) : NativeStep → Session H
  | .basic step => step.run s
  | .duplicateHandle source dest => (Session.duplicateHandle source dest none).leave s

variable [Rights H]

/-- Some handle grants the writable mode on an object. -/
def HasWriter (s : Session H) (o : ObjectId) : Prop :=
  ∃ holder h, s.holder? holder = some h ∧ Grants s.system.kernel h o .writable

/-- The step is about to make a second handle that grants the writable mode on one object. -/
def NativeStep.Multiplies (s : Session H) : NativeStep → Prop
  | .basic _ => False
  | .duplicateHandle source _ =>
    ∃ h o, s.holder? source = some h ∧ Grants s.system.kernel h o .writable

variable [LawfulBacking H] {own : Prop} {loose : Slots Descriptor} {hand : List (Holding H)}
  {s : Session H}

private theorem duplicateHandle_yields (source : Holder) (dest : String)
    (hs : InCustody own loose hand s)
    (hreader : ¬ NativeStep.Multiplies s (.duplicateHandle source dest)) :
    (duplicateHandle source dest none).Yields s fun _ s' => InCustody own loose hand s' := by
  refine .bind (.holder hs ?_)
  intro h hh
  have hreader : ∀ o, ¬ Grants s.system.kernel h o .writable := fun o hg =>
    hreader ⟨h, o, hh, hg⟩
  obtain ⟨header, hmem⟩ := mem_holdings_of_holder? hh
  have hmem : ⟨h, header⟩ ∈ hand ++ s.holdings := List.mem_append_right _ hmem
  have hkept := hs.front.each _ hmem
  have hsound := hkept.sound
  refine .bind (.act ((LawfulBacking.duplicate_yields h _ fun _ => hsound.isOpen).mono ?_))
  intro outcome k' hk' system hsys
  subst hsys
  cases outcome with
  | error e => exact .pure (hs.act (hs.front.quiet hk'))
  | ok copy =>
    obtain ⟨hshift, hnodup, hcopies⟩ := hk'
    have hc := (hs.front.copies hkept hreader hshift hnodup hcopies).unlabel
    have hs' : InCustody own loose (⟨copy, none⟩ :: hand) { s with system } := hs.act hc
    exact .keep (putHandle_yields hs') fun _ _ hs'' => .bind (.viewHandle fun _ => .pure hs'')

theorem InCustody.native (hs : InCustody own loose hand s) (step : NativeStep)
    (hstep : ¬ step.Multiplies s) : InCustody own loose hand (step.run s) := by
  cases step with
  | basic step => exact hs.step step
  | duplicateHandle source dest => exact duplicateHandle_yields source dest hs hstep

end SharedMemory.Session

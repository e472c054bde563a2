import Mathlib.Data.List.Nodup
import SharedMemory.Proofs.Accounts
import SharedMemory.Proofs.Backing.DescriptorPair
/-!
# Becoming read-only in place

A writable pair becomes read-only by giving up its first descriptor for the second. The region stays
on its object if both descriptors refer to that object. The pairs that regions are created with and
that are handed from region to region do so. But a pair may also be put together by hand, and when
it is taken, only the access of its second descriptor is looked at and not its object.
-/
namespace SharedMemory

open Kernel Backing Effect

namespace Region

variable {k : Kernel}

/-- The object that the handle of a region refers to. -/
def object? {H : Type} [Backing H] (r : Region H) (k : Kernel) : Option ObjectId :=
  r.handle.bind fun h => k.objectOf? (Backing.descriptor h)

private theorem object?_of_some {H : Type} [Backing H] {r : Region H} {h : H}
    (hhandle : r.handle = some h) :
    r.object? k = k.objectOf? (Backing.descriptor h) := by
  rw [object?, hhandle, Option.bind_some]

/-- If the conversion of a region to read-only succeeds, the region refers to the object that it
referred to before, and no object is changed. What a window shows that is made just before the
conversion, a window of the same bytes that is made just after it shows as well. -/
structure ConvertsInPlace (r : Region DescriptorPair) (s : System) : Prop where
  object {r' : Region DescriptorPair} {s' : System} :
    (r.convert toReadOnly).run s = (.ok r', s') →
      r'.object? s'.kernel = r.object? s.kernel ∧ ∀ o, s'.kernel.object o = s.kernel.object o
  windows {r' : Region DescriptorPair} {w w' : Window} {s₁ s₂ s₃ : System} {offset size : Nat}
      {layout layout' : Option Layout} :
    (Window.ofRequest { region := some r, offset, size, layout }).run s = (.ok w, s₁) →
      (r.convert toReadOnly).run s₁ = (.ok r', s₂) →
      (Window.ofRequest { region := some r', offset, size, layout := layout' }).run s₂ =
        (.ok w', s₃) →
      ∀ position count, w'.view s₃.kernel position count = w.view s₁.kernel position count

variable {r : Region DescriptorPair} {h : DescriptorPair} {spare : Descriptor} {s : System}

/-- A writable region whose handle has a reserve is converted: the first descriptor is closed. -/
private theorem convert_swaps (hhandle : r.handle = some h) (hmode : r.mode = .writable)
    (hspare : h.spare = some spare) (k : Kernel) :
    (r.convert toReadOnly).Yields k fun outcome k' =>
      outcome = .ok { r with handle := some ⟨spare, none⟩, mode := .readOnly } ∧
        (k.forget h.fd).Alike k' := by
  obtain ⟨fd, _⟩ := h
  cases hspare
  have hnative : DescriptorPair.toReadOnly ⟨fd, some spare⟩ |>.Yields k fun outcome k' =>
      outcome = .ok ⟨spare, none⟩ ∧ (k.forget fd).Alike k' :=
    .bind (.closeDescriptor fun k' hk' => .pure ⟨rfl, hk'⟩)
  refine convert_of_handle hhandle hmode (hnative.mono ?_)
  rintro _ k' ⟨rfl, hk'⟩
  exact ⟨rfl, hk'⟩

private theorem convert_of_no_spare (hhandle : r.handle = some h) (hmode : r.mode = .writable)
    (hspare : h.spare = none) (k : Kernel) :
    (r.convert toReadOnly).Yields k fun outcome _ => ∃ e, outcome = .error e := by
  obtain ⟨fd, _⟩ := h
  cases hspare
  have hnative : DescriptorPair.toReadOnly ⟨fd, none⟩ |>.Yields k fun outcome _ =>
      outcome = .error .badDescriptor := .pure rfl
  refine convert_of_handle hhandle hmode (hnative.mono ?_)
  rintro _ k' rfl
  exact ⟨_, rfl⟩

/-- A region stays on its object exactly if the reserve of its handle refers to that object. -/
private theorem convertsInPlace_iff (hhandle : r.handle = some h) (hmode : r.mode = .writable)
    (hspare : h.spare = some spare) (hne : spare ≠ h.fd) :
    r.ConvertsInPlace s ↔ s.kernel.objectOf? spare = s.kernel.objectOf? h.fd := by
  have hswaps := convert_swaps hhandle hmode hspare
  -- What the reserve refers to is left alone by closing the other descriptor.
  have hafter : ∀ {k k' : Kernel}, (k.forget h.fd).Alike k' →
      k'.objectOf? spare = k.objectOf? spare ∧ ∀ o, k'.object o = k.object o := by
    intro k k' hk'
    refine ⟨?_, fun o => by rw [hk'.object, object_forget]⟩
    rw [objectOf?, hk'.file?, file?_forget_ne hne, ← objectOf?]
  constructor
  · intro hplace
    obtain ⟨hok, hk'⟩ := hswaps s.kernel s rfl
    have hobject := (hplace.object (Prod.ext hok rfl)).1
    rw [object?_of_some rfl, object?_of_some hhandle] at hobject
    exact (hafter hk').1.symm.trans hobject
  · intro hsame
    refine ⟨fun {r' s'} hconvert => ?_, ?_⟩
    · have hyields := hswaps s.kernel s rfl
      rw [hconvert] at hyields
      obtain ⟨hok, hk'⟩ := hyields
      cases hok
      refine ⟨?_, (hafter hk').2⟩
      rw [object?_of_some rfl, object?_of_some hhandle]
      exact (hafter hk').1.trans hsame
    · intro r' w w' s₁ s₂ s₃ offset size layout layout' hbefore hconvert hwindow position count
      have hgrants := Window.ofRequest_grants { region := some r, offset, size, layout } _ s rfl
      have hyields := hswaps s₁.kernel s₁ rfl
      have hgrants' := Window.ofRequest_grants
        { region := some r', offset, size, layout := layout' } _ s₂ rfl
      rw [hbefore] at hgrants
      rw [hconvert] at hyields
      rw [hwindow] at hgrants'
      obtain ⟨hok, hk₂⟩ := hyields
      cases hok
      obtain ⟨_, hr, hgranted⟩ := hgrants
      cases hr
      obtain ⟨_, hr', hgranted'⟩ := hgrants'
      cases hr'
      obtain ⟨_, o, hh, ho, hview⟩ := hgranted.view
      obtain ⟨_, o', hh', ho', hview'⟩ := hgranted'.view
      cases hhandle.symm.trans hh
      cases hh'
      obtain ⟨_, file, _, hfile, halike⟩ := hgranted.maps
      have hmapped : ∀ d, s₁.kernel.objectOf? d = s.kernel.objectOf? d := fun d => by
        rw [objectOf?, halike.file?]
        rfl
      have ho' : s₂.kernel.objectOf? spare = some o' := ho'
      rw [(hafter hk₂).1, hmapped, hsame] at ho'
      obtain rfl : o' = o := Option.some.inj (ho'.symm.trans ho)
      rw [hview, hview', (hafter hk₂).2, halike.object]
      rfl

end Region

namespace Session

variable {name : String} {r : Region DescriptorPair} {h : DescriptorPair}

private theorem spare_ne {spare : Descriptor} (hnodup : (Backing.descriptors h).Nodup)
    (hspare : h.spare = some spare) : spare ≠ h.fd := by
  have hpair : Backing.descriptors h = [h.fd, spare] := by
    change h.fd :: h.spare.toList = _
    rw [hspare]
    rfl
  rw [hpair] at hnodup
  exact fun heq => (List.nodup_cons.mp hnodup).1 (List.mem_singleton.mpr heq.symm)

private theorem nodup_of_accounted {start : Kernel} {e : Estate DescriptorPair}
    (he : Accounted start e)
    (hr : e.session.regions.get? name = some r) (hhandle : r.handle = some h) :
    (Backing.descriptors h).Nodup := by
  have howned : e.session.owned.Nodup := (he.single.sublist (List.sublist_append_left _ _)).sublist
    (List.sublist_append_right _ _)
  have hregions : (e.session.regions.values.flatMap Region.descriptors).Nodup :=
    howned.sublist (List.sublist_append_left _ _)
  have hnodup : r.descriptors.Nodup :=
    (List.nodup_flatMap.mp hregions).1 r (Slots.mem_values_of_get? hr)
  rwa [Region.descriptors_of_some hhandle] at hnodup

/-- A pair that regions are made with and hand on has both descriptors on one object. -/
private theorem convertsInPlace_of_kept {s : System} (hk : Kept True s.kernel ⟨h, some r.header⟩)
    (hhandle : r.handle = some h) (hmode : r.mode = .writable) :
    ∃ spare o, h.spare = some spare ∧ r.ConvertsInPlace s ∧
      r.object? s.kernel = some o ∧ r.size ≤ (s.kernel.object o).length := by
  obtain ⟨-, o, hg, hlength⟩ := hk.label _ rfl
  have hg : Grants s.kernel h o .writable := hmode ▸ hg
  have hrefers := hg.refers
  -- A handle for writing has a reserve.
  obtain ⟨-, -, -, -, hreserve⟩ := hg
  have hreserve : h.spare.bind s.kernel.accessOf? = some .read := hreserve
  obtain ⟨spare, hspare, -⟩ := Option.bind_eq_some_iff.mp hreserve
  obtain ⟨o', hall⟩ := hk.whole trivial
  obtain rfl : o' = o := (hall _ (Backing.descriptor_mem h)).object_eq hrefers
  have hobject : ∀ d ∈ Backing.descriptors h, s.kernel.objectOf? d = some o' := by
    intro d hd
    obtain ⟨access, hfile⟩ := (hall d hd).1
    rw [objectOf?, hfile]
    rfl
  have hmapped := hobject _ (Backing.descriptor_mem h)
  refine ⟨spare, o', hspare, ?_, (Region.object?_of_some hhandle).trans hmapped, hlength trivial⟩
  exact (Region.convertsInPlace_iff hhandle hmode hspare (spare_ne hk.nodup hspare)).mpr
    ((hobject spare (Backing.reserve_mem hspare)).trans hmapped.symm)

/-- Whatever a process does with pairs and descriptors, a writable region is converted exactly if
its handle has a reserve, and stays on its object exactly if the reserve refers to that object. As
long as nothing but the steps of regions is done, this is so, and the object has all the bytes of
the region. -/
theorem readOnly_in_place_iff {start : Session DescriptorPair} (hstart : start.OwnsNothing)
    (errands : List PairErrand) (steps : List Step) :
    (let s := (runPairs ⟨start, []⟩ errands).session
      ∀ (name : String) (r : Region DescriptorPair) (h : DescriptorPair),
        s.regions.get? name = some r → r.handle = some h → r.mode = .writable →
          ((∃ r' y, (r.convert Region.toReadOnly).run s.system = (.ok r', y)) ↔
            ∃ spare, h.spare = some spare) ∧
          ∀ spare, h.spare = some spare → (r.ConvertsInPlace s.system ↔
            s.system.kernel.objectOf? spare = s.system.kernel.objectOf? h.fd)) ∧
    (let s := start.runSteps steps
      ∀ (name : String) (r : Region DescriptorPair) (h : DescriptorPair),
        s.regions.get? name = some r → r.handle = some h → r.mode = .writable →
          r.ConvertsInPlace s.system ∧ ∃ r' y o,
            (r.convert Region.toReadOnly).run s.system = (.ok r', y) ∧ r'.size = r.size ∧
              r'.object? y.kernel = some o ∧ r'.size ≤ (y.kernel.object o).length) := by
  constructor
  · intro s name r h hr hhandle hmode
    have he : Accounted start.system.kernel (runPairs ⟨start, []⟩ errands) :=
      accounted_of_stocked (runPairs_stocked ⟨start, []⟩ errands hstart.stocked)
    have hnodup := nodup_of_accounted he hr hhandle
    refine ⟨⟨?_, ?_⟩, fun spare hspare =>
      Region.convertsInPlace_iff hhandle hmode hspare (spare_ne hnodup hspare)⟩
    · rintro ⟨r', y, hconvert⟩
      cases hspare : h.spare with
      | some spare => exact ⟨spare, rfl⟩
      | none =>
        obtain ⟨e, herror⟩ := Region.convert_of_no_spare hhandle hmode hspare _ s.system rfl
        rw [hconvert] at herror
        cases herror
    · rintro ⟨spare, hspare⟩
      obtain ⟨hok, -⟩ := Region.convert_swaps hhandle hmode hspare _ s.system rfl
      exact ⟨_, _, Prod.ext hok rfl⟩
  · intro s name r h hr hhandle hmode
    have hs : InCustody True start.loose [] s :=
      (inCustody_of_empty hstart.regions hstart.handles).steps steps
    obtain ⟨spare, o, hspare, hplace, ho, hlength⟩ :=
      convertsInPlace_of_kept (hs.kept hr hhandle) hhandle hmode
    obtain ⟨hok, -⟩ := Region.convert_swaps hhandle hmode hspare _ s.system rfl
    have hconvert := Prod.ext (y := (_, ((r.convert Region.toReadOnly).run s.system).2)) hok rfl
    obtain ⟨hobject, hsame⟩ := hplace.object hconvert
    refine ⟨hplace, _, _, o, hconvert, rfl, hobject.trans ho, ?_⟩
    rw [hsame]
    exact hlength

/-- Two writable regions are taken apart. -/
def apartErrands : List PairErrand :=
  [.basic (.attempt (.step (.create .writable 4096 .host "first"))),
    .basic (.attempt (.step (.takeHandle "first" "handle"))), .takeApart "handle" "a" "spare of a",
    .basic (.attempt (.step (.create .writable 4096 .host "second"))),
    .basic (.attempt (.step (.takeHandle "second" "handle"))), .takeApart "handle" "b" "spare of b"]

/-- A pair is put together, and taken as a writable region whose first byte is set. -/
def joinedErrands (spare : String) : List PairErrand :=
  apartErrands ++ [.join "a" (some spare) "handle",
    .basic (.attempt (.step (.take "handle" ⟨.writable, 4096, .nil⟩ "region"))),
    .basic (.attempt (.step (.map (some "region") 0 16 .host "window"))),
    .basic (.attempt (.step (.write "window" [170] 0)))]

def joinedSession (spare : String) : Session DescriptorPair :=
  (runPairs ⟨{}, []⟩ (joinedErrands spare)).session

def createdSession : Session DescriptorPair :=
  ({} : Session DescriptorPair).runSteps [.create .writable 100 .host "region"]

set_option maxRecDepth 4000 in
/-- With its own second descriptor, the region stays on its object. -/
theorem readOnly_in_place_iff_of_joined :
    (∃ r, (joinedSession "spare of a").regions.get? "region" = some r ∧
      r.ConvertsInPlace (joinedSession "spare of a").system) ∧
    ∃ r, createdSession.regions.get? "region" = some r ∧
      r.ConvertsInPlace createdSession.system := by
  obtain ⟨hjoined, hcreated⟩ := @readOnly_in_place_iff {} ⟨rfl, rfl, rfl⟩
    (joinedErrands "spare of a") [.create .writable 100 .host "region"]
  constructor
  · have hown := hjoined "region" ⟨some ⟨⟨0⟩, some ⟨4⟩⟩, .writable, 4096, .nil⟩ ⟨⟨0⟩, some ⟨4⟩⟩
      rfl rfl rfl
    exact ⟨_, rfl, (hown.2 ⟨4⟩ rfl).mpr rfl⟩
  · obtain ⟨r, hr, hhandle, hmode⟩ : ∃ r, createdSession.regions.get? "region" = some r ∧
        r.handle = some ⟨⟨0⟩, some ⟨1⟩⟩ ∧ r.mode = .writable := ⟨_, rfl, rfl, rfl⟩
    exact ⟨r, hr, (hcreated "region" r _ hr hhandle hmode).1⟩

set_option maxRecDepth 4000 in
/-- With the second descriptor of the other region it is taken all the same. Made read-only, it
shows zero where 170 was written. -/
theorem joined_leaves_object :
    ∃ r r' w w' s₁ s₂ s₃, (joinedSession "spare of b").regions.get? "region" = some r ∧
      r.isValid = true ∧ r.mode = .writable ∧ r.size = 4096 ∧
      (Window.ofRequest { region := some r, size := 1 }).run (joinedSession "spare of b").system =
        (.ok w, s₁) ∧
      (r.convert Region.toReadOnly).run s₁ = (.ok r', s₂) ∧
      (Window.ofRequest { region := some r', size := 1 }).run s₂ = (.ok w', s₃) ∧
      w.view s₁.kernel 0 1 = [170] ∧ w'.view s₃.kernel 0 1 = [0] :=
  ⟨_, _, _, _, _, _, _, rfl, rfl, rfl, rfl, rfl, rfl, rfl, by decide +kernel, by decide +kernel⟩

end Session

end SharedMemory

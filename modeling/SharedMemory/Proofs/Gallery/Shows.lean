import SharedMemory.Proofs.Gallery.Basic
import SharedMemory.Proofs.Kernel.Bare
import SharedMemory.Proofs.Session.Frames
/-!
# Sessions that show a gallery

A session shows a gallery if its objects have the bytes of the gallery and every window has a
mapping of its own, which shows the place that the gallery says. Then reading and writing through
the windows comes to what it comes to in the gallery, and the session shows the gallery after it.
-/
namespace SharedMemory

open Kernel

/-- The mapping of a window shows a pane. -/
structure Pane.ShownBy (k : Kernel) (pane : Pane) (w : Window) : Prop where
  live : ∃ m, k.mappings.get? w.mapping = some m ∧ m.object = pane.object ∧
    m.offset + w.viewOffset = pane.offset ∧ w.viewOffset + w.size ≤ m.length ∧
    m.writable = pane.writable
  size_eq : w.size = pane.size
  writable_eq : w.protection.write = pane.writable
  there : pane.object < k.objects.length
  inside : pane.offset + pane.size ≤ (k.object pane.object).length

namespace Pane.ShownBy

variable {k k' : Kernel} {pane other : Pane} {w w' : Window} {s : System}

theorem frame (h : pane.ShownBy k w)
    (hbytes : SameBytes k k') (hlive : k'.mappings.get? w.mapping = k.mappings.get? w.mapping) :
    pane.ShownBy k' w := by
  obtain ⟨⟨m, hm, hrest⟩, hsize, hwritable, hthere, hinside⟩ := h
  refine ⟨⟨m, hlive.trans hm, hrest⟩, hsize, hwritable,
    Nat.lt_of_lt_of_le hthere hbytes.objects, ?_⟩
  rw [hbytes.length _ hthere]
  exact hinside

theorem view (h : pane.ShownBy k w) (position count : Nat) :
    w.view k position count = (k.object pane.object).bytes (pane.offset + position) count := by
  obtain ⟨m, hm, hobject, hoffset, -⟩ := h.live
  unfold Window.view Kernel.load
  rw [hm, ← hoffset, ← hobject, Nat.add_assoc]

/-- Storing through a writable window puts bytes into the object. -/
theorem put_run (h : pane.ShownBy s.kernel w) (hwritable : w.protection.write = true)
    (position : Nat) (data : List UInt8) : ((w.put position data).run s).2 =
      { s with
        kernel := s.kernel.modifyObject pane.object
          fun o => o.overwrite (pane.offset + position) data } := by
  obtain ⟨m, hm, hobject, hoffset, -, hm'⟩ := h.live
  have hstore : Kernel.store w.mapping (w.viewOffset + position) data s.kernel =
      s.kernel.modifyObject pane.object (·.overwrite (pane.offset + position) data) := by
    unfold Kernel.store
    rw [hm]
    dsimp only
    rw [if_pos (hm'.trans (h.writable_eq.symm.trans hwritable)), hobject, ← hoffset, Nat.add_assoc]
  rw [← hstore]
  rfl

theorem frame_put (h : pane.ShownBy s.kernel w) (hwritable : w.protection.write = true)
    (hother : other.ShownBy s.kernel w') (position : Nat) (data : List UInt8) :
    other.ShownBy ((w.put position data).run s).2.kernel w' := by
  rw [h.put_run hwritable]
  obtain ⟨hlive, hsize, hwritable, hthere, hinside⟩ := hother
  refine ⟨hlive, hsize, hwritable, ?_, ?_⟩
  · rwa [modifyObject, List.length_modify]
  · rw [object_modifyObject _ _ _ _ h.there]
    split
    · rename_i heq
      rw [heq] at hinside
      exact hinside
    · exact hinside

end Pane.ShownBy

namespace Session

open Script

variable {H : Type}

/-- The windows of a session show what the gallery says. -/
structure Shows (g : Gallery) (s : Session H) : Prop where
  bytes (o : ObjectId) : (s.system.kernel.object o).content = g.bytes o
  named (name : String) : (s.windows.get? name).isSome = (g.panes.get? name).isSome
  shown {name : String} {w : Window} {pane : Pane} : s.windows.get? name = some w →
    g.panes.get? name = some pane → pane.ShownBy s.system.kernel w
  apart {name name' : String} {w w' : Window} : s.windows.get? name = some w →
    s.windows.get? name' = some w' → w.mapping = w'.mapping → name = name'

namespace Shows

variable {g : Gallery} {s s' : Session H} {name : String} {pane : Pane} {w : Window}

theorem window (h : Shows g s) (hpane : g.panes.get? name = some pane) :
    ∃ w, s.windows.get? name = some w ∧ pane.ShownBy s.system.kernel w := by
  have hsome := h.named name
  rw [hpane, Option.isSome_some] at hsome
  obtain ⟨w, hw⟩ := Option.isSome_iff_exists.mp hsome
  exact ⟨w, hw, h.shown hw hpane⟩

theorem vacant (h : Shows g s) (hpane : g.panes.get? name = none) :
    s.windows.get? name = none := by
  have hnone := h.named name
  rwa [hpane, Option.isSome_none, Option.isSome_eq_false_iff, Option.isNone_iff_eq_none] at hnone

/-- Nothing but the bytes and the mappings of the windows matters. -/
theorem frame (h : Shows g s) (hwindows : s'.windows = s.windows)
    (hbytes : SameBytes s.system.kernel s'.system.kernel)
    (hlive : ∀ name w, s.windows.get? name = some w →
      s'.system.kernel.mappings.get? w.mapping = s.system.kernel.mappings.get? w.mapping) :
    Shows g s' where
  bytes o := (hbytes.content o).trans (h.bytes o)
  named name := by rw [hwindows, h.named]
  shown hw hpane := by
    rw [hwindows] at hw
    exact (h.shown hw hpane).frame hbytes (hlive _ _ hw)
  apart hw hw' := by
    rw [hwindows] at hw hw'
    exact h.apart hw hw'

private theorem remap (h : Shows g s) {mappings : Registry Mapping} {system : System}
    (hk : ({ s.system.kernel with mappings } : Kernel).Alike system.kernel)
    (hlive : ∀ name w, s.windows.get? name = some w →
      mappings.get? w.mapping = s.system.kernel.mappings.get? w.mapping) :
    Shows g { s with system } := by
  refine h.frame rfl (.of_objects hk.objects) fun name w hw => ?_
  rw [← hlive name w hw]
  exact congrArg (·.get? w.mapping) hk.mappings

theorem drop (h : Shows g s) {old : Option Window}
    (hold : ∀ w, old = some w → ∀ name w', s.windows.get? name = some w' →
      w'.mapping ≠ w.mapping) :
    (dropWindow old).Yields s fun x s' => x = some () ∧ Shows g s' := by
  cases old with
  | none => exact .pure ⟨rfl, h⟩
  | some w =>
    change (act w.release).Yields s fun x s' => x = some () ∧ Shows g s'
    refine .run ⟨rfl, ?_⟩
    rcases unmap_cases w.mapping s.system.kernel with hk | hk
    · exact h.remap hk fun _ _ _ => rfl
    · refine h.remap hk fun name w' hw' => ?_
      rw [Registry.get?_erase, if_neg (hold w rfl name w' hw')]

theorem discardWindow (h : Shows g s) (name : String) :
    (Session.discardWindow name).Yields s fun _ s' =>
      Shows { g with panes := g.panes.erase name } s' := by
  refine .bind (.get (.bind (.modify (.keep ((drop ?_ ?_).mono fun _ _ hs' => hs'.2)
    fun _ _ hs' => .pure hs'))))
  · refine ⟨h.bytes, fun other => ?_, fun {other w pane} hw hpane => ?_,
      fun {other other' w w'} hw hw' => ?_⟩
    · rw [Slots.get?_erase, Slots.get?_erase]
      split
      · rfl
      · exact h.named other
    · rw [Slots.get?_erase] at hw hpane
      split at hw
      · cases hw
      · rw [if_neg ‹_›] at hpane
        exact h.shown hw hpane
    · rw [Slots.get?_erase] at hw hw'
      split at hw
      · cases hw
      · split at hw'
        · cases hw'
        · exact h.apart hw hw'
  · intro w hw other w' hw' heq
    rw [Slots.get?_erase] at hw'
    split at hw'
    · cases hw'
    · exact ‹¬ _› (h.apart hw' hw heq)

theorem put (h : Shows g s) (hw : s.windows.get? name = some w)
    (hpane : g.panes.get? name = some pane) (hwritable : pane.writable = true) (position : Nat)
    (data : List UInt8) : Shows (g.put pane position data) (s.after (w.put position data)) := by
  have hshown := h.shown hw hpane
  have hprotection : w.protection.write = true := hshown.writable_eq.trans hwritable
  have hstore : (s.after (w.put position data)).system.kernel =
      s.system.kernel.modifyObject pane.object (·.overwrite (pane.offset + position) data) :=
    congrArg System.kernel (hshown.put_run hprotection position data)
  refine ⟨fun o => ?_, h.named,
    fun hw' hpane' => hshown.frame_put hprotection (h.shown hw' hpane') position data, h.apart⟩
  funext p
  rw [hstore, object_modifyObject _ _ _ _ hshown.there]
  by_cases heq : o = pane.object
  · rw [if_pos heq, Object.overwrite_content, Gallery.put, h.bytes, ← heq]
    simp only [true_and]
  · rw [if_neg heq, Gallery.put, h.bytes]
    simp only [heq, false_and, if_false]

/-- Work through a window comes to what the gallery says of its pane. -/
theorem through {α : Type} {a : Window → Effect α} (f : Pane → α × Gallery) (h : Shows g s)
    (hf : ∀ w pane, s.windows.get? name = some w → g.panes.get? name = some pane →
      ((a w).run s.system).1 = (f pane).1 ∧ Shows (f pane).2 (s.after (a w))) :
    (do Session.act (a (← Session.window name)) : Script H α).Yields s fun x s' =>
      x = (g.panes.get? name).map (fun pane => (f pane).1) ∧
        Shows ((g.panes.get? name).elim g fun pane => (f pane).2) s' := by
  cases hpane : g.panes.get? name with
  | none => exact .bind (.held ⟨rfl, h⟩ fun w hw => nomatch (h.vacant hpane).symm.trans hw)
  | some pane =>
    obtain ⟨w, hw, -⟩ := h.window hpane
    obtain ⟨hanswer, hshows⟩ := hf w pane hw hpane
    exact .bind (.heldSome hw (.run ⟨congrArg some hanswer, hshows⟩))

theorem write (h : Shows g s) (name : String) (data : List UInt8) (position : Nat) :
    (Session.write (H := H) name data position).Yields s fun x s' =>
      x = (g.panes.get? name).map (fun pane => (g.write pane data position).1) ∧
        Shows ((g.panes.get? name).elim g fun pane => (g.write pane data position).2) s' := by
  refine h.through (g.write · data position) fun w pane hw hpane => ?_
  have hshown := h.shown hw hpane
  unfold Session.after Gallery.write
  rw [Window.writeSlice_run, hshown.writable_eq, hshown.size_eq]
  by_cases hwritable : pane.writable = false
  · rw [if_pos hwritable, if_pos hwritable]
    exact ⟨rfl, h⟩
  · rw [if_neg hwritable, if_neg hwritable]
    split
    · exact ⟨rfl, h⟩
    · exact ⟨rfl, h.put hw hpane (eq_true_of_ne_false hwritable) position _⟩

theorem writeObject {α : Type} (h : Shows g s) (name : String) (e : Encoding α) (value : α)
    (position : Nat) :
    (Session.writeObject (H := H) name e value position).Yields s fun x s' =>
      x = (g.panes.get? name).map (fun pane => (g.writeObject pane e value position).1) ∧
        Shows ((g.panes.get? name).elim g fun pane =>
          (g.writeObject pane e value position).2) s' := by
  refine h.through (g.writeObject · e value position) fun w pane hw hpane => ?_
  have hshown := h.shown hw hpane
  unfold Session.after Gallery.writeObject
  rw [Window.writeObject_run, hshown.writable_eq, hshown.size_eq]
  by_cases hwritable : pane.writable = false
  · rw [if_pos hwritable, if_pos hwritable]
    exact ⟨rfl, h⟩
  · rw [if_neg hwritable, if_neg hwritable]
    split
    · exact ⟨rfl, h⟩
    · exact ⟨rfl, h.put hw hpane (eq_true_of_ne_false hwritable) position _⟩

theorem view (h : Shows g s) (hw : s.windows.get? name = some w)
    (hpane : g.panes.get? name = some pane) (position count : Nat) :
    w.view s.system.kernel position count = g.view pane position count := by
  rw [(h.shown hw hpane).view, Gallery.view, ← h.bytes]
  rfl

theorem read (h : Shows g s) (name : String) (buffer : List UInt8) (position : Nat) :
    (Session.read (H := H) name buffer position).answer s =
      (g.panes.get? name).map (g.read · buffer position) := by
  have hread : (Session.read (H := H) name buffer position).Yields s _ :=
    h.through (fun pane => (g.read pane buffer position, g)) fun w pane hw hpane => by
      unfold Session.after Gallery.read
      rw [Window.readSlice_run, (h.shown hw hpane).size_eq, h.view hw hpane]
      exact ⟨rfl, h⟩
  exact hread.1

theorem readObject {α : Type} (h : Shows g s) (name : String) (e : Encoding α)
    (position : Nat) : (Session.readObject (H := H) name e position).answer s =
      (g.panes.get? name).map (g.readObject · e position) := by
  have hread : (Session.readObject (H := H) name e position).Yields s _ :=
    h.through (fun pane => (g.readObject pane e position, g)) fun w pane hw hpane => by
      unfold Session.after Gallery.readObject
      rw [Window.readObject_run, (h.shown hw hpane).size_eq, h.view hw hpane]
      exact ⟨rfl, h⟩
  exact hread.1

/-- A new window takes the place of the old one of its name. -/
theorem mapped {system : System} {dest : String} {m : Mapping} (h : Shows g s)
    (hk : ({ s.system.kernel with
      mappings := (s.system.kernel.mappings.insert m).2 } : Kernel).Alike system.kernel)
    (hfree : w.mapping = s.system.kernel.mappings.free)
    (hshown : pane.ShownBy system.kernel w) :
    (putWindow dest w).Yields { s with system } fun x s' =>
      x = some () ∧ Shows { g with panes := g.panes.put dest pane } s' := by
  have hother : ∀ name w', s.windows.get? name = some w' → w'.mapping ≠ w.mapping := by
    intro name w' hw' heq
    have hsome := h.named name
    rw [hw', Option.isSome_some] at hsome
    obtain ⟨pane', hpane'⟩ := Option.isSome_iff_exists.mp hsome.symm
    obtain ⟨m', hm', -⟩ := (h.shown hw' hpane').live
    rw [heq, hfree, Registry.get?_free] at hm'
    cases hm'
  have hremap : Shows g { s with system } := h.remap hk fun name w' hw' => by
    rw [Registry.get?_insert, if_neg (hfree ▸ hother name w' hw')]
  refine .bind (.get (.bind (.modify (drop ?_ ?_))))
  · refine ⟨hremap.bytes, fun other => ?_, fun {other w' pane'} hw' hpane' => ?_,
      fun {other other' w₁ w₂} hw₁ hw₂ heq => ?_⟩
    · rw [Slots.get?_put, Slots.get?_put]
      split
      · rfl
      · exact h.named other
    · rw [Slots.get?_put] at hw' hpane'
      split at hw'
      · rw [if_pos ‹_›] at hpane'
        cases hw'
        cases hpane'
        exact hshown
      · rw [if_neg ‹_›] at hpane'
        exact hremap.shown hw' hpane'
    · rw [Slots.get?_put] at hw₁ hw₂
      split at hw₁
      · cases hw₁
        split at hw₂
        · rename_i heq₁ heq₂
          exact heq₁.trans heq₂.symm
        · exact absurd heq.symm (hother other' w₂ hw₂)
      · split at hw₂
        · cases hw₂
          exact absurd heq (hother other w₁ hw₁)
        · exact h.apart hw₁ hw₂ heq
  · intro old hold other w' hw'
    rw [Slots.get?_put] at hw'
    split at hw'
    · cases hw'
      exact fun heq => hother dest old hold heq.symm
    · rename_i hne
      exact fun heq => hne (h.apart hw' hold heq)

end Shows

/-- The pane that a request for a window of a region is about. -/
def pane? [Backing H] (s : Session H) (source : Option String) (offset size : Nat) :
    Option Pane := do
  let r ← source.bind s.regions.get?
  let h ← r.handle
  let o ← s.system.kernel.objectOf? (Backing.descriptor h)
  return ⟨o, offset, size, (Protection.ofMode r.mode).write⟩

variable [Backing H] {g : Gallery} {s : Session H} {loose : Slots Descriptor}
  {hand : List (Holding H)}

theorem InCustody.shows_map [Rights H] [LawfulBacking H] (hs : InCustody True loose hand s)
    (h : Shows g s) (source : Option String) (offset size : Nat) (layout : Layout)
    (dest : String) : (map source offset size layout dest none).Yields s fun x s' =>
      Shows (g.hang dest (s.pane? source offset size) x) s' := by
  have halike : ∀ {system : System}, s.system.kernel.Alike system.kernel →
      Shows g { s with system } := fun hk => h.remap hk fun _ _ _ => rfl
  cases source with
  | none =>
    have hgrants := Window.ofRequest_grants (H := H) { offset, size, layout } s.system.kernel
    refine .bind (.pure (.bind (.act (hgrants.mono ?_))))
    rintro outcome k' hk' system rfl
    cases outcome with
    | error e => exact .pure (halike hk')
    | ok w =>
      obtain ⟨r, hr, -⟩ := hk'
      cases hr
  | some name =>
    refine .bind (.bind (.held h fun r hr => .pure ?_))
    have hgrants := Window.ofRequest_grants { region := some r, offset, size, layout }
      s.system.kernel
    refine .bind (.act (hgrants.mono ?_))
    rintro outcome k' hk' system rfl
    cases outcome with
    | error e => exact .pure (halike hk')
    | ok w =>
      obtain ⟨r', hr', hgranted⟩ := hk'
      obtain rfl := Option.some.inj hr'
      obtain ⟨handle, file, hhandle, hfile, hk'⟩ := hgranted.maps
      have hpane : s.pane? (some name) offset size =
          some ⟨file.object, offset, size, w.protection.write⟩ := by
        simp only [pane?, Option.bind_some, hr, hhandle, objectOf?, hfile, Option.map_some,
          hgranted.protection_eq, Option.bind_eq_bind, Option.pure_def]
      obtain ⟨-, o, hgrants, hlength⟩ := (hs.kept hr hhandle).label _ rfl
      obtain rfl : o = file.object := by
        obtain ⟨access, hfile', -⟩ := hgrants
        exact congrArg OpenFile.object (Option.some.inj (hfile'.symm.trans hfile))
      have hwithin : offset + size ≤ (s.system.kernel.object file.object).length :=
        Nat.le_trans hgranted.within (hlength trivial)
      have hshown : Pane.ShownBy system.kernel
          ⟨file.object, offset, size, w.protection.write⟩ w := by
        have hle : w.viewOffset + w.size ≤ size + w.viewOffset :=
          Nat.le_of_eq (by rw [hgranted.size_eq, Nat.add_comm])
        have hlive := (congrArg (·.get? w.mapping) hk'.mappings).trans
          ((Registry.get?_insert _ _ _).trans (if_pos hgranted.mapping_eq))
        refine ⟨⟨_, hlive, rfl, Nat.sub_add_cancel hgranted.viewOffset_le, hle, rfl⟩,
          hgranted.size_eq, rfl, ?_, ?_⟩
        · rw [hk'.objects]
          exact hgrants.refers.lt
        · rw [hk'.object]
          exact hwithin
      refine .bind ((h.mapped hk' hgranted.mapping_eq hshown).mono ?_)
      rintro _ s' ⟨rfl, hs'⟩
      refine .pure ?_
      rw [hpane]
      exact hs'

end Session

end SharedMemory

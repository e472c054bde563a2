import Mathlib.Algebra.Group.Nat.Defs
import SharedMemory.Proofs.Effect
import SharedMemory.Proofs.Kernel.Mapping
import SharedMemory.Window.Object
/-!
# The operations of a window

Making, using and dropping windows maps memory and stores bytes. It changes no descriptor, no
length and no seals.
-/
namespace SharedMemory

theorem Protection.ofMode_of_ne {mode : Mode} (hmode : mode ≠ .readOnly) :
    Protection.ofMode mode = .readWrite := by
  cases mode with
  | readOnly => exact absurd rfl hmode
  | writable | shared => rfl

theorem Kernel.pageSize_eq (k : Kernel) : k.pageSize = 2 ^ k.pageBits.val := Nat.one_shiftLeft _

private theorem Kernel.pageSize_le (k : Kernel) : k.pageSize ≤ 0x80000000 := by
  have hle : 2 ^ k.pageBits.val ≤ 2 ^ 31 :=
    Nat.pow_le_pow_right (by decide) (Nat.le_of_lt_succ k.pageBits.isLt)
  rw [pageSize_eq]
  exact hle

/-- The bytes of a region lie far below the bounds that the kernel sets. -/
theorem Kernel.fits_of_within {k : Kernel} {start rest size total : Nat} (hsize : size ≠ 0)
    (hwithin : start + rest + size ≤ total) (htotal : total ≤ maxRegionSize)
    (haligned : start % k.pageSize = 0) : k.Fits start (size + rest) := by
  have hpages : k.wholePages (size + rest) ≤ size + rest + (k.pageSize - 1) :=
    Nat.div_mul_le_self _ _
  have hpage := k.pageSize_le
  refine ⟨haligned, by omega, ?_, ?_⟩
  · simp only [maxRegionSize, longestFree, addressSpace] at *
    omega
  · simp only [maxRegionSize, maxPosition] at *
    omega

/-- No byte of a region lies where an offset is no signed word. -/
theorem Layout.alignDown_le_maxPosition (l : Layout) {offset total : Nat} (hoffset : offset ≤ total)
    (htotal : total ≤ maxRegionSize) : l.alignDown offset ≤ Kernel.maxPosition := by
  have hle := l.alignDown_le offset
  simp only [maxRegionSize, Kernel.maxPosition] at *
  omega

namespace Window

open Kernel Effect

variable {H : Type} {k : Kernel}

private theorem mapNative_yields (d : Descriptor) (offset length : Nat) (p : Protection)
    (k : Kernel) :
    (mapNative d offset length p).Yields k fun _ k' => Shift [] [] [] k k' := by
  have hmap : Shift [] [] [] k (Kernel.map d offset length p k).2 := by
    obtain ⟨_, hk⟩ := map_mappings d offset length p k
    exact .mappings hk
  unfold mapNative
  split
  · refine .bind (.attempt (fun id k' hcall => ?_) fun k' hcall => ?_)
    · rw [hcall] at hmap
      exact .pure hmap
    · rw [hcall] at hmap
      exact .pure hmap
  · exact .pure (.refl k)

theorem ofRequest_yields [Backing H] (request : WindowRequest H) (k : Kernel) :
    (ofRequest request).Yields k fun _ k' => Shift [] [] [] k k' := by
  unfold ofRequest
  split
  · exact .pure (.refl k)
  · split
    · exact .pure (.refl k)
    · split
      · exact .pure (.refl k)
      · split
        · exact .pure (.refl k)
        · refine .bind (.idle (fun _ => rfl) fun layout =>
            .bind ((mapNative_yields _ _ _ _ k).mono ?_))
          intro outcome k' hk'
          cases outcome with
          | error e => exact .pure hk'
          | ok id => exact .pure hk'

private theorem mapNative_maps (d : Descriptor) (offset length : Nat) (p : Protection)
    (k : Kernel) :
    (mapNative d offset length p).Yields k fun outcome k' =>
      match outcome with
      | .error _ => k.Alike k'
      | .ok id => ∃ file, k.file? d = some file ∧ id = k.mappings.free ∧
          ({ k with
            mappings := (k.mappings.insert ⟨file.object, offset, length, p.write⟩).2 } :
              Kernel).Alike k' := by
  unfold mapNative
  split
  · refine .bind (.attempt (fun id k' hcall => .pure ?_) fun k' hcall => .pure ?_)
    · obtain ⟨file, hfile, -, -, hid, halike⟩ := map_some hcall
      exact ⟨file, hfile, hid, halike⟩
    · exact invoke_none hcall
  · exact .pure (.refl k)

section

variable [Backing H]

/-- A window of a region: it shows the bytes that were asked for, all within the region. -/
structure Granted (r : Region H) (offset size : Nat) (w : Window) (k k' : Kernel) : Prop where
  within : offset + size ≤ r.size
  size_eq : w.size = size
  protection_eq : w.protection = .ofMode r.mode
  viewOffset_le : w.viewOffset ≤ offset
  mapping_eq : w.mapping = k.mappings.free
  maps : ∃ h file, r.handle = some h ∧ k.file? (Backing.descriptor h) = some file ∧
    ({ k with mappings := (k.mappings.insert ⟨file.object, offset - w.viewOffset,
        size + w.viewOffset, w.protection.write⟩).2 } : Kernel).Alike k'

theorem ofRequest_grants (request : WindowRequest H) (k : Kernel) :
    (ofRequest request).Yields k fun outcome k' =>
      match outcome with
      | .error _ => k.Alike k'
      | .ok w => ∃ r, request.region = some r ∧ Granted r request.offset request.size w k k' := by
  unfold ofRequest
  split
  · exact .pure (.refl k)
  · rename_i r hregion
    split
    · exact .pure (.refl k)
    · rename_i h hhandle
      split
      · exact .pure (.refl k)
      · split
        · exact .pure (.refl k)
        · rename_i hrange
          have hrange : rangeWithin request.offset request.size r.size = true :=
            Decidable.not_not.mp hrange
          rw [rangeWithin, decide_eq_true_eq] at hrange
          refine .bind (.idle (fun _ => rfl) fun layout =>
            .bind ((mapNative_maps _ _ _ _ k).mono ?_))
          intro outcome k' hk'
          cases outcome with
          | error e => exact .pure hk'
          | ok id =>
            obtain ⟨file, hfile, hid, halike⟩ := hk'
            have hstart := Nat.sub_sub_self (layout.alignDown_le request.offset)
            refine .pure ⟨r, hregion, hrange, rfl, rfl, Nat.sub_le _ _, hid, h, file, hhandle,
              hfile, ?_⟩
            rw [hstart]
            exact halike

section

variable {r : Region H} {h : H} {offset size : Nat} {given : Option Layout} {layout : Layout}
  {s : System}

omit [Backing H] in
theorem chosenLayout_leads {region : Option (Region H)} {Q : Layout → System → Prop}
    (h : Q (given.getD s.kernel.layout) s) :
    (WindowRequest.chosenLayout { region, offset, size, layout := given }).Leads s Q := h

private theorem ofRequest_leads {Q : Except WindowError Window → System → Prop}
    (hlayout : given.getD s.kernel.layout = layout)
    (hhandle : r.handle = some h) (hpos : 0 < size) (hrange : offset + size ≤ r.size)
    (hmapped : (mapNative (Backing.descriptor h) (layout.alignDown offset)
      (size + (offset - layout.alignDown offset)) (.ofMode r.mode)).Leads s fun outcome s' =>
        Q (outcome.map fun id => ⟨id, offset - layout.alignDown offset, size, .ofMode r.mode⟩) s') :
    (ofRequest { region := some r, offset, size, layout := given }).Leads s Q := by
  have hwithin : ¬ ¬ rangeWithin offset size r.size = true := not_not_intro (decide_eq_true hrange)
  simp only [ofRequest, hhandle, if_neg (Nat.ne_of_gt hpos), if_neg hwithin]
  subst hlayout
  refine .bind (chosenLayout_leads (.bind (hmapped.mono fun outcome s' h => ?_)))
  cases outcome with
  | error e => exact .pure h
  | ok id => exact .pure h

theorem ofRequest_of_granted (hlayout : given.getD s.kernel.layout = layout)
    (hhandle : r.handle = some h) (hpos : 0 < size) (hrange : offset + size ≤ r.size)
    (hsmall : r.size ≤ maxRegionSize) {id : MappingId} {k' : Kernel}
    (hmap : Kernel.map (Backing.descriptor h) (layout.alignDown offset)
      (size + (offset - layout.alignDown offset)) (.ofMode r.mode) s.kernel = (some id, k')) :
    (ofRequest { region := some r, offset, size, layout := given }).run s =
      (.ok ⟨id, offset - layout.alignDown offset, size, .ofMode r.mode⟩,
        { s with kernel := k' }) := by
  have hleads : (ofRequest { region := some r, offset, size, layout := given }).Leads s
      fun outcome s' => (outcome, s') =
        (.ok ⟨id, offset - layout.alignDown offset, size, .ofMode r.mode⟩,
          { s with kernel := k' }) := by
    refine ofRequest_leads hlayout hhandle hpos hrange ?_
    rw [mapNative, if_pos (layout.alignDown_le_maxPosition (Nat.le_of_add_right_le hrange) hsmall)]
    exact .bind (.granted hmap (.pure rfl))
  exact hleads

theorem ofRequest_of_refused (hlayout : given.getD s.kernel.layout = layout)
    (hhandle : r.handle = some h) (hpos : 0 < size) (hrange : offset + size ≤ r.size)
    (hsmall : r.size ≤ maxRegionSize) {k' : Kernel}
    (hmap : Kernel.map (Backing.descriptor h) (layout.alignDown offset)
      (size + (offset - layout.alignDown offset)) (.ofMode r.mode) s.kernel = (none, k')) :
    (ofRequest { region := some r, offset, size, layout := given }).run s =
      (.error (.systemCallFailed k'.lastError), { s with kernel := k' }) := by
  have hleads : (ofRequest { region := some r, offset, size, layout := given }).Leads s
      fun outcome s' => (outcome, s') =
        (.error (.systemCallFailed k'.lastError), { s with kernel := k' }) := by
    refine ofRequest_leads hlayout hhandle hpos hrange ?_
    rw [mapNative, if_pos (layout.alignDown_le_maxPosition (Nat.le_of_add_right_le hrange) hsmall)]
    exact .bind (.refused hmap (.pure rfl))
  exact hleads

/-- Within the bytes of a region, a window is granted if the kernel grants the mapping. -/
theorem ofRequest_granted_iff (hlayout : given.getD s.kernel.layout = layout)
    (hhandle : r.handle = some h) (hpos : 0 < size) (hrange : offset + size ≤ r.size)
    (hsmall : r.size ≤ maxRegionSize) :
    (∃ w, ((ofRequest { region := some r, offset, size, layout := given }).run s).1 = .ok w) ↔
      ∃ id, (Kernel.map (Backing.descriptor h) (layout.alignDown offset)
        (size + (offset - layout.alignDown offset)) (.ofMode r.mode) s.kernel).1 = some id := by
  cases hmap : Kernel.map (Backing.descriptor h) (layout.alignDown offset)
      (size + (offset - layout.alignDown offset)) (.ofMode r.mode) s.kernel with
  | mk outcome k' =>
    cases outcome with
    | none =>
      rw [ofRequest_of_refused hlayout hhandle hpos hrange hsmall hmap]
      exact ⟨nofun, nofun⟩
    | some id =>
      rw [ofRequest_of_granted hlayout hhandle hpos hrange hsmall hmap]
      exact ⟨fun _ => ⟨id, rfl⟩, fun _ => ⟨_, rfl⟩⟩

end

/-- A window that is granted shows the bytes that were asked for, all within the region. -/
theorem ofRequest_spans (r : Region H) (offset size : Nat) (layout : Option Layout)
    (k : Kernel) :
    (ofRequest { region := some r, offset, size, layout }).Yields k fun outcome k' =>
      ∀ w, outcome = .ok w → ∃ h file m, r.handle = some h ∧
        k.file? (Backing.descriptor h) = some file ∧ k'.mappings.get? w.mapping = some m ∧
        m.object = file.object ∧ m.offset + w.viewOffset = offset ∧ w.size = size ∧
        offset + size ≤ r.size := by
  refine (ofRequest_grants _ k).mono ?_
  rintro outcome k' hk' w rfl
  obtain ⟨r', hr', hgranted⟩ := hk'
  obtain rfl := Option.some.inj hr'
  have hgranted : Granted r offset size w k k' := hgranted
  obtain ⟨h, file, hhandle, hfile, _, _, rfl⟩ := hgranted.maps
  refine ⟨h, file, ⟨file.object, offset - w.viewOffset, size + w.viewOffset, w.protection.write⟩,
    hhandle, hfile, ?_, rfl, Nat.sub_add_cancel hgranted.viewOffset_le, hgranted.size_eq,
    hgranted.within⟩
  rw [hgranted.mapping_eq]
  exact (k.mappings.get?_insert _ _).trans (if_pos rfl)

/-- A new window shows the bytes of the object from the offset on. -/
theorem Granted.view {r : Region H} {offset size : Nat} {w : Window} {k k' : Kernel}
    (hg : Granted r offset size w k k') : ∃ h o, r.handle = some h ∧
      k.objectOf? (Backing.descriptor h) = some o ∧
        ∀ position count,
          w.view k' position count = (k.object o).bytes (offset + position) count := by
  obtain ⟨h, file, hhandle, hfile, halike⟩ := hg.maps
  refine ⟨h, file.object, hhandle, by rw [objectOf?, hfile]; rfl, fun position count => ?_⟩
  have hmapping : k'.mappings.get? w.mapping = some ⟨file.object, offset - w.viewOffset,
      size + w.viewOffset, w.protection.write⟩ := by
    rw [halike.mappings, hg.mapping_eq]
    exact (k.mappings.get?_insert _ _).trans (if_pos rfl)
  have hstart : offset - w.viewOffset + (w.viewOffset + position) = offset + position := by
    rw [← Nat.add_assoc, Nat.sub_add_cancel hg.viewOffset_le]
  rw [Window.view, load, hmapping]
  dsimp only
  rw [hstart, halike.object]
  rfl

end

theorem release_yields (w : Window) (k : Kernel) :
    w.release.Yields k fun _ k' => Shift [] [] [] k k' := by
  have hunmap : Shift [] [] [] k (Kernel.unmap w.mapping k).2 := by
    obtain ⟨_, hk⟩ := unmap_mappings w.mapping k
    exact .mappings hk
  refine .bind (.attempt (fun x k' hcall => ?_) fun k' hcall => ?_)
  · rw [hcall] at hunmap
    exact .pure hunmap
  · rw [hcall] at hunmap
    exact .pure hunmap

theorem put_yields (w : Window) (position : Nat) (data : List UInt8) (k : Kernel) :
    (w.put position data).Yields k fun _ k' => Shift [] [] [] k k' := by
  rintro s rfl
  exact .store _ _ _ _

theorem writeSlice_run (w : Window) (data : List UInt8) (offset : Nat) (s : System) :
    (w.writeSlice data offset).run s =
      if w.protection.write = false then (.error .notWritable, s)
      else if w.size < offset then (.error .invalidAddress, s)
      else (.ok (min (w.size - offset) data.length),
        ((w.put offset (data.take (w.size - offset))).run s).2) := by
  simp only [writeSlice, Bool.not_eq_true]
  split
  · rfl
  · split
    · rfl
    · rw [← List.length_take]
      rfl

theorem writeObject_run {α : Type} (w : Window) (e : Encoding α) (value : α) (offset : Nat)
    (s : System) : (w.writeObject e value offset).run s =
      if w.protection.write = false then (.error .notWritable, s)
      else if w.size < offset + e.size then (.error .invalidAddress, s)
      else (.ok (), ((w.put offset (e.encode value)).run s).2) := by
  simp only [writeObject, Bool.not_eq_true, rangeWithin, decide_eq_false_iff_not, Nat.not_le]
  split
  · rfl
  · split
    · rfl
    · rfl

theorem readSlice_run (w : Window) (buffer : List UInt8) (offset : Nat) (s : System) :
    (w.readSlice buffer offset).run s =
      (if w.size < offset then .error .invalidAddress
      else .ok (min (w.size - offset) buffer.length,
        w.view s.kernel offset (min (w.size - offset) buffer.length) ++
          buffer.drop (min (w.size - offset) buffer.length)), s) := by
  unfold readSlice
  split
  · rfl
  · rfl

theorem readObject_run {α : Type} (w : Window) (e : Encoding α) (offset : Nat) (s : System) :
    (w.readObject e offset).run s =
      (if w.size < offset + e.size then .error .invalidAddress
      else .ok (e.decode (w.view s.kernel offset e.size)), s) := by
  simp only [readObject, Bool.not_eq_true, rangeWithin, decide_eq_false_iff_not, Nat.not_le]
  split
  · rfl
  · rfl

theorem writeSlice_yields (w : Window) (data : List UInt8) (offset : Nat) (k : Kernel) :
    (w.writeSlice data offset).Yields k fun _ k' => Shift [] [] [] k k' := by
  unfold writeSlice
  split
  · exact .pure (.refl k)
  · split
    · exact .pure (.refl k)
    · exact .bind ((put_yields w _ _ k).mono fun _ _ hk' => .pure hk')

theorem writeObject_yields {α : Type} (w : Window) (e : Encoding α) (value : α) (offset : Nat)
    (k : Kernel) : (w.writeObject e value offset).Yields k fun _ k' => Shift [] [] [] k k' := by
  unfold writeObject
  split
  · exact .pure (.refl k)
  · split
    · exact .pure (.refl k)
    · exact .bind ((put_yields w _ _ k).mono fun _ _ hk' => .pure hk')

theorem readSlice_looks (w : Window) (buffer : List UInt8) (offset : Nat) (s : System) :
    ((w.readSlice buffer offset).run s).2 = s := by rw [readSlice_run]

theorem readObject_looks {α : Type} (w : Window) (e : Encoding α) (offset : Nat) (s : System) :
    ((w.readObject e offset).run s).2 = s := by rw [readObject_run]

theorem readSlice_yields (w : Window) (buffer : List UInt8) (offset : Nat) (k : Kernel) :
    (w.readSlice buffer offset).Yields k fun _ k' => Shift [] [] [] k k' := by
  rintro s rfl
  rw [readSlice_looks]
  exact .refl s.kernel

theorem readObject_yields {α : Type} (w : Window) (e : Encoding α) (offset : Nat) (k : Kernel) :
    (w.readObject e offset).Yields k fun _ k' => Shift [] [] [] k k' := by
  rintro s rfl
  rw [readObject_looks]
  exact .refl s.kernel

end Window

end SharedMemory

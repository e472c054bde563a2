import SharedMemory.Proofs.Gallery
/-!
# Objects in windows are bytes in windows

Writing an object comes to writing its bytes, and reading one to reading bytes and decoding them.
The two ways of access differ only at the end of a window: bytes are copied as far as the window
reaches, and an object that does not fit is refused. What was written is read back, and only what
overlaps it is read differently from before.
-/
namespace SharedMemory

open Kernel

namespace Object

variable {o : Object} {position start : Nat} {data : List UInt8}

private theorem length_bytes (o : Object) (position count : Nat) :
    (o.bytes position count).length = count := by
  rw [bytes, List.length_map, List.length_range']

private theorem bytes_overwrite (o : Object) (position : Nat) (data : List UInt8) :
    (o.overwrite position data).bytes position data.length = data := by
  refine List.ext_getElem (length_bytes _ _ _) fun i hi hi' => ?_
  have hlt : position ≤ position + i ∧ position + i < position + data.length := by omega
  simp only [bytes, List.getElem_map, List.getElem_range', Nat.one_mul, overwrite_content,
    if_pos hlt, Nat.add_sub_cancel_left, List.getD_eq_getElem?_getD, List.getElem?_eq_getElem hi',
    Option.getD_some]

private theorem bytes_overwrite_of_disjoint {count : Nat}
    (h : position + count ≤ start ∨ start + data.length ≤ position) :
    (o.overwrite start data).bytes position count = o.bytes position count := by
  refine List.map_congr_left fun p hp => ?_
  rw [List.mem_range'_1] at hp
  rw [overwrite_content, if_neg (by omega)]

end Object

/-- The bytes of a pane from a position on are those given, and this is all that has changed. -/
structure Pane.Written (pane : Pane) (position : Nat) (data : List UInt8) (s s' : System) :
    Prop where
  content (o : ObjectId) (p : Nat) : (s'.kernel.object o).content p =
    if o = pane.object ∧ pane.offset + position ≤ p ∧ p < pane.offset + position + data.length then
      data.getD (p - (pane.offset + position)) 0
    else (s.kernel.object o).content p
  shape (o : ObjectId) : (s'.kernel.object o).kind = (s.kernel.object o).kind ∧
    (s'.kernel.object o).length = (s.kernel.object o).length ∧
    (s'.kernel.object o).seals = (s.kernel.object o).seals
  rest : ∃ objects, s' = { s with kernel := { s.kernel with objects } }

/-- Some bytes of one pane and some of another have no byte in common. -/
def Pane.Apart (pane : Pane) (position count : Nat) (pane' : Pane) (position' count' : Nat) :
    Prop :=
  pane.object ≠ pane'.object ∨ pane.offset + position + count ≤ pane'.offset + position' ∨
    pane'.offset + position' + count' ≤ pane.offset + position

/-- What reading and writing through a window that shows a pane comes to, object by object and byte
by byte. -/
structure Window.Agrees (w : Window) (pane : Pane) (s : System) : Prop where
  /-- A window for reading alone is not written to, at whatever offset. -/
  unwritable {α : Type} (e : Encoding α) (value : α) (data : List UInt8) (offset : Nat) :
    w.protection.write = false →
      (w.writeObject e value offset).run s = (.error .notWritable, s) ∧
      (w.writeSlice data offset).run s = (.error .notWritable, s)
  /-- Bytes are copied as far as the window and the data reach. -/
  copied (data : List UInt8) (offset : Nat) : w.protection.write = true → offset ≤ w.size →
    ∃ s', (w.writeSlice data offset).run s = (.ok (min (w.size - offset) data.length), s') ∧
      pane.Written offset (data.take (w.size - offset)) s s' ∧ pane.ShownBy s'.kernel w
  shown (buffer : List UInt8) (offset : Nat) : offset ≤ w.size →
    (w.readSlice buffer offset).run s = (.ok (min (w.size - offset) buffer.length,
      (s.kernel.object pane.object).bytes (pane.offset + offset)
        (min (w.size - offset) buffer.length) ++
      buffer.drop (min (w.size - offset) buffer.length)), s)
  /-- No byte is copied from or to a place past the end. -/
  past (data buffer : List UInt8) (offset : Nat) : w.size < offset →
    (w.protection.write = true → (w.writeSlice data offset).run s = (.error .invalidAddress, s)) ∧
      (w.readSlice buffer offset).run s = (.error .invalidAddress, s)
  /-- An object that fits is written as its bytes are. Then it is read back, and so are its
  bytes. -/
  stored {α : Type} (e : Encoding α) (value : α) (offset : Nat) : w.protection.write = true →
    offset + e.size ≤ w.size → ∃ s', (w.writeObject e value offset).run s = (.ok (), s') ∧
      (w.writeSlice (e.encode value) offset).run s = (.ok e.size, s') ∧
      pane.Written offset (e.encode value) s s' ∧ pane.ShownBy s'.kernel w ∧
      (w.readObject e offset).run s' = (.ok value, s') ∧
      ∀ buffer : List UInt8, buffer.length = e.size →
        (w.readSlice buffer offset).run s' = (.ok (e.size, e.encode value), s')
  /-- Reading an object that fits is decoding the bytes that are read in its place. -/
  decoded {α : Type} (e : Encoding α) (buffer : List UInt8) (offset : Nat) :
    buffer.length = e.size → offset + e.size ≤ w.size →
      ∃ bytes, (w.readSlice buffer offset).run s = (.ok (e.size, bytes), s) ∧
        bytes.length = e.size ∧ (w.readObject e offset).run s = (.ok (e.decode bytes), s)
  /-- An object that does not fit is refused as a whole. -/
  refused {α : Type} (e : Encoding α) (value : α) (offset : Nat) : w.size < offset + e.size →
    (w.protection.write = true →
      (w.writeObject e value offset).run s = (.error .invalidAddress, s)) ∧
      (w.readObject e offset).run s = (.error .invalidAddress, s)
  /-- An object that has no byte in common with the one written is read as before, also through
  another window. -/
  spared {α β : Type} (e : Encoding α) (value : α) (offset : Nat) {w' : Window} {pane' : Pane}
    (e' : Encoding β) (offset' : Nat) : pane'.ShownBy s.kernel w' →
      pane.Apart offset e.size pane' offset' e'.size →
        ((w'.readObject e' offset').run ((w.writeObject e value offset).run s).2).1 =
          ((w'.readObject e' offset').run s).1

namespace Pane.ShownBy

variable {pane pane' : Pane} {w w' : Window} {s s' : System} {position : Nat} {data : List UInt8}

theorem written (h : pane.ShownBy s.kernel w) (hwritable : w.protection.write = true)
    (position : Nat) (data : List UInt8) :
    pane.Written position data s ((w.put position data).run s).2 := by
  rw [h.put_run hwritable]
  have hobject := fun o => object_modifyObject s.kernel pane.object o
    (fun o => o.overwrite (pane.offset + position) data) h.there
  refine ⟨fun o p => ?_, fun o => ?_, _, rfl⟩
  · rw [hobject]
    by_cases ho : o = pane.object
    · simp only [ho, if_true, true_and, Object.overwrite_content]
    · simp only [ho, if_false, false_and]
  · rw [hobject]
    by_cases ho : o = pane.object
    · rw [if_pos ho, ho]
      exact ⟨rfl, rfl, rfl⟩
    · rw [if_neg ho]
      exact ⟨rfl, rfl, rfl⟩

private theorem view_put (h : pane.ShownBy s.kernel w) (hwritable : w.protection.write = true)
    (position : Nat) (data : List UInt8) :
    w.view ((w.put position data).run s).2.kernel position data.length = data := by
  rw [(h.frame_put hwritable h position data).view, h.put_run hwritable]
  dsimp only
  rw [object_modifyObject _ _ _ _ h.there, if_pos rfl, Object.bytes_overwrite]

private theorem view_put_of_apart (h : pane.ShownBy s.kernel w)
    (hwritable : w.protection.write = true)
    (h' : pane'.ShownBy s.kernel w') {position' count' : Nat}
    (hapart : pane.Apart position data.length pane' position' count') :
    w'.view ((w.put position data).run s).2.kernel position' count' =
      w'.view s.kernel position' count' := by
  rw [(h.frame_put hwritable h' position data).view, h'.view, h.put_run hwritable]
  dsimp only
  rw [object_modifyObject _ _ _ _ h.there]
  by_cases ho : pane'.object = pane.object
  · rw [if_pos ho, ← ho, Object.bytes_overwrite_of_disjoint]
    rcases hapart with hne | hbefore | hafter
    · exact absurd ho.symm hne
    · exact .inr hbefore
    · exact .inl hafter
  · rw [if_neg ho]

end Pane.ShownBy

namespace Window

variable {w : Window} {pane : Pane} {s : System} {α : Type}

private theorem writeObject_of_fits {e : Encoding α} {offset : Nat}
    (hwritable : w.protection.write = true) (hfits : offset + e.size ≤ w.size) (value : α) :
    (w.writeObject e value offset).run s = (.ok (), ((w.put offset (e.encode value)).run s).2) := by
  have hle : ¬ w.size < offset + e.size := Nat.not_lt.mpr hfits
  rw [writeObject_run, hwritable, if_neg (by decide), if_neg hle]

private theorem writeSlice_of_fits {data : List UInt8} {offset : Nat}
    (hwritable : w.protection.write = true) (hfits : offset + data.length ≤ w.size) :
    (w.writeSlice data offset).run s = (.ok data.length, ((w.put offset data).run s).2) := by
  have hle : ¬ w.size < offset := by omega
  have hmin : min (w.size - offset) data.length = data.length := by omega
  rw [writeSlice_run, hwritable, if_neg (by decide), if_neg hle, hmin,
    List.take_of_length_le (by omega)]

private theorem readObject_of_fits {e : Encoding α} {offset : Nat}
    (hfits : offset + e.size ≤ w.size) :
    (w.readObject e offset).run s = (.ok (e.decode (w.view s.kernel offset e.size)), s) := by
  rw [readObject_run, if_neg (Nat.not_lt.mpr hfits)]

private theorem readSlice_of_fits {buffer : List UInt8} {offset : Nat}
    (hfits : offset + buffer.length ≤ w.size) :
    (w.readSlice buffer offset).run s =
      (.ok (buffer.length, w.view s.kernel offset buffer.length), s) := by
  have hle : ¬ w.size < offset := by omega
  have hmin : min (w.size - offset) buffer.length = buffer.length := by omega
  rw [readSlice_run, if_neg hle, hmin, List.drop_length, List.append_nil]

private theorem stored_of_shownBy (h : pane.ShownBy s.kernel w) (e : Encoding α) (value : α)
    {offset : Nat} (hwritable : w.protection.write = true) (hfits : offset + e.size ≤ w.size) :
    ∃ s', (w.writeObject e value offset).run s = (.ok (), s') ∧
      (w.writeSlice (e.encode value) offset).run s = (.ok e.size, s') ∧
      pane.Written offset (e.encode value) s s' ∧ pane.ShownBy s'.kernel w ∧
      (w.readObject e offset).run s' = (.ok value, s') ∧
      ∀ buffer : List UInt8, buffer.length = e.size →
        (w.readSlice buffer offset).run s' = (.ok (e.size, e.encode value), s') := by
  have hlength := e.length_encode value
  have hview := h.view_put hwritable offset (e.encode value)
  have hdata : offset + (e.encode value).length ≤ w.size := by rw [hlength]; exact hfits
  have hslice := writeSlice_of_fits (s := s) hwritable hdata
  rw [hlength] at hview hslice
  refine ⟨_, writeObject_of_fits hwritable hfits value, hslice,
    h.written hwritable offset (e.encode value), h.frame_put hwritable h offset (e.encode value),
    ?_, fun buffer hbuffer => ?_⟩
  · rw [readObject_of_fits hfits, hview, e.decode_encode]
  · rw [← hbuffer] at hfits hview ⊢
    rw [readSlice_of_fits hfits, hview]

private theorem spared_of_shownBy {β : Type} (h : pane.ShownBy s.kernel w) (e : Encoding α)
    (value : α) (offset : Nat) {w' : Window} {pane' : Pane} (e' : Encoding β) (offset' : Nat)
    (h' : pane'.ShownBy s.kernel w') (hapart : pane.Apart offset e.size pane' offset' e'.size) :
    ((w'.readObject e' offset').run ((w.writeObject e value offset).run s).2).1 =
      ((w'.readObject e' offset').run s).1 := by
  rw [writeObject_run]
  split
  · rfl
  · rename_i hwritable
    split
    · rfl
    · rw [← e.length_encode value] at hapart
      rw [readObject_run, readObject_run,
        h.view_put_of_apart (eq_true_of_ne_false hwritable) h' hapart]

private theorem agrees_of_shownBy (h : pane.ShownBy s.kernel w) : w.Agrees pane s where
  unwritable e value data offset hwrite := by
    rw [writeObject_run, writeSlice_run, if_pos hwrite, if_pos hwrite]
    exact ⟨rfl, rfl⟩
  copied data offset hwritable hle := by
    refine ⟨_, ?_, h.written hwritable offset (data.take (w.size - offset)),
      h.frame_put hwritable h offset (data.take (w.size - offset))⟩
    rw [writeSlice_run, hwritable, if_neg (by decide), if_neg (Nat.not_lt.mpr hle)]
  shown buffer offset hle := by
    rw [readSlice_run, if_neg (Nat.not_lt.mpr hle), h.view]
  past data buffer offset hlt := by
    rw [writeSlice_run, readSlice_run, if_pos hlt, if_pos hlt]
    exact ⟨fun hwritable => by rw [hwritable, if_neg (by decide)], rfl⟩
  stored e value offset hwritable hfits := stored_of_shownBy h e value hwritable hfits
  decoded e buffer offset hbuffer hfits := by
    refine ⟨w.view s.kernel offset e.size, ?_, ?_, readObject_of_fits hfits⟩
    · rw [← hbuffer] at hfits ⊢
      exact readSlice_of_fits hfits
    · rw [h.view, Object.length_bytes]
  refused e value offset hlt := by
    rw [writeObject_run, readObject_run, if_pos hlt, if_pos hlt]
    exact ⟨fun hwritable => by rw [hwritable, if_neg (by decide)], rfl⟩
  spared e value offset _ _ e' offset' h' hapart :=
    spared_of_shownBy h e value offset e' offset' h' hapart

end Window

namespace Session

variable {H : Type} {g : Gallery} {s : Session H}

/-- Every window of a session that shows a gallery shows a pane. -/
theorem Shows.pane (h : Shows g s) {name : String} {w : Window}
    (hw : s.windows.get? name = some w) : ∃ pane : Pane, pane.ShownBy s.system.kernel w := by
  have hnamed := h.named name
  rw [hw, Option.isSome_some] at hnamed
  obtain ⟨pane, hpane⟩ := Option.isSome_iff_exists.mp hnamed.symm
  exact ⟨pane, h.shown hw hpane⟩

variable [Backing H] [ModestBacking H] [CarefulBacking H] [Rights H] [LawfulBacking H]

private theorem shownBy_of_runSteps (hregions : s.regions = .empty) (hhandles : s.handles = .empty)
    (hwindows : s.windows = .empty) (steps : List Step) {name : String} {w : Window}
    (hw : (s.runSteps steps).windows.get? name = some w) :
    ∃ pane : Pane, pane.ShownBy (s.runSteps steps).system.kernel w := by
  have hs : InCustody True s.loose [] s := inCustody_of_empty hregions hhandles
  exact (hs.shows_steps (shows_start hwindows) steps).pane hw

/-- Through every window that shows some bytes of an object, whatever else is the case, objects are
read and written as their bytes are. In every session that starts with nothing in use, all windows
show bytes of objects, after whatever steps they were made and have been used. -/
theorem objects_agree_with_slices :
    (∀ (w : Window) (pane : Pane) (s : System), pane.ShownBy s.kernel w → w.Agrees pane s) ∧
    (∀ (s : Session SealedFile) (steps : List Step), s.regions = .empty → s.handles = .empty →
      s.windows = .empty → ∀ name w, (s.runSteps steps).windows.get? name = some w →
        ∃ pane : Pane, pane.ShownBy (s.runSteps steps).system.kernel w) ∧
    (∀ (s : Session DescriptorPair) (steps : List Step), s.regions = .empty → s.handles = .empty →
      s.windows = .empty → ∀ name w, (s.runSteps steps).windows.get? name = some w →
        ∃ pane : Pane, pane.ShownBy (s.runSteps steps).system.kernel w) :=
  ⟨fun _ _ _ h => Window.agrees_of_shownBy h,
    fun _ steps hregions hhandles hwindows _ _ hw =>
      shownBy_of_runSteps hregions hhandles hwindows steps hw,
    fun _ steps hregions hhandles hwindows _ _ hw =>
      shownBy_of_runSteps hregions hhandles hwindows steps hw⟩

/-- A window of 100 bytes that does not start at a page. -/
def windowSteps : List Step :=
  [.create .shared 10000 .host "region", .map (some "region") 5000 100 .host "window"]

/-- A session of sealed files after these steps. -/
def windowed : Session SealedFile := Session.runSteps {} windowSteps

/-- A word of four bytes fits at the end of the window, and one byte further it does not. -/
theorem objects_agree_with_slices_at_end : ∃ w pane, windowed.windows.get? "window" = some w ∧
    w.Agrees pane windowed.system ∧
    (∃ s', (w.writeObject (.word 4) 0x01020304#32 96).run windowed.system = (.ok (), s') ∧
      (w.writeSlice [4, 3, 2, 1] 96).run windowed.system = (.ok 4, s') ∧
      (w.readObject (.word 4) 96).run s' = (.ok 0x01020304#32, s')) ∧
    (w.writeObject (.word 4) 0x01020304#32 97).run windowed.system =
      (.error .invalidAddress, windowed.system) := by
  obtain ⟨hagrees, hshown, -⟩ := objects_agree_with_slices
  have hthere : (windowed.windows.get? "window").map (fun w => (w.size, w.protection.write)) =
      some (100, true) := by decide +kernel
  obtain ⟨w, hw, hsize⟩ := Option.map_eq_some_iff.mp hthere
  obtain ⟨hsize, hwritable⟩ := Prod.mk.inj hsize
  obtain ⟨pane, hpane⟩ := hshown {} windowSteps rfl rfl rfl "window" w hw
  have ha := hagrees w pane windowed.system hpane
  obtain ⟨s', hobject, hslice, -, -, hread, -⟩ := ha.stored (.word 4) 0x01020304#32 96 hwritable
    (by rw [hsize]; decide)
  exact ⟨w, pane, hw, ha, ⟨s', hobject, hslice, hread⟩,
    (ha.refused (.word 4) 0x01020304#32 97 (by rw [hsize]; decide)).1 hwritable⟩

end Session

end SharedMemory

import SharedMemory.Proofs.Kernel.Mapping
/-!
# What can happen to memory

The operations that any process may carry out on the kernel: the calls on objects and descriptors,
the making and taking away of mappings, and stores through live ones. Each does one of few things to
an object, and none to an object that is sealed against it. A writable mapping is never made of an
object that refuses writes. Not among the operations is giving a live mapping another protection: it
keeps the one it was made with.
-/
namespace SharedMemory

namespace Kernel

/-- An operation with its data. -/
inductive Operation where
  | createMemory (sealing : Bool)
  | createShared (name : String)
  | openShared (name : String)
  | unlinkShared (name : String)
  | makePipe
  | reopen (d : Descriptor) (access : Access)
  | duplicate (d : Descriptor)
  | markCloseOnExec (d : Descriptor)
  | close (d : Descriptor)
  | setLength (d : Descriptor) (length : Int)
  | writeAt (d : Descriptor) (position : Nat) (data : List UInt8)
  | queryAccess (d : Descriptor)
  | queryLength (d : Descriptor)
  | querySeals (d : Descriptor)
  | addSeals (d : Descriptor) (mask : Nat)
  | compareFiles (a b : Descriptor)
  | map (d : Descriptor) (offset length : Nat) (protection : Protection)
  | unmap (id : MappingId)
  | store (id : MappingId) (position : Nat) (data : List UInt8)

/-- The kernel after an operation, whether it succeeds or not. -/
def Operation.perform (k : Kernel) : Operation → Kernel
  | .createMemory sealing => (Kernel.createMemory sealing k).2
  | .createShared name => (Kernel.createShared name k).2
  | .openShared name => (Kernel.openShared name k).2
  | .unlinkShared name => (Kernel.unlinkShared name k).2
  | .makePipe => (Kernel.makePipe k).2
  | .reopen d access => (Kernel.reopen d access k).2
  | .duplicate d => (Kernel.duplicate d k).2
  | .markCloseOnExec d => (Kernel.markCloseOnExec d k).2
  | .close d => (Kernel.close d k).2
  | .setLength d length => (Kernel.setLength d length k).2
  | .writeAt d position data => (Kernel.writeAt d position data k).2
  | .queryAccess d => (Kernel.queryAccess d k).2
  | .queryLength d => (Kernel.queryLength d k).2
  | .querySeals d => (Kernel.querySeals d k).2
  | .addSeals d mask => (Kernel.addSeals d mask k).2
  | .compareFiles a b => (Kernel.compareFiles a b k).2
  | .map d offset length protection => (Kernel.map d offset length protection k).2
  | .unmap id => (Kernel.unmap id k).2
  | .store id position data => Kernel.store id position data k

/-- The mapping that an operation stores through. -/
def Operation.through? : Operation → Option MappingId
  | .store id _ _ => some id
  | _ => none

/-- No mapping comes or goes, and no object that was there changes. -/
structure SameMemory (k k' : Kernel) : Prop where
  mappings : k'.mappings = k.mappings
  objects : k.objects <+: k'.objects

/-- Besides, every new object is all zero, as objects are that are not there. -/
structure Extends (k k' : Kernel) : Prop extends SameMemory k k' where
  content : ∀ id, (k'.object id).content = (k.object id).content

namespace SameMemory

variable {k k₁ k₂ : Kernel}

theorem refl (k : Kernel) : SameMemory k k := ⟨rfl, List.prefix_rfl⟩

theorem trans (h : SameMemory k k₁) (h' : SameMemory k₁ k₂) : SameMemory k k₂ :=
  ⟨h'.mappings.trans h.mappings, h.objects.trans h'.objects⟩

theorem object (h : SameMemory k k₁) {o : ObjectId} (ho : o < k.objects.length) :
    k₁.object o = k.object o := by
  obtain ⟨rest, hrest⟩ := h.objects
  simp only [Kernel.object, ← hrest, List.getD_eq_getElem?_getD, List.getElem?_append_left ho]

end SameMemory

namespace Extends

variable {k k₁ k₂ : Kernel} {d : Descriptor} {id : FileId}

theorem refl (k : Kernel) : Extends k k := ⟨.refl k, fun _ => rfl⟩

theorem trans (h : Extends k k₁) (h' : Extends k₁ k₂) : Extends k k₂ :=
  ⟨h.toSameMemory.trans h'.toSameMemory, fun id => (h'.content id).trans (h.content id)⟩

theorem congr (h : Extends k k₁) (hobjects : k₂.objects = k₁.objects)
    (hmappings : k₂.mappings = k₁.mappings) : Extends k k₂ := by
  refine ⟨⟨hmappings.trans h.mappings, hobjects ▸ h.objects⟩, fun id => ?_⟩
  rw [← h.content id, Kernel.object, Kernel.object, hobjects]

theorem alike (h : Extends k k₁) (ha : k₁.Alike k₂) : Extends k k₂ := by
  obtain ⟨_, _, rfl⟩ := ha
  exact h.congr rfl rfl

theorem names (h : Extends k k₁) (names : List (String × ObjectId)) :
    Extends k { k₁ with names } := h.congr rfl rfl

theorem installs (h : Extends k k₁) (hi : Installs d id k₁ k₂) : Extends k k₂ := by
  obtain ⟨_, rfl⟩ := hi.rest
  exact h.congr rfl rfl

theorem forget (h : Extends k k₁) (d : Descriptor) : Extends k (k₁.forget d) := by
  unfold Kernel.forget
  split
  · exact h.congr rfl rfl
  · exact h

theorem addObject (k : Kernel) {o : Object} (ho : o.content = fun _ => 0) :
    Extends k { k with objects := k.objects ++ [o] } := by
  refine ⟨⟨rfl, List.prefix_append _ _⟩, fun id => ?_⟩
  rcases Nat.lt_trichotomy id k.objects.length with hlt | rfl | hgt
  · rw [object_append hlt]
  · rw [object_append_new, ho, Kernel.object, List.getD_eq_getElem?_getD,
      List.getElem?_eq_none (Nat.le_refl _)]
    rfl
  · have hnone : (k.objects ++ [o])[id]? = none := by
      rw [List.getElem?_eq_none_iff, List.length_append, List.length_singleton]
      exact hgt
    simp only [Kernel.object, List.getD_eq_getElem?_getD, hnone,
      List.getElem?_eq_none (Nat.le_of_lt hgt)]

/-- A new object may still get another length and other seals. -/
theorem modifyNew (h : Extends k k₁) {o : ObjectId} (ho : k.objects.length ≤ o)
    {f : Object → Object} (hf : (f (k₁.object o)).content = (k₁.object o).content) :
    Extends k (k₁.modifyObject o f) := by
  obtain ⟨rest, hrest⟩ := h.objects
  have hprefix : k.objects <+: k₁.objects.modify o f := by
    refine List.prefix_iff_getElem?.mpr fun i hi => ?_
    have hne : ¬ o = i := Nat.ne_of_gt (Nat.lt_of_lt_of_le hi ho)
    rw [List.getElem?_modify, ← hrest, List.getElem?_append_left hi, List.getElem?_eq_getElem hi]
    simp only [if_neg hne, Option.map_eq_map, Option.map_some]
  refine ⟨⟨h.mappings, hprefix⟩, fun id => ?_⟩
  rw [← h.content id]
  by_cases hlt : o < k₁.objects.length
  · rw [object_modifyObject k₁ o id f hlt]
    by_cases heq : id = o
    · rw [if_pos heq, hf, heq]
    · rw [if_neg heq]
  · simp only [modifyObject, Kernel.object, List.modify_eq_self (Nat.le_of_not_lt hlt)]

end Extends

/-- What an operation can make of an object. -/
inductive Becomes (k : Kernel) (op : Operation) (id : ObjectId) : Object → Prop where
  | same : Becomes k op id (k.object id)
  | resized (n : Nat) (shrinks : n < (k.object id).length → (k.object id).seals.shrink = false)
      (grows : (k.object id).length < n → (k.object id).seals.grow = false) :
      Becomes k op id ((k.object id).resize n)
  | written (position : Nat) (data : List UInt8)
      (writes : (k.object id).seals.blocksWrites = false)
      (grows : (k.object id).length < position + data.length →
        (k.object id).seals.grow = false) :
      Becomes k op id ((if (k.object id).length < position + data.length then
        (k.object id).resize (position + data.length) else k.object id).overwrite position data)
  | sealed (extra : Seals) (opened : (k.object id).seals.closed = false) :
      Becomes k op id ((k.object id).withSeals extra)
  | stored (mapping : MappingId) (position : Nat) (data : List UInt8) (m : Mapping)
      (isStore : op = .store mapping position data) (live : k.mappings.get? mapping = some m)
      (writable : m.writable = true) (object : m.object = id) :
      Becomes k op id ((k.object id).overwrite (m.offset + position) data)

/-- The operations that may change an object or a mapping. -/
def Operation.touches : Operation → Bool
  | .setLength .. | .writeAt .. | .addSeals .. | .map .. | .unmap .. | .store .. => true
  | _ => false

/-- A relation across which all-zero objects are added, and which leaves open files, descriptors
and names out of account. -/
structure Bookkeeping (R : Kernel → Kernel → Prop) : Prop where
  alike {k k' : Kernel} : k.Alike k' → R k k'
  trans {k k₁ k' : Kernel} : R k k₁ → R k₁ k' → R k k'
  books (k : Kernel) (files : List OpenFile) (descriptors : Registry FileId)
    (names : List (String × ObjectId)) : R k { k with files, descriptors, names }
  object (k : Kernel) (o : Object) : (o.content = fun _ => 0) →
    R k { k with objects := k.objects ++ [o] }

namespace Bookkeeping

variable {R : Kernel → Kernel → Prop} (hR : Bookkeeping R) {k k' : Kernel} {d : Descriptor}
include hR

theorem install {id : FileId} (h : install id k = .ok (d, k')) : R k k' := by
  obtain ⟨descriptors, rfl⟩ := (install_ok h).rest
  exact hR.books k k.files descriptors k.names

theorem openObject {object : ObjectId} {access : Access}
    (h : openObject object access k = .ok (d, k')) : R k k' := by
  obtain ⟨descriptors, rfl⟩ := (openObject_ok h).rest
  exact hR.books k _ descriptors k.names

theorem openNew {object : Object} {access : Access} (ho : object.content = fun _ => 0)
    (h : openNew object access k = .ok (d, k')) : R k k' :=
  hR.trans (hR.object k object ho) (hR.openObject h)

theorem invoke {α : Type} {call : Call} {answer : Kernel → Except Errno (α × Kernel)}
    (h : ∀ a k₁, answer k = .ok (a, k₁) → R k k₁) : R k (invoke call answer k).2 := by
  rcases invoke_cases call answer k with hk | ⟨a, k₁, hanswer, hk⟩
  · exact hR.alike hk
  · exact hR.trans (h a k₁ hanswer) (hR.alike hk)

theorem perform {op : Operation} (h : op.touches = false) (k : Kernel) : R k (op.perform k) := by
  cases op with
  | createMemory sealing => exact hR.invoke fun _ _ hanswer => hR.openNew rfl hanswer
  | createShared name =>
    refine hR.invoke ?_
    intro _ _ hanswer
    simp only [bind, Except.bind, throw, throwThe, MonadExceptOf.throw] at hanswer
    split at hanswer
    · cases hanswer
    · split at hanswer
      · cases hanswer
      · exact hR.trans (hR.books k k.files k.descriptors _) (hR.openNew rfl hanswer)
  | openShared name =>
    refine hR.invoke ?_
    intro _ _ hanswer
    simp only [bind, Except.bind, throw, throwThe, MonadExceptOf.throw] at hanswer
    split at hanswer
    · cases hanswer
    · split at hanswer
      · cases hanswer
      · exact hR.openObject hanswer
  | unlinkShared name =>
    obtain ⟨names, hk⟩ := unlinkShared_alike name k
    exact hR.trans (hR.books k k.files k.descriptors names) (hR.alike hk)
  | makePipe =>
    refine hR.invoke ?_
    intro _ _ hanswer
    simp only [bind, Except.bind, pure, Except.pure] at hanswer
    split at hanswer
    · cases hanswer
    · rename_i hreader
      split at hanswer
      · cases hanswer
      · rename_i hwriter
        cases hanswer
        exact hR.trans (hR.openNew rfl hreader) (hR.openObject hwriter)
  | reopen d access =>
    refine hR.invoke ?_
    intro _ _ hanswer
    split at hanswer
    · cases hanswer
    · exact hR.openObject hanswer
  | duplicate d =>
    refine hR.invoke ?_
    intro _ _ hanswer
    split at hanswer
    · cases hanswer
    · exact hR.install hanswer
  | markCloseOnExec d => exact hR.alike (markCloseOnExec_alike d k)
  | close d =>
    refine hR.trans ?_ (hR.alike (close_alike d k))
    unfold Kernel.forget
    split
    · exact hR.books k k.files _ k.names
    · exact hR.alike (.refl k)
  | queryAccess d => exact hR.alike (queryAccess_reports d k).alike
  | queryLength d => exact hR.alike (queryLength_reports d k).alike
  | querySeals d => exact hR.alike (querySeals_reports d k).alike
  | compareFiles a b => exact hR.alike (compareFiles_alike a b k)
  | setLength | writeAt | addSeals | map | unmap | store => cases h

end Bookkeeping

private theorem extends_bookkeeping : Bookkeeping Extends where
  alike h := (Extends.refl _).alike h
  trans := .trans
  books k _ _ _ := (Extends.refl k).congr rfl rfl
  object k _ ho := .addObject k ho

private theorem extends_perform {op : Operation} (h : op.touches = false) (k : Kernel) :
    Extends k (op.perform k) := extends_bookkeeping.perform h k

theorem sameMemory_perform {op : Operation} (h : op.touches = false) (k : Kernel) :
    SameMemory k (op.perform k) := (extends_perform h k).toSameMemory

theorem extends_of_call {α : Type} {k k' : Kernel} {call : Kernel → Option α × Kernel}
    {outcome : Option α} (op : Operation) (htouches : op.touches = false)
    (hcall : call k = (outcome, k')) (hperform : op.perform k = (call k).2) : Extends k k' := by
  have hextends := extends_perform htouches k
  rw [hperform, hcall] at hextends
  exact hextends

/-- At most one object becomes what the operation can make of it, and nothing else changes. -/
def Modifies (k : Kernel) (op : Operation) (k' : Kernel) : Prop :=
  k.Alike k' ∨ ∃ id f, Becomes k op id (f (k.object id)) ∧ (k.modifyObject id f).Alike k'

namespace Modifies

variable {k k' : Kernel} {op : Operation} {id : ObjectId}

theorem mappings (h : Modifies k op k') : k'.mappings = k.mappings := by
  rcases h with ⟨_, _, rfl⟩ | ⟨_, _, _, _, _, rfl⟩
  · rfl
  · rfl

theorem knowsFutureWrite (h : Modifies k op k') :
    k'.knowsFutureWrite = k.knowsFutureWrite := by
  rcases h with ⟨_, _, rfl⟩ | ⟨_, _, _, _, _, rfl⟩
  · rfl
  · rfl

theorem object (h : Modifies k op k') (hid : id < k.objects.length) :
    Becomes k op id (k'.object id) := by
  rcases h with hk | ⟨other, f, hbecomes, hk⟩
  · rw [hk.object]
    exact .same
  · rw [hk.object]
    by_cases heq : other = id
    · subst heq
      rw [object_modifyObject k other other f hid, if_pos rfl]
      exact hbecomes
    · rw [object_modifyObject_ne k (Ne.symm heq)]
      exact .same

theorem of_call {α : Type} {call : Call} {answer : Kernel → Except Errno (α × Kernel)}
    (h : ∀ x k', invoke call answer k = (some x, k') → Modifies k op k') :
    Modifies k op (invoke call answer k).2 := by
  cases hcall : invoke call answer k with
  | mk outcome k' =>
    cases outcome with
    | none => exact .inl (invoke_none hcall)
    | some x => exact h x k' hcall

end Modifies

section Perform

variable {k : Kernel} {id : ObjectId}

theorem setLength_modifies (d : Descriptor) (length : Int) (k : Kernel) :
    Modifies k (.setLength d length) (Kernel.setLength d length k).2 := by
  refine .of_call ?_
  intro _ k' hcall
  obtain ⟨n, file, -, -, -, -, hshrink, hgrow, hk⟩ := setLength_some hcall
  have hkept : n < (k.object file.object).length →
      (k.object file.object).seals.shrink = false := by
    intro hlt
    apply Bool.eq_false_iff.mpr
    intro hs
    have hle := hshrink hs
    omega
  have hbounded : (k.object file.object).length < n →
      (k.object file.object).seals.grow = false := by
    intro hlt
    apply Bool.eq_false_iff.mpr
    intro hg
    have hle := hgrow hg
    omega
  exact .inr ⟨file.object, _, .resized n hkept hbounded, hk⟩

theorem writeAt_modifies (d : Descriptor) (position : Nat) (data : List UInt8) (k : Kernel) :
    Modifies k (.writeAt d position data) (Kernel.writeAt d position data k).2 := by
  refine .of_call ?_
  intro _ k' hcall
  obtain ⟨file, -, hk | ⟨written, -, hwrites, hgrow, hk⟩⟩ := writeAt_some hcall
  · exact .inl hk
  · exact .inr ⟨file.object, _, .written position written hwrites hgrow, hk⟩

theorem addSeals_modifies (d : Descriptor) (mask : Nat) (k : Kernel) :
    Modifies k (.addSeals d mask) (Kernel.addSeals d mask k).2 := by
  refine .of_call ?_
  intro _ k' hcall
  obtain ⟨file, asked, -, -, -, -, hopened, -, hk⟩ := addSeals_some hcall
  exact .inr ⟨file.object, _, .sealed asked.withImplied hopened, hk⟩

theorem store_modifies (mapping : MappingId) (position : Nat) (data : List UInt8) (k : Kernel) :
    Modifies k (.store mapping position data) (Kernel.store mapping position data k) := by
  rcases store_cases mapping position data k with hk | ⟨m, hlive, hw, hk⟩
  · rw [hk]
    exact .inl (.refl k)
  · rw [hk]
    exact .inr ⟨m.object, _, .stored mapping position data m rfl hlive hw rfl, .refl _⟩

theorem perform_object (op : Operation) (hid : id < k.objects.length) :
    Becomes k op id ((op.perform k).object id) := by
  cases htouches : op.touches with
  | false =>
    rw [(sameMemory_perform htouches k).object hid]
    exact .same
  | true =>
    cases op with
    | setLength d length => exact (setLength_modifies d length k).object hid
    | writeAt d position data => exact (writeAt_modifies d position data k).object hid
    | addSeals d mask => exact (addSeals_modifies d mask k).object hid
    | map d offset length p =>
      obtain ⟨_, hk⟩ := map_mappings d offset length p k
      change Becomes k _ id ((Kernel.map d offset length p k).2.object id)
      rw [hk.object]
      exact .same
    | unmap mapping =>
      obtain ⟨_, hk⟩ := unmap_mappings mapping k
      change Becomes k _ id ((Kernel.unmap mapping k).2.object id)
      rw [hk.object]
      exact .same
    | store mapping position data => exact (store_modifies mapping position data k).object hid
    | _ => cases htouches

/-- A writable mapping that is there after an operation was there before, or its object does not
refuse writes. -/
theorem perform_mapping (op : Operation) {mapping : MappingId} {m : Mapping}
    (h : (op.perform k).mappings.get? mapping = some m) (hw : m.writable = true) :
    k.mappings.get? mapping = some m ∨ (k.object m.object).seals.blocksWrites = false := by
  have hsame : (op.perform k).mappings = k.mappings → k.mappings.get? mapping = some m :=
    fun hsame => hsame ▸ h
  cases htouches : op.touches with
  | false => exact .inl (hsame (sameMemory_perform htouches k).mappings)
  | true =>
    cases op with
    | setLength d length => exact .inl (hsame (setLength_modifies d length k).mappings)
    | writeAt d position data => exact .inl (hsame (writeAt_modifies d position data k).mappings)
    | addSeals d mask => exact .inl (hsame (addSeals_modifies d mask k).mappings)
    | map d offset length p =>
      change (Kernel.map d offset length p k).2.mappings.get? mapping = some m at h
      cases hcall : Kernel.map d offset length p k with
      | mk outcome k' =>
        rw [hcall] at h
        cases outcome with
        | none =>
          obtain ⟨_, _, rfl⟩ := invoke_none hcall
          exact .inl h
        | some x =>
          obtain ⟨file, -, -, hpermits, -, _, _, rfl⟩ := map_some hcall
          have h : (k.mappings.insert ⟨file.object, offset, length, p.write⟩).2.get? mapping =
              some m := h
          rw [Registry.get?_insert] at h
          split at h
          · cases h
            exact .inr (hpermits.write hw).2
          · exact .inl h
    | unmap other =>
      change (Kernel.unmap other k).2.mappings.get? mapping = some m at h
      obtain ⟨_, _, hk⟩ | ⟨_, _, hk⟩ := unmap_cases other k
      · rw [hk] at h
        exact .inl h
      · rw [hk] at h
        have h : (k.mappings.erase other).get? mapping = some m := h
        rw [Registry.get?_erase] at h
        split at h
        · cases h
        · exact .inl h
    | store other position data =>
      exact .inl (hsame (store_modifies other position data k).mappings)
    | _ => cases htouches

end Perform

end Kernel

end SharedMemory

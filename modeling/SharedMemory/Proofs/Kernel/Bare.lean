import SharedMemory.Proofs.Calling
/-!
# Memory without its descriptors

What the system is like if descriptors, seals and records are forgotten: the objects with their
lengths and bytes, the mappings, the names, and the random numbers to come. Apart from allocation,
the operations of a backing leave all of this as it is.
-/
namespace SharedMemory

/-- The object without its seals. -/
def Object.unsealed (o : Object) : Object := { o with seals := {} }

namespace Kernel

/-- The kernel without descriptors, seals and the calls on record. -/
def bare (k : Kernel) : Kernel :=
  { k with
    objects := k.objects.map Object.unsealed, files := [], descriptors := {}, lastError := ⟨0⟩,
    history := [] }

variable {k k' : Kernel} {d : Descriptor} {op : Operation}

@[simp] theorem bare_mappings (k : Kernel) : k.bare.mappings = k.mappings := rfl

@[simp] theorem bare_names (k : Kernel) : k.bare.names = k.names := rfl

@[simp] theorem length_bare_objects (k : Kernel) : k.bare.objects.length = k.objects.length :=
  List.length_map Object.unsealed

private theorem bare_object (k : Kernel) (id : ObjectId) :
    k.bare.object id = (k.object id).unsealed := by
  simp only [object, bare, List.getD_eq_getElem?_getD, List.getElem?_map]
  cases k.objects[id]? with
  | none => rfl
  | some o => rfl

@[simp] theorem bare_object_content (k : Kernel) (id : ObjectId) :
    (k.bare.object id).content = (k.object id).content := by
  rw [bare_object]
  rfl

@[simp] theorem bare_object_length (k : Kernel) (id : ObjectId) :
    (k.bare.object id).length = (k.object id).length := by
  rw [bare_object]
  rfl

theorem Alike.bare (h : k.Alike k') : k'.bare = k.bare := by
  obtain ⟨_, _, rfl⟩ := h
  rfl

theorem Installs.bare {id : FileId} (h : Installs d id k k') : k'.bare = k.bare := by
  obtain ⟨_, rfl⟩ := h.rest
  rfl

@[simp] theorem bare_forget (k : Kernel) (d : Descriptor) : (k.forget d).bare = k.bare := by
  unfold forget
  split
  · rfl
  · rfl

/-- What a change does to an object without its seals, it does to the bare kernel. -/
theorem bare_modifyObject {f g : Object → Object} (hf : ∀ o, (f o).unsealed = g o.unsealed)
    (k : Kernel) (id : ObjectId) : (k.modifyObject id f).bare = k.bare.modifyObject id g := by
  have hobjects : (k.objects.modify id f).map Object.unsealed =
      (k.objects.map Object.unsealed).modify id g := by
    apply List.ext_getElem?
    intro n
    simp only [List.getElem?_map, List.getElem?_modify]
    split <;> cases k.objects[n]? <;> simp [hf]
  simp only [bare, modifyObject, hobjects]

theorem bare_withSeals (k : Kernel) (id : ObjectId) (extra : Seals) :
    (k.modifyObject id (·.withSeals extra)).bare = k.bare := by
  have hsame : ∀ o : Object, (o.withSeals extra).unsealed = o.unsealed := fun _ => rfl
  refine (bare_modifyObject (g := fun o => o) hsame k id).trans ?_
  exact congrArg (fun objects => { k.bare with objects }) (List.modify_id id _)

theorem perform_bare (h : op.keepsBytes = true) (k : Kernel) : (op.perform k).bare = k.bare := by
  cases op with
  | duplicate d =>
    cases hcall : Kernel.duplicate d k with
    | mk outcome k' =>
      change (Kernel.duplicate d k).2.bare = k.bare
      rw [hcall]
      cases outcome with
      | none => exact (invoke_none hcall).bare
      | some e =>
        obtain ⟨id, k₁, -, hinstall, halike⟩ := duplicate_some hcall
        exact halike.bare.trans hinstall.bare
  | close d => exact (close_alike d k).bare.trans (bare_forget k d)
  | queryAccess d => exact (queryAccess_reports d k).alike.bare
  | queryLength d => exact (queryLength_reports d k).alike.bare
  | querySeals d => exact (querySeals_reports d k).alike.bare
  | addSeals d mask =>
    cases hcall : Kernel.addSeals d mask k with
    | mk outcome k' =>
      change (Kernel.addSeals d mask k).2.bare = k.bare
      rw [hcall]
      cases outcome with
      | none => exact (invoke_none hcall).bare
      | some x =>
        obtain ⟨file, asked, -, -, -, -, -, -, halike⟩ := addSeals_some hcall
        exact halike.bare.trans (bare_withSeals k file.object _)
  | _ => cases h

@[simp] theorem bare_load (k : Kernel) (id : MappingId) (position count : Nat) :
    k.bare.load id position count = k.load id position count := by
  unfold load
  rw [bare_mappings]
  split
  · rfl
  · rw [bare_object]
    rfl

theorem bare_store (k : Kernel) (id : MappingId) (position : Nat) (data : List UInt8) :
    (k.store id position data).bare = k.bare.store id position data := by
  unfold store
  rw [bare_mappings]
  cases k.mappings.get? id with
  | none => rfl
  | some m =>
    dsimp only
    split
    · have hoverwrite : ∀ o : Object, (o.overwrite (m.offset + position) data).unsealed =
          o.unsealed.overwrite (m.offset + position) data := fun _ => rfl
      exact bare_modifyObject hoverwrite k m.object
    · rfl

/-- All objects that were there have the lengths and the bytes that they had. Those that are new are
all zero, like objects that are not there. -/
structure SameBytes (k k' : Kernel) : Prop where
  objects : k.objects.length ≤ k'.objects.length
  content : ∀ o, (k'.object o).content = (k.object o).content
  length : ∀ o < k.objects.length, (k'.object o).length = (k.object o).length

namespace SameBytes

variable {k₁ : Kernel}

theorem of_objects (h : k'.objects = k.objects) : SameBytes k k' := by
  have hobject : ∀ o, k'.object o = k.object o := fun o => by rw [object, object, h]
  exact ⟨Nat.le_of_eq (congrArg List.length h).symm, fun o => by rw [hobject],
    fun o _ => by rw [hobject]⟩

theorem trans (h : SameBytes k k₁) (h' : SameBytes k₁ k') : SameBytes k k' where
  objects := Nat.le_trans h.objects h'.objects
  content o := (h'.content o).trans (h.content o)
  length o ho := (h'.length o (Nat.lt_of_lt_of_le ho h.objects)).trans (h.length o ho)

theorem of_bare (h : k'.bare = k.bare) : SameBytes k k' where
  objects := Nat.le_of_eq (by rw [← length_bare_objects k, ← length_bare_objects k', h])
  content o := by rw [← bare_object_content, h, bare_object_content]
  length o _ := by rw [← bare_object_length, h, bare_object_length]

end SameBytes

theorem Extends.sameBytes (h : Extends k k') : SameBytes k k' :=
  ⟨h.objects.length_le, h.content, fun _ ho => by rw [h.object ho]⟩

end Kernel

open Kernel

/-- The system without descriptors, seals and records. Of the supply of names only the numbers
that it draws from are kept. -/
def System.bare (s : System) : System where
  kernel := s.kernel.bare
  guids := s.guids
  names := ⟨s.names.draw, 0⟩

namespace Effect

theorem bare_closed : Closed Operation.keepsBytes fun s s' => s'.bare = s.bare where
  refl _ := rfl
  trans h h' := h'.trans h
  perform s op hop := by
    simp only [System.bare, perform_bare hop]
  journal _ _ := rfl

theorem sameBytes_closed : Closed Operation.keepsBytes fun s s' =>
    SameBytes s.kernel s'.kernel ∧ s'.kernel.mappings = s.kernel.mappings where
  refl _ := ⟨.of_objects rfl, rfl⟩
  trans h h' := ⟨h.1.trans h'.1, h'.2.trans h.2⟩
  perform s op hop := by
    have hbare := perform_bare hop s.kernel
    have hmappings : (op.perform s.kernel).bare.mappings = s.kernel.mappings := by rw [hbare]; rfl
    exact ⟨.of_bare hbare, hmappings⟩
  journal _ _ := ⟨.of_objects rfl, rfl⟩

theorem sameMemory_closed : Closed Operation.keepsObjects fun s s' =>
    SameMemory s.kernel s'.kernel where
  refl s := .refl s.kernel
  trans h h' := h.trans h'
  perform s op hop := sameMemory_perform (by cases op <;> first | rfl | cases hop) s.kernel
  journal s _ := .refl s.kernel

end Effect

end SharedMemory

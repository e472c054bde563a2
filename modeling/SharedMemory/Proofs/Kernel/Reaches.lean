import SharedMemory.Proofs.Kernel.Operations
/-!
# What lasts under all operations

Seals are lasting: whatever operations follow one another, an object keeps its seals, one that may
not shrink stays as long as it is, and one that may not grow does not grow. An object that is
frozen keeps its length, gets no new writable mapping, and its bytes change only by stores through
the writable mappings that it already has. Which seals the kernel knows stays the same as well.
-/
namespace SharedMemory

/-- What operations can make of an object in the course of time. -/
structure Object.Evolves (o o' : Object) : Prop where
  kind : o'.kind = o.kind
  seals : o.seals.Subset o'.seals
  closed : o.seals.closed = true → o'.seals = o.seals
  shrink : o.seals.shrink = true → o.length ≤ o'.length
  grow : o.seals.grow = true → o'.length ≤ o.length

/-- Neither the length nor the bytes can be changed through descriptors. -/
structure Object.Frozen (o : Object) : Prop where
  kind : o.kind = .memory
  shrink : o.seals.shrink = true
  grow : o.seals.grow = true
  writes : o.seals.blocksWrites = true

namespace Object

variable {o o' o'' : Object}

theorem Evolves.refl (o : Object) : o.Evolves o :=
  ⟨rfl, .refl _, fun _ => rfl, fun _ => Nat.le_refl _, fun _ => Nat.le_refl _⟩

theorem Evolves.trans (h : o.Evolves o') (h' : o'.Evolves o'') : o.Evolves o'' := by
  refine ⟨h'.kind.trans h.kind, h.seals.trans h'.seals, fun hc => ?_, fun hs => ?_, fun hg => ?_⟩
  · exact (h'.closed (h.seals.closed hc)).trans (h.closed hc)
  · exact Nat.le_trans (h.shrink hs) (h'.shrink (h.seals.shrink hs))
  · exact Nat.le_trans (h'.grow (h.seals.grow hg)) (h.grow hg)

/-- An object that may neither shrink nor grow keeps its length. -/
theorem Evolves.length (h : o.Evolves o') (hs : o.seals.shrink = true)
    (hg : o.seals.grow = true) : o'.length = o.length :=
  Nat.le_antisymm (h.grow hg) (h.shrink hs)

theorem Frozen.evolves (hf : o.Frozen) (h : o.Evolves o') : o'.Frozen :=
  ⟨h.kind.trans hf.kind, h.seals.shrink hf.shrink, h.seals.grow hf.grow,
    h.seals.blocksWrites hf.writes⟩

end Object

namespace Kernel

variable {k k₁ k' : Kernel} {op : Operation} {id : ObjectId} {o : Object}

theorem Becomes.evolves (h : Becomes k op id o) : (k.object id).Evolves o := by
  cases h with
  | same => exact .refl _
  | resized n shrinks grows =>
    refine ⟨rfl, .refl _, fun _ => rfl, ?_, ?_⟩
    · intro hs
      apply Nat.le_of_not_lt
      intro hlt
      simp only [shrinks hlt, Bool.false_eq_true] at hs
    · intro hg
      apply Nat.le_of_not_lt
      intro hlt
      simp only [grows hlt, Bool.false_eq_true] at hg
  | written position data _ grows =>
    split
    · rename_i hlt
      refine ⟨rfl, .refl _, fun _ => rfl, fun _ => Nat.le_of_lt hlt, ?_⟩
      intro hg
      simp only [grows hlt, Bool.false_eq_true] at hg
    · exact ⟨rfl, .refl _, fun _ => rfl, fun _ => Nat.le_refl _, fun _ => Nat.le_refl _⟩
  | sealed extra opened =>
    refine ⟨rfl, .union_right _ _, ?_, fun _ => Nat.le_refl _, fun _ => Nat.le_refl _⟩
    intro hc
    simp only [opened, Bool.false_eq_true] at hc
  | stored => exact ⟨rfl, .refl _, fun _ => rfl, fun _ => Nat.le_refl _, fun _ => Nat.le_refl _⟩

/-- A byte of a frozen object changes only by a store through a live writable mapping of it. -/
theorem Becomes.content (h : Becomes k op id o) (hf : (k.object id).Frozen) {p : Nat}
    (hp : p < (k.object id).length) (hne : o.content p ≠ (k.object id).content p) :
    ∃ mapping m, op.through? = some mapping ∧ k.mappings.get? mapping = some m ∧
      m.writable = true ∧ m.object = id := by
  have hlength := h.evolves.length hf.shrink hf.grow
  cases h with
  | same => exact absurd rfl hne
  | resized n _ _ =>
    have hpn : p < n := Nat.lt_of_lt_of_eq hp hlength.symm
    exact absurd (if_pos hpn) hne
  | written _ _ writes _ => simp only [hf.writes, Bool.true_eq_false] at writes
  | sealed => exact absurd rfl hne
  | stored mapping position data m isStore live writable object =>
    exact ⟨mapping, m, by rw [isStore]; rfl, live, writable, object⟩

private theorem knowsFutureWrite_bookkeeping :
    Bookkeeping fun k k' => k'.knowsFutureWrite = k.knowsFutureWrite where
  alike h := h.knowsFutureWrite
  trans h h' := h'.trans h
  books _ _ _ _ := rfl
  object _ _ _ := rfl

private theorem perform_knowsFutureWrite (op : Operation) (k : Kernel) :
    (op.perform k).knowsFutureWrite = k.knowsFutureWrite := by
  cases htouches : op.touches with
  | false => exact knowsFutureWrite_bookkeeping.perform htouches k
  | true =>
    cases op with
    | setLength d length => exact (setLength_modifies d length k).knowsFutureWrite
    | writeAt d position data => exact (writeAt_modifies d position data k).knowsFutureWrite
    | addSeals d mask => exact (addSeals_modifies d mask k).knowsFutureWrite
    | map d offset length p =>
      obtain ⟨_, hk⟩ := map_mappings d offset length p k
      exact hk.knowsFutureWrite
    | unmap mapping =>
      obtain ⟨_, hk⟩ := unmap_mappings mapping k
      exact hk.knowsFutureWrite
    | store mapping position data => exact (store_modifies mapping position data k).knowsFutureWrite
    | _ => cases htouches

/-- A state that operations lead to, in which all stores go through mappings of the given kind. -/
inductive Reaches (through : MappingId → Prop) (k : Kernel) : Kernel → Prop where
  | refl : Reaches through k k
  | step {k₁ : Kernel} (op : Operation) (within : ∀ mapping, op.through? = some mapping →
      through mapping) : Reaches through k k₁ → Reaches through k (op.perform k₁)

namespace Reaches

variable {through through' : MappingId → Prop}

theorem perform (op : Operation) (h : ∀ mapping, op.through? = some mapping → through mapping)
    (k : Kernel) : Reaches through k (op.perform k) := .step op h .refl

theorem mono (h : Reaches through k k') (hle : ∀ mapping, through mapping → through' mapping) :
    Reaches through' k k' := by
  induction h with
  | refl => exact .refl
  | step op within _ ih => exact .step op (fun mapping hm => hle mapping (within mapping hm)) ih

theorem trans (h : Reaches through k k₁) (h' : Reaches through k₁ k') : Reaches through k k' := by
  induction h' with
  | refl => exact h
  | step op within _ ih => exact .step op within ih

theorem knowsFutureWrite (h : Reaches through k k') :
    k'.knowsFutureWrite = k.knowsFutureWrite := by
  induction h with
  | refl => rfl
  | step op _ _ ih => exact (perform_knowsFutureWrite op _).trans ih

theorem evolves (h : Reaches through k k') (hkind : (k.object id).kind = .memory) :
    (k.object id).Evolves (k'.object id) := by
  induction h with
  | refl => exact .refl _
  | step op _ _ ih =>
    exact ih.trans (perform_object op (lt_of_kind_memory (ih.kind.trans hkind))).evolves

variable (hf : (k.object id).Frozen)
include hf

/-- The writable mappings of a frozen object only become fewer. -/
theorem writable (h : Reaches through k k') {mapping : MappingId} {m : Mapping}
    (hm : k'.mappings.get? mapping = some m) (hw : m.writable = true) (ho : m.object = id) :
    k.mappings.get? mapping = some m := by
  induction h with
  | refl => exact hm
  | step op _ hreach ih =>
    rcases perform_mapping op hm hw with hold | hnew
    · exact ih hold
    · have hfrozen := hf.evolves (hreach.evolves hf.kind)
      simp only [ho, hfrozen.writes, Bool.true_eq_false] at hnew

theorem content (h : Reaches through k k') {p : Nat} (hp : p < (k.object id).length)
    (hne : (k'.object id).content p ≠ (k.object id).content p) :
    ∃ mapping m, through mapping ∧ k.mappings.get? mapping = some m ∧ m.writable = true ∧
      m.object = id := by
  induction h with
  | refl => exact absurd rfl hne
  | @step k₁ op within hreach ih =>
    by_cases hchanged : (k₁.object id).content p = (k.object id).content p
    · rw [← hchanged] at hne
      have hevolves := hreach.evolves hf.kind
      have hfrozen := hf.evolves hevolves
      have hp₁ : p < (k₁.object id).length := hevolves.length hf.shrink hf.grow ▸ hp
      obtain ⟨mapping, m, hthrough, hm, hw, ho⟩ :=
        (perform_object op (lt_of_kind_memory hfrozen.kind)).content hfrozen hp₁ hne
      exact ⟨mapping, m, within mapping hthrough, hreach.writable hf hm hw ho, hw, ho⟩
    · exact ih hchanged

end Reaches

end Kernel

end SharedMemory

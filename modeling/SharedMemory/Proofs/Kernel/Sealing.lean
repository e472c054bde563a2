import SharedMemory.Kernel.Object
/-!
# Further seals

Seals are only ever added: a set that is contained in another has none that the other has not, so
what a seal forbids stays forbidden. Two objects have one shape if they differ in their bytes
alone.
-/
namespace SharedMemory

namespace Seals

variable {a b c : Seals}

namespace Subset

theorem refl (a : Seals) : a.Subset a := by
  simp only [Subset, union, Bool.or_self]

theorem trans (h : a.Subset b) (h' : b.Subset c) : a.Subset c := by
  unfold Subset at h h' ⊢
  rw [← h', ← h]
  simp only [union, ← Bool.or_assoc, Bool.or_self]

theorem union_right (a b : Seals) : a.Subset (a.union b) := by
  simp only [Subset, union, ← Bool.or_assoc, Bool.or_self]

theorem union_left (a b : Seals) : b.Subset (a.union b) := by
  simp only [Subset, union, Bool.or_left_comm, Bool.or_self]

theorem closed (h : a.Subset b) (ha : a.closed = true) : b.closed = true := by
  rw [← h, union, ha, Bool.true_or]

theorem shrink (h : a.Subset b) (ha : a.shrink = true) : b.shrink = true := by
  rw [← h, union, ha, Bool.true_or]

theorem grow (h : a.Subset b) (ha : a.grow = true) : b.grow = true := by
  rw [← h, union, ha, Bool.true_or]

theorem write (h : a.Subset b) (ha : a.write = true) : b.write = true := by
  rw [← h, union, ha, Bool.true_or]

theorem futureWrite (h : a.Subset b) (ha : a.futureWrite = true) : b.futureWrite = true := by
  rw [← h, union, ha, Bool.true_or]

theorem blocksWrites (h : a.Subset b) (ha : a.blocksWrites = true) : b.blocksWrites = true := by
  unfold Seals.blocksWrites at ha ⊢
  rw [Bool.or_eq_true] at ha ⊢
  exact ha.imp h.write h.futureWrite

end Subset

end Seals

namespace Object

/-- The object with further seals. -/
def withSeals (o : Object) (extra : Seals) : Object := { o with seals := o.seals.union extra }

structure SameShape (o o' : Object) : Prop where
  kind : o'.kind = o.kind
  length : o'.length = o.length
  seals : o'.seals = o.seals

/-- One shape, but that seals may have been added while the seal set was open. -/
structure Sealing (o o' : Object) : Prop where
  kind : o'.kind = o.kind
  length : o'.length = o.length
  seals : o.seals.Subset o'.seals
  closed : o.seals.closed = true → o'.seals = o.seals

theorem SameShape.refl (o : Object) : o.SameShape o := ⟨rfl, rfl, rfl⟩

theorem SameShape.sealing {o o' : Object} (h : o.SameShape o') : o.Sealing o' :=
  ⟨h.kind, h.length, h.seals ▸ .refl _, fun _ => h.seals⟩

theorem Sealing.trans {o o' o'' : Object} (h : o.Sealing o') (h' : o'.Sealing o'') :
    o.Sealing o'' := by
  refine ⟨h'.kind.trans h.kind, h'.length.trans h.length, h.seals.trans h'.seals, fun hc => ?_⟩
  have hsame := h.closed hc
  exact (h'.closed (hsame ▸ hc)).trans hsame

theorem sealing_withSeals {o : Object} (hopen : o.seals.closed = false) (extra : Seals) :
    o.Sealing (o.withSeals extra) :=
  ⟨rfl, rfl, .union_right _ _, fun hc => nomatch hopen.symm.trans hc⟩

end Object

end SharedMemory

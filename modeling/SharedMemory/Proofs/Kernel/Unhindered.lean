import SharedMemory.Proofs.Kernel.Bare
/-!
# A kernel that refuses only what it must

Where there is neither a plan nor a limit, a call is refused only for what its arguments refer to,
or for a seal that is not known. Here each call that a backing makes is said to succeed where it
does, and what it does is said of the memory without descriptors and seals.
-/
namespace SharedMemory

namespace Kernel

/-- The kernel has neither a plan nor a limit. -/
structure Generous (k : Kernel) : Prop where
  obliging : k.Obliging
  limit : k.limit = none

/-- The kernel refuses no call but for what the call refers to, and it knows all seals. -/
structure Unhindered (k : Kernel) : Prop where
  obliging : k.Obliging
  limit : k.limit = none
  knowsFutureWrite : k.knowsFutureWrite = true

variable {k k₁ k' : Kernel} {d : Descriptor}

namespace Generous

theorem alike (hg : k.Generous) (h : k.Alike k') : k'.Generous := by
  obtain ⟨_, _, rfl⟩ := h
  exact ⟨hg.obliging, hg.limit⟩

theorem withNames (hg : k.Generous) (names : List (String × ObjectId)) :
    ({ k with names } : Kernel).Generous := ⟨hg.obliging, hg.limit⟩

theorem atLimit (hg : k.Generous) : k.atLimit = false := by
  rw [Kernel.atLimit, hg.limit]
  rfl

theorem install (hg : k.Generous) (id : FileId) :
    Kernel.install id k = .ok (⟨k.descriptors.free⟩,
      { k with descriptors := (k.descriptors.insert id).2 }) := by
  rw [Kernel.install, hg.atLimit]
  rfl

theorem openObject (hg : k.Generous) (object : ObjectId) (access : Access) :
    ∃ d k', Kernel.openObject object access k = .ok (d, k') ∧ k'.Generous := by
  have hfiles : ({ k with files := k.files ++ [⟨object, access⟩] } : Kernel).Generous :=
    ⟨hg.obliging, hg.limit⟩
  exact ⟨_, _, hfiles.install _, hg.obliging, hg.limit⟩

theorem createMemory (hg : k.Generous) (sealing : Bool) :
    ∃ d k', Kernel.createMemory sealing k = (some d, k') ∧ k'.Generous := by
  have hobjects : ({ k with objects := k.objects ++ [.memory sealing] } : Kernel).Generous :=
    ⟨hg.obliging, hg.limit⟩
  obtain ⟨d, k₁, hopen, hg₁⟩ := hobjects.openObject k.objects.length .readWrite
  obtain ⟨k', hcall, halike⟩ : ∃ k', Kernel.createMemory sealing k = (some d, k') ∧ k₁.Alike k' :=
    invoke_of_answer hg.obliging hopen
  exact ⟨d, k', hcall, hg₁.alike halike⟩

theorem createShared (hg : k.Generous) {name : String} (hname : k.names.lookup name = none) :
    ∃ d k', Kernel.createShared name k = (some d, k') ∧ k'.Generous := by
  have hobjects : ({ k with
      objects := k.objects ++ [.memory false],
      names := (name, k.objects.length) :: k.names } : Kernel).Generous :=
    ⟨hg.obliging, hg.limit⟩
  obtain ⟨d, k₁, hopen, hg₁⟩ := hobjects.openObject k.objects.length .readWrite
  obtain ⟨k', hcall, halike⟩ : ∃ k', Kernel.createShared name k = (some d, k') ∧ k₁.Alike k' := by
    refine invoke_of_answer hg.obliging ?_
    simp only [hg.atLimit, hname, Option.isSome_none, Bool.false_eq_true, if_false]
    exact hopen
  exact ⟨d, k', hcall, hg₁.alike halike⟩

theorem openShared (hg : k.Generous) {name : String} {id : ObjectId}
    (hname : k.names.lookup name = some id) :
    ∃ d k', Kernel.openShared name k = (some d, k') ∧ k'.Generous := by
  obtain ⟨d, k₁, hopen, hg₁⟩ := hg.openObject id .read
  obtain ⟨k', hcall, halike⟩ : ∃ k', Kernel.openShared name k = (some d, k') ∧ k₁.Alike k' := by
    refine invoke_of_answer hg.obliging ?_
    simp only [hg.atLimit, hname, Bool.false_eq_true, if_false]
    exact hopen
  exact ⟨d, k', hcall, hg₁.alike halike⟩

theorem unlinkShared (hg : k.Generous) {name : String} {id : ObjectId}
    (hname : k.names.lookup name = some id) :
    ∃ k', Kernel.unlinkShared name k = (some (), k') ∧
      ({ k with names := k.names.filter (·.1 != name) } : Kernel).Alike k' := by
  refine invoke_of_answer hg.obliging ?_
  simp only [hname, Option.isSome_some, if_true]

theorem markCloseOnExec (hg : k.Generous) (hopen : k.IsOpen d) :
    ∃ k', Kernel.markCloseOnExec d k = (some (), k') ∧ k.Alike k' := by
  obtain ⟨file, hfile⟩ := hopen
  refine invoke_of_answer hg.obliging ?_
  rw [onFile_of_file? hfile]

theorem unmap (hg : k.Generous) (id : MappingId) :
    ∃ k', Kernel.unmap id k = (some (), k') ∧
      ({ k with mappings := k.mappings.erase id } : Kernel).Alike k' :=
  invoke_of_answer hg.obliging rfl

theorem modifyObject (hg : k.Generous) (id : ObjectId) (f : Object → Object) :
    (k.modifyObject id f).Generous := ⟨hg.obliging, hg.limit⟩

theorem setLength_new (hg : k.Generous) {o : ObjectId} {sealing : Bool}
    (hfile : k.file? d = some ⟨o, .readWrite⟩) (hobject : k.object o = .memory sealing)
    (length : Nat) : ∃ k', Kernel.setLength d length k = (some (), k') ∧ k'.Generous ∧
      (k.modifyObject o (·.resize length)).Alike k' := by
  obtain ⟨k', hcall, halike⟩ := setLength_of_file? (n := length) hg.obliging hfile rfl
    (by rw [hobject]; rfl) (fun _ => by rw [hobject]; rfl) fun _ => by rw [hobject]; rfl
  exact ⟨k', hcall, (hg.modifyObject o _).alike halike, halike⟩

theorem setLength_negative (hg : k.Generous) (d : Descriptor) {length : Int}
    (hlength : length < 0) :
    ∃ k', Kernel.setLength d length k = (none, k') ∧ k.Alike k' ∧
      k'.lastError = .invalidArgument := by
  cases length with
  | ofNat n => exact absurd hlength (Int.not_lt.mpr (Int.natCast_nonneg n))
  | negSucc n => exact invoke_of_error hg.obliging rfl

end Generous

theorem Unhindered.generous (hu : k.Unhindered) : k.Generous := ⟨hu.obliging, hu.limit⟩

/-- The kernel with another object, which is all zero. -/
def grow (k : Kernel) (length : Nat) : Kernel :=
  { k with objects := k.objects ++ [{ kind := .memory, length }] }

theorem createMemory_bare {sealing : Bool} (h : createMemory sealing k = (some d, k')) :
    k'.bare = k.bare.grow 0 := by
  obtain ⟨k₁, hinstalls, halike⟩ := createMemory_some h
  rw [halike.bare, hinstalls.bare]
  simp only [bare, grow, List.map_append]
  rfl

theorem createShared_bare {name : String} (h : createShared name k = (some d, k')) :
    k'.bare = { k.bare.grow 0 with names := (name, k.objects.length) :: k.names } := by
  obtain ⟨k₁, hinstalls, halike⟩ := createShared_some h
  rw [halike.bare, hinstalls.bare]
  simp only [bare, grow, List.map_append]
  rfl

theorem openShared_bare {name : String} (h : openShared name k = (some d, k')) :
    k'.bare = k.bare := by
  obtain ⟨_, k₁, -, hinstalls, halike⟩ := openShared_some h
  rw [halike.bare, hinstalls.bare]
  rfl

theorem grow_resize (k : Kernel) (length : Nat) :
    (k.grow 0).modifyObject k.objects.length (·.resize length) = k.grow length := by
  have hblank : ({ kind := .memory, length := 0 } : Object).resize length =
      { kind := .memory, length } := by
    simp only [Object.resize, ite_self]
  have hlength : (k.objects ++ [({ kind := .memory } : Object)]).length = k.objects.length + 1 := by
    simp only [List.length_append, List.length_singleton]
  have hlt : k.objects.length < (k.objects ++ [({ kind := .memory } : Object)]).length :=
    Nat.lt_of_lt_of_eq (Nat.lt_add_one _) hlength.symm
  have hdrop : (k.objects ++ [({ kind := .memory } : Object)]).drop (k.objects.length + 1) = [] :=
    List.drop_eq_nil_of_le (Nat.le_of_eq hlength)
  simp only [grow, modifyObject, List.modify_eq_take_cons_drop hlt, List.take_left',
    List.getElem_concat_length, hdrop, hblank]

theorem bare_resize (k : Kernel) (id : ObjectId) (length : Nat) :
    (k.modifyObject id (·.resize length)).bare = k.bare.modifyObject id (·.resize length) := by
  have hresize : ∀ o : Object, (o.resize length).unsealed = o.unsealed.resize length :=
    fun _ => rfl
  exact bare_modifyObject hresize k id

end Kernel

end SharedMemory

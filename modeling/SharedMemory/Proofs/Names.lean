import SharedMemory.Proofs.Careful
import SharedMemory.Proofs.Complete
import SharedMemory.Session.Slots
/-!
# The names that allocation uses

A descriptor pair is allocated under a name drawn at random, and the name is removed before
anything is made of the outcome. So whichever calls failed, the name denotes nothing afterwards, and
all other names denote what they did. If the name was free, then the names are as they were. If it
was in use, it is taken away from those who use it by an allocation that fails.
-/
namespace SharedMemory

namespace Kernel

variable {k k₁ k' : Kernel} {d : Descriptor} {name : String}

/-- The kernel turns no removal of a name down for reasons of its own. -/
def Unlinks (k : Kernel) : Prop := ∀ history name, k.refusal history (.unlinkShared name) = none

/-- Operations that make no difference to the names. -/
def Operation.keepsNames : Operation → Bool
  | .setLength .. | .close .. => true
  | _ => false

/-- The names and the plan of refusals are as before. -/
structure SameNames (k k' : Kernel) : Prop where
  names : k'.names = k.names
  refusal : k'.refusal = k.refusal

/-- All names but one denote what they did, and the plan of refusals is as before. -/
structure SparesNames (name : String) (k k' : Kernel) : Prop where
  lookup : ∀ other, other ≠ name → k'.names.lookup other = k.names.lookup other
  refusal : k'.refusal = k.refusal

/-- One name denotes nothing any more, and all others denote what they did. -/
structure Forgets (name : String) (k k' : Kernel) : Prop where
  gone : k'.names.lookup name = none
  others : ∀ other, other ≠ name → k'.names.lookup other = k.names.lookup other

namespace SameNames

theorem refl (k : Kernel) : SameNames k k := ⟨rfl, rfl⟩

theorem trans (h : SameNames k k₁) (h' : SameNames k₁ k') : SameNames k k' :=
  ⟨h'.names.trans h.names, h'.refusal.trans h.refusal⟩

theorem forget (k : Kernel) (d : Descriptor) : SameNames k (k.forget d) := by
  unfold Kernel.forget
  split
  · exact ⟨rfl, rfl⟩
  · exact ⟨rfl, rfl⟩

theorem spares (h : SameNames k k') (name : String) : SparesNames name k k' :=
  ⟨fun _ _ => by rw [h.names], h.refusal⟩

end SameNames

private theorem Alike.sameNames (h : k.Alike k') : SameNames k k' := by
  obtain ⟨_, _, rfl⟩ := h
  exact ⟨rfl, rfl⟩

private theorem Installs.sameNames {id : FileId} (h : Installs d id k k') : SameNames k k' := by
  obtain ⟨_, rfl⟩ := h.rest
  exact ⟨rfl, rfl⟩

theorem SparesNames.trans (h : SparesNames name k k₁) (h' : SparesNames name k₁ k') :
    SparesNames name k k' :=
  ⟨fun other hne => (h'.lookup other hne).trans (h.lookup other hne),
    h'.refusal.trans h.refusal⟩

private theorem SparesNames.unlinks (h : SparesNames name k k') (hu : k.Unlinks) : k'.Unlinks := by
  unfold Unlinks
  rw [h.refusal]
  exact hu

private theorem Forgets.sameNames (h : Forgets name k k₁) (h' : SameNames k₁ k') :
    Forgets name k k' := by
  refine ⟨?_, ?_⟩
  · rw [h'.names]
    exact h.gone
  · rw [h'.names]
    exact h.others

private theorem SparesNames.forgets (h : SparesNames name k k₁) (h' : Forgets name k₁ k') :
    Forgets name k k' :=
  ⟨h'.gone, fun other hne => (h'.others other hne).trans (h.lookup other hne)⟩

private theorem Forgets.lookup_iff (h : Forgets name k k') :
    (∀ other, k'.names.lookup other = k.names.lookup other) ↔ k.names.lookup name = none := by
  constructor
  · intro hsame
    rw [← hsame]
    exact h.gone
  · intro hfree other
    by_cases hother : other = name
    · rw [hother, h.gone, hfree]
    · exact h.others other hother

private theorem createShared_spares (name : String) (k : Kernel) :
    SparesNames name k (createShared name k).2 := by
  cases hcall : createShared name k with
  | mk outcome k' =>
    cases outcome with
    | none => exact (invoke_none hcall).sameNames.spares name
    | some fd =>
      obtain ⟨k₁, hinstalls, halike⟩ := createShared_some hcall
      have hsame := hinstalls.sameNames.trans halike.sameNames
      refine ⟨fun other hne => ?_, hsame.refusal⟩
      rw [hsame.names, List.lookup_cons, beq_false_of_ne hne]

private theorem free_of_createShared (h : createShared name k = (some d, k')) :
    k.names.lookup name = none := by
  obtain ⟨k₁, hanswer, -⟩ := invoke_some h
  cases hname : k.names.lookup name with
  | none => rfl
  | some id =>
    simp only [bind, Except.bind, throw, throwThe, MonadExceptOf.throw, hname, Option.isSome_some,
      if_true] at hanswer
    split at hanswer
    · cases hanswer
    · cases hanswer

private theorem openShared_sameNames (name : String) (k : Kernel) :
    SameNames k (openShared name k).2 := by
  cases hcall : openShared name k with
  | mk outcome k' =>
    cases outcome with
    | none => exact (invoke_none hcall).sameNames
    | some fd =>
      obtain ⟨_, k₁, -, hinstalls, halike⟩ := openShared_some hcall
      have hsame := hinstalls.sameNames.trans halike.sameNames
      exact ⟨hsame.names, hsame.refusal⟩

private theorem setLength_sameNames (d : Descriptor) (length : Int) (k : Kernel) :
    SameNames k (setLength d length k).2 := by
  cases hcall : setLength d length k with
  | mk outcome k' =>
    cases outcome with
    | none => exact (invoke_none hcall).sameNames
    | some _ =>
      obtain ⟨_, _, -, -, -, -, -, -, halike⟩ := setLength_some hcall
      exact ⟨halike.sameNames.names, halike.sameNames.refusal⟩

private theorem unlinkShared_forgets (hu : k.Unlinks) (name : String) :
    Forgets name k (unlinkShared name k).2 := by
  unfold unlinkShared invoke
  rw [hu]
  dsimp only
  split
  · rename_i hanswer
    split at hanswer
    · cases hanswer
    · rename_i hfree
      exact ⟨Option.not_isSome_iff_eq_none.mp hfree, fun _ _ => rfl⟩
  · rename_i hanswer
    split at hanswer
    · cases hanswer
      refine ⟨(Slots.lookup_filter k.names name name).trans (if_pos rfl), fun other hne => ?_⟩
      exact (Slots.lookup_filter k.names name other).trans (if_neg hne)
    · cases hanswer

end Kernel

namespace DescriptorPair

open Kernel Effect

variable {k k₀ : Kernel} {name : String}

private theorem unlink_forgets (hspares : SparesNames name k₀ k) (hu : k₀.Unlinks) :
    (unlink name).Yields k fun _ k' => Forgets name k₀ k' := by
  have hforgets := hspares.forgets (unlinkShared_forgets (hspares.unlinks hu) name)
  refine .bind (.attempt (fun _ k' hcall => ?_) fun k' hcall => ?_)
  · rw [hcall] at hforgets
    exact .pure hforgets
  · rw [hcall] at hforgets
    exact .record hforgets

private theorem openMarked_names {call : Kernel → Option Descriptor × Kernel} (k : Kernel) :
    (openMarked call).Yields k fun outcome k' => SameNames (call k).2 k' ∧
      ∀ d, outcome = .ok d → ∃ k₁, call k = (some d, k₁) := by
  refine openMarked_yields (fun d k₁ k' hcall halike => ?_) (fun d k₁ k' e hcall halike => ?_)
    fun k' hcall => ?_
  · rw [hcall]
    refine ⟨halike.sameNames, ?_⟩
    rintro _ ⟨⟩
    exact ⟨k₁, rfl⟩
  · rw [hcall]
    exact ⟨(SameNames.forget k₁ d).trans halike.sameNames, nofun⟩
  · rw [hcall]
    exact ⟨.refl k', nofun⟩

private theorem names_closed : Closed Operation.keepsNames
    fun s s' => SameNames s.kernel s'.kernel where
  refl s := .refl s.kernel
  trans h h' := h.trans h'
  perform s op hop := by
    cases op with
    | setLength d length => exact setLength_sameNames d length s.kernel
    | close d => exact (SameNames.forget s.kernel d).trans (close_alike d s.kernel).sameNames
    | _ => cases hop
  journal s _ := .refl s.kernel

private theorem sized_names (h : DescriptorPair) (size : Nat) (k : Kernel) :
    (h.sized size).Yields k fun _ k' => SameNames k k' := by
  rintro s rfl
  exact sized_within names_closed (fun _ => rfl) (fun _ _ => rfl) h size s

/-- The name that is drawn is forgotten, and an allocation under a name in use does not succeed. -/
private theorem allocate_forgets (mode : Mode) (size : Nat) {s : System} (hu : s.kernel.Unlinks) :
    (allocate mode size).Leads s fun outcome s' =>
      Forgets (objectName s.names.next) s.kernel s'.kernel ∧
        ∀ h, outcome = .ok h → s.kernel.names.lookup (objectName s.names.next) = none := by
  refine .bind (.freshName ?_)
  generalize objectName s.names.next = name
  refine .of_yields (Q := fun (outcome : Except Errno DescriptorPair) k' =>
    Forgets name s.kernel k' ∧ ∀ h, outcome = .ok h → s.kernel.names.lookup name = none) ?_
  refine .bind ((openMarked_names s.kernel).mono fun outcome k₁ hk₁ => ?_)
  obtain ⟨hsame, hcreated⟩ := hk₁
  have hspares : SparesNames name s.kernel k₁ :=
    (createShared_spares name s.kernel).trans (hsame.spares name)
  cases outcome with
  | error e => exact .bind ((unlink_forgets hspares hu).mono fun _ _ hk₂ => .pure ⟨hk₂, nofun⟩)
  | ok fd =>
    obtain ⟨k₀, hcreate⟩ := hcreated fd rfl
    have hfree := free_of_createShared hcreate
    have hsized : ∀ {k} (h : DescriptorPair), Forgets name s.kernel k →
        (h.sized size).Yields k fun outcome k' => Forgets name s.kernel k' ∧
          ∀ h, outcome = .ok h → s.kernel.names.lookup name = none := fun h hk =>
      (sized_names h size _).mono fun _ _ hk' => ⟨hk.sameNames hk', fun _ _ => hfree⟩
    dsimp only
    split
    · refine .bind ((openMarked_names k₁).mono fun spare k₂ hk₂ => ?_)
      have hopened := (openShared_sameNames name k₁).trans hk₂.1
      refine .bind ((unlink_forgets (hspares.trans (hopened.spares name)) hu).mono
        fun _ k₃ hk₃ => ?_)
      cases spare with
      | error e =>
        refine .bind (.closeDescriptor fun k₄ hk₄ => .pure ⟨hk₃.sameNames ?_, nofun⟩)
        exact (SameNames.forget k₃ fd).trans hk₄.sameNames
      | ok spare => exact hsized _ hk₃
    · exact .bind ((unlink_forgets hspares hu).mono fun _ k₂ hk₂ => hsized _ hk₂)

/-- As long as names that are there can be removed, whatever other calls the kernel turns down, an
allocation leaves the name it has drawn without an object and all other names with theirs, of which
nothing changes. So the names are as before exactly if that name was free. If it was in use, then
the allocation fails, and the name is the one thing that it changes. -/
theorem allocate_leaves_names (mode : Mode) (size : Nat) (s : System) (hu : s.kernel.Unlinks) :
    (allocate mode size).Leads s fun outcome s' =>
      Forgets (objectName s.names.next) s.kernel s'.kernel ∧ Extends s.kernel s'.kernel ∧
        ((∀ name, s'.kernel.names.lookup name = s.kernel.names.lookup name) ↔
          s.kernel.names.lookup (objectName s.names.next) = none) ∧
        (s.kernel.names.lookup (objectName s.names.next) ≠ none →
          (∃ e, outcome = .error e) ∧ Untouched s.kernel s'.kernel) := by
  refine ((allocate_forgets mode size hu).and
    (.of_yields (CarefulBacking.allocate (H := DescriptorPair) mode size s.kernel))).mono ?_
  intro outcome s' hs'
  obtain ⟨⟨hforgets, hfree⟩, hextends, hfailed⟩ := hs'
  refine ⟨hforgets, hextends, hforgets.lookup_iff, fun hused => ?_⟩
  cases outcome with
  | error e => exact ⟨⟨e, rfl⟩, hfailed e rfl⟩
  | ok h => exact absurd (hfree h rfl) hused

/-- Someone's object has the name that is drawn next. -/
def collidingSystem : System where
  kernel := {
    objects := [.memory false], names := [(objectName ((default : Supply).draw 0), 0)] }

theorem allocate_leaves_names_of_collision :
    collidingSystem.kernel.Unlinks ∧
      Forgets (objectName collidingSystem.names.next) collidingSystem.kernel
        ((allocate .writable 4096).run collidingSystem).2.kernel ∧
      (∃ e, ((allocate .writable 4096).run collidingSystem).1 = .error e) ∧
      Untouched collidingSystem.kernel
        ((allocate .writable 4096).run collidingSystem).2.kernel := by
  have hu : collidingSystem.kernel.Unlinks := fun _ _ => rfl
  obtain ⟨hforgets, -, -, hused⟩ := allocate_leaves_names .writable 4096 collidingSystem hu
  exact ⟨hu, hforgets, hused (by decide +kernel)⟩

/-- The allocation fails because the name is in use, and nevertheless it takes the name away. -/
theorem not_names_kept_of_collision :
    collidingSystem.kernel.Unlinks ∧
      ((allocate .writable 4096).run collidingSystem).1 = .error .alreadyExists ∧
      collidingSystem.kernel.names.lookup (objectName collidingSystem.names.next) = some 0 ∧
      ((allocate .writable 4096).run collidingSystem).2.kernel.names.lookup
        (objectName collidingSystem.names.next) = none :=
  ⟨fun _ _ => rfl, rfl, by decide +kernel, by decide +kernel⟩

end DescriptorPair

end SharedMemory

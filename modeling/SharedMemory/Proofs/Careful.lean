import SharedMemory.Proofs.Backing.DescriptorPair
import SharedMemory.Proofs.Backing.SealedFile
import SharedMemory.Proofs.Kernel.Bare
import SharedMemory.Proofs.Window
/-!
# Operations that fail

Whichever of its system calls fails, an operation of a backing, a region or a window that fails
leaves no trace in the kernel: every descriptor refers to what it referred to, and objects and
mappings are what they were. What an operation opened before, it closes again.
-/
namespace SharedMemory

namespace Kernel

/-- Every descriptor refers to what it referred to, and memory is the same. -/
structure Untouched (k k' : Kernel) : Prop extends SameMemory k k' where
  fileId? (d : Descriptor) : k'.fileId? d = k.fileId? d
  files : k.files <+: k'.files

variable {k k₁ k₂ k' : Kernel} {d : Descriptor}

theorem Untouched.refl (k : Kernel) : Untouched k k := ⟨.refl k, fun _ => rfl, List.prefix_rfl⟩

private theorem Alike.untouched (h : k.Alike k') : Untouched k k' := by
  obtain ⟨_, _, rfl⟩ := h
  exact ⟨⟨rfl, List.prefix_rfl⟩, fun _ => rfl, List.prefix_rfl⟩

private theorem Shift.untouched (h : Shift [] [] [] k k') (hm : SameMemory k k') : Untouched k k' :=
  ⟨hm, fun d => h.fileId? d List.not_mem_nil List.not_mem_nil, h.files⟩

private theorem Installs.undone {id : FileId} (hi : Installs d id k k₁) (h₁ : k₁.Alike k₂)
    (h₂ : (k₂.forget d).Alike k') : Untouched k k' := by
  have hextends := ((((Extends.refl k).installs hi).alike h₁).forget d).alike h₂
  refine ⟨hextends.toSameMemory, fun e => ?_, ?_⟩
  · rw [h₂.fileId?, fileId?_forget, h₁.fileId?, hi.fileId?]
    by_cases heq : e = d
    · rw [if_pos heq, heq, hi.vacant]
    · rw [if_neg heq, if_neg heq]
  · obtain ⟨_, rfl⟩ := hi.rest
    obtain ⟨_, _, rfl⟩ := h₁
    obtain ⟨_, _, rfl⟩ := h₂
    simp only [files_forget, List.prefix_rfl]

end Kernel

open Kernel Effect

/-- A backing whose operations leave no trace when they fail. -/
class CarefulBacking (H : Type) [Backing H] : Prop where
  allocate (mode : Mode) (size : Nat) (k : Kernel) :
    (Backing.allocate (H := H) mode size).Yields k fun outcome k' =>
      Extends k k' ∧ ∀ e, outcome = .error e → Untouched k k'
  duplicate (h : H) (k : Kernel) : (Backing.duplicate h).Yields k fun outcome k' =>
    ∀ e, outcome = .error e → Untouched k k'
  toReadOnly (h : H) (k : Kernel) : (Backing.toReadOnly h).Yields k fun outcome k' =>
    ∀ e, outcome = .error e → Untouched k k'
  toShared (h : H) (k : Kernel) : (Backing.toShared h).Yields k fun outcome k' =>
    ∀ e, outcome = .error e → Untouched k k'
  release (h : H) (k : Kernel) : (Backing.release h).Yields k fun _ k' =>
    Shift (Backing.descriptors h) [] [] k k'
  corresponds (h : H) (mode : Mode) (size : Nat) (k : Kernel) :
    (Backing.corresponds h mode size).Yields k fun _ k' => k.Alike k'

namespace SealedFile

theorem duplicate_careful (h : SealedFile) (k : Kernel) :
    h.duplicate.Yields k fun outcome k' => ∀ e, outcome = .error e → Untouched k k' := by
  refine .bind (.attempt (fun fd k' _ => .pure fun e he => nomatch he) fun k' hcall => ?_)
  exact .pure fun _ _ => (invoke_none hcall).untouched

instance : CarefulBacking SealedFile where
  allocate mode size k := (allocate_yields mode size k).mono fun outcome k' hk' => by
    obtain ⟨hextends, houtcome⟩ := hk'
    refine ⟨hextends, ?_⟩
    rintro e rfl
    exact houtcome.untouched hextends.toSameMemory
  duplicate := duplicate_careful
  toReadOnly h k := (toReadOnly_yields h k).mono fun outcome k' hk' => by
    rintro e rfl
    exact hk'.untouched
  toShared h k := (toShared_yields h k).mono fun outcome k' hk' => by
    rintro e rfl
    exact hk'.untouched
  release := release_yields
  corresponds h mode size k := (corresponds_yields h mode size k).mono fun _ _ hk' => hk'.1

end SealedFile

namespace DescriptorPair

theorem duplicate_careful (h : DescriptorPair) (k : Kernel) :
    h.duplicate.Yields k fun outcome k' => ∀ e, outcome = .error e → Untouched k k' := by
  obtain ⟨fd, spare⟩ := h
  cases spare with
  | none =>
    refine .bind (.attempt (fun fd k' _ => .pure fun e he => nomatch he) fun k' hcall => ?_)
    exact .pure fun _ _ => (invoke_none hcall).untouched
  | some spare =>
    refine .bind (.attempt (fun copy k₁ hcall => ?_) fun k' hcall =>
      .pure fun _ _ => (invoke_none hcall).untouched)
    obtain ⟨id, k₀, -, hinstalls, halike⟩ := duplicate_some hcall
    refine .bind (.attempt (fun fd k' _ => .pure fun e he => nomatch he) fun k₂ hcall₂ => ?_)
    exact .bind (.closeDescriptor fun k' hk' => .pure fun _ _ =>
      hinstalls.undone (halike.trans (invoke_none hcall₂)) hk')

instance : CarefulBacking DescriptorPair where
  allocate mode size k := (allocate_yields mode size k).mono fun outcome k' hk' => by
    obtain ⟨hextends, houtcome⟩ := hk'
    refine ⟨hextends, ?_⟩
    rintro e rfl
    exact houtcome.untouched hextends.toSameMemory
  duplicate := duplicate_careful
  toReadOnly h k := (toReadOnly_yields h k).mono fun outcome k' hk' => by
    rintro e rfl
    obtain ⟨-, -, rfl⟩ := hk'
    exact .refl k'
  toShared h k := (toShared_yields h k).mono fun outcome k' hk' => by
    rintro e rfl
    cases hk'.1
  release := release_yields
  corresponds h mode size k := (corresponds_yields h mode size k).mono fun _ _ hk' => hk'.1

end DescriptorPair

variable {H : Type} [Backing H]

namespace Region

section

variable [CarefulBacking H]

theorem Downgrade.native_careful (goal : Downgrade) (h : H) (k : Kernel) :
    ((goal.conversion (H := H)).native h).Yields k fun outcome k' =>
      ∀ e, outcome = .error e → Untouched k k' := by
  cases goal with
  | readOnly => exact CarefulBacking.toReadOnly h k
  | shared => exact CarefulBacking.toShared h k

theorem create_careful (mode : Mode) (size : Nat) (layout : Layout) (k : Kernel) :
    (create (H := H) mode size layout).Yields k fun outcome k' =>
      Extends k k' ∧ ∀ e, outcome = .error e → Untouched k k' := by
  have hnothing : ∀ {outcome : Except Failure (Region H)},
      Extends k k ∧ ∀ e, outcome = .error e → Untouched k k := ⟨.refl k, fun _ _ => .refl k⟩
  unfold create
  split
  · exact .pure hnothing
  · split
    · exact .pure hnothing
    · split
      · exact .pure hnothing
      · rename_i allocated _
        refine .bind ((CarefulBacking.allocate mode allocated k).mono ?_)
        intro outcome k' hk'
        obtain ⟨hextends, hfailed⟩ := hk'
        cases outcome with
        | error e => exact .bind (.record (.pure ⟨hextends, fun _ _ => hfailed e rfl⟩))
        | ok h =>
          exact .bind (.freshGuid fun _ => .bind (.record (.pure ⟨hextends, nofun⟩)))

theorem convert_careful (r : Region H) (goal : Downgrade) (k : Kernel) :
    (r.convert goal.conversion).Yields k fun outcome k' =>
      ∀ e, outcome = .error e → Untouched k k' := by
  refine .convert (fun _ _ _ => .refl k) (fun _ _ _ _ _ => .refl k) fun h _ _ => ?_
  refine (goal.native_careful h k).mono ?_
  intro outcome k' hfailed
  cases outcome with
  | error e => exact fun _ _ => hfailed e rfl
  | ok h' => exact nofun

theorem duplicate_careful (r : Region H) (k : Kernel) :
    r.duplicate.Yields k fun outcome k' => ∀ e, outcome = .error e → Untouched k k' := by
  unfold duplicate
  split
  · exact .pure fun _ _ => .refl k
  · split
    · exact .pure fun _ _ => .refl k
    · refine .bind ((CarefulBacking.duplicate _ k).mono ?_)
      intro outcome k' hfailed
      cases outcome with
      | error e => exact .bind (.record (.pure fun _ _ => hfailed e rfl))
      | ok h => exact .pure nofun

/-- A handle that is not accepted is closed, and nothing else is. -/
theorem take_careful (h : H) (header : Header) (k : Kernel) :
    (take h header).Yields k fun outcome k' =>
      ∀ e, outcome = .error e → Shift (Backing.descriptors h) [] [] k k' := by
  unfold take
  split
  · exact .bind ((CarefulBacking.release h k).mono fun _ _ hk' => .pure fun _ _ => hk')
  · refine .bind ((CarefulBacking.corresponds h _ _ k).mono ?_)
    intro answer k₁ hk₁
    cases answer with
    | true => exact .pure nofun
    | false =>
      refine .bind ((CarefulBacking.release h k₁).mono ?_)
      intro _ k' hk'
      obtain ⟨_, _, rfl⟩ := hk₁
      exact .pure fun _ _ => ⟨hk'.fileId?, hk'.closed, hk'.vacant, hk'.opened, hk'.files,
        hk'.objects, hk'.sealing, hk'.shape⟩

end

end Region

namespace Window

theorem ofRequest_careful (request : WindowRequest H) (k : Kernel) :
    (ofRequest request).Yields k fun outcome k' => ∀ e, outcome = .error e → Untouched k k' := by
  refine (ofRequest_grants request k).mono ?_
  rintro outcome k' halike e rfl
  exact halike.untouched

theorem writeSlice_careful (w : Window) (data : List UInt8) (offset : Nat) (k : Kernel) :
    (w.writeSlice data offset).Yields k fun outcome k' =>
      ∀ e, outcome = .error e → Untouched k k' := by
  unfold writeSlice
  split
  · exact .pure fun _ _ => .refl k
  · split
    · exact .pure fun _ _ => .refl k
    · exact .bind ((put_yields w _ _ k).mono fun _ _ _ => .pure nofun)

theorem writeObject_careful {α : Type} (w : Window) (e : Encoding α) (value : α) (offset : Nat)
    (k : Kernel) : (w.writeObject e value offset).Yields k fun outcome k' =>
      ∀ e, outcome = .error e → Untouched k k' := by
  unfold writeObject
  split
  · exact .pure fun _ _ => .refl k
  · split
    · exact .pure fun _ _ => .refl k
    · exact .bind ((put_yields w _ _ k).mono fun _ _ _ => .pure nofun)

theorem readSlice_careful (w : Window) (buffer : List UInt8) (offset : Nat) (k : Kernel) :
    (w.readSlice buffer offset).Yields k fun _ k' => Untouched k k' := by
  rintro s rfl
  rw [readSlice_looks]
  exact .refl s.kernel

theorem readObject_careful {α : Type} (w : Window) (e : Encoding α) (offset : Nat) (k : Kernel) :
    (w.readObject e offset).Yields k fun _ k' => Untouched k k' := by
  rintro s rfl
  rw [readObject_looks]
  exact .refl s.kernel

end Window

end SharedMemory

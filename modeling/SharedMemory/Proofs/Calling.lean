import SharedMemory.Backing.DescriptorPair
import SharedMemory.Backing.SealedFile
import SharedMemory.Proofs.Kernel.Reaches
import SharedMemory.Proofs.Region
import SharedMemory.Window.Object
/-!
# What the library does to the kernel

All that the operations of backings, regions and windows do to the kernel they do by system calls,
so that whatever lasts under all operations of the kernel lasts under them as well. Only writing
through a window stores bytes, and it stores them through the mapping of that window. Apart from
allocation, the operations of a backing make no objects, and they change none but for its seals.
-/
namespace SharedMemory

open Kernel

/-- The operations that change nothing. -/
def Kernel.Operation.looks : Operation → Bool
  | .queryAccess .. | .queryLength .. | .querySeals .. => true
  | _ => false

/-- The operations that change nothing but descriptors. -/
def Kernel.Operation.keepsObjects : Operation → Bool
  | .duplicate .. | .close .. | .queryAccess .. | .queryLength .. | .querySeals .. => true
  | _ => false

/-- The operations that change nothing but descriptors and seals. -/
def Kernel.Operation.keepsBytes (op : Operation) : Bool :=
  match op with
  | .addSeals .. => true
  | _ => op.keepsObjects

namespace Effect

/-- A relation of systems that holds across the operations of a kind and across records. -/
structure Closed (ops : Operation → Bool) (R : System → System → Prop) : Prop where
  refl (s : System) : R s s
  trans {s s' s'' : System} : R s s' → R s' s'' → R s s''
  perform (s : System) {op : Operation} :
    ops op = true → R s { s with kernel := op.perform s.kernel }
  journal (s : System) (journal : List Record) : R s { s with journal }

/-- The effect leads from a system to none but those related to it. -/
def Within {α : Type} (R : System → System → Prop) (a : Effect α) : Prop := ∀ s, R s (a.run s).2

/-- The effect makes system calls and stores nothing. -/
def Calls {α : Type} (a : Effect α) : Prop :=
  ∀ s : System, Reaches (fun _ => False) s.kernel (a.run s).2.kernel

variable {α β : Type}

theorem Leads.of_within {a : Effect α} {R : System → System → Prop} {s : System}
    (h : Within R a) : a.Leads s fun _ s' => R s s' := h s

namespace Closed

variable {ops ops' : Operation → Bool} {R : System → System → Prop}

theorem mono (hR : Closed ops R) (hle : ∀ op, ops' op = true → ops op = true) : Closed ops' R :=
  { hR with perform := fun s op hop => hR.perform s (hle op hop) }

theorem objects (hR : Closed Operation.keepsBytes R) : Closed Operation.keepsObjects R :=
  hR.mono fun op hop => by
    cases op with
    | addSeals => rfl
    | _ => exact hop

theorem looks (hR : Closed Operation.keepsObjects R) : Closed Operation.looks R :=
  hR.mono fun op hop => by
    cases op with
    | queryAccess | queryLength | querySeals => rfl
    | _ => cases hop

variable (hR : Closed ops R)
include hR

theorem pure (x : α) : Within R (pure x : Effect α) := hR.refl

theorem bind {a : Effect α} {f : α → Effect β} (ha : Within R a) (hf : ∀ x, Within R (f x)) :
    Within R (a >>= f) := fun s => hR.trans (ha s) (hf _ _)

theorem attempt {call : Kernel → Option α × Kernel} (op : Operation) (hop : ops op = true)
    (hcall : ∀ k, op.perform k = (call k).2) : Within R (attempt call) := by
  intro s
  have hperform := hR.perform s hop
  rw [hcall] at hperform
  exact hperform

theorem record (level : Level) (target text : String) : Within R (record level target text) :=
  fun s => hR.journal s _

theorem look {a : Effect α} (h : ∀ s, (a.run s).2 = s) : Within R a := by
  intro s
  rw [h]
  exact hR.refl s

theorem closeDescriptor (d : Descriptor) (hop : ops (.close d) = true) :
    Within R (Backing.closeDescriptor d) :=
  hR.bind (hR.attempt (.close d) hop fun _ => rfl) fun _ => hR.pure ()

end Closed

private theorem calls_closed : Closed (fun op => op.through?.isNone)
    fun s s' => Reaches (fun _ => False) s.kernel s'.kernel where
  refl _ := .refl
  trans h h' := h.trans h'
  perform s op hop :=
    .perform op (fun _ hm => nomatch (Option.isNone_iff_eq_none.mp hop).symm.trans hm) s.kernel
  journal _ _ := .refl

theorem calls_closed_keepsBytes : Closed Operation.keepsBytes
    fun s s' => Reaches (fun _ => False) s.kernel s'.kernel :=
  calls_closed.mono fun op hop => by
    cases op with
    | store => cases hop
    | _ => rfl

namespace Calls

theorem pure (x : α) : Calls (pure x : Effect α) := calls_closed.pure x

theorem bind {a : Effect α} {f : α → Effect β} (ha : a.Calls) (hf : ∀ x, (f x).Calls) :
    (a >>= f).Calls := calls_closed.bind ha hf

theorem attempt {call : Kernel → Option α × Kernel} (op : Operation)
    (hcall : ∀ k, op.perform k = (call k).2) (hnone : op.through?.isNone = true) :
    (attempt call).Calls := calls_closed.attempt op hnone hcall

theorem record (level : Level) (target text : String) : (record level target text).Calls :=
  calls_closed.record level target text

theorem freshGuid : freshGuid.Calls := fun _ => .refl

theorem freshName : freshName.Calls := fun _ => .refl

theorem closeDescriptor (d : Descriptor) : (Backing.closeDescriptor d).Calls :=
  calls_closed.closeDescriptor d rfl

end Calls

end Effect

open Effect in
/-- A backing that makes objects in allocations only, and changes none but by adding seals in
conversions. -/
class ModestBacking (H : Type) [Backing H] : Prop where
  duplicate {R : System → System → Prop} (h : H) : Closed Operation.keepsObjects R →
    Within R (Backing.duplicate h)
  corresponds {R : System → System → Prop} (h : H) (mode : Mode) (size : Nat) :
    Closed Operation.keepsObjects R → Within R (Backing.corresponds h mode size)
  release {R : System → System → Prop} (h : H) : Closed Operation.keepsObjects R →
    Within R (Backing.release h)
  toReadOnly {R : System → System → Prop} (h : H) : Closed Operation.keepsBytes R →
    Within R (Backing.toReadOnly h)
  toShared {R : System → System → Prop} (h : H) : Closed Operation.keepsBytes R →
    Within R (Backing.toShared h)

/-- A backing that works by system calls alone. -/
class CallingBacking (H : Type) [Backing H] : Prop where
  allocate (mode : Mode) (size : Nat) : (Backing.allocate (H := H) mode size).Calls
  duplicate (h : H) : (Backing.duplicate h).Calls
  toReadOnly (h : H) : (Backing.toReadOnly h).Calls
  toShared (h : H) : (Backing.toShared h).Calls
  corresponds (h : H) (mode : Mode) (size : Nat) : (Backing.corresponds h mode size).Calls
  release (h : H) : (Backing.release h).Calls

namespace SealedFile

open Effect

section

variable {ops : Operation → Bool} {R : System → System → Prop} (hR : Closed ops R)
  (hops : ∀ d mask, ops (.addSeals d mask) = true)
include hR hops

theorem addSeals_within (d : Descriptor) (seals : Seals) :
    Within R (SealedFile.addSeals d seals) :=
  hR.attempt (.addSeals d seals.mask) (hops _ _) fun _ => rfl

theorem toReadOnly_within (h : SealedFile) : Within R h.toReadOnly := by
  have hseals := addSeals_within hR hops
  refine hR.bind (hseals _ _) ?_
  intro outcome
  cases outcome with
  | ok x => exact hR.bind (hR.pure _) fun _ => hR.pure _
  | error e =>
    dsimp only
    split
    · exact hR.bind (hR.record _ _ _) fun _ => hR.bind (hseals _ _) fun _ => hR.pure _
    · exact hR.bind (hR.pure _) fun _ => hR.pure _

theorem toShared_within (h : SealedFile) : Within R h.toShared :=
  hR.bind (addSeals_within hR hops _ _) fun _ => hR.pure _

end

variable {R : System → System → Prop}

theorem duplicate_within (hR : Closed Operation.keepsObjects R) (h : SealedFile) :
    Within R h.duplicate := by
  refine hR.bind (hR.attempt (.duplicate h.fd) rfl fun _ => rfl) ?_
  intro outcome
  cases outcome with
  | error e => exact hR.pure _
  | ok fd => exact hR.pure _

theorem corresponds_within (hR : Closed Operation.looks R) (h : SealedFile) (mode : Mode)
    (size : Nat) : Within R (h.corresponds mode size) := by
  refine hR.bind (hR.attempt (.queryAccess h.fd) rfl fun _ => rfl) ?_
  intro access
  refine hR.bind (hR.attempt (.querySeals h.fd) rfl fun _ => rfl) ?_
  intro seals
  refine hR.bind (hR.attempt (.queryLength h.fd) rfl fun _ => rfl) ?_
  intro length
  split
  · split
    · exact hR.bind (hR.record _ _ _) fun _ => hR.pure _
    · split
      · exact hR.pure _
      · exact hR.bind (hR.record _ _ _) fun _ => hR.pure _
  · exact hR.bind (hR.record _ _ _) fun _ => hR.pure _

instance : ModestBacking SealedFile where
  duplicate h hR := duplicate_within hR h
  corresponds h mode size hR := corresponds_within hR.looks h mode size
  release h hR := hR.closeDescriptor h.fd rfl
  toReadOnly h hR := toReadOnly_within hR (fun _ _ => rfl) h
  toShared h hR := toShared_within hR (fun _ _ => rfl) h

section

variable {ops : Operation → Bool} (hR : Closed ops R)
  (hops : ∀ op, op.through? = none → ops op = true)
include hR hops

private theorem orClose_within {step : Effect (Except Errno Unit)} (d : Descriptor)
    (h : Within R step) : Within R (orClose d step) := by
  refine hR.bind h ?_
  intro outcome
  cases outcome with
  | ok x => exact hR.pure _
  | error e => exact hR.bind (hR.closeDescriptor d (hops _ rfl)) fun _ => hR.pure _

theorem allocate_within (mode : Mode) (size : Nat) : Within R (allocate mode size) := by
  refine hR.bind (hR.attempt (.createMemory true) (hops _ rfl) fun _ => rfl) ?_
  intro outcome
  cases outcome with
  | error e => exact hR.pure _
  | ok fd =>
    have hlength : Within R (attempt (Kernel.setLength fd (signed size))) :=
      hR.attempt (.setLength fd (signed size)) (hops _ rfl) fun _ => rfl
    refine hR.bind (orClose_within hR hops fd hlength) ?_
    intro outcome
    cases outcome with
    | error e => exact hR.pure _
    | ok x =>
      have hseals := addSeals_within hR (fun _ _ => hops _ rfl) fd (initialSeals mode)
      refine hR.bind (orClose_within hR hops fd hseals) ?_
      intro outcome
      cases outcome with
      | error e => exact hR.pure _
      | ok x => exact hR.pure _

end

instance : CallingBacking SealedFile where
  allocate := allocate_within calls_closed fun _ hop => Option.isNone_iff_eq_none.mpr hop
  duplicate := duplicate_within calls_closed_keepsBytes.objects
  toReadOnly := toReadOnly_within calls_closed fun _ _ => rfl
  toShared := toShared_within calls_closed fun _ _ => rfl
  corresponds := corresponds_within calls_closed_keepsBytes.objects.looks
  release h := .closeDescriptor h.fd

end SealedFile

namespace DescriptorPair

open Effect

variable {R : System → System → Prop}

theorem duplicate_within (hR : Closed Operation.keepsObjects R) (h : DescriptorPair) :
    Within R h.duplicate := by
  have hduplicate : ∀ d, Within R (attempt (Kernel.duplicate d)) := fun d =>
    hR.attempt (.duplicate d) rfl fun _ => rfl
  unfold duplicate
  split
  · refine hR.bind (hduplicate _) ?_
    intro outcome
    cases outcome with
    | error e => exact hR.pure _
    | ok fd => exact hR.pure _
  · refine hR.bind (hduplicate _) ?_
    intro outcome
    cases outcome with
    | error e => exact hR.pure _
    | ok spare =>
      refine hR.bind (hduplicate _) ?_
      intro outcome
      cases outcome with
      | ok fd => exact hR.pure _
      | error e => exact hR.bind (hR.closeDescriptor spare rfl) fun _ => hR.pure _

private theorem spareCorresponds_within (hR : Closed Operation.looks R) (h : DescriptorPair)
    (mode : Mode) : Within R (h.spareCorresponds mode) := by
  unfold spareCorresponds
  split
  · rename_i spare _
    refine hR.bind (hR.attempt (.queryAccess spare) rfl fun _ => rfl) ?_
    intro outcome
    split
    · exact hR.pure _
    · exact hR.bind (hR.record _ _ _) fun _ => hR.pure _
  · exact hR.bind (hR.record _ _ _) fun _ => hR.pure _
  · exact hR.bind (hR.record _ _ _) fun _ => hR.pure _
  · exact hR.pure _

theorem corresponds_within (hR : Closed Operation.looks R) (h : DescriptorPair)
    (mode : Mode) (size : Nat) : Within R (h.corresponds mode size) := by
  refine hR.bind (hR.attempt (.queryAccess h.fd) rfl fun _ => rfl) ?_
  intro access
  refine hR.bind (hR.attempt (.queryLength h.fd) rfl fun _ => rfl) ?_
  intro length
  split
  · split
    · exact hR.bind (hR.record _ _ _) fun _ => hR.pure _
    · split
      · exact hR.bind (hR.record _ _ _) fun _ => hR.pure _
      · exact spareCorresponds_within hR h mode
  · exact hR.bind (hR.record _ _ _) fun _ => hR.pure _

theorem release_within (hR : Closed Operation.keepsObjects R) (h : DescriptorPair) :
    Within R h.release := by
  refine hR.bind (hR.closeDescriptor h.fd rfl) ?_
  intro _
  split
  · exact hR.closeDescriptor _ rfl
  · exact hR.pure _

theorem toReadOnly_within (hR : Closed Operation.keepsObjects R) (h : DescriptorPair) :
    Within R h.toReadOnly := by
  unfold DescriptorPair.toReadOnly
  split
  · exact hR.bind (hR.closeDescriptor h.fd rfl) fun _ => hR.pure _
  · exact hR.pure _

theorem toShared_within (hR : Closed Operation.keepsObjects R) (h : DescriptorPair) :
    Within R h.toShared := by
  unfold DescriptorPair.toShared
  split
  · exact hR.bind (hR.closeDescriptor _ rfl) fun _ => hR.pure _
  · exact hR.bind (hR.pure _) fun _ => hR.pure _

instance : ModestBacking DescriptorPair where
  duplicate h hR := duplicate_within hR h
  corresponds h mode size hR := corresponds_within hR.looks h mode size
  release h hR := release_within hR h
  toReadOnly h hR := toReadOnly_within hR.objects h
  toShared h hR := toShared_within hR.objects h

private theorem openMarked_calls {call : Kernel → Option Descriptor × Kernel}
    (h : (attempt call).Calls) : (openMarked call).Calls := by
  refine .bind h ?_
  intro outcome
  cases outcome with
  | error e => exact .pure _
  | ok d =>
    refine .bind (.attempt (.markCloseOnExec d) (fun _ => rfl) rfl) ?_
    intro outcome
    cases outcome with
    | ok x => exact .pure _
    | error e => exact .bind (.closeDescriptor d) fun _ => .pure _

private theorem unlink_calls (name : String) : (unlink name).Calls := by
  refine .bind (.attempt (.unlinkShared name) (fun _ => rfl) rfl) ?_
  intro outcome
  cases outcome with
  | ok x => exact .pure _
  | error e => exact .record _ _ _

theorem sized_within {ops : Operation → Bool} (hR : Closed ops R)
    (hclosing : ∀ d, ops (.close d) = true) (hsizing : ∀ d length, ops (.setLength d length) = true)
    (h : DescriptorPair) (size : Nat) : Within R (sized h size) := by
  have hlength : Within R (DescriptorPair.setLength h.fd size) := by
    unfold DescriptorPair.setLength
    split
    · exact hR.attempt (.setLength h.fd size) (hsizing _ _) fun _ => rfl
    · exact hR.pure _
  refine hR.bind hlength ?_
  intro outcome
  cases outcome with
  | ok x => exact hR.pure _
  | error e =>
    have hclose : Within R (do
        Backing.closeDescriptor h.fd
        return .error e : Effect (Except Errno DescriptorPair)) :=
      hR.bind (hR.closeDescriptor h.fd (hclosing _)) fun _ => hR.pure _
    dsimp only
    split
    · exact hR.bind (hR.closeDescriptor _ (hclosing _)) fun _ => hclose
    · exact hclose

theorem allocate_calls (mode : Mode) (size : Nat) : (allocate mode size).Calls := by
  have hsized : ∀ h : DescriptorPair, (sized h size).Calls := fun h =>
    sized_within calls_closed (fun _ => rfl) (fun _ _ => rfl) h size
  refine .bind .freshName ?_
  intro name
  refine .bind (openMarked_calls (.attempt (.createShared name) (fun _ => rfl) rfl)) ?_
  intro outcome
  cases outcome with
  | error e => exact .bind (unlink_calls name) fun _ => .pure _
  | ok fd =>
    dsimp only
    split
    · refine .bind (openMarked_calls (.attempt (.openShared name) (fun _ => rfl) rfl))
        fun spare => .bind (unlink_calls name) ?_
      intro _
      cases spare with
      | error e => exact .bind (.closeDescriptor fd) fun _ => .pure _
      | ok spare => exact hsized _
    · exact .bind (unlink_calls name) fun _ => hsized _

instance : CallingBacking DescriptorPair where
  allocate := allocate_calls
  duplicate := duplicate_within calls_closed_keepsBytes.objects
  toReadOnly := toReadOnly_within calls_closed_keepsBytes.objects
  toShared := toShared_within calls_closed_keepsBytes.objects
  corresponds := corresponds_within calls_closed_keepsBytes.objects.looks
  release := release_within calls_closed_keepsBytes.objects

end DescriptorPair

open Effect

variable {H : Type}

namespace Region

section

variable {R : System → System → Prop} [Backing H] [ModestBacking H]

theorem Downgrade.native_within (hR : Closed Operation.keepsBytes R) (goal : Downgrade) (h : H) :
    Within R ((goal.conversion (H := H)).native h) := by
  cases goal with
  | readOnly => exact ModestBacking.toReadOnly h hR
  | shared => exact ModestBacking.toShared h hR

theorem convert_within (hR : Closed Operation.keepsBytes R) (r : Region H) (goal : Downgrade) :
    Within R (r.convert goal.conversion) := by
  unfold convert
  split
  · exact hR.pure _
  · split
    · exact hR.pure _
    · refine hR.bind (goal.native_within hR _) ?_
      intro outcome
      cases outcome with
      | error e => exact hR.bind (hR.record _ _ _) fun _ => hR.pure _
      | ok h => exact hR.bind (hR.record _ _ _) fun _ => hR.pure _

theorem take_within (hR : Closed Operation.keepsObjects R) (handle : H) (header : Header) :
    Within R (take handle header) := by
  unfold take
  split
  · exact hR.bind (ModestBacking.release handle hR) fun _ => hR.pure _
  · refine hR.bind (ModestBacking.corresponds handle _ _ hR) ?_
    intro answer
    split
    · exact hR.pure _
    · exact hR.bind (ModestBacking.release handle hR) fun _ => hR.pure _

theorem release_within (hR : Closed Operation.keepsObjects R) (r : Region H) :
    Within R r.release := by
  unfold release
  split
  · exact hR.pure _
  · exact ModestBacking.release _ hR

theorem duplicate_within (hR : Closed Operation.keepsObjects R) (r : Region H) :
    Within R r.duplicate := by
  unfold duplicate
  split
  · exact hR.pure _
  · split
    · exact hR.pure _
    · refine hR.bind (ModestBacking.duplicate _ hR) ?_
      intro outcome
      cases outcome with
      | error e => exact hR.bind (hR.record _ _ _) fun _ => hR.pure _
      | ok h => exact hR.pure _

end

variable [Backing H] [CallingBacking H]

theorem create_calls (mode : Mode) (size : Nat) (layout : Layout) :
    (create (H := H) mode size layout).Calls := by
  unfold create
  split
  · exact .pure _
  · split
    · exact .pure _
    · split
      · exact .pure _
      · refine .bind (CallingBacking.allocate mode _) ?_
        intro outcome
        cases outcome with
        | error e => exact .bind (.record _ _ _) fun _ => .pure _
        | ok h => exact .bind .freshGuid fun _ => .bind (.record _ _ _) fun _ => .pure _

end Region

namespace Window

section Closed

variable {ops : Operation → Bool} {R : System → System → Prop} (hR : Closed ops R)
include hR

theorem mapNative_within (hops : ∀ d offset length p, ops (.map d offset length p) = true)
    (d : Descriptor) (offset length : Nat) (p : Protection) :
    Within R (mapNative d offset length p) := by
  unfold mapNative
  split
  · refine hR.bind (hR.attempt (.map d offset length p) (hops _ _ _ _) fun _ => rfl) ?_
    intro outcome
    cases outcome with
    | ok id => exact hR.pure _
    | error e => exact hR.pure _
  · exact hR.pure _

theorem ofRequest_within (hops : ∀ d offset length p, ops (.map d offset length p) = true)
    [Backing H] (request : WindowRequest H) : Within R (ofRequest request) := by
  unfold ofRequest
  split
  · exact hR.pure _
  · split
    · exact hR.pure _
    · split
      · exact hR.pure _
      · split
        · exact hR.pure _
        · refine hR.bind (hR.look fun _ => rfl) fun layout =>
            hR.bind (mapNative_within hR hops _ _ _ _) ?_
          intro outcome
          cases outcome with
          | error e => exact hR.pure _
          | ok id => exact hR.pure _

theorem release_within (w : Window) (hop : ops (.unmap w.mapping) = true) : Within R w.release :=
  hR.bind (hR.attempt (.unmap w.mapping) hop fun _ => rfl) fun _ => hR.pure _

variable {w : Window} (hops : ∀ position data, ops (.store w.mapping position data) = true)
include hops

private theorem put_within {α : Type} (position : Nat) (data : List UInt8) (x : α) :
    Within R (do w.put position data; return x : Effect α) := fun s =>
  hR.perform s (hops (w.viewOffset + position) data)

theorem writeSlice_within (data : List UInt8) (offset : Nat) :
    Within R (w.writeSlice data offset) := by
  unfold writeSlice
  split
  · exact hR.pure _
  · split
    · exact hR.pure _
    · exact put_within hR hops _ _ _

theorem writeObject_within {α : Type} (e : Encoding α) (value : α) (offset : Nat) :
    Within R (w.writeObject e value offset) := by
  unfold writeObject
  split
  · exact hR.pure _
  · split
    · exact hR.pure _
    · exact put_within hR hops _ _ _

end Closed

theorem ofRequest_calls [Backing H] (request : WindowRequest H) : (ofRequest request).Calls :=
  ofRequest_within calls_closed (fun _ _ _ _ => rfl) request

theorem release_calls (w : Window) : w.release.Calls := w.release_within calls_closed rfl

/-- The effect stores nothing but through the mapping of the window. -/
def Stores {α : Type} (w : Window) (a : Effect α) : Prop :=
  ∀ s : System, Reaches (fun mapping => w.mapping = mapping) s.kernel (a.run s).2.kernel

private theorem stores_closed (w : Window) : Closed (fun op => op.through?.all (· == w.mapping))
    fun s s' => Reaches (fun mapping => w.mapping = mapping) s.kernel s'.kernel where
  refl _ := .refl
  trans h h' := h.trans h'
  perform s op hop := .perform op (fun m hm => by
    rw [hm] at hop
    exact (beq_iff_eq.mp hop).symm) s.kernel
  journal _ _ := .refl

theorem writeSlice_stores (w : Window) (data : List UInt8) (offset : Nat) :
    w.Stores (w.writeSlice data offset) :=
  writeSlice_within w.stores_closed (fun _ _ => beq_self_eq_true w.mapping) data offset

theorem writeObject_stores {α : Type} (w : Window) (e : Encoding α) (value : α) (offset : Nat) :
    w.Stores (w.writeObject e value offset) :=
  writeObject_within w.stores_closed (fun _ _ => beq_self_eq_true w.mapping) e value offset

end Window

end SharedMemory

import SharedMemory.Proofs.Session.Frames
/-!
# Sessions among other processes

A session shares its kernel with other processes. In turn, either the session takes a step or
somebody carries out an operation of the kernel, with any descriptor or mapping, those of the
session included. Every turn comes down to operations of the kernel, and it stores bytes only if it
is a store or writes through a window.
-/
namespace SharedMemory

open Kernel

/-- The script makes system calls and stores nothing. -/
def Script.Calls {H α : Type} (a : Script H α) : Prop :=
  ∀ s, a.Yields s fun _ s' => Reaches (fun _ => False) s.system.kernel s'.system.kernel

namespace Script.Calls

variable {H α β : Type}

theorem pure (x : α) : Calls (pure x : Script H α) := fun _ => .refl

theorem bind {a : Script H α} {f : α → Script H β} (ha : a.Calls) (hf : ∀ x, (f x).Calls) :
    (a >>= f).Calls := by
  refine fun s => .bind ((ha s).mono ?_)
  intro x s' hs'
  cases x with
  | none => exact hs'
  | some x => exact (hf x s').mono fun _ _ hs'' => hs'.trans hs''

theorem get : Calls (MonadState.get : Script H (Session H)) := fun _ => .get .refl

theorem modify {f : Session H → Session H}
    (h : ∀ s, (f s).system.kernel = s.system.kernel) : Calls (modify f : Script H PUnit) := by
  refine fun s => .modify ?_
  rw [h]
  exact .refl

theorem act {a : Effect α} (ha : a.Calls) : Calls (Session.act a : Script H α) :=
  fun s => ha s.system

theorem held (table : Session H → Slots α) (name : String) : Calls (Session.held table name) :=
  fun _ => .held .refl fun _ _ => .refl

theorem dropWindow (w : Option Window) : Calls (Session.dropWindow (H := H) w) := by
  cases w with
  | none => exact .pure _
  | some w => exact .act w.release_calls

theorem putWindow (name : String) (w : Window) : Calls (Session.putWindow (H := H) name w) :=
  .bind .get fun _ => .bind (.modify fun _ => rfl) fun _ => .dropWindow _

end Script.Calls

namespace Session

variable {H : Type}

variable {s : Session H}

/-- The mapping that a step writes through: that of the window that it names. -/
def Step.through? (s : Session H) : Step → Option MappingId
  | .write name _ _ | .writeObject name _ _ _ => (s.windows.get? name).map (·.mapping)
  | _ => none

private theorem stores_through {α : Type} {name : String} {a : Window → Effect α}
    (ha : ∀ w : Window, w.Stores (a w)) :
    Reaches (fun mapping => (s.windows.get? name).map (·.mapping) = some mapping) s.system.kernel
      (Script.leave (do act (a (← window name)) : Script H α) s).system.kernel := by
  have hyields : Script.Yields (do act (a (← window name)) : Script H α) s fun _ s' =>
      Reaches (fun mapping => (s.windows.get? name).map (·.mapping) = some mapping)
        s.system.kernel s'.system.kernel := by
    refine .bind (.held .refl ?_)
    intro w hw
    refine (ha w s.system).mono ?_
    intro mapping hmapping
    rw [hw, Option.map_some]
    exact congrArg some hmapping
  exact hyields

private theorem discardWindow_calls (name : String) : Script.Calls (discardWindow (H := H) name) :=
  .bind .get fun _ => .bind (.modify fun _ => rfl) fun _ => .bind (.dropWindow _) fun _ => .pure _

variable [Backing H]

section

variable [ModestBacking H]

/-- Operations of the kernel that store nothing frame the work on regions and handles. -/
theorem calls_frame : Frame fun s s' : Session H =>
    Reaches (fun _ => False) s.system.kernel s'.system.kernel :=
  .of_closed Effect.calls_closed_keepsBytes

theorem create_calls [CallingBacking H] (mode : Mode) (size : Nat) (layout : Layout)
    (dest : String) : Script.Calls (create (H := H) mode size layout dest none) :=
  calls_frame.create (fun s => Region.create_calls mode size layout s.system) dest

theorem convert_calls (name : String) (goal : Region.Downgrade) :
    Script.Calls (convert (H := H) name goal.conversion none) :=
  calls_frame.convert_region name goal

end

private theorem map_calls (source : Option String) (offset size : Nat) (layout : Layout)
    (dest : String) : Script.Calls (map (H := H) source offset size layout dest none) := by
  have hsource : Script.Calls (source.mapM (region (H := H))) := by
    cases source with
    | none => exact .pure _
    | some name => exact .bind (.held _ name) fun _ => .pure _
  refine .bind hsource fun r => .bind (.act (Window.ofRequest_calls _)) ?_
  intro outcome
  cases outcome with
  | error e => exact .pure _
  | ok w => exact .bind (.putWindow dest w) fun _ => .pure _

variable [CallingBacking H] [ModestBacking H]

theorem Step.reaches (s : Session H) (step : Step) :
    Reaches (fun mapping => step.through? s = some mapping) s.system.kernel
      (step.run s).system.kernel := by
  have hcalls : ∀ {α : Type} {a : Script H α}, Script.Calls a →
      Reaches (fun mapping => step.through? s = some mapping) s.system.kernel
        (a.leave s).system.kernel := fun ha => Reaches.mono (ha s) fun _ => False.elim
  cases hstep : step.changesMemory with
  | false => exact (step.within calls_frame hstep s).mono fun _ => False.elim
  | true =>
    cases step with
    | create mode size layout dest => exact hcalls (create_calls mode size layout dest)
    | map source offset size layout dest => exact hcalls (map_calls source offset size layout dest)
    | write name data offset => exact stores_through fun w => w.writeSlice_stores data offset
    | writeObject name e value offset =>
      exact stores_through fun w => w.writeObject_stores e value offset
    | discardWindow name => exact hcalls (discardWindow_calls name)
    | _ => cases hstep

/-- A turn of the session or of somebody else. -/
inductive Turn : Type 1 where
  | ours (step : Step)
  | theirs (op : Operation)

def Turn.run (s : Session H) : Turn → Session H
  | .ours step => step.run s
  | .theirs op => { s with system := { s.system with kernel := op.perform s.system.kernel } }

/-- The mapping that a turn stores through, if it is a store or writes through a window. -/
def Turn.through? (s : Session H) : Turn → Option MappingId
  | .ours step => step.through? s
  | .theirs op => op.through?

def runTurns (s : Session H) (turns : List Turn) : Session H := turns.foldl Turn.run s

theorem Turn.reaches (s : Session H) (turn : Turn) :
    Reaches (fun mapping => turn.through? s = some mapping) s.system.kernel
      (turn.run s).system.kernel := by
  cases turn with
  | ours step => exact step.reaches s
  | theirs op => exact .perform op (fun _ hm => hm) s.system.kernel

theorem runTurns_reaches (s : Session H) (turns : List Turn) :
    Reaches (fun _ => True) s.system.kernel (s.runTurns turns).system.kernel := by
  induction turns generalizing s with
  | nil => exact .refl
  | cons turn rest ih => exact ((turn.reaches s).mono fun _ _ => trivial).trans (ih (turn.run s))

end Session

end SharedMemory

import SharedMemory.Proofs.Session.Turns
import SharedMemory.Session.SealedFiles
/-!
# Dealings with sealed files

Besides its regions a session may handle sealed files by themselves: it may make, convert, check
and duplicate their handles whatever region they belong to, and wrap descriptors that were made
elsewhere. All this comes down to operations of the kernel as well.
-/
namespace SharedMemory.Session

open Kernel

/-- A turn, or a call of the library on a handle. -/
inductive Dealing : Type 1 where
  | turn (turn : Turn)
  | allocate (mode : Mode) (size : Nat) (dest : String)
  | convertHandle (name : String) (goal : Region.Downgrade)
  | duplicateHandle (source : Holder) (dest : String)
  | check (source : Holder) (mode : Mode) (size : Nat)
  | wrap (source : Source) (dest : String)
  | rewrap (name : String)

def Dealing.run (s : Session SealedFile) : Dealing → Session SealedFile
  | .turn t => t.run s
  | .allocate mode size dest => (Session.allocate mode size dest none).leave s
  | .convertHandle name goal => (Session.convertHandle name goal.conversion none).leave s
  | .duplicateHandle source dest => (Session.duplicateHandle source dest none).leave s
  | .check source mode size => (Session.check source mode size none).leave s
  | .wrap source dest => (Session.wrap source dest).leave s
  | .rewrap name => (Session.rewrap name).leave s

def runDealings (s : Session SealedFile) (dealings : List Dealing) : Session SealedFile :=
  dealings.foldl Dealing.run s

private theorem holder_calls {H : Type} (source : Holder) : Script.Calls (holder (H := H) source) :=
  fun _ => .holder .refl fun _ _ => .refl

theorem allocate_calls (mode : Mode) (size : Nat) (dest : String) :
    Script.Calls (allocate (H := SealedFile) mode size dest none) := by
  refine .bind (.act (CallingBacking.allocate mode size)) ?_
  intro outcome
  cases outcome with
  | error e => exact .pure _
  | ok h =>
    exact .bind (calls_frame.putHandle dest h) fun _ =>
      .bind (calls_frame.viewHandle h) fun _ => .pure _

private theorem convertHandle_calls (name : String) (goal : Region.Downgrade) :
    Script.Calls (convertHandle (H := SealedFile) name goal.conversion none) := by
  refine .bind (.held _ name) fun h =>
    .bind (.act (goal.native_within Effect.calls_closed_keepsBytes h)) ?_
  intro outcome
  cases outcome with
  | error e => exact .bind (calls_frame.viewHandle h) fun _ => .pure _
  | ok h' =>
    exact .bind (.modify fun _ => rfl) fun _ => .bind (calls_frame.viewHandle h') fun _ => .pure _

private theorem duplicateHandle_calls (source : Holder) (dest : String) :
    Script.Calls (duplicateHandle (H := SealedFile) source dest none) := by
  refine .bind (holder_calls source) fun h => .bind (.act (CallingBacking.duplicate h)) ?_
  intro outcome
  cases outcome with
  | error e => exact .pure _
  | ok copy =>
    exact .bind (calls_frame.putHandle dest copy) fun _ =>
      .bind (calls_frame.viewHandle copy) fun _ => .pure _

private theorem pipeEnd_calls (reader : Bool) : (pipeEnd reader).Calls := by
  refine .bind (.attempt .makePipe (fun _ => rfl) rfl) ?_
  intro outcome
  cases outcome with
  | error e => exact .pure _
  | ok ends => exact .bind (.closeDescriptor _) fun _ => .pure _

private theorem makeDescriptor_calls (source : Source) : Script.Calls (makeDescriptor source) := by
  cases source with
  | memory size sealing =>
    refine .bind (.act (.attempt (.createMemory sealing) (fun _ => rfl) rfl)) ?_
    intro outcome
    cases outcome with
    | error e => exact .pure _
    | ok d => exact .bind (.act (.attempt (.setLength d _) (fun _ => rfl) rfl)) fun _ => .pure _
  | pipeReader => exact .act (pipeEnd_calls true)
  | pipeWriter => exact .act (pipeEnd_calls false)
  | nowhere => exact .pure _
  | reopened source access =>
    exact .bind (holder_calls source) fun h =>
      .act (.attempt (.reopen h.fd access) (fun _ => rfl) rfl)

private theorem wrap_calls (source : Source) (dest : String) : Script.Calls (wrap source dest) := by
  refine .bind (makeDescriptor_calls source) ?_
  intro outcome
  cases outcome with
  | error e => exact .pure _
  | ok d =>
    exact .bind (calls_frame.putHandle dest _) fun _ =>
      .bind (calls_frame.viewHandle _) fun _ => .pure _

private theorem rewrap_calls (name : String) : Script.Calls (rewrap name) :=
  .bind (.held _ name) fun _ => .bind (.modify fun _ => rfl) fun _ =>
    .bind (calls_frame.viewHandle _) fun _ => .pure _

theorem Dealing.reaches (s : Session SealedFile) (dealing : Dealing) :
    Reaches (fun _ => True) s.system.kernel (dealing.run s).system.kernel := by
  have hcalls : ∀ {α : Type} {a : Script SealedFile α}, Script.Calls a →
      Reaches (fun _ => True) s.system.kernel (a.leave s).system.kernel :=
    fun ha => Reaches.mono (ha s) fun _ => False.elim
  cases dealing with
  | turn t => exact (t.reaches s).mono fun _ _ => trivial
  | allocate mode size dest => exact hcalls (allocate_calls mode size dest)
  | convertHandle name goal => exact hcalls (convertHandle_calls name goal)
  | duplicateHandle source dest => exact hcalls (duplicateHandle_calls source dest)
  | check source mode size =>
    exact hcalls (.bind (holder_calls source) fun h =>
      .act (CallingBacking.corresponds h mode size))
  | wrap source dest => exact hcalls (wrap_calls source dest)
  | rewrap name => exact hcalls (rewrap_calls name)

theorem runDealings_reaches (s : Session SealedFile) (dealings : List Dealing) :
    Reaches (fun _ => True) s.system.kernel (s.runDealings dealings).system.kernel := by
  induction dealings generalizing s with
  | nil => exact .refl
  | cons dealing rest ih => exact (dealing.reaches s).trans (ih (dealing.run s))

end SharedMemory.Session

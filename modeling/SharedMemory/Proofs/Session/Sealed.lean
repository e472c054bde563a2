import SharedMemory.Proofs.Backing.SealedFile
import SharedMemory.Proofs.Session.Loose
import SharedMemory.Session.SealedFiles
/-!
# Steps on sealed files

The descriptor of a sealed file may be taken out of its handle, and a handle may be made of any
loose descriptor. The two are worth the same, so neither way makes a second writer.
-/
namespace SharedMemory.Session

open Script

instance : SingleBacking SealedFile where
  single d := ⟨d⟩
  descriptor_single _ := rfl
  reserve_single _ := rfl

/-- A step on sealed files. -/
inductive SealedStep : Type 1 where
  | loose (step : LooseStep)
  | unwrap (source dest : String)
  | enclose (source dest : String)

/-- A step with regions. -/
def SealedStep.basic (step : Step) : SealedStep := .loose (.native (.basic step))

def SealedStep.run (s : Session SealedFile) : SealedStep → Session SealedFile
  | .loose step => step.run s
  | .unwrap source dest => (Session.unwrap source dest).leave s
  | .enclose source dest => (Session.enclose source dest).leave s

/-- The step is about to make a second handle that grants the writable mode on one object, or a
second descriptor that such a handle can be made of. -/
def SealedStep.Multiplies (s : Session SealedFile) : SealedStep → Prop
  | .loose step => step.Multiplies s
  | .unwrap _ _ | .enclose _ _ => False

variable {own : Prop} {hand : List (Holding SealedFile)} {s : Session SealedFile}

private theorem unwrap_yields (source dest : String) (hs : LooseCustody own hand s) :
    (unwrap source dest).Yields s fun _ s' => LooseCustody own hand s' := by
  refine .bind (.held hs fun h hh => .bind (.modify ?_))
  exact .keep ((putDescriptor_yields (hs.takeHandle hh)).mono fun _ _ hs' => hs'.2) fun _ _ hs' =>
    .viewDescriptor fun _ => hs'

private theorem enclose_yields (source dest : String) (hs : LooseCustody own hand s) :
    (enclose source dest).Yields s fun _ s' => LooseCustody own hand s' := by
  refine .bind (.held hs fun d hd => .bind (.modify ?_))
  exact .keep (hs.takeLoose hd).putHandle fun _ _ hs' => .viewHandle fun _ => hs'

theorem LooseCustody.sealed (hs : LooseCustody own [] s) (step : SealedStep)
    (hstep : ¬ step.Multiplies s) : LooseCustody own [] (step.run s) := by
  cases step with
  | loose step => exact hs.loose step hstep
  | unwrap source dest => exact unwrap_yields source dest hs
  | enclose source dest => exact enclose_yields source dest hs

end SharedMemory.Session

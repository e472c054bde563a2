import SharedMemory.Proofs.Session.Custody
/-!
# Runs of a session

The steps that a process can take with regions, in any order and with any arguments. Whatever the
steps are, the handles of a session stay in custody.
-/
namespace SharedMemory

namespace Session

/-- A step with a region, with a handle that was taken out of one, or with a window. -/
inductive Step : Type 1 where
  | create (mode : Mode) (size : Nat) (layout : Layout) (dest : String)
  | vacate (dest : String)
  | convert (name : String) (goal : Region.Downgrade)
  | duplicate (source dest : String)
  | inspect (name : String)
  | move (source dest : String)
  | takeHandle (source dest : String)
  | passHandle (source dest : String)
  | split (source dest : String)
  | take (source : String) (header : Header) (dest : String)
  | map (source : Option String) (offset size : Nat) (layout : Layout) (dest : String)
  | write (name : String) (data : List UInt8) (offset : Nat)
  | read (name : String) (buffer : List UInt8) (offset : Nat)
  | writeObject {α : Type} (name : String) (e : Encoding α) (value : α) (offset : Nat)
  | readObject {α : Type} (name : String) (e : Encoding α) (offset : Nat)
  | discardRegion (name : String)
  | discardHandle (name : String)
  | discardWindow (name : String)

variable {H : Type} [Backing H]

/-- What is left of a session after a step. A step at a vacant name does nothing. -/
def Step.run (s : Session H) : Step → Session H
  | .create mode size layout dest => (Session.create mode size layout dest none).leave s
  | .vacate dest => (Session.vacate dest).leave s
  | .convert name goal => (Session.convert name goal.conversion none).leave s
  | .duplicate source dest => (Session.duplicate source dest none).leave s
  | .inspect name => (Session.inspect name).leave s
  | .move source dest => (Session.move source dest).leave s
  | .takeHandle source dest => (Session.takeHandle source dest).leave s
  | .passHandle source dest => (Session.passHandle source dest).leave s
  | .split source dest => (Session.split source dest).leave s
  | .take source header dest => (Session.take source header dest).leave s
  | .map source offset size layout dest => (Session.map source offset size layout dest none).leave s
  | .write name data offset => (Session.write name data offset).leave s
  | .read name buffer offset => (Session.read name buffer offset).leave s
  | .writeObject name e value offset => (Session.writeObject name e value offset).leave s
  | .readObject name e offset => (Session.readObject name e offset).leave s
  | .discardRegion name => (Session.discardRegion name).leave s
  | .discardHandle name => (Session.discardHandle name).leave s
  | .discardWindow name => (Session.discardWindow name).leave s

def runSteps (s : Session H) (steps : List Step) : Session H := steps.foldl Step.run s

variable [Rights H] {own : Prop} {loose : Slots Descriptor} {hand : List (Holding H)}
  {s : Session H}

/-- A session without regions and handles has nothing in custody. -/
theorem inCustody_of_empty (hregions : s.regions = .empty) (hhandles : s.handles = .empty) :
    InCustody own s.loose [] s := by
  refine ⟨?_, ?_, rfl, ?_, ?_⟩
  · rw [hregions]
    exact Slots.distinct_empty
  · rw [hhandles]
    exact Slots.distinct_empty
  · rw [hregions]
    nofun
  · rw [holdings, hregions, hhandles]
    exact .nil

variable [LawfulBacking H]

theorem InCustody.step (hs : InCustody own loose hand s) (step : Step) :
    InCustody own loose hand (step.run s) := by
  have window : ∀ {α : Type} {name : String} {a : Window → Effect α},
      (∀ w k, (a w).Yields k fun _ k' => Kernel.Shift [] [] [] k k') →
      (do Session.act (a (← Session.window name)) : Script H α).Yields s
        fun _ s' => InCustody own loose hand s' :=
    fun ha => .bind (.held hs fun w _ => act_quiet hs (ha w _))
  cases step with
  | create mode size layout dest => exact create_yields mode size layout dest hs
  | vacate dest => exact vacate_yields dest hs
  | convert name goal => exact convert_yields name goal hs
  | duplicate source dest => exact duplicate_yields source dest hs
  | inspect name => exact inspect_yields name hs
  | move source dest => exact move_yields source dest hs
  | takeHandle source dest => exact takeHandle_yields source dest hs
  | passHandle source dest => exact passHandle_yields source dest hs
  | split source dest => exact split_yields source dest hs
  | take source header dest => exact take_yields source header dest hs
  | map source offset size layout dest => exact map_yields source offset size layout dest hs
  | write name data offset => exact window fun w k => w.writeSlice_yields data offset k
  | read name buffer offset => exact window fun w k => w.readSlice_yields buffer offset k
  | writeObject name e value offset => exact window fun w k => w.writeObject_yields e value offset k
  | readObject name e offset => exact window fun w k => w.readObject_yields e offset k
  | discardRegion name => exact discardRegion_yields name hs
  | discardHandle name => exact discardHandle_yields name hs
  | discardWindow name => exact discardWindow_yields name hs

theorem InCustody.steps (hs : InCustody own loose hand s) (steps : List Step) :
    InCustody own loose hand (s.runSteps steps) := by
  induction steps generalizing s with
  | nil => exact hs
  | cons step rest ih => exact ih (hs.step step)

end Session

end SharedMemory

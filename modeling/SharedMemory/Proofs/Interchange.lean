import SharedMemory.Proofs.Ledger.Steps
/-!
# The backings are interchangeable

If the kernel refuses only what it must, nothing that a region or a window answers tells which
backing there is. Both backings give the answers of one ledger, which knows of neither.
-/
namespace SharedMemory

namespace Session

open Script

/-- A step, or the check of a handle that is in use. -/
inductive Action : Type 1 where
  | step (step : Step)
  | check (source : Holder) (mode : Mode) (size : Nat)

def Action.Answer : Action → Type
  | step t => t.Answer
  | check .. => Bool

end Session

/-- What an action answers, and the ledger after it. -/
def Ledger.act (l : Ledger) : (action : Session.Action) → Option action.Answer × Ledger
  | .step t => l.step t
  | .check source mode size => l.check source mode size

def Ledger.runActions (l : Ledger) (actions : List Session.Action) : Ledger :=
  actions.foldl (fun l action => (l.act action).2) l

namespace Session

section

variable {H : Type} [Backing H]

/-- What a step answers, with summaries in the place of views. There is no answer where the step
finds a name vacant. -/
def Step.answer (s : Session H) : (step : Step) → Option step.Answer
  | .create mode size layout dest =>
    ((Session.create mode size layout dest none).answer s).map (Except.map RegionView.summary)
  | .vacate dest => ((Session.vacate dest).answer s).map RegionView.summary
  | .convert name goal =>
    ((Session.convert name goal.conversion none).answer s).map fun p => (p.1, p.2.summary)
  | .duplicate source dest =>
    ((Session.duplicate source dest none).answer s).map
      (Except.map fun p => (p.1.summary, p.2.summary))
  | .inspect name => ((Session.inspect name).answer s).map RegionView.summary
  | .move source dest =>
    ((Session.move source dest).answer s).map fun p => (p.1.summary, p.2.summary)
  | .takeHandle source dest =>
    ((Session.takeHandle source dest).answer s).map fun p => (p.1.isSome, p.2.summary)
  | .passHandle source dest => ((Session.passHandle source dest).answer s).map Option.isSome
  | .split source dest => ((Session.split source dest).answer s).map (Option.map (·.2))
  | .take source header dest =>
    ((Session.take source header dest).answer s).map (Except.map RegionView.summary)
  | .map source offset size layout dest =>
    (Session.map source offset size layout dest none).answer s
  | .write name data offset => (Session.write name data offset).answer s
  | .read name buffer offset => (Session.read name buffer offset).answer s
  | .writeObject name e value offset => (Session.writeObject name e value offset).answer s
  | .readObject name e offset => (Session.readObject name e offset).answer s
  | .discardRegion name => (Session.discardRegion name).answer s
  | .discardHandle name => (Session.discardHandle name).answer s
  | .discardWindow name => (Session.discardWindow name).answer s

def Action.answer (s : Session H) : (action : Action) → Option action.Answer
  | .step t => t.answer s
  | .check source mode size => (Session.check source mode size none).answer s

def Action.run (s : Session H) : Action → Session H
  | .step t => t.run s
  | .check source mode size => (Session.check source mode size none).leave s

def runActions (s : Session H) (actions : List Action) : Session H := actions.foldl Action.run s

variable [Rights H] {l : Ledger} {s : Session H} {own : Prop} {loose : Slots Descriptor}
  {hand : List (Holding H)}

private theorem tracks_of_empty {system : System} (hu : system.Unhindered) :
    ({ system } : Session H).Tracks { system := system.bare } where
  unhindered := System.unhindered_bare_iff.mpr hu
  system := rfl
  regions _ := .none
  handles _ := .none
  windows := rfl

variable [LawfulBacking H]

private theorem check_yields (source : Holder) (mode : Mode) (size : Nat)
    (hs : InCustody own loose hand s) :
    (check source mode size none).Yields s fun _ s' => InCustody own loose hand s' := by
  refine .bind (.holder hs fun h hh => ?_)
  obtain ⟨header, hmem⟩ := mem_holdings_of_holder? hh
  have hsound := (hs.custody.each _ (List.mem_append_left _ hmem)).sound
  exact act_quiet hs ((LawfulBacking.corresponds_yields h mode size _ hsound).mono
    fun _ _ hk' => (Kernel.Shift.refl _).alike hk'.1)

private theorem InCustody.action (hs : InCustody own loose hand s) (action : Action) :
    InCustody own loose hand (action.run s) := by
  cases action with
  | step t => exact hs.step t
  | check source mode size => exact check_yields source mode size hs

variable [ModestBacking H] [CompleteBacking H]

theorem Tracks.step (ht : s.Tracks l) (hs : InCustody True loose hand s) (t : Step) :
    t.answer s = (l.step t).1 ∧ (t.run s).Tracks (l.step t).2 := by
  cases t with
  | create mode size layout dest => exact create_meets mode size layout dest hs ht
  | vacate dest => exact vacate_meets dest hs ht
  | convert name goal => exact convert_meets name goal hs ht
  | duplicate source dest => exact duplicate_meets source dest hs ht
  | inspect name => exact inspect_meets name ht
  | move source dest => exact move_meets source dest hs ht
  | takeHandle source dest => exact takeHandle_meets source dest hs ht
  | passHandle source dest => exact passHandle_meets source dest hs ht
  | split source dest => exact split_meets source dest hs ht
  | take source header dest => exact take_meets source header dest hs ht
  | map source offset size layout dest =>
    exact Meets.plain (map_meets source offset size layout dest hs ht)
  | write name data offset =>
    exact Meets.plain (through_meets (fun w => w.writeSlice_unaware data offset)
      (fun w k => w.writeSlice_yields data offset k) hs ht)
  | read name buffer offset =>
    exact Meets.plain (through_meets (fun w => w.readSlice_unaware buffer offset)
      (fun w k => w.readSlice_yields buffer offset k) hs ht)
  | writeObject name e value offset =>
    exact Meets.plain (through_meets (fun w => w.writeObject_unaware e value offset)
      (fun w k => w.writeObject_yields e value offset k) hs ht)
  | readObject name e offset =>
    exact Meets.plain (through_meets (fun w => w.readObject_unaware e offset)
      (fun w k => w.readObject_yields e offset k) hs ht)
  | discardRegion name => exact Meets.plain (discardRegion_meets name hs ht)
  | discardHandle name => exact Meets.plain (discardHandle_meets name hs ht)
  | discardWindow name => exact Meets.plain (discardWindow_meets name hs ht)

private theorem Tracks.action (ht : s.Tracks l) (hs : InCustody True loose hand s)
    (action : Action) :
    action.answer s = (l.act action).1 ∧ (action.run s).Tracks (l.act action).2 := by
  cases action with
  | step t => exact ht.step hs t
  | check source mode size => exact Meets.plain (check_meets source mode size hs ht)

private theorem Tracks.actions (ht : s.Tracks l) (hs : InCustody True loose hand s)
    (actions : List Action) :
    (s.runActions actions).Tracks (l.runActions actions) ∧
      InCustody True loose hand (s.runActions actions) := by
  induction actions generalizing s l with
  | nil => exact ⟨ht, hs⟩
  | cons action rest ih => exact ih (ht.action hs action).2 (hs.action action)

private theorem answer_of_ledger {system : System} (hu : system.Unhindered) (actions : List Action)
    (action : Action) : action.answer (({ system } : Session H).runActions actions) =
      ((({ system := system.bare } : Ledger).runActions actions).act action).1 := by
  have hstart : ({ system } : Session H).Tracks { system := system.bare } := tracks_of_empty hu
  obtain ⟨ht, hs⟩ := hstart.actions (inCustody_of_empty rfl rfl) actions
  exact (ht.action hs action).1

end

/-- If the kernel refuses only what it must, and no name that is to be drawn is in use, then both
backings give the same answer to every action, after whatever actions before it: the same values,
errors, misuses, summaries, windows and bytes. -/
theorem backings_interchangeable {system : System} (hu : system.Unhindered)
    (actions : List Action) (action : Action) :
    action.answer (({ system } : Session SealedFile).runActions actions) =
      action.answer (({ system } : Session DescriptorPair).runActions actions) :=
  (answer_of_ledger hu actions action).trans (answer_of_ledger hu actions action).symm

/-- A region is made read-only while a window for writing is in use. Its handle is taken out, is
checked for a mode that it has lost, and is made a region again. -/
def reclaiming : List Action :=
  [.step (.create .writable 5000 .host "region"),
    .step (.map (some "region") 4096 100 .host "window"),
    .step (.write "window" [1, 2, 3] 7),
    .step (.convert "region" .readOnly),
    .step (.takeHandle "region" "handle"),
    .check (.handle "handle") .writable 5000,
    .step (.take "handle" ⟨.readOnly, 5000, .nil⟩ "region"),
    .step (.map (some "region") 4096 904 .host "window")]

/-- What was written before is read through a window of the region that was made of the handle. -/
def rereading : Action := .step (.read "window" [0, 0, 0] 8)

theorem backings_interchangeable_of_reclaiming :
    ({} : System).Unhindered ∧
      rereading.answer (({} : Session SealedFile).runActions reclaiming) =
        rereading.answer (({} : Session DescriptorPair).runActions reclaiming) ∧
      (rereading.answer (({} : Session DescriptorPair).runActions reclaiming)).bind
        Except.toOption = some (3, [2, 3, 0]) := by
  have hu : ({} : System).Unhindered := ⟨⟨fun _ _ => rfl, rfl, rfl⟩, fun _ => rfl⟩
  exact ⟨hu, backings_interchangeable hu reclaiming rereading, by decide +kernel⟩

end Session

end SharedMemory

import SharedMemory.Backing.DescriptorPair
import SharedMemory.Proofs.Careful
import SharedMemory.Proofs.Gallery.Shows
/-!
# Windows on the bytes of objects

All windows of an object look at one array of bytes, whatever regions they were made of and
whatever has become of these since. What the windows of a session show follows from what was
written through them, as a gallery says that goes along with the session.
-/
namespace SharedMemory

open Kernel Session

namespace Gallery

variable {H : Type} [Backing H]

/-- The gallery after a step. Only steps on windows make a difference. -/
def after (g : Gallery) (s : Session H) : Step → Gallery
  | .map source offset size layout dest =>
    g.hang dest (s.pane? source offset size)
      ((Session.map source offset size layout dest none).answer s)
  | .write name data position =>
    (g.panes.get? name).elim g fun pane => (g.write pane data position).2
  | .writeObject name e value position =>
    (g.panes.get? name).elim g fun pane => (g.writeObject pane e value position).2
  | .discardWindow name => { g with panes := g.panes.erase name }
  | _ => g

def afterSteps (g : Gallery) (s : Session H) : List Step → Gallery
  | [] => g
  | step :: rest => (g.after s step).afterSteps (step.run s) rest

/-- The bytes that there are at the start, before any window. -/
def start (s : Session H) : Gallery where
  bytes o := (s.system.kernel.object o).content

end Gallery

namespace Session

variable {H : Type} {g : Gallery} {s s' : Session H}

/-- The window that a step reads or writes through. -/
def Step.window? : Step → Option String
  | .write name .. | .read name .. | .writeObject name .. | .readObject name .. => some name
  | _ => none

/-- No window comes or goes, and neither bytes nor mappings change. -/
def Steady (s s' : Session H) : Prop :=
  s'.windows = s.windows ∧ SameBytes s.system.kernel s'.system.kernel ∧
    s'.system.kernel.mappings = s.system.kernel.mappings

private theorem Shows.steady (h : Shows g s) (hs : Steady s s') : Shows g s' :=
  h.frame hs.1 hs.2.1 fun _ _ _ => by rw [hs.2.2]

theorem shows_start (hwindows : s.windows = .empty) : Shows (.start s) s := by
  have hvacant : ∀ name, s.windows.get? name = none := fun name => by rw [hwindows]; rfl
  refine ⟨fun _ => rfl, fun name => ?_, fun hw => ?_, fun hw => ?_⟩
  · rw [hvacant]
    rfl
  · rw [hvacant] at hw
    cases hw
  · rw [hvacant] at hw
    cases hw

variable [Backing H]

/-- The session does what the gallery says. -/
structure Follows (g : Gallery) (s : Session H) : Prop where
  bytes (o : ObjectId) (p : Nat) : (s.system.kernel.object o).content p = g.bytes o p
  read (name : String) (buffer : List UInt8) (position : Nat) :
    (read (H := H) name buffer position).answer s =
      (g.panes.get? name).map (g.read · buffer position)
  readObject {α : Type} (name : String) (e : Encoding α) (position : Nat) :
    (readObject (H := H) name e position).answer s =
      (g.panes.get? name).map (g.readObject · e position)
  write (name : String) (data : List UInt8) (position : Nat) :
    (write (H := H) name data position).answer s =
      (g.panes.get? name).map fun pane => (g.write pane data position).1
  writeObject {α : Type} (name : String) (e : Encoding α) (value : α) (position : Nat) :
    (writeObject (H := H) name e value position).answer s =
      (g.panes.get? name).map fun pane => (g.writeObject pane e value position).1
  /-- Nothing is shown that is not there. -/
  inside {name : String} {pane : Pane} : g.panes.get? name = some pane →
    pane.offset + pane.size ≤ (s.system.kernel.object pane.object).length
  /-- No access changes anything outside of its window. -/
  confined {name : String} {pane : Pane} {step : Step} {o : ObjectId} {p : Nat} :
    g.panes.get? name = some pane → step.window? = some name → ¬ pane.Covers o p →
      ((step.run s).system.kernel.object o).content p = (s.system.kernel.object o).content p
  /-- No access sees anything outside of its window. -/
  blind {name : String} {pane : Pane} {bytes : ObjectId → Nat → UInt8} :
    g.panes.get? name = some pane → (∀ o p, pane.Covers o p → bytes o p = g.bytes o p) →
      (∀ buffer position, (Session.read (H := H) name buffer position).answer s =
        some (({ g with bytes } : Gallery).read pane buffer position)) ∧
      ∀ {α : Type} (e : Encoding α) position,
        (Session.readObject (H := H) name e position).answer s =
          some (({ g with bytes } : Gallery).readObject pane e position)

private theorem after_outside {name : String} {pane : Pane} {step : Step} {o : ObjectId} {p : Nat}
    (hpane : g.panes.get? name = some pane) (hstep : step.window? = some name)
    (hp : ¬ pane.Covers o p) : (g.after s step).bytes o p = g.bytes o p := by
  cases step with
  | write name' data position =>
    obtain rfl := Option.some.inj hstep
    rw [Gallery.after, hpane]
    exact g.write_outside data position hp
  | writeObject name' e value position =>
    obtain rfl := Option.some.inj hstep
    rw [Gallery.after, hpane]
    exact g.writeObject_outside e value position hp
  | read | readObject => rfl
  | _ => cases hstep

variable [ModestBacking H]

private theorem steady_frame : Frame (Steady (H := H)) :=
  Frame.windows.and (.of_closed Effect.sameBytes_closed)

variable [CarefulBacking H]

private theorem create_steady (mode : Mode) (size : Nat) (layout : Layout) (dest : String) :
    Script.Within Steady (create (H := H) mode size layout dest none) := by
  refine steady_frame.create (fun s => ⟨rfl, ?_⟩) dest
  obtain ⟨hextends, -⟩ := Region.create_careful (H := H) mode size layout _ s.system rfl
  exact ⟨hextends.sameBytes, hextends.mappings⟩

variable [Rights H] [LawfulBacking H] {loose : Slots Descriptor} {hand : List (Holding H)}

private theorem InCustody.shows_step (hs : InCustody True loose hand s) (h : Shows g s)
    (step : Step) :
    Shows (g.after s step) (step.run s) := by
  cases hstep : step.changesMemory with
  | false =>
    have hsteady := h.steady (step.within steady_frame hstep s)
    cases step with
    | create | map | write | writeObject | discardWindow => cases hstep
    | _ => exact hsteady
  | true =>
    cases step with
    | create mode size layout dest => exact h.steady (create_steady mode size layout dest s)
    | map source offset size layout dest => exact hs.shows_map h source offset size layout dest
    | write name data position => exact (h.write name data position).2
    | writeObject name e value position => exact (h.writeObject name e value position).2
    | discardWindow name => exact h.discardWindow name
    | _ => cases hstep

theorem InCustody.shows_steps (hs : InCustody True loose hand s) (h : Shows g s)
    (steps : List Step) : Shows (g.afterSteps s steps) (s.runSteps steps) := by
  induction steps generalizing s g with
  | nil => exact h
  | cons step rest ih => exact ih (hs.step step) (hs.shows_step h step)

private theorem InCustody.follows (hs : InCustody True loose hand s) (h : Shows g s) :
    Follows g s where
  bytes o p := congrFun (h.bytes o) p
  read := h.read
  readObject := h.readObject
  write name data position := (h.write name data position).1
  writeObject name e value position := (h.writeObject name e value position).1
  inside hpane := by
    obtain ⟨w, -, hshown⟩ := h.window hpane
    exact hshown.inside
  confined {name pane step o p} hpane hstep hp := by
    rw [(hs.shows_step h step).bytes, h.bytes]
    exact after_outside (s := s) hpane hstep hp
  blind {name pane bytes} hpane hbytes := by
    refine ⟨fun buffer position => ?_, fun e position => ?_⟩
    · rw [h.read name buffer position, hpane, Gallery.read_congr hbytes]
      rfl
    · rw [h.readObject name e position, hpane, Gallery.readObject_congr hbytes]
      rfl

/-- In every session that starts with nothing in use, the windows do after all steps what the
gallery says. -/
theorem windows_follow :
    (∀ (s : Session SealedFile) (steps : List Step), s.regions = .empty → s.handles = .empty →
      s.windows = .empty → Follows ((Gallery.start s).afterSteps s steps) (s.runSteps steps)) ∧
    (∀ (s : Session DescriptorPair) (steps : List Step), s.regions = .empty → s.handles = .empty →
      s.windows = .empty → Follows ((Gallery.start s).afterSteps s steps) (s.runSteps steps)) := by
  refine ⟨fun s steps hregions hhandles hwindows => ?_,
    fun s steps hregions hhandles hwindows => ?_⟩
  · have hs : InCustody True s.loose [] s := inCustody_of_empty hregions hhandles
    exact (hs.steps steps).follows (hs.shows_steps (shows_start hwindows) steps)
  · have hs : InCustody True s.loose [] s := inCustody_of_empty hregions hhandles
    exact (hs.steps steps).follows (hs.shows_steps (shows_start hwindows) steps)

/-- Two windows of one region overlap. One is written to after the region has gone. -/
def overlapSteps : List Step :=
  [.create .shared 10000 .host "region", .map (some "region") 5000 100 .host "low",
    .map (some "region") 5060 200 .host "high", .discardRegion "region",
    .write "high" [1, 2, 3] 10]

/-- A session of either kind at its start, after these steps. -/
def overlapping (H : Type) [Backing H] : Session H := Session.runSteps {} overlapSteps

def overlappingGallery (H : Type) [Backing H] : Gallery :=
  (Gallery.start ({} : Session H)).afterSteps ({} : Session H) overlapSteps

theorem windows_follow_of_overlap :
    (Follows (overlappingGallery SealedFile) (overlapping SealedFile) ∧
      ((read (H := SealedFile) "low" [9, 9, 9, 9, 9] 69).answer (overlapping SealedFile)).map
        Except.toOption = some (some (5, [0, 1, 2, 3, 0]))) ∧
    (Follows (overlappingGallery DescriptorPair) (overlapping DescriptorPair) ∧
      ((read (H := DescriptorPair) "low" [9, 9, 9, 9, 9] 69).answer
        (overlapping DescriptorPair)).map Except.toOption = some (some (5, [0, 1, 2, 3, 0]))) :=
  ⟨⟨windows_follow.1 {} overlapSteps rfl rfl rfl, by decide +kernel⟩,
    ⟨windows_follow.2 {} overlapSteps rfl rfl rfl, by decide +kernel⟩⟩

end Session

end SharedMemory

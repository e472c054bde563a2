import SharedMemory.Proofs.Calling
import SharedMemory.Proofs.Session.Steps
/-!
# Frames

A frame is a relation of sessions that looks at neither regions nor handles and holds across each
operation of a region. It then holds across all steps that are put together of such operations,
that is, across all but those that make regions and those that make, drop or write to windows.
-/
namespace SharedMemory

/-- The script leads from a session to none but those related to it. -/
def Script.Within {H α : Type} (R : Session H → Session H → Prop) (a : Script H α) : Prop :=
  ∀ s, a.Yields s fun _ s' => R s s'

/-- The session after work on the system. -/
def Session.after {H α : Type} (s : Session H) (a : Effect α) : Session H :=
  { s with system := (a.run s.system).2 }

theorem Script.Within.act {H α : Type} {R : Session H → Session H → Prop} {a : Effect α}
    (ha : ∀ s : Session H, R s (s.after a)) : Within R (Session.act a : Script H α) := ha

structure Frame {H : Type} [Backing H] (R : Session H → Session H → Prop) : Prop where
  refl (s : Session H) : R s s
  trans {s s' s'' : Session H} : R s s' → R s' s'' → R s s''
  tables (s : Session H) (regions : Slots (Region H)) (handles : Slots H)
    (headers : Slots Header) : R s { s with regions, handles, headers }
  convert (r : Region H) (goal : Region.Downgrade) (s : Session H) :
    R s (s.after (r.convert goal.conversion))
  duplicate (r : Region H) (s : Session H) : R s (s.after r.duplicate)
  take (h : H) (header : Header) (s : Session H) : R s (s.after (Region.take h header))
  release (h : H) (s : Session H) : R s (s.after (Backing.release h))

namespace Frame

open Script Session

variable {H : Type} [Backing H]

/-- What operations on descriptors and seals keep is a frame. -/
theorem of_closed [ModestBacking H] {R : System → System → Prop}
    (hR : Effect.Closed Kernel.Operation.keepsBytes R) :
    Frame fun s s' : Session H => R s.system s'.system where
  refl s := hR.refl s.system
  trans h h' := hR.trans h h'
  tables s _ _ _ := hR.refl s.system
  convert r goal s := r.convert_within hR goal s.system
  duplicate r s := r.duplicate_within hR.objects s.system
  take h header s := Region.take_within hR.objects h header s.system
  release h s := ModestBacking.release h hR.objects s.system

theorem windows : Frame fun s s' : Session H => s'.windows = s.windows where
  refl _ := rfl
  trans h h' := h'.trans h
  tables _ _ _ _ := rfl
  convert _ _ _ := rfl
  duplicate _ _ := rfl
  take _ _ _ := rfl
  release _ _ := rfl

theorem and {R R' : Session H → Session H → Prop} (hR : Frame R) (hR' : Frame R') :
    Frame fun s s' => R s s' ∧ R' s s' where
  refl s := ⟨hR.refl s, hR'.refl s⟩
  trans h h' := ⟨hR.trans h.1 h'.1, hR'.trans h.2 h'.2⟩
  tables s regions handles headers :=
    ⟨hR.tables s regions handles headers, hR'.tables s regions handles headers⟩
  convert r goal s := ⟨hR.convert r goal s, hR'.convert r goal s⟩
  duplicate r s := ⟨hR.duplicate r s, hR'.duplicate r s⟩
  take h header s := ⟨hR.take h header s, hR'.take h header s⟩
  release h s := ⟨hR.release h s, hR'.release h s⟩

variable {R : Session H → Session H → Prop} (hR : Frame R) {α β : Type}
include hR

theorem pure (x : α) : Within R (pure x : Script H α) := hR.refl

theorem bind {a : Script H α} {f : α → Script H β} (ha : Within R a) (hf : ∀ x, Within R (f x)) :
    Within R (a >>= f) := by
  refine fun s => .bind ((ha s).mono ?_)
  intro x s' hs'
  cases x with
  | none => exact hs'
  | some x => exact (hf x s').mono fun _ _ hs'' => hR.trans hs' hs''

theorem get : Within R (MonadState.get : Script H (Session H)) := fun s => .get (hR.refl s)

theorem modify {f : Session H → Session H}
    (hf : ∀ s, ∃ regions handles headers, f s = { s with regions, handles, headers }) :
    Within R (modify f : Script H PUnit) := by
  intro s
  obtain ⟨regions, handles, headers, hs⟩ := hf s
  refine .modify ?_
  rw [hs]
  exact hR.tables s regions handles headers

theorem held (table : Session H → Slots α) (name : String) :
    Within R (Session.held table name) := fun s => .held (hR.refl s) fun _ _ => hR.refl s

theorem viewRegion (r : Region H) : Within R (Session.viewRegion r) :=
  hR.bind hR.get fun _ => hR.pure _

theorem viewHandle (h : H) : Within R (Session.viewHandle h) :=
  hR.bind hR.get fun _ => hR.pure _

theorem dropHandle (h : Option H) : Within R (Session.dropHandle h) := by
  cases h with
  | none => exact hR.pure _
  | some h => exact .act (hR.release h)

theorem dropRegion (r : Option (Region H)) : Within R (Session.dropRegion r) := by
  cases r with
  | none => exact hR.pure _
  | some r =>
    change Within R (Session.act r.release)
    unfold Region.release
    split
    · exact .act hR.refl
    · exact .act (hR.release _)

theorem putRegion (name : String) (r : Region H) : Within R (Session.putRegion name r) :=
  hR.bind hR.get fun _ => hR.bind (hR.modify fun _ => ⟨_, _, _, rfl⟩) fun _ => hR.dropRegion _

theorem putHandle (name : String) (h : H) : Within R (Session.putHandle name h) :=
  hR.bind hR.get fun _ => hR.bind (hR.modify fun _ => ⟨_, _, _, rfl⟩) fun _ => hR.dropHandle _

theorem create {mode : Mode} {size : Nat} {layout : Layout}
    (hcreate : ∀ s : Session H, R s (s.after (Region.create (H := H) mode size layout)))
    (dest : String) : Within R (Session.create (H := H) mode size layout dest none) := by
  refine hR.bind (.act hcreate) ?_
  intro outcome
  cases outcome with
  | error e => exact hR.pure _
  | ok r =>
    exact hR.bind (hR.putRegion dest r) fun _ => hR.bind (hR.viewRegion r) fun _ => hR.pure _

theorem vacate (dest : String) : Within R (Session.vacate (H := H) dest) :=
  hR.bind (hR.putRegion dest _) fun _ => hR.viewRegion _

theorem convert_region (name : String) (goal : Region.Downgrade) :
    Within R (Session.convert (H := H) name goal.conversion none) := by
  refine hR.bind (hR.held _ name) fun r => hR.bind (.act (hR.convert r goal)) ?_
  intro outcome
  cases outcome with
  | error e => exact hR.bind (hR.viewRegion r) fun _ => hR.pure _
  | ok r =>
    exact hR.bind (hR.modify fun _ => ⟨_, _, _, rfl⟩) fun _ =>
      hR.bind (hR.viewRegion r) fun _ => hR.pure _

private theorem duplicate_region (source dest : String) :
    Within R (Session.duplicate (H := H) source dest none) := by
  refine hR.bind (hR.held _ source) fun r => hR.bind (.act (hR.duplicate r)) ?_
  intro outcome
  cases outcome with
  | error e => exact hR.pure _
  | ok copy =>
    exact hR.bind (hR.viewRegion r) fun _ => hR.bind (hR.putRegion dest copy) fun _ =>
      hR.bind (hR.viewRegion copy) fun _ => hR.pure _

theorem move (source dest : String) : Within R (Session.move (H := H) source dest) :=
  hR.bind (hR.held _ source) fun r => hR.bind (hR.modify fun _ => ⟨_, _, _, rfl⟩) fun _ =>
    hR.bind (hR.viewRegion _) fun _ => hR.bind (hR.putRegion dest r) fun _ =>
      hR.bind (hR.viewRegion r) fun _ => hR.pure _

theorem takeHandle (source dest : String) :
    Within R (Session.takeHandle (H := H) source dest) := by
  refine hR.bind (hR.held _ source) fun r => hR.bind (hR.modify fun _ => ⟨_, _, _, rfl⟩) fun _ =>
    hR.bind (hR.viewRegion _) ?_
  intro _
  split
  · exact hR.pure _
  · exact hR.bind (hR.putHandle dest _) fun _ => hR.bind (hR.viewHandle _) fun _ => hR.pure _

theorem passHandle (source dest : String) :
    Within R (Session.passHandle (H := H) source dest) := by
  refine hR.bind (hR.held _ source) fun r => hR.bind (hR.modify fun _ => ⟨_, _, _, rfl⟩) ?_
  intro _
  split
  · exact hR.pure _
  · exact hR.bind (hR.putHandle dest _) fun _ => hR.bind (hR.viewHandle _) fun _ => hR.pure _

theorem split (source dest : String) : Within R (Session.split (H := H) source dest) := by
  refine hR.bind (hR.held _ source) fun r => hR.bind (hR.modify fun _ => ⟨_, _, _, rfl⟩) ?_
  intro _
  split
  · exact hR.pure _
  · exact hR.bind (hR.putHandle dest _) fun _ =>
      hR.bind (hR.modify fun _ => ⟨_, _, _, rfl⟩) fun _ =>
        hR.bind (hR.viewHandle _) fun _ => hR.pure _

private theorem take_region (source : String) (header : Header) (dest : String) :
    Within R (Session.take (H := H) source header dest) := by
  refine hR.bind (hR.held _ source) fun h => hR.bind (hR.modify fun _ => ⟨_, _, _, rfl⟩) fun _ =>
    hR.bind (.act (hR.take h header)) ?_
  intro outcome
  cases outcome with
  | error e => exact hR.pure _
  | ok r =>
    exact hR.bind (hR.putRegion dest r) fun _ => hR.bind (hR.viewRegion r) fun _ => hR.pure _

theorem discardRegion (name : String) : Within R (Session.discardRegion (H := H) name) :=
  hR.bind hR.get fun _ => hR.bind (hR.modify fun _ => ⟨_, _, _, rfl⟩) fun _ =>
    hR.bind (hR.dropRegion _) fun _ => hR.pure _

theorem discardHandle (name : String) : Within R (Session.discardHandle (H := H) name) :=
  hR.bind hR.get fun _ => hR.bind (hR.modify fun _ => ⟨_, _, _, rfl⟩) fun _ =>
    hR.bind (hR.dropHandle _) fun _ => hR.pure _

theorem look {a : Window → Effect α} (ha : ∀ w s, ((a w).run s).2 = s) (name : String) :
    Within R (do Session.act (a (← Session.window name)) : Script H α) := by
  refine hR.bind (hR.held _ name) fun w => .act fun s => ?_
  rw [Session.after, ha]
  exact hR.refl s

end Frame

namespace Session

/-- The steps that make a region, or make, drop or write to a window. -/
def Step.changesMemory : Step → Bool
  | .create .. | .map .. | .write .. | .writeObject .. | .discardWindow .. => true
  | _ => false

theorem Step.within {H : Type} [Backing H] {R : Session H → Session H → Prop} (hR : Frame R)
    {step : Step} (hstep : step.changesMemory = false) (s : Session H) : R s (step.run s) := by
  cases step with
  | vacate dest => exact hR.vacate dest s
  | convert name goal => exact hR.convert_region name goal s
  | duplicate source dest => exact hR.duplicate_region source dest s
  | inspect name => exact hR.bind (hR.held _ name) hR.viewRegion s
  | move source dest => exact hR.move source dest s
  | takeHandle source dest => exact hR.takeHandle source dest s
  | passHandle source dest => exact hR.passHandle source dest s
  | split source dest => exact hR.split source dest s
  | take source header dest => exact hR.take_region source header dest s
  | read name buffer offset => exact hR.look (fun w => w.readSlice_looks buffer offset) name s
  | readObject name e offset => exact hR.look (fun w => w.readObject_looks e offset) name s
  | discardRegion name => exact hR.discardRegion name s
  | discardHandle name => exact hR.discardHandle name s
  | _ => cases hstep

end Session

end SharedMemory

import SharedMemory.Proofs.Careful
import SharedMemory.Proofs.Session.Natives
/-!
# Failure changes nothing

A step that fails leaves everything as it was, at whichever of its system calls it failed and for
whatever reason: all regions, handles and windows, what every descriptor refers to, all mappings,
and the seals, the length and the bytes of every object. Only a handle that is not accepted as a
region is closed.
-/
namespace SharedMemory

open Kernel Effect

variable {H : Type} [Backing H]

namespace Session

open Script

/-- A step of a session, or a native operation on handles. -/
inductive Attempt : Type 1 where
  | step (step : Step)
  | allocate (mode : Mode) (size : Nat) (dest : String)
  | convertHandle (name : String) (goal : Region.Downgrade)
  | duplicateHandle (source : Holder) (dest : String)

def Attempt.run (s : Session H) : Attempt → Session H
  | .step t => t.run s
  | .allocate mode size dest => (Session.allocate mode size dest none).leave s
  | .convertHandle name goal => (Session.convertHandle name goal.conversion none).leave s
  | .duplicateHandle source dest => (Session.duplicateHandle source dest none).leave s

/-- The answer is an error, or misuse. -/
def Attempt.Fails (s : Session H) : Attempt → Prop
  | .step (.create mode size layout dest) =>
    ∃ e, (Session.create (H := H) mode size layout dest none).answer s = some (.error e)
  | .step (.convert name goal) => ∃ e view,
    (Session.convert (H := H) name goal.conversion none).answer s = some (.error e, view)
  | .step (.duplicate source dest) =>
    ∃ e, (Session.duplicate (H := H) source dest none).answer s = some (.error e)
  | .step (.take source header dest) =>
    ∃ e, (Session.take (H := H) source header dest).answer s = some (.error e)
  | .step (.map source offset size layout dest) =>
    ∃ e, (Session.map (H := H) source offset size layout dest none).answer s = some (.error e)
  | .step (.write name data offset) =>
    ∃ e, (Session.write (H := H) name data offset).answer s = some (.error e)
  | .step (.read name buffer offset) =>
    ∃ e, (Session.read (H := H) name buffer offset).answer s = some (.error e)
  | .step (.writeObject name e value offset) =>
    ∃ e', (Session.writeObject (H := H) name e value offset).answer s = some (.error e')
  | .step (.readObject name e offset) =>
    ∃ e', (Session.readObject (H := H) name e offset).answer s = some (.error e')
  | .step _ => False
  | .allocate mode size dest =>
    ∃ e, (Session.allocate (H := H) mode size dest none).answer s = some (.error e)
  | .convertHandle name goal => ∃ e view,
    (Session.convertHandle (H := H) name goal.conversion none).answer s = some (.error e, view)
  | .duplicateHandle source dest =>
    ∃ e, (Session.duplicateHandle (H := H) source dest none).answer s = some (.error e)

/-- Everything is as before. -/
structure Unchanged (s s' : Session H) : Prop where
  regions : s'.regions = s.regions
  handles : s'.handles = s.handles
  headers : s'.headers = s.headers
  windows : s'.windows = s.windows
  loose : s'.loose = s.loose
  kernel : Untouched s.system.kernel s'.system.kernel

/-- The handle of a name is closed and gone, and everything else is as before. -/
structure Closes (source : String) (h : H) (s s' : Session H) : Prop where
  regions : s'.regions = s.regions
  handles : s'.handles = s.handles.erase source
  headers : s'.headers = s.headers
  windows : s'.windows = s.windows
  loose : s'.loose = s.loose
  memory : SameMemory s.system.kernel s'.system.kernel
  files : s.system.kernel.files <+: s'.system.kernel.files
  closed : ∀ d ∈ Backing.descriptors h, s'.system.kernel.fileId? d = none
  kept : ∀ d, d ∉ Backing.descriptors h →
    s'.system.kernel.fileId? d = s.system.kernel.fileId? d

/-- What is left of a session by an attempt that failed. -/
def Attempt.Spares (s s' : Session H) : Attempt → Prop
  | .step (.take source _ _) => ∃ h, s.handles.get? source = some h ∧ s.Closes source h s'
  | _ => s.Unchanged s'

/-- The handles that are left refer to what they referred to. -/
def Intact (s s' : Session H) : Prop :=
  ∀ holder h, s'.holder? holder = some h → ∀ d ∈ Backing.descriptors h,
    s'.system.kernel.fileId? d = s.system.kernel.fileId? d

/-- A session that started with nothing in use. -/
def Reached (s : Session H) : Prop :=
  ∃ (start : Session H) (steps : List Step), start.regions = .empty ∧ start.handles = .empty ∧
    start.runSteps steps = s

variable {s : Session H}

omit [Backing H] in
private theorem unchanged_of_untouched {system : System}
    (h : Untouched s.system.kernel system.kernel) : s.Unchanged { s with system } :=
  ⟨rfl, rfl, rfl, rfl, rfl, h⟩

omit [Backing H] in
private theorem window_careful {α ε : Type} {name : String} {a : Window → Effect (Except ε α)}
    (ha : ∀ w, (a w).Yields s.system.kernel fun outcome k' =>
      ∀ e, outcome = .error e → Untouched s.system.kernel k') :
    (do act (a (← window name)) : Script H (Except ε α)).Yields s fun x s' =>
      ∀ e, x = some (.error e) → s.Unchanged s' := by
  refine .bind (.held nofun fun w _ => .act ((ha w).mono ?_))
  rintro outcome k' hfailed system rfl e he
  exact unchanged_of_untouched (hfailed e (Option.some.inj he))

private theorem map_careful (source : Option String) (offset size : Nat) (layout : Layout)
    (dest : String) (s : Session H) :
    (map source offset size layout dest none).Yields s fun x s' =>
      ∀ e, x = some (.error e) → s.Unchanged s' := by
  refine .bind (.sourceGet ?_)
  cases source.mapM s.regions.get? with
  | none => exact fun _ he => nomatch he
  | some r =>
    refine .bind (.act ((Window.ofRequest_careful _ _).mono ?_))
    rintro outcome k' hfailed system rfl
    cases outcome with
    | error e => exact .pure fun _ _ => unchanged_of_untouched (hfailed e rfl)
    | ok w => exact .skip (fun _ => nofun) fun _ _ => .pure nofun

private theorem Unchanged.intact {s' : Session H} (h : s.Unchanged s') : s.Intact s' :=
  fun _ _ _ d _ => h.kernel.fileId? d

section

variable [Rights H] {own : Prop} {loose : Slots Descriptor} {hand : List (Holding H)}

/-- A handle that is taken out of a session shares no descriptor with those that are left. -/
theorem InCustody.disjoint (hs : InCustody own loose hand s) {source : String} {h h' : H}
    (hh : s.handles.get? source = some h) {holder : Holder}
    (hh' : ({ s with handles := s.handles.erase source } : Session H).holder? holder = some h') :
    ∀ d ∈ Backing.descriptors h', d ∉ Backing.descriptors h := by
  obtain ⟨header, hmem⟩ := mem_holdings_of_holder? hh'
  obtain ⟨-, hapart, -⟩ := Custody.cons_iff.mp (hs.takeHandle hh).front
  exact fun d hd' hd => (hapart _ (List.mem_append_right hand hmem)).disjoint d hd hd'

private theorem InCustody.intact (hs : InCustody own loose hand s) {attempt : Attempt}
    {s' : Session H} (hspares : attempt.Spares s s') : s.Intact s' := by
  cases attempt with
  | step step =>
    cases step with
    | take source header dest =>
      obtain ⟨h, hh, hcloses⟩ := hspares
      intro holder h' hh' d hd
      have hleft : ({ s with handles := s.handles.erase source } : Session H).holder? holder =
          some h' := by
        rw [← hh']
        cases holder with
        | handle name => exact congrArg (·.get? name) hcloses.handles.symm
        | region name =>
          exact congrArg (fun regions => (regions.get? name).bind (·.handle)) hcloses.regions.symm
      exact hcloses.kept d (hs.disjoint hh hleft d hd)
    | _ => exact Unchanged.intact hspares
  | _ => exact Unchanged.intact hspares

private theorem Reached.inCustody [LawfulBacking H] (h : s.Reached) :
    ∃ loose, InCustody True loose [] s := by
  obtain ⟨start, steps, hregions, hhandles, rfl⟩ := h
  exact ⟨start.loose, (inCustody_of_empty hregions hhandles).steps steps⟩

end

variable [CarefulBacking H]

theorem create_careful (mode : Mode) (size : Nat) (layout : Layout) (dest : String)
    (s : Session H) : (create mode size layout dest none).Yields s fun x s' =>
      ∀ e, x = some (.error e) → s.Unchanged s' := by
  refine .bind (.act ((Region.create_careful mode size layout _).mono ?_))
  rintro outcome k' ⟨-, hfailed⟩ system rfl
  cases outcome with
  | error e => exact .pure fun _ _ => unchanged_of_untouched (hfailed e rfl)
  | ok r =>
    exact .skip (fun _ => nofun) fun _ _ => .skip (fun _ => nofun) fun _ _ => .pure nofun

theorem convert_careful (name : String) (goal : Region.Downgrade) (s : Session H) :
    (convert name goal.conversion none).Yields s fun x s' =>
      ∀ e view, x = some (.error e, view) → s.Unchanged s' := by
  refine .bind (.held (fun _ _ he => nomatch he) fun r _ =>
    .bind (.act ((r.convert_careful goal _).mono ?_)))
  rintro outcome k' hfailed system rfl
  cases outcome with
  | error e =>
    exact .bind (.viewRegion fun _ => .pure fun _ _ _ => unchanged_of_untouched (hfailed e rfl))
  | ok converted =>
    refine .bind (.modify (.bind (.viewRegion fun _ => .pure ?_)))
    rintro e view ⟨⟩

theorem duplicate_careful (source dest : String) (s : Session H) :
    (duplicate source dest none).Yields s fun x s' =>
      ∀ e, x = some (.error e) → s.Unchanged s' := by
  refine .bind (.held nofun fun r _ => .bind (.act ((r.duplicate_careful _).mono ?_)))
  rintro outcome k' hfailed system rfl
  cases outcome with
  | error e => exact .pure fun _ _ => unchanged_of_untouched (hfailed e rfl)
  | ok copy =>
    exact .bind (.viewRegion fun _ => .skip (fun _ => nofun) fun _ _ =>
      .skip (fun _ => nofun) fun _ _ => .pure nofun)

private theorem allocate_careful (mode : Mode) (size : Nat) (dest : String) (s : Session H) :
    (allocate mode size dest none).Yields s fun x s' =>
      ∀ e, x = some (.error e) → s.Unchanged s' := by
  refine .bind (.act ((CarefulBacking.allocate mode size _).mono ?_))
  rintro outcome k' ⟨-, hfailed⟩ system rfl
  cases outcome with
  | error e => exact .pure fun _ _ => unchanged_of_untouched (hfailed e rfl)
  | ok h =>
    exact .skip (fun _ => nofun) fun _ _ => .skip (fun _ => nofun) fun _ _ => .pure nofun

private theorem convertHandle_careful (name : String) (goal : Region.Downgrade) (s : Session H) :
    (convertHandle name goal.conversion none).Yields s fun x s' =>
      ∀ e view, x = some (.error e, view) → s.Unchanged s' := by
  refine .bind (.held (fun _ _ he => nomatch he) fun h _ =>
    .bind (.act ((goal.native_careful h _).mono ?_)))
  rintro outcome k' hfailed system rfl
  cases outcome with
  | error e =>
    exact .bind (.viewHandle fun _ => .pure fun _ _ _ => unchanged_of_untouched (hfailed e rfl))
  | ok converted =>
    refine .bind (.modify (.bind (.viewHandle fun _ => .pure ?_)))
    rintro e view ⟨⟩

private theorem duplicateHandle_careful (source : Holder) (dest : String) (s : Session H) :
    (duplicateHandle source dest none).Yields s fun x s' =>
      ∀ e, x = some (.error e) → s.Unchanged s' := by
  refine .bind (.holder nofun fun h _ => .bind (.act ((CarefulBacking.duplicate h _).mono ?_)))
  rintro outcome k' hfailed system rfl
  cases outcome with
  | error e => exact .pure fun _ _ => unchanged_of_untouched (hfailed e rfl)
  | ok copy =>
    exact .skip (fun _ => nofun) fun _ _ => .skip (fun _ => nofun) fun _ _ => .pure nofun

variable [ModestBacking H]

theorem take_careful (source : String) (header : Header) (dest : String) (s : Session H) :
    (take source header dest).Yields s fun x s' => ∀ e, x = some (.error e) →
      ∃ h, s.handles.get? source = some h ∧ s.Closes source h s' := by
  refine .bind (.held nofun fun h hh => .bind (.modify (.bind (.run ?_))))
  have hmemory := Region.take_within Effect.sameMemory_closed h header s.system
  have htake := Region.take_careful h header _ s.system rfl
  cases hrun : (Region.take h header).run s.system with
  | mk outcome system =>
    rw [hrun] at hmemory htake
    cases outcome with
    | error e =>
      have hshift := htake e rfl
      exact .pure fun _ _ => ⟨h, hh, rfl, rfl, rfl, rfl, rfl, hmemory, hshift.files,
        hshift.closed, fun d hd => hshift.fileId? d hd List.not_mem_nil⟩
    | ok r => exact .skip (fun _ => nofun) fun _ _ => .bind (.viewRegion fun _ => .pure nofun)

theorem Attempt.spares {attempt : Attempt} (hfails : attempt.Fails s) :
    attempt.Spares s (attempt.run s) := by
  cases attempt with
  | step step =>
    cases step with
    | create mode size layout dest =>
      obtain ⟨e, he⟩ := hfails
      exact create_careful mode size layout dest s e he
    | convert name goal =>
      obtain ⟨e, view, he⟩ := hfails
      exact convert_careful name goal s e view he
    | duplicate source dest =>
      obtain ⟨e, he⟩ := hfails
      exact duplicate_careful source dest s e he
    | take source header dest =>
      obtain ⟨e, he⟩ := hfails
      exact take_careful source header dest s e he
    | map source offset size layout dest =>
      obtain ⟨e, he⟩ := hfails
      exact map_careful source offset size layout dest s e he
    | write name data offset =>
      obtain ⟨e, he⟩ := hfails
      exact window_careful (fun w => w.writeSlice_careful data offset _) e he
    | read name buffer offset =>
      obtain ⟨e, he⟩ := hfails
      exact window_careful (fun w => (w.readSlice_careful buffer offset _).mono
        fun _ _ hk' _ _ => hk') e he
    | writeObject name encoding value offset =>
      obtain ⟨e, he⟩ := hfails
      exact window_careful (fun w => w.writeObject_careful encoding value offset _) e he
    | readObject name encoding offset =>
      obtain ⟨e, he⟩ := hfails
      exact window_careful (fun w => (w.readObject_careful encoding offset _).mono
        fun _ _ hk' _ _ => hk') e he
    | _ => exact hfails.elim
  | allocate mode size dest =>
    obtain ⟨e, he⟩ := hfails
    exact allocate_careful mode size dest s e he
  | convertHandle name goal =>
    obtain ⟨e, view, he⟩ := hfails
    exact convertHandle_careful name goal s e view he
  | duplicateHandle source dest =>
    obtain ⟨e, he⟩ := hfails
    exact duplicateHandle_careful source dest s e he

variable [Rights H]

private theorem Attempt.leaves_intact [LawfulBacking H] {attempt : Attempt}
    (hfails : attempt.Fails s) (h : s.Reached) : s.Intact (attempt.run s) := by
  obtain ⟨loose, hs⟩ := h.inCustody
  exact hs.intact (Attempt.spares hfails)

/-- In every state an attempt that fails changes nothing, whichever calls the kernel turns down by
its plan and with whatever errors. Only a handle that is not accepted is closed, and no other
handle is affected by that in a session that started with nothing in use. -/
theorem failure_changes_nothing :
    (∀ (s : Session SealedFile) (attempt : Attempt), attempt.Fails s →
      attempt.Spares s (attempt.run s) ∧ (s.Reached → s.Intact (attempt.run s))) ∧
    (∀ (s : Session DescriptorPair) (attempt : Attempt), attempt.Fails s →
      attempt.Spares s (attempt.run s) ∧ (s.Reached → s.Intact (attempt.run s))) :=
  ⟨fun _ _ hfails => ⟨Attempt.spares hfails, Attempt.leaves_intact hfails⟩,
    fun _ _ hfails => ⟨Attempt.spares hfails, Attempt.leaves_intact hfails⟩⟩

/-- A writable region in a kernel that turns down both sets of seals that would make it
read-only. -/
def unsealableSession : Session SealedFile :=
  Session.runSteps { system := { kernel := { refusal := fun _ call =>
    match call with
    | .addSeals _ 17 => some .invalidArgument
    | .addSeals _ 9 => some .busy
    | _ => none } } } [.create .writable 100 .host "first"]

/-- The handle of a writable region is taken out while another region is in use. -/
def takenSession : Session DescriptorPair :=
  Session.runSteps {} [.create .writable 100 .host "first", .create .shared 200 .host "second",
    .takeHandle "first" "handle"]

def conversion : Attempt := .step (.convert "first" .readOnly)

/-- The handle is passed off as that of a shared region. -/
def mislabelled : Attempt := .step (.take "handle" ⟨.shared, 100, .nil⟩ "third")

theorem failure_changes_nothing_of_refusals :
    (conversion.Fails unsealableSession ∧
      conversion.Spares unsealableSession (conversion.run unsealableSession)) ∧
    (mislabelled.Fails takenSession ∧ takenSession.Reached ∧
      mislabelled.Spares takenSession (mislabelled.run takenSession) ∧
      takenSession.Intact (mislabelled.run takenSession)) := by
  have hconversion : conversion.Fails unsealableSession := ⟨_, _, rfl⟩
  have hmislabelled : mislabelled.Fails takenSession := ⟨_, rfl⟩
  have hreached : takenSession.Reached := ⟨_, _, rfl, rfl, rfl⟩
  obtain ⟨hspares, hintact⟩ := failure_changes_nothing.2 takenSession mislabelled hmislabelled
  exact ⟨⟨hconversion, (failure_changes_nothing.1 unsealableSession conversion hconversion).1⟩,
    ⟨hmislabelled, hreached, hspares, hintact hreached⟩⟩

end Session

end SharedMemory

import Mathlib.Algebra.GroupWithZero.Nat
import Mathlib.Data.List.Perm.Basic
import SharedMemory.Proofs.Session.Descriptors
import SharedMemory.Session.DescriptorPairs
import SharedMemory.Session.SealedFiles
/-!
# No descriptor is lost

Whatever a process does with regions, handles and loose descriptors, and whichever system calls
fail, each descriptor that was opened and not closed is owned by exactly one of them or was let go
by its owner. No descriptor is closed twice, since only what is owned is closed and what is closed
is no longer owned. So the open descriptors can be counted by looking at the owners.
-/
namespace SharedMemory

open Kernel Backing Effect Script

/-- A session with the descriptors that its owners have let go. -/
structure Estate (H : Type) where
  session : Session H
  released : List Descriptor := []

namespace Session

/-- Something that a process does with what it keeps. -/
inductive Errand : Type 1 where
  | attempt (a : Attempt)
  | check (source : Holder) (mode : Mode) (size : Nat)
  | compare (a b : Holder)
  | tryMap (source : Holder) (protection : Protection) (offset size : Nat)
  | cloneDescriptor (source dest : String)
  /-- The descriptor belongs to a handle that is only borrowed. -/
  | cloneBorrowed (source : Holder) (spare : Bool) (dest : String)
  | discardDescriptor (name : String)
  /-- A descriptor becomes a bare number. -/
  | letGo (name : String)
  /-- A number that was let go becomes a descriptor again. -/
  | takeUp (place : Nat) (dest : String)

/-- Something that a process does with sealed files. -/
inductive SealedErrand : Type 1 where
  | basic (errand : Errand)
  | unwrap (source dest : String)
  | enclose (source dest : String)
  | rewrap (name : String)
  /-- A handle of a descriptor that was made elsewhere. -/
  | receive (source : Source) (genuine : source ≠ .nowhere) (dest : String)

/-- Something that a process does with descriptor pairs. -/
inductive PairErrand : Type 1 where
  | basic (errand : Errand)
  | takeApart (source dest spareDest : String)
  | join (first : String) (spare : Option String) (dest : String)
  /-- An end of a pipe that was made elsewhere. -/
  | receive (reader : Bool) (dest : String)

variable {H : Type} [Backing H]

/-- Takes up one of the descriptors that were let go. -/
def takeUpReleased (e : Estate H) (place : Nat) (dest : String) : Estate H :=
  match e.released[place]? with
  | none => e
  | some d =>
    { session := (Session.takeUp d dest).leave e.session
      released := e.released.eraseIdx place }

def Errand.run (e : Estate H) : Errand → Estate H
  | .attempt a => { e with session := a.run e.session }
  | .check source mode size =>
    { e with session := (Session.check source mode size none).leave e.session }
  | .compare a b => { e with session := (Session.compare a b).leave e.session }
  | .tryMap source protection offset size =>
    { e with session := (Session.tryMap source protection offset size none).leave e.session }
  | .cloneDescriptor source dest =>
    { e with session := (Session.cloneDescriptor source dest).leave e.session }
  | .cloneBorrowed source spare dest =>
    { e with session := (Session.cloneBorrowed source spare dest).leave e.session }
  | .discardDescriptor name =>
    { e with session := (Session.discardDescriptor name).leave e.session }
  | .letGo name =>
    { session := (Session.letGo name).leave e.session
      released := ((Session.letGo name).answer e.session).toList ++ e.released }
  | .takeUp place dest => takeUpReleased e place dest

def SealedErrand.run (e : Estate SealedFile) : SealedErrand → Estate SealedFile
  | .basic errand => errand.run e
  | .unwrap source dest => { e with session := (Session.unwrap source dest).leave e.session }
  | .enclose source dest => { e with session := (Session.enclose source dest).leave e.session }
  | .rewrap name => { e with session := (Session.rewrap name).leave e.session }
  | .receive source _ dest => { e with session := (Session.wrap source dest).leave e.session }

def PairErrand.run (e : Estate DescriptorPair) : PairErrand → Estate DescriptorPair
  | .basic errand => errand.run e
  | .takeApart source dest spareDest =>
    { e with session := (Session.takeApart source dest spareDest).leave e.session }
  | .join first spare dest => { e with session := (Session.join first spare dest).leave e.session }
  | .receive reader dest =>
    { e with session := (Session.adopt (pipeEnd reader) dest).leave e.session }

/-- The handles in use, those of regions first. -/
def liveHandles (s : Session H) : List H :=
  s.regions.values.filterMap (·.handle) ++ s.handles.values

/-- Nothing is kept that could own a descriptor. -/
structure OwnsNothing (s : Session H) : Prop where
  regions : s.regions = .empty
  handles : s.handles = .empty
  loose : s.loose = .empty

end Session

/-- All that was opened since the kernel `start` and not closed is owned by one owner or let go. -/
structure Accounted {H : Type} [Backing H] (start : Kernel) (e : Estate H) : Prop where
  /-- The calls that were made close nothing but what was owned and not closed before. -/
  turnover : Turnover start [] e.session.system.kernel (e.released ++ e.session.owned)
  /-- No descriptor has two owners, and none that was open before has one. -/
  single : (e.released ++ e.session.owned ++ start.roster).Nodup
  /-- What is open is owned, or was let go, or was open before. -/
  open_iff : ∀ d, e.session.system.kernel.InUse d ↔
    d ∈ e.released ++ e.session.owned ++ start.roster
  /-- The open descriptors are counted by their owners. -/
  count : e.session.openCount = start.openCount + e.released.length +
    (e.session.liveHandles.map fun h => (Backing.descriptors h).length).sum +
      e.session.loose.values.length

namespace Session

variable {H : Type} [Backing H] {k₀ : Kernel} {e : Estate H}

private theorem length_flatMap_handles (regions : List (Region H)) :
    (regions.flatMap Region.descriptors).length =
      ((regions.filterMap (·.handle)).map fun h => (Backing.descriptors h).length).sum := by
  induction regions with
  | nil => rfl
  | cons r rest ih =>
    rw [List.flatMap_cons, List.length_append, ih, List.filterMap_cons]
    cases hr : r.handle with
    | none => rw [Region.descriptors_of_none hr, List.length_nil, Nat.zero_add]
    | some h => rw [Region.descriptors_of_some hr, List.map_cons, List.sum_cons]

private theorem length_owned (s : Session H) : s.owned.length =
    (s.liveHandles.map fun h => (Backing.descriptors h).length).sum + s.loose.values.length := by
  have hhandles : s.handles.collect (Inventory.descriptors (H := H)).handle =
      s.handles.gather Backing.descriptors := s.handles.collect_const Backing.descriptors
  have hloose : s.loose.gather (Inventory.descriptors (H := H)).loose = s.loose.values :=
    List.flatMap_singleton' s.loose.values
  rw [owned, items, hhandles, hloose, List.length_append, List.length_append, liveHandles,
    List.map_append, List.sum_append, ← length_flatMap_handles, ← List.length_flatMap,
    Nat.add_assoc]
  rfl

theorem accounted_of_stocked (hs : Stocked .descriptors (Accounts k₀) e.released e.session) :
    Accounted k₀ e := by
  have hroster : Roster e.session.system.kernel (e.released ++ e.session.owned ++ k₀.roster) :=
    Turnover.roster hs.has k₀.roster_roster
  refine ⟨hs.has, hroster.nodup, fun d => (hroster.mem_iff d).symm, ?_⟩
  have hcount := k₀.roster_roster.openCount
  rw [openCount, hroster.openCount, List.length_append, List.length_append, length_owned, ← hcount]
  omega

variable [ThriftyBacking H]

private theorem attempt_stocked {hand : List Descriptor} {s : Session H} (attempt : Attempt)
    (hs : Stocked .descriptors (Accounts k₀) hand s) :
    Stocked .descriptors (Accounts k₀) hand (attempt.run s) := by
  cases attempt with
  | step step => exact step_stocked step hs
  | allocate mode size dest => exact allocate_stocked mode size dest hs
  | convertHandle name goal => exact convertHandle_stocked name goal hs
  | duplicateHandle source dest => exact duplicateHandle_stocked source dest hs

private theorem takeUpReleased_stocked (place : Nat) (dest : String)
    (hs : Stocked .descriptors (Accounts k₀) e.released e.session) :
    Stocked .descriptors (Accounts k₀) (takeUpReleased e place dest).released
      (takeUpReleased e place dest).session := by
  unfold takeUpReleased
  split
  · exact hs
  · rename_i d hd
    obtain ⟨hlt, rfl⟩ := List.getElem?_eq_some_iff.mp hd
    have hperm := (List.getElem_cons_eraseIdx_perm hlt).symm
    exact takeUp_stocked dest (hs.perm (accounts_last k₀) hperm)

theorem Errand.stocked (errand : Errand)
    (hs : Stocked .descriptors (Accounts k₀) e.released e.session) :
    Stocked .descriptors (Accounts k₀) (errand.run e).released (errand.run e).session := by
  have hclosed := accounts_closed k₀
  cases errand with
  | attempt a => exact attempt_stocked a hs
  | check source mode size =>
    exact holder_stocked source hs fun h => ThriftyBacking.corresponds h mode size hclosed
  | compare a b => exact compare_stocked a b hs
  | tryMap source protection offset size => exact tryMap_stocked source protection offset size hs
  | cloneDescriptor source dest => exact cloneDescriptor_stocked source dest hs
  | cloneBorrowed source spare dest => exact cloneBorrowed_stocked source spare dest hs
  | discardDescriptor name => exact discardDescriptor_stocked name hs
  | letGo name => exact letGo_stocked name hs
  | takeUp place dest => exact takeUpReleased_stocked place dest hs

section SealedFiles

variable {hand : List Descriptor} {s : Session SealedFile}

private theorem unwrap_stocked (source dest : String)
    (hs : Stocked .descriptors (Accounts k₀) hand s) :
    (unwrap source dest).Yields s fun _ s' => Stocked .descriptors (Accounts k₀) hand s' := by
  refine .bind (.held hs fun h hh => .bind (.modify ?_))
  have hd : Stocked .descriptors (Accounts k₀) (h.fd :: hand)
      { s with handles := s.handles.erase source } := hs.takeHandle (accounts_last k₀) hh
  exact .keep ((putDescriptor_stocked hd).mono fun _ _ hs' => hs'.2) fun _ _ hs' =>
    .viewDescriptor fun _ => hs'

private theorem enclose_stocked (source dest : String)
    (hs : Stocked .descriptors (Accounts k₀) hand s) :
    (enclose source dest).Yields s fun _ s' => Stocked .descriptors (Accounts k₀) hand s' := by
  refine .bind (.held hs fun d hd => .bind (.modify ?_))
  have hh : Stocked .descriptors (Accounts k₀) (Backing.descriptors (⟨d⟩ : SealedFile) ++ hand)
      { s with loose := s.loose.erase source } := hs.takeDescriptor hd
  exact .keep (putHandle_accounts hh) fun _ _ hs' => .viewHandle fun _ => hs'

private theorem rewrap_stocked (name : String) (hs : Stocked .descriptors (Accounts k₀) hand s) :
    (rewrap name).Yields s fun _ s' => Stocked .descriptors (Accounts k₀) hand s' := by
  refine .bind (.held hs fun h hh => .bind (.modify (.bind (.viewHandle fun _ => .pure ?_))))
  exact (hs.takeHandle (accounts_last k₀) hh).putBack (accounts_last k₀) hs.handles

private theorem makeDescriptor_stocked {source : Source} (genuine : source ≠ .nowhere)
    (hs : Stocked .descriptors (Accounts k₀) hand s) :
    (makeDescriptor source).Yields s fun x s' =>
      Stocked .descriptors (Accounts k₀) ((x.bind Except.toOption).toList ++ hand) s' := by
  have hact : ∀ {a : Effect (Except Errno Descriptor)},
      (a.Yields s.system.kernel fun outcome k' =>
        Turnover k₀ [] k' (outcome.toOption.toList ++ (hand ++ s.owned))) →
      (act a).Yields s fun x s' =>
        Stocked .descriptors (Accounts k₀) ((x.bind Except.toOption).toList ++ hand) s' :=
    fun ha => .leads ((Leads.of_yields ha).mono fun _ _ hy => hs.gain hy)
  cases source with
  | memory size sealing =>
    refine .bind ((hact (Turnover.attempt (.createMemory sealing) rfl rfl rfl hs.has)).mono ?_)
    intro x s₁ hs₁
    cases x with
    | none => exact hs₁
    | some outcome =>
      cases outcome with
      | error e => exact .pure hs₁
      | ok d =>
        have hlength := (accounts_closed k₀).attempt (.setLength d (SealedFile.signed size)) rfl
          fun _ => rfl
        exact .bind (.leads (.of_run (.pure (hs₁.act (hlength _ _ hs₁.has)))))
  | pipeReader => exact hact (pipeEnd_turnover true hs.has)
  | pipeWriter => exact hact (pipeEnd_turnover false hs.has)
  | nowhere => exact absurd rfl genuine
  | reopened source access =>
    exact .bind (.holder hs fun h _ =>
      hact (Turnover.attempt (.reopen h.fd access) rfl rfl rfl hs.has))

private theorem wrap_stocked (source : Source) (genuine : source ≠ .nowhere) (dest : String)
    (hs : Stocked .descriptors (Accounts k₀) hand s) :
    (wrap source dest).Yields s fun _ s' => Stocked .descriptors (Accounts k₀) hand s' := by
  refine .bind ((makeDescriptor_stocked genuine hs).mono ?_)
  intro x s' hs'
  cases x with
  | none => exact hs'
  | some outcome =>
    cases outcome with
    | error e => exact .pure hs'
    | ok d =>
      exact .keep (putHandle_accounts hs') fun _ _ hs'' => .bind (.viewHandle fun _ => .pure hs'')

end SealedFiles

section DescriptorPairs

variable {hand : List Descriptor} {s : Session DescriptorPair}

private theorem takeApart_stocked (source dest spareDest : String)
    (hs : Stocked .descriptors (Accounts k₀) hand s) :
    (takeApart source dest spareDest).Yields s fun _ s' =>
      Stocked .descriptors (Accounts k₀) hand s' := by
  refine .bind (.held hs fun h hh => .bind (.modify ?_))
  have htake := hs.takeHandle (accounts_last k₀) hh
  obtain ⟨fd, spare⟩ := h
  have hfd : Stocked .descriptors (Accounts k₀) (fd :: (spare.toList ++ hand))
      { s with handles := s.handles.erase source } := htake
  refine .bind ((putDescriptor_stocked hfd).mono ?_)
  rintro x s' ⟨rfl, hs'⟩
  refine .bind (.viewDescriptor fun _ => ?_)
  cases spare with
  | none => exact .pure hs'
  | some spare =>
    exact .keep ((putDescriptor_stocked hs').mono fun _ _ hs'' => hs''.2) fun _ _ hs'' =>
      .bind (.viewDescriptor fun _ => .pure hs'')

private theorem join_stocked (first : String) (spare : Option String) (dest : String)
    (hs : Stocked .descriptors (Accounts k₀) hand s) :
    (join first spare dest).Yields s fun _ s' => Stocked .descriptors (Accounts k₀) hand s' := by
  refine .bind (.held hs fun d hd => ?_)
  cases spare with
  | none =>
    have hh : Stocked .descriptors (Accounts k₀)
        (Backing.descriptors (⟨d, none⟩ : DescriptorPair) ++ hand)
        { s with loose := s.loose.erase first } := hs.takeDescriptor hd
    exact .bind (.pure (.bind (.modify (.keep (putHandle_accounts hh) fun _ _ hs' =>
      .bind (.viewHandle fun _ => .pure hs')))))
  | some name =>
    refine .bind (.held hs fun d' hd' => ?_)
    have hclone := Turnover.attempt (.duplicate d') rfl rfl rfl hs.has
    refine .bind (.leads ((Leads.of_yields hclone).mono fun outcome y hy => .bind (.pure ?_)))
    cases outcome with
    | error e => exact .pure (hs.act hy)
    | ok copy =>
      have hcopy : Stocked .descriptors (Accounts k₀) (copy :: hand) { s with system := y } :=
        hs.act hy
      have hh : Stocked .descriptors (Accounts k₀)
          (Backing.descriptors (⟨d, some copy⟩ : DescriptorPair) ++ hand)
          { s with system := y, loose := s.loose.erase first } := hcopy.takeDescriptor hd
      exact .bind (.modify (.keep (putHandle_accounts hh) fun _ _ hs' =>
        .bind (.viewHandle fun _ => .pure hs')))

private theorem adopt_stocked (reader : Bool) (dest : String)
    (hs : Stocked .descriptors (Accounts k₀) hand s) :
    (adopt (pipeEnd reader) dest).Yields s fun _ s' =>
      Stocked .descriptors (Accounts k₀) hand s' := by
  refine .bind (.leads ((Leads.of_yields (pipeEnd_turnover reader hs.has)).mono ?_))
  intro outcome y hy
  cases outcome with
  | error e => exact .pure (hs.act hy)
  | ok d =>
    have hd : Stocked .descriptors (Accounts k₀) (d :: hand) { s with system := y } := hs.act hy
    exact .keep ((putDescriptor_stocked hd).mono fun _ _ hs' => hs'.2) fun _ _ hs' =>
      .bind (.viewDescriptor fun _ => .pure hs')

end DescriptorPairs

theorem SealedErrand.stocked {e : Estate SealedFile} (errand : SealedErrand)
    (hs : Stocked .descriptors (Accounts k₀) e.released e.session) :
    Stocked .descriptors (Accounts k₀) (errand.run e).released (errand.run e).session := by
  cases errand with
  | basic errand => exact errand.stocked hs
  | unwrap source dest => exact unwrap_stocked source dest hs
  | enclose source dest => exact enclose_stocked source dest hs
  | rewrap name => exact rewrap_stocked name hs
  | receive source genuine dest => exact wrap_stocked source genuine dest hs

theorem PairErrand.stocked {e : Estate DescriptorPair} (errand : PairErrand)
    (hs : Stocked .descriptors (Accounts k₀) e.released e.session) :
    Stocked .descriptors (Accounts k₀) (errand.run e).released (errand.run e).session := by
  cases errand with
  | basic errand => exact errand.stocked hs
  | takeApart source dest spareDest => exact takeApart_stocked source dest spareDest hs
  | join first spare dest => exact join_stocked first spare dest hs
  | receive reader dest => exact adopt_stocked reader dest hs

def runSealed (e : Estate SealedFile) (errands : List SealedErrand) : Estate SealedFile :=
  errands.foldl SealedErrand.run e

def runPairs (e : Estate DescriptorPair) (errands : List PairErrand) : Estate DescriptorPair :=
  errands.foldl PairErrand.run e

private theorem runSealed_stocked (e : Estate SealedFile) (errands : List SealedErrand)
    (hs : Stocked .descriptors (Accounts k₀) e.released e.session) :
    Stocked .descriptors (Accounts k₀) (runSealed e errands).released
      (runSealed e errands).session := by
  induction errands generalizing e with
  | nil => exact hs
  | cons errand rest ih => exact ih _ (errand.stocked hs)

theorem runPairs_stocked (e : Estate DescriptorPair) (errands : List PairErrand)
    (hs : Stocked .descriptors (Accounts k₀) e.released e.session) :
    Stocked .descriptors (Accounts k₀) (runPairs e errands).released
      (runPairs e errands).session := by
  induction errands generalizing e with
  | nil => exact hs
  | cons errand rest ih => exact ih _ (errand.stocked hs)

omit [ThriftyBacking H] in
theorem OwnsNothing.stocked {s : Session H} (h : s.OwnsNothing) :
    Stocked .descriptors (Accounts s.system.kernel) [] s :=
  stocked_of_empty h.regions h.handles h.loose .refl

/-- A sealed file owns one descriptor and a pair owns one or two: two exactly when it carries the
descriptor kept for becoming read-only. -/
theorem descriptors_accounted :
    (∀ (start : Session SealedFile) (errands : List SealedErrand), start.OwnsNothing →
      let e := runSealed ⟨start, []⟩ errands
      Accounted start.system.kernel e ∧
        e.session.openCount = start.openCount + e.released.length +
          e.session.liveHandles.length + e.session.loose.values.length) ∧
    (∀ (start : Session DescriptorPair) (errands : List PairErrand), start.OwnsNothing →
      let e := runPairs ⟨start, []⟩ errands
      Accounted start.system.kernel e ∧
        e.session.openCount = start.openCount + e.released.length +
          (e.session.liveHandles.map fun h => if h.spare.isSome then 2 else 1).sum +
            e.session.loose.values.length) := by
  constructor
  · intro start errands hstart e
    have he := accounted_of_stocked (runSealed_stocked ⟨start, []⟩ errands hstart.stocked)
    refine ⟨he, ?_⟩
    have hone : (e.session.liveHandles.map fun h => (Backing.descriptors h).length).sum =
        e.session.liveHandles.length := by
      change (e.session.liveHandles.map fun _ => 1).sum = e.session.liveHandles.length
      rw [List.map_const', List.sum_replicate_nat, Nat.mul_one]
    rw [← hone]
    exact he.count
  · intro start errands hstart e
    have he := accounted_of_stocked (runPairs_stocked ⟨start, []⟩ errands hstart.stocked)
    refine ⟨he, ?_⟩
    have hone : (fun h : DescriptorPair => (Backing.descriptors h).length) =
        fun h => if h.spare.isSome then 2 else 1 := by
      funext h
      obtain ⟨fd, spare⟩ := h
      cases spare with
      | none => rfl
      | some spare => rfl
    rw [← hone]
    exact he.count

/-- A writable region is converted, its copy is taken apart down to the number, and a handle with a
wrong header is not accepted. -/
def sealedErrands : List SealedErrand :=
  [.basic (.attempt (.step (.create .writable 100 .host "first"))),
    .basic (.attempt (.step (.convert "first" .shared))),
    .basic (.attempt (.step (.duplicate "first" "second"))),
    .basic (.attempt (.step (.takeHandle "second" "handle"))), .unwrap "handle" "loose",
    .basic (.cloneDescriptor "loose" "clone"), .enclose "clone" "handle",
    .basic (.attempt (.step (.take "handle" ⟨.readOnly, 100, .nil⟩ "third"))),
    .basic (.letGo "loose")]

/-- A process that may have three descriptors open. -/
def crampedSession : Session DescriptorPair := { system := { kernel := { limit := some 3 } } }

/-- The second clone of a writable pair fails. -/
def pairErrands : List PairErrand :=
  [.basic (.attempt (.allocate .writable 4096 "handle")),
    .basic (.attempt (.duplicateHandle (.handle "handle") "copy"))]

theorem descriptors_accounted_of_failures :
    (∃ start : Session SealedFile, start.OwnsNothing ∧
      Accounted start.system.kernel (runSealed ⟨start, []⟩ sealedErrands) ∧
      (runSealed ⟨start, []⟩ sealedErrands).released = [⟨1⟩] ∧
      (runSealed ⟨start, []⟩ sealedErrands).session.openCount = 2) ∧
    crampedSession.OwnsNothing ∧
      Accounted crampedSession.system.kernel (runPairs ⟨crampedSession, []⟩ pairErrands) ∧
      (duplicateHandle (H := DescriptorPair) (.handle "handle") "copy" none).answer
        ((PairErrand.basic (.attempt (.allocate .writable 4096 "handle"))).run
          ⟨crampedSession, []⟩).session = some (.error .tooManyOpen) ∧
      (runPairs ⟨crampedSession, []⟩ pairErrands).session.openCount = 2 := by
  have hsealed : ({} : Session SealedFile).OwnsNothing := ⟨rfl, rfl, rfl⟩
  have hpairs : crampedSession.OwnsNothing := ⟨rfl, rfl, rfl⟩
  exact ⟨⟨{}, hsealed, (descriptors_accounted.1 {} sealedErrands hsealed).1, by rfl, by rfl⟩,
    hpairs, (descriptors_accounted.2 crampedSession pairErrands hpairs).1, by rfl, by rfl⟩

end Session

end SharedMemory

import SharedMemory.Logging.Logger
import SharedMemory.Proofs.Logging.Filter
/-!
# Whoever comes first decides about the logger

A process asks for our logger any number of times, and foreign loggers are installed in between.
The first request gets its logger if there was room for it, and then every other request is granted
too. If a foreign logger came before it, then it fails and so does every request after it, each with
the error of its place. After the first request nothing about the loggers changes any more.
-/
namespace SharedMemory.Logging

/-- The three ways to ask for our logger. -/
inductive Request where
  | byDefault
  | with (config : LogConfig)
  | verbose

/-- What concerns the logger of a process: our requests and the loggers of others. -/
inductive Step where
  | ask (r : Request)
  | foreign (id : Nat)

inductive Answer where
  | outcome (o : Except LogError Unit)
  | room (granted : Bool)

namespace Request

def run : Request → StateM Logging (Except LogError Unit × List String)
  | byDefault => requestDefault
  | .with config => request config
  | verbose => requestVerbose

def config : Request → LogConfig
  | byDefault => {}
  | .with config => config
  | verbose => { filter := "trace" }

def captured : Request → Bool
  | verbose => true
  | _ => false

/-- The logger that is asked for. -/
def logger (r : Request) : Logger := ⟨(Filter.read r.config.filter).1, r.config.echo, r.captured⟩

private theorem run_eq (r : Request) : r.run = install r.config r.captured := by
  cases r with
  | byDefault => rfl
  | «with» config => rfl
  | verbose => rfl

end Request

namespace Step

def run (step : Step) (l : Logging) : Answer × Logging :=
  match step with
  | ask r =>
    let (x, l) := r.run l
    (.outcome x.1, l)
  | foreign id =>
    let (granted, l) := installForeign id l
    (.room granted, l)

/-- The answer to a step that comes after the first request, if that got its logger or not. -/
def lateAnswer (ready : Bool) : Step → Answer
  | ask _ => .outcome (if ready then .ok () else .error .poisoned)
  | foreign _ => .room false

end Step

/-- The answers to some steps, and what they lead to. -/
def runSteps : List Step → Logging → List Answer × Logging
  | [], l => ([], l)
  | step :: rest, l =>
    let (answer, l) := step.run l
    let (answers, l) := runSteps rest l
    (answer :: answers, l)

variable {l : Logging}

private theorem runSteps_cons (step : Step) (rest : List Step) (l : Logging) :
    runSteps (step :: rest) l =
      ((step.run l).1 :: (runSteps rest (step.run l).2).1, (runSteps rest (step.run l).2).2) := rfl

private theorem runSteps_append (steps rest : List Step) (l : Logging) :
    runSteps (steps ++ rest) l =
      ((runSteps steps l).1 ++ (runSteps rest (runSteps steps l).2).1,
        (runSteps rest (runSteps steps l).2).2) := by
  induction steps generalizing l with
  | nil => rfl
  | cons step steps ih => rw [List.cons_append, runSteps_cons, ih, runSteps_cons]; rfl

private theorem Step.run_of_settled (hattempted : l.attempted = true)
    (hthere : l.installed.isSome = true)
    (step : Step) : step.run l = (step.lateAnswer l.ready, l) := by
  cases step with
  | ask r =>
    have hinstall : install r.config r.captured l =
        ((if l.ready then .ok () else .error .poisoned, []), l) := by
      unfold install
      rw [if_pos hattempted]
    rw [Step.run, r.run_eq, hinstall]
    rfl
  | foreign id =>
    obtain ⟨i, hi⟩ := Option.isSome_iff_exists.mp hthere
    have hinstall : installForeign id l = (false, l) := by
      unfold installForeign
      rw [hi]
    rw [Step.run, hinstall]
    rfl

private theorem runSteps_of_settled (hattempted : l.attempted = true)
    (hthere : l.installed.isSome = true) (steps : List Step) :
    runSteps steps l = (steps.map (·.lateAnswer l.ready), l) := by
  induction steps with
  | nil => rfl
  | cons step rest ih =>
    rw [runSteps_cons, Step.run_of_settled hattempted hthere, ih, List.map_cons]

/-- A process without any logger. Whatever the level is, somebody else has set it. -/
def vacant (level : Threshold) : Logging := { maxLevel := level }

/-- A process with a foreign logger that has not asked for ours. -/
def occupied (id : Nat) (level : Threshold) : Logging :=
  { vacant level with installed := some (.foreign id) }

/-- A process that has asked in vain. -/
def refused (id : Nat) (level : Threshold) : Logging := { occupied id level with attempted := true }

/-- A process with the logger that it has asked for. -/
def granted (logger : Logger) : Logging where
  installed := some (.own logger)
  maxLevel := logger.filter.maxLevel
  attempted := true
  ready := true

section

variable {logger : Logger}

/-- What is looked at first hides nothing that the filter of our logger lets pass. -/
theorem enables_granted (level : Level) (target : String) :
    (granted logger).enables level target = logger.filter.enables level target := by
  have hfirst : (granted logger).enables level target =
      (logger.filter.maxLevel.passes level && logger.filter.enables level target) := rfl
  rw [hfirst, Bool.and_eq_right_iff_imp]
  exact Filter.maxLevel_passes_of_enables

theorem prints_granted (r : Record) :
    (granted logger).prints r = (logger.echo && logger.filter.passes r) := by
  have hfirst : (granted logger).prints r =
      (logger.filter.maxLevel.passes r.level && (logger.echo && logger.filter.passes r)) := rfl
  rw [hfirst, Bool.and_eq_right_iff_imp]
  intro h
  simp only [Filter.passes, Bool.and_eq_true] at h
  exact Filter.maxLevel_passes_of_enables h.2.1

end

variable (level : Threshold)

private theorem run_ask_of_vacant (r : Request) :
    (Step.ask r).run (vacant level) = (.outcome (.ok ()), granted r.logger) := by
  rw [Step.run, r.run_eq]
  rfl

private theorem run_ask_of_occupied (id : Nat) (r : Request) :
    (Step.ask r).run (occupied id level) = (.outcome (.error .occupied), refused id level) := by
  rw [Step.run, r.run_eq]
  rfl

private theorem runSteps_foreign_of_occupied (id : Nat) (ids : List Nat) :
    runSteps (ids.map .foreign) (occupied id level) =
      (ids.map fun _ => .room false, occupied id level) := by
  induction ids with
  | nil => rfl
  | cons next ids ih =>
    have hstep : (Step.foreign next).run (occupied id level) = (.room false, occupied id level) :=
      rfl
    simp only [List.map_cons, runSteps_cons, hstep, ih]

private theorem runSteps_foreign (id : Nat) (ids : List Nat) :
    runSteps ((id :: ids).map .foreign) (vacant level) =
      (.room true :: ids.map fun _ => .room false, occupied id level) := by
  have hstep : (Step.foreign id).run (vacant level) = (.room true, occupied id level) := rfl
  simp only [List.map_cons, runSteps_cons, hstep, runSteps_foreign_of_occupied]

private theorem runSteps_ask_of_vacant (first : Request) (later : List Step) :
    runSteps (.ask first :: later) (vacant level) =
      (.outcome (.ok ()) :: later.map (·.lateAnswer true), granted first.logger) := by
  rw [runSteps_cons, run_ask_of_vacant, runSteps_of_settled rfl rfl]
  rfl

private theorem runSteps_ask_of_foreign (id : Nat) (ids : List Nat) (first : Request)
    (later : List Step) :
    runSteps ((id :: ids).map .foreign ++ .ask first :: later) (vacant level) =
      (.room true :: (ids.map fun _ => .room false) ++
        .outcome (.error .occupied) :: later.map (·.lateAnswer false), refused id level) := by
  rw [runSteps_append, runSteps_foreign, runSteps_cons, run_ask_of_occupied,
    runSteps_of_settled rfl rfl]
  rfl

private theorem eq_foreign_or_first_request (steps : List Step) :
    (∃ ids : List Nat, steps = ids.map .foreign) ∨
      ∃ (ids : List Nat) (first : Request) (later : List Step),
        steps = ids.map .foreign ++ .ask first :: later := by
  induction steps with
  | nil => exact .inl ⟨[], rfl⟩
  | cons step rest ih =>
    cases step with
    | ask first => exact .inr ⟨[], first, rest, rfl⟩
    | foreign id =>
      rcases ih with ⟨ids, hids⟩ | ⟨ids, first, later, hids⟩
      · exact .inl ⟨id :: ids, by rw [hids, List.map_cons]⟩
      · exact .inr ⟨id :: ids, first, later, by rw [hids, List.map_cons, List.cons_append]⟩

/-- A sequence of requests and foreign loggers has no request in it or is of one of two kinds. If no
foreign logger comes before the first request, then all requests are granted and all foreign
loggers refused, and from the first request on there is its logger, with its filter and its
destination, and the level is that of its filter. If foreign loggers come before it, then the first
of them is installed, the first request finds the place occupied, every other request comes too
late, and that foreign logger stays, as does the level that was set by others. -/
theorem first_request_decides (steps : List Step) :
    (∃ ids : List Nat, steps = ids.map .foreign) ∨
    (∃ first later, steps = .ask first :: later ∧
      (runSteps steps (vacant level)).1 =
        .outcome (.ok ()) :: later.map (·.lateAnswer true) ∧
      ∀ passed, (runSteps (.ask first :: later.take passed) (vacant level)).2 =
        granted first.logger) ∨
    ∃ (id : Nat) (ids : List Nat) (first : Request) (later : List Step),
      steps = (id :: ids).map .foreign ++ .ask first :: later ∧
      (runSteps steps (vacant level)).1 =
        .room true :: (ids.map fun _ => .room false) ++
          .outcome (.error .occupied) :: later.map (·.lateAnswer false) ∧
      (runSteps ((id :: ids).map .foreign) (vacant level)).2 = occupied id level ∧
      ∀ passed, (runSteps ((id :: ids).map .foreign ++ .ask first :: later.take passed)
        (vacant level)).2 = refused id level := by
  rcases eq_foreign_or_first_request steps with hnone | ⟨ids, first, later, hsteps⟩
  · exact .inl hnone
  · cases ids with
    | nil =>
      refine .inr (.inl ⟨first, later, hsteps, ?_, fun passed => ?_⟩)
      · rw [hsteps]
        exact congrArg Prod.fst (runSteps_ask_of_vacant level first later)
      · rw [runSteps_ask_of_vacant]
    | cons id ids =>
      refine .inr (.inr ⟨id, ids, first, later, hsteps, ?_, ?_, fun passed => ?_⟩)
      · rw [hsteps, runSteps_ask_of_foreign]
      · rw [runSteps_foreign]
      · rw [runSteps_ask_of_foreign]

/-- Other settings make no difference once a foreign logger has kept the first request out. -/
example : (runSteps [.foreign 1, .ask .byDefault, .ask (.with ⟨"debug", false⟩), .foreign 2] {}).1 =
    [.room true, .outcome (.error .occupied), .outcome (.error .poisoned), .room false] :=
  rfl

end SharedMemory.Logging

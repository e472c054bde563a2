import SharedMemory.Backing.DescriptorPair
import SharedMemory.Proofs.Backing.SealedFile
import SharedMemory.Proofs.Kernel.Recording
import SharedMemory.Proofs.Region
import SharedMemory.Window
/-!
# What an error is blamed on

An operation that the system lets down names the error of the call that decided its failure. After
that call nothing is done but cleaning up, and what the clean-up leaves in the error cell is no
matter. Only sealing a file for reading is tried a second time.
-/
namespace SharedMemory

open Kernel Effect

/-- Giving back what is not needed any longer. -/
def Call.tidies : Call → Bool
  | .close _ | .unlinkShared _ | .unmap _ => true
  | _ => false

/-- The error of the first call that failed, clean-up aside. The calls are in order. -/
def firstFailure? (events : List Event) : Option Errno :=
  events.findSome? fun event => if event.call.tidies then none else event.error

/-- What an answer blames, if anything, after these calls. -/
structure Blames (own : Errno → Prop) (cause : Option Errno) (events : List Event) : Prop where
  /-- It is the first failure, or a refusal of the library's own after calls that went well. -/
  first : cause = firstFailure? events ∨ firstFailure? events = none ∧ ∃ e, cause = some e ∧ own e
  /-- No other call fails but in the clean-up. -/
  only : ∀ event ∈ events, event.call.tidies = false → ∀ e, event.error = some e → cause = some e

private theorem firstFailure?_concat (events : List Event) (event : Event) :
    firstFailure? (events ++ [event]) =
      (firstFailure? events).or (if event.call.tidies then none else event.error) := by
  rw [firstFailure?, List.findSome?_append, List.findSome?_singleton]
  rfl

namespace Blames

variable {own : Errno → Prop} {cause : Option Errno} {events : List Event} {c : Call}

theorem nil (own : Errno → Prop) : Blames own none [] := ⟨.inl rfl, nofun⟩

theorem mono {own' : Errno → Prop} (h : Blames own cause events) (hown : ∀ e, own e → own' e) :
    Blames own' cause events :=
  ⟨h.first.imp_right fun ⟨hnone, e, he, hrefused⟩ => ⟨hnone, e, he, hown e hrefused⟩, h.only⟩

private theorem firstFailure?_of_none (h : Blames own none events) :
    firstFailure? events = none := by
  rcases h.first with hfirst | ⟨hfirst, -⟩
  · exact hfirst.symm
  · exact hfirst

private theorem decided (h : Blames own none events) (hc : c.tidies = false)
    (error : Option Errno) :
    Blames own error (events ++ [⟨c, error⟩]) := by
  refine ⟨.inl ?_, fun event hevent htidies e he => ?_⟩
  · rw [firstFailure?_concat, h.firstFailure?_of_none, Option.none_or, hc]
    rfl
  · rcases List.mem_append.mp hevent with hevent | hevent
    · exact nomatch h.only event hevent htidies e he
    · obtain rfl := List.mem_singleton.mp hevent
      exact he

private theorem tidied (h : Blames own cause events) (hc : c.tidies = true) (error : Option Errno) :
    Blames own cause (events ++ [⟨c, error⟩]) := by
  have hsame : firstFailure? (events ++ [⟨c, error⟩]) = firstFailure? events := by
    rw [firstFailure?_concat, hc]
    exact Option.or_none
  refine ⟨hsame ▸ h.first, fun event hevent htidies e he => ?_⟩
  rcases List.mem_append.mp hevent with hevent | hevent
  · exact h.only event hevent htidies e he
  · obtain rfl := List.mem_singleton.mp hevent
    exact nomatch hc.symm.trans htidies

/-- The library refuses on its own what the calls would have allowed. -/
theorem refused (h : Blames own none events) {e : Errno} (he : own e) :
    Blames own (some e) events :=
  ⟨.inr ⟨h.firstFailure?_of_none, e, rfl, he⟩,
    fun event hevent htidies e' he' => nomatch h.only event hevent htidies e' he'⟩

end Blames

namespace Effect

variable {α β : Type} {sofar : List Event}

/-- After the calls made so far, the effect makes further ones, and of its answer and of all calls
in order `Q` holds. -/
def Makes (a : Effect α) (sofar : List Event) (Q : α → List Event → Prop) : Prop :=
  ∀ s : System, ∃ events, (a.run s).2.kernel.history = events.reverse ++ s.kernel.history ∧
    Q (a.run s).1 (sofar ++ events)

namespace Makes

theorem mono {a : Effect α} {Q R : α → List Event → Prop} (h : a.Makes sofar Q)
    (hQR : ∀ x events, Q x events → R x events) : a.Makes sofar R := by
  intro s
  obtain ⟨events, hhistory, hQ⟩ := h s
  exact ⟨events, hhistory, hQR _ _ hQ⟩

theorem idle {a : Effect α} {Q : α → List Event → Prop}
    (hkernel : ∀ s, (a.run s).2.kernel = s.kernel) (h : ∀ x, Q x sofar) : a.Makes sofar Q := by
  intro s
  refine ⟨[], ?_, ?_⟩
  · rw [hkernel]
    rfl
  · rw [List.append_nil]
    exact h _

theorem pure {x : α} {Q : α → List Event → Prop} (h : Q x sofar) :
    (pure x : Effect α).Makes sofar Q := by
  intro s
  refine ⟨[], rfl, ?_⟩
  rw [List.append_nil]
  exact h

theorem bind {a : Effect α} {f : α → Effect β} {Q : β → List Event → Prop}
    (h : a.Makes sofar fun x events => (f x).Makes events Q) : (a >>= f).Makes sofar Q := by
  intro s
  obtain ⟨first, hfirst, hnext⟩ := h s
  obtain ⟨second, hsecond, hQ⟩ := hnext (a.run s).2
  refine ⟨first ++ second, ?_, ?_⟩
  · rw [List.reverse_append, List.append_assoc, ← hfirst]
    exact hsecond
  · rw [← List.append_assoc]
    exact hQ

theorem attempt {c : Call} {call : Kernel → Option α × Kernel}
    {Q : Except Errno α → List Event → Prop} (hrecords : Records c call)
    (h : ∀ outcome, Q outcome (sofar ++ [⟨c, failure? outcome⟩])) :
    (attempt call).Makes sofar Q := by
  intro s
  obtain ⟨hsome, hnone⟩ := hrecords s.kernel
  refine ⟨[⟨c, failure? ((Effect.attempt call).run s).1⟩], ?_, h _⟩
  change (Effect.attempt call s).2.kernel.history =
    ⟨c, failure? (Effect.attempt call s).1⟩ :: s.kernel.history
  rw [Effect.attempt]
  cases hcall : call s.kernel with
  | mk answer k' =>
    cases answer with
    | none => exact hnone k' hcall
    | some a => exact hsome a k' hcall

theorem record {level : Level} {target text : String} {Q : Unit → List Event → Prop}
    (h : Q () sofar) : (record level target text).Makes sofar Q := idle (fun _ => rfl) fun _ => h

/-- The calls that are already on record for another account of the effect. -/
theorem of_yields {a : Effect α} {Q : α → List Event → Prop}
    (h : ∀ k, a.Yields k fun x k' => ∃ events, k'.history = events ++ k.history ∧
      Q x (sofar ++ events.reverse)) : a.Makes sofar Q := by
  intro s
  obtain ⟨events, hhistory, hQ⟩ := h s.kernel s rfl
  exact ⟨events.reverse, by rw [List.reverse_reverse, hhistory], hQ⟩

section Blame

variable {own : Errno → Prop} {cause : Option Errno}

private theorem decided {c : Call} {call : Kernel → Option α × Kernel} (hrecords : Records c call)
    (hc : c.tidies = false) (h : Blames own none sofar) :
    (Effect.attempt call).Makes sofar fun outcome events => Blames own (failure? outcome) events :=
  attempt hrecords fun _ => h.decided hc _

theorem closeDescriptor {d : Descriptor} (h : Blames own cause sofar) :
    (Backing.closeDescriptor d).Makes sofar fun _ events => Blames own cause events :=
  bind (attempt (close_records d) fun _ => pure (h.tidied rfl _))

end Blame

end Makes

end Effect

namespace SealedFile

variable {own : Errno → Prop} {sofar : List Event}

private theorem orClose_blames {d : Descriptor} {step : Effect (Except Errno Unit)}
    (h : step.Makes sofar fun outcome events => Blames own (failure? outcome) events) :
    (orClose d step).Makes sofar fun outcome events => Blames own (failure? outcome) events := by
  refine .bind (h.mono ?_)
  intro outcome events hevents
  cases outcome with
  | ok x => exact .pure hevents
  | error e => exact .bind ((Makes.closeDescriptor hevents).mono fun _ _ hclosed => .pure hclosed)

private theorem addSeals_blames {d : Descriptor} {seals : Seals} (h : Blames own none sofar) :
    (addSeals d seals).Makes sofar fun outcome events => Blames own (failure? outcome) events :=
  .decided (addSeals_records d seals.mask) rfl h

private theorem allocate_blames (mode : Mode) (size : Nat) :
    (allocate mode size).Makes [] fun outcome events => Blames own (failure? outcome) events := by
  refine .bind ((Makes.decided (createMemory_records true) rfl (.nil own)).mono ?_)
  intro outcome created hcreated
  cases outcome with
  | error e => exact .pure hcreated
  | ok fd =>
    refine .bind ((orClose_blames (.decided (setLength_records fd _) rfl hcreated)).mono ?_)
    intro outcome resized hsized
    cases outcome with
    | error e => exact .pure hsized
    | ok x =>
      refine .bind ((orClose_blames (addSeals_blames hsized)).mono ?_)
      intro outcome sealed hsealed
      cases outcome with
      | error e => exact .pure hsealed
      | ok x => exact .pure hsealed

private theorem duplicate_blames (h : SealedFile) :
    h.duplicate.Makes [] fun outcome events => Blames own (failure? outcome) events := by
  refine .bind ((Makes.decided (duplicate_records h.fd) rfl (.nil own)).mono ?_)
  intro outcome events hevents
  cases outcome with
  | error e => exact .pure hevents
  | ok fd => exact .pure hevents

private theorem toShared_blames (h : SealedFile) :
    h.toShared.Makes [] fun outcome events => Blames own (failure? outcome) events := by
  refine .bind ((addSeals_blames (.nil own)).mono ?_)
  intro outcome events hevents
  cases outcome with
  | error e => exact .pure hevents
  | ok x => exact .pure hevents

private theorem toReadOnly_makes (h : SealedFile) :
    h.toReadOnly.Makes [] fun outcome events =>
      ∃ asked, Attempts h.fd events.reverse asked (failure? outcome) := by
  refine .of_yields fun k => (toReadOnly_attempts h k).mono ?_
  rintro outcome k' ⟨events, asked, hattempts, hhistory, -⟩
  refine ⟨events, hhistory, asked, ?_⟩
  rw [List.nil_append, List.reverse_reverse]
  exact hattempts

end SealedFile

namespace DescriptorPair

variable {own : Errno → Prop} {cause : Option Errno} {sofar : List Event}

private theorem openMarked_blames {c : Call} {call : Kernel → Option Descriptor × Kernel}
    (hrecords : Records c call) (hc : c.tidies = false) (h : Blames own none sofar) :
    (openMarked call).Makes sofar fun outcome events => Blames own (failure? outcome) events := by
  refine .bind ((Makes.decided hrecords hc h).mono ?_)
  intro outcome opened hopened
  cases outcome with
  | error e => exact .pure hopened
  | ok d =>
    refine .bind ((Makes.decided (markCloseOnExec_records d) rfl hopened).mono ?_)
    intro outcome marked hmarked
    cases outcome with
    | ok x => exact .pure hmarked
    | error e => exact .bind ((Makes.closeDescriptor hmarked).mono fun _ _ hclosed => .pure hclosed)

private theorem unlink_blames {name : String} (h : Blames own cause sofar) :
    (unlink name).Makes sofar fun _ events => Blames own cause events := by
  refine .bind (.attempt (unlinkShared_records name) fun outcome => ?_)
  cases outcome with
  | ok x => exact .pure (h.tidied rfl _)
  | error e => exact .record (h.tidied rfl _)

/-- The one refusal of the library's own: a length must be a signed 64-bit word. -/
def Unfit (size : Nat) (e : Errno) : Prop := maxPosition < size ∧ e = .invalidArgument

private theorem setLength_blames {d : Descriptor} {size : Nat}
    (h : Blames (Unfit size) none sofar) :
    (setLength d size).Makes sofar fun outcome events =>
      Blames (Unfit size) (failure? outcome) events := by
  unfold DescriptorPair.setLength
  split
  · exact .decided (setLength_records d size) rfl h
  · rename_i hfits
    exact .pure (h.refused ⟨Nat.lt_of_not_le hfits, rfl⟩)

private theorem sized_blames {h : DescriptorPair} {size : Nat}
    (hsofar : Blames (Unfit size) none sofar) :
    (sized h size).Makes sofar fun outcome events =>
      Blames (Unfit size) (failure? outcome) events := by
  refine .bind ((setLength_blames hsofar).mono ?_)
  intro outcome events hevents
  cases outcome with
  | ok x => exact .pure hevents
  | error e =>
    dsimp only
    split
    · refine .bind ((Makes.closeDescriptor hevents).mono fun _ first hfirst => ?_)
      exact .bind ((Makes.closeDescriptor hfirst).mono fun _ _ hsecond => .pure hsecond)
    · exact .bind ((Makes.closeDescriptor hevents).mono fun _ _ hclosed => .pure hclosed)

private theorem allocate_blames (mode : Mode) (size : Nat) :
    (allocate mode size).Makes [] fun outcome events =>
      Blames (Unfit size) (failure? outcome) events := by
  refine .bind (.idle (fun _ => rfl) fun name => .bind ?_)
  refine (openMarked_blames (createShared_records name) rfl (.nil (Unfit size))).mono ?_
  intro outcome created hcreated
  cases outcome with
  | error e => exact .bind ((unlink_blames hcreated).mono fun _ _ hunlinked => .pure hunlinked)
  | ok fd =>
    dsimp only
    split
    · refine .bind ((openMarked_blames (openShared_records name) rfl hcreated).mono ?_)
      intro outcome opened hopened
      -- The name is removed before the answer of the second call is looked at.
      refine .bind ((unlink_blames hopened).mono fun _ unlinked hunlinked => ?_)
      cases outcome with
      | error e =>
        exact .bind ((Makes.closeDescriptor hunlinked).mono fun _ _ hclosed => .pure hclosed)
      | ok spare => exact sized_blames hunlinked
    · exact .bind ((unlink_blames hcreated).mono fun _ _ hunlinked => sized_blames hunlinked)

private theorem duplicate_blames (h : DescriptorPair) :
    h.duplicate.Makes [] fun outcome events => Blames own (failure? outcome) events := by
  unfold DescriptorPair.duplicate
  split
  · refine .bind ((Makes.decided (duplicate_records h.fd) rfl (.nil own)).mono ?_)
    intro outcome events hevents
    cases outcome with
    | error e => exact .pure hevents
    | ok fd => exact .pure hevents
  · rename_i spare _
    refine .bind ((Makes.decided (duplicate_records spare) rfl (.nil own)).mono ?_)
    intro outcome spared hspared
    cases outcome with
    | error e => exact .pure hspared
    | ok spare =>
      refine .bind ((Makes.decided (duplicate_records h.fd) rfl hspared).mono ?_)
      intro outcome copied hcopied
      cases outcome with
      | ok fd => exact .pure hcopied
      | error e =>
        exact .bind ((Makes.closeDescriptor hcopied).mono fun _ _ hclosed => .pure hclosed)

/-- A pair without a second descriptor is not made read-only, and no call is to blame for that. -/
private theorem toReadOnly_blames (h : DescriptorPair) :
    h.toReadOnly.Makes [] fun outcome events =>
      Blames (fun e => h.spare = none ∧ e = .badDescriptor) (failure? outcome) events := by
  unfold DescriptorPair.toReadOnly
  split
  · exact .bind ((Makes.closeDescriptor (.nil _)).mono fun _ _ hclosed => .pure hclosed)
  · rename_i hspare
    exact .pure ((Blames.nil _).refused ⟨hspare, rfl⟩)

private theorem toShared_blames (h : DescriptorPair) :
    h.toShared.Makes [] fun outcome events => Blames own (failure? outcome) events := by
  unfold DescriptorPair.toShared
  split
  · exact .bind ((Makes.closeDescriptor (.nil own)).mono fun _ _ hclosed => .pure hclosed)
  · exact .pure (.nil own)

end DescriptorPair

/-- The system's error that a failure names. -/
def Failure.cause? : Failure → Option Errno
  | .error (.allocate _ cause) => some cause
  | .error (.convert _ cause) => some cause
  | .error (.duplicate cause) => some cause
  | _ => none

def WindowError.cause? : WindowError → Option Errno
  | .systemCallFailed cause => some cause
  | _ => none

/-- The system's error that an answer names. -/
def Effect.cause? {ε α : Type} (named? : ε → Option Errno) : Except ε α → Option Errno
  | .ok _ => none
  | .error e => named? e

namespace Region

variable {H : Type} [Backing H] {P : Option Errno → List Event → Prop}

private theorem create_makes {mode : Mode} {size : Nat} {layout : Layout} (hnil : P none [])
    (h : ∀ allocated, layout.roundUp? size = some allocated →
      (Backing.allocate (H := H) mode allocated).Makes [] fun outcome events =>
        P (failure? outcome) events) :
    (create (H := H) mode size layout).Makes [] fun outcome events =>
      P (cause? Failure.cause? outcome) events := by
  unfold create
  split
  · exact .pure hnil
  · split
    · exact .pure hnil
    · split
      · exact .pure hnil
      · rename_i allocated hround
        refine .bind ((h allocated hround).mono ?_)
        intro outcome events hevents
        cases outcome with
        | error e => exact .bind (.record (.pure hevents))
        | ok handle =>
          exact .bind (.idle (fun _ => rfl) fun _ => .bind (.record (.pure hevents)))

omit [Backing H] in
private theorem convert_makes {r : Region H} {c : Conversion H} (hnil : P none [])
    (h : ∀ handle, r.handle = some handle → (c.native handle).Makes [] fun outcome events =>
      P (failure? outcome) events) :
    (r.convert c).Makes [] fun outcome events => P (cause? Failure.cause? outcome) events := by
  intro s
  refine Leads.convert (Q := fun outcome s' => ∃ events,
    s'.kernel.history = events.reverse ++ s.kernel.history ∧
      P (cause? Failure.cause? outcome) ([] ++ events)) ?_ ?_ ?_
  · exact fun _ => ⟨[], rfl, hnil⟩
  · exact fun _ _ _ => ⟨[], rfl, hnil⟩
  · intro handle hhandle _
    obtain ⟨events, hhistory, hevents⟩ := h handle hhandle s
    refine .of_run fun journal => ⟨events, hhistory, ?_⟩
    cases hrun : ((c.native handle).run s).1 with
    | error e =>
      rw [hrun] at hevents
      exact hevents
    | ok handle' =>
      rw [hrun] at hevents
      exact hevents

private theorem duplicate_makes {r : Region H} (hnil : P none [])
    (h : ∀ handle : H, (Backing.duplicate handle).Makes [] fun outcome events =>
      P (failure? outcome) events) :
    r.duplicate.Makes [] fun outcome events => P (cause? Failure.cause? outcome) events := by
  unfold duplicate
  split
  · exact .pure hnil
  · rename_i handle _
    split
    · exact .pure hnil
    · refine .bind ((h handle).mono ?_)
      intro outcome events hevents
      cases outcome with
      | error e => exact .bind (.record (.pure hevents))
      | ok copy => exact .pure hevents

end Region

namespace Window

variable {H : Type} [Backing H] {own : Errno → Prop}

private theorem mapNative_blames (own : Errno → Prop) (d : Descriptor) (offset length : Nat)
    (protection : Protection) :
    (mapNative d offset length protection).Makes [] fun outcome events =>
      Blames own (cause? WindowError.cause? outcome) events := by
  unfold mapNative
  split
  · refine .bind ((Makes.decided (map_records d offset length protection) rfl (.nil own)).mono ?_)
    intro outcome events hevents
    cases outcome with
    | ok id => exact .pure hevents
    | error e => exact .pure hevents
  · exact .pure (.nil own)

private theorem ofRequest_blames (request : WindowRequest H) :
    (ofRequest request).Makes [] fun outcome events =>
      Blames own (cause? WindowError.cause? outcome) events := by
  unfold ofRequest
  split
  · exact .pure (.nil own)
  · split
    · exact .pure (.nil own)
    · split
      · exact .pure (.nil own)
      · split
        · exact .pure (.nil own)
        · refine .bind (.idle (fun _ => rfl) fun layout =>
            .bind ((mapNative_blames own _ _ _ _).mono ?_))
          intro outcome events hevents
          cases outcome with
          | error e => exact .pure hevents
          | ok mapping => exact .pure hevents

end Window

/-- The operations over a backing name the error that decided, apart from what the backing itself
says of sizes that are unfit for it. -/
structure BlamesDeciders (H : Type) [Backing H] (unfit : Nat → Errno → Prop) : Prop where
  create (mode : Mode) (size : Nat) (layout : Layout) :
    (Region.create (H := H) mode size layout).Makes [] fun outcome events =>
      Blames (fun e => ∃ allocated, layout.roundUp? size = some allocated ∧ unfit allocated e)
        (cause? Failure.cause? outcome) events
  duplicate (r : Region H) : r.duplicate.Makes [] fun outcome events =>
    Blames (fun _ => False) (cause? Failure.cause? outcome) events
  toShared (r : Region H) : (r.convert Region.toShared).Makes [] fun outcome events =>
    Blames (fun _ => False) (cause? Failure.cause? outcome) events
  map (request : WindowRequest H) : (Window.ofRequest request).Makes [] fun outcome events =>
    Blames (fun _ => False) (cause? WindowError.cause? outcome) events

private theorem blamesDeciders_of_native {H : Type} [Backing H] {unfit : Nat → Errno → Prop}
    (allocate : ∀ mode size, (Backing.allocate (H := H) mode size).Makes [] fun outcome events =>
      Blames (unfit size) (failure? outcome) events)
    (duplicate : ∀ h : H, (Backing.duplicate h).Makes [] fun outcome events =>
      Blames (fun _ => False) (failure? outcome) events)
    (toShared : ∀ h : H, (Backing.toShared h).Makes [] fun outcome events =>
      Blames (fun _ => False) (failure? outcome) events) : BlamesDeciders H unfit where
  create mode size layout := by
    refine Region.create_makes (.nil _) fun allocated hround => (allocate mode allocated).mono ?_
    exact fun _ _ hevents => hevents.mono fun e he => ⟨allocated, hround, he⟩
  duplicate _ := Region.duplicate_makes (.nil _) duplicate
  toShared _ := Region.convert_makes (.nil _) fun h _ => toShared h
  map request := Window.ofRequest_blames request

/-- Whatever the kernel answers to the calls of an operation, the clean-up included, the error that
the operation names is that of the first call that failed and is no clean-up. For a new pair this is
the call for writing if that one failed, and else the call for reading. The read-only seals are
tried in two ways, and the second counts where the first is an invalid argument; a pair that has no
second descriptor is refused without a call. -/
theorem deciding_call_is_blamed :
    BlamesDeciders SealedFile (fun _ _ => False) ∧
    BlamesDeciders DescriptorPair DescriptorPair.Unfit ∧
    (∀ mode size layout, (Region.create (H := DescriptorPair) mode size layout).Makes []
      fun outcome events => ∀ name e,
        (⟨.createShared name, some e⟩ ∈ events → cause? Failure.cause? outcome = some e) ∧
        (⟨.openShared name, some e⟩ ∈ events → cause? Failure.cause? outcome = some e)) ∧
    (∀ r : Region SealedFile, (r.convert Region.toReadOnly).Makes [] fun outcome events =>
      cause? Failure.cause? outcome = none ∧ events = [] ∨
        ∃ h asked, r.handle = some h ∧ SealedFile.Attempts h.fd events.reverse asked
          (cause? Failure.cause? outcome)) ∧
    (∀ r : Region DescriptorPair, (r.convert Region.toReadOnly).Makes [] fun outcome events =>
      Blames (fun e => (∃ h, r.handle = some h ∧ h.spare = none) ∧ e = .badDescriptor)
        (cause? Failure.cause? outcome) events) := by
  have hpair : BlamesDeciders DescriptorPair DescriptorPair.Unfit :=
    blamesDeciders_of_native DescriptorPair.allocate_blames DescriptorPair.duplicate_blames
      DescriptorPair.toShared_blames
  refine ⟨?_, hpair, ?_, ?_, ?_⟩
  · exact blamesDeciders_of_native SealedFile.allocate_blames SealedFile.duplicate_blames
      SealedFile.toShared_blames
  · intro mode size layout
    refine (hpair.create mode size layout).mono ?_
    exact fun _ _ hevents name e =>
      ⟨fun hevent => hevents.only _ hevent rfl e rfl, fun hevent => hevents.only _ hevent rfl e rfl⟩
  · intro r
    refine Region.convert_makes (P := fun cause events => cause = none ∧ events = [] ∨
      ∃ h asked, r.handle = some h ∧ SealedFile.Attempts h.fd events.reverse asked cause)
      (.inl ⟨rfl, rfl⟩) fun h hhandle => (SealedFile.toReadOnly_makes h).mono ?_
    exact fun _ _ ⟨asked, hattempts⟩ => .inr ⟨h, asked, hhandle, hattempts⟩
  · intro r
    refine Region.convert_makes (.nil _) fun h hhandle =>
      (DescriptorPair.toReadOnly_blames h).mono ?_
    exact fun _ _ hevents => hevents.mono fun e he => ⟨⟨h, hhandle, he.1⟩, he.2⟩

/-- Closing the file fails too, but the answer is about its length. -/
example :
    let refusal : List Event → Call → Option Errno := fun _ call =>
      if call = .setLength ⟨0⟩ 4096 then some .outOfMemory
      else if call.tidies then some .badDescriptor
      else none
    let run := (Region.create (H := SealedFile) .shared 4096 .host).run { kernel := { refusal } }
    cause? Failure.cause? run.1 = some .outOfMemory ∧ run.2.kernel.lastError = .badDescriptor :=
  ⟨rfl, rfl⟩

end SharedMemory

import SharedMemory.Session.Basic
import SharedMemory.Proofs.Effect
/-!
# What a script leads to

A script is judged by its answer, if it comes to one, and by the session that it leaves behind.
The rules follow the ways in which scripts are put together.
-/
namespace SharedMemory.Script

variable {H α β : Type} {s : Session H}

/-- The answer of a script, if it comes to one. -/
def answer (a : Script H α) (s : Session H) : Option α := (a.run.run s).1

/-- The session that a script leaves behind. -/
def leave (a : Script H α) (s : Session H) : Session H := (a.run.run s).2

/-- From the session `s` the script leads to an answer and a session of which `Q` holds. -/
def Yields (a : Script H α) (s : Session H) (Q : Option α → Session H → Prop) : Prop :=
  Q (a.run.run s).1 (a.leave s)

theorem Yields.of_run {a : Script H α} {Q : Option α → Session H → Prop} {x : Option α}
    {s' : Session H} (h : a.Yields s Q) (hrun : a.run.run s = (x, s')) : Q x s' := by
  unfold Yields leave at h
  rw [hrun] at h
  exact h

namespace Yields

theorem mono {a : Script H α} {Q R : Option α → Session H → Prop} (h : a.Yields s Q)
    (hQR : ∀ x s', Q x s' → R x s') : a.Yields s R := hQR _ _ h

theorem pure {x : α} {Q : Option α → Session H → Prop} (h : Q (some x) s) :
    (pure x : Script H α).Yields s Q := h

theorem bind {a : Script H α} {f : α → Script H β} {Q : Option β → Session H → Prop}
    (h : a.Yields s fun x s' =>
      match x with
      | none => Q none s'
      | some y => (f y).Yields s' Q) : (a >>= f).Yields s Q := by
  unfold Yields leave at h ⊢
  have hrun : (a >>= f).run.run s =
      ((a.run.run s).1.elim (Pure.pure none) fun y => (f y).run).run (a.run.run s).2 := by
    rw [OptionT.run_bind]
    rfl
  rw [hrun]
  rcases ha : a.run.run s with ⟨_ | y, s'⟩
  · rw [ha] at h
    exact h
  · rw [ha] at h
    exact h

theorem skip {a : Script H α} {f : α → Script H β} {Q : Option β → Session H → Prop}
    (none : ∀ s', Q none s') (some : ∀ x s', (f x).Yields s' Q) : (a >>= f).Yields s Q := by
  refine bind ?_
  unfold Yields
  cases (a.run.run s).1 with
  | none => exact none _
  | some x => exact some x _

theorem get {Q : Option (Session H) → Session H → Prop} (h : Q (some s) s) :
    (MonadState.get : Script H (Session H)).Yields s Q := h

theorem modify {f : Session H → Session H} {Q : Option PUnit → Session H → Prop}
    (h : Q (some ⟨⟩) (f s)) : (modify f : Script H PUnit).Yields s Q := h

/-- Work on the system leaves everything that the session keeps under names. -/
theorem act {a : Effect α} {Q : Option α → Session H → Prop}
    (h : a.Yields s.system.kernel fun x k' =>
      ∀ system : System, system.kernel = k' → Q (some x) { s with system }) :
    (Session.act a).Yields s Q := h s.system rfl _ rfl

theorem run {a : Effect α} {Q : Option α → Session H → Prop}
    (h : Q (some (a.run s.system).1) { s with system := (a.run s.system).2 }) :
    (Session.act a).Yields s Q := h

theorem work {a : Effect α} {Q : Option α → Session H → Prop}
    (h : ∀ x system, Q (some x) { s with system }) : (Session.act a).Yields s Q := h _ _

theorem leads {a : Effect α} {Q : Option α → Session H → Prop}
    (h : a.Leads s.system fun x system => Q (some x) { s with system }) :
    (Session.act a).Yields s Q := h

theorem heldGet {table : Session H → Slots α} {name : String}
    {Q : Option α → Session H → Prop} (h : Q ((table s).get? name) s) :
    (Session.held table name).Yields s Q := by
  refine bind (get ?_)
  dsimp only
  cases hvalue : (table s).get? name with
  | none =>
    rw [hvalue] at h
    exact h
  | some a =>
    rw [hvalue] at h
    exact h

theorem held {table : Session H → Slots α} {name : String}
    {Q : Option α → Session H → Prop} (none : Q none s)
    (some : ∀ a, (table s).get? name = some a → Q (some a) s) :
    (Session.held table name).Yields s Q := by
  refine heldGet ?_
  cases hvalue : (table s).get? name with
  | none => exact none
  | some a => exact some a hvalue

theorem heldSome {table : Session H → Slots α} {name : String} {a : α}
    {Q : Option α → Session H → Prop} (ha : (table s).get? name = some a) (h : Q (some a) s) :
    (Session.held table name).Yields s Q := heldGet (by rwa [ha])

theorem sourceGet {source : Option String} {Q : Option (Option (Region H)) → Session H → Prop}
    (h : Q (source.mapM s.regions.get?) s) : (source.mapM Session.region).Yields s Q := by
  cases source with
  | none => exact pure h
  | some name =>
    have hsource : (Option.some name).mapM s.regions.get? = (s.regions.get? name).map .some := rfl
    rw [hsource] at h
    refine bind (heldGet ?_)
    cases hr : s.regions.get? name with
    | none =>
      rw [hr] at h
      exact h
    | some r =>
      rw [hr] at h
      exact pure h

theorem holderGet {h : Holder} {Q : Option H → Session H → Prop} (hQ : Q (s.holder? h) s) :
    (Session.holder h).Yields s Q := by
  refine bind (get ?_)
  dsimp only
  cases hvalue : s.holder? h with
  | none =>
    rw [hvalue] at hQ
    exact hQ
  | some handle =>
    rw [hvalue] at hQ
    exact hQ

theorem holder {h : Holder} {Q : Option H → Session H → Prop} (none : Q none s)
    (some : ∀ handle, s.holder? h = some handle → Q (some handle) s) :
    (Session.holder h).Yields s Q := by
  refine holderGet ?_
  cases hvalue : s.holder? h with
  | none => exact none
  | some handle => exact some handle hvalue

theorem holderSome {h : Holder} {handle : H} {Q : Option H → Session H → Prop}
    (hh : s.holder? h = some handle) (hQ : Q (some handle) s) :
    (Session.holder h).Yields s Q := holderGet (by rwa [hh])

theorem viewDescriptor {d : Descriptor} {Q : Option DescriptorView → Session H → Prop}
    (h : ∀ v, Q (some v) s) : (Session.viewDescriptor d).Yields s Q := h _

theorem putDescriptor {name : String} {d : Descriptor} {Q : Option Unit → Session H → Prop}
    (hvacant : s.loose.get? name = .none)
    (h : Q (some ()) { s with loose := s.loose.put name d }) :
    (Session.putDescriptor name d).Yields s Q :=
  bind (get (bind (modify (by rw [hvacant]; exact h))))

section

variable [Backing H]

/-- A value that is put under a vacant name takes the place of nothing. -/
theorem putHandle {name : String} {handle : H} {Q : Option Unit → Session H → Prop}
    (hvacant : s.handles.get? name = .none)
    (h : Q (some ()) { s with handles := s.handles.put name handle }) :
    (Session.putHandle name handle).Yields s Q :=
  bind (get (bind (modify (by rw [hvacant]; exact h))))

theorem putRegion {name : String} {r : Region H} {Q : Option Unit → Session H → Prop}
    (hvacant : s.regions.get? name = .none)
    (h : Q (some ()) { s with regions := s.regions.put name r }) :
    (Session.putRegion name r).Yields s Q :=
  bind (get (bind (modify (by rw [hvacant]; exact h))))

theorem viewRegion {r : Region H} {Q : Option RegionView → Session H → Prop}
    (h : ∀ v, Q (some v) s) : (Session.viewRegion r).Yields s Q := h _

theorem viewHandle {handle : H} {Q : Option HandleView → Session H → Prop}
    (h : ∀ v, Q (some v) s) : (Session.viewHandle handle).Yields s Q := h _

end

theorem keep {a : Script H α} {f : α → Script H β} {P : Session H → Prop}
    (h : a.Yields s fun _ s' => P s')
    (hf : ∀ x s', P s' → (f x).Yields s' fun _ s'' => P s'') :
    (a >>= f).Yields s fun _ s' => P s' :=
  bind (h.mono fun x s' hs' => by
    cases x with
    | none => exact hs'
    | some x => exact hf x s' hs')

end Yields

end SharedMemory.Script

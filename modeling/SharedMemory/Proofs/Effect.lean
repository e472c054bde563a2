import SharedMemory.Backing.Basic
import SharedMemory.Proofs.Kernel.Calls
/-!
# What an effect leads to

An effect is judged by its answer and by the kernel that it leaves behind; the journal and the
supplies of random numbers may be anything. The rules follow the ways in which effects are put
together.
-/
namespace SharedMemory.Effect

variable {α β : Type} {k : Kernel}

/-- From the kernel `k` the effect leads to an answer and a kernel of which `Q` holds. -/
def Yields (a : Effect α) (k : Kernel) (Q : α → Kernel → Prop) : Prop :=
  ∀ s : System, s.kernel = k → Q (a.run s).1 (a.run s).2.kernel

namespace Yields

theorem mono {a : Effect α} {Q R : α → Kernel → Prop} (h : a.Yields k Q)
    (hQR : ∀ x k', Q x k' → R x k') : a.Yields k R := fun s hs => hQR _ _ (h s hs)

theorem and {a : Effect α} {Q R : α → Kernel → Prop} (h : a.Yields k Q) (h' : a.Yields k R) :
    a.Yields k fun x k' => Q x k' ∧ R x k' := fun s hs => ⟨h s hs, h' s hs⟩

theorem pure {x : α} {Q : α → Kernel → Prop} (h : Q x k) : (pure x : Effect α).Yields k Q := by
  rintro s rfl
  exact h

theorem bind {a : Effect α} {f : α → Effect β} {Q : β → Kernel → Prop}
    (h : a.Yields k fun x k' => (f x).Yields k' Q) : (a >>= f).Yields k Q :=
  fun s hs => h s hs (a.run s).2 rfl

theorem attempt {call : Kernel → Option α × Kernel} {Q : Except Errno α → Kernel → Prop}
    (ok : ∀ x k', call k = (some x, k') → Q (.ok x) k')
    (error : ∀ k', call k = (none, k') → Q (.error k'.lastError) k') :
    (attempt call).Yields k Q := by
  rintro s rfl
  change Q (Effect.attempt call s).1 (Effect.attempt call s).2.kernel
  cases h : call s.kernel with
  | mk outcome k' =>
    rw [Effect.attempt, h]
    cases outcome with
    | none => exact error k' h
    | some x => exact ok x k' h

theorem attemptSome {call : Kernel → Option α × Kernel} {x : α} {k' : Kernel}
    {Q : Except Errno α → Kernel → Prop} (hcall : call k = (some x, k')) (h : Q (.ok x) k') :
    (Effect.attempt call).Yields k Q :=
  attempt (fun y k'' hcall' => by
    obtain ⟨hx, rfl⟩ := Prod.mk.inj (hcall.symm.trans hcall')
    obtain rfl := Option.some.inj hx
    exact h) fun k'' hcall' => nomatch hcall.symm.trans hcall'

theorem attemptNone {call : Kernel → Option α × Kernel} {k' : Kernel}
    {Q : Except Errno α → Kernel → Prop} (hcall : call k = (none, k'))
    (h : Q (.error k'.lastError) k') : (Effect.attempt call).Yields k Q :=
  attempt (fun x k'' hcall' => nomatch hcall.symm.trans hcall') fun k'' hcall' => by
    obtain ⟨-, rfl⟩ := Prod.mk.inj (hcall.symm.trans hcall')
    exact h

theorem record {level : Level} {target text : String} {Q : Unit → Kernel → Prop} (h : Q () k) :
    (record level target text).Yields k Q := by
  rintro s rfl
  exact h

theorem freshGuid {Q : Guid → Kernel → Prop} (h : ∀ g, Q g k) : freshGuid.Yields k Q := by
  rintro s rfl
  exact h s.guids.next

theorem freshName {Q : String → Kernel → Prop} (h : ∀ name, Q name k) : freshName.Yields k Q := by
  rintro s rfl
  exact h _

theorem idle {a : Effect α} {Q : α → Kernel → Prop} (hkernel : ∀ s, (a.run s).2.kernel = s.kernel)
    (h : ∀ x, Q x k) : a.Yields k Q := by
  rintro s rfl
  rw [hkernel]
  exact h _

theorem attemptAlike {call : Kernel → Option α × Kernel} {Q : Except Errno α → Kernel → Prop}
    (alike : k.Alike (call k).2) (h : ∀ outcome k', k.Alike k' → Q outcome k') :
    (Effect.attempt call).Yields k Q := by
  refine attempt (fun x k' hcall => h _ _ ?_) fun k' hcall => h _ _ ?_
  · rw [hcall] at alike
    exact alike
  · rw [hcall] at alike
    exact alike

theorem query {call : Kernel → Option α × Kernel} {value : Option α}
    {Q : Except Errno α → Kernel → Prop} (reports : k.Reports value (call k))
    (h : ∀ outcome k', k.Alike k' → (∀ a, outcome = .ok a → value = some a) →
      (k.Candid → ∀ a, value = some a → outcome = .ok a) → Q outcome k') :
    (Effect.attempt call).Yields k Q := by
  have halike := reports.alike
  refine attempt (fun x k' hcall => h _ _ ?_ ?_ ?_) fun k' hcall => h _ _ ?_ ?_ ?_
  · rw [hcall] at halike
    exact halike
  · rintro _ ⟨⟩
    exact reports.value_of_some x (by rw [hcall])
  · intro _ a ha
    have hx := reports.value_of_some x (by rw [hcall])
    rw [Option.some.inj (hx.symm.trans ha)]
  · rw [hcall] at halike
    exact halike
  · rintro a ⟨⟩
  · intro hc a ha
    have hnone := reports.none_of_none hc (by rw [hcall])
    rw [hnone] at ha
    cases ha

/-- What a call that only looks at a value answers, if it answers, is the value. -/
theorem run_query {s : System} {call : Kernel → Option α × Kernel} {value : Option α}
    (reports : s.kernel.Reports value (call s.kernel)) :
    s.kernel.Alike ((Effect.attempt call).run s).2.kernel ∧
      ∀ a, ((Effect.attempt call).run s).1 = .ok a → value = some a := by
  have hquery : (Effect.attempt call).Yields s.kernel fun outcome k' =>
      s.kernel.Alike k' ∧ ∀ a, outcome = .ok a → value = some a :=
    query reports fun _ _ halike hvalue _ => ⟨halike, hvalue⟩
  exact hquery s rfl

/-- Closing a descriptor frees its number, whatever the kernel says. -/
theorem closeDescriptor {d : Descriptor} {Q : Unit → Kernel → Prop}
    (h : ∀ k', (k.forget d).Alike k' → Q () k') : (Backing.closeDescriptor d).Yields k Q := by
  have alike := Kernel.close_alike d k
  refine bind (attempt (fun x k' hcall => pure (h k' ?_)) fun k' hcall => pure (h k' ?_))
  · rw [hcall] at alike
    exact alike
  · rw [hcall] at alike
    exact alike

end Yields

/-- From the system `s` the effect leads to an answer and a system of which `Q` holds. -/
def Leads (a : Effect α) (s : System) (Q : α → System → Prop) : Prop := Q (a.run s).1 (a.run s).2

namespace Leads

variable {s : System}

theorem mono {a : Effect α} {Q R : α → System → Prop} (h : a.Leads s Q)
    (hQR : ∀ x s', Q x s' → R x s') : a.Leads s R := hQR _ _ h

theorem and {a : Effect α} {Q R : α → System → Prop} (h : a.Leads s Q) (h' : a.Leads s R) :
    a.Leads s fun x s' => Q x s' ∧ R x s' := ⟨h, h'⟩

theorem of_yields {a : Effect α} {Q : α → Kernel → Prop} (h : a.Yields s.kernel Q) :
    a.Leads s fun x s' => Q x s'.kernel := h s rfl

theorem pure {x : α} {Q : α → System → Prop} (h : Q x s) : (pure x : Effect α).Leads s Q := h

theorem of_run {a : Effect α} {Q : α → System → Prop} (h : Q (a.run s).1 (a.run s).2) :
    a.Leads s Q := h

theorem bind {a : Effect α} {f : α → Effect β} {Q : β → System → Prop}
    (h : a.Leads s fun x s' => (f x).Leads s' Q) : (a >>= f).Leads s Q := h

theorem granted {call : Kernel → Option α × Kernel} {x : α} {k' : Kernel}
    {Q : Except Errno α → System → Prop} (hcall : call s.kernel = (some x, k'))
    (h : Q (.ok x) { s with kernel := k' }) : (attempt call).Leads s Q := by
  change Q (Effect.attempt call s).1 (Effect.attempt call s).2
  rw [attempt, hcall]
  exact h

theorem refused {call : Kernel → Option α × Kernel} {k' : Kernel}
    {Q : Except Errno α → System → Prop} (hcall : call s.kernel = (none, k'))
    (h : Q (.error k'.lastError) { s with kernel := k' }) : (attempt call).Leads s Q := by
  change Q (Effect.attempt call s).1 (Effect.attempt call s).2
  rw [attempt, hcall]
  exact h

theorem record {level : Level} {target text : String} {Q : Unit → System → Prop}
    (h : ∀ journal, Q () { s with journal }) : (record level target text).Leads s Q := h _

theorem freshGuid {Q : Guid → System → Prop}
    (h : Q s.guids.next { s with guids := s.guids.advance }) : freshGuid.Leads s Q := h

/-- Closing a descriptor frees its number, whatever the kernel says. -/
theorem closeDescriptor {d : Descriptor} {Q : Unit → System → Prop}
    (h : ∀ k', (s.kernel.forget d).Alike k' → Q () { s with kernel := k' }) :
    (Backing.closeDescriptor d).Leads s Q := by
  have alike := Kernel.close_alike d s.kernel
  cases hcall : Kernel.close d s.kernel with
  | mk outcome k' =>
    rw [hcall] at alike
    cases outcome with
    | none => exact .bind (.refused hcall (h k' alike))
    | some x => exact .bind (.granted hcall (h k' alike))

end Leads

end SharedMemory.Effect

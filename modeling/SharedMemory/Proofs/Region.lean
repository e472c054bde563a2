import SharedMemory.Proofs.Custody
import SharedMemory.Proofs.Layout
/-!
# The operations of a region

Each operation of a region keeps custody of the handles in use: of those that it is about, and of
all others. A region that it gives back holds a handle that it had or made, and only a region
without a handle has no bytes.
-/
namespace SharedMemory

theorem validSize_iff {size : Nat} : validSize size = true ↔ 0 < size ∧ size ≤ maxRegionSize := by
  rw [validSize, Bool.and_eq_true, decide_eq_true_eq, decide_eq_true_eq]

/-- What a region comes to whose handle is converted with this outcome. -/
def Region.converted {H : Type} (r : Region H) (c : Conversion H) :
    Except Errno H → Except Failure (Region H)
  | .error cause => .error (.error (.convert c.goal cause))
  | .ok handle => .ok { r with handle := some handle, mode := c.goal }

namespace Effect

variable {H : Type} {r : Region H} {c : Region.Conversion H}

/-- The conversion of a valid and writable region is that of its handle. -/
theorem Leads.convert {s : System} {Q : Except Failure (Region H) → System → Prop}
    (invalid : r.handle = none → Q (.error (.error .invalidRegion)) s)
    (misuse : ∀ h, r.handle = some h → r.mode ≠ .writable → Q (.error (.misuse c.misuse)) s)
    (native : ∀ h, r.handle = some h → r.mode = .writable →
      (c.native h).Leads s fun outcome s' => ∀ journal,
        Q (r.converted c outcome) { s' with journal }) : (r.convert c).Leads s Q := by
  unfold Region.convert
  split
  · rename_i hnone
    exact .pure (invalid hnone)
  · rename_i h hhandle
    split
    · rename_i hmode
      exact .pure (misuse h hhandle hmode)
    · rename_i hmode
      refine .bind ((native h hhandle (Decidable.not_not.mp hmode)).mono ?_)
      intro outcome s' hs'
      cases outcome with
      | error e => exact .bind (.record fun journal => .pure (hs' journal))
      | ok h' => exact .bind (.record fun journal => .pure (hs' journal))

theorem Yields.convert {k : Kernel} {Q : Except Failure (Region H) → Kernel → Prop}
    (invalid : r.handle = none → Q (.error (.error .invalidRegion)) k)
    (misuse : ∀ h, r.handle = some h → r.mode ≠ .writable → Q (.error (.misuse c.misuse)) k)
    (native : ∀ h, r.handle = some h → r.mode = .writable →
      (c.native h).Yields k fun outcome k' => Q (r.converted c outcome) k') :
    (r.convert c).Yields k Q := by
  rintro s rfl
  exact Leads.convert (Q := fun outcome s' => Q outcome s'.kernel) invalid misuse
    fun h hhandle hmode => (Leads.of_yields (native h hhandle hmode)).mono fun _ _ hs' _ => hs'

end Effect

namespace Region

open Kernel Backing Effect

variable {H : Type}

/-- The handle that a region has in use. -/
def holdings (r : Region H) : List (Holding H) :=
  (r.handle.map fun h => ⟨h, some r.header⟩).toList

/-- A region without a handle has no bytes. -/
def Tidy (r : Region H) : Prop := r.handle = none → r.size = 0

theorem holdings_of_none {r : Region H} (h : r.handle = none) : r.holdings = [] := by
  rw [holdings, h]
  rfl

theorem holdings_of_some {r : Region H} {handle : H} (h : r.handle = some handle) :
    r.holdings = [⟨handle, some r.header⟩] := by
  rw [holdings, h]
  rfl

theorem parts?_of_some {r : Region H} {handle : H} (h : r.handle = some handle) :
    r.parts? = some (handle, r.header) := by
  rw [parts?, h]
  rfl

theorem convert_of_handle {r : Region H} {h : H} {c : Conversion H} {k : Kernel}
    {Q : Except Failure (Region H) → Kernel → Prop} (hhandle : r.handle = some h)
    (hmode : r.mode = .writable)
    (hnative : (c.native h).Yields k fun outcome k' => Q (r.converted c outcome) k') :
    (r.convert c).Yields k Q := by
  refine .convert (fun hnone => ?_) (fun _ _ hother => absurd hmode hother) fun h' hh' _ => ?_
  · rw [hhandle] at hnone
    cases hnone
  · obtain rfl := Option.some.inj (hhandle.symm.trans hh')
    exact hnative

/-- What a writable region can be converted to. -/
inductive Downgrade where
  | readOnly
  | shared
  deriving DecidableEq, Repr

variable [Backing H]

/-- The descriptors of the handle of a region. -/
def descriptors (r : Region H) : List Descriptor := r.handle.elim [] Backing.descriptors

theorem descriptors_of_none {r : Region H} (h : r.handle = none) : r.descriptors = [] := by
  rw [descriptors, h]
  rfl

theorem descriptors_of_some {r : Region H} {handle : H} (h : r.handle = some handle) :
    r.descriptors = Backing.descriptors handle := by
  rw [descriptors, h]
  rfl

def Downgrade.conversion : Downgrade → Conversion H
  | .readOnly => toReadOnly
  | .shared => toShared

theorem Downgrade.goal_ne (g : Downgrade) : (g.conversion (H := H)).goal ≠ .writable := by
  cases g <;> nofun

/-- A region is only made of a handle that passes the check. -/
theorem take_checked {k : Kernel} {P : Prop} (handle : H) (header : Header)
    (hcheck : (Backing.corresponds handle header.mode header.size).Yields k fun answer k' =>
      k.Alike k' ∧ (answer = true → P)) :
    (take handle header).Yields k fun outcome k' => ∀ r, outcome = .ok r →
      r = ⟨some handle, header.mode, header.size, header.guid⟩ ∧ validSize header.size = true ∧
        k.Alike k' ∧ P := by
  unfold take
  split
  · exact .bind fun _ _ => .pure nofun
  · rename_i hvalid
    refine .bind (hcheck.mono ?_)
    rintro answer k' ⟨halike, hpasses⟩
    cases answer with
    | false => exact .bind fun _ _ => .pure nofun
    | true =>
      refine .pure ?_
      rintro r ⟨⟩
      exact ⟨rfl, Decidable.not_not.mp hvalid, halike, hpasses rfl⟩

variable [Rights H] [LawfulBacking H] {own : Prop} {k : Kernel} {hs : List (Holding H)}

theorem Downgrade.converts (g : Downgrade) :
    Converts (g.conversion (H := H)).native (g.conversion (H := H)).goal := by
  cases g with
  | readOnly => exact LawfulBacking.toReadOnly_converts
  | shared => exact LawfulBacking.toShared_converts

theorem create_yields (mode : Mode) (size : Nat) (layout : Layout) (hc : Custody own k hs) :
    (create (H := H) mode size layout).Yields k fun outcome k' =>
      match outcome with
      | .error _ => Custody own k' hs
      | .ok r => r.Tidy ∧ Custody own k' (r.holdings ++ hs) := by
  unfold create
  split
  · exact .pure hc
  · rename_i hmode
    split
    · exact .pure hc
    · rename_i hvalid
      split
      · exact .pure hc
      · rename_i allocated hround
        obtain ⟨hle, hlt⟩ := Layout.le_of_roundUp? hround
        refine .bind ((LawfulBacking.allocate_yields mode allocated k hmode hlt).mono ?_)
        intro outcome k' hk'
        cases outcome with
        | error e => exact .bind (.record (.pure (hc.quiet hk')))
        | ok h =>
          refine .bind (.freshGuid fun guid => .bind (.record (.pure ⟨nofun, ?_⟩)))
          exact hc.makes hk' rfl (Decidable.not_not.mp hvalid) hle

theorem convert_yields (r : Region H) (g : Downgrade) (hc : Custody own k (r.holdings ++ hs)) :
    (r.convert g.conversion).Yields k fun outcome k' =>
      match outcome with
      | .error _ => Custody own k' (r.holdings ++ hs)
      | .ok r' => r'.Tidy ∧ Custody own k' (r'.holdings ++ hs) := by
  refine .convert (fun _ => hc) (fun _ _ _ => hc) fun handle hhandle hmode => ?_
  rw [holdings_of_some hhandle] at hc ⊢
  obtain ⟨hx, _, _⟩ := Custody.cons_iff.mp hc
  obtain ⟨_, o, hg, _⟩ := hx.label _ rfl
  have hg : Grants k handle o .writable := hmode ▸ hg
  refine (g.converts k handle o hx.sound hx.nodup hg).mono ?_
  intro outcome k' hk'
  cases outcome with
  | error e => exact hc.quiet hk'
  | ok h' => exact ⟨nofun, hc.turns hg hk' g.goal_ne⟩

theorem duplicate_yields (r : Region H) (hc : Custody own k (r.holdings ++ hs)) :
    r.duplicate.Yields k fun outcome k' =>
      match outcome with
      | .error _ => Custody own k' (r.holdings ++ hs)
      | .ok copy => copy.Tidy ∧ Custody own k' (copy.holdings ++ (r.holdings ++ hs)) := by
  unfold duplicate
  split
  · exact .pure hc
  · rename_i handle hhandle
    rw [holdings_of_some hhandle] at hc ⊢
    split
    · exact .pure hc
    · rename_i hmode
      obtain ⟨hx, _, _⟩ := Custody.cons_iff.mp hc
      obtain ⟨_, o, hg, _⟩ := hx.label _ rfl
      have hreader : ∀ o', ¬ Grants k handle o' .writable := fun o' hw =>
        hmode (hg.mode_eq hw)
      refine .bind ((LawfulBacking.duplicate_yields handle k fun _ => hx.sound.isOpen).mono ?_)
      intro outcome k' hk'
      cases outcome with
      | error e => exact .bind (.record (.pure (hc.quiet hk')))
      | ok copy =>
        obtain ⟨hshift, hnodup, hcopies⟩ := hk'
        exact .pure ⟨nofun, hc.copies hx hreader hshift hnodup hcopies⟩

theorem take_yields (handle : H) (header : Header) (hc : Custody own k (⟨handle, none⟩ :: hs)) :
    (take handle header).Yields k fun outcome k' =>
      match outcome with
      | .error _ => Custody own k' hs
      | .ok r => r.Tidy ∧ Custody own k' (r.holdings ++ hs) := by
  have hrelease : ∀ {k₁} e, Custody own k₁ (⟨handle, none⟩ :: hs) →
      (do Backing.release handle; return .error e : Effect (Except RegionError (Region H))).Yields
        k₁ fun outcome k' =>
          match outcome with
          | .error _ => Custody own k' hs
          | .ok r => r.Tidy ∧ Custody own k' (r.holdings ++ hs) := fun e hc₁ =>
    .bind ((LawfulBacking.release_yields handle _).mono fun _ _ hk' => .pure (hc₁.release hk'))
  unfold take
  split
  · exact hrelease _ hc
  · rename_i hvalid
    obtain ⟨hx, _, _⟩ := Custody.cons_iff.mp hc
    refine .bind ((LawfulBacking.corresponds_yields handle _ _ k hx.sound).mono ?_)
    intro answer k' hk'
    obtain ⟨halike, hgrants, _⟩ := hk'
    cases answer with
    | false => exact hrelease _ (hc.alike halike)
    | true =>
      obtain ⟨o, hg, hsize⟩ := hgrants rfl
      have hlabel : Labelled own k handle header :=
        ⟨Decidable.not_not.mp hvalid, o, hg, fun _ => hsize⟩
      exact .pure ⟨nofun, (hc.label hlabel).alike halike⟩

/-- Where questions are answered, a handle is taken if it grants what the header says. -/
theorem take_accepts {handle : H} {header : Header} (hsound : Sound k handle) (hc : k.Candid)
    (hvalid : validSize header.size = true)
    (hgrants : GrantsBytes k handle header.mode header.size) :
    (take handle header).Yields k fun outcome k' =>
      outcome = .ok ⟨some handle, header.mode, header.size, header.guid⟩ ∧ k.Alike k' := by
  unfold take
  rw [if_neg (not_not_intro hvalid)]
  refine .bind ((LawfulBacking.corresponds_yields handle _ _ k hsound).mono ?_)
  intro answer k' hk'
  obtain ⟨halike, -, hcomplete⟩ := hk'
  obtain rfl := hcomplete hc hgrants
  exact .pure ⟨rfl, halike⟩

theorem release_yields (r : Region H) (hc : Custody own k (r.holdings ++ hs)) :
    r.release.Yields k fun _ k' => Custody own k' hs := by
  unfold release
  split
  · rename_i hnone
    rw [holdings_of_none hnone] at hc
    exact .pure hc
  · rename_i handle hhandle
    rw [holdings_of_some hhandle] at hc
    exact (LawfulBacking.release_yields handle k).mono fun _ _ hk' => hc.release hk'

end Region

end SharedMemory

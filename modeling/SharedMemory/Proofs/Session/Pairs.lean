import SharedMemory.Proofs.Backing.DescriptorPair
import SharedMemory.Proofs.Session.Loose
import SharedMemory.Session.DescriptorPairs
/-!
# Steps on descriptor pairs

A pair may be taken apart into descriptors, which may be cloned and put together again. A loose
descriptor is in custody as a pair without a reserve, which never grants the writable mode. So no
clone of a descriptor makes a second writer, and putting two of them together may.
-/
namespace SharedMemory.Session

open Kernel Backing Script

instance : SingleBacking DescriptorPair where
  single d := ⟨d, none⟩
  descriptor_single _ := rfl
  reserve_single _ := rfl

/-- A step on descriptor pairs. -/
inductive PairStep : Type 1 where
  | loose (step : LooseStep)
  | takeApart (source dest spareDest : String)
  | join (first : String) (spare : Option String) (dest : String)

/-- A step with regions. -/
def PairStep.basic (step : Step) : PairStep := .loose (.native (.basic step))

def PairStep.run (s : Session DescriptorPair) : PairStep → Session DescriptorPair
  | .loose step => step.run s
  | .takeApart source dest spareDest => (Session.takeApart source dest spareDest).leave s
  | .join first spare dest => (Session.join first spare dest).leave s

/-- The step is about to make a second handle that grants the writable mode on one object: of one
that does, or of two loose descriptors. -/
def PairStep.Multiplies (s : Session DescriptorPair) : PairStep → Prop
  | .loose step => step.Multiplies s
  | .join first (some spare) _ =>
    ∃ d d' o, s.loose.get? first = some d ∧ s.loose.get? spare = some d' ∧
      Grants s.system.kernel (⟨d, some d'⟩ : DescriptorPair) o .writable ∧ s.HasWriter o
  | _ => False

variable {k k' : Kernel} {d e : Descriptor} {hs hand : List (Holding DescriptorPair)}
  {s : Session DescriptorPair} {h : DescriptorPair}

private theorem not_grants_single (k : Kernel) (d : Descriptor) (o : ObjectId) :
    ¬ Grants k (⟨d, none⟩ : DescriptorPair) o .writable := by
  rintro ⟨_, _, _, _, hreserve⟩
  cases hreserve

/-- A clone of a single descriptor is never a second writer. -/
theorem not_multiplies_clone (source dest : String) (holder : Holder) (spare : Bool) :
    ¬ LooseStep.Multiplies s (.cloneDescriptor source dest) ∧
      ¬ LooseStep.Multiplies s (.cloneBorrowed holder spare dest) :=
  ⟨fun ⟨d, o, _, hg⟩ => not_grants_single _ d o hg,
    fun ⟨_, d, o, _, _, hg⟩ => not_grants_single _ d o hg⟩

theorem sound_pair (hd : Sound k (⟨d, none⟩ : DescriptorPair))
    (he : Sound k (⟨e, none⟩ : DescriptorPair)) : Sound k (⟨d, some e⟩ : DescriptorPair) := by
  intro c hc
  rcases List.mem_cons.mp hc with rfl | hc
  · exact hd _ List.mem_cons_self
  · exact he c hc

private theorem custody_takeApart (hc : Custody False k (⟨⟨d, some e⟩, none⟩ :: hs)) :
    Custody False k (⟨⟨d, none⟩, none⟩ :: ⟨⟨e, none⟩, none⟩ :: hs) := by
  obtain ⟨hx, hapart, hrest⟩ := Custody.cons_iff.mp hc
  have hne : d ≠ e := fun heq =>
    (List.nodup_cons.mp hx.nodup).1 (List.mem_singleton.mpr heq)
  have hmem : ∀ {c}, c = d ∨ c = e → c ∈ descriptors (⟨d, some e⟩ : DescriptorPair) := by
    rintro c (rfl | rfl)
    · exact List.mem_cons_self
    · exact List.mem_cons_of_mem _ List.mem_cons_self
  have hout : ∀ {c y}, c = d ∨ c = e → y ∈ hs →
      Apart k ⟨(⟨c, none⟩ : DescriptorPair), none⟩ y := by
    refine fun {c y} hc hy => ⟨fun c' hc' => ?_, fun o hg => absurd hg (not_grants_single k c o)⟩
    obtain rfl := List.mem_singleton.mp hc'
    exact (hapart y hy).disjoint c' (hmem hc)
  refine Custody.cons_iff.mpr ⟨kept_single hx (hmem (.inl rfl)), fun y hy => ?_,
    Custody.cons_iff.mpr ⟨kept_single hx (hmem (.inr rfl)), fun y hy => hout (.inr rfl) hy, hrest⟩⟩
  rcases List.mem_cons.mp hy with rfl | hy
  · refine ⟨fun c hc hc' => ?_, fun o hg => absurd hg (not_grants_single k d o)⟩
    exact hne ((List.mem_singleton.mp hc).symm.trans (List.mem_singleton.mp hc'))
  · exact hout (.inl rfl) hy

private theorem custody_join (hc : Custody False k (⟨⟨d, none⟩, none⟩ :: ⟨⟨e, none⟩, none⟩ :: hs))
    (hwriter : ∀ o, Grants k (⟨d, some e⟩ : DescriptorPair) o .writable →
      ∀ y ∈ hs, ¬ Grants k y.handle o .writable) :
    Custody False k (⟨⟨d, some e⟩, none⟩ :: hs) := by
  obtain ⟨hd, hapart, hrest⟩ := Custody.cons_iff.mp hc
  obtain ⟨he, hapart', hrest⟩ := Custody.cons_iff.mp hrest
  refine Custody.cons_iff.mpr ⟨⟨?_, fun c hc => ?_, nofun, nofun⟩,
    fun y hy => ⟨fun c hc => ?_, fun o hg => hwriter o hg y hy⟩, hrest⟩
  · refine List.nodup_cons.mpr ⟨fun hmem => ?_, List.pairwise_singleton _ _⟩
    exact (hapart _ List.mem_cons_self).disjoint d List.mem_cons_self hmem
  · rcases List.mem_cons.mp hc with rfl | hc
    · exact hd.sound _ List.mem_cons_self
    · exact he.sound c hc
  · rcases List.mem_cons.mp hc with rfl | hc
    · exact (hapart y (List.mem_cons_of_mem _ hy)).disjoint _ List.mem_cons_self
    · exact (hapart' y hy).disjoint c hc

private theorem takeApart_yields (source dest spareDest : String) (hs : LooseCustody False hand s) :
    (takeApart source dest spareDest).Yields s fun _ s' => LooseCustody False hand s' := by
  refine .bind (.held hs fun h hh => .bind (.modify ?_))
  have htake := hs.takeHandle hh
  obtain ⟨fd, spare⟩ := h
  cases spare with
  | none =>
    exact .keep ((putDescriptor_yields htake).mono fun _ _ hs' => hs'.2) fun _ _ hs' =>
      .bind (.viewDescriptor fun _ => .pure hs')
  | some spare =>
    have hapart : LooseCustody False (⟨⟨fd, none⟩, none⟩ :: ⟨⟨spare, none⟩, none⟩ :: hand)
        { s with handles := s.handles.erase source } :=
      htake.act (custody_takeApart htake.front)
    refine .bind ((putDescriptor_yields hapart).mono ?_)
    intro x s' hs'
    obtain ⟨rfl, hs'⟩ := hs'
    refine .bind (.viewDescriptor ?_)
    intro _
    exact .keep ((putDescriptor_yields hs').mono fun _ _ hs'' => hs''.2) fun _ _ hs'' =>
      .bind (.viewDescriptor fun _ => .pure hs'')

private theorem join_yields (first : String) (spare : Option String) (dest : String)
    (hs : LooseCustody False [] s) (hstep : ¬ PairStep.Multiplies s (.join first spare dest)) :
    (join first spare dest).Yields s fun _ s' => LooseCustody False [] s' := by
  refine .bind (.held hs ?_)
  intro d hd
  cases spare with
  | none =>
    exact .bind (.pure (.bind (.modify (.keep (hs.takeLoose hd).putHandle
      fun _ _ hs' => .bind (.viewHandle fun _ => .pure hs')))))
  | some name =>
    refine .bind (.held hs fun d' hd' => .bind (.act
      ((clone_yields hs (hs.kept hd') (descriptor_mem _) (not_grants_single _ d')).mono
        fun outcome k' hk' system hsys => .bind (.pure ?_))))
    have hclone := hk' system hsys
    cases outcome with
    | error e => exact .pure hclone
    | ok copy =>
      obtain ⟨hcopy, hshift, hfile⟩ := hclone
      subst hsys
      have hsound := sound_pair (hs.kept hd).sound (hs.kept hd').sound
      have hcopies : Copies s.system.kernel (⟨d, some d'⟩ : DescriptorPair) system.kernel
          (⟨d, some copy⟩ : DescriptorPair) :=
        ⟨hshift.file?_eq List.not_mem_nil (hsound.isOpen List.mem_cons_self),
          congrArg some hfile⟩
      -- A writer made of the two descriptors would be the second one before the step.
      have hwriter : ∀ o, Grants system.kernel (⟨d, some copy⟩ : DescriptorPair) o .writable →
          ∀ y ∈ (s.loose.erase first).gather loosened ++ s.holdings,
            ¬ Grants system.kernel y.handle o .writable := by
        intro o hg y hy hgy
        have hg := (hcopies.grants_iff hshift hsound).mp hg
        rcases List.mem_append.mp hy with hy | hy
        · obtain ⟨e, -, he⟩ := List.mem_flatMap.mp hy
          rw [List.mem_singleton.mp he] at hgy
          exact not_grants_single _ e o hgy
        · obtain ⟨holder, hholder⟩ :=
            holder?_of_mem_holdings hs.keeps.regions hs.keeps.handles hy
          have hsoundy := (hs.keeps.custody.each y (List.mem_append_left _ hy)).sound
          have hgy := hgy.of_shift hsoundy hshift fun _ _ => List.not_mem_nil
          exact hstep ⟨d, d', o, hd, hd', hg, holder, _, hholder, hgy⟩
      have htake := hcopy.takeLoose hd
      have hjoined : LooseCustody False [⟨⟨d, some copy⟩, none⟩]
          { s with system, loose := s.loose.erase first } :=
        htake.act (custody_join htake.front hwriter)
      exact .bind (.modify (.keep hjoined.putHandle fun _ _ hs' =>
        .bind (.viewHandle fun _ => .pure hs')))

theorem LooseCustody.pair (hs : LooseCustody False [] s) (step : PairStep)
    (hstep : ¬ step.Multiplies s) : LooseCustody False [] (step.run s) := by
  cases step with
  | loose step => exact hs.loose step hstep
  | takeApart source dest spareDest => exact takeApart_yields source dest spareDest hs
  | join first spare dest => exact join_yields first spare dest hs hstep

end SharedMemory.Session

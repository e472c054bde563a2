import SharedMemory.Proofs.Session.Objects
/-!
# Read-only regions are frozen

When a region of sealed files has become read-only, its object cannot be changed any longer by
anybody who comes later, whatever descriptors they have or make. Its length stays, and the only
way to its bytes are the writable mappings that were there at that moment.
-/
namespace SharedMemory.Session

open Kernel

/-- From a session on, whatever turns are taken, an object keeps its length, gets no new writable
mapping, and is written only through the writable mappings that it has already. -/
structure FrozenFrom {H : Type} [Backing H] (s : Session H) (o : ObjectId) : Prop where
  length (turns : List Turn) :
    ((s.runTurns turns).system.kernel.object o).length = (s.system.kernel.object o).length
  mappings (turns : List Turn) (turn : Turn) (id : MappingId) (m : Mapping) :
    (turn.run (s.runTurns turns)).system.kernel.mappings.get? id = some m →
      m.writable = true → m.object = o →
        (s.runTurns turns).system.kernel.mappings.get? id = some m
  bytes (turns : List Turn) (turn : Turn) (p : Nat) :
    p < (s.system.kernel.object o).length →
      ((turn.run (s.runTurns turns)).system.kernel.object o).content p ≠
        ((s.runTurns turns).system.kernel.object o).content p →
          ∃ id m, turn.through? (s.runTurns turns) = some id ∧
            s.system.kernel.mappings.get? id = some m ∧
            (s.runTurns turns).system.kernel.mappings.get? id = some m ∧
            m.writable = true ∧ m.object = o
  /-- Where there is no writable mapping, every byte stays as it is. -/
  constant :
    (∀ id m, s.system.kernel.mappings.get? id = some m → m.object = o → m.writable = false) →
      ∀ (turns : List Turn), ∀ p < (s.system.kernel.object o).length,
        ((s.runTurns turns).system.kernel.object o).content p =
          (s.system.kernel.object o).content p

private theorem frozenFrom_of_frozen {H : Type} [Backing H] [CallingBacking H] [ModestBacking H]
    {s : Session H} {o : ObjectId} (hf : (s.system.kernel.object o).Frozen) : FrozenFrom s o := by
  have hlater : ∀ turns, (s.system.kernel.object o).Evolves
      ((s.runTurns turns).system.kernel.object o) := by
    intro turns
    exact (runTurns_reaches s turns).evolves hf.kind
  have hlength : ∀ turns, ((s.runTurns turns).system.kernel.object o).length =
      (s.system.kernel.object o).length := by
    intro turns
    exact (hlater turns).length hf.shrink hf.grow
  refine ⟨hlength, ?_, ?_, ?_⟩
  · intro turns turn id m hm hw ho
    exact (turn.reaches _).writable (hf.evolves (hlater turns)) hm hw ho
  · intro turns turn p hp hne
    have hfrozen := hf.evolves (hlater turns)
    rw [← hlength turns] at hp
    obtain ⟨id, m, hthrough, hm, hw, ho⟩ := (turn.reaches _).content hfrozen hp hne
    exact ⟨id, m, hthrough, (runTurns_reaches s turns).writable hf hm hw ho, hm, hw, ho⟩
  · intro hnone turns p hp
    apply Decidable.byContradiction
    intro hne
    obtain ⟨id, m, -, hm, hw, ho⟩ := (runTurns_reaches s turns).content hf hp hne
    simp only [hnone id m hm ho, Bool.false_eq_true] at hw

/-- The object of a region that was made writable, under any name and after any turns, is frozen
once the region has been converted to read-only. -/
theorem readOnly_freezes {s₀ s₁ s₃ : Session SealedFile} {size : Nat} {layout : Layout}
    {dest name : String} {made left : RegionView} {before : List Turn} {o : ObjectId}
    (hmake : (create .writable size layout dest none).run.run s₀ = (some (.ok made), s₁))
    (hmade : s₁.objectUnder? dest = some o)
    (hname : (s₁.runTurns before).objectUnder? name = some o)
    (hconvert : (convert name Region.toReadOnly none).run.run (s₁.runTurns before) =
      (some (.ok (), left), s₃)) : FrozenFrom s₃ o := by
  obtain ⟨hkind, hseals⟩ := (create_object _ _ _ _ _).of_run hmake made rfl o hmade
  have hbefore := (runTurns_reaches s₁ before).evolves hkind
  have hstep := (convert_calls name .readOnly (s₁.runTurns before)).of_run hconvert
  have hlater := hbefore.trans (hstep.evolves (hbefore.kind.trans hkind))
  obtain ⟨-, hwrites⟩ := (convert_object name _).of_run hconvert left rfl o hname
  apply frozenFrom_of_frozen
  refine ⟨hlater.kind.trans hkind, hlater.seals.shrink ?_, hlater.seals.grow ?_, hwrites⟩
  · rw [hseals]
    rfl
  · rw [hseals]
    rfl

/-- The session maps the region before it is converted, and somebody has opened the object anew. -/
def mappedTurns : List Turn :=
  [.ours (.map (some "region") 0 4096 .host "window"), .theirs (.reopen ⟨0⟩ .readWrite)]

theorem readOnly_freezes_of_mapped :
    ∃ made left s₁ s₃,
      (create .writable 4096 .host "region" none).run.run ({} : Session SealedFile) =
        (some (.ok made), s₁) ∧
      (convert "region" Region.toReadOnly none).run.run (s₁.runTurns mappedTurns) =
        (some (.ok (), left), s₃) ∧
      s₃.system.kernel.mappings.get? 0 = some ⟨0, 0, 4096, true⟩ ∧ FrozenFrom s₃ 0 :=
  ⟨_, _, _, _, rfl, rfl, rfl,
    @readOnly_freezes {} _ _ 4096 .host "region" "region" _ _ mappedTurns 0 rfl rfl rfl rfl⟩

end SharedMemory.Session

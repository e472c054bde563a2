import SharedMemory.Proofs.Wire
/-!
# Every spelling of a value on the wire is read

A header or a layout may be an object with its fields in any order and with other entries anywhere
between them, or a list of its fields. Logger settings may be an object of some of their fields, and
then have their defaults in place of the others, but no other entry is allowed among them. A field
that comes twice is refused in each of them.
-/
namespace SharedMemory.Wire

open Json RecordShape

section Fields

private theorem readMode_inStep : InStep readMode := by
  intro cs m rest h
  unfold readMode at h
  split at h
  · rename_i inner hcs
    obtain ⟨⟨name, rest'⟩, hname, h⟩ := of_bind_eq_ok h
    obtain ⟨mode, -, h⟩ := of_bind_eq_ok h
    cases h
    exact skip?_scalar hcs (by decide) (by decide)
      (skipScalar?_string (orMalformed_eq_ok_iff.mp hname))
  · rename_i inner hopen
    split at h
    · rename_i quoted hquote
      obtain ⟨⟨name, colon⟩, hname, h⟩ := of_bind_eq_ok h
      obtain ⟨mode, -, h⟩ := of_bind_eq_ok h
      obtain ⟨value, hcolon, h⟩ := of_bind_eq_ok h
      obtain ⟨⟨_, close⟩, hnull, h⟩ := of_bind_eq_ok h
      obtain ⟨ps, hpieces⟩ := pieces?_of_string? (orMalformed_eq_ok_iff.mp hname)
      obtain ⟨v, hvalue, hscalar⟩ := of_readNull hnull
      dsimp only at h
      split at h
      · rename_i rest' hclose
        cases h
        exact skip?_single hopen hquote hpieces (orMalformed_eq_ok_iff.mp hcolon) hvalue (by decide)
          (by decide) hscalar hclose
      · cases h
    · cases h
  · cases h

private theorem readGuid_inStep : InStep readGuid := by
  intro cs g rest h
  obtain ⟨⟨s, rest'⟩, hstring, h⟩ := of_bind_eq_ok h
  have hrest : rest' = rest := by
    dsimp only at h
    split at h
    · exact (Prod.mk.inj (Except.ok.inj h)).2
    · cases h
  rw [← hrest]
  exact readString_inStep _ _ _ _ hstring

private theorem orderly_header : Orderly headerShape := by
  refine List.forall_mem_cons.mpr ⟨?_, List.forall_mem_cons.mpr ⟨?_,
    List.forall_mem_cons.mpr ⟨?_, nofun⟩⟩⟩
  · exact .option readMode_inStep fun _ _ => List.forall_mem_cons.mpr ⟨rfl,
      List.forall_mem_cons.mpr ⟨rfl, List.forall_mem_cons.mpr ⟨rfl, nofun⟩⟩⟩
  · exact .option (readWord_inStep "u64") fun _ _ => List.forall_mem_cons.mpr ⟨rfl,
      List.forall_mem_cons.mpr ⟨rfl, List.forall_mem_cons.mpr ⟨rfl, nofun⟩⟩⟩
  · exact .option readGuid_inStep fun _ _ => List.forall_mem_cons.mpr ⟨rfl,
      List.forall_mem_cons.mpr ⟨rfl, List.forall_mem_cons.mpr ⟨rfl, nofun⟩⟩⟩

private theorem orderly_layout : Orderly layoutShape := by
  refine List.forall_mem_cons.mpr ⟨?_, List.forall_mem_cons.mpr ⟨?_, nofun⟩⟩
  · exact .option (readWord_inStep "usize") fun _ _ => List.forall_mem_cons.mpr ⟨rfl,
      List.forall_mem_cons.mpr ⟨rfl, nofun⟩⟩
  · exact .option (readWord_inStep "usize") fun _ _ => List.forall_mem_cons.mpr ⟨rfl,
      List.forall_mem_cons.mpr ⟨rfl, nofun⟩⟩

private theorem orderly_config : Orderly configShape := by
  refine List.forall_mem_cons.mpr ⟨?_, List.forall_mem_cons.mpr ⟨?_, nofun⟩⟩
  · exact .option (readString_inStep "a string") fun _ _ => List.forall_mem_cons.mpr ⟨rfl,
      List.forall_mem_cons.mpr ⟨rfl, nofun⟩⟩
  · exact .option readBoolean_inStep fun _ _ => List.forall_mem_cons.mpr ⟨rfl,
      List.forall_mem_cons.mpr ⟨rfl, nofun⟩⟩

end Fields

section Records

variable {σ α : Type} {shape : RecordShape σ α}

/-- The text is an object of the given entries in their order. -/
def IsObject (entries : List (String × List Char)) (text : String) : Prop :=
  ∃ object, ObjectText entries object ∧ Padded object text.toList

/-- The text is a list of the given values. -/
def IsList (values : List (List Char)) (text : String) : Prop :=
  ∃ list, ListText values list ∧ Padded list text.toList

/-- A record is read from every object that has each of its fields once, in any order and among any
other entries, and from the list of its fields in their order. An object that has a field twice is
not read at all, whatever its values are. -/
structure ReadsSpellings (shape : RecordShape σ α) (spells : α → String → List Char → Prop)
    (valid : α → Prop) : Prop where
  object : ∀ a entries text, valid a → shape.Lists (spells a) entries →
    (∀ name ∈ shape.names, name ∈ namesOf entries) → IsObject entries text →
      readAll shape.read text = .ok a
  list : ∀ a values text, valid a → List.Forall₂ (spells a) shape.names values →
    IsList values text → readAll shape.read text = .ok a
  twice : ∀ entries text, (∀ entry ∈ entries, Phrase .value entry.2) → IsObject entries text →
    (∃ name ∈ shape.names, 1 < (namesOf entries).count name) →
      ∃ e, readAll shape.read text = .error e

private theorem readsSpellings {spells : α → String → List Char → Prop} {valid : α → Prop}
    {part : α → (String → Bool) → σ} (ho : Orderly shape) (hlenient : shape.strict = false)
    (hfilling : ∀ a, valid a → Filling shape (spells a) (part a))
    (hcomplete : ∀ a, shape.complete (part a fun _ => true) = .ok a) :
    ReadsSpellings shape spells valid where
  object a entries text hvalid hlists hall htext := by
    obtain ⟨object, hobject, hpad⟩ := htext
    have hf := hfilling a hvalid
    have ha := hcomplete a
    rw [← hf.part_all hall] at ha
    exact (hf.readsAs hlists (.inl hlenient) ha hobject).readAll_padded hpad
  list a values text hvalid hvalues htext := by
    obtain ⟨list, hlist, hpad⟩ := htext
    exact ((hfilling a hvalid).list_readsAs hvalues (hcomplete a) hlist).readAll_padded hpad
  twice entries text hvalues htext htwice := by
    obtain ⟨object, hobject, hpad⟩ := htext
    exact ho.rejects hobject hpad hvalues (.inl htwice)

/-- The default settings, but for those whose names are given. -/
def settings (c : LogConfig) (given : List String) : LogConfig where
  filter := if "filter" ∈ given then c.filter else LogConfig.filter {}
  echo := if "stderr" ∈ given then c.echo else LogConfig.echo {}

private theorem complete_config (c : LogConfig) (given : List String) :
    configShape.complete (partialConfig c given.contains) = .ok (settings c given) := by
  simp only [configShape, partialConfig, settings, List.contains_iff_mem]
  split
  all_goals
    split
    all_goals rfl

/-- Headers whose size fits a word and layouts are read from all their spellings. Logger settings
are read from every object of some of them, which replace their defaults, and from no object that
has a setting twice or any other entry. -/
theorem spellings_read :
    ReadsSpellings headerShape SpellsHeader (·.size < UInt64.size) ∧
    ReadsSpellings layoutShape SpellsLayout (fun _ => True) ∧
    (∀ c entries text, configShape.Lists (SpellsConfig c) entries →
      (∀ entry ∈ entries, entry.1 ∈ configShape.names) → IsObject entries text →
        readAll readConfig text = .ok (settings c (namesOf entries))) ∧
    ∀ entries text, (∀ entry ∈ entries, Phrase .value entry.2) → IsObject entries text →
      ((∃ name ∈ configShape.names, 1 < (namesOf entries).count name) ∨
        ∃ entry ∈ entries, entry.1 ∉ configShape.names) →
      ∃ e, readAll readConfig text = .error e := by
  refine ⟨readsSpellings orderly_header rfl filling_header fun _ => rfl,
    readsSpellings orderly_layout rfl (fun l _ => filling_layout l) complete_layout, ?_, ?_⟩
  · rintro c entries text hlists hknown ⟨object, hobject, hpad⟩
    have hread := (filling_config c).readsAs hlists (.inr hknown) (complete_config c _) hobject
    exact hread.readAll_padded hpad
  · rintro entries text hvalues ⟨object, hobject, hpad⟩ hbad
    exact orderly_config.rejects hobject hpad hvalues (hbad.imp_right fun h => ⟨rfl, h⟩)

/-- A header in another order, with a list among its fields and its mode in an object; settings with
one field; and settings with an entry that is no field. -/
theorem spellings_read_of_mixed :
    readAll readHeader (String.ofList (writeObject [("size", "7".toList),
      ("more", "[[],[null]]".toList), ("guid", writeGuid .nil),
      ("mode", writeObject [("Unsafe", "null".toList)])])) = .ok ⟨.shared, 7, .nil⟩ ∧
    readAll readConfig (String.ofList (writeObject [("stderr", "false".toList)])) =
      .ok ⟨"info", false⟩ ∧
    ∃ e, readAll readConfig (String.ofList (writeObject [("stderr", "false".toList),
      ("level", "[]".toList)])) = .error e := by
  have hobject : ∀ entries, IsObject entries (String.ofList (writeObject entries)) := by
    intro entries
    refine ⟨_, objectText_writeObject entries, ?_⟩
    rw [String.toList_ofList]
    exact padded_self _
  have hempty : Phrase .value "[]".toList := .emptyList blanks_nil
  have hnull : Phrase .value "null".toList := .word List.mem_cons_self
  have hfalse : Phrase .value "false".toList := .word (by decide)
  have hmore : Phrase .value "[[],[null]]".toList :=
    .list (.elements hempty (padded_self _)
      (.element (.list (.element hnull (padded_self _))) (padded_self _)))
  obtain ⟨headers, -, configs, refused⟩ := spellings_read
  refine ⟨headers.object ⟨.shared, 7, .nil⟩ _ _ (by decide) ⟨?_, ?_, by decide⟩ (by decide)
    (hobject _), configs ⟨"", false⟩ _ _ ⟨?_, ?_, by decide⟩ (by decide) (hobject _),
    refused _ _ ?_ (hobject _) ?_⟩
  · exact List.forall_mem_cons.mpr ⟨fun _ => rfl, List.forall_mem_cons.mpr
      ⟨fun h => absurd h (by decide), List.forall_mem_cons.mpr ⟨fun _ => spellsGuid_writeGuid .nil,
        List.forall_mem_cons.mpr ⟨fun _ => .inr (objectText_writeObject _), nofun⟩⟩⟩⟩
  · exact List.forall_mem_cons.mpr ⟨fun h => absurd (by decide) h, List.forall_mem_cons.mpr
      ⟨fun _ => hmore, List.forall_mem_cons.mpr ⟨fun h => absurd (by decide) h,
        List.forall_mem_cons.mpr ⟨fun h => absurd (by decide) h, nofun⟩⟩⟩⟩
  · exact List.forall_mem_cons.mpr ⟨fun _ => rfl, nofun⟩
  · exact List.forall_mem_cons.mpr ⟨fun h => absurd (by decide) h, nofun⟩
  · exact List.forall_mem_cons.mpr ⟨hfalse, List.forall_mem_cons.mpr ⟨hempty, nofun⟩⟩
  · exact .inr ⟨("level", "[]".toList), by decide, by decide⟩

end Records

end SharedMemory.Wire

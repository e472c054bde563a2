import Mathlib.Data.List.Forall2
import SharedMemory.Proofs.Json.Values
/-!
# Which entries make which record

A partial record is known by the names of the fields that it has. Each entry adds its name, so the
order of the entries is no matter and only their names count: every field that is there once is
filled, and unknown entries add nothing. An object that has a field twice is never accepted, nor one
with an unknown entry where the record is strict.
-/
namespace SharedMemory.Json

variable {α σ : Type}

/-- The names of entries. -/
def namesOf (entries : List (String × List Char)) : List String := entries.map (·.1)

namespace RecordShape

variable {shape : RecordShape σ α} {name : String} {field : Field σ}
  {entries : List (String × List Char)} {text : List Char}

private theorem mem_names_of_find? (h : shape.fields.find? (·.name == name) = some field) :
    field ∈ shape.fields ∧ field.name = name ∧ name ∈ shape.names := by
  have hmem := List.mem_of_find?_eq_some h
  have hname : field.name = name := by simpa using List.find?_some h
  exact ⟨hmem, hname, hname ▸ List.mem_map_of_mem hmem⟩

private theorem not_mem_names_of_find? (h : shape.fields.find? (·.name == name) = none) :
    name ∉ shape.names := by
  intro hmem
  obtain ⟨field, hfield, hname⟩ := List.mem_map.mp hmem
  have hother := List.find?_eq_none.mp h field hfield
  exact hother (beq_iff_eq.mpr hname)

/-- Entries of a record: every field at most once, known entries with the texts that spell their
values, and unknown ones with any value of JSON. -/
structure Lists (shape : RecordShape σ α) (spells : String → List Char → Prop)
    (entries : List (String × List Char)) : Prop where
  known : ∀ entry ∈ entries, entry.1 ∈ shape.names → spells entry.1 entry.2
  unknown : ∀ entry ∈ entries, entry.1 ∉ shape.names → Phrase .value entry.2
  once : ∀ name ∈ shape.names, (namesOf entries).count name ≤ 1

/-- Reading a field fills it: each of its texts is a value of JSON, and adds its name to those of
the fields that a partial record has. -/
structure Fills (spells : String → List Char → Prop) (part : (String → Bool) → σ)
    (field : Field σ) : Prop where
  isSet : ∀ has, field.isSet (part has) = has field.name
  phrase : ∀ text, spells field.name text → Phrase .value text
  reads : ∀ has text, spells field.name text →
    ReadsAs (field.read (part has)) text (part fun name => name == field.name || has name)

/-- The partial records that have the fields of given names. -/
structure Filling (shape : RecordShape σ α) (spells : String → List Char → Prop)
    (part : (String → Bool) → σ) : Prop where
  empty : shape.empty = part fun _ => false
  congr {has has' : String → Bool} :
    (∀ name ∈ shape.names, has name = has' name) → part has = part has'
  fills : ∀ field ∈ shape.fields, Fills spells part field

section Filled

variable {spells : String → List Char → Prop} {part : (String → Bool) → σ} {value : List Char}
  {names : List String} {a : α}

/-- A field that is kept in an option is filled by the values that are read as its own. -/
theorem Fills.option {β : Type} {read : Read β} {get : σ → Option β} {set : σ → β → σ} {b : β}
    (hget : ∀ has, get (part has) = if has name then some b else none)
    (hset : ∀ has, set (part has) b = part fun n => n == name || has n)
    (hvalue : ∀ text, spells name text → Phrase .value text ∧ ReadsAs read text b) :
    Fills spells part (.option name get set read) := by
  refine ⟨fun has => ?_, fun text htext => (hvalue text htext).1, fun has text htext => ?_⟩
  · change (get (part has)).isSome = has name
    rw [hget]
    cases has name with
    | true => rfl
    | false => rfl
  · change ReadsAs _ text (part fun n => n == name || has n)
    rw [← hset]
    exact (hvalue text htext).2.field (part has)

theorem Lists.tail {entry : String × List Char} (hl : Lists shape spells (entry :: entries)) :
    Lists shape spells entries :=
  ⟨fun e he => hl.known e (List.mem_cons_of_mem _ he),
    fun e he => hl.unknown e (List.mem_cons_of_mem _ he),
    fun n hn => Nat.le_trans List.count_le_count_cons (hl.once n hn)⟩

theorem Lists.ne (hl : Lists shape spells ((name, value) :: entries)) (hknown : name ∈ shape.names)
    {entry : String × List Char} (hentry : entry ∈ entries) : entry.1 ≠ name := by
  have hcount := hl.once name hknown
  rw [namesOf, List.map_cons, List.count_cons_self] at hcount
  have hnone : (namesOf entries).count name = 0 :=
    Nat.le_zero.mp (Nat.le_of_succ_le_succ hcount)
  rintro rfl
  exact List.count_eq_zero.mp hnone (List.mem_map_of_mem hentry)

namespace Filling

private theorem part_nil (hf : Filling shape spells part) (has : String → Bool) :
    (part fun n => has n || ([] : List String).contains n) = part has :=
  hf.congr fun _ _ => Bool.or_false _

private theorem part_cons (hf : Filling shape spells part) (has : String → Bool) (name : String)
    (names : List String) : (part fun n => has n || (name :: names).contains n) =
      part fun n => (n == name || has n) || names.contains n := by
  refine hf.congr fun n _ => ?_
  rw [List.contains_cons]
  exact (Bool.or_left_comm _ _ _).trans (Bool.or_assoc _ _ _).symm

private theorem part_unknown (hf : Filling shape spells part) (has : String → Bool)
    (hunknown : name ∉ shape.names) : (part fun n => has n || (name :: names).contains n) =
      part fun n => has n || names.contains n := by
  refine hf.congr fun n hn => ?_
  have hne : (n == name) = false := by
    rw [beq_eq_false_iff_ne]
    rintro rfl
    exact hunknown hn
  rw [List.contains_cons, hne, Bool.false_or]

theorem part_all (hf : Filling shape spells part) (hall : ∀ name ∈ shape.names, name ∈ names) :
    part names.contains = part fun _ => true :=
  hf.congr fun name hname => List.contains_iff_mem.mpr (hall name hname)

private theorem takes (hf : Filling shape spells part) (hl : Lists shape spells entries)
    (hlenient : shape.strict = false ∨ ∀ entry ∈ entries, entry.1 ∈ shape.names)
    (has : String → Bool) (hfree : ∀ entry ∈ entries, entry.1 ∈ shape.names → has entry.1 = false) :
    Takes shape (part has) entries
      (part fun name => has name || (namesOf entries).contains name) := by
  induction entries generalizing has with
  | nil =>
    rw [namesOf, List.map_nil, hf.part_nil]
    exact .nil _
  | cons entry entries ih =>
    obtain ⟨name, value⟩ := entry
    have hlenient' : shape.strict = false ∨ ∀ entry ∈ entries, entry.1 ∈ shape.names :=
      hlenient.imp_right fun hall e he => hall e (List.mem_cons_of_mem _ he)
    rw [namesOf, List.map_cons]
    cases hfind : shape.fields.find? (·.name == name) with
    | some field =>
      obtain ⟨hmem, rfl, hknown⟩ := mem_names_of_find? hfind
      have hfills := hf.fills field hmem
      have hnew : ∀ e ∈ entries, e.1 ∈ shape.names →
          (e.1 == field.name || has e.1) = false := by
        intro e he hename
        rw [hfree e (List.mem_cons_of_mem _ he) hename, Bool.or_false]
        exact beq_eq_false_iff_ne.mpr (hl.ne hknown he)
      rw [hf.part_cons]
      exact .known hfind ((hfills.isSet has).trans (hfree _ List.mem_cons_self hknown))
        (hfills.reads has value (hl.known _ List.mem_cons_self hknown))
        (ih hl.tail hlenient' _ hnew)
    | none =>
      have hunknown := not_mem_names_of_find? hfind
      have hopen : shape.strict = false :=
        hlenient.resolve_right fun hall => hunknown (hall _ List.mem_cons_self)
      rw [hf.part_unknown has hunknown]
      exact .unknown hfind hopen (hl.unknown _ List.mem_cons_self hunknown)
        (ih hl.tail hlenient' has fun e he => hfree e (List.mem_cons_of_mem _ he))

/-- In whatever order the entries come, the object is read as the record of the fields that are
there. -/
theorem readsAs (hf : Filling shape spells part) (hl : Lists shape spells entries)
    (hlenient : shape.strict = false ∨ ∀ entry ∈ entries, entry.1 ∈ shape.names)
    (ha : shape.complete (part (namesOf entries).contains) = .ok a)
    (htext : ObjectText entries text) : ReadsAs shape.read text a := by
  have htakes := hf.takes hl hlenient (fun _ => false) fun _ _ _ => rfl
  simp only [Bool.false_or] at htakes
  rw [← hf.empty] at htakes
  exact htakes.readsAs ha htext

/-- What is written of a record in full is read back as that record. -/
theorem readsBack (hf : Filling shape spells part) (hnames : namesOf entries = shape.names)
    (hnodup : shape.names.Nodup) (hspells : ∀ entry ∈ entries, spells entry.1 entry.2)
    (ha : shape.complete (part fun _ => true) = .ok a) :
    ReadsAs shape.read (writeObject entries) a := by
  have hknown : ∀ entry ∈ entries, entry.1 ∈ shape.names :=
    fun entry hentry => hnames ▸ List.mem_map_of_mem hentry
  have hlists : Lists shape spells entries :=
    ⟨fun entry hentry _ => hspells entry hentry,
      fun entry hentry hunknown => absurd (hknown entry hentry) hunknown,
      fun name _ => hnames ▸ List.nodup_iff_count.mp hnodup name⟩
  rw [← hf.part_all fun name hname => hnames ▸ hname] at ha
  exact hf.readsAs hlists (.inr hknown) ha (objectText_writeObject entries)

private theorem takesList (hf : Filling shape spells part) {fields : List (Field σ)}
    (hfields : ∀ field ∈ fields, field ∈ shape.fields) {values : List (List Char)}
    (hvalues : List.Forall₂ (fun field value => spells field.name value) fields values)
    (has : String → Bool) :
    TakesList fields (part has) values
      (part fun name => has name || (fields.map (·.name)).contains name) := by
  induction hvalues generalizing has with
  | nil =>
    rw [List.map_nil, hf.part_nil]
    exact .nil _
  | @cons field value fields values hvalue _ ih =>
    have hfills := hf.fills field (hfields field List.mem_cons_self)
    have hrest := ih (fun f hf => hfields f (List.mem_cons_of_mem _ hf))
      fun name => name == field.name || has name
    obtain ⟨c, cs, rfl, hblank, hclose, -⟩ := (hfills.phrase value hvalue).front
    rw [List.map_cons, hf.part_cons]
    exact .cons hblank hclose (hfills.reads has _ hvalue) hrest

/-- The list of all fields in their order is read as the record that has them all. -/
theorem list_readsAs {values : List (List Char)} (hf : Filling shape spells part)
    (hvalues : List.Forall₂ spells shape.names values)
    (ha : shape.complete (part fun _ => true) = .ok a) (htext : ListText values text) :
    ReadsAs shape.read text a := by
  have htakes := hf.takesList (fun _ => id) (List.forall₂_map_left_iff.mp hvalues) fun _ => false
  simp only [Bool.false_or] at htakes
  rw [← hf.empty] at htakes
  rw [← hf.part_all fun _ => id] at ha
  exact htakes.readsAs ha htext

end Filling

end Filled

/-- What a field of a record keeps to: it takes what it reads off the front, and it sets itself and
no other. -/
structure KeepsTo (fields : List (Field σ)) (field : Field σ) : Prop where
  inStep : ∀ p, InStep (field.read p)
  sets : ∀ {p p' cs rest}, field.read p cs = .ok (p', rest) →
    ∀ other ∈ fields, other.isSet p' = (other.name == field.name || other.isSet p)

theorem KeepsTo.option {β : Type} {fields : List (Field σ)} {read : Read β} {get : σ → Option β}
    {set : σ → β → σ} (hread : InStep read)
    (hset : ∀ p b, ∀ other ∈ fields,
      other.isSet (set p b) = (other.name == name || other.isSet p)) :
    KeepsTo fields (.option name get set read) := by
  refine ⟨hread.field, fun hfield => ?_⟩
  obtain ⟨b, -, rfl⟩ := of_option_read hfield
  exact hset _ b

def Orderly (shape : RecordShape σ α) : Prop :=
  ∀ field ∈ shape.fields, KeepsTo shape.fields field

/-- What an accepted entry does to a partial record: it sets the field of its name, which was free,
or it is unknown and does nothing. -/
inductive Enters (shape : RecordShape σ α) (name : String) : σ → σ → Prop where
  | known {field : Field σ} {p p' : σ}
    (hfind : shape.fields.find? (·.name == name) = some field) (hfree : field.isSet p = false)
    (hsets : ∀ other ∈ shape.fields, other.isSet p' = (other.name == name || other.isSet p)) :
    Enters shape name p p'
  | unknown {p : σ} (hfind : shape.fields.find? (·.name == name) = none)
    (hlenient : shape.strict = false) : Enters shape name p p

/-- The names of entries that can be accepted into a partial record. -/
structure Admits (shape : RecordShape σ α) (p : σ) (names : List String) : Prop where
  free : ∀ name ∈ names, ∀ field, shape.fields.find? (·.name == name) = some field →
    field.isSet p = false
  once : ∀ name ∈ shape.names, names.count name ≤ 1
  known : shape.strict = true → ∀ name ∈ names, name ∈ shape.names

/-- An entry whose value is JSON is read up to the end of its value. -/
theorem Orderly.readEntry (ho : Orderly shape) {value colon before rest rest' : List Char}
    {p p' : σ} (hvalue : Phrase .value value) (hcolon : Blanks colon) (hbefore : Blanks before)
    (hrest : Ends rest) (hread :
      shape.readEntry name p (colon ++ ':' :: (before ++ (value ++ rest))) = .ok (p', rest')) :
    rest' = rest ∧ Enters shape name p p' := by
  have hskip := hvalue.skip? hbefore hrest
  cases hfind : shape.fields.find? (·.name == name) with
  | some field =>
    obtain ⟨hmem, hname, -⟩ := mem_names_of_find? hfind
    cases hset : field.isSet p with
    | true =>
      rw [readEntry_taken hfind hset] at hread
      cases hread
    | false =>
      rw [readEntry_known hfind hset hcolon] at hread
      have hrest' := ((ho field hmem).inStep p _ _ _ hread).symm.trans hskip
      refine ⟨Option.some.inj hrest', .known hfind hset ?_⟩
      rw [← hname]
      exact (ho field hmem).sets hread
  | none =>
    cases hstrict : shape.strict with
    | true =>
      rw [readEntry_refused hfind hstrict] at hread
      cases hread
    | false =>
      rw [readEntry_unknown hfind hstrict hcolon hskip] at hread
      cases hread
      exact ⟨rfl, .unknown hfind hstrict⟩

theorem Admits.nil (shape : RecordShape σ α) (p : σ) : Admits shape p [] :=
  ⟨nofun, fun _ _ => Nat.zero_le 1, nofun⟩

theorem Admits.cons {p p' : σ} {names : List String} (hentry : Enters shape name p p')
    (hrest : Admits shape p' names) : Admits shape p (name :: names) := by
  cases hentry with
  | @known field _ _ hfind hfree hsets =>
    obtain ⟨-, -, hknown⟩ := mem_names_of_find? hfind
    -- What is still free after the entry was free before, and is not the field of the entry.
    have hothers : ∀ n ∈ names, ∀ other, shape.fields.find? (·.name == n) = some other →
        n ≠ name ∧ other.isSet p = false := by
      intro n hn other hother
      obtain ⟨hmem, hname, -⟩ := mem_names_of_find? hother
      have hleft := hrest.free n hn other hother
      rw [hsets other hmem, Bool.or_eq_false_iff, hname, beq_eq_false_iff_ne] at hleft
      exact hleft
    refine ⟨?_, ?_, fun hstrict n hn => ?_⟩
    · intro n hn other hother
      rcases List.mem_cons.mp hn with rfl | hn
      · obtain rfl := Option.some.inj (hfind.symm.trans hother)
        exact hfree
      · exact (hothers n hn other hother).2
    · intro n hn
      by_cases hname : name = n
      · subst hname
        have hnone : names.count name = 0 :=
          List.count_eq_zero.mpr fun hmem => (hothers name hmem field hfind).1 rfl
        have hone : (name :: names).count name = 1 := by rw [List.count_cons_self, hnone]
        exact Nat.le_of_eq hone
      · rw [List.count_cons_of_ne hname]
        exact hrest.once n hn
    · rcases List.mem_cons.mp hn with rfl | hn
      · exact hknown
      · exact hrest.known hstrict n hn
  | unknown hfind hlenient =>
    have hunknown := not_mem_names_of_find? hfind
    refine ⟨?_, ?_, fun hstrict => ?_⟩
    · intro n hn other hother
      rcases List.mem_cons.mp hn with rfl | hn
      · cases hfind.symm.trans hother
      · exact hrest.free n hn other hother
    · intro n hn
      have hne : name ≠ n := fun heq => hunknown (heq ▸ hn)
      rw [List.count_cons_of_ne hne]
      exact hrest.once n hn
    · cases hlenient.symm.trans hstrict

/-- Entries that are read up to the closing brace were all accepted. -/
theorem Orderly.readEntries (ho : Orderly shape) (htext : MembersText entries text)
    (hvalues : ∀ entry ∈ entries, Phrase .value entry.2) {first : Bool}
    {lead rest rest' : List Char} {fuel : Nat} {p p' : σ} (hlead : Leads first lead)
    (hread : shape.readEntries fuel first p (lead ++ (text ++ '}' :: rest)) = .ok (p', rest')) :
    Admits shape p (namesOf entries) := by
  induction htext generalizing p first lead fuel with
  | @last entry text hentry =>
    cases fuel with
    | zero => cases hread
    | succ fuel =>
      obtain ⟨colon, before, after, hcolon, hbefore, hafter, hstep⟩ :=
        readEntries_entry hentry hlead
      rw [hstep] at hread
      obtain ⟨⟨p₁, rest₁⟩, hfirst, -⟩ := of_bind_eq_ok hread
      obtain ⟨-, henters⟩ := ho.readEntry (hvalues _ List.mem_cons_self) hcolon hbefore
        ((ends_cons (by decide)).blanks hafter) hfirst
      exact .cons henters (.nil shape p₁)
  | @cons entry entries text more hentry _ ih =>
    cases fuel with
    | zero => cases hread
    | succ fuel =>
      obtain ⟨colon, before, after, hcolon, hbefore, hafter, hstep⟩ :=
        readEntries_entry hentry hlead
      rw [List.append_assoc, List.cons_append, hstep] at hread
      obtain ⟨⟨p₁, rest₁⟩, hfirst, hmore⟩ := of_bind_eq_ok hread
      obtain ⟨rfl, henters⟩ := ho.readEntry (hvalues _ List.mem_cons_self) hcolon hbefore
        ((ends_cons (by decide)).blanks hafter) hfirst
      have hnext : shape.readEntries fuel false p₁ ((after ++ [',']) ++ (more ++ '}' :: rest)) =
          .ok (p', rest') := by
        rw [List.append_assoc, List.singleton_append]
        exact hmore
      have hmoreValues : ∀ e ∈ entries, Phrase .value e.2 :=
        fun e he => hvalues e (List.mem_cons_of_mem _ he)
      exact .cons henters (ih hmoreValues (leads_next hafter) hnext)

/-- An object of JSON is only accepted if it has every field at most once and, where the record is
strict, no unknown entry. -/
theorem Orderly.rejects (ho : Orderly shape) {object : List Char} {text : String}
    (hobject : ObjectText entries object) (hpad : Padded object text.toList)
    (hvalues : ∀ entry ∈ entries, Phrase .value entry.2)
    (hbad : (∃ name ∈ shape.names, 1 < (namesOf entries).count name) ∨
      shape.strict = true ∧ ∃ entry ∈ entries, entry.1 ∉ shape.names) :
    ∃ e, readAll shape.read text = .error e := by
  have hnot : ∀ p, ¬ Admits shape p (namesOf entries) := by
    intro p hadmits
    rcases hbad with ⟨name, hname, htwice⟩ | ⟨hstrict, entry, hentry, hunknown⟩
    · exact Nat.not_lt_of_le (hadmits.once name hname) htwice
    · exact hunknown (hadmits.known hstrict _ (List.mem_map_of_mem hentry))
  obtain ⟨before, after, hbefore, hafter, htext⟩ := hpad
  have hread : ∃ e, shape.read (before ++ (object ++ after)) = .error e := by
    cases hobject with
    | empty => exact absurd (.nil shape shape.empty) (hnot shape.empty)
    | @members _ members hmembers =>
      rw [List.cons_append, List.append_assoc, List.singleton_append, read,
        skipBlanks_front hbefore (by decide)]
      change ∃ e, (shape.readEntries _ true shape.empty (members ++ '}' :: after)).bind _ = .error e
      cases hentries : shape.readEntries ((members ++ '}' :: after).length + 1) true shape.empty
          (members ++ '}' :: after) with
      | error e => exact ⟨e, rfl⟩
      | ok result =>
        refine absurd ?_ (hnot shape.empty)
        exact ho.readEntries hmembers hvalues leads_first hentries
  obtain ⟨e, he⟩ := hread
  refine ⟨e, ?_⟩
  rw [Json.readAll, htext, he]
  rfl

end RecordShape

end SharedMemory.Json

import SharedMemory.Json.Record
import SharedMemory.Proofs.Json.Skip
/-!
# Records are read from every spelling of their entries

An object may have its entries in any order, with unknown ones anywhere between them, and blanks and
escapes wherever the grammar has room for them. What the reader makes of it depends on the names and
the values alone. Each entry takes one step of the reader, which ends where the value ends, and so
does each element of a list.
-/
namespace SharedMemory.Json

variable {α : Type}

/-- The reader takes a text, with the blanks before it, off the front of whatever it stands at the
front of, and makes a value of it. -/
def ReadsAs (read : Read α) (text : List Char) (a : α) : Prop :=
  ∀ ws rest, Blanks ws → Ends rest → read (ws ++ (text ++ rest)) = .ok (a, rest)

/-- What the reader accepts it takes off the front just as if it were passed over. -/
def InStep (read : Read α) : Prop := ∀ cs a rest, read cs = .ok (a, rest) → skip? cs = some rest

/-- Steps that are accepted were accepted one after the other. -/
theorem of_bind_eq_ok {β : Type} {x : Except Rejection α} {f : α → Except Rejection β} {b : β}
    (h : x.bind f = .ok b) : ∃ a, x = .ok a ∧ f a = .ok b := by
  cases x with
  | error e => cases h
  | ok a => exact ⟨a, rfl, h⟩

/-- What is read with blanks around it is read as all of a text. -/
theorem ReadsAs.readAll_padded {read : Read α} {inner : List Char} {text : String} {a : α}
    (h : ReadsAs read inner a) (hpad : Padded inner text.toList) : readAll read text = .ok a := by
  obtain ⟨before, after, hbefore, hafter, htext⟩ := hpad
  have hends : Ends after := by
    rw [← List.append_nil after]
    exact ends_nil.blanks hafter
  have hempty : (skipBlanks after).isEmpty = true := by
    rw [← List.append_nil after, skipBlanks_append hafter]
    rfl
  rw [Json.readAll, htext, h before after hbefore hends]
  change (if (skipBlanks after).isEmpty then _ else _ : Except Rejection α) = .ok a
  rw [if_pos hempty]
  rfl

theorem ReadsAs.readAll {read : Read α} {text : List Char} {a : α} (h : ReadsAs read text a) :
    readAll read (String.ofList text) = .ok a := by
  refine h.readAll_padded ?_
  rw [String.toList_ofList]
  exact padded_self text

section Texts

/-- The text of an entry: a spelling of its name and the text of its value. -/
def EntryText (entry : String × List Char) (text : List Char) : Prop :=
  ∃ key name value, SpellsString entry.1 key ∧ Padded key name ∧ Padded entry.2 value ∧
    text = name ++ ':' :: value

inductive MembersText : List (String × List Char) → List Char → Prop where
  | last {entry : String × List Char} {text : List Char} (h : EntryText entry text) :
    MembersText [entry] text
  | cons {entry : String × List Char} {entries : List (String × List Char)} {text rest : List Char}
    (h : EntryText entry text) (hrest : MembersText entries rest) :
    MembersText (entry :: entries) (text ++ ',' :: rest)

/-- The text of an object with given entries in given order. -/
inductive ObjectText : List (String × List Char) → List Char → Prop where
  | empty {ws : List Char} (hws : Blanks ws) : ObjectText [] ('{' :: (ws ++ ['}']))
  | members {entries : List (String × List Char)} {text : List Char}
    (h : MembersText entries text) : ObjectText entries ('{' :: (text ++ ['}']))

inductive ElementsText : List (List Char) → List Char → Prop where
  | last {value text : List Char} (h : Padded value text) : ElementsText [value] text
  | cons {value text rest : List Char} {values : List (List Char)} (h : Padded value text)
    (hrest : ElementsText values rest) : ElementsText (value :: values) (text ++ ',' :: rest)

/-- The text of a list of given values that is not empty. -/
def ListText (values : List (List Char)) (text : List Char) : Prop :=
  ∃ elements, ElementsText values elements ∧ text = '[' :: (elements ++ [']'])

theorem EntryText.pos {entry : String × List Char} {text : List Char} (h : EntryText entry text) :
    0 < text.length := by
  obtain ⟨_, name, value, -, -, -, rfl⟩ := h
  rw [List.length_append, List.length_cons]
  omega

theorem MembersText.length_le {entries : List (String × List Char)} {text : List Char}
    (h : MembersText entries text) : entries.length ≤ text.length := by
  induction h with
  | last hentry => exact hentry.pos
  | cons hentry _ ih =>
    have hpos := hentry.pos
    simp only [List.length_append, List.length_cons]
    omega

theorem MembersText.phrase {entries : List (String × List Char)} {text : List Char}
    (h : MembersText entries text) (hvalues : ∀ entry ∈ entries, Phrase .value entry.2) :
    Phrase .members text := by
  induction h with
  | last hentry =>
    obtain ⟨_, name, value, ⟨body, hbody, rfl⟩, hname, hvalue, rfl⟩ := hentry
    exact .member hbody.stringBody hname (hvalues _ List.mem_cons_self) hvalue
  | cons hentry _ ih =>
    obtain ⟨_, name, value, ⟨body, hbody, rfl⟩, hname, hvalue, rfl⟩ := hentry
    have hrest := ih fun e he => hvalues e (List.mem_cons_of_mem _ he)
    rw [List.append_assoc, List.cons_append]
    exact .members hbody.stringBody hname (hvalues _ List.mem_cons_self) hvalue hrest

theorem ObjectText.phrase {entries : List (String × List Char)} {text : List Char}
    (h : ObjectText entries text) (hvalues : ∀ entry ∈ entries, Phrase .value entry.2) :
    Phrase .value text := by
  cases h with
  | empty hws => exact .emptyObject hws
  | members hmembers => exact .object (hmembers.phrase hvalues)

private theorem entryText_written (entry : String × List Char) :
    EntryText entry (writeString entry.1 ++ ':' :: entry.2) :=
  ⟨_, _, _, spellsString_writeString entry.1, padded_self _, padded_self _, rfl⟩

theorem objectText_writeObject (entries : List (String × List Char)) :
    ObjectText entries (writeObject entries) := by
  cases entries with
  | nil => exact .empty blanks_nil
  | cons entry entries =>
    refine .members ?_
    induction entries generalizing entry with
    | nil =>
      rw [List.map_singleton, List.intercalate_singleton]
      exact .last (entryText_written entry)
    | cons next entries ih =>
      rw [List.map_cons, List.map_cons, List.intercalate_cons_cons, List.append_assoc,
        List.singleton_append]
      exact .cons (entryText_written entry) (ih next)

end Texts

namespace RecordShape

variable {σ : Type} {shape : RecordShape σ α} {name : String} {field : Field σ} {p p' : σ}
  {value text rest ws : List Char} {entries : List (String × List Char)} {fuel : Nat}

section Entry

theorem readEntry_known (hfield : shape.fields.find? (·.name == name) = some field)
    (hnew : field.isSet p = false) (hws : Blanks ws) (cs : List Char) :
    shape.readEntry name p (ws ++ ':' :: cs) = field.read p cs := by
  simp only [readEntry, hfield, hnew, afterColon?_blanks hws]
  rfl

theorem readEntry_taken (hfield : shape.fields.find? (·.name == name) = some field)
    (hset : field.isSet p = true) (cs : List Char) :
    shape.readEntry name p cs = .error (.duplicateField name) := by
  simp only [readEntry, hfield, hset]
  rfl

theorem readEntry_unknown (hfield : shape.fields.find? (·.name == name) = none)
    (hlenient : shape.strict = false) (hws : Blanks ws) {cs : List Char}
    (hskip : skip? cs = some rest) : shape.readEntry name p (ws ++ ':' :: cs) = .ok (p, rest) := by
  simp only [readEntry, hfield, hlenient, afterColon?_blanks hws, orMalformed, bind, Except.bind,
    hskip]
  rfl

theorem readEntry_refused (hfield : shape.fields.find? (·.name == name) = none)
    (hstrict : shape.strict = true) (cs : List Char) :
    shape.readEntry name p cs = .error (.unknownField name shape.names) := by
  simp only [readEntry, hfield, hstrict]
  rfl

/-- What stands before an entry in the text that is left: nothing before the first one, and a comma
before every other. -/
def Leads (first : Bool) (lead : List Char) : Prop :=
  if first then lead = [] else ∃ after, Blanks after ∧ lead = after ++ [',']

theorem leads_first : Leads true [] := rfl

theorem leads_next (hws : Blanks ws) : Leads false (ws ++ [',']) := ⟨ws, hws, rfl⟩

theorem readEntries_entry {first : Bool} {lead : List Char} (hentry : EntryText (name, value) text)
    (hlead : Leads first lead) :
    ∃ colon before after, Blanks colon ∧ Blanks before ∧ Blanks after ∧ ∀ fuel p rest,
      shape.readEntries (fuel + 1) first p (lead ++ (text ++ rest)) =
        (shape.readEntry name p (colon ++ ':' :: (before ++ (value ++ (after ++ rest))))).bind
          fun x => shape.readEntries fuel false x.1 x.2 := by
  obtain ⟨_, _, _, ⟨body, hbody, rfl⟩, ⟨start, colon, hstart, hcolon, rfl⟩,
    ⟨before, after, hbefore, hafter, rfl⟩, rfl⟩ := hentry
  refine ⟨colon, before, after, hcolon, hbefore, hafter, fun fuel p rest => ?_⟩
  have htext : start ++ (inQuotes body ++ colon) ++ ':' :: (before ++ (value ++ after)) ++ rest =
      start ++ '"' ::
        (body ++ '"' :: (colon ++ ':' :: (before ++ (value ++ (after ++ rest))))) := by
    simp only [inQuotes, List.append_assoc, List.cons_append, List.nil_append]
  have hname := hbody.string? (colon ++ ':' :: (before ++ (value ++ (after ++ rest))))
  rw [htext]
  cases first with
  | true =>
    obtain rfl : lead = [] := hlead
    rw [List.nil_append, readEntries, skipBlanks_front hstart (by decide)]
    change (orMalformed (string? _)).bind _ = _
    rw [hname]
    rfl
  | false =>
    obtain ⟨blanks, hblanks, rfl⟩ : ∃ blanks, Blanks blanks ∧ lead = blanks ++ [','] := hlead
    rw [List.append_assoc, List.singleton_append, readEntries, skipBlanks_front hblanks (by decide)]
    change (Except.ok (skipBlanks (start ++ _)) : Except Rejection _).bind _ = _
    rw [skipBlanks_front hstart (by decide)]
    change (orMalformed (string? _)).bind _ = _
    rw [hname]
    rfl

end Entry

section Reading

/-- Entries that lead from one partial record to another: known ones are read, each into a field
that is still free, and unknown ones are passed over. -/
inductive Takes (shape : RecordShape σ α) : σ → List (String × List Char) → σ → Prop where
  | nil (p : σ) : Takes shape p [] p
  | known {name : String} {value : List Char} {field : Field σ} {p p' p'' : σ}
    {entries : List (String × List Char)}
    (hfield : shape.fields.find? (·.name == name) = some field) (hnew : field.isSet p = false)
    (hvalue : ReadsAs (field.read p) value p') (hrest : Takes shape p' entries p'') :
    Takes shape p ((name, value) :: entries) p''
  | unknown {name : String} {value : List Char} {p p' : σ} {entries : List (String × List Char)}
    (hfield : shape.fields.find? (·.name == name) = none) (hlenient : shape.strict = false)
    (hvalue : Phrase .value value) (hrest : Takes shape p entries p') :
    Takes shape p ((name, value) :: entries) p'

private theorem Takes.uncons (h : Takes shape p ((name, value) :: entries) p') :
    ∃ p₁, (∀ colon before rest, Blanks colon → Blanks before → Ends rest →
      shape.readEntry name p (colon ++ ':' :: (before ++ (value ++ rest))) = .ok (p₁, rest)) ∧
        Takes shape p₁ entries p' := by
  cases h with
  | @known _ _ _ _ p₁ _ _ hfield hnew hvalue hrest =>
    refine ⟨p₁, fun colon before rest hcolon hbefore hends => ?_, hrest⟩
    rw [readEntry_known hfield hnew hcolon]
    exact hvalue before rest hbefore hends
  | unknown hfield hlenient hvalue hrest =>
    refine ⟨p, fun colon before rest hcolon hbefore hends => ?_, hrest⟩
    exact readEntry_unknown hfield hlenient hcolon (hvalue.skip? hbefore hends)

private theorem readEntries_close (first : Bool) (hws : Blanks ws) (rest : List Char) :
    shape.readEntries (fuel + 1) first p (ws ++ '}' :: rest) = .ok (p, rest) := by
  rw [readEntries, skipBlanks_front hws (by decide)]
  rfl

theorem Takes.readEntries (h : Takes shape p entries p') (htext : MembersText entries text)
    {first : Bool} {lead : List Char} (hlead : Leads first lead) (hfuel : entries.length < fuel)
    (rest : List Char) :
    shape.readEntries fuel first p (lead ++ (text ++ '}' :: rest)) = .ok (p', rest) := by
  induction htext generalizing p first lead fuel with
  | @last entry text hentry =>
    rw [List.length_singleton] at hfuel
    obtain ⟨fuel, rfl⟩ : ∃ n, fuel = n + 2 := ⟨fuel - 2, by omega⟩
    obtain ⟨colon, before, after, hcolon, hbefore, hafter, hstep⟩ := readEntries_entry hentry hlead
    obtain ⟨p₁, hread, hnil⟩ := h.uncons
    cases hnil
    rw [hstep, hread _ _ _ hcolon hbefore ((ends_cons (by decide)).blanks hafter)]
    exact readEntries_close false hafter rest
  | @cons entry entries text more hentry _ ih =>
    obtain ⟨fuel, rfl⟩ := Nat.exists_eq_add_one_of_ne_zero (Nat.ne_zero_of_lt hfuel)
    obtain ⟨colon, before, after, hcolon, hbefore, hafter, hstep⟩ := readEntries_entry hentry hlead
    obtain ⟨p₁, hread, hrest⟩ := h.uncons
    have hnext := ih hrest (leads_next hafter) (Nat.lt_of_succ_lt_succ hfuel)
    rw [List.append_assoc, List.singleton_append] at hnext
    rw [List.append_assoc, List.cons_append, hstep,
      hread _ _ _ hcolon hbefore ((ends_cons (by decide)).blanks hafter)]
    exact hnext

theorem Takes.readsAs {a : α} (h : Takes shape shape.empty entries p)
    (ha : shape.complete p = .ok a) (htext : ObjectText entries text) :
    ReadsAs shape.read text a := by
  intro ws rest hws _
  have hentries : ∃ inner, text ++ rest = '{' :: inner ∧
      shape.readEntries (inner.length + 1) true shape.empty inner = .ok (p, rest) := by
    cases htext with
    | @empty blanks hblanks =>
      cases h
      refine ⟨blanks ++ '}' :: rest, ?_, readEntries_close true hblanks rest⟩
      rw [List.cons_append, List.append_assoc, List.singleton_append]
    | @members _ members hmembers =>
      refine ⟨members ++ '}' :: rest, ?_, h.readEntries hmembers leads_first ?_ rest⟩
      · rw [List.cons_append, List.append_assoc, List.singleton_append]
      · have hlength := hmembers.length_le
        rw [List.length_append]
        omega
  obtain ⟨inner, htext, hread⟩ := hentries
  rw [htext, read, skipBlanks_front hws (by decide)]
  change (shape.readEntries (inner.length + 1) true shape.empty inner).bind _ = .ok (a, rest)
  rw [hread]
  change (shape.complete p).bind _ = .ok (a, rest)
  rw [ha]
  rfl

/-- Values for the fields in their order that lead from one partial record to another. -/
inductive TakesList : List (Field σ) → σ → List (List Char) → σ → Prop where
  | nil (p : σ) : TakesList [] p [] p
  | cons {field : Field σ} {fields : List (Field σ)} {c : Char} {cs : List Char}
    {values : List (List Char)} {p p' p'' : σ} (hblank : isBlank c = false) (hclose : c ≠ ']')
    (hvalue : ReadsAs (field.read p) (c :: cs) p') (hrest : TakesList fields p' values p'') :
    TakesList (field :: fields) p ((c :: cs) :: values) p''

private theorem readElements_element (shape : RecordShape σ α) {fields : List (Field σ)} {c : Char}
    {cs lead : List Char} {count : Nat} (hblank : isBlank c = false) (hclose : c ≠ ']')
    (hvalue : ReadsAs (field.read p) (c :: cs) p') (hpad : Padded (c :: cs) text)
    (hlead : Leads (count == 0) lead) :
    ∃ after, Blanks after ∧ ∀ rest, Ends rest →
      shape.readElements (field :: fields) count p (lead ++ (text ++ rest)) =
        shape.readElements fields (count + 1) p' (after ++ rest) := by
  obtain ⟨before, after, hbefore, hafter, rfl⟩ := hpad
  refine ⟨after, hafter, fun rest hends => ?_⟩
  have hread := hvalue [] (after ++ rest) blanks_nil (hends.blanks hafter)
  rw [List.nil_append, List.cons_append] at hread
  have htext : before ++ (c :: cs ++ after) ++ rest = before ++ c :: (cs ++ (after ++ rest)) := by
    rw [List.append_assoc, List.append_assoc, List.cons_append]
  rw [htext]
  cases count with
  | zero =>
    obtain rfl : lead = [] := hlead
    rw [List.nil_append, readElements, skipBlanks_front hbefore hblank]
    split
    · rename_i heq
      exact absurd (List.cons.inj heq).1 hclose
    · change (field.read p _).bind _ = _
      rw [hread]
      rfl
  | succ count =>
    obtain ⟨blanks, hblanks, rfl⟩ : ∃ blanks, Blanks blanks ∧ lead = blanks ++ [','] := hlead
    rw [List.append_assoc, List.singleton_append, readElements,
      skipBlanks_front hblanks (by decide)]
    change (Except.ok (skipBlanks (before ++ _)) : Except Rejection _).bind _ = _
    rw [skipBlanks_front hbefore hblank]
    change (field.read p _).bind _ = _
    rw [hread]
    rfl

theorem TakesList.readElements {fields : List (Field σ)} {values : List (List Char)}
    (shape : RecordShape σ α) (h : TakesList fields p values p') (htext : ElementsText values text)
    {lead : List Char} (count : Nat) (hlead : Leads (count == 0) lead) (rest : List Char) :
    shape.readElements fields count p (lead ++ (text ++ ']' :: rest)) = .ok (p', rest) := by
  induction htext generalizing fields p count lead with
  | last hpad =>
    cases h with
    | cons hblank hclose hvalue hrest =>
      cases hrest
      obtain ⟨after, hafter, hstep⟩ := readElements_element shape hblank hclose hvalue hpad
        hlead
      rw [hstep _ (ends_cons (by decide)), readElements, skipBlanks_front hafter (by decide)]
      rfl
  | @cons value text more values hpad _ ih =>
    cases h with
    | cons hblank hclose hvalue hrest =>
      obtain ⟨after, hafter, hstep⟩ := readElements_element shape hblank hclose hvalue hpad
        hlead
      have hnext := ih hrest (count + 1) (leads_next hafter)
      rw [List.append_assoc, List.singleton_append] at hnext
      rw [List.append_assoc, List.cons_append, hstep _ (ends_cons (by decide))]
      exact hnext

/-- A list of values for all fields is read as the record that they make. -/
theorem TakesList.readsAs {values : List (List Char)} {a : α}
    (h : TakesList shape.fields shape.empty values p) (ha : shape.complete p = .ok a)
    (htext : ListText values text) : ReadsAs shape.read text a := by
  intro ws rest hws _
  obtain ⟨elements, helements, rfl⟩ := htext
  have hread := TakesList.readElements shape h helements 0 leads_first rest
  rw [List.cons_append, List.append_assoc, List.singleton_append, read,
    skipBlanks_front hws (by decide)]
  change (shape.readElements shape.fields 0 shape.empty _).bind _ = .ok (a, rest)
  rw [← List.nil_append (elements ++ ']' :: rest), hread]
  change (shape.complete p).bind _ = .ok (a, rest)
  rw [ha]
  rfl

end Reading

end RecordShape

end SharedMemory.Json

import SharedMemory.Proofs.Guid
import SharedMemory.Proofs.Json.Filling
import SharedMemory.Proofs.Layout
import SharedMemory.Wire.Records
/-!
# What is written on the wire is read back

A simple value is read from each of its spellings, one of which is what is written for it. A header,
a layout, a protection or logger settings are objects of such values, so they are read back field by
field. A layout that was read is checked like one that is made from sizes, and passes.
-/
namespace SharedMemory.Wire

open Json RecordShape

section Values

variable {text : List Char}

/-- A mode is spelled by its name, or by an object of its name and null. -/
def SpellsMode (m : Mode) (text : List Char) : Prop :=
  SpellsString m.name text ∨ ObjectText [(m.name, "null".toList)] text

/-- An identifier is spelled by a string that has one of its accepted forms. -/
def SpellsGuid (g : Guid) (text : List Char) : Prop :=
  ∃ s : String, Guid.Spells g s.toList ∧ SpellsString s text

def SpellsBoolean (b : Bool) (text : List Char) : Prop := text = writeBoolean b

private theorem spellsMode_writeMode (m : Mode) : SpellsMode m (writeMode m) :=
  .inl (spellsString_writeString m.name)

theorem spellsGuid_writeGuid (g : Guid) : SpellsGuid g (writeGuid g) :=
  ⟨g.text, g.spells_text, spellsString_writeString g.text⟩

private theorem modeOfName_name (m : Mode) : modeOfName m.name = .ok m := by
  rw [modeOfName, Mode.ofName?_name]

theorem SpellsMode.phrase {m : Mode} (h : SpellsMode m text) : Phrase .value text := by
  rcases h with hname | hobject
  · exact hname.phrase
  · refine hobject.phrase fun entry hentry => ?_
    obtain rfl := List.mem_singleton.mp hentry
    exact .word List.mem_cons_self

/-- A mode in an object is read in steps: its name, the colon, null and the closing brace. -/
private theorem readMode_object {cs inner quoted colon value close rest : List Char} {name : String}
    {m : Mode} (hopen : skipBlanks cs = '{' :: inner) (hquote : skipBlanks inner = '"' :: quoted)
    (hname : string? quoted = some (name, colon)) (hmode : modeOfName name = .ok m)
    (hcolon : afterColon? colon = some value) (hnull : readNull "unit" value = .ok ((), close))
    (hclose : skipBlanks close = '}' :: rest) : readMode cs = .ok (m, rest) := by
  simp only [readMode, hopen, hquote, hname, hmode, hcolon, hnull, hclose, orMalformed, bind,
    Except.bind]
  rfl

private theorem readMode_readsAs {m : Mode} (h : SpellsMode m text) : ReadsAs readMode text m := by
  intro ws rest hws _
  rcases h with ⟨body, hbody, rfl⟩ | hobject
  · rw [inQuotes_append]
    unfold readMode
    rw [skipBlanks_front hws (by decide)]
    change (orMalformed (string? _)).bind _ = .ok (m, rest)
    rw [hbody.string?]
    change (modeOfName m.name).bind _ = .ok (m, rest)
    rw [modeOfName_name]
    rfl
  · cases hobject with
    | members hmembers =>
      cases hmembers with
      | last hentry =>
        obtain ⟨_, _, _, ⟨body, hbody, rfl⟩, ⟨start, colon, hstart, hcolon, rfl⟩,
          ⟨before, after, hbefore, hafter, rfl⟩, rfl⟩ := hentry
        have htext : '{' :: (start ++ (inQuotes body ++ colon) ++
              ':' :: (before ++ ("null".toList ++ after)) ++ ['}']) ++ rest =
            '{' :: (start ++ '"' :: (body ++ '"' :: (colon ++ ':' :: (before ++
              ("null".toList ++ (after ++ '}' :: rest)))))) := by
          simp only [inQuotes, List.append_assoc, List.cons_append, List.nil_append]
        have hnull := readNull_readsAs "unit" before (after ++ '}' :: rest) hbefore
          ((ends_cons (by decide)).blanks hafter)
        rw [htext]
        exact readMode_object (skipBlanks_front hws rfl _) (skipBlanks_front hstart rfl _)
          (hbody.string? _) (modeOfName_name m) (afterColon?_blanks hcolon _) hnull
          (skipBlanks_front hafter rfl _)
      | cons _ hnone => cases hnone

theorem SpellsGuid.phrase {g : Guid} (h : SpellsGuid g text) : Phrase .value text := by
  obtain ⟨_, -, htext⟩ := h
  exact htext.phrase

private theorem readGuid_readsAs {g : Guid} (h : SpellsGuid g text) : ReadsAs readGuid text g := by
  obtain ⟨s, hs, htext⟩ := h
  intro ws rest hws hrest
  have hread := readString_readsAs "a formatted UUID string" htext ws rest hws hrest
  simp only [readGuid, hread, bind, Except.bind, hs.read?]
  rfl

theorem SpellsBoolean.phrase {b : Bool} (h : SpellsBoolean b text) : Phrase .value text := by
  obtain rfl : text = writeBoolean b := h
  refine .word ?_
  cases b with
  | true => decide
  | false => decide

private theorem readBoolean_readsAs {b : Bool} (h : SpellsBoolean b text) :
    ReadsAs readBoolean text b := by
  obtain rfl : text = writeBoolean b := h
  intro ws rest hws _
  unfold readBoolean
  rw [skipBlanks_append hws]
  cases b with
  | true => rfl
  | false => rfl

end Values

section Records

/-- How the fields of a header are spelled. -/
def SpellsHeader (h : Header) : String → List Char → Prop
  | "mode" => SpellsMode h.mode
  | "size" => SpellsWord h.size
  | "guid" => SpellsGuid h.guid
  | _ => fun _ => False

def SpellsLayout (l : Layout) : String → List Char → Prop
  | "page_size" => SpellsWord l.page
  | "allocation_granularity" => SpellsWord l.granularity
  | _ => fun _ => False

def SpellsProtection (p : Protection) : String → List Char → Prop
  | "read" => SpellsBoolean p.read
  | "write" => SpellsBoolean p.write
  | _ => fun _ => False

def SpellsConfig (c : LogConfig) : String → List Char → Prop
  | "filter" => SpellsString c.filter
  | "stderr" => SpellsBoolean c.echo
  | _ => fun _ => False

def partialHeader (h : Header) (has : String → Bool) : PartialHeader where
  mode := if has "mode" then some h.mode else none
  size := if has "size" then some h.size else none
  guid := if has "guid" then some h.guid else none

def partialLayout (l : Layout) (has : String → Bool) : PartialLayout where
  page := if has "page_size" then some l.page else none
  granularity := if has "allocation_granularity" then some l.granularity else none

def partialProtection (p : Protection) (has : String → Bool) : PartialProtection where
  read := if has "read" then some p.read else none
  write := if has "write" then some p.write else none

def partialConfig (c : LogConfig) (has : String → Bool) : PartialConfig where
  filter := if has "filter" then some c.filter else none
  echo := if has "stderr" then some c.echo else none

theorem filling_header (h : Header) (hsize : h.size < UInt64.size) :
    Filling headerShape (SpellsHeader h) (partialHeader h) where
  empty := rfl
  congr hsame := by
    simp only [partialHeader, hsame "mode" (by decide), hsame "size" (by decide),
      hsame "guid" (by decide)]
  fills := by
    refine List.forall_mem_cons.mpr ⟨?_, List.forall_mem_cons.mpr ⟨?_,
      List.forall_mem_cons.mpr ⟨?_, nofun⟩⟩⟩
    · exact .option (fun _ => rfl) (fun _ => rfl) fun _ htext =>
        ⟨SpellsMode.phrase htext, readMode_readsAs htext⟩
    · exact .option (fun _ => rfl) (fun _ => rfl) fun _ htext =>
        ⟨SpellsWord.phrase htext, readWord_readsAs "u64" hsize htext⟩
    · exact .option (fun _ => rfl) (fun _ => rfl) fun _ htext =>
        ⟨SpellsGuid.phrase htext, readGuid_readsAs htext⟩

theorem filling_layout (l : Layout) : Filling layoutShape (SpellsLayout l) (partialLayout l) where
  empty := rfl
  congr hsame := by
    simp only [partialLayout, hsame "page_size" (by decide),
      hsame "allocation_granularity" (by decide)]
  fills := by
    refine List.forall_mem_cons.mpr ⟨?_, List.forall_mem_cons.mpr ⟨?_, nofun⟩⟩
    · exact .option (fun _ => rfl) (fun _ => rfl) fun _ htext =>
        ⟨SpellsWord.phrase htext, readWord_readsAs "usize" l.page_lt htext⟩
    · exact .option (fun _ => rfl) (fun _ => rfl) fun _ htext =>
        ⟨SpellsWord.phrase htext, readWord_readsAs "usize" l.granularity_lt htext⟩

private theorem filling_protection (p : Protection) :
    Filling protectionShape (SpellsProtection p) (partialProtection p) where
  empty := rfl
  congr hsame := by
    simp only [partialProtection, hsame "read" (by decide), hsame "write" (by decide)]
  fills := by
    refine List.forall_mem_cons.mpr ⟨?_, List.forall_mem_cons.mpr ⟨?_, nofun⟩⟩
    · exact .option (fun _ => rfl) (fun _ => rfl) fun _ htext =>
        ⟨SpellsBoolean.phrase htext, readBoolean_readsAs htext⟩
    · exact .option (fun _ => rfl) (fun _ => rfl) fun _ htext =>
        ⟨SpellsBoolean.phrase htext, readBoolean_readsAs htext⟩

theorem filling_config (c : LogConfig) :
    Filling configShape (SpellsConfig c) (partialConfig c) where
  empty := rfl
  congr hsame := by
    simp only [partialConfig, hsame "filter" (by decide), hsame "stderr" (by decide)]
  fills := by
    refine List.forall_mem_cons.mpr ⟨?_, List.forall_mem_cons.mpr ⟨?_, nofun⟩⟩
    · exact .option (fun _ => rfl) (fun _ => rfl) fun _ htext =>
        ⟨SpellsString.phrase htext, readString_readsAs "a string" htext⟩
    · exact .option (fun _ => rfl) (fun _ => rfl) fun _ htext =>
        ⟨SpellsBoolean.phrase htext, readBoolean_readsAs htext⟩

theorem complete_layout (l : Layout) :
    layoutShape.complete ⟨some l.page, some l.granularity⟩ = .ok l := by
  have haccepted : Layout.ofSizes l.page l.granularity = .ok l :=
    Layout.ofSizes_eq_ok_iff.mpr ⟨rfl, rfl⟩
  simp only [layoutShape, required, bind, Except.bind, haccepted]
  rfl

end Records

section Written

private theorem readMode_readsBack (m : Mode) : ReadsAs readMode (writeMode m) m :=
  readMode_readsAs (spellsMode_writeMode m)

private theorem readGuid_readsBack (g : Guid) : ReadsAs readGuid (writeGuid g) g :=
  readGuid_readsAs (spellsGuid_writeGuid g)

private theorem readErrno_readsBack (e : Errno) : ReadsAs readErrno (writeErrno e) e := by
  have hleast := e.code.minValue_le_toInt
  have hgreatest := e.code.toInt_le
  have hword : FitsWord e.code.toInt :=
    ⟨Int.le_trans (by decide) hleast, Int.lt_of_le_of_lt hgreatest (by decide)⟩
  have hself : Errno.ofInt e.code.toInt = e := by
    rw [Errno.ofInt, if_pos ⟨hleast, hgreatest⟩, Int32.ofInt_toInt]
  intro ws rest hws hrest
  have hread := readInteger_readsAs "i32" hword hleast hgreatest ws rest hws hrest
  simp only [readErrno, writeErrno, hread, bind, Except.bind, hself]
  rfl

theorem readHeader_readsBack (h : Header) (hsize : h.size < UInt64.size) :
    ReadsAs readHeader (writeHeader h) h := by
  refine (filling_header h hsize).readsBack rfl (by decide) ?_ rfl
  exact List.forall_mem_cons.mpr ⟨spellsMode_writeMode h.mode, List.forall_mem_cons.mpr ⟨rfl,
    List.forall_mem_cons.mpr ⟨spellsGuid_writeGuid h.guid, nofun⟩⟩⟩

theorem readLayout_readsBack (l : Layout) : ReadsAs readLayout (writeLayout l) l := by
  refine (filling_layout l).readsBack rfl (by decide) ?_ (complete_layout l)
  exact List.forall_mem_cons.mpr ⟨rfl, List.forall_mem_cons.mpr ⟨rfl, nofun⟩⟩

private theorem readProtection_readsBack (p : Protection) :
    ReadsAs readProtection (writeProtection p) p := by
  refine (filling_protection p).readsBack rfl (by decide) ?_ rfl
  exact List.forall_mem_cons.mpr ⟨rfl, List.forall_mem_cons.mpr ⟨rfl, nofun⟩⟩

/-- Settings are written in full, so no default takes the place of a setting that was written. -/
private theorem readConfig_readsBack (c : LogConfig) : ReadsAs readConfig (writeConfig c) c := by
  refine (filling_config c).readsBack rfl (by decide) ?_ rfl
  exact List.forall_mem_cons.mpr ⟨spellsString_writeString c.filter,
    List.forall_mem_cons.mpr ⟨rfl, nofun⟩⟩

end Written

/-- Reading what was written gives the value that was written: of every header whose size fits a
word, of every layout that is accepted for two sizes, and of all logger settings, error numbers,
protections, modes and identifiers. -/
theorem written_values_read_back :
    (∀ h : Header, h.size < UInt64.size →
      readAll readHeader (String.ofList (writeHeader h)) = .ok h) ∧
    (∀ (page granularity : Nat) (l : Layout), Layout.ofSizes page granularity = .ok l →
      l.page = page ∧ l.granularity = granularity ∧
        readAll readLayout (String.ofList (writeLayout l)) = .ok l) ∧
    (∀ c : LogConfig, readAll readConfig (String.ofList (writeConfig c)) = .ok c) ∧
    (∀ e : Errno, readAll readErrno (String.ofList (writeErrno e)) = .ok e) ∧
    (∀ p : Protection, readAll readProtection (String.ofList (writeProtection p)) = .ok p) ∧
    (∀ m : Mode, readAll readMode (String.ofList (writeMode m)) = .ok m) ∧
    (∀ g : Guid, readAll readGuid (String.ofList (writeGuid g)) = .ok g) := by
  refine ⟨fun h hsize => (readHeader_readsBack h hsize).readAll, fun page granularity l hl => ?_,
    fun c => (readConfig_readsBack c).readAll, fun e => (readErrno_readsBack e).readAll,
    fun p => (readProtection_readsBack p).readAll, fun m => (readMode_readsBack m).readAll,
    fun g => (readGuid_readsBack g).readAll⟩
  obtain ⟨hpage, hgranularity⟩ := Layout.ofSizes_eq_ok_iff.mp hl
  exact ⟨hpage.symm, hgranularity.symm, (readLayout_readsBack l).readAll⟩

/-- The greatest size, the coarsest granularity, and a filter of a quote, a backslash, a control
character and one beyond the first plane. -/
theorem written_values_read_back_of_extremes :
    readAll readHeader (String.ofList (writeHeader ⟨.shared, UInt64.size - 1, .nil⟩)) =
      .ok ⟨.shared, UInt64.size - 1, .nil⟩ ∧
    (∃ l : Layout, Layout.ofSizes 1 (1 <<< 63) = .ok l ∧ l.granularity = 1 <<< 63 ∧
      readAll readLayout (String.ofList (writeLayout l)) = .ok l) ∧
    readAll readConfig (String.ofList (writeConfig ⟨"\"\\\x1f😀", false⟩)) =
      .ok ⟨"\"\\\x1f😀", false⟩ := by
  obtain ⟨headers, layouts, configs, -⟩ := written_values_read_back
  have hl : Layout.ofSizes 1 (1 <<< 63) = .ok ⟨0, 63, by decide⟩ := by decide +kernel
  exact ⟨headers _ (by decide), ⟨_, hl, (layouts _ _ _ hl).2⟩, configs _⟩

end SharedMemory.Wire

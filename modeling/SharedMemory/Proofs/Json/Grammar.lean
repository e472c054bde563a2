import SharedMemory.Json.Reader
import SharedMemory.Proofs.Json.Number
import SharedMemory.Proofs.Json.Text
/-!
# The grammar of JSON

Which texts are JSON, said without regard to how they are read. Blanks may stand around names,
values and signs, a string may be spelled with escapes of several kinds, and lists and objects may
be nested to any depth.
-/
namespace SharedMemory.Json

def Blanks (ws : List Char) : Prop := ∀ c ∈ ws, isBlank c = true

/-- A text with blanks around it. -/
def Padded (inner text : List Char) : Prop :=
  ∃ before after, Blanks before ∧ Blanks after ∧ text = before ++ (inner ++ after)

def inQuotes (body : List Char) : List Char := '"' :: (body ++ ['"'])

/-- The digits of a UTF-16 unit, each in either case. -/
def SpellsUnit (n : Nat) (ds : List Char) : Prop :=
  n < 16 ^ 4 ∧ ds.map Char.toLower = Hex.fixed 4 n

/-- A string as it may stand between quotes. The units given by number may be any. -/
inductive StringBody : List Char → Prop where
  | nil : StringBody []
  | plain {c : Char} {body : List Char} (hquote : c ≠ '"') (hslash : c ≠ '\\')
    (hplain : ¬ c.toNat < 32) (hbody : StringBody body) : StringBody (c :: body)
  | short {e c : Char} {body : List Char} (he : shortEscape? e = some c) (hbody : StringBody body) :
    StringBody ('\\' :: e :: body)
  | unit {n : Nat} {ds body : List Char} (hds : SpellsUnit n ds) (hbody : StringBody body) :
    StringBody ('\\' :: 'u' :: (ds ++ body))

/-- How a text may be spelled between quotes: each character as it is, by a short escape, by its
number or, beyond the first plane, by the numbers of its two surrogates. -/
inductive SpellsText : List Char → List Char → Prop where
  | nil : SpellsText [] []
  | plain {c : Char} {cs body : List Char} (hquote : c ≠ '"') (hslash : c ≠ '\\')
    (hplain : ¬ c.toNat < 32) (hbody : SpellsText cs body) : SpellsText (c :: cs) (c :: body)
  | short {e c : Char} {cs body : List Char} (he : shortEscape? e = some c)
    (hbody : SpellsText cs body) : SpellsText (c :: cs) ('\\' :: e :: body)
  | unit {c : Char} {ds cs body : List Char} (hds : SpellsUnit c.toNat ds)
    (hbody : SpellsText cs body) : SpellsText (c :: cs) ('\\' :: 'u' :: (ds ++ body))
  | pair {c : Char} {high low cs body : List Char} (hc : 0x10000 ≤ c.toNat)
    (hhigh : SpellsUnit (0xD800 + (c.toNat - 0x10000) / 0x400) high)
    (hlow : SpellsUnit (0xDC00 + (c.toNat - 0x10000) % 0x400) low) (hbody : SpellsText cs body) :
    SpellsText (c :: cs) ('\\' :: 'u' :: (high ++ '\\' :: 'u' :: (low ++ body)))

/-- A string in quotes that denotes a text. -/
def SpellsString (s : String) (text : List Char) : Prop :=
  ∃ body, SpellsText s.toList body ∧ text = inQuotes body

structure Digits (ds : List Char) : Prop where
  ne : ds ≠ []
  isDigit : ∀ c ∈ ds, c.isDigit = true

inductive FractionBody : List Char → Prop where
  | none : FractionBody []
  | some {ds : List Char} (hds : Digits ds) : FractionBody ('.' :: ds)

inductive ExponentBody : List Char → Prop where
  | none : ExponentBody []
  | unsigned {e : Char} {ds : List Char} (he : e = 'e' ∨ e = 'E') (hds : Digits ds) :
    ExponentBody (e :: ds)
  | positive {e : Char} {ds : List Char} (he : e = 'e' ∨ e = 'E') (hds : Digits ds) :
    ExponentBody (e :: '+' :: ds)
  | negative {e : Char} {ds : List Char} (he : e = 'e' ∨ e = 'E') (hds : Digits ds) :
    ExponentBody (e :: '-' :: ds)

/-- A number: a sign, digits without a leading zero, a fraction and an exponent. -/
inductive NumberBody : List Char → Prop where
  | mk {sign whole fraction exponent : List Char} (hsign : sign = [] ∨ sign = ['-'])
    (hwhole : Digits whole) (hzero : whole.head? = some '0' → whole = ['0'])
    (hfraction : FractionBody fraction) (hexponent : ExponentBody exponent) :
    NumberBody (sign ++ (whole ++ (fraction ++ exponent)))

/-- The values that are written as words. -/
def words : List (List Char) := ["null".toList, "true".toList, "false".toList]

/-- What a text of JSON may be: a value, the elements of a list or the members of an object. -/
inductive Part where
  | value
  | elements
  | members

/-- The texts of JSON. Elements and members come with the blanks around them. -/
inductive Phrase : Part → List Char → Prop where
  | word {text : List Char} (h : text ∈ words) : Phrase .value text
  | number {text : List Char} (h : NumberBody text) : Phrase .value text
  | string {body : List Char} (h : StringBody body) : Phrase .value (inQuotes body)
  | emptyList {ws : List Char} (hws : Blanks ws) : Phrase .value ('[' :: (ws ++ [']']))
  | list {text : List Char} (h : Phrase .elements text) : Phrase .value ('[' :: (text ++ [']']))
  | emptyObject {ws : List Char} (hws : Blanks ws) : Phrase .value ('{' :: (ws ++ ['}']))
  | object {text : List Char} (h : Phrase .members text) : Phrase .value ('{' :: (text ++ ['}']))
  | element {v text : List Char} (hv : Phrase .value v) (hpad : Padded v text) :
    Phrase .elements text
  | elements {v text rest : List Char} (hv : Phrase .value v) (hpad : Padded v text)
    (hrest : Phrase .elements rest) : Phrase .elements (text ++ ',' :: rest)
  | member {body name v text : List Char} (hbody : StringBody body)
    (hname : Padded (inQuotes body) name) (hv : Phrase .value v) (hpad : Padded v text) :
    Phrase .members (name ++ ':' :: text)
  | members {body name v text rest : List Char} (hbody : StringBody body)
    (hname : Padded (inQuotes body) name) (hv : Phrase .value v) (hpad : Padded v text)
    (hrest : Phrase .members rest) : Phrase .members (name ++ ':' :: (text ++ ',' :: rest))

section Blanks

variable {ws inner text rest : List Char}

private theorem isBlank_cases {c : Char} (h : isBlank c = true) :
    c = ' ' ∨ c = '\n' ∨ c = '\t' ∨ c = '\r' := by
  simpa [isBlank, or_assoc] using h

theorem blanks_nil : Blanks [] := nofun

theorem skipBlanks_append (hws : Blanks ws) (cs : List Char) :
    skipBlanks (ws ++ cs) = skipBlanks cs := by
  rw [skipBlanks, List.dropWhile_append_of_pos hws, skipBlanks]

theorem skipBlanks_cons {c : Char} (h : isBlank c = false) (cs : List Char) :
    skipBlanks (c :: cs) = c :: cs := by
  rw [skipBlanks, List.dropWhile_cons_of_neg (by simp [h])]

theorem skipBlanks_front {c : Char} (hws : Blanks ws) (h : isBlank c = false) (cs : List Char) :
    skipBlanks (ws ++ c :: cs) = c :: cs := by
  rw [skipBlanks_append hws, skipBlanks_cons h]

theorem padded_self (inner : List Char) : Padded inner inner :=
  ⟨[], [], blanks_nil, blanks_nil, by rw [List.nil_append, List.append_nil]⟩

/-- Neither a blank nor what may come after blanks goes on with a number. -/
theorem Ends.blanks (hrest : Ends rest) (hws : Blanks ws) : Ends (ws ++ rest) := by
  cases ws with
  | nil => exact hrest
  | cons c ws =>
    apply ends_cons
    rcases isBlank_cases (hws c List.mem_cons_self) with rfl | rfl | rfl | rfl
    all_goals decide

theorem Padded.length_le (h : Padded inner text) : inner.length ≤ text.length := by
  obtain ⟨before, after, -, -, rfl⟩ := h
  simp only [List.length_append]
  omega

end Blanks

section Strings

variable {n : Nat} {ds body rest : List Char}

theorem SpellsUnit.length (h : SpellsUnit n ds) : ds.length = 4 := by
  rw [← List.length_map (f := Char.toLower), h.2, Hex.length_fixed]

theorem SpellsUnit.value? (h : SpellsUnit n ds) : Hex.value? ds = some n := by
  rw [← Hex.value?_map_toLower, h.2, Hex.value?_fixed_of_lt h.1]

theorem StringBody.pieces? (h : StringBody body) (rest : List Char) :
    ∃ ps, Json.pieces? (body ++ '"' :: rest) = some (ps, rest) := by
  induction h with
  | nil => exact ⟨[], rfl⟩
  | plain hquote hslash hplain _ ih =>
    obtain ⟨ps, hps⟩ := ih
    exact ⟨_, pieces?_plain hquote hslash hplain hps⟩
  | short he _ ih =>
    obtain ⟨ps, hps⟩ := ih
    exact ⟨_, pieces?_short he hps⟩
  | unit hds _ ih =>
    obtain ⟨ps, hps⟩ := ih
    rw [List.cons_append, List.cons_append, List.append_assoc]
    exact ⟨_, pieces?_number hds.length hds.value? hps⟩

theorem SpellsText.stringBody {cs : List Char} (h : SpellsText cs body) : StringBody body := by
  induction h with
  | nil => exact .nil
  | plain hquote hslash hplain _ ih => exact .plain hquote hslash hplain ih
  | short he _ ih => exact .short he ih
  | unit hds _ ih => exact .unit hds ih
  | pair _ hhigh hlow _ ih => exact .unit hhigh (.unit hlow ih)

theorem SpellsString.phrase {s : String} {text : List Char} (h : SpellsString s text) :
    Phrase .value text := by
  obtain ⟨body, hbody, rfl⟩ := h
  exact .string hbody.stringBody

private theorem join?_pair {c : Char} (hc : 0x10000 ≤ c.toNat) (ps : List Piece) :
    join? (.unit (0xD800 + (c.toNat - 0x10000) / 0x400) ::
      .unit (0xDC00 + (c.toNat - 0x10000) % 0x400) :: ps) = (join? ps).map (c :: ·) := by
  have hvalid : c.toNat < 0x110000 := by
    have hcases : c.toNat < 0xD800 ∨ 0xDFFF < c.toNat ∧ c.toNat < 0x110000 := c.valid
    omega
  have hmod : (c.toNat - 0x10000) % 0x400 < 0x400 := Nat.mod_lt _ (by decide)
  have hdiv : (c.toNat - 0x10000) / 0x400 < 0x400 := Nat.div_lt_of_lt_mul (by omega)
  have hhigh : isHighSurrogate (0xD800 + (c.toNat - 0x10000) / 0x400) = true := by
    rw [isHighSurrogate, Bool.and_eq_true, decide_eq_true_eq, decide_eq_true_eq]
    omega
  have hlow : isLowSurrogate (0xDC00 + (c.toNat - 0x10000) % 0x400) = true := by
    rw [isLowSurrogate, Bool.and_eq_true, decide_eq_true_eq, decide_eq_true_eq]
    omega
  have hjoined : joinSurrogates (0xD800 + (c.toNat - 0x10000) / 0x400)
      (0xDC00 + (c.toNat - 0x10000) % 0x400) = c := by
    have hnumber : 0x10000 + (c.toNat - 0x10000) / 0x400 * 0x400 +
        (c.toNat - 0x10000) % 0x400 = c.toNat := by omega
    rw [joinSurrogates, Nat.add_sub_cancel_left, Nat.add_sub_cancel_left, hnumber,
      Char.ofNat_toNat]
  rw [join?, if_pos hhigh, if_pos hlow, hjoined]

theorem SpellsText.pieces? {cs : List Char} (h : SpellsText cs body) (rest : List Char) :
    ∃ ps, Json.pieces? (body ++ '"' :: rest) = some (ps, rest) ∧ join? ps = some cs := by
  induction h with
  | nil => exact ⟨[], rfl, rfl⟩
  | @plain c _ _ hquote hslash hplain _ ih =>
    obtain ⟨ps, hps, hjoin⟩ := ih
    refine ⟨_, pieces?_plain hquote hslash hplain hps, ?_⟩
    rw [join?_cons (.char c), hjoin, Option.map_some]
  | @short _ c _ _ he _ ih =>
    obtain ⟨ps, hps, hjoin⟩ := ih
    refine ⟨_, pieces?_short he hps, ?_⟩
    rw [join?_cons (.char c), hjoin, Option.map_some]
  | unit hds _ ih =>
    obtain ⟨ps, hps, hjoin⟩ := ih
    rw [List.cons_append, List.cons_append, List.append_assoc]
    refine ⟨_, pieces?_number hds.length hds.value? hps, ?_⟩
    rw [join?_cons (.unit hds.1), hjoin, Option.map_some]
  | pair hc hhigh hlow _ ih =>
    obtain ⟨ps, hps, hjoin⟩ := ih
    have hlast := pieces?_number hlow.length hlow.value? hps
    rw [List.cons_append, List.cons_append, List.append_assoc, List.cons_append, List.cons_append,
      List.append_assoc]
    refine ⟨_, pieces?_number hhigh.length hhigh.value? hlast, ?_⟩
    rw [join?_pair hc, hjoin, Option.map_some]

theorem SpellsText.string? {s : String} (h : SpellsText s.toList body) (rest : List Char) :
    Json.string? (body ++ '"' :: rest) = some (s, rest) := by
  obtain ⟨ps, hps, hjoin⟩ := h.pieces? rest
  rw [Json.string?, hps]
  dsimp only
  rw [hjoin, Option.map_some, String.ofList_toList]

theorem SpellsText.escapeChar {cs : List Char} (c : Char) (hbody : SpellsText cs body) :
    SpellsText (c :: cs) (Json.escapeChar c ++ body) := by
  have short {e : Char} (he : shortEscape? e = some c) (hescape : Json.escapeChar c = ['\\', e]) :
      SpellsText (c :: cs) (Json.escapeChar c ++ body) := by
    rw [hescape]
    exact .short he hbody
  by_cases hquote : c = '"'
  · subst hquote
    exact short rfl rfl
  by_cases hslash : c = '\\'
  · subst hslash
    exact short rfl rfl
  by_cases hline : c = '\n'
  · subst hline
    exact short rfl rfl
  by_cases hreturn : c = '\r'
  · subst hreturn
    exact short rfl rfl
  by_cases htab : c = '\t'
  · subst htab
    exact short rfl rfl
  by_cases hback : c.toNat = 8
  · obtain rfl : c = Char.ofNat 8 := by rw [← hback, Char.ofNat_toNat]
    exact short rfl rfl
  by_cases hfeed : c.toNat = 12
  · obtain rfl : c = Char.ofNat 12 := by rw [← hfeed, Char.ofNat_toNat]
    exact short rfl rfl
  by_cases hcontrol : c.toNat < 32
  · have hescape : Json.escapeChar c = numberEscape c := by
      simp only [Json.escapeChar, hquote, hslash, hline, hreturn, htab, hback, hfeed, hcontrol,
        if_true, if_false]
    rw [hescape]
    exact .unit ⟨by omega, Hex.map_toLower_fixed 4 _⟩ hbody
  · have hescape : Json.escapeChar c = [c] := by
      simp only [Json.escapeChar, hquote, hslash, hline, hreturn, htab, hback, hfeed, hcontrol,
        if_false]
    rw [hescape]
    exact .plain hquote hslash hcontrol hbody

theorem spellsString_writeString (s : String) : SpellsString s (writeString s) := by
  have hbody : ∀ cs : List Char, SpellsText cs (cs.flatMap Json.escapeChar) := by
    intro cs
    induction cs with
    | nil => exact .nil
    | cons c cs ih => exact ih.escapeChar c
  exact ⟨_, hbody s.toList, rfl⟩

theorem inQuotes_append (body rest : List Char) :
    inQuotes body ++ rest = '"' :: (body ++ '"' :: rest) := by
  rw [inQuotes, List.cons_append, List.append_assoc, List.singleton_append]

end Strings

section Numbers

variable {ds rest : List Char}

private theorem Digits.head (h : Digits ds) : ∃ d rest, ds = d :: rest ∧ d.isDigit = true := by
  obtain ⟨d, rest, rfl⟩ := List.exists_cons_of_ne_nil h.ne
  exact ⟨d, rest, rfl, h.isDigit d List.mem_cons_self⟩

theorem NumberBody.front {text : List Char} (h : NumberBody text) :
    ∃ c cs, text = c :: cs ∧ startsNumber c = true := by
  obtain @⟨sign, whole, fraction, exponent, hsign, hwhole, -, -, -⟩ := h
  rcases hsign with rfl | rfl
  · obtain ⟨d, ds, rfl, hd⟩ := hwhole.head
    exact ⟨d, ds ++ (fraction ++ exponent), rfl, by rw [startsNumber, hd, Bool.or_true]⟩
  · exact ⟨'-', whole ++ (fraction ++ exponent), rfl, rfl⟩

theorem ne_of_startsNumber {c x : Char} (hc : startsNumber c = true) (hx : startsNumber x = false) :
    c ≠ x := by
  rintro rfl
  exact absurd (hc.symm.trans hx) (by decide)

theorem isBlank_of_startsNumber {c : Char} (h : startsNumber c = true) : isBlank c = false := by
  rw [Bool.eq_false_iff]
  intro hblank
  rcases isBlank_cases hblank with rfl | rfl | rfl | rfl
  all_goals exact absurd h (by decide)

theorem phrase_digits (n : Nat) : Phrase .value (Decimal.digits n) := by
  have hdigits : Digits (Decimal.digits n) :=
    ⟨Nat.toDigits_ne_nil, fun _ => Decimal.isDigit_of_mem_digits⟩
  have hnumber := NumberBody.mk (.inl rfl) hdigits Decimal.digits_eq_of_head? .none .none
  rw [List.nil_append, List.append_nil, List.append_nil] at hnumber
  exact .number hnumber

namespace NumberText

private theorem fraction?_append {fraction : List Char} (h : FractionBody fraction)
    (hstops : Stops rest) (hrest : rest.head? ≠ some '.') :
    ∃ value, fraction? (fraction ++ rest) = some (value, rest) := by
  cases h with
  | none =>
    refine ⟨Option.none, ?_⟩
    rw [List.nil_append]
    unfold fraction?
    split
    · exact absurd rfl hrest
    · rfl
  | @some ds hds =>
    refine ⟨Option.some ds, ?_⟩
    rw [List.cons_append, fraction?, digits?_append hds.ne hds.isDigit hstops]
    rfl

private theorem exponentDigits?_append (hds : Digits ds) (hrest : Ends rest) (negative : Bool) :
    exponentDigits? negative (ds ++ rest) = some (some (negative, ds), rest) := by
  rw [exponentDigits?, digits?_append hds.ne hds.isDigit hrest.stops]
  rfl

private theorem exponent?_append {exponent : List Char} (h : ExponentBody exponent)
    (hrest : Ends rest) :
    ∃ value, exponent? (exponent ++ rest) = some (value, rest) := by
  cases h with
  | none => exact ⟨none, exponent?_of_ends hrest⟩
  | @unsigned e ds he hds =>
    obtain ⟨d, ds, rfl, hd⟩ := hds.head
    have hunsigned : ∀ c, c.isDigit = false → ∀ cs, d :: (ds ++ rest) = c :: cs → False := by
      rintro c hc cs heq
      obtain rfl := (List.cons.inj heq).1
      exact absurd hd (by rw [hc]; decide)
    refine ⟨some (false, d :: ds), ?_⟩
    rw [List.cons_append, List.cons_append,
      exponent?.eq_3 _ _ (hunsigned '+' rfl) (hunsigned '-' rfl), if_pos he]
    exact exponentDigits?_append hds hrest false
  | @positive e ds he hds =>
    refine ⟨some (false, ds), ?_⟩
    rw [List.cons_append, List.cons_append, exponent?.eq_1, if_pos he]
    exact exponentDigits?_append hds hrest false
  | @negative e ds he hds =>
    refine ⟨some (true, ds), ?_⟩
    rw [List.cons_append, List.cons_append, exponent?.eq_2, if_pos he]
    exact exponentDigits?_append hds hrest true

/-- Neither an exponent nor what comes after a number goes on with digits or a fraction. -/
private theorem stops_exponent {exponent : List Char} (h : ExponentBody exponent)
    (hrest : Ends rest) : Stops (exponent ++ rest) ∧ (exponent ++ rest).head? ≠ some '.' := by
  have hcons : ∀ {e : Char} {cs : List Char}, e = 'e' ∨ e = 'E' →
      Stops (e :: cs) ∧ (e :: cs).head? ≠ some '.' := by
    intro e cs he
    refine ⟨?_, ?_⟩
    · rintro _ ⟨⟩
      rcases he with rfl | rfl
      · rfl
      · rfl
    · rintro ⟨⟩
      rcases he with he | he
      all_goals cases he
  cases h with
  | none => exact ⟨hrest.stops, fun h => (hrest '.' h).2.1 rfl⟩
  | unsigned he => exact hcons he
  | positive he => exact hcons he
  | negative he => exact hcons he

theorem read?_append {text : List Char} (h : NumberBody text) (hrest : Ends rest) :
    ∃ t, read? (text ++ rest) = some (t, rest) := by
  obtain @⟨sign, whole, fraction, exponent, hsign, hwhole, hzero, hfraction, hexponent⟩ := h
  obtain ⟨hstops, hpoint⟩ := stops_exponent hexponent hrest
  have hnext : Stops (fraction ++ (exponent ++ rest)) := by
    cases hfraction with
    | none => exact hstops
    | some hds =>
      rintro _ ⟨⟩
      rfl
  obtain ⟨f, hf⟩ := fraction?_append hfraction hstops hpoint
  obtain ⟨e, he⟩ := exponent?_append hexponent hrest
  have hw := whole?_append hwhole.ne hwhole.isDigit hzero hnext
  rw [List.append_assoc, List.append_assoc, List.append_assoc]
  rcases hsign with rfl | rfl
  · have hunsigned : ∀ cs, whole ++ (fraction ++ (exponent ++ rest)) = '-' :: cs → False := by
      obtain ⟨d, ds, rfl, hd⟩ := hwhole.head
      rintro cs heq
      obtain rfl := (List.cons.inj heq).1
      exact absurd hd (by decide)
    refine ⟨⟨false, whole, f, e⟩, ?_⟩
    rw [List.nil_append, read?.eq_2 _ hunsigned]
    simp only [hw, hf, he, Option.bind_eq_bind, Option.bind_some, Option.pure_def]
  · refine ⟨⟨true, whole, f, e⟩, ?_⟩
    rw [List.cons_append, List.nil_append, read?.eq_1]
    simp only [hw, hf, he, Option.bind_eq_bind, Option.bind_some, Option.pure_def]

end NumberText

end Numbers

end SharedMemory.Json

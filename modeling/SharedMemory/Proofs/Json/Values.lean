import SharedMemory.Proofs.Json.Entries
/-!
# Readers of simple values

A string is read from each of its spellings, and an integer from its numeral. Whatever a reader of
simple values accepts is a value that is passed over just as far.
-/
namespace SharedMemory.Json

variable {α : Type}

theorem orMalformed_eq_ok_iff {o : Option α} {a : α} : orMalformed o = .ok a ↔ o = some a := by
  cases o with
  | none => exact ⟨nofun, nofun⟩
  | some b => exact ⟨fun h => congrArg some (Except.ok.inj h), fun h => congrArg orMalformed h⟩

private theorem mismatch_ne_ok (expected : String) (cs : List Char) (a : α) :
    mismatch expected cs ≠ .ok a := by
  rw [mismatch]
  split
  all_goals nofun

section Strings

variable {s : String} {text : List Char}

theorem readString_readsAs (expected : String) (h : SpellsString s text) :
    ReadsAs (readString expected) text s := by
  obtain ⟨body, hbody, rfl⟩ := h
  intro ws rest hws _
  rw [inQuotes_append]
  unfold readString
  rw [skipBlanks_front hws rfl]
  exact orMalformed_eq_ok_iff.mpr (hbody.string? rest)

theorem pieces?_of_string? {cs rest : List Char} (h : string? cs = some (s, rest)) :
    ∃ ps, pieces? cs = some (ps, rest) := by
  unfold string? at h
  split at h
  · cases h
  · rename_i ps rest' hpieces
    obtain ⟨_, -, heq⟩ := Option.map_eq_some_iff.mp h
    obtain rfl := (Prod.mk.inj heq).2
    exact ⟨ps, hpieces⟩

theorem skipScalar?_string {cs rest : List Char} (h : string? cs = some (s, rest)) :
    skipScalar? ('"' :: cs) = some rest := by
  obtain ⟨ps, hpieces⟩ := pieces?_of_string? h
  change (pieces? cs).map (·.2) = some rest
  rw [hpieces, Option.map_some]

theorem readString_inStep (expected : String) : InStep (readString expected) := by
  intro cs s rest h
  unfold readString at h
  split at h
  · rename_i inner hcs
    have hstring := orMalformed_eq_ok_iff.mp h
    exact skip?_scalar hcs (by decide) (by decide) (skipScalar?_string hstring)
  · exact absurd h (mismatch_ne_ok _ _ _)

end Strings

section Integers

private theorem numeral_cons (i : Int) :
    ∃ c cs, Decimal.numeral i = c :: cs ∧ startsNumber c = true := by
  cases i with
  | ofNat n =>
    obtain ⟨c, cs, hdigits⟩ : ∃ c cs, Decimal.digits n = c :: cs :=
      List.exists_cons_of_ne_nil Nat.toDigits_ne_nil
    have hc : c.isDigit = true :=
      Decimal.isDigit_of_mem_digits (n := n) (hdigits ▸ List.mem_cons_self)
    exact ⟨c, cs, hdigits, by rw [startsNumber, hc, Bool.or_true]⟩
  | negSucc n => exact ⟨'-', _, rfl, rfl⟩

theorem readInteger_readsAs (expected : String) {least greatest i : Int} (hi : FitsWord i)
    (hleast : least ≤ i) (hgreatest : i ≤ greatest) :
    ReadsAs (readInteger expected least greatest) (Decimal.numeral i) i := by
  intro ws rest hws hrest
  have hread := NumberText.read?_numeral i hrest
  obtain ⟨c, cs, htext, hc⟩ := numeral_cons i
  rw [htext, List.cons_append] at hread ⊢
  unfold readInteger
  rw [skipBlanks_front hws (isBlank_of_startsNumber hc)]
  dsimp only
  rw [if_pos hc, hread]
  simp only [orMalformed, NumberText.found?_ofInteger hi, bind, Except.bind]
  exact if_pos ⟨hleast, hgreatest⟩

/-- A word is spelled by its digits, without leading zeros. -/
def SpellsWord (n : Nat) (text : List Char) : Prop := text = Decimal.digits n

theorem SpellsWord.phrase {n : Nat} {text : List Char} (h : SpellsWord n text) :
    Phrase .value text := by
  obtain rfl : text = Decimal.digits n := h
  exact phrase_digits n

theorem readWord_readsAs (expected : String) {n : Nat} (hn : n < UInt64.size) {text : List Char}
    (h : SpellsWord n text) : ReadsAs (readWord expected) text n := by
  obtain rfl : text = Decimal.digits n := h
  have hsize : (n : Int) < UInt64.size := Int.ofNat_lt.mpr hn
  have hinteger : ReadsAs (readInteger expected 0 (UInt64.size - 1)) (Decimal.digits n) n :=
    readInteger_readsAs expected ⟨by omega, hsize⟩ (Int.natCast_nonneg n) (by omega)
  intro ws rest hws hrest
  unfold readWord
  rw [hinteger ws rest hws hrest]
  rfl

private theorem readInteger_inStep (expected : String) (least greatest : Int) :
    InStep (readInteger expected least greatest) := by
  intro cs n rest h
  unfold readInteger at h
  split at h
  · cases h
  · rename_i c inner hcs
    split at h
    · rename_i hc
      obtain ⟨⟨t, rest'⟩, htext, h⟩ := of_bind_eq_ok h
      obtain ⟨found, -, h⟩ := of_bind_eq_ok h
      have hrest : rest' = rest := by
        split at h
        · split at h
          · exact (Prod.mk.inj (Except.ok.inj h)).2
          · cases h
        · cases h
      refine skip?_scalar hcs (ne_of_startsNumber hc rfl) (ne_of_startsNumber hc rfl) ?_
      rw [skipScalar?_number hc, orMalformed_eq_ok_iff.mp htext, Option.map_some, hrest]
    · exact absurd h (mismatch_ne_ok _ _ _)

theorem readWord_inStep (expected : String) : InStep (readWord expected) := by
  intro cs n rest h
  obtain ⟨⟨i, rest'⟩, hinteger, h⟩ := of_bind_eq_ok h
  cases h
  exact readInteger_inStep expected 0 _ cs i rest hinteger

end Integers

section Words

theorem readNull_readsAs (expected : String) : ReadsAs (readNull expected) "null".toList () := by
  intro ws rest hws _
  unfold readNull
  rw [skipBlanks_append hws]
  rfl

theorem of_readNull {expected : String} {u : Unit} {cs rest : List Char}
    (h : readNull expected cs = .ok (u, rest)) :
    ∃ inner, skipBlanks cs = 'n' :: inner ∧ skipScalar? ('n' :: inner) = some rest := by
  unfold readNull at h
  split at h
  · rename_i inner hcs
    obtain ⟨rest', hword, h⟩ := of_bind_eq_ok h
    cases h
    exact ⟨inner, hcs, orMalformed_eq_ok_iff.mp hword⟩
  · exact absurd h (mismatch_ne_ok _ _ _)

theorem readBoolean_inStep : InStep readBoolean := by
  intro cs b rest h
  unfold readBoolean at h
  split at h
  · rename_i inner hcs
    obtain ⟨rest', hword, h⟩ := of_bind_eq_ok h
    cases h
    exact skip?_scalar hcs (by decide) (by decide) (orMalformed_eq_ok_iff.mp hword)
  · rename_i inner hcs
    obtain ⟨rest', hword, h⟩ := of_bind_eq_ok h
    cases h
    exact skip?_scalar hcs (by decide) (by decide) (orMalformed_eq_ok_iff.mp hword)
  · exact absurd h (mismatch_ne_ok _ _ _)

end Words

section Fields

variable {σ : Type} {read : Read α} {name : String} {get : σ → Option α} {set : σ → α → σ}

theorem ReadsAs.field {text : List Char} {a : α} (h : ReadsAs read text a) (p : σ) :
    ReadsAs ((Field.option name get set read).read p) text (set p a) := by
  intro ws rest hws hrest
  change (read (ws ++ (text ++ rest))).bind _ = .ok (set p a, rest)
  rw [h ws rest hws hrest]
  rfl

theorem of_option_read {p p' : σ} {cs rest : List Char}
    (h : (Field.option name get set read).read p cs = .ok (p', rest)) :
    ∃ a, read cs = .ok (a, rest) ∧ p' = set p a := by
  obtain ⟨⟨a, rest'⟩, hread, h⟩ := of_bind_eq_ok h
  cases h
  exact ⟨a, hread, rfl⟩

theorem InStep.field (h : InStep read) (p : σ) :
    InStep ((Field.option name get set read).read p) := by
  intro cs p' rest hread
  obtain ⟨a, hvalue, -⟩ := of_option_read hread
  exact h cs a rest hvalue

end Fields

end SharedMemory.Json

import Mathlib.Data.List.Basic
import SharedMemory.Json.Text
import SharedMemory.Proofs.Text.Hex
/-!
# The pieces of a string

A character that stands as it is, a short escape and a unit given by number are each read as one
piece, and a piece that stands for a character is joined as that character.
-/
namespace SharedMemory.Json

variable {c e : Char} {n : Nat} {cs rest : List Char} {ps : List Piece}

theorem pieces?_plain (hquote : c ≠ '"') (hslash : c ≠ '\\') (hplain : ¬ c.toNat < 32)
    (hcs : pieces? cs = some (ps, rest)) : pieces? (c :: cs) = some (.char c :: ps, rest) := by
  rw [pieces?.eq_5 c cs hquote (fun _ _ _ _ _ h => absurd h hslash) fun _ _ h => absurd h hslash,
    if_neg hplain, hcs]

theorem pieces?_short (he : shortEscape? e = some c) (hcs : pieces? cs = some (ps, rest)) :
    pieces? ('\\' :: e :: cs) = some (.char c :: ps, rest) := by
  have hu : e ≠ 'u' := by
    rintro rfl
    cases he
  rw [pieces?.eq_4 e cs fun _ _ _ _ _ h => absurd h hu, he, hcs]

theorem pieces?_number {ds : List Char} (hlength : ds.length = 4) (hvalue : Hex.value? ds = some n)
    (hcs : pieces? cs = some (ps, rest)) :
    pieces? ('\\' :: 'u' :: (ds ++ cs)) = some (.unit n :: ps, rest) := by
  obtain ⟨a, ds, rfl⟩ := List.exists_cons_of_length_eq_add_one hlength
  obtain ⟨b, c, d, rfl⟩ := List.length_eq_three.mp (Nat.succ.inj hlength)
  rw [List.cons_append, List.cons_append, List.cons_append, List.cons_append, List.nil_append,
    pieces?.eq_3, hvalue, hcs]

/-- The piece is the character or its unit. -/
inductive Piece.StandsFor : Piece → Char → Prop where
  | char (c : Char) : StandsFor (.char c) c
  | unit {c : Char} (hc : c.toNat < 0x10000) : StandsFor (.unit c.toNat) c

private theorem not_surrogate (c : Char) :
    isHighSurrogate c.toNat = false ∧ isLowSurrogate c.toNat = false := by
  have hvalid : c.toNat < 0xD800 ∨ 0xDFFF < c.toNat ∧ c.toNat < 0x110000 := c.valid
  simp only [isHighSurrogate, isLowSurrogate, Bool.and_eq_false_iff, decide_eq_false_iff_not]
  omega

theorem join?_cons {p : Piece} (hp : p.StandsFor c) (ps : List Piece) :
    join? (p :: ps) = (join? ps).map (c :: ·) := by
  cases hp with
  | char => rw [join?]
  | unit hc =>
    obtain ⟨hhigh, hlow⟩ := not_surrogate c
    have hchar : Char.ofNat c.toNat = c := Char.ofNat_toNat c
    by_cases hunit : ∃ l ps', ps = .unit l :: ps'
    · obtain ⟨l, ps', rfl⟩ := hunit
      rw [join?, hhigh, hlow, hchar, if_neg Bool.false_ne_true, if_neg Bool.false_ne_true]
    · rw [join?.eq_4 _ _ fun l ps' h => hunit ⟨l, ps', h⟩, hhigh, hlow, hchar, if_neg (by decide)]

end SharedMemory.Json

import Mathlib.Algebra.Group.Int.Defs
import Mathlib.Data.List.TakeDrop
import SharedMemory.Json.Number
/-!
# Numbers in JSON are read back

An integer is written as a numeral without leading zeros. It is read back if it fits a 64-bit word
with or without a sign, provided that what comes after it could not be part of a number.
-/
namespace SharedMemory

namespace Decimal

theorem isDigit_of_mem_digits {n : Nat} {c : Char} (h : c ∈ digits n) : c.isDigit = true :=
  Nat.isDigit_of_mem_toDigits (by decide) (by decide) h

private theorem head?_digits_ne_zero {n : Nat} (h : n ≠ 0) : (digits n).head? ≠ some '0' := by
  have hdigit : ∀ d < 10, d ≠ 0 → [Nat.digitChar d].head? ≠ some '0' := by decide
  induction n using Nat.strongRecOn with
  | ind n ih =>
    unfold digits at ih ⊢
    by_cases hlt : n < 10
    · rw [Nat.toDigits_of_lt_base hlt]
      exact hdigit n hlt h
    · have hle : 10 ≤ n := Nat.le_of_not_lt hlt
      rw [Nat.toDigits_of_base_le (by decide) hle, List.head?_append,
        Option.or_of_isSome (List.isSome_head?.mpr Nat.toDigits_ne_nil)]
      exact ih (n / 10) (by omega) (by omega)

theorem digits_eq_of_head? {n : Nat} (h : (digits n).head? = some '0') : digits n = ['0'] := by
  have hzero : n = 0 := by
    by_contra hn
    exact head?_digits_ne_zero hn h
  subst hzero
  rfl

end Decimal

namespace Json

/-- What comes after a value could not be part of a number. -/
def Ends (rest : List Char) : Prop :=
  ∀ c, rest.head? = some c → c.isDigit = false ∧ c ≠ '.' ∧ c ≠ 'e' ∧ c ≠ 'E'

theorem ends_nil : Ends [] := nofun

theorem ends_cons {c : Char} {rest : List Char}
    (h : c.isDigit = false ∧ c ≠ '.' ∧ c ≠ 'e' ∧ c ≠ 'E') : Ends (c :: rest) := by
  rintro _ ⟨⟩
  exact h

/-- What comes after a run of digits does not go on with it. -/
def Stops (rest : List Char) : Prop := ∀ c, rest.head? = some c → c.isDigit = false

theorem Ends.stops {rest : List Char} (h : Ends rest) : Stops rest := fun c hc => (h c hc).1

/-- An integer that fits a 64-bit word with or without a sign. -/
def FitsWord (i : Int) : Prop := -(2 ^ 63) ≤ i ∧ i < UInt64.size

namespace NumberText

variable {ds rest : List Char} {n : Nat}

theorem digits?_append (hne : ds ≠ []) (hds : ∀ c ∈ ds, c.isDigit = true) (hrest : Stops rest) :
    digits? (ds ++ rest) = some (ds, rest) := by
  have hstop : rest.takeWhile Char.isDigit = [] ∧ rest.dropWhile Char.isDigit = rest := by
    cases rest with
    | nil => exact ⟨rfl, rfl⟩
    | cons c cs =>
      have hc : ¬ c.isDigit = true := by simp [hrest c rfl]
      exact ⟨List.takeWhile_cons_of_neg hc, List.dropWhile_cons_of_neg hc⟩
  have hspan : (ds ++ rest).span Char.isDigit = (ds, rest) := by
    rw [List.span_eq_takeWhile_dropWhile, List.takeWhile_append_of_pos hds,
      List.dropWhile_append_of_pos hds, hstop.1, hstop.2, List.append_nil]
  rw [digits?, hspan]
  cases ds with
  | nil => exact absurd rfl hne
  | cons d ds => rfl

theorem whole?_append (hne : ds ≠ []) (hds : ∀ c ∈ ds, c.isDigit = true)
    (hzero : ds.head? = some '0' → ds = ['0']) (hrest : Stops rest) :
    whole? (ds ++ rest) = some (ds, rest) := by
  rw [whole?, digits?_append hne hds hrest]
  split
  · rename_i d ds rest' heq
    obtain ⟨rfl, -⟩ := Prod.mk.inj (Option.some.inj heq)
    cases hzero rfl
  · rfl

private theorem whole?_digits (n : Nat) (hrest : Ends rest) :
    whole? (Decimal.digits n ++ rest) = some (Decimal.digits n, rest) :=
  whole?_append Nat.toDigits_ne_nil (fun _ => Decimal.isDigit_of_mem_digits)
    Decimal.digits_eq_of_head? hrest.stops

private theorem fraction?_of_ends (hrest : Ends rest) : fraction? rest = some (none, rest) := by
  unfold fraction?
  split
  · exact absurd rfl (hrest '.' rfl).2.1
  · rfl

theorem exponent?_of_ends (hrest : Ends rest) : exponent? rest = some (none, rest) := by
  cases rest with
  | nil => rfl
  | cons c cs =>
    obtain ⟨-, -, he, hE⟩ := hrest c rfl
    exact if_neg (not_or.mpr ⟨he, hE⟩)

/-- The text of an integer. -/
def ofInteger : Int → NumberText
  | .ofNat n => ⟨false, Decimal.digits n, none, none⟩
  | .negSucc n => ⟨true, Decimal.digits (n + 1), none, none⟩

private theorem digits_ne_minus (n : Nat) (cs : List Char) :
    Decimal.digits n ++ rest ≠ '-' :: cs := by
  intro hminus
  cases hdigits : Decimal.digits n with
  | nil => exact absurd hdigits Nat.toDigits_ne_nil
  | cons d ds =>
    have hd : d.isDigit = true :=
      Decimal.isDigit_of_mem_digits (n := n) (hdigits ▸ List.mem_cons_self)
    rw [hdigits] at hminus
    obtain rfl : d = '-' := (List.cons.inj hminus).1
    cases hd

theorem read?_numeral (i : Int) (hrest : Ends rest) :
    read? (Decimal.numeral i ++ rest) = some (ofInteger i, rest) := by
  have hfraction := fraction?_of_ends hrest
  have hexponent := exponent?_of_ends hrest
  cases i with
  | ofNat n =>
    have hwhole := whole?_digits n hrest
    simp only [read?, Decimal.numeral]
    split
    · rename_i cs hminus
      exact absurd hminus (digits_ne_minus n cs)
    · simp only [hwhole, hfraction, hexponent, Option.bind_eq_bind, Option.bind_some]
      rfl
  | negSucc n =>
    have hwhole := whole?_digits (n + 1) hrest
    simp only [read?, Decimal.numeral, List.cons_append, hwhole, hfraction, hexponent,
      Option.bind_eq_bind, Option.bind_some]
    rfl

theorem found?_ofInteger {i : Int} (hi : FitsWord i) :
    (ofInteger i).found? = some (.integer i) := by
  obtain ⟨hle, hlt⟩ := hi
  cases i with
  | ofNat n =>
    have hn : n < UInt64.size := Int.ofNat_lt.mp hlt
    simp only [found?, ofInteger, Decimal.value_digits, Option.isSome_none, Bool.false_eq_true,
      or_self, if_false, if_pos hn]
    rfl
  | negSucc n =>
    have hn : n + 1 ≤ 1 <<< 63 := by
      have hshift : (1 <<< 63 : Nat) = 2 ^ 63 := rfl
      omega
    simp only [found?, ofInteger, Decimal.value_digits, Option.isSome_none, Bool.false_eq_true,
      or_self, if_false, if_true, Nat.zero_lt_succ, true_and, if_pos hn]
    rfl

end NumberText

end Json

end SharedMemory

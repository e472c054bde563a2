import Mathlib.Algebra.Group.Nat.Defs
import SharedMemory.Text.Hex
/-!
# Hexadecimal digits are read back

A number that is written with a fixed number of digits is read as what the digits have room for.
-/
namespace SharedMemory.Hex

private theorem digit?_digit : ∀ n < 16, digit? (digit n) = some n := by decide

private theorem digit?_toLower (c : Char) : digit? c.toLower = digit? c := by
  have hlow : ∀ n < 128, digit? (Char.ofNat n).toLower = digit? (Char.ofNat n) := by decide
  by_cases hc : c.toNat < 128
  · rw [← Char.ofNat_toNat c]
    exact hlow _ hc
  · have hnot : ¬ (c.val ≥ 'A'.val ∧ c.val ≤ 'Z'.val) := by
      rintro ⟨-, hle⟩
      exact hc (Nat.lt_of_le_of_lt (UInt32.le_iff_toNat_le.mp hle) (by decide))
    have hsame : c.toLower = c := dif_neg hnot
    rw [hsame]

theorem value?_map_toLower (ds : List Char) : value? (ds.map Char.toLower) = value? ds := by
  rw [value?, value?, List.foldlM_map]
  simp only [digit?_toLower]

theorem length_fixed (width n : Nat) : (fixed width n).length = width := by
  induction width generalizing n with
  | zero => rfl
  | succ width ih => rw [fixed, List.length_append, ih, List.length_singleton]

theorem map_toLower_fixed (width n : Nat) :
    (fixed width n).map Char.toLower = fixed width n := by
  induction width generalizing n with
  | zero => rfl
  | succ width ih =>
    have hdigit : ∀ d < 16, (digit d).toLower = digit d := by decide
    rw [fixed, List.map_append, ih, List.map_singleton, hdigit _ (Nat.mod_lt _ (by decide))]

private theorem value?_append_singleton (ds : List Char) (c : Char) :
    value? (ds ++ [c]) = (value? ds).bind fun n => (digit? c).map (16 * n + ·) := by
  simp only [value?, List.foldlM_append, List.foldlM_cons, List.foldlM_nil, bind_pure]
  rfl

private theorem value?_fixed (width n : Nat) : value? (fixed width n) = some (n % 16 ^ width) := by
  induction width generalizing n with
  | zero => rw [Nat.pow_zero, Nat.mod_one]; rfl
  | succ width ih =>
    have hdigit : n % 16 < 16 := Nat.mod_lt n (by decide)
    rw [fixed, value?_append_singleton, ih, Option.bind_some, digit?_digit _ hdigit,
      Option.map_some, Nat.pow_succ, Nat.mul_comm (16 ^ width), Nat.mod_mul, Nat.add_comm]

theorem value?_fixed_of_lt {width n : Nat} (h : n < 16 ^ width) :
    value? (fixed width n) = some n := by
  rw [value?_fixed, Nat.mod_eq_of_lt h]

end SharedMemory.Hex

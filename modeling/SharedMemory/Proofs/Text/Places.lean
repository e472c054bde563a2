import Mathlib.Algebra.Group.Nat.Defs
import SharedMemory.Text.Places
/-!
# Places have the order of their numbers

Numbers that fit the same number of places are compared by the first place in which they differ,
whatever digits stand there, as long as these are ordered like the numbers they stand for.
-/
namespace SharedMemory

variable {α : Type} {cmp : α → α → Ordering}

/-- Lists whose fronts have one length are compared by their fronts, and then by the rest. -/
theorem compareLex_append {front front' : List α} (h : front.length = front'.length)
    (rest rest' : List α) :
    List.compareLex cmp (front ++ rest) (front' ++ rest') =
      (List.compareLex cmp front front').then (List.compareLex cmp rest rest') := by
  induction front generalizing front' with
  | nil =>
    cases front' with
    | nil => simp [List.compareLex_nil_nil]
    | cons a as => simp at h
  | cons a as ih =>
    cases front' with
    | nil => simp at h
    | cons b bs =>
      have hlength : as.length = bs.length := by simpa using h
      simp only [List.cons_append, List.compareLex_cons_cons, ih hlength]
      cases cmp a b <;> rfl

/-- The order of numbers is that of their quotients by the base, then that of their remainders. -/
private theorem compare_div_then_mod {base : Nat} (hbase : 0 < base) (m n : Nat) :
    (compare (m / base) (n / base)).then (compare (m % base) (n % base)) = compare m n := by
  have hm := Nat.div_add_mod m base
  have hn := Nat.div_add_mod n base
  have hmod := Nat.mod_lt m hbase
  have hmod' := Nat.mod_lt n hbase
  rcases Nat.lt_trichotomy (m / base) (n / base) with hlt | heq | hgt
  · have hless : m < n := Nat.lt_of_div_lt_div hlt
    rw [Nat.compare_eq_lt.mpr hlt, Nat.compare_eq_lt.mpr hless]
    rfl
  · rw [heq] at hm
    have hlt : m % base < n % base ↔ m < n := by omega
    have heq' : m % base = n % base ↔ m = n := by omega
    rw [Nat.compare_eq_eq.mpr heq]
    change compareOfLessAndEq _ _ = compareOfLessAndEq _ _
    simp only [compareOfLessAndEq, hlt, heq']
  · have hmore : n < m := Nat.lt_of_div_lt_div hgt
    rw [Nat.compare_eq_gt.mpr hgt, Nat.compare_eq_gt.mpr hmore]
    rfl

namespace places

variable {base width : Nat} {digit : Nat → α}

private theorem length_places (base width : Nat) (digit : Nat → α) (n : Nat) :
    (places base digit width n).length = width := by
  induction width generalizing n with
  | zero => rfl
  | succ width ih => simp [places, ih]

theorem forall_mem_places {P : α → Prop} (hbase : 0 < base) (h : ∀ d < base, P (digit d))
    (n : Nat) :
    ∀ a ∈ places base digit width n, P a := by
  induction width generalizing n with
  | zero => simp [places]
  | succ width ih =>
    intro a ha
    rcases List.mem_append.mp ha with hfront | hlast
    · exact ih _ a hfront
    · rw [List.mem_singleton.mp hlast]
      exact h _ (Nat.mod_lt n hbase)

/-- The places that there are keep the number up to a power of the base. -/
theorem foldl_places {value : α → Nat} (hbase : 0 < base)
    (hvalue : ∀ d < base, value (digit d) = d) (n : Nat) :
    (places base digit width n).foldl (fun m a => base * m + value a) 0 = n % base ^ width := by
  induction width generalizing n with
  | zero => simp [places, Nat.mod_one]
  | succ width ih =>
    rw [places, List.foldl_append, ih, List.foldl_cons, List.foldl_nil,
      hvalue _ (Nat.mod_lt n hbase), Nat.pow_succ, Nat.mul_comm (base ^ width), Nat.mod_mul]
    omega

theorem compareLex_places (hbase : 0 < base)
    (hdigit : ∀ d < base, ∀ e < base, cmp (digit d) (digit e) = compare d e) {m n : Nat}
    (hm : m < base ^ width) (hn : n < base ^ width) :
    List.compareLex cmp (places base digit width m) (places base digit width n) = compare m n := by
  induction width generalizing m n with
  | zero =>
    obtain rfl : m = 0 := by simpa using hm
    obtain rfl : n = 0 := by simpa using hn
    rfl
  | succ width ih =>
    have hquotient : ∀ k, k < base ^ (width + 1) → k / base < base ^ width := by
      intro k hk
      apply Nat.div_lt_of_lt_mul
      rwa [Nat.mul_comm, ← Nat.pow_succ]
    have hlast : List.compareLex cmp [digit (m % base)] [digit (n % base)] =
        compare (m % base) (n % base) := by
      rw [List.compareLex_cons_cons, hdigit _ (Nat.mod_lt m hbase) _ (Nat.mod_lt n hbase)]
      simp [List.compareLex_nil_nil]
    have hlength : (places base digit width (m / base)).length =
        (places base digit width (n / base)).length := by simp [length_places]
    rw [places, places, compareLex_append hlength, ih (hquotient m hm) (hquotient n hn), hlast,
      compare_div_then_mod hbase]

end places

end SharedMemory

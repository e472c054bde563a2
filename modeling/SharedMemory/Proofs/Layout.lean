import Mathlib.Algebra.Group.Nat.Defs
import SharedMemory.Layout
/-!
# The sizes of a layout

A layout is accepted for its own two sizes and for no others. Rounding down to the granularity
gives its greatest multiple that is not above a number. Rounding up to the page size gives its least
multiple that is not below a number, unless that is no word.
-/
namespace SharedMemory.Layout

theorem exponent?_eq_some_iff {n : Nat} {e : Fin 64} : exponent? n = some e ↔ n = 1 <<< e.val := by
  rw [Nat.one_shiftLeft]
  constructor
  · intro h
    unfold exponent? at h
    split at h
    · split at h
      · rename_i hn
        cases h
        rw [← Nat.one_shiftLeft]
        exact hn
      · cases h
    · cases h
  · rintro rfl
    simp only [exponent?, Nat.log2_two_pow, e.isLt, Nat.one_shiftLeft, dif_pos, if_pos]

theorem ofSizes_eq_ok_iff {page granularity : Nat} {l : Layout} :
    ofSizes page granularity = .ok l ↔ page = l.page ∧ granularity = l.granularity := by
  constructor
  · intro h
    unfold ofSizes at h
    split at h
    · cases h
    · rename_i p hp
      split at h
      · cases h
      · rename_i g hg
        split at h
        · cases h
          exact ⟨exponent?_eq_some_iff.mp hp, exponent?_eq_some_iff.mp hg⟩
        · cases h
  · rintro ⟨hpage, hgranularity⟩
    simp only [ofSizes, exponent?_eq_some_iff.mpr hpage, exponent?_eq_some_iff.mpr hgranularity,
      dif_pos l.page_le]

theorem granularity_eq (l : Layout) : l.granularity = 2 ^ l.granularityBits.val := by
  rw [granularity, Nat.one_shiftLeft]

theorem two_pow_le_granularity_iff {l : Layout} {e : Nat} :
    2 ^ e ≤ l.granularity ↔ e ≤ l.granularityBits.val := by
  rw [granularity_eq, Nat.pow_le_pow_iff_right (by decide)]

theorem granularity_dvd_alignDown (l : Layout) (n : Nat) : l.granularity ∣ l.alignDown n :=
  Nat.dvd_mul_left _ _

theorem le_alignDown {l : Layout} {m n : Nat} (hm : l.granularity ∣ m) (hle : m ≤ n) :
    m ≤ l.alignDown n := by
  obtain ⟨c, rfl⟩ := hm
  have hc : c ≤ n / l.granularity := by
    rw [Nat.le_div_iff_mul_le l.granularity_pos, Nat.mul_comm]
    exact hle
  rw [alignDown, Nat.mul_comm]
  exact Nat.mul_le_mul_right _ hc

/-- What is a multiple of the granularity is one of every power of two up to it. -/
theorem alignDown_mod {l : Layout} {e : Nat} (he : e ≤ l.granularityBits.val) (n : Nat) :
    l.alignDown n % 2 ^ e = 0 := by
  have hdvd : 2 ^ e ∣ l.granularity := by
    rw [granularity_eq]
    exact Nat.pow_dvd_pow 2 he
  exact Nat.mod_eq_zero_of_dvd (Nat.dvd_trans hdvd (l.granularity_dvd_alignDown n))

theorem page_eq (l : Layout) : l.page = 2 ^ l.pageBits.val := by
  rw [page, Nat.one_shiftLeft]

theorem page_lt (l : Layout) : l.page < UInt64.size := by
  rw [page_eq]
  exact Nat.pow_lt_pow_right (by decide) l.pageBits.isLt

theorem granularity_lt (l : Layout) : l.granularity < UInt64.size := by
  rw [granularity_eq]
  exact Nat.pow_lt_pow_right (by decide) l.granularityBits.isLt

/-- The least whole number of pages that has room for `n` bytes. -/
structure RoundsUp (l : Layout) (n length : Nat) : Prop where
  dvd : l.page ∣ length
  le : n ≤ length
  least : ∀ m, l.page ∣ m → n ≤ m → length ≤ m

theorem roundsUp (l : Layout) (n : Nat) : l.RoundsUp n ((n + (l.page - 1)) / l.page * l.page) := by
  have hpos := l.page_pos
  have hsplit := Nat.div_add_mod (n + (l.page - 1)) l.page
  have hmod := Nat.mod_lt (n + (l.page - 1)) hpos
  rw [Nat.mul_comm] at hsplit
  refine ⟨Nat.dvd_mul_left _ _, by omega, ?_⟩
  rintro m ⟨c, rfl⟩ hm
  have hc : (n + (l.page - 1)) / l.page < c + 1 := by
    rw [Nat.div_lt_iff_lt_mul hpos, Nat.succ_mul, Nat.mul_comm]
    omega
  rw [Nat.mul_comm l.page]
  exact Nat.mul_le_mul_right _ (Nat.le_of_lt_succ hc)

theorem RoundsUp.lt {l : Layout} {n length : Nat} (h : l.RoundsUp n length) :
    length < n + l.page := by
  apply Nat.lt_of_not_le
  intro hle
  have hpos := l.page_pos
  have hless := h.least (length - l.page) (Nat.dvd_sub h.dvd (Nat.dvd_refl _)) (by omega)
  omega

/-- A whole number of pages is a word exactly if adding what may be missing to a page gives one:
the first number that is no word is a whole number of pages itself. -/
private theorem RoundsUp.lt_size_iff {l : Layout} {n v : Nat} (h : l.RoundsUp n v) :
    v < UInt64.size ↔ n + (l.page - 1) < UInt64.size := by
  have hpos := l.page_pos
  have hlt := h.lt
  constructor
  · intro hv
    have hword : l.page ∣ UInt64.size := by
      have hsize : UInt64.size = 2 ^ 64 := rfl
      rw [page_eq, hsize]
      exact Nat.pow_dvd_pow 2 (Nat.le_of_lt l.pageBits.isLt)
    have hgap : l.page ≤ UInt64.size - v :=
      Nat.le_of_dvd (by omega) (Nat.dvd_sub hword h.dvd)
    have hle := h.le
    omega
  · intro hn
    omega

theorem RoundsUp.roundUp?_eq {l : Layout} {n v : Nat} (h : l.RoundsUp n v) :
    l.roundUp? n = if v < UInt64.size then some v else none := by
  have hsame := l.roundsUp n
  have heq : v = (n + (l.page - 1)) / l.page * l.page :=
    Nat.le_antisymm (h.least _ hsame.dvd hsame.le) (hsame.least v h.dvd h.le)
  rw [roundUp?, ← heq]
  simp only [h.lt_size_iff]

theorem roundUp?_eq_some_iff {l : Layout} {n v : Nat} :
    l.roundUp? n = some v ↔ l.RoundsUp n v ∧ v < UInt64.size := by
  constructor
  · intro h
    have hrounds := l.roundsUp n
    rw [hrounds.roundUp?_eq] at h
    split at h
    · rename_i hlt
      cases h
      exact ⟨hrounds, hlt⟩
    · cases h
  · rintro ⟨hrounds, hlt⟩
    rw [hrounds.roundUp?_eq, if_pos hlt]

theorem le_of_roundUp? {l : Layout} {n m : Nat} (h : l.roundUp? n = some m) :
    n ≤ m ∧ m < UInt64.size := by
  obtain ⟨hrounds, hlt⟩ := roundUp?_eq_some_iff.mp h
  exact ⟨hrounds.le, hlt⟩

end SharedMemory.Layout

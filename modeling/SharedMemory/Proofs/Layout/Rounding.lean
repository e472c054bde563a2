import SharedMemory.Proofs.Json.Checked
import SharedMemory.Proofs.Wire
/-!
# Rounding to pages and to the granularity

Two sizes make a layout if both are powers of two and the page is not the larger one, which then
divides the granularity. The layouts in texts are made in the same way. Rounding is done on words,
by adding what may be missing to a page and clearing bits, and it is exact: up to the least multiple
of the page size unless that is no word, and down to the greatest multiple of the granularity.
-/
namespace SharedMemory

namespace Layout

section Sizes

private theorem exists_exponent?_iff {n : Nat} :
    (∃ e, exponent? n = some e) ↔ n.isPowerOfTwo ∧ n < UInt64.size := by
  simp only [exponent?_eq_some_iff, Nat.one_shiftLeft]
  constructor
  · rintro ⟨e, rfl⟩
    exact ⟨⟨e.val, rfl⟩, Nat.pow_lt_pow_right (by decide) e.isLt⟩
  · rintro ⟨⟨e, rfl⟩, hlt⟩
    have he : e < 64 := (Nat.pow_lt_pow_iff_right (a := 2) (by decide)).mp hlt
    exact ⟨⟨e, he⟩, rfl⟩

/-- The sizes that are accepted. Of two powers of two the smaller one divides the larger one. -/
private theorem exists_ofSizes_iff {page granularity : Nat} :
    (∃ l, ofSizes page granularity = .ok l) ↔
      page.isPowerOfTwo ∧ granularity.isPowerOfTwo ∧ page ≤ granularity ∧
        granularity < UInt64.size := by
  simp only [ofSizes_eq_ok_iff]
  constructor
  · rintro ⟨l, rfl, rfl⟩
    refine ⟨⟨_, l.page_eq⟩, ⟨_, l.granularity_eq⟩, ?_, l.granularity_lt⟩
    rw [page_eq]
    exact two_pow_le_granularity_iff.mpr l.page_le
  · rintro ⟨hpage, hgranularity, hle, hlt⟩
    obtain ⟨p, hp⟩ := exists_exponent?_iff.mpr ⟨hpage, Nat.lt_of_le_of_lt hle hlt⟩
    obtain ⟨g, hg⟩ := exists_exponent?_iff.mpr ⟨hgranularity, hlt⟩
    rw [exponent?_eq_some_iff] at hp hg
    rw [hp, hg, Nat.one_shiftLeft, Nat.one_shiftLeft] at hle
    have hbits : p ≤ g := (Nat.pow_le_pow_iff_right (a := 2) (by decide)).mp hle
    exact ⟨⟨p, g, hbits⟩, hp, hg⟩

private theorem page_dvd_granularity (l : Layout) : l.page ∣ l.granularity := by
  rw [page_eq, granularity_eq]
  exact Nat.pow_dvd_pow 2 l.page_le

end Sizes

section Words

/-- The bits of a word below a size. -/
def below (size : Nat) : BitVec 64 := BitVec.ofNat 64 size - 1

/-- Adds what may be missing to a page, unless the sum is no word, and clears the bits below it. -/
def roundUpWord? (l : Layout) (w : BitVec 64) : Option (BitVec 64) :=
  if w.uaddOverflow (below l.page) then none
  else some ((w + below l.page) &&& ~~~below l.page)

/-- Clears the bits below the granularity. -/
def alignDownWord (l : Layout) (w : BitVec 64) : BitVec 64 := w &&& ~~~below l.granularity

variable {e : Nat}

private theorem below_two_pow (e : Nat) : below (2 ^ e) = BitVec.ofNat 64 (2 ^ e - 1) :=
  BitVec.ofNat_sub_ofNat_of_le _ _ (by decide) (Nat.two_pow_pos e)

private theorem toNat_below (he : e < 64) : (below (2 ^ e)).toNat + 1 = 2 ^ e := by
  have hpos : 0 < 2 ^ e := Nat.two_pow_pos e
  have hlt : 2 ^ e < 2 ^ 64 := Nat.pow_lt_pow_right (by decide) he
  rw [below_two_pow, BitVec.toNat_ofNat, Nat.mod_eq_of_lt (by omega)]
  omega

private theorem toNat_and_not_below (he : e < 64) (w : BitVec 64) :
    (w &&& ~~~below (2 ^ e)).toNat = w.toNat / 2 ^ e * 2 ^ e := by
  rw [below_two_pow, ← Nat.shiftRight_eq_div_pow, ← Nat.shiftLeft_eq]
  apply Nat.eq_of_testBit_eq
  intro i
  rw [Nat.testBit_shiftLeft, Nat.testBit_shiftRight, BitVec.testBit_toNat, BitVec.getLsbD_and,
    BitVec.getLsbD_not, BitVec.getLsbD_ofNat, Nat.testBit_two_pow_sub_one, BitVec.testBit_toNat]
  by_cases hi : e ≤ i
  · rw [Nat.add_sub_cancel' hi]
    by_cases hword : i < 64
    · simp [hi, hword]
    · simp [BitVec.getLsbD_of_ge w i (Nat.le_of_not_lt hword)]
  · have hlow := Nat.lt_of_not_le hi
    have hword : i < 64 := Nat.lt_trans hlow he
    simp [hi, hlow, hword]

variable (l : Layout)

private theorem toNat_below_page : (below l.page).toNat + 1 = l.page := by
  rw [page_eq]
  exact toNat_below l.pageBits.isLt

private theorem toNat_below_granularity : (below l.granularity).toNat + 1 = l.granularity := by
  rw [granularity_eq]
  exact toNat_below l.granularityBits.isLt

private theorem toNat_alignDownWord (w : BitVec 64) :
    (l.alignDownWord w).toNat = l.alignDown w.toNat := by
  rw [alignDownWord, alignDown, granularity_eq]
  exact toNat_and_not_below l.granularityBits.isLt w

private theorem map_toNat_roundUpWord? (w : BitVec 64) :
    (l.roundUpWord? w).map BitVec.toNat = l.roundUp? w.toNat := by
  have hbelow := l.toNat_below_page
  have hmask : l.page - 1 = (below l.page).toNat := by omega
  rw [roundUpWord?, roundUp?, hmask]
  by_cases hfits : w.toNat + (below l.page).toNat < UInt64.size
  · have hno : ¬ w.uaddOverflow (below l.page) = true := by
      simpa [BitVec.uaddOverflow, UInt64.size] using hfits
    have hsum : (w + below l.page).toNat = w.toNat + (below l.page).toNat := by
      rw [BitVec.toNat_add]
      exact Nat.mod_eq_of_lt hfits
    rw [if_neg hno, if_pos hfits, Option.map_some, ← hsum, page_eq,
      toNat_and_not_below l.pageBits.isLt]
  · have hyes : w.uaddOverflow (below l.page) = true := by
      simpa [BitVec.uaddOverflow, UInt64.size] using hfits
    rw [if_pos hyes, if_neg hfits, Option.map_none]

end Words

section Multiples

variable {l : Layout} {m n v w : Nat}

private theorem roundsUp_self (h : l.page ∣ v) :
    l.RoundsUp v v := ⟨h, Nat.le_refl v, fun _ _ hle => hle⟩

private theorem roundUp?_bind_roundUp? (l : Layout) (n : Nat) :
    (l.roundUp? n).bind l.roundUp? = l.roundUp? n := by
  cases h : l.roundUp? n with
  | none => rfl
  | some v =>
    obtain ⟨hrounds, hlt⟩ := roundUp?_eq_some_iff.mp h
    rw [Option.bind_some]
    exact roundUp?_eq_some_iff.mpr ⟨roundsUp_self hrounds.dvd, hlt⟩

private theorem roundUp?_mono (hle : m ≤ n) (hn : l.roundUp? n = some w) :
    ∃ v, l.roundUp? m = some v ∧ v ≤ w := by
  obtain ⟨hrounds, hlt⟩ := roundUp?_eq_some_iff.mp hn
  have hm := l.roundsUp m
  have hless := hm.least w hrounds.dvd (Nat.le_trans hle hrounds.le)
  exact ⟨_, roundUp?_eq_some_iff.mpr ⟨hm, Nat.lt_of_le_of_lt hless hlt⟩, hless⟩

/-- The last multiple of the granularity up to `n`. -/
structure RoundsDown (l : Layout) (n start : Nat) : Prop where
  dvd : l.granularity ∣ start
  le : start ≤ n
  greatest : ∀ m, l.granularity ∣ m → m ≤ n → m ≤ start

private theorem roundsDown (l : Layout) (n : Nat) : l.RoundsDown n (l.alignDown n) :=
  ⟨l.granularity_dvd_alignDown n, l.alignDown_le n, fun _ => le_alignDown⟩

private theorem alignDown_alignDown (l : Layout) (n : Nat) :
    l.alignDown (l.alignDown n) = l.alignDown n :=
  Nat.le_antisymm (l.alignDown_le _) (le_alignDown (l.granularity_dvd_alignDown n) (Nat.le_refl _))

private theorem alignDown_mono (hle : m ≤ n) : l.alignDown m ≤ l.alignDown n :=
  le_alignDown (l.granularity_dvd_alignDown m) (Nat.le_trans (l.alignDown_le m) hle)

end Multiples

/-- The arithmetic of a layout, on numbers and on words: what its sizes are, rounding up and
rounding down. -/
structure RoundsExactly (l : Layout) : Prop where
  page_isPowerOfTwo : l.page.isPowerOfTwo
  granularity_isPowerOfTwo : l.granularity.isPowerOfTwo
  page_dvd : l.page ∣ l.granularity
  below_page : (below l.page).toNat + 1 = l.page
  below_granularity : (below l.granularity).toNat + 1 = l.granularity
  up : ∀ n, ∃ v, l.RoundsUp n v ∧ l.roundUp? n = if v < UInt64.size then some v else none
  up_word : ∀ w, (l.roundUpWord? w).map BitVec.toNat = l.roundUp? w.toNat
  up_idempotent : ∀ n, (l.roundUp? n).bind l.roundUp? = l.roundUp? n
  up_mono : ∀ m n w, m ≤ n → l.roundUp? n = some w → ∃ v, l.roundUp? m = some v ∧ v ≤ w
  down : ∀ n, l.RoundsDown n (l.alignDown n)
  down_word : ∀ w, (l.alignDownWord w).toNat = l.alignDown w.toNat
  down_page : ∀ n, l.page ∣ l.alignDown n
  down_idempotent : ∀ n, l.alignDown (l.alignDown n) = l.alignDown n
  down_mono : ∀ m n, m ≤ n → l.alignDown m ≤ l.alignDown n

private theorem roundsExactly (l : Layout) : l.RoundsExactly where
  page_isPowerOfTwo := ⟨_, l.page_eq⟩
  granularity_isPowerOfTwo := ⟨_, l.granularity_eq⟩
  page_dvd := l.page_dvd_granularity
  below_page := l.toNat_below_page
  below_granularity := l.toNat_below_granularity
  up n := ⟨_, l.roundsUp n, (l.roundsUp n).roundUp?_eq⟩
  up_word := l.map_toNat_roundUpWord?
  up_idempotent := l.roundUp?_bind_roundUp?
  up_mono _ _ _ := roundUp?_mono
  down := l.roundsDown
  down_word := l.toNat_alignDownWord
  down_page n := Nat.dvd_trans l.page_dvd_granularity (l.granularity_dvd_alignDown n)
  down_idempotent := l.alignDown_alignDown
  down_mono _ _ := alignDown_mono

end Layout

namespace Wire

open Json RecordShape

/-- The two sizes that a text gives for a layout, whatever they are. -/
def sizesShape : RecordShape PartialLayout (Nat × Nat) where
  name := layoutShape.name
  empty := layoutShape.empty
  fields := layoutShape.fields
  complete p := do
    let page ← required "page_size" p.page
    let granularity ← required "allocation_granularity" p.granularity
    return (page, granularity)

def readSizes : Read (Nat × Nat) := sizesShape.read

private theorem layoutShape_eq_checked : layoutShape = sizesShape.checked fun sizes =>
    (Layout.ofSizes sizes.1 sizes.2).mapError .layout := by
  rw [layoutShape, sizesShape, checked]
  congr 1
  funext p
  obtain ⟨page, granularity⟩ := p
  cases page with
  | none => rfl
  | some page =>
    cases granularity with
    | none => rfl
    | some granularity =>
      simp only [required, bind, Except.bind, pure, Except.pure]
      cases Layout.ofSizes page granularity <;> rfl

private theorem readAll_layout_eq_ok_iff {text : String} {l : Layout} :
    readAll readLayout text = .ok l ↔
      ∃ page granularity, readAll readSizes text = .ok (page, granularity) ∧
        Layout.ofSizes page granularity = .ok l := by
  rw [readLayout, layoutShape_eq_checked, readAll_checked_eq_ok_iff, Prod.exists]
  have hcheck : ∀ page granularity,
      (Layout.ofSizes page granularity).mapError Rejection.layout = .ok l ↔
        Layout.ofSizes page granularity = .ok l := by
    intro page granularity
    cases Layout.ofSizes page granularity <;> simp [Except.mapError]
  simp only [hcheck, readSizes]

/-- Every layout that two sizes make, or that a text denotes, rounds exactly. The sizes of a layout
are the ones it was made of, in a text as elsewhere. -/
theorem made_layouts_round_exactly :
    (∀ page granularity : Nat, (∃ l, Layout.ofSizes page granularity = .ok l) ↔
      page.isPowerOfTwo ∧ granularity.isPowerOfTwo ∧ page ≤ granularity ∧
        granularity < UInt64.size) ∧
    (∀ (page granularity : Nat) (l : Layout), Layout.ofSizes page granularity = .ok l →
      l.page = page ∧ l.granularity = granularity ∧ l.RoundsExactly) ∧
    (∀ (text : String) (l : Layout), readAll readLayout text = .ok l ↔
      ∃ page granularity, readAll readSizes text = .ok (page, granularity) ∧
        Layout.ofSizes page granularity = .ok l) ∧
    ∀ (text : String) (l : Layout), readAll readLayout text = .ok l → l.RoundsExactly := by
  refine ⟨fun _ _ => Layout.exists_ofSizes_iff, ?_, fun _ _ => readAll_layout_eq_ok_iff,
    fun _ l _ => l.roundsExactly⟩
  intro page granularity l h
  obtain ⟨hpage, hgranularity⟩ := Layout.ofSizes_eq_ok_iff.mp h
  exact ⟨hpage.symm, hgranularity.symm, l.roundsExactly⟩

/-- The smallest page with the largest granularity, made of its sizes and read from its text. -/
theorem made_layouts_round_exactly_of_extremes :
    (∃ l, Layout.ofSizes 1 (1 <<< 63) = .ok l) ∧
    ∃ l : Layout, Layout.ofSizes 1 (1 <<< 63) = .ok l ∧ l.page = 1 ∧ l.granularity = 1 <<< 63 ∧
      l.RoundsExactly ∧ readAll readLayout (String.ofList (writeLayout l)) = .ok l ∧
      ∃ page granularity, readAll readSizes (String.ofList (writeLayout l)) =
        .ok (page, granularity) ∧ Layout.ofSizes page granularity = .ok l := by
  obtain ⟨accepted, made, read, -⟩ := made_layouts_round_exactly
  have hmade : ∃ l, Layout.ofSizes 1 (1 <<< 63) = .ok l :=
    (accepted 1 (1 <<< 63)).mpr ⟨⟨0, rfl⟩, ⟨63, rfl⟩, by decide, by decide⟩
  obtain ⟨l, hl⟩ := hmade
  obtain ⟨hpage, hgranularity, hexact⟩ := made 1 (1 <<< 63) l hl
  have htext : readAll readLayout (String.ofList (writeLayout l)) = .ok l :=
    (readLayout_readsBack l).readAll
  exact ⟨⟨l, hl⟩, l, hl, hpage, hgranularity, hexact, htext, (read _ l).mp htext⟩

end Wire

end SharedMemory

import SharedMemory.Proofs.Guid
import SharedMemory.Proofs.Text.Places
/-!
# The order of identifiers

The bytes and the digits of an identifier are places of its number, so both are compared like the
number, and the hyphens change nothing, for they stand in the same places of all texts. Whoever
sorts identifiers, their numbers or their texts gets the same sequence.
-/
namespace SharedMemory

private theorem Text.compare_eq_compareLex (s t : String) :
    compare s t = List.compareLex compare s.toList t.toList := by
  have hlists : ∀ xs ys : List Char, List.compareLex compare xs ys = compareOfLessAndEq xs ys := by
    intro xs
    induction xs with
    | nil =>
      intro ys
      cases ys <;> simp [List.compareLex, compareOfLessAndEq]
    | cons x xs ih =>
      intro ys
      cases ys with
      | nil => simp [List.compareLex, compareOfLessAndEq]
      | cons y ys =>
        rw [List.compareLex_cons_cons, ih]
        change (compareOfLessAndEq x y).then (compareOfLessAndEq xs ys) = _
        simp only [compareOfLessAndEq, List.cons_lt_cons_iff, List.cons.injEq]
        by_cases hlt : x < y
        · simp [hlt]
        · by_cases heq : x = y
          · simp [heq]
          · simp [hlt, heq]
  rw [hlists]
  change compareOfLessAndEq s t = _
  simp only [compareOfLessAndEq, String.lt_iff, String.toList_inj]

private theorem Text.isLE_compare_iff {s t : String} : (compare s t).isLE = true ↔ s ≤ t :=
  isLE_compareOfLessAndEq String.le_antisymm String.not_le String.le_total

namespace Hex

private theorem fixed_eq_places (width n : Nat) : fixed width n = places 16 digit width n := by
  induction width generalizing n with
  | zero => rfl
  | succ width ih => rw [fixed, places, ih]

private theorem compare_digit :
    ∀ d < 16, ∀ e < 16, compare (digit d) (digit e) = compare d e := by decide

private theorem compareLex_fixed {width m n : Nat} (hm : m < 16 ^ width) (hn : n < 16 ^ width) :
    List.compareLex compare (fixed width m) (fixed width n) = compare m n := by
  rw [fixed_eq_places, fixed_eq_places]
  exact places.compareLex_places (by decide) compare_digit hm hn

/-- The digits that are written. -/
def lowerDigits : List Char := "0123456789abcdef".toList

private theorem mem_lowerDigits_of_mem_fixed (width n : Nat) :
    ∀ c ∈ fixed width n, c ∈ lowerDigits := by
  rw [fixed_eq_places]
  exact places.forall_mem_places (by decide) (by decide) n

end Hex

namespace Guid

/-- The identifier that is stored in some bytes, most significant first. -/
def ofBytes (bs : List UInt8) : Guid := ofNat (bs.foldl (fun n b => 256 * n + b.toNat) 0)

private theorem toNat_byte : ∀ d < 256, (UInt8.ofNat d).toNat = d := by
  intro d hd
  rw [UInt8.toNat_ofNat']
  exact Nat.mod_eq_of_lt hd

private theorem ofBytes_bytes (g : Guid) : ofBytes g.bytes = g := by
  have hlt : g.number.toNat < 256 ^ 16 := g.number.isLt
  rw [ofBytes, bytes, places.foldl_places (by decide) toNat_byte, Nat.mod_eq_of_lt hlt,
    ofNat_number]

private theorem compare_eq_compare_number (a b : Guid) :
    a.compare b = Ord.compare a.number.toNat b.number.toNat := by
  have hbyte : ∀ d < 256, ∀ e < 256,
      Ord.compare (UInt8.ofNat d) (UInt8.ofNat e) = Ord.compare d e := by
    intro d hd e he
    change compareOfLessAndEq _ _ = compareOfLessAndEq _ _
    simp only [compareOfLessAndEq, UInt8.lt_iff_toNat_lt, ← UInt8.toNat_inj, toNat_byte d hd,
      toNat_byte e he]
  exact places.compareLex_places (by decide) hbyte a.number.isLt b.number.isLt

namespace Grouped

variable {cs cs' ds ds' : List Char}

theorem filter (h : Grouped cs ds) (hdigits : ∀ c ∈ ds, c ≠ '-') : cs.filter (· ≠ '-') = ds := by
  cases h with
  | @groups a b c d e =>
    have hkeep : ∀ xs : List Char, (∀ x ∈ xs, x ≠ '-') → xs.filter (· ≠ '-') = xs := by
      intro xs hxs
      exact List.filter_eq_self.mpr fun x hx => decide_eq_true (hxs x hx)
    simp only [List.mem_append] at hdigits
    have ha := hkeep a fun x hx => hdigits x (by simp [hx])
    have hb := hkeep b fun x hx => hdigits x (by simp [hx])
    have hc := hkeep c fun x hx => hdigits x (by simp [hx])
    have hd := hkeep d fun x hx => hdigits x (by simp [hx])
    have he := hkeep e fun x hx => hdigits x (by simp [hx])
    simp only [List.filter_append, List.filter_cons, ha, hb, hc, hd, he]
    simp

/-- The hyphens are in the same places, so the digits decide. -/
theorem compareLex (h : Grouped cs ds) (h' : Grouped cs' ds') :
    List.compareLex Ord.compare cs cs' = List.compareLex Ord.compare ds ds' := by
  have hhyphen : ∀ xs ys : List Char,
      List.compareLex Ord.compare ('-' :: xs) ('-' :: ys) = List.compareLex Ord.compare xs ys := by
    intro xs ys
    rw [List.compareLex_cons_cons]
    rfl
  cases h with
  | groups ha hb hc hd he =>
    cases h' with
    | groups ha' hb' hc' hd' he' =>
      simp only [List.append_assoc, List.cons_append]
      rw [compareLex_append (ha.trans ha'.symm), compareLex_append (ha.trans ha'.symm), hhyphen,
        compareLex_append (hb.trans hb'.symm), compareLex_append (hb.trans hb'.symm), hhyphen,
        compareLex_append (hc.trans hc'.symm), compareLex_append (hc.trans hc'.symm), hhyphen,
        compareLex_append (hd.trans hd'.symm), compareLex_append (hd.trans hd'.symm), hhyphen]

end Grouped

private theorem grouped_text (g : Guid) : Grouped g.text.toList g.digits := by
  rw [text, String.toList_ofList]
  exact grouped_hyphenate g.length_digits

private theorem compare_text (a b : Guid) :
    Ord.compare a.text b.text = Ord.compare a.number.toNat b.number.toNat := by
  rw [Text.compare_eq_compareLex, a.grouped_text.compareLex b.grouped_text]
  exact Hex.compareLex_fixed a.number.isLt b.number.isLt

/-- The text of a number: 36 characters, of which four are hyphens between groups of 8, 4, 4, 4 and
12, and the others are lower-case digits that denote the number. -/
structure Denotes (text : String) (n : Nat) : Prop where
  length : text.length = 36
  grouped : Grouped text.toList (text.toList.filter (· ≠ '-'))
  lower : ∀ c ∈ text.toList.filter (· ≠ '-'), c ∈ Hex.lowerDigits
  value : Hex.value? (text.toList.filter (· ≠ '-')) = some n

private theorem denotes_text (g : Guid) : Denotes g.text g.number.toNat := by
  have hgrouped := g.grouped_text
  have hlower : ∀ c ∈ g.digits, c ∈ Hex.lowerDigits := Hex.mem_lowerDigits_of_mem_fixed 32 _
  have hfilter : g.text.toList.filter (· ≠ '-') = g.digits := by
    apply hgrouped.filter
    rintro c hc rfl
    exact absurd (hlower '-' hc) (by decide)
  refine ⟨?_, ?_, ?_, ?_⟩
  · rw [← String.length_toList]
    exact hgrouped.length
  · rw [hfilter]
    exact hgrouped
  · rw [hfilter]
    exact hlower
  · rw [hfilter]
    exact Hex.value?_fixed_of_lt g.number.isLt

private theorem text_injective : Function.Injective text := by
  intro a b h
  have hread := a.read?_text
  rw [h, b.read?_text] at hread
  exact (Option.some.inj hread).symm

private theorem map_sort {α : Type} [LE α] [DecidableLE α] {f : Guid → α}
    (hf : ∀ a b : Guid, (a.compare b).isLE = true ↔ f a ≤ f b) (gs : List Guid) :
    (sort gs).map f = (gs.map f).mergeSort := by
  apply List.map_mergeSort
  intro a _ b _
  exact Bool.eq_iff_iff.mpr ((hf a b).trans decide_eq_true_iff.symm)

theorem ofNat_toNat (a : BitVec 128) : (ofNat a.toNat).number = a :=
  congrArg number (ofNat_number ⟨a⟩)

/-- The number, the bytes, the text and the order of identifiers agree: the number of an identifier
and its bytes give the identifier back, no two have the same text, which denotes the number, and
identifiers, numbers and texts are in the same order and are sorted alike. -/
theorem number_text_order_agree :
    (∀ a : BitVec 128, (ofNat a.toNat).number = a ∧
      ofBytes (ofNat a.toNat).bytes = ofNat a.toNat ∧ Denotes (ofNat a.toNat).text a.toNat) ∧
    Function.Injective (fun a : BitVec 128 => (ofNat a.toNat).text) ∧
    (∀ a b : BitVec 128,
      (ofNat a.toNat).compare (ofNat b.toNat) = Ord.compare a.toNat b.toNat ∧
        Ord.compare (ofNat a.toNat).text (ofNat b.toNat).text = Ord.compare a.toNat b.toNat) ∧
    ∀ gs : List Guid, (sort gs).map (·.number.toNat) = (gs.map (·.number.toNat)).mergeSort ∧
      (sort gs).map text = (gs.map text).mergeSort := by
  refine ⟨fun a => ?_, ?_, fun a b => ?_, fun gs => ⟨?_, ?_⟩⟩
  · have hdenotes := denotes_text (ofNat a.toNat)
    rw [ofNat_toNat] at hdenotes
    exact ⟨ofNat_toNat a, ofBytes_bytes _, hdenotes⟩
  · intro a b h
    have hsame := text_injective h
    rw [← ofNat_toNat a, hsame, ofNat_toNat]
  · have hcompare := compare_eq_compare_number (ofNat a.toNat) (ofNat b.toNat)
    have htext := compare_text (ofNat a.toNat) (ofNat b.toNat)
    rw [ofNat_toNat, ofNat_toNat] at hcompare htext
    exact ⟨hcompare, htext⟩
  · apply map_sort
    intro a b
    rw [compare_eq_compare_number, Nat.isLE_compare]
  · apply map_sort
    intro a b
    rw [compare_eq_compare_number, ← compare_text, Text.isLE_compare_iff]

/-- A smaller number with the greater last byte. -/
example : (ofNat 0x1FF).compare (ofNat 0x200) = .lt := by decide

end Guid

end SharedMemory

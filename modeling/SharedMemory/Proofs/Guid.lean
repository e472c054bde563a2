import SharedMemory.Guid
import SharedMemory.Proofs.Text.Hex
/-!
# Identifiers are read back

The hyphenated digits of an identifier are 36 characters, and reading them gives the identifier. So
does reading any other of its accepted forms.
-/
namespace SharedMemory.Guid

theorem ofNat_number (g : Guid) : ofNat g.number.toNat = g := by
  rw [ofNat, BitVec.ofNat_toNat, BitVec.setWidth_eq]

theorem length_digits (g : Guid) : g.digits.length = 32 := Hex.length_fixed 32 _

private theorem ofDigits?_of_toLower {g : Guid} {ds : List Char}
    (h : ds.map Char.toLower = g.digits) :
    ds.length = 32 ∧ ofDigits? ds = some g := by
  have hlength : ds.length = 32 := by rw [← List.length_map (f := Char.toLower), h, length_digits]
  have hlt : g.number.toNat < 16 ^ 32 := g.number.isLt
  refine ⟨hlength, ?_⟩
  rw [ofDigits?, if_pos hlength, ← Hex.value?_map_toLower, h, digits, Hex.value?_fixed_of_lt hlt,
    Option.map_some, ofNat_number]

/-- Digits in groups of 8, 4, 4, 4 and 12 with hyphens between them, and the digits alone. -/
inductive Grouped : List Char → List Char → Prop where
  | groups {a b c d e : List Char} (ha : a.length = 8) (hb : b.length = 4) (hc : c.length = 4)
    (hd : d.length = 4) (he : e.length = 12) :
    Grouped (a ++ '-' :: b ++ '-' :: c ++ '-' :: d ++ '-' :: e) (a ++ b ++ c ++ d ++ e)

namespace Grouped

variable {cs ds : List Char}

theorem length (h : Grouped cs ds) : cs.length = 36 := by
  cases h with
  | groups ha hb hc hd he => simp [ha, hb, hc, hd, he]

theorem dehyphenate? (h : Grouped cs ds) : Guid.dehyphenate? cs = some ds := by
  cases h with
  | groups ha hb hc hd he =>
    simp [Guid.dehyphenate?, List.drop_append, List.drop_eq_nil_of_le, ha, hb, hc, hd, he]

end Grouped

theorem grouped_hyphenate {ds : List Char} (h : ds.length = 32) : Grouped (hyphenate ds) ds := by
  have hcut : ∀ m n, (ds.drop m).take n ++ ds.drop (m + n) = ds.drop m := fun m n => by
    rw [← List.drop_drop, List.take_append_drop]
  have h₁₆ : (ds.drop 16).take 4 ++ ds.drop 20 = ds.drop 16 := hcut 16 4
  have h₁₂ : (ds.drop 12).take 4 ++ ds.drop 16 = ds.drop 12 := hcut 12 4
  have h₈ : (ds.drop 8).take 4 ++ ds.drop 12 = ds.drop 8 := hcut 8 4
  have hgroups : ds.take 8 ++ (ds.drop 8).take 4 ++ (ds.drop 12).take 4 ++ (ds.drop 16).take 4 ++
      ds.drop 20 = ds := by
    rw [List.append_assoc, h₁₆, List.append_assoc, h₁₂, List.append_assoc, h₈,
      List.take_append_drop]
  have hgrouped := Grouped.groups (a := ds.take 8) (b := (ds.drop 8).take 4)
    (c := (ds.drop 12).take 4) (d := (ds.drop 16).take 4) (e := ds.drop 20)
    (by simp [h]) (by simp [h]) (by simp [h]) (by simp [h]) (by simp [h])
  rw [hgroups] at hgrouped
  exact hgrouped

private theorem ofHyphenated?_of_toLower {g : Guid} {ds : List Char}
    (h : ds.map Char.toLower = g.digits) :
    (hyphenate ds).length = 36 ∧ ofHyphenated? (hyphenate ds) = some g := by
  obtain ⟨hlength, hread⟩ := ofDigits?_of_toLower h
  have hgrouped := grouped_hyphenate hlength
  refine ⟨hgrouped.length, ?_⟩
  rw [ofHyphenated?, hgrouped.dehyphenate?, Option.bind_some, hread]

/-- The accepted forms of an identifier, with digits of either case. -/
inductive Spells (g : Guid) : List Char → Prop where
  | plain {ds : List Char} (hds : ds.map Char.toLower = g.digits) : Spells g ds
  | hyphenated {ds : List Char} (hds : ds.map Char.toLower = g.digits) : Spells g (hyphenate ds)
  | braced {ds : List Char} (hds : ds.map Char.toLower = g.digits) :
    Spells g ('{' :: (hyphenate ds ++ ['}']))
  | named {name ds : List Char} (hname : name.map Char.toLower = resourceName)
    (hds : ds.map Char.toLower = g.digits) : Spells g (name ++ hyphenate ds)

theorem Spells.read? {g : Guid} {cs : List Char} (h : Spells g cs) : Guid.read? cs = some g := by
  cases h with
  | plain hds =>
    obtain ⟨hlength, hread⟩ := ofDigits?_of_toLower hds
    rw [Guid.read?, if_pos hlength, hread]
  | hyphenated hds =>
    obtain ⟨hlength, hread⟩ := ofHyphenated?_of_toLower hds
    rw [Guid.read?, if_neg (by omega), if_pos hlength, hread]
  | @braced ds hds =>
    obtain ⟨hlength, hread⟩ := ofHyphenated?_of_toLower hds
    have hbraced : ('{' :: (hyphenate ds ++ ['}'])).length = 38 := by simp [hlength]
    have hlast : ('{' :: (hyphenate ds ++ ['}'])).getLast? = some '}' := by
      rw [← List.cons_append, List.getLast?_concat]
    rw [Guid.read?, if_neg (by omega), if_neg (by omega), if_pos ⟨hbraced, rfl, hlast⟩,
      List.drop_one, List.tail_cons, List.dropLast_concat, hread]
  | @named name ds hname hds =>
    obtain ⟨hlength, hread⟩ := ofHyphenated?_of_toLower hds
    have hnine : name.length = 9 := by
      rw [← List.length_map (f := Char.toLower), hname]
      rfl
    have hnamed : (name ++ hyphenate ds).length = 45 := by
      rw [List.length_append, hnine, hlength]
    have htake : (name ++ hyphenate ds).take 9 = name := by rw [← hnine, List.take_left]
    have hdrop : (name ++ hyphenate ds).drop 9 = hyphenate ds := by rw [← hnine, List.drop_left]
    rw [Guid.read?, if_neg (by omega), if_neg (by omega), if_neg (by omega),
      if_pos ⟨hnamed, by rw [htake, hname]⟩, hdrop, hread]

theorem spells_text (g : Guid) : Spells g g.text.toList := by
  rw [text, String.toList_ofList, chars]
  exact .hyphenated (Hex.map_toLower_fixed 32 _)

theorem read?_text (g : Guid) : read? g.text.toList = some g := (spells_text g).read?

end SharedMemory.Guid

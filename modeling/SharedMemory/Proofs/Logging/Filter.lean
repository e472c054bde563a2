import SharedMemory.Logging.Filter
/-!
# What a filter lets pass

The directives of a filter are in the order of their weights, and of those that cover a target the
last one decides. The most verbose level of a filter is looked at before its directives are. So it
must not be stricter than any of them, and it is the level of one of them.
-/
namespace SharedMemory

namespace Threshold

variable {t best : Threshold} {ts : List Threshold} {level : Level}

private def louder (best t : Threshold) : Threshold := if rank best < rank t then t else best

private theorem rank_le_louder (best t : Threshold) :
    best.rank ≤ rank (louder best t) ∧ t.rank ≤ rank (louder best t) := by
  unfold louder
  split <;> omega

private theorem rank_le_foldl (best : Threshold) (ts : List Threshold) :
    best.rank ≤ rank (ts.foldl louder best) ∧ ∀ t ∈ ts, t.rank ≤ rank (ts.foldl louder best) := by
  induction ts generalizing best with
  | nil => exact ⟨Nat.le_refl _, nofun⟩
  | cons t ts ih =>
    obtain ⟨hbest, hrest⟩ := ih (louder best t)
    obtain ⟨hleft, hright⟩ := rank_le_louder best t
    refine ⟨Nat.le_trans hleft hbest, fun t' ht' => ?_⟩
    rcases List.mem_cons.mp ht' with rfl | ht'
    · exact Nat.le_trans hright hbest
    · exact hrest t' ht'

private theorem foldl_mem (best : Threshold) (ts : List Threshold) :
    ts.foldl louder best = best ∨ ts.foldl louder best ∈ ts := by
  induction ts generalizing best with
  | nil => exact .inl rfl
  | cons t ts ih =>
    rcases ih (louder best t) with hbest | hmem
    · rw [List.foldl_cons, hbest, louder]
      split
      · exact .inr List.mem_cons_self
      · exact .inl rfl
    · exact .inr (List.mem_cons_of_mem _ hmem)

private theorem rank_le_max (ht : t ∈ ts) : t.rank ≤ rank (max ts) := (rank_le_foldl none ts).2 t ht

private theorem max_eq_none_or_mem (ts : List Threshold) : max ts = none ∨ max ts ∈ ts :=
  foldl_mem none ts

private theorem passes_mono {t' : Threshold} (hrank : t.rank ≤ t'.rank)
    (h : t.passes level = true) :
    t'.passes level = true := by
  rw [passes, decide_eq_true_eq] at h ⊢
  exact Nat.le_trans h hrank

private theorem not_passes_none (level : Level) : passes none level = false := by
  cases level <;> rfl

private theorem max_passes_iff :
    (max ts).passes level = true ↔ ∃ t ∈ ts, passes t level = true := by
  constructor
  · intro h
    rcases max_eq_none_or_mem ts with hnone | hmem
    · rw [hnone, not_passes_none] at h
      cases h
    · exact ⟨_, hmem, h⟩
  · rintro ⟨t, ht, h⟩
    exact passes_mono (rank_le_max ht) h

end Threshold

namespace Filter

variable {f : Filter} {level : Level} {target : String} {ds : List Directive} {text : Option String}

private theorem maxLevel_passes_iff :
    f.maxLevel.passes level = true ↔ ∃ d ∈ f.directives, d.threshold.passes level = true := by
  rw [maxLevel, Threshold.max_passes_iff]
  constructor
  · rintro ⟨_, ht, hpasses⟩
    obtain ⟨d, hd, rfl⟩ := List.mem_map.mp ht
    exact ⟨d, hd, hpasses⟩
  · rintro ⟨d, hd, hpasses⟩
    exact ⟨_, List.mem_map_of_mem hd, hpasses⟩

/-- The directives are in the order of their weights. -/
def Ordered (f : Filter) : Prop := f.directives.Pairwise fun a b => a.weight ≤ b.weight

/-- Of the directives that cover a target, one of the greatest weight decides. -/
theorem decides (hf : f.Ordered) (h : f.enables level target = true) :
    ∃ d ∈ f.directives, d.covers target = true ∧ d.threshold.passes level = true ∧
      ∀ e ∈ f.directives, e.covers target = true → e.weight ≤ d.weight := by
  rw [enables] at h
  split at h
  · rename_i d hd
    obtain ⟨hcovers, before, after, hsplit, hbefore⟩ := List.find?_eq_some_iff_append.mp hd
    have hmem : d ∈ f.directives := List.mem_reverse.mp (List.mem_of_find?_eq_some hd)
    refine ⟨d, hmem, hcovers, h, fun e he hcovers' => ?_⟩
    -- Back to front, what covers the target does not stand before `d`.
    have hparts : f.directives.reverse.Pairwise fun a b => b.weight ≤ a.weight :=
      List.pairwise_reverse.mpr hf
    rw [hsplit] at hparts
    rcases List.mem_append.mp (hsplit ▸ List.mem_reverse.mpr he) with he | he
    · have hnot := hbefore e he
      rw [hcovers'] at hnot
      cases hnot
    · rcases List.mem_cons.mp he with rfl | he
      · exact Nat.le_refl _
      · exact (List.pairwise_cons.mp (List.pairwise_append.mp hparts).2.1).1 e he
  · cases h

/-- Whatever a filter enables passes its most verbose level. -/
theorem maxLevel_passes_of_enables (h : f.enables level target = true) :
    f.maxLevel.passes level = true := by
  rw [enables] at h
  split at h
  · rename_i d hd
    exact maxLevel_passes_iff.mpr ⟨d, List.mem_reverse.mp (List.mem_of_find?_eq_some hd), h⟩
  · cases h

private theorem ordered_ofDirectives (ds : List Directive) (text : Option String) :
    (ofDirectives ds text).Ordered := by
  refine (List.pairwise_mergeSort ?_ ?_ _).imp of_decide_eq_true
  · intro a b c hab hbc
    exact decide_eq_true (Nat.le_trans (of_decide_eq_true hab) (of_decide_eq_true hbc))
  · intro a b
    simp only [Bool.or_eq_true, decide_eq_true_eq]
    exact Nat.le_total _ _

theorem ordered_read (spec : String) : (read spec).1.Ordered := by
  unfold read
  split <;> exact ordered_ofDirectives _ _

end Filter

end SharedMemory

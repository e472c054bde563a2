import SharedMemory.Proofs.Json.Grammar
/-!
# Every value can be passed over

A value is passed over with all that is in it, however deep, and what comes after it is left. The
proof follows the grammar: in any brackets, the steps for a value lead to its end, and the steps for
the elements of a list or the members of an object lead to the end of the list or the object. There
are never more steps than characters.
-/
namespace SharedMemory.Json

variable {fuel : Nat} {brackets outer : List Bracket} {c : Char} {cs inner rest ws : List Char}

section Steps

attribute [local simp] skipSteps

private theorem skipSteps_scalar (h : skipBlanks cs = c :: inner)
    (hlist : c ≠ '[') (hobject : c ≠ '{') (hscalar : skipScalar? (c :: inner) = some rest) :
    skipSteps (fuel + 1) .value brackets cs = skipSteps fuel .afterValue brackets rest := by
  simp only [skipSteps, h]
  split
  · rename_i heq
    exact absurd (List.cons.inj heq).1 hlist
  · rename_i heq
    exact absurd (List.cons.inj heq).1 hobject
  · rw [hscalar]

theorem skip?_scalar (h : skipBlanks cs = c :: inner) (hlist : c ≠ '[') (hobject : c ≠ '{')
    (hscalar : skipScalar? (c :: inner) = some rest) : skip? cs = some rest := by
  rw [skip?, skipSteps_scalar h hlist hobject hscalar, skipSteps]

private theorem skipSteps_emptyList (h : skipBlanks cs = '[' :: inner)
    (hclose : skipBlanks inner = ']' :: rest) :
    skipSteps (fuel + 1) .value brackets cs = skipSteps fuel .afterValue brackets rest := by
  simp [h, hclose]

private theorem skipSteps_list (h : skipBlanks cs = '[' :: inner)
    (hopen : (skipBlanks inner).head? ≠ some ']') :
    skipSteps (fuel + 1) .value brackets cs = skipSteps fuel .value (.list :: brackets) inner := by
  simp only [skipSteps, h]
  split
  · rename_i heq
    exact absurd (by rw [heq]; rfl) hopen
  · rfl

private theorem skipSteps_emptyObject (h : skipBlanks cs = '{' :: inner)
    (hclose : skipBlanks inner = '}' :: rest) :
    skipSteps (fuel + 1) .value brackets cs = skipSteps fuel .afterValue brackets rest := by
  simp [h, hclose]

private theorem skipSteps_object (h : skipBlanks cs = '{' :: inner)
    (hopen : (skipBlanks inner).head? ≠ some '}') (hname : skipName? inner = some rest) :
    skipSteps (fuel + 1) .value brackets cs = skipSteps fuel .value (.object :: brackets) rest := by
  simp only [skipSteps, h, hname]
  split
  · rename_i heq
    exact absurd (by rw [heq]; rfl) hopen
  · rfl

theorem skip?_single {quoted colon value close v : List Char} {ps : List Piece}
    (hopen : skipBlanks cs = '{' :: inner) (hquote : skipBlanks inner = '"' :: quoted)
    (hname : pieces? quoted = some (ps, colon)) (hcolon : afterColon? colon = some value)
    (hvalue : skipBlanks value = c :: v) (hlist : c ≠ '[') (hobject : c ≠ '{')
    (hscalar : skipScalar? (c :: v) = some close) (hclose : skipBlanks close = '}' :: rest) :
    skip? cs = some rest := by
  have hskip : skipName? inner = some value := by
    simp only [skipName?, hquote, hname, hcolon]
  have hfront : (skipBlanks inner).head? ≠ some '}' := by
    rw [hquote]
    exact nofun
  obtain ⟨n, hn⟩ : ∃ n, cs.length + 2 = n + 4 := by
    have hcs : (skipBlanks cs).length ≤ cs.length := (List.dropWhile_sublist _).length_le
    have hinner : (skipBlanks inner).length ≤ inner.length := (List.dropWhile_sublist _).length_le
    rw [hopen, List.length_cons] at hcs
    rw [hquote, List.length_cons] at hinner
    exact ⟨cs.length - 2, by omega⟩
  rw [skip?, hn, skipSteps_object hopen hfront hskip, skipSteps_scalar hvalue hlist hobject hscalar,
    skipSteps.eq_6 _ _ _ _ hclose, skipSteps.eq_2]

private theorem skipSteps_comma (h : skipBlanks cs = ',' :: inner)
    (hname : skipName? inner = some rest) :
    skipSteps (fuel + 1) .afterValue (.object :: outer) cs =
      skipSteps fuel .value (.object :: outer) rest := by
  rw [skipSteps.eq_5 _ _ _ _ h, hname]

private theorem skipSteps_blanks (hws : Blanks ws) (cs : List Char) :
    skipSteps fuel .value brackets (ws ++ cs) = skipSteps fuel .value brackets cs := by
  cases fuel with
  | zero => rfl
  | succ fuel => simp [skipBlanks_append hws]

end Steps

/-- What stands in front of a value is neither a blank nor the end of a list or an object. -/
theorem Phrase.front {v : List Char} (h : Phrase .value v) :
    ∃ c cs, v = c :: cs ∧ isBlank c = false ∧ c ≠ ']' ∧ c ≠ '}' := by
  cases h with
  | number h =>
    obtain ⟨c, cs, rfl, hc⟩ := h.front
    exact ⟨c, cs, rfl, isBlank_of_startsNumber hc, ne_of_startsNumber hc rfl,
      ne_of_startsNumber hc rfl⟩
  | word h =>
    simp only [words, List.mem_cons, List.not_mem_nil, or_false] at h
    rcases h with rfl | rfl | rfl
    all_goals exact ⟨_, _, rfl, by decide⟩
  | string | emptyList | list | emptyObject | object =>
    exact ⟨_, _, rfl, by decide⟩

theorem skipScalar?_number (hc : startsNumber c = true) (cs : List Char) :
    skipScalar? (c :: cs) = (NumberText.read? (c :: cs)).map (·.2) := by
  have hne : ∀ x, startsNumber x = false → ∀ rest, c :: cs = x :: rest → False :=
    fun x hx _ heq => ne_of_startsNumber hc hx (List.cons.inj heq).1
  exact skipScalar?.eq_5 _ (hne 'n' rfl) (hne 't' rfl) (hne 'f' rfl) (hne '"' rfl)

private theorem skipScalar?_append {v : List Char} (h : Phrase .value v)
    (hlist : v.head? ≠ some '[')
    (hobject : v.head? ≠ some '{') (hrest : Ends rest) : skipScalar? (v ++ rest) = some rest := by
  cases h with
  | word h =>
    simp only [words, List.mem_cons, List.not_mem_nil, or_false] at h
    rcases h with rfl | rfl | rfl
    all_goals rfl
  | number h =>
    obtain ⟨t, ht⟩ := NumberText.read?_append h hrest
    obtain ⟨c, cs, rfl, hc⟩ := h.front
    rw [List.cons_append, skipScalar?_number hc, ← List.cons_append, ht, Option.map_some]
  | string h =>
    obtain ⟨ps, hps⟩ := h.pieces? rest
    rw [inQuotes_append]
    change (pieces? _).map (·.2) = some rest
    rw [hps, Option.map_some]
  | emptyList | list => exact absurd rfl hlist
  | emptyObject | object => exact absurd rfl hobject

section Padding

variable {v text body name : List Char}

theorem Padded.skipBlanks (h : Padded (c :: inner) text) (hc : isBlank c = false)
    (rest : List Char) :
    ∃ after, Blanks after ∧ Json.skipBlanks (text ++ rest) = c :: (inner ++ (after ++ rest)) := by
  obtain ⟨before, after, hbefore, hafter, rfl⟩ := h
  refine ⟨after, hafter, ?_⟩
  rw [List.append_assoc, skipBlanks_append hbefore, List.cons_append, List.cons_append,
    skipBlanks_cons hc, List.append_assoc]

theorem afterColon?_blanks (hws : Blanks ws) (rest : List Char) :
    afterColon? (ws ++ ':' :: rest) = some rest := by
  simp only [afterColon?, skipBlanks_front hws (c := ':') rfl]

private theorem skipName?_append (hbody : StringBody body) (hname : Padded (inQuotes body) name)
    (rest : List Char) : skipName? (name ++ ':' :: rest) = some rest := by
  obtain ⟨before, after, hbefore, hafter, rfl⟩ := hname
  obtain ⟨ps, hps⟩ := hbody.pieces? (after ++ ':' :: rest)
  rw [List.append_assoc, List.append_assoc, inQuotes_append, skipName?, skipBlanks_append hbefore]
  simp only [skipBlanks_cons (c := '"') rfl, hps, afterColon?_blanks hafter]

end Padding

/-- The steps over a text of JSON, in whatever brackets it stands. -/
def Skips : Part → List Char → Prop
  | .value, v => ∃ n ≤ v.length, ∀ fuel brackets rest, Ends rest →
      skipSteps (n + fuel) .value brackets (v ++ rest) = skipSteps fuel .afterValue brackets rest
  | .elements, text => ∃ n ≤ text.length, ∀ fuel outer rest,
      skipSteps (n + 1 + fuel) .value (.list :: outer) (text ++ ']' :: rest) =
        skipSteps fuel .afterValue outer rest
  | .members, text => ∃ n ≤ text.length, ∀ fuel outer rest, ∃ inner,
      skipName? (text ++ '}' :: rest) = some inner ∧
        skipSteps (n + 1 + fuel) .value (.object :: outer) inner =
          skipSteps fuel .afterValue outer rest

variable {v text : List Char}

private theorem Phrase.elements_front (h : Phrase .elements text) (rest : List Char) :
    (skipBlanks (text ++ rest)).head? ≠ some ']' := by
  have hpadded : ∀ {v text}, Phrase .value v → Padded v text → ∀ rest,
      (skipBlanks (text ++ rest)).head? ≠ some ']' := by
    intro v text hv hpad rest hclose
    obtain ⟨c, cs, rfl, hblank, hlist, -⟩ := hv.front
    obtain ⟨after, -, hskip⟩ := hpad.skipBlanks hblank rest
    rw [hskip] at hclose
    exact hlist (Option.some.inj hclose)
  cases h with
  | element hv hpad => exact hpadded hv hpad rest
  | elements hv hpad =>
    rw [List.append_assoc]
    exact hpadded hv hpad _

private theorem Phrase.members_front (h : Phrase .members text) (rest : List Char) :
    (skipBlanks (text ++ rest)).head? ≠ some '}' := by
  have hpadded : ∀ {body name}, Padded (inQuotes body) name → ∀ rest,
      (skipBlanks (name ++ rest)).head? ≠ some '}' := by
    intro body name hname rest hclose
    obtain ⟨after, -, hskip⟩ := hname.skipBlanks rfl rest
    rw [hskip] at hclose
    cases hclose
  cases h with
  | member _ hname =>
    rw [List.append_assoc]
    exact hpadded hname _
  | members _ hname =>
    rw [List.append_assoc]
    exact hpadded hname _

private theorem skips_scalar (h : Phrase .value v) (hlist : v.head? ≠ some '[')
    (hobject : v.head? ≠ some '{') : Skips .value v := by
  obtain ⟨c, cs, rfl, hblank, -, -⟩ := h.front
  refine ⟨1, Nat.succ_le_succ (Nat.zero_le _), fun fuel brackets rest hrest => ?_⟩
  rw [Nat.add_comm]
  refine skipSteps_scalar (skipBlanks_cons hblank _) ?_ ?_
    (skipScalar?_append h hlist hobject hrest)
  · rintro rfl
    exact hlist rfl
  · rintro rfl
    exact hobject rfl

theorem Skips.padded (h : Skips .value v) (hpad : Padded v text) :
    ∃ n ≤ text.length, ∃ after, Blanks after ∧ ∀ fuel brackets rest, Ends rest →
      skipSteps (n + fuel) .value brackets (text ++ rest) =
        skipSteps fuel .afterValue brackets (after ++ rest) := by
  obtain ⟨n, hn, hsteps⟩ := h
  refine ⟨n, Nat.le_trans hn hpad.length_le, ?_⟩
  obtain ⟨before, after, hbefore, hafter, rfl⟩ := hpad
  refine ⟨after, hafter, fun fuel brackets rest hrest => ?_⟩
  rw [List.append_assoc, skipSteps_blanks hbefore, List.append_assoc]
  exact hsteps fuel brackets _ (hrest.blanks hafter)

private theorem Phrase.skips {part : Part} (h : Phrase part text) : Skips part text := by
  induction h with
  | word h =>
    refine skips_scalar (.word h) ?_ ?_
    all_goals
      simp only [words, List.mem_cons, List.not_mem_nil, or_false] at h
      rcases h with rfl | rfl | rfl
      all_goals decide
  | number h =>
    obtain ⟨c, cs, rfl, hc⟩ := h.front
    refine skips_scalar (.number h) ?_ ?_
    · exact fun heq => ne_of_startsNumber hc (x := '[') rfl (Option.some.inj heq)
    · exact fun heq => ne_of_startsNumber hc (x := '{') rfl (Option.some.inj heq)
  | string h => exact skips_scalar (.string h) nofun nofun
  | @emptyList ws hws =>
    refine ⟨1, by simp, fun fuel brackets rest _ => ?_⟩
    rw [Nat.add_comm, List.cons_append, List.append_assoc, List.singleton_append]
    exact skipSteps_emptyList (skipBlanks_cons rfl _) (skipBlanks_front hws rfl _)
  | @list text h ih =>
    obtain ⟨n, hn, hsteps⟩ := ih
    refine ⟨n + 2, by simp; omega, fun fuel brackets rest _ => ?_⟩
    have hfuel : n + 2 + fuel = (n + 1 + fuel) + 1 := by omega
    rw [hfuel, List.cons_append, List.append_assoc, List.singleton_append,
      skipSteps_list (skipBlanks_cons rfl _) (h.elements_front _)]
    exact hsteps fuel brackets rest
  | @emptyObject ws hws =>
    refine ⟨1, by simp, fun fuel brackets rest _ => ?_⟩
    rw [Nat.add_comm, List.cons_append, List.append_assoc, List.singleton_append]
    exact skipSteps_emptyObject (skipBlanks_cons rfl _) (skipBlanks_front hws rfl _)
  | @object text h ih =>
    obtain ⟨n, hn, hsteps⟩ := ih
    refine ⟨n + 2, by simp; omega, fun fuel brackets rest _ => ?_⟩
    have hfuel : n + 2 + fuel = (n + 1 + fuel) + 1 := by omega
    obtain ⟨inner, hname, hinner⟩ := hsteps fuel brackets rest
    rw [hfuel, List.cons_append, List.append_assoc, List.singleton_append,
      skipSteps_object (skipBlanks_cons rfl _) (h.members_front _) hname]
    exact hinner
  | element _ hpad ih =>
    obtain ⟨n, hn, after, hafter, hvalue⟩ := ih.padded hpad
    refine ⟨n, hn, fun fuel outer rest => ?_⟩
    rw [Nat.add_assoc, hvalue _ _ _ (ends_cons (by decide)), Nat.add_comm]
    exact skipSteps.eq_4 _ _ _ _ (skipBlanks_front hafter rfl _)
  | @elements v text rest _ hpad _ ih ihrest =>
    obtain ⟨n, hn, after, hafter, hvalue⟩ := ih.padded hpad
    obtain ⟨m, hm, hrest⟩ := ihrest
    refine ⟨n + 1 + m, by simp; omega, fun fuel outer rest' => ?_⟩
    have hfuel : n + 1 + m + 1 + fuel = n + ((m + 1 + fuel) + 1) := by omega
    rw [hfuel, List.append_assoc, List.cons_append, hvalue _ _ _ (ends_cons (by decide)),
      skipSteps.eq_3 _ _ _ (rest ++ ']' :: rest')]
    · exact hrest fuel outer rest'
    · rw [skipBlanks_front hafter rfl]
  | @member body name v text hbody hname _ hpad ih =>
    obtain ⟨n, hn, after, hafter, hvalue⟩ := ih.padded hpad
    refine ⟨n, by simp; omega, fun fuel outer rest => ⟨text ++ '}' :: rest, ?_, ?_⟩⟩
    · rw [List.append_assoc, List.cons_append]
      exact skipName?_append hbody hname _
    · rw [Nat.add_assoc, hvalue _ _ _ (ends_cons (by decide)), Nat.add_comm]
      exact skipSteps.eq_6 _ _ _ _ (skipBlanks_front hafter rfl _)
  | @members body name v text rest hbody hname _ hpad _ ih ihrest =>
    obtain ⟨n, hn, after, hafter, hvalue⟩ := ih.padded hpad
    obtain ⟨m, hm, hrest⟩ := ihrest
    refine ⟨n + 1 + m, by simp; omega, fun fuel outer rest' => ?_⟩
    obtain ⟨inner, hnext, hinner⟩ := hrest fuel outer rest'
    refine ⟨text ++ (',' :: (rest ++ '}' :: rest')), ?_, ?_⟩
    · rw [List.append_assoc, List.cons_append, List.append_assoc, List.cons_append]
      exact skipName?_append hbody hname _
    · have hfuel : n + 1 + m + 1 + fuel = n + ((m + 1 + fuel) + 1) := by omega
      rw [hfuel, hvalue _ _ _ (ends_cons (by decide)), skipSteps_comma _ hnext]
      · exact hinner
      · rw [skipBlanks_front hafter rfl]

/-- A value of JSON is passed over, with the blanks before it, and nothing else is. -/
theorem Phrase.skip? (h : Phrase .value v) (hws : Blanks ws) (hrest : Ends rest) :
    Json.skip? (ws ++ (v ++ rest)) = some rest := by
  obtain ⟨n, hn, hsteps⟩ := h.skips
  have hfuel : (ws ++ (v ++ rest)).length + 2 =
      n + ((ws.length + (v.length - n) + rest.length + 1) + 1) := by
    simp only [List.length_append]
    omega
  rw [Json.skip?, hfuel, skipSteps_blanks hws, hsteps _ _ _ hrest, skipSteps.eq_2]

end SharedMemory.Json

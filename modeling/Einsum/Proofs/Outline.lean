import Einsum.Proofs.Scan

namespace Einsum

section

variable {word cs before after : List Char}

theorem findWord?_le (h : cs = before ++ (word ++ after)) :
    ∃ n ≤ before.length, findWord? word cs = some n := by
  induction before generalizing cs with
  | nil =>
    have hw : word <+: cs := ⟨after, h.symm⟩
    refine ⟨0, Nat.le_refl 0, ?_⟩
    cases cs with
    | nil => rw [findWord?, if_pos (List.isEmpty_iff.mpr (List.prefix_nil.mp hw))]
    | cons c cs => rw [findWord?, if_pos (List.isPrefixOf_iff_prefix.mpr hw)]
  | cons c before ih =>
    subst h
    obtain ⟨n, hn, hf⟩ := ih rfl
    rw [List.cons_append, findWord?, hf]
    split
    next => exact ⟨0, Nat.zero_le _, rfl⟩
    next => exact ⟨n + 1, Nat.succ_le_succ hn, rfl⟩

theorem findWord?_ne_none (h : cs = before ++ (word ++ after)) : findWord? word cs ≠ none := by
  obtain ⟨n, -, hn⟩ := findWord?_le h
  rw [hn]
  exact Option.some_ne_none n

end

def Opens (ts : List Token) : Prop := ∀ t ∈ ts.getLast?, t = .comma

theorem opens_nil : Opens [] := by
  intro t ht
  cases ht

theorem opens_cons {t : Token} {ts : List Token} :
    Opens (t :: ts) ↔ Opens ts ∧ (ts = [] → t = .comma) := by
  cases ts with
  | nil => simp [Opens]
  | cons u us => simp [Opens]

theorem Opens.comma_mem {ts : List Token} (h : Opens ts) (hne : ts ≠ []) : .comma ∈ ts :=
  h _ (List.getLast?_eq_some_getLast hne) ▸ List.getLast_mem hne

/-- The groups between commas that are empty: nothing stands between where they start and the comma,
or the end, behind them. -/
theorem getElem?_splitLexemes {xs : List Lexeme} {k : Nat} :
    (splitLexemes .comma xs)[k]? = some [] ↔
      ∃ us vs, xs = us ++ vs ∧ Opens (us.map Lexeme.token) ∧
        (us.map Lexeme.token).count .comma = k ∧ ∀ y ∈ vs.head?, y.token = .comma := by
  fun_induction splitLexemes Token.comma xs generalizing k with
  | case1 =>
    cases k with
    | zero => exact ⟨fun _ => ⟨[], [], rfl, opens_nil, rfl, by simp⟩, fun _ => rfl⟩
    | succ k =>
      refine ⟨fun h => (by cases h), ?_⟩
      rintro ⟨us, vs, he, -, hk, -⟩
      rw [(List.append_eq_nil_iff.mp he.symm).1] at hk
      cases hk
  | case2 x xs hx ih =>
    cases k with
    | zero =>
      exact ⟨fun _ => ⟨[], x :: xs, rfl, opens_nil, rfl, by simp [hx]⟩, fun _ => rfl⟩
    | succ k =>
      rw [List.getElem?_cons_succ, ih]
      constructor
      · rintro ⟨us, vs, rfl, ho, hk, hv⟩
        refine ⟨x :: us, vs, rfl, opens_cons.mpr ⟨ho, fun _ => hx⟩, ?_, hv⟩
        rw [List.map_cons, hx, List.count_cons_self, hk]
      · rintro ⟨us, vs, he, ho, hk, hv⟩
        cases us with
        | nil => cases hk
        | cons u us =>
          obtain ⟨rfl, rfl⟩ := List.cons.inj he
          rw [List.map_cons, hx, List.count_cons_self] at hk
          exact ⟨us, vs, rfl, (opens_cons.mp ho).1, Nat.succ.inj hk, hv⟩
  | case3 x xs _ hs => exact absurd hs (splitLexemes_ne_nil _ xs)
  | case4 x xs hx g gs hs ih =>
    -- A label is in the first group, so that one is not empty and the other ones are as without it.
    rw [hs] at ih
    cases k with
    | zero =>
      refine ⟨fun h => (by cases h), ?_⟩
      rintro ⟨us, vs, he, ho, hk, hv⟩
      cases us with
      | nil =>
        subst he
        exact absurd (hv x rfl) hx
      | cons u us =>
        obtain ⟨rfl, -⟩ := List.cons.inj he
        obtain ⟨ho, hn⟩ := opens_cons.mp ho
        exact absurd (List.mem_cons_of_mem _ (ho.comma_mem fun he => hx (hn he)))
          (List.count_eq_zero.mp hk)
    | succ k =>
      rw [List.getElem?_cons_succ, ← List.getElem?_cons_succ, ih]
      constructor
      · rintro ⟨us, vs, rfl, ho, hk, hv⟩
        refine ⟨x :: us, vs, rfl, opens_cons.mpr ⟨ho, fun hn => ?_⟩, ?_, hv⟩
        · rw [hn] at hk
          cases hk
        · rw [List.map_cons, List.count_cons_of_ne hx, hk]
      · rintro ⟨us, vs, he, ho, hk, hv⟩
        cases us with
        | nil => cases hk
        | cons u us =>
          obtain ⟨rfl, rfl⟩ := List.cons.inj he
          rw [List.map_cons, List.count_cons_of_ne hx] at hk
          exact ⟨us, vs, rfl, (opens_cons.mp ho).1, hk, hv⟩

theorem getElem?_inputs {xs : List Lexeme} {k : Nat} :
    (Outline.ofLexemes xs).inputs[k]? = some [] ↔
      ∃ us vs, xs = us ++ vs ∧ (∀ x ∈ us, x.token ≠ .arrow) ∧
        Opens (us.map Lexeme.token) ∧
        (us.map Lexeme.token).count .comma = k ∧ ∀ y ∈ vs.head?, y.token = .comma ∨
          y.token = .arrow := by
  rw [Outline.ofLexemes, getElem?_splitLexemes]
  constructor
  · rintro ⟨us, vs, he, ho, hk, hv⟩
    refine ⟨us, vs ++ xs.dropWhile (·.token ≠ .arrow), ?_, fun x hx => ?_, ho, hk, ?_⟩
    · rw [← List.append_assoc, ← he, List.takeWhile_append_dropWhile]
    · have hm : x ∈ xs.takeWhile (·.token ≠ .arrow) := by
        rw [he]
        exact List.mem_append_left vs hx
      simpa using List.mem_takeWhile_imp hm
    · cases vs with
      | nil =>
        intro y hy
        have hn := List.head?_dropWhile_not (·.token ≠ .arrow) xs
        rw [List.nil_append] at hy
        rw [hy] at hn
        exact .inr (by simpa using hn)
      | cons v vs => exact fun y hy => .inl (hv y hy)
  · rintro ⟨us, vs, rfl, hu, ho, hk, hv⟩
    refine ⟨us, vs.takeWhile (·.token ≠ .arrow), ?_, ho, hk, ?_⟩
    · rw [List.takeWhile_append_of_pos fun x hx => by simpa using hu x hx]
    · cases vs with
      | nil => exact fun y hy => absurd hy (Option.not_mem_none y)
      | cons v vs =>
        intro y hy
        by_cases ha : v.token = .arrow
        · simp [ha] at hy
        · rw [List.takeWhile_cons_of_pos (by simpa using ha)] at hy
          cases hy
          exact (hv v rfl).resolve_right ha

section

variable {xs us vs : List Lexeme} {y : Lexeme} {cs : List Char} {k : Nat}

theorem length_filter_comma (us : List Lexeme) :
    (us.filter (·.token = .comma)).length = (us.map Lexeme.token).count .comma := by
  rw [List.count_eq_countP, List.countP_map, List.countP_eq_length_filter]
  rfl

theorem emptySpan_of_comma (hk : (us.map Lexeme.token).count .comma = k) (hy : y.token = .comma) :
    (Outline.ofLexemes (us ++ y :: vs)).emptySpan cs k = y.span := by
  have hc : (Outline.ofLexemes (us ++ y :: vs)).commas[k]? = some y := by
    rw [← length_filter_comma] at hk
    simp [Outline.ofLexemes, hy, ← hk]
  rw [Outline.emptySpan, hc]

-- The commas of these lexemes end the groups before the one in question.
theorem commas_eq_none (hk : (us.map Lexeme.token).count .comma = k)
    (hv : ∀ x ∈ vs, x.token ≠ .comma) :
    (Outline.ofLexemes (us ++ vs)).commas[k]? = none := by
  have hn : vs.filter (·.token = .comma) = [] := List.filter_eq_nil_iff.mpr fun x hx => by
    simpa using hv x hx
  rw [Outline.ofLexemes, List.filter_append, hn, List.append_nil, List.getElem?_eq_none_iff,
    length_filter_comma, hk]

theorem emptySpan_of_arrow (hk : (us.map Lexeme.token).count .comma = k)
    (hu : ∀ x ∈ us, x.token ≠ .arrow) (hy : y.token = .arrow)
    (hv : ∀ x ∈ vs, x.token ≠ .comma) :
    (Outline.ofLexemes (us ++ y :: vs)).emptySpan cs k = y.span := by
  have hc := commas_eq_none hk (List.forall_mem_cons.mpr ⟨by rw [hy]; decide, hv⟩)
  have ha : (Outline.ofLexemes (us ++ y :: vs)).arrows = y :: vs.filter (·.token = .arrow) := by
    have hn : us.filter (·.token = .arrow) = [] := List.filter_eq_nil_iff.mpr fun x hx => by
      simpa using hu x hx
    simp [Outline.ofLexemes, hn, hy]
  rw [Outline.emptySpan, hc, ha]

theorem emptySpan_of_end (hk : (us.map Lexeme.token).count .comma = k)
    (hu : ∀ x ∈ us, x.token ≠ .arrow) :
    (Outline.ofLexemes us).emptySpan cs k = .ofOffset (Text.trimRight cs).length 1 := by
  have hc := commas_eq_none hk (List.forall_mem_nil fun x : Lexeme => x.token ≠ .comma)
  rw [List.append_nil] at hc
  rw [Outline.emptySpan, hc, (outline_of_forall_ne hu).2]

theorem exists_of_find?_placedLabels {p : Label × Nat → Bool} {l : Label} {n : Nat}
    (h : (placedLabels xs).find? p = some (l, n)) :
    p (l, n) = true ∧ ∃ us vs, xs = us ++ ⟨.label l, n⟩ :: vs ∧
      ∀ x ∈ us, ∀ m, x.token = .label m → p (m, x.offset) = false := by
  fun_induction placedLabels xs with
  | case1 => cases h
  | case2 m offset xs ih =>
    rw [List.find?_cons] at h
    split at h
    next hp =>
      cases h
      exact ⟨hp, [], xs, rfl, by simp⟩
    next hp =>
      obtain ⟨hl, us, vs, rfl, hu⟩ := ih h
      refine ⟨hl, ⟨.label m, offset⟩ :: us, vs, rfl, List.forall_mem_cons.mpr ⟨?_, hu⟩⟩
      intro m' hm
      cases hm
      exact hp
  | case3 x xs hx ih =>
    obtain ⟨hl, us, vs, rfl, hu⟩ := ih h
    refine ⟨hl, x :: us, vs, rfl, List.forall_mem_cons.mpr ⟨?_, hu⟩⟩
    intro m hm
    exact absurd (by cases x; simp_all) (hx m x.offset)

theorem mem_flatten_labelsOf (hx : ∀ x ∈ xs, x.token ≠ .arrow) {l : Label} :
    l ∈ ((splitLexemes .comma xs).map labelsOf).flatten ↔ .label l ∈ xs.map Lexeme.token := by
  constructor
  · intro hl
    obtain ⟨_, hm, hl⟩ := List.mem_flatten.mp hl
    obtain ⟨g, hg, rfl⟩ := List.mem_map.mp hm
    obtain ⟨x, hm, ht⟩ := mem_labelsOf.mp hl
    exact List.mem_map.mpr ⟨x, (of_mem_splitLexemes hg hm).1, ht⟩
  · intro hl
    rw [map_token_eq_groupTokens hx] at hl
    rcases mem_groupTokens hl with hc | ⟨g, hg, m, hm, he⟩
    · cases hc
    · cases he
      exact List.mem_flatten.mpr ⟨g, hg, hm⟩

end

end Einsum

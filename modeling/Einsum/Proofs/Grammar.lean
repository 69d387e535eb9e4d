import Einsum.Proofs.Name
import Einsum.Proofs.Token

namespace Einsum

def groupTokens : List Group → List Token
  | [] => []
  | [g] => g.map .label
  | g :: gs => g.map .label ++ .comma :: groupTokens gs

theorem flatMap_chars_label (g : Group) : (g.map Token.label).flatMap Token.chars = g := by
  rw [List.flatMap_map]
  exact List.flatMap_singleton' g

theorem flatMap_chars_groupTokens (gs : List Group) :
    (groupTokens gs).flatMap Token.chars = joinGroups gs := by
  fun_induction groupTokens gs with
  | case1 => rfl
  | case2 g => exact flatMap_chars_label g
  | case3 g gs hne ih =>
    rw [List.flatMap_append, flatMap_chars_label, List.flatMap_cons, ih,
      Subscripts.joinGroups_cons hne]
    rfl

theorem groupTokens_cons {g : Group} {gs : List Group} (h : gs ≠ []) :
    groupTokens (g :: gs) = g.map .label ++ .comma :: groupTokens gs := by
  cases gs with
  | nil => exact absurd rfl h
  | cons => rfl

theorem mem_groupTokens {gs : List Group} {t : Token} (h : t ∈ groupTokens gs) :
    t = .comma ∨ ∃ g ∈ gs, ∃ l ∈ g, t = .label l := by
  fun_induction groupTokens gs with
  | case1 => exact absurd h List.not_mem_nil
  | case2 g =>
    obtain ⟨l, hl, rfl⟩ := List.mem_map.mp h
    exact .inr ⟨g, List.mem_singleton_self g, l, hl, rfl⟩
  | case3 g gs _ ih =>
    rcases List.mem_append.mp h with h | h
    · obtain ⟨l, hl, rfl⟩ := List.mem_map.mp h
      exact .inr ⟨g, List.mem_cons_self, l, hl, rfl⟩
    · rcases List.mem_cons.mp h with h | h
      · exact .inl h
      · rcases ih h with h | ⟨k, hk, hl⟩
        · exact .inl h
        · exact .inr ⟨k, List.mem_cons_of_mem g hk, hl⟩

section

variable {separator : Token} {xs ys : List Lexeme}

theorem splitLexemes_of_forall_ne (h : ∀ x ∈ xs, x.token ≠ separator) :
    splitLexemes separator xs = [xs] := by
  induction xs with
  | nil => rfl
  | cons x xs ih =>
    rw [List.forall_mem_cons] at h
    simp only [splitLexemes, h.1, ih h.2]
    rfl

theorem splitLexemes_append (h : ∀ x ∈ xs, x.token ≠ separator) {y : Lexeme}
    (hy : y.token = separator) :
    splitLexemes separator (xs ++ y :: ys) = xs :: splitLexemes separator ys := by
  induction xs with
  | nil => rw [List.nil_append, splitLexemes, if_pos hy]
  | cons x xs ih =>
    rw [List.forall_mem_cons] at h
    rw [List.cons_append, splitLexemes, if_neg h.1, ih h.2]

theorem labelsOf_cons_label {x : Lexeme} {l : Label} (h : x.token = .label l) :
    labelsOf (x :: xs) = l :: labelsOf xs := by
  obtain ⟨t, offset⟩ := x
  subst h
  rfl

theorem map_token_eq_labelsOf (h : ∀ x ∈ xs, x.token ≠ .comma ∧ x.token ≠ .arrow) :
    xs.map Lexeme.token = (labelsOf xs).map .label := by
  induction xs with
  | nil => rfl
  | cons x xs ih =>
    rw [List.forall_mem_cons] at h
    cases hx : x.token with
    | label l => rw [labelsOf_cons_label hx, List.map_cons, List.map_cons, hx, ih h.2]
    | comma => exact absurd hx h.1.1
    | arrow => exact absurd hx h.1.2

theorem token_ne_of_map_label {g : Group} (h : xs.map Lexeme.token = g.map .label) :
    ∀ x ∈ xs, x.token ≠ .comma ∧ x.token ≠ .arrow := by
  intro x hx
  obtain ⟨l, -, hl⟩ :=
    List.mem_map.mp (h ▸ List.mem_map_of_mem hx : x.token ∈ g.map Token.label)
  rw [← hl]
  exact ⟨nofun, nofun⟩

theorem labelsOf_of_map_token {g : Group} (h : xs.map Lexeme.token = g.map .label) :
    labelsOf xs = g := by
  have hi : Function.Injective Token.label := fun _ _ he => Token.label.inj he
  exact hi.list_map ((map_token_eq_labelsOf (token_ne_of_map_label h)).symm.trans h)

theorem token_ne_arrow_of_groupTokens {gs : List Group} (h : xs.map Lexeme.token = groupTokens gs) :
    ∀ x ∈ xs, x.token ≠ .arrow := by
  intro x hx ha
  rcases mem_groupTokens (h ▸ List.mem_map_of_mem hx : x.token ∈ groupTokens gs) with
    hc | ⟨_, _, l, _, hl⟩
  · exact absurd (ha.symm.trans hc) (by decide)
  · exact absurd (ha.symm.trans hl) nofun

theorem map_token_eq_groupTokens (h : ∀ x ∈ xs, x.token ≠ .arrow) :
    xs.map Lexeme.token = groupTokens ((splitLexemes .comma xs).map labelsOf) := by
  fun_induction splitLexemes Token.comma xs with
  | case1 => rfl
  | case2 x xs hx ih =>
    rw [List.forall_mem_cons] at h
    have hne : (splitLexemes .comma xs).map labelsOf ≠ [] := by
      simpa using splitLexemes_ne_nil _ xs
    rw [List.map_cons, ih h.2, hx, List.map_cons, groupTokens_cons hne]
    rfl
  | case3 x xs _ hs => exact absurd hs (splitLexemes_ne_nil _ xs)
  | case4 x xs hx g gs hs ih =>
    rw [List.forall_mem_cons] at h
    rw [hs] at ih
    cases hl : x.token with
    | label l =>
      rw [List.map_cons, ih h.2, hl, List.map_cons, List.map_cons, labelsOf_cons_label hl]
      cases gs with
      | nil => rfl
      | cons => rfl
    | comma => exact absurd hl hx
    | arrow => exact absurd hl h.1

theorem splitLexemes_of_groupTokens {gs : List Group} (hne : gs ≠ [])
    (h : xs.map Lexeme.token = groupTokens gs) :
    (splitLexemes .comma xs).map labelsOf = gs := by
  fun_induction groupTokens gs generalizing xs with
  | case1 => exact absurd rfl hne
  | case2 g =>
    rw [splitLexemes_of_forall_ne fun x hx => (token_ne_of_map_label h x hx).1, List.map_singleton,
      labelsOf_of_map_token h]
  | case3 g gs hgs ih =>
    obtain ⟨before, rest, rfl, hb, hr⟩ := List.map_eq_append_iff.mp h
    obtain ⟨y, after, rfl, hy, ha⟩ := List.map_eq_cons_iff.mp hr
    rw [splitLexemes_append (fun x hx => (token_ne_of_map_label hb x hx).1) hy, List.map_cons,
      labelsOf_of_map_token hb, ih hgs ha]

theorem ne_nil_of_map_labelsOf {ys : List (List Lexeme)} {gs : List Group}
    (h : ys.map labelsOf = gs) (hgs : ∀ g ∈ gs, g ≠ []) : ∀ y ∈ ys, y ≠ [] := by
  rintro y hy rfl
  exact hgs [] (h ▸ List.mem_map_of_mem hy : labelsOf [] ∈ gs) rfl

end

section

variable {xs before after : List Lexeme} {a : Lexeme}

theorem outline_of_forall_ne (h : ∀ x ∈ xs, x.token ≠ .arrow) :
    (Outline.ofLexemes xs).inputs = splitLexemes .comma xs ∧
      (Outline.ofLexemes xs).arrows = [] := by
  refine ⟨?_, List.filter_eq_nil_iff.mpr fun x hx => by simpa using h x hx⟩
  rw [Outline.ofLexemes, List.takeWhile_eq_self_iff.mpr fun x hx => by simpa using h x hx]

theorem outline_of_arrow (hb : ∀ x ∈ before, x.token ≠ .arrow) (ha : a.token = .arrow)
    (hc : ∀ x ∈ after, x.token ≠ .arrow) :
    (Outline.ofLexemes (before ++ a :: after)).inputs = splitLexemes .comma before ∧
      (Outline.ofLexemes (before ++ a :: after)).outputs = [after] ∧
        (Outline.ofLexemes (before ++ a :: after)).arrows = [a] := by
  refine ⟨?_, ?_, ?_⟩
  · rw [Outline.ofLexemes, List.takeWhile_append_of_pos fun x hx => by simpa using hb x hx]
    simp [ha]
  · rw [Outline.ofLexemes, splitLexemes_append hb ha, splitLexemes_of_forall_ne hc, List.tail_cons]
  · apply List.filter_eq_cons_iff.mpr
    refine ⟨before, after, rfl, fun x hx => by simpa using hb x hx, by simpa using ha, ?_⟩
    exact List.filter_eq_nil_iff.mpr fun x hx => by simpa using hc x hx

theorem exists_of_arrows (h : (Outline.ofLexemes xs).arrows = [a]) : ∃ before after,
    xs = before ++ a :: after ∧ (∀ x ∈ before, x.token ≠ .arrow) ∧ a.token = .arrow ∧
      ∀ x ∈ after, x.token ≠ .arrow := by
  obtain ⟨before, after, hx, hb, ha, hc⟩ := List.filter_eq_cons_iff.mp h
  refine ⟨before, after, hx, fun x hm => ?_, by simpa using ha, fun x hm => ?_⟩
  · simpa using hb x hm
  · simpa using List.filter_eq_nil_iff.mp hc x hm

theorem commaAfterArrow?_of_forall_ne (h : ∀ x ∈ xs, x.token ≠ .arrow) :
    commaAfterArrow? xs = none := by
  rw [commaAfterArrow?, List.dropWhile_eq_nil_iff.mpr fun x hx => by simpa using h x hx]
  rfl

theorem commaAfterArrow?_eq_find? (hb : ∀ x ∈ before, x.token ≠ .arrow)
    (ha : a.token = .arrow) :
    commaAfterArrow? (before ++ a :: after) =
      (after.find? (·.token = .comma)).map (·.offset) := by
  rw [commaAfterArrow?, List.dropWhile_append_of_pos fun x hx => by simpa using hb x hx]
  simp [ha]

theorem commaAfterArrow?_append (hb : ∀ x ∈ before, x.token ≠ .arrow)
    (ha : a.token = .arrow) :
    commaAfterArrow? (before ++ a :: after) = none ↔ ∀ x ∈ after, x.token ≠ .comma := by
  rw [commaAfterArrow?_eq_find? hb ha]
  simp

end

theorem Outline.expression_eq_ok_iff {o : Outline} {text : String} {e : Expression} :
    o.expression text = .ok e ↔ (∀ g ∈ o.inputs, g ≠ []) ∧
      ((o.arrows = [] ∧
        e = ⟨⟨o.inputs.map labelsOf, impliedOutput (o.inputs.map labelsOf)⟩,
          false, text⟩) ∨
        ∃ a, o.arrows = [a] ∧
          (∀ l ∈ labelsOf (o.outputs.headD []), l ∈ (o.inputs.map labelsOf).flatten) ∧
          e = ⟨⟨o.inputs.map labelsOf, labelsOf (o.outputs.headD [])⟩, true, text⟩) := by
  have hempty : o.inputs.findIdx? List.isEmpty = none ↔ ∀ g ∈ o.inputs, g ≠ [] := by
    simp [List.findIdx?_eq_none_iff]
  have hknown : (placedLabels (o.outputs.headD [])).find?
      (·.1 ∉ (o.inputs.map labelsOf).flatten) = none ↔
      ∀ l ∈ labelsOf (o.outputs.headD []), l ∈ (o.inputs.map labelsOf).flatten := by
    rw [List.find?_eq_none, labelsOf, List.forall_mem_map]
    simp
  rw [Outline.expression, ← hempty]
  dsimp only
  split
  next hi => simp [hi]
  next hi ha => simp [hi, ha]
  next hi ha => simp [hi, ha, eq_comm]
  next a hi ha =>
    rw [ha, ← hknown]
    split
    next hf =>
      rw [hf]
      simp
    next hf =>
      rw [hf, hi]
      simp only [true_and, List.cons_ne_nil, false_and, false_or, Except.ok.injEq]
      constructor
      · exact fun h => ⟨a, rfl, h.symm⟩
      · rintro ⟨b, -, h⟩
        exact h.symm

theorem parse_eq_ok_iff {text : String} {e : Expression} : parse text = .ok e ↔
    findWord? ellipsis text.toList = none ∧ commaAfterArrow? (scan 0 text.toList).1 = none ∧
      (scan 0 text.toList).2 = none ∧ (Outline.ofLexemes (scan 0 text.toList).1).expression text =
        .ok e := by
  rw [parse]
  dsimp only
  split
  next hf => simp [hf]
  next hf =>
    split
    next hc => simp [hc]
    next hc hs => simp [hs]
    next hc hs => simp [hf, hc, hs]

def AreGroups (gs : List Group) : Prop :=
  gs ≠ [] ∧ ∀ g ∈ gs, g ≠ [] ∧ ∀ l ∈ g, 'a' ≤ l ∧ l ≤ 'z'

/-- The texts of the language: groups, or groups and an arrow with labels of theirs behind it. -/
def IsExpressionText (text : String) : Prop :=
  ArrowsWhole text.toList ∧ ∃ gs, AreGroups gs ∧ (significant text.toList = joinGroups gs ∨
    ∃ o, significant text.toList = joinGroups gs ++ '-' :: '>' :: o ∧
      ∀ l ∈ o, l ∈ gs.flatten)

/-- What a text says: with an arrow the labels behind it, without one the labels of a single axis in
ascending order. -/
structure Expression.IsReadFrom (e : Expression) (text : String) : Prop where
  arrowsWhole : ArrowsWhole text.toList
  kept : e.text = some text
  areGroups : AreGroups e.subscripts.inputs
  reading : if e.explicit = true then
      significant text.toList =
        joinGroups e.subscripts.inputs ++ '-' :: '>' :: e.subscripts.output ∧
        ∀ l ∈ e.subscripts.output, l ∈ e.subscripts.inputs.flatten
    else
      significant text.toList = joinGroups e.subscripts.inputs ∧
        e.subscripts.output.Pairwise (· < ·) ∧
        ∀ l, l ∈ e.subscripts.output ↔ e.subscripts.inputs.flatten.count l = 1

theorem isLabel_iff_between {l : Label} : isLabel l = true ↔ 'a' ≤ l ∧ l ≤ 'z' := by
  rw [isLabel, Bool.and_eq_true, decide_eq_true_eq, decide_eq_true_eq]

theorem mem_impliedOutput {gs : List Group} {l : Label} :
    l ∈ impliedOutput gs ↔ gs.flatten.count l = 1 := by
  rw [impliedOutput, mem_sortLabels, List.mem_filter, mem_firsts, decide_eq_true_eq]
  refine ⟨And.right, fun h => ⟨?_, h⟩⟩
  exact List.count_pos_iff.mp (by omega)

theorem pairwise_impliedOutput (gs : List Group) : (impliedOutput gs).Pairwise (· < ·) :=
  pairwise_sortLabels ((nodup_firsts _).filter _)

section

variable {text : String} {xs : List Lexeme} {gs : List Group} {o : Group} {e : Expression}

theorem expression_of_groupTokens (hgs : gs ≠ []) (hne : ∀ g ∈ gs, g ≠ [])
    (h : xs.map Lexeme.token = groupTokens gs) :
    commaAfterArrow? xs = none ∧
      (Outline.ofLexemes xs).expression text =
        .ok ⟨⟨gs, impliedOutput gs⟩, false, text⟩ := by
  have ha := token_ne_arrow_of_groupTokens h
  obtain ⟨hi, har⟩ := outline_of_forall_ne ha
  have hm := splitLexemes_of_groupTokens hgs h
  refine ⟨commaAfterArrow?_of_forall_ne ha, Outline.expression_eq_ok_iff.mpr ?_⟩
  rw [hi, hm]
  exact ⟨ne_nil_of_map_labelsOf hm hne, .inl ⟨har, rfl⟩⟩

theorem expression_of_arrow (hgs : gs ≠ []) (hne : ∀ g ∈ gs, g ≠ [])
    (ho : ∀ l ∈ o, l ∈ gs.flatten)
    (h : xs.map Lexeme.token = groupTokens gs ++ .arrow :: o.map .label) :
    commaAfterArrow? xs = none ∧ (Outline.ofLexemes xs).expression text =
      .ok ⟨⟨gs, o⟩, true, text⟩ := by
  obtain ⟨before, rest, rfl, hb, hr⟩ := List.map_eq_append_iff.mp h
  obtain ⟨a, after, rfl, ha, hf⟩ := List.map_eq_cons_iff.mp hr
  have hba := token_ne_arrow_of_groupTokens hb
  have hfa := token_ne_of_map_label hf
  obtain ⟨hi, hou, har⟩ := outline_of_arrow hba ha fun x hx => (hfa x hx).2
  have hm := splitLexemes_of_groupTokens hgs hb
  refine ⟨(commaAfterArrow?_append hba ha).mpr fun x hx => (hfa x hx).1,
    Outline.expression_eq_ok_iff.mpr ?_⟩
  rw [hi, hm, hou, List.headD_cons, labelsOf_of_map_token hf]
  exact ⟨ne_nil_of_map_labelsOf hm hne, .inr ⟨a, har, ho, rfl⟩⟩

theorem tokens_of_expression (hc : commaAfterArrow? xs = none)
    (h : (Outline.ofLexemes xs).expression text = .ok e) : e.text = some text ∧
      ((e.explicit = false ∧ xs.map Lexeme.token = groupTokens e.subscripts.inputs ∧
          e.subscripts.output = impliedOutput e.subscripts.inputs) ∨
        (e.explicit = true ∧
          xs.map Lexeme.token =
            groupTokens e.subscripts.inputs ++ .arrow :: e.subscripts.output.map .label ∧
            ∀ l ∈ e.subscripts.output, l ∈ e.subscripts.inputs.flatten)) := by
  rcases Outline.expression_eq_ok_iff.mp h with ⟨-, ⟨har, rfl⟩ | ⟨a, har, ho, rfl⟩⟩
  · have ha : ∀ x ∈ xs, x.token ≠ .arrow :=
      fun x hx => by simpa using List.filter_eq_nil_iff.mp har x hx
    rw [(outline_of_forall_ne ha).1]
    exact ⟨rfl, .inl ⟨rfl, map_token_eq_groupTokens ha, rfl⟩⟩
  · obtain ⟨before, after, rfl, hb, ha, hf⟩ := exists_of_arrows har
    obtain ⟨hi, hou, -⟩ := outline_of_arrow hb ha hf
    rw [hi, hou, List.headD_cons] at ho ⊢
    have hl := (commaAfterArrow?_append hb ha).mp hc
    refine ⟨rfl, .inr ⟨rfl, ?_, ho⟩⟩
    rw [List.map_append, List.map_cons, ha, map_token_eq_groupTokens hb,
      map_token_eq_labelsOf fun x hx => ⟨hl x hx, hf x hx⟩]

end

theorem exists_of_findWord? {word cs : List Char} {n : Nat} (h : findWord? word cs = some n) :
    ∃ before after, cs = before ++ (word ++ after) ∧ n = before.length := by
  induction cs generalizing n with
  | nil =>
    rw [findWord?] at h
    split at h
    next hw =>
      cases h
      exact ⟨[], [], by simp [List.isEmpty_iff.mp hw], rfl⟩
    next => cases h
  | cons c cs ih =>
    rw [findWord?] at h
    split at h
    next hw =>
      cases h
      obtain ⟨after, ha⟩ := List.isPrefixOf_iff_prefix.mp hw
      exact ⟨[], after, ha.symm, rfl⟩
    next =>
      obtain ⟨m, hm, rfl⟩ := Option.map_eq_some_iff.mp h
      obtain ⟨before, after, rfl, rfl⟩ := ih hm
      exact ⟨c :: before, after, rfl, rfl⟩

theorem mem_of_findWord? {word cs : List Char} {n : Nat} (h : findWord? word cs = some n) :
    ∀ c ∈ word, c ∈ cs := by
  obtain ⟨before, after, rfl, -⟩ := exists_of_findWord? h
  intro c hc
  exact List.mem_append_right before (List.mem_append_left after hc)

-- The search for an ellipsis comes before all else, so it has to find nothing in a text of tokens.
theorem findWord?_ellipsis_of_scan {cs : List Char} (h : (scan 0 cs).2 = none) :
    findWord? ellipsis cs = none := by
  rw [Option.eq_none_iff_forall_ne_some]
  intro n hn
  have hd : '.' ∈ significant cs :=
    List.mem_filter.mpr ⟨mem_of_findWord? hn '.' List.mem_cons_self, by decide⟩
  rw [significant_of_scan h] at hd
  obtain ⟨t, ht, hm⟩ := List.mem_flatMap.mp hd
  obtain ⟨x, hx, rfl⟩ := List.mem_map.mp ht
  cases hxt : x.token with
  | label l =>
    have hl := isLabel_of_mem_scan hx hxt
    rw [hxt] at hm
    rw [← List.mem_singleton.mp hm] at hl
    exact absurd hl (by decide)
  | comma =>
    rw [hxt] at hm
    exact absurd hm (by decide)
  | arrow =>
    rw [hxt] at hm
    exact absurd hm (by decide)

section

variable {text : String} {gs : List Group} {e : Expression}

theorem AreGroups.isRead (h : AreGroups gs) : ∀ t ∈ groupTokens gs, t.IsRead := by
  rintro t ht l rfl
  rcases mem_groupTokens ht with hc | ⟨g, hg, m, hm, he⟩
  · cases hc
  · cases he
    exact isLabel_iff_between.mpr ((h.2 g hg).2 l hm)

theorem AreGroups.isLabel_of_mem_flatten (h : AreGroups gs) {l : Label} (hl : l ∈ gs.flatten) :
    isLabel l = true := by
  obtain ⟨g, hg, hm⟩ := List.mem_flatten.mp hl
  exact isLabel_iff_between.mpr ((h.2 g hg).2 l hm)

-- Only the tokens matter, not where they stand, so what follows holds of any lexemes with them.
theorem parse_of_tokens (ts : List Token) (hw : ArrowsWhole text.toList)
    (ht : ∀ t ∈ ts, t.IsRead) (hs : significant text.toList = ts.flatMap Token.chars)
    (h : ∀ xs : List Lexeme, xs.map Lexeme.token = ts →
      commaAfterArrow? xs = none ∧ (Outline.ofLexemes xs).expression text = .ok e) :
    parse text = .ok e := by
  obtain ⟨hn, hm⟩ := scan_of_significant 0 hw ht hs
  obtain ⟨hc, he⟩ := h _ hm
  exact parse_eq_ok_iff.mpr ⟨findWord?_ellipsis_of_scan hn, hc, hn, he⟩

theorem parse_of_groups (hw : ArrowsWhole text.toList) (hg : AreGroups gs)
    (hs : significant text.toList = joinGroups gs) :
    parse text = .ok ⟨⟨gs, impliedOutput gs⟩, false, text⟩ :=
  parse_of_tokens _ hw hg.isRead (by rw [hs, flatMap_chars_groupTokens]) fun _ hx =>
    expression_of_groupTokens hg.1 (fun g hm => (hg.2 g hm).1) hx

theorem parse_of_arrow {o : Group} (hw : ArrowsWhole text.toList) (hg : AreGroups gs)
    (hs : significant text.toList = joinGroups gs ++ '-' :: '>' :: o)
    (ho : ∀ l ∈ o, l ∈ gs.flatten) :
    parse text = .ok ⟨⟨gs, o⟩, true, text⟩ := by
  refine parse_of_tokens (groupTokens gs ++ .arrow :: o.map .label) hw ?_ ?_ fun _ hx =>
    expression_of_arrow hg.1 (fun g hm => (hg.2 g hm).1) ho hx
  · rw [List.forall_mem_append, List.forall_mem_cons, List.forall_mem_map]
    refine ⟨hg.isRead, nofun, fun l hl m hm => ?_⟩
    cases hm
    exact hg.isLabel_of_mem_flatten (ho l hl)
  · rw [hs, List.flatMap_append, flatMap_chars_groupTokens, List.flatMap_cons, flatMap_chars_label]
    rfl

theorem isReadFrom_of_parse (h : parse text = .ok e) : e.IsReadFrom text := by
  obtain ⟨-, hc, hn, he⟩ := parse_eq_ok_iff.mp h
  obtain ⟨hne, hg⟩ := inputs_of_parse h
  have hw := arrowsWhole_of_scan hn
  have hgs : AreGroups e.subscripts.inputs :=
    ⟨hne, fun g hm => (hg g hm).imp_right fun hl l hm => isLabel_iff_between.mp (hl l hm)⟩
  have hs := significant_of_scan hn
  obtain ⟨hk, ⟨hx, ht, ho⟩ | ⟨hx, ht, ho⟩⟩ := tokens_of_expression hc he
  · rw [ht, flatMap_chars_groupTokens] at hs
    refine ⟨hw, hk, hgs, ?_⟩
    simp only [hx, Bool.false_eq_true, if_false]
    rw [ho]
    exact ⟨hs, pairwise_impliedOutput _, fun l => mem_impliedOutput⟩
  · rw [ht, List.flatMap_append, flatMap_chars_groupTokens, List.flatMap_cons,
      flatMap_chars_label] at hs
    refine ⟨hw, hk, hgs, ?_⟩
    rw [if_pos hx]
    exact ⟨hs, ho⟩

theorem parse_of_isReadFrom (h : e.IsReadFrom text) : parse text = .ok e := by
  obtain ⟨⟨gs, o⟩, explicit, t⟩ := e
  obtain ⟨hw, rfl, hg, hs⟩ := h
  cases explicit with
  | true => exact parse_of_arrow hw hg hs.1 hs.2
  | false =>
    have ho : o = impliedOutput gs :=
      hs.2.1.eq_of_mem_iff (pairwise_impliedOutput gs)
        fun l => (hs.2.2 l).trans mem_impliedOutput.symm
    rw [ho]
    exact parse_of_groups hw hg hs.1

end

/-- Reading accepts the texts of the language and no others, and returns what they say. -/
theorem parse_exact (text : String) : ((∃ e, parse text = .ok e) ↔ IsExpressionText text) ∧
    ∀ e, parse text = .ok e ↔ e.IsReadFrom text := by
  refine ⟨⟨?_, ?_⟩, fun e => ⟨isReadFrom_of_parse, parse_of_isReadFrom⟩⟩
  · rintro ⟨e, he⟩
    obtain ⟨hw, -, hg, hs⟩ := isReadFrom_of_parse he
    refine ⟨hw, e.subscripts.inputs, hg, ?_⟩
    cases hx : e.explicit with
    | true =>
      rw [if_pos hx] at hs
      exact .inr ⟨e.subscripts.output, hs⟩
    | false =>
      rw [if_neg (by rw [hx]; decide)] at hs
      exact .inl hs.1
  · rintro ⟨hw, gs, hg, hs | ⟨o, hs, ho⟩⟩
    · exact ⟨_, parse_of_groups hw hg hs⟩
    · exact ⟨_, parse_of_arrow hw hg hs ho⟩

example :
    parse " ij, jk\n->ik" =
      .ok ⟨⟨[['i', 'j'], ['j', 'k']], ['i', 'k']⟩, true, " ij, jk\n->ik"⟩ := by
  decide

example : (parse "ij- >i").isOk = false := by decide

end Einsum

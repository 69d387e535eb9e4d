import Einsum.Proofs.Grammar

namespace Einsum

structure IsFirstRepeat (ls : Group) (position : Nat) (l : Label) : Prop where
  at_position : ls[position]? = some l
  repeated : l ∈ ls.take position
  first : ∀ j < position, ∀ m, ls[j]? = some m → m ∉ ls.take j

theorem IsFirstRepeat.not_nodup {ls : Group} {position : Nat} {l : Label}
    (h : IsFirstRepeat ls position l) :
    ¬ ls.Nodup := by
  intro hn
  rw [← List.take_append_drop position ls, List.nodup_append] at hn
  refine hn.2.2 l h.repeated l (List.mem_of_getElem? (i := 0) ?_) rfl
  rw [List.getElem?_drop, Nat.add_zero, h.at_position]

theorem isFirstRepeat_append {seen ls : Group} {position : Nat} {l : Label}
    (h : firstRepeat? seen ls = some (position, l)) :
    ls[position]? = some l ∧ l ∈ ls.take position ++ seen ∧
      ∀ j < position, ∀ m, ls[j]? = some m → m ∉ ls.take j ++ seen := by
  induction ls generalizing seen position with
  | nil => cases h
  | cons m ls ih =>
    rw [firstRepeat?] at h
    split at h
    next hm =>
      cases h
      exact ⟨rfl, hm, fun j hj => absurd hj (Nat.not_lt_zero j)⟩
    next hm =>
      obtain ⟨⟨k, l'⟩, hk, he⟩ := Option.map_eq_some_iff.mp h
      cases he
      obtain ⟨hat, hseen, hfirst⟩ := ih hk
      refine ⟨hat, by simpa [or_left_comm] using hseen, fun j hj x hx => ?_⟩
      cases j with
      | zero => exact Option.some.inj hx ▸ hm
      | succ j => simpa [and_left_comm] using hfirst j (Nat.lt_of_succ_lt_succ hj) x hx

theorem isFirstRepeat_of_firstRepeat? {ls : Group} {position : Nat} {l : Label}
    (h : firstRepeat? [] ls = some (position, l)) : IsFirstRepeat ls position l := by
  obtain ⟨hat, hrepeated, hfirst⟩ := isFirstRepeat_append h
  simp only [List.append_nil] at hrepeated hfirst
  exact ⟨hat, hrepeated, hfirst⟩

theorem isBlank_of_isIgnored {c : Char} (h : isIgnored c = true) : Text.isBlank c = true := by
  simp only [isIgnored, Bool.or_eq_true, beq_iff_eq] at h
  rcases h with (((rfl | rfl) | rfl) | rfl) | rfl <;> decide

theorem isBlank_of_isLabel {l : Label} (h : isLabel l = true) : Text.isBlank l = false := by
  obtain ⟨hl, hu⟩ := isLabel_iff.mp h
  rw [Text.isBlank, Text.Ranges.contains, List.any_eq_false]
  intro r hr
  have hgap : ∀ r ∈ Text.blankRanges, r.2 < 97 ∨ 122 < r.1 := by decide
  have := hgap r hr
  simp
  omega

theorem dash_notMem_joinGroups {gs : List Group} (h : AreGroups gs) : '-' ∉ joinGroups gs := by
  intro hm
  rcases Subscripts.mem_joinGroups hm with hc | ⟨g, hg, hl⟩
  · exact absurd hc (by decide)
  · exact absurd ((h.2 g hg).2 '-' hl).1 (by decide)

theorem findWord?_arrow {cs before output : List Char} (hw : ArrowsWhole cs) (hb : '-' ∉ before)
    (h : significant cs = before ++ '-' :: '>' :: output) :
    ∃ k, findWord? Token.arrow.chars cs = some k ∧ significant (cs.drop (k + 2)) = output := by
  induction cs generalizing before with
  | nil => simp [significant] at h
  | cons c cs ih =>
    rw [findWord?]
    by_cases hp : Token.arrow.chars.isPrefixOf (c :: cs) = true
    · rw [if_pos hp]
      refine ⟨0, rfl, ?_⟩
      obtain ⟨rest, hrest⟩ := List.isPrefixOf_iff_prefix.mp hp
      rw [← hrest] at h ⊢
      cases before with
      | nil =>
        have hs : '-' :: '>' :: significant rest = '-' :: '>' :: output := h
        exact (List.cons.inj (List.cons.inj hs).2).2
      | cons b before =>
        have hs : '-' :: '>' :: significant rest = b :: (before ++ '-' :: '>' :: output) := h
        exact absurd ((List.cons.inj hs).1 ▸ List.mem_cons_self) hb
    · rw [if_neg hp]
      by_cases hi : isIgnored c = true
      · rw [significant_cons_of_ignored hi] at h
        obtain ⟨k, hk, hs⟩ := ih hw.tail hb h
        exact ⟨k + 1, by rw [hk]; rfl, hs⟩
      · rw [significant_cons (by simpa using hi)] at h
        cases before with
        | nil =>
          -- A dash that means something here would be followed by the rest of the arrow.
          obtain ⟨rfl, hs⟩ := List.cons.inj h
          obtain ⟨cs', rfl⟩ := hw.next hs
          exact absurd rfl hp
        | cons b before =>
          obtain ⟨k, hk, hs⟩ :=
            ih hw.tail (fun hm => hb (List.mem_cons_of_mem b hm)) (List.cons.inj h).2
          exact ⟨k + 1, by rw [hk]; rfl, hs⟩

theorem significant_append (cs ds : List Char) :
    significant (cs ++ ds) = significant cs ++ significant ds :=
  List.filter_append ..

theorem exists_split_arrow {cs before output : List Char} (hw : ArrowsWhole cs)
    (hb : '-' ∉ before) (h : significant cs = before ++ '-' :: '>' :: output) :
    ∃ pre rest, cs = pre ++ '-' :: '>' :: rest ∧
      findWord? Token.arrow.chars cs = some pre.length ∧ significant pre = before ∧
        significant rest = output := by
  obtain ⟨k, hk, hs⟩ := findWord?_arrow hw hb h
  obtain ⟨pre, rest, rfl, rfl⟩ := exists_of_findWord? hk
  have hrest : significant rest = output := by
    rw [← hs]
    congr 1
    simp [Token.chars, List.drop_append]
  refine ⟨pre, rest, rfl, hk, ?_, hrest⟩
  have he : significant pre ++ '-' :: '>' :: significant rest = before ++ '-' :: '>' :: output := by
    rw [← h, significant_append]
    rfl
  rw [hrest] at he
  exact List.append_cancel_right he

theorem nonBlank?_eq {position : Nat} {cs : List Char} {l : Char}
    (hb : ∀ c ∈ cs, Text.isBlank c = isIgnored c) (h : (significant cs)[position]? = some l) :
    ∃ before after, cs = before ++ l :: after ∧
      significant before = (significant cs).take position ∧ nonBlank? position cs =
        some before.length := by
  fun_induction nonBlank? position cs with
  | case1 => cases h
  | case2 position c cs hc ih =>
    rw [List.forall_mem_cons] at hb
    have hi : isIgnored c = true := hb.1 ▸ hc
    rw [significant_cons_of_ignored hi] at h ⊢
    obtain ⟨before, after, rfl, hs, hn⟩ := ih hb.2 h
    exact ⟨c :: before, after, rfl, by rw [significant_cons_of_ignored hi, hs], by rw [hn]; rfl⟩
  | case3 c cs hc =>
    have hi : isIgnored c = false := (hb c List.mem_cons_self) ▸ (Bool.not_eq_true _ ▸ hc)
    rw [significant_cons hi] at h
    obtain rfl := Option.some.inj h
    exact ⟨[], cs, rfl, rfl, rfl⟩
  | case4 c cs hc position ih =>
    rw [List.forall_mem_cons] at hb
    have hi : isIgnored c = false := hb.1 ▸ (Bool.not_eq_true _ ▸ hc)
    rw [significant_cons hi] at h ⊢
    obtain ⟨before, after, rfl, hs, hn⟩ := ih hb.2 h
    exact ⟨c :: before, after, rfl, by rw [significant_cons hi, hs, List.take_succ_cons],
      by rw [hn]; rfl⟩

/-- A label of the result is found behind the arrow, past what means nothing. -/
theorem outputSpan_eq {cs before : List Char} {output : Group} (hw : ArrowsWhole cs)
    (hb : '-' ∉ before) (h : significant cs = before ++ '-' :: '>' :: output)
    (ho : ∀ l ∈ output, isLabel l = true) {position : Nat} {l : Label}
    (hp : output[position]? = some l) : ∃ pre after, cs = pre ++ l :: after ∧
      significant pre = before ++ '-' :: '>' :: output.take position ∧
      outputSpan cs position = some (.ofOffset pre.length 1) := by
  obtain ⟨pre, rest, rfl, hk, hpre, hrest⟩ := exists_split_arrow hw hb h
  have hblank (c : Char) (hc : c ∈ rest) : Text.isBlank c = isIgnored c := by
    by_cases hi : isIgnored c = true
    · rw [hi, isBlank_of_isIgnored hi]
    · have hf : isIgnored c = false := Bool.not_eq_true _ ▸ hi
      have hm : c ∈ output := hrest ▸ List.mem_filter.mpr ⟨hc, by rw [hf]; rfl⟩
      rw [hf, isBlank_of_isLabel (ho c hm)]
  obtain ⟨mid, after, rfl, hmid, hn⟩ := nonBlank?_eq hblank (hrest.symm ▸ hp)
  refine ⟨pre ++ '-' :: '>' :: mid, after, by simp, ?_, ?_⟩
  · rw [significant_append, hpre, ← hrest, ← hmid]
    rfl
  · have hdrop : (pre ++ '-' :: '>' :: (mid ++ l :: after)).drop (pre.length + 2) =
        mid ++ l :: after := by
      simp [List.drop_append]
    rw [outputSpan, hk]
    dsimp only
    rw [hdrop, hn, Option.map_some, List.length_append, List.length_cons, List.length_cons,
      Nat.add_assoc, Nat.add_comm 2]

inductive Refused (text : String) (n : Int) (r : Report) : Prop
  | parse (h : parse text = .error r)
  | check {e : Expression} (hp : Einsum.parse text = .ok e) (hc : e.check n = .error r)

section

variable {text : String} {n : Int} {r : Report}

theorem isSome_span_of_expression {o : Outline} (h : o.expression text = .error r) :
    r.span.isSome = true := by
  rw [Outline.expression] at h
  dsimp only at h
  split at h
  next => cases h; rfl
  next => cases h; rfl
  next => cases h
  next =>
    split at h
    next => cases h; rfl
    next => cases h

theorem isSome_span_of_parse (h : parse text = .error r) : r.span.isSome = true := by
  rw [parse] at h
  dsimp only at h
  split at h
  next => cases h; rfl
  next =>
    split at h
    next => cases h; rfl
    next => cases h; rfl
    next => exact isSome_span_of_expression h

variable {e : Expression}

theorem explicit_of_not_nodup (h : e.IsReadFrom text) (hn : ¬ e.subscripts.output.Nodup) :
    e.explicit = true := by
  by_contra hx
  have hread := h.reading
  rw [if_neg hx] at hread
  exact hn (hread.2.1.imp ne_of_lt)

theorem arrow_of_explicit (h : e.IsReadFrom text) (hx : e.explicit = true) :
    Token.arrow.chars <:+: text.toList := by
  have hread := h.reading
  rw [if_pos hx] at hread
  obtain ⟨pre, rest, he, -⟩ :=
    exists_split_arrow h.arrowsWhole (dash_notMem_joinGroups h.areGroups) hread.1
  exact ⟨pre, rest, by rw [he, List.append_assoc]; rfl⟩

theorem arityReport_eq (hp : parse text = .ok e) : e.arityReport n =
    { fault := .arity e.subscripts.inputs.length n, span := some (.whole text),
      text := some text } := by
  rw [Expression.arityReport, (isReadFrom_of_parse hp).kept]
  split
  next he => cases he
  next he =>
    -- The empty text has an empty group.
    rw [Option.some.inj he] at hp
    cases hp
  next he => rw [Option.some.inj he]

theorem repeatReport_eq (h : e.IsReadFrom text) {position : Nat} {l : Label}
    (hr : IsFirstRepeat e.subscripts.output position l) :
    ∃ before after, text.toList = before ++ l :: after ∧
      significant before =
        joinGroups e.subscripts.inputs ++ '-' :: '>' :: e.subscripts.output.take position ∧
      e.repeatReport position l =
        { fault := .repeatedOutput l, span := some (.ofOffset before.length 1),
          text := some text } := by
  have hread := h.reading
  rw [if_pos (explicit_of_not_nodup h hr.not_nodup)] at hread
  obtain ⟨before, after, he, hb, hs⟩ := outputSpan_eq h.arrowsWhole
    (dash_notMem_joinGroups h.areGroups) hread.1
    (fun l hl => h.areGroups.isLabel_of_mem_flatten (hread.2 l hl)) hr.at_position
  refine ⟨before, after, he, hb, ?_⟩
  rw [Expression.repeatReport, h.kept, Option.bind_some, hs]

theorem check_cases (e : Expression) (n : Int) :
    n ≠ e.subscripts.inputs.length ∧ e.check n = .error (e.arityReport n) ∨
      n = e.subscripts.inputs.length ∧ (e.subscripts.output.Nodup ∧ e.check n = .ok () ∨
        ∃ position l, IsFirstRepeat e.subscripts.output position l ∧
          e.check n = .error (e.repeatReport position l)) := by
  rw [Expression.check]
  split
  next hn => exact .inl ⟨hn, rfl⟩
  next hn =>
    refine .inr ⟨not_not.mp hn, ?_⟩
    split
    next position l hr => exact .inr ⟨position, l, isFirstRepeat_of_firstRepeat? hr, rfl⟩
    next hr => exact .inl ⟨(nodup_of_firstRepeat? hr).1, rfl⟩

theorem isSome_span_of_check (hp : parse text = .ok e) (hc : e.check n = .error r) :
    r.span.isSome = true := by
  obtain ⟨-, h⟩ | ⟨-, ⟨-, h⟩ | ⟨position, l, hr, h⟩⟩ := check_cases e n
  · rw [h, arityReport_eq hp] at hc
    cases hc
    rfl
  · rw [h] at hc
    cases hc
  · obtain ⟨before, after, -, -, he⟩ := repeatReport_eq (isReadFrom_of_parse hp) hr
    rw [h, he] at hc
    cases hc
    rfl

theorem Refused.isSome_span (h : Refused text n r) : r.span.isSome = true := by
  cases h with
  | parse h => exact isSome_span_of_parse h
  | check hp hc => exact isSome_span_of_check hp hc

theorem refused_or_checked (text : String) (n : Int) :
    (∃ r, Refused text n r) ∨ ∃ e, parse text = .ok e ∧ e.check n = .ok () := by
  cases hp : parse text with
  | error r => exact .inl ⟨r, .parse hp⟩
  | ok e =>
    cases hc : e.check n with
    | error r => exact .inl ⟨r, .check hp hc⟩
    | ok => exact .inr ⟨e, rfl, hc⟩

/-- What is read from a text is checked against the number of groups first. If that is right, all
that can be wrong is a label of the result that occurred before; the first such is reported where it
stands behind the arrow. -/
theorem check_located (hp : parse text = .ok e) (n : Int) :
    (n ≠ e.subscripts.inputs.length → e.check n = .error
      { fault := .arity e.subscripts.inputs.length n, span := some (.whole text),
        text := some text }) ∧
    (n = e.subscripts.inputs.length → e.subscripts.output.Nodup → e.check n = .ok ()) ∧
    (n = e.subscripts.inputs.length → ¬ e.subscripts.output.Nodup →
      ∃ position l before after,
      IsFirstRepeat e.subscripts.output position l ∧ text.toList = before ++ l :: after ∧
      significant before =
        joinGroups e.subscripts.inputs ++ '-' :: '>' :: e.subscripts.output.take position ∧
      e.check n = .error
        { fault := .repeatedOutput l, span := some (.ofOffset before.length 1),
          text := some text }) ∧
    (¬ Token.arrow.chars <:+: text.toList → ∀ r l, e.check n = .error r →
      r.fault ≠ .repeatedOutput l) := by
  have hread := isReadFrom_of_parse hp
  obtain ⟨hn, h⟩ | ⟨hn, ⟨hnd, h⟩ | ⟨position, l, hr, h⟩⟩ := check_cases e n
  · rw [arityReport_eq hp] at h
    refine ⟨fun _ => h, fun he => absurd he hn, fun he => absurd he hn, fun _ r l hc hf => ?_⟩
    rw [h] at hc
    cases hc
    cases hf
  · refine ⟨fun he => absurd hn he, fun _ _ => h, fun _ hd => absurd hnd hd,
      fun _ r l hc => ?_⟩
    rw [h] at hc
    cases hc
  · obtain ⟨before, after, he, hb, hrep⟩ := repeatReport_eq hread hr
    rw [hrep] at h
    refine ⟨fun he => absurd hn he, fun _ hd => absurd hd hr.not_nodup,
      fun _ _ => ⟨position, l, before, after, hr, he, hb, h⟩, fun ha => absurd ?_ ha⟩
    exact arrow_of_explicit hread (explicit_of_not_nodup hread hr.not_nodup)

theorem check_located_of_blanks :
    let text := "ij,\njk -> i\tk\x0c\nk i"
    let e : Expression := ⟨⟨[['i', 'j'], ['j', 'k']], ['i', 'k', 'k', 'i']⟩, true, text⟩
    parse text = .ok e ∧
      e.check 3 = .error { fault := .arity 2 3, span := some (.whole text), text := some text } ∧
      ∃ position l before after, IsFirstRepeat e.subscripts.output position l ∧
        text.toList = before ++ l :: after ∧
        significant before =
          joinGroups e.subscripts.inputs ++ '-' :: '>' :: e.subscripts.output.take position ∧
        e.check 2 = .error
          { fault := .repeatedOutput l, span := some (.ofOffset before.length 1),
            text := some text } := by
  intro text e
  have hp : parse text = .ok e := by decide
  exact ⟨hp, (check_located hp 3).1 (by decide), (check_located hp 2).2.2.1 rfl (by decide)⟩

end

end Einsum

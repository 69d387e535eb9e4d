import Einsum.Proofs.Outline
import Mathlib.Data.List.DropRight

namespace Einsum

inductive Wrong (text : String) : Nat → List Token → Token → Fault → Prop
  | misplaced {ts : List Token} (ha : .arrow ∈ ts) : Wrong text 2 ts .comma (.misplaced text)
  | emptyGroup {ts : List Token} {t : Token} (ht : t = .comma ∨ t = .arrow) (ha : .arrow ∉ ts)
    (ho : Opens ts) : Wrong text 3 ts t (.emptyGroup (ts.count .comma))
  | secondArrow {ts : List Token} (ha : .arrow ∈ ts) : Wrong text 4 ts .arrow .secondArrow
  | unknownOutput {ts : List Token} {l : Label} (ha : .arrow ∈ ts)
    (hl : .label l ∉ ts.takeWhile (· ≠ .arrow)) : Wrong text 5 ts (.label l) (.unknownOutput l)

structure Offence where
  stage : Nat
  offset : Nat
  word : List Char
  fault : Fault

namespace Offence

/-- The offences of a text: an ellipsis anywhere, what comes behind tokens and starts none, a token
that is wrong behind those before it, and a last group without labels, which has no word. -/
inductive In (text : String) : Offence → Prop
  | dots {before after : List Char} (he : text.toList = before ++ (ellipsis ++ after)) :
    In text ⟨1, before.length, ellipsis, .ellipsis⟩
  | unrecognized {before after : List Char} {c : Char} {ts : List Token}
    (he : text.toList = before ++ ([c] ++ after)) (hb : Spells before ts)
    (hi : isIgnored c = false) (hs : ¬ StartsToken (c :: after)) :
    In text ⟨2, before.length, [c], .unrecognized c⟩
  | token {before after : List Char} {t : Token} {ts : List Token} {stage : Nat} {fault : Fault}
    (he : text.toList = before ++ (t.chars ++ after)) (hb : Spells before ts) (ht : t.IsRead)
    (hw : Wrong text stage ts t fault) : In text ⟨stage, before.length, t.chars, fault⟩
  | unfinished {ts : List Token} (he : Spells text.toList ts) (ha : .arrow ∉ ts) (ho : Opens ts) :
    In text ⟨3, (Text.trimRight text.toList).length, [], .emptyGroup (ts.count .comma)⟩

def Before (o o' : Offence) : Prop :=
  o.stage < o'.stage ∨ o.stage = o'.stage ∧ o.offset < o'.offset

/-- The first offence of a text: in the earliest stage, and there the leftmost. -/
structure IsFirst (text : String) (o : Offence) : Prop where
  isIn : o.In text
  before : ∀ o' : Offence, o'.In text → o' ≠ o → o.Before o'

theorem IsFirst.eq {text : String} {o o' : Offence} (h : o.IsFirst text) (h' : o'.IsFirst text) :
    o = o' := by
  by_contra hne
  have hb := h.before o' h'.isIn fun he => hne he.symm
  have hb' := h'.before o h.isIn hne
  simp only [Before] at hb hb'
  omega

def span (o : Offence) : Span := .ofOffset o.offset (max 1 o.word.length)

def report (text : String) (o : Offence) : Report := rejection text o.fault o.span

end Offence

section

variable {text : String} {stage : Nat} {ts : List Token} {t : Token} {fault fault' : Fault}

theorem Wrong.two_le (h : Wrong text stage ts t fault) : 2 ≤ stage := by
  cases h <;> decide

theorem Wrong.le_five (h : Wrong text stage ts t fault) : stage ≤ 5 := by
  cases h <;> decide

theorem Wrong.arrow_mem (h : Wrong text stage ts t fault) (hs : stage ≠ 3) : .arrow ∈ ts := by
  cases h with
  | misplaced ha => exact ha
  | emptyGroup => exact absurd rfl hs
  | secondArrow ha => exact ha
  | unknownOutput ha => exact ha

theorem Wrong.fault_eq (h : Wrong text stage ts t fault) (h' : Wrong text stage ts t fault') :
    fault = fault' := by
  cases h <;> cases h' <;> rfl

def Sound (text : String) (stage : Nat) (ts : List Token) : Prop :=
  ∀ before t after s fault, ts = before ++ t :: after → Wrong text s before t fault →
    stage ≤ s

theorem Sound.le_of_split {xs us vs : List Lexeme} {y : Lexeme} {s : Nat}
    (h : Sound text stage (xs.map Lexeme.token)) (hx : xs = us ++ y :: vs)
    (hw : Wrong text s (us.map Lexeme.token) y.token fault) : stage ≤ s :=
  h _ _ (vs.map Lexeme.token) s fault (by rw [hx, List.map_append, List.map_cons]) hw

theorem sound_two (text : String) (ts : List Token) : Sound text 2 ts :=
  fun _ _ _ _ _ _ hw => hw.two_le

theorem Sound.left {us vs : List Token} (h : Sound text stage (us ++ vs)) :
    Sound text stage us := by
  intro before t after s fault he
  exact h before t (after ++ vs) s fault (by rw [he, List.append_assoc, List.cons_append])

theorem Sound.succ (h : Sound text stage ts)
    (hn : ∀ before t after fault, ts = before ++ t :: after →
      ¬ Wrong text stage before t fault) :
    Sound text (stage + 1) ts := by
  intro before t after s fault he hw
  have hle := h before t after s fault he hw
  refine Nat.lt_of_le_of_ne hle ?_
  rintro rfl
  exact hn before t after fault he hw

theorem Sound.of_notMem (h : Sound text stage ts) (hs : stage ≠ 3) (ha : .arrow ∉ ts) :
    Sound text (stage + 1) ts := by
  apply h.succ
  rintro before t after fault rfl hw
  exact ha (List.mem_append_left _ (hw.arrow_mem hs))

theorem exists_of_arrow_mem {us vs before after : List Token} (hb : .arrow ∉ before)
    (hu : .arrow ∈ us) (h : before ++ .arrow :: after = us ++ vs) :
    ∃ ms, us = before ++ .arrow :: ms ∧ after = ms ++ vs := by
  rcases List.append_eq_append_iff.mp h with ⟨ms, rfl, hm⟩ | ⟨ms, rfl, -⟩
  · cases ms with
    | nil =>
      rw [List.append_nil] at hu
      exact absurd hu hb
    | cons m ms =>
      obtain ⟨rfl, rfl⟩ := List.cons.inj hm
      exact ⟨ms, rfl, rfl⟩
  · exact absurd (List.mem_append_left ms hu) hb

theorem takeWhile_arrow {before after : List Token} (hb : .arrow ∉ before) :
    (before ++ .arrow :: after).takeWhile (· ≠ .arrow) = before := by
  rw [List.takeWhile_append_of_pos fun t ht => by simpa using fun he : t = .arrow => hb (he ▸ ht)]
  simp

theorem Sound.of_arrow {before after : List Token} (hb : .arrow ∉ before)
    (h : Sound text stage (before ++ .arrow :: after)) (hs : stage ≠ 3)
    (hn : ∀ ms t ns fault, after = ms ++ t :: ns →
      ¬ Wrong text stage (before ++ .arrow :: ms) t fault) :
    Sound text (stage + 1) (before ++ .arrow :: after) := by
  apply h.succ
  intro us t vs fault he hw
  obtain ⟨ms, rfl, rfl⟩ := exists_of_arrow_mem hb (hw.arrow_mem hs) he
  exact hn ms t vs fault rfl hw

end

section

variable {text : String}

namespace Offence

variable {o : Offence}

/-- Offences are found among what is read from the text. -/
theorem in_iff_scan : o.In text ↔
    (∃ before after, text.toList = before ++ (ellipsis ++ after) ∧
      o = ⟨1, before.length, ellipsis, .ellipsis⟩) ∨
    (∃ s : Stop, (scan 0 text.toList).2 = some s ∧
      o = ⟨2, s.offset, [s.char], .unrecognized s.char⟩) ∨
    (∃ us y vs stage fault, (scan 0 text.toList).1 = us ++ y :: vs ∧
      Wrong text stage (us.map Lexeme.token) y.token fault ∧
      o = ⟨stage, y.offset, y.token.chars, fault⟩) ∨
    ((scan 0 text.toList).2 = none ∧ .arrow ∉ (scan 0 text.toList).1.map Lexeme.token ∧
      Opens ((scan 0 text.toList).1.map Lexeme.token) ∧
      o = ⟨3, (Text.trimRight text.toList).length, [],
        .emptyGroup (((scan 0 text.toList).1.map Lexeme.token).count .comma)⟩) := by
  constructor
  · intro h
    cases h with
    | dots he => exact .inl ⟨_, _, he, rfl⟩
    | unrecognized he hb hi hs =>
      have hstop := stop_scan_iff.mpr ⟨_, _, _, he, hb, hi, hs, (Nat.zero_add _).symm⟩
      exact .inr (.inl ⟨_, hstop, rfl⟩)
    | token he hb ht hw =>
      obtain ⟨us, vs, hx, rfl⟩ := mem_scan_iff.mpr ⟨_, _, he, hb, ht, (Nat.zero_add _).symm⟩
      exact .inr (.inr (.inl ⟨us, _, vs, _, _, hx, hw, rfl⟩))
    | unfinished he ha ho =>
      have hm := he.map_token_scan (k := 0)
      subst hm
      exact .inr (.inr (.inr ⟨he.stop_eq_none, ha, ho, rfl⟩))
  · rintro (⟨before, after, he, rfl⟩ | ⟨⟨c, n⟩, hs, rfl⟩ | ⟨us, ⟨t, n⟩, vs,
      stage, fault, hx, hw, rfl⟩ | ⟨hn, ha, ho, rfl⟩)
    · exact .dots he
    · obtain ⟨before, after, ts, he, hb, hi, hn, rfl⟩ := stop_scan_iff.mp hs
      rw [Nat.zero_add]
      exact .unrecognized he hb hi hn
    · obtain ⟨before, after, he, hb, ht, rfl⟩ := mem_scan_iff.mp ⟨us, vs, hx, rfl⟩
      rw [Nat.zero_add]
      exact .token he hb ht hw
    · exact .unfinished (spells_of_scan hn) ha ho

/-- The word of an offence stands in the text, unless the text ends too early. -/
theorem In.stands (h : o.In text) :
    (∃ before after, text.toList = before ++ (o.word ++ after) ∧ o.offset = before.length ∧
      o.word ≠ []) ∨
      o.word = [] ∧ o.stage = 3 ∧ o.offset = (Text.trimRight text.toList).length := by
  cases h with
  | dots he => exact .inl ⟨_, _, he, rfl, List.cons_ne_nil _ _⟩
  | unrecognized he => exact .inl ⟨_, _, he, rfl, List.cons_ne_nil _ _⟩
  | token he => exact .inl ⟨_, _, he, rfl, Token.chars_ne_nil _⟩
  | unfinished => exact .inr ⟨rfl, rfl, rfl⟩

theorem In.kind (h : o.In text) :
    o.fault.kind = if o.stage = 1 then .unsupportedFeature else .malformedSubscripts := by
  cases h with
  | dots => rfl
  | unrecognized => rfl
  | token _ _ _ hw => cases hw <;> rfl
  | unfinished => rfl

end Offence

theorem isBlank_of_mem_chars {t : Token} (h : t.IsRead) {c : Char} (hc : c ∈ t.chars) :
    Text.isBlank c = false := by
  cases t with
  | label l =>
    rw [List.mem_singleton.mp hc]
    exact isBlank_of_isLabel (h l rfl)
  | comma =>
    rw [List.mem_singleton.mp hc]
    decide
  | arrow =>
    rcases List.mem_pair.mp hc with rfl | rfl <;> decide

theorem length_lt_trimRight {c : Char} (hc : Text.isBlank c = false) (before after : List Char) :
    before.length < (Text.trimRight (before ++ c :: after)).length := by
  have hp : before ++ [c] <+: (before ++ [c] ++ after).rdropWhile Text.isBlank := by
    induction after using List.reverseRecOn with
    | nil => rw [List.append_nil, List.rdropWhile_concat_neg _ _ _ (by simp [hc])]
    | append_singleton after d ih =>
      rw [← List.append_assoc]
      by_cases hd : Text.isBlank d = true
      · rwa [List.rdropWhile_concat_pos _ _ _ hd]
      · rw [List.rdropWhile_concat_neg _ _ _ hd, List.append_assoc]
        exact List.prefix_append _ _
  have hl := hp.length_le
  rw [List.append_assoc, List.singleton_append, List.length_append] at hl
  exact hl

theorem offset_lt_trimRight {cs : List Char} {us vs : List Lexeme} {y : Lexeme}
    (h : (scan 0 cs).1 = us ++ y :: vs) :
    y.offset < (Text.trimRight cs).length := by
  obtain ⟨t, n⟩ := y
  obtain ⟨before, after, rfl, -, ht, rfl⟩ := mem_scan_iff.mp ⟨us, vs, h, rfl⟩
  obtain ⟨c, rest, hc⟩ := List.exists_cons_of_ne_nil t.chars_ne_nil
  rw [hc, List.cons_append, Nat.zero_add]
  exact length_lt_trimRight (isBlank_of_mem_chars ht (hc ▸ List.mem_cons_self)) before _

theorem append_cons_cases {α : Type} {us vs us' vs' : List α} {y y' : α}
    (h : us ++ y :: vs = us' ++ y' :: vs') :
    (∃ ws, us = us' ++ y' :: ws) ∨ (us' = us ∧ y' = y) ∨ ∃ ws, us' = us ++ y :: ws := by
  rcases List.append_eq_append_iff.mp h with ⟨ws, rfl, hw⟩ | ⟨ws, rfl, hw⟩
  · cases ws with
    | nil => exact .inr (.inl ⟨List.append_nil us, (List.cons.inj hw).1.symm⟩)
    | cons w ws =>
      obtain ⟨rfl, -⟩ := List.cons.inj hw
      exact .inr (.inr ⟨ws, rfl⟩)
  · cases ws with
    | nil => exact .inr (.inl ⟨(List.append_nil us').symm, (List.cons.inj hw).1⟩)
    | cons w ws =>
      obtain ⟨rfl, -⟩ := List.cons.inj hw
      exact .inl ⟨ws, rfl⟩

def IsFirstWrong (text : String) (stage : Nat) (xs : List Lexeme) (y : Lexeme) (fault : Fault) :
    Prop :=
  ∃ us vs, xs = us ++ y :: vs ∧ Wrong text stage (us.map Lexeme.token) y.token fault ∧
    Sound text (stage + 1) (us.map Lexeme.token)

theorem Offence.isFirst_of_token {y : Lexeme} {stage : Nat} {fault : Fault}
    (hf : findWord? ellipsis text.toList = none) (hs : stage = 2 ∨ (scan 0 text.toList).2 = none)
    (hall : Sound text stage ((scan 0 text.toList).1.map Lexeme.token))
    (h : IsFirstWrong text stage (scan 0 text.toList).1 y fault) :
    IsFirst text ⟨stage, y.offset, y.token.chars, fault⟩ := by
  obtain ⟨us, vs, hx, hw, hu⟩ := h
  refine ⟨in_iff_scan.mpr (.inr (.inr (.inl ⟨us, y, vs, stage, fault, hx, hw, rfl⟩))),
    fun o' ho' hne => ?_⟩
  rcases in_iff_scan.mp ho' with ⟨before, after, he, rfl⟩ | ⟨s, hstop, rfl⟩ |
    ⟨us', y', vs', stage', fault', hx', hw', rfl⟩ | ⟨-, ha, -, rfl⟩
  · exact absurd hf (findWord?_ne_none he)
  · rcases hs with rfl | hs
    · exact .inr ⟨rfl, offset_lt_of_stop (hx ▸ List.mem_append_right us List.mem_cons_self)
        hstop⟩
    · rw [hs] at hstop
      cases hstop
  · have he := hx.symm.trans hx'
    have hle := hall.le_of_split hx' hw'
    rcases append_cons_cases he with ⟨ws, rfl⟩ | ⟨rfl, rfl⟩ | ⟨ws, rfl⟩
    · exact .inl (hu.le_of_split rfl hw')
    · rcases Nat.lt_or_eq_of_le hle with hlt | rfl
      · exact .inl hlt
      · exact absurd (by rw [hw.fault_eq hw']) hne
    · have hp := pairwise_offset 0 text.toList
      rw [hx', List.append_assoc] at hp
      have hlt : y.offset < y'.offset := by
        have hp := (List.pairwise_append.mp hp).2.1
        exact (List.pairwise_cons.mp hp).1 y' (by simp)
      rcases Nat.lt_or_eq_of_le hle with hl | he
      · exact .inl hl
      · exact .inr ⟨he, hlt⟩
  · rcases Nat.lt_trichotomy stage 3 with hl | rfl | hl
    · exact .inl hl
    · exact .inr ⟨rfl, offset_lt_trimRight hx⟩
    · rw [hx, List.map_append] at ha
      exact absurd (List.mem_append_left _ (hw.arrow_mem (by omega))) ha

end

section

variable {text : String} {xs : List Lexeme}

theorem arrow_notMem : .arrow ∉ xs.map Lexeme.token ↔ ∀ x ∈ xs, x.token ≠ .arrow := by
  simp

theorem exists_first_arrow (h : .arrow ∈ xs.map Lexeme.token) :
    ∃ before a after, xs = before ++ a :: after ∧ .arrow ∉ before.map Lexeme.token ∧
      a.token = .arrow := by
  obtain ⟨bs, as, he, hn⟩ := List.eq_append_cons_of_mem h
  obtain ⟨before, rest, rfl, rfl, hr⟩ := List.map_eq_append_iff.mp he
  obtain ⟨a, after, rfl, ha, -⟩ := List.map_eq_cons_iff.mp hr
  exact ⟨before, a, after, rfl, hn, ha⟩

theorem sound_three {before after : List Token} (hb : .arrow ∉ before) (hc : .comma ∉ after) :
    Sound text 3 (before ++ .arrow :: after) := by
  refine (sound_two text _).of_arrow hb (by decide) ?_
  rintro ms t ns fault rfl hw
  cases hw
  simp at hc

theorem sound_of_commaAfterArrow? (h : commaAfterArrow? xs = none) :
    Sound text 3 (xs.map Lexeme.token) := by
  by_cases hm : .arrow ∈ xs.map Lexeme.token
  · obtain ⟨before, a, after, rfl, hb, ha⟩ := exists_first_arrow hm
    rw [commaAfterArrow?_append (arrow_notMem.mp hb) ha] at h
    rw [List.map_append, List.map_cons, ha]
    exact sound_three hb (by simpa using h)
  · exact (sound_two text _).of_notMem (by decide) hm

theorem isFirstWrong_of_commaAfterArrow? {n : Nat} (h : commaAfterArrow? xs = some n) :
    IsFirstWrong text 2 xs ⟨.comma, n⟩ (.misplaced text) := by
  by_cases hm : .arrow ∈ xs.map Lexeme.token
  · obtain ⟨before, a, after, rfl, hb, ha⟩ := exists_first_arrow hm
    rw [commaAfterArrow?_eq_find? (arrow_notMem.mp hb) ha] at h
    obtain ⟨⟨t, n⟩, hy, rfl⟩ := Option.map_eq_some_iff.mp h
    obtain ⟨ht, us, vs, rfl, hu⟩ := List.find?_eq_some_iff_append.mp hy
    obtain rfl : t = .comma := by simpa using ht
    refine ⟨before ++ a :: us, vs, by simp, ?_⟩
    rw [List.map_append, List.map_cons, ha]
    exact ⟨.misplaced (by simp), sound_three hb (by simpa using hu)⟩
  · rw [commaAfterArrow?_of_forall_ne (arrow_notMem.mp hm)] at h
    cases h

theorem sound_four (hs : Sound text 3 (xs.map Lexeme.token))
    (h : ∀ g ∈ (Outline.ofLexemes xs).inputs, g ≠ []) :
    Sound text 4 (xs.map Lexeme.token) ∧
      (.arrow ∉ xs.map Lexeme.token → ¬ Opens (xs.map Lexeme.token)) := by
  constructor
  · apply hs.succ
    intro before t after fault he hw
    obtain ⟨us, rest, rfl, rfl, hr⟩ := List.map_eq_append_iff.mp he
    obtain ⟨y, vs, rfl, rfl, -⟩ := List.map_eq_cons_iff.mp hr
    cases hw with
    | emptyGroup ht ha ho =>
      have hk :=
        getElem?_inputs.mpr ⟨us, y :: vs, rfl, arrow_notMem.mp ha, ho, rfl, by simpa using ht⟩
      exact h [] (List.mem_of_getElem? hk) rfl
  · intro ha ho
    have hk :=
      getElem?_inputs.mpr ⟨xs, [], (List.append_nil xs).symm, arrow_notMem.mp ha, ho,
        rfl, by simp⟩
    exact h [] (List.mem_of_getElem? hk) rfl

theorem exists_of_inputs {k : Nat} (hs : Sound text 3 (xs.map Lexeme.token))
    (h : (Outline.ofLexemes xs).inputs.findIdx? List.isEmpty = some k) : ∃ us vs,
      xs = us ++ vs ∧ .arrow ∉ us.map Lexeme.token ∧ Opens (us.map Lexeme.token) ∧
        (us.map Lexeme.token).count .comma = k ∧
          (∀ y ∈ vs.head?, y.token = .comma ∨ y.token = .arrow) ∧
          Sound text 4 (us.map Lexeme.token) := by
  obtain ⟨hk, he, hmin⟩ := List.findIdx?_eq_some_iff_getElem.mp h
  have hk : (Outline.ofLexemes xs).inputs[k]? = some [] := by
    rw [List.getElem?_eq_getElem hk, List.isEmpty_iff.mp he]
  obtain ⟨us, vs, rfl, hu, ho, hc, hv⟩ := getElem?_inputs.mp hk
  refine ⟨us, vs, rfl, arrow_notMem.mpr hu, ho, hc, hv, ?_⟩
  rw [List.map_append] at hs
  apply hs.left.succ
  intro before t after fault hm hw
  obtain ⟨us', rest, rfl, rfl, hr⟩ := List.map_eq_append_iff.mp hm
  obtain ⟨y, ws, rfl, rfl, -⟩ := List.map_eq_cons_iff.mp hr
  cases hw with
  | emptyGroup ht ha ho' =>
    have hx : us' ++ y :: ws ++ vs = us' ++ (y :: ws ++ vs) := List.append_assoc _ _ _
    have hj :=
      getElem?_inputs.mpr ⟨us', y :: ws ++ vs, hx, arrow_notMem.mp ha, ho', rfl,
        by simpa using ht⟩
    have hy : y.token = .comma := ht.resolve_right (hu y (by simp))
    have hlt : (us'.map Lexeme.token).count .comma < k := by
      rw [← hc, List.map_append, List.count_append, List.map_cons, hy, List.count_cons_self]
      omega
    obtain ⟨hl, he⟩ := List.getElem?_eq_some_iff.mp hj
    exact hmin _ hlt (by rw [he]; rfl)

theorem sound_five {before after : List Token} (hb : .arrow ∉ before) (ha : .arrow ∉ after)
    (hs : Sound text 4 (before ++ .arrow :: after)) : Sound text 5 (before ++ .arrow :: after) := by
  refine hs.of_arrow hb (by decide) ?_
  rintro ms t ns fault rfl hw
  cases hw
  simp at ha

theorem isFirstWrong_of_arrows {a b : Lexeme} {rest : List Lexeme}
    (hs : Sound text 4 (xs.map Lexeme.token)) (h : (Outline.ofLexemes xs).arrows = a :: b :: rest) :
    IsFirstWrong text 4 xs b .secondArrow := by
  obtain ⟨before, after, rfl, hb, ha, hr⟩ := List.filter_eq_cons_iff.mp h
  obtain ⟨us, vs, rfl, hu, ha', -⟩ := List.filter_eq_cons_iff.mp hr
  simp only [decide_eq_true_eq] at hb ha hu ha'
  rw [← List.cons_append, ← List.append_assoc, List.map_append, List.map_append, List.map_cons,
    ha] at hs
  refine ⟨before ++ a :: us, vs, by simp, ?_⟩
  rw [List.map_append, List.map_cons, ha, ha']
  exact ⟨.secondArrow (by simp), sound_five (arrow_notMem.mpr hb) (arrow_notMem.mpr hu) hs.left⟩

theorem sound_six {before after : List Token} (hb : .arrow ∉ before)
    (hl : ∀ l, .label l ∈ after → .label l ∈ before)
    (hs : Sound text 5 (before ++ .arrow :: after)) : Sound text 6 (before ++ .arrow :: after) := by
  refine hs.of_arrow hb (by decide) ?_
  rintro ms t ns fault rfl hw
  cases hw with
  | unknownOutput _ hn =>
    rw [takeWhile_arrow hb] at hn
    exact hn (hl _ (by simp))

theorem isFirstWrong_of_find? {before after : List Lexeme} {a : Lexeme} {l : Label} {n : Nat}
    (hb : .arrow ∉ before.map Lexeme.token) (ha : a.token = .arrow)
    (hs : Sound text 5 ((before ++ a :: after).map Lexeme.token))
    (h : (placedLabels after).find? (·.1 ∉ ((splitLexemes .comma before).map labelsOf).flatten) =
      some (l, n)) :
    IsFirstWrong text 5 (before ++ a :: after) ⟨.label l, n⟩ (.unknownOutput l) := by
  obtain ⟨hl, us, vs, rfl, hu⟩ := exists_of_find?_placedLabels h
  simp only [decide_eq_true_eq, decide_eq_false_iff_not, not_not,
    mem_flatten_labelsOf (arrow_notMem.mp hb)] at hl hu
  rw [← List.cons_append, ← List.append_assoc, List.map_append, List.map_append, List.map_cons,
    ha] at hs
  refine ⟨before ++ a :: us, vs, by simp, ?_⟩
  rw [List.map_append, List.map_cons, ha]
  refine ⟨.unknownOutput (by simp) (by rwa [takeWhile_arrow hb]), sound_six hb
    (fun m hm => ?_) hs.left⟩
  obtain ⟨x, hx, hxm⟩ := List.mem_map.mp hm
  exact hu x hx m hxm

end

namespace Offence

variable {text : String} {r : Report}

theorem isFirst_of_findWord? {n : Nat} (h : findWord? ellipsis text.toList = some n) :
    IsFirst text ⟨1, n, ellipsis, .ellipsis⟩ := by
  obtain ⟨before, after, he, rfl⟩ := exists_of_findWord? h
  refine ⟨.dots he, fun o' ho' hne => ?_⟩
  rcases in_iff_scan.mp ho' with ⟨before', after', he', rfl⟩ | ⟨s, -, rfl⟩ |
    ⟨us, y, vs, stage, fault, -, hw, rfl⟩ | ⟨-, -, -, rfl⟩
  · obtain ⟨n, hle, hn⟩ := findWord?_le he'
    rw [h] at hn
    cases hn
    have hlt : before.length < before'.length := Nat.lt_of_le_of_ne hle fun he => hne (by rw [he])
    exact .inr ⟨rfl, hlt⟩
  · exact .inl Nat.one_lt_two
  · exact .inl hw.two_le
  · exact .inl (show 1 < 3 by decide)

theorem isFirst_of_stop {s : Stop} (hf : findWord? ellipsis text.toList = none)
    (hc : commaAfterArrow? (scan 0 text.toList).1 = none) (hs : (scan 0 text.toList).2 = some s) :
    IsFirst text ⟨2, s.offset, [s.char], .unrecognized s.char⟩ := by
  refine ⟨in_iff_scan.mpr (.inr (.inl ⟨s, hs, rfl⟩)), fun o' ho' hne => ?_⟩
  rcases in_iff_scan.mp ho' with ⟨before, after, he, rfl⟩ | ⟨s', hs', rfl⟩ |
    ⟨us, y, vs, stage, fault, hx, hw, rfl⟩ | ⟨hn, -⟩
  · exact absurd hf (findWord?_ne_none he)
  · rw [hs] at hs'
    cases hs'
    exact absurd rfl hne
  · exact .inl ((sound_of_commaAfterArrow? hc).le_of_split hx hw)
  · rw [hs] at hn
    cases hn

theorem isFirst_of_end (hf : findWord? ellipsis text.toList = none)
    (hs : (scan 0 text.toList).2 = none) (ha : .arrow ∉ (scan 0 text.toList).1.map Lexeme.token)
    (ho : Opens ((scan 0 text.toList).1.map Lexeme.token))
    (hall : Sound text 4 ((scan 0 text.toList).1.map Lexeme.token)) :
    IsFirst text ⟨3, (Text.trimRight text.toList).length, [],
      .emptyGroup (((scan 0 text.toList).1.map Lexeme.token).count .comma)⟩ := by
  refine ⟨in_iff_scan.mpr (.inr (.inr (.inr ⟨hs, ha, ho, rfl⟩))), fun o' ho' hne => ?_⟩
  rcases in_iff_scan.mp ho' with ⟨before, after, he, rfl⟩ | ⟨s, hs', rfl⟩ |
    ⟨us, y, vs, stage, fault, hx, hw, rfl⟩ | ⟨-, -, -, rfl⟩
  · exact absurd hf (findWord?_ne_none he)
  · rw [hs] at hs'
    cases hs'
  · exact .inl (hall.le_of_split hx hw)
  · exact absurd rfl hne

theorem not_in (hf : findWord? ellipsis text.toList = none) (hs : (scan 0 text.toList).2 = none)
    (hend : .arrow ∉ (scan 0 text.toList).1.map Lexeme.token →
      ¬ Opens ((scan 0 text.toList).1.map Lexeme.token))
    (hall : Sound text 6 ((scan 0 text.toList).1.map Lexeme.token)) (o : Offence) :
    ¬ o.In text := by
  intro ho
  rcases in_iff_scan.mp ho with ⟨before, after, he, rfl⟩ | ⟨s, hs', rfl⟩ |
    ⟨us, y, vs, stage, fault, hx, hw, rfl⟩ | ⟨-, ha, hop, -⟩
  · exact absurd hf (findWord?_ne_none he)
  · rw [hs] at hs'
    cases hs'
  · have hle := hall.le_of_split hx hw
    have := hw.le_five
    omega
  · exact hend ha hop

theorem report_token (text : String) (y : Lexeme) (stage : Nat) (fault : Fault) :
    report text ⟨stage, y.offset, y.token.chars, fault⟩ = rejection text fault y.span := by
  have hl : max 1 y.token.chars.length = y.token.length := by cases y.token <;> rfl
  rw [report, span, hl]
  rfl

variable {xs : List Lexeme} (hf : findWord? ellipsis text.toList = none)
  (hs : (scan 0 text.toList).2 = none) (hx : (scan 0 text.toList).1 = xs)

include hf hs hx

theorem exists_isFirst_of_inputs (hc : commaAfterArrow? xs = none) {k : Nat}
    (h : (Outline.ofLexemes xs).inputs.findIdx? List.isEmpty = some k) : ∃ o, IsFirst text o ∧
      rejection text (.emptyGroup k) ((Outline.ofLexemes xs).emptySpan text.toList k) =
        report text o := by
  have h₃ : Sound text 3 (xs.map Lexeme.token) := sound_of_commaAfterArrow? hc
  obtain ⟨us, vs, rfl, ha, ho, rfl, hv, hu⟩ := exists_of_inputs h₃ h
  cases vs with
  | nil =>
    rw [List.append_nil] at hx ⊢
    subst hx
    refine ⟨_, isFirst_of_end hf hs ha ho hu, ?_⟩
    rw [emptySpan_of_end rfl (arrow_notMem.mp ha)]
    rfl
  | cons y vs =>
    have ht := hv y rfl
    rw [← hx] at h₃
    refine ⟨_, isFirst_of_token hf (.inr hs) h₃ ⟨us, vs, hx, .emptyGroup ht ha ho, hu⟩,
      ?_⟩
    rw [report_token]
    rcases ht with hy | hy
    · rw [emptySpan_of_comma rfl hy]
    · rw [commaAfterArrow?_append (arrow_notMem.mp ha) hy] at hc
      rw [emptySpan_of_arrow rfl (arrow_notMem.mp ha) hy hc]

theorem exists_isFirst_of_expression (hc : commaAfterArrow? xs = none)
    (h : (Outline.ofLexemes xs).expression text = .error r) :
    ∃ o, IsFirst text o ∧ r = report text o := by
  have h₄ (hi : (Outline.ofLexemes xs).inputs.findIdx? List.isEmpty = none) :
      Sound text 4 (xs.map Lexeme.token) :=
    (sound_four (sound_of_commaAfterArrow? hc)
      fun g hg => by simpa using List.findIdx?_eq_none_iff.mp hi g hg).1
  rw [Outline.expression] at h
  dsimp only at h
  split at h
  next k hi =>
    cases h
    exact exists_isFirst_of_inputs hf hs hx hc hi
  next a b rest hi ha =>
    cases h
    subst hx
    exact ⟨_, isFirst_of_token hf (.inr hs) (h₄ hi) (isFirstWrong_of_arrows (h₄ hi) ha),
      (report_token text b 4 _).symm⟩
  next => cases h
  next a hi ha =>
    have h₄ := h₄ hi
    obtain ⟨before, after, rfl, hb, ha, hn⟩ := exists_of_arrows ha
    obtain ⟨hin, hout, -⟩ := outline_of_arrow hb ha hn
    rw [hin, hout, List.headD_cons] at h
    have h₅ : Sound text 5 ((before ++ a :: after).map Lexeme.token) := by
      rw [List.map_append, List.map_cons, ha] at h₄ ⊢
      exact sound_five (arrow_notMem.mpr hb) (arrow_notMem.mpr hn) h₄
    split at h
    next l n hl =>
      cases h
      have hw := isFirstWrong_of_find? (arrow_notMem.mpr hb) ha h₅ hl
      rw [← hx] at h₅ hw
      exact ⟨_, isFirst_of_token hf (.inr hs) h₅ hw, rfl⟩
    next => cases h

omit hf hs hx

theorem exists_isFirst_of_parse (h : parse text = .error r) :
    ∃ o, IsFirst text o ∧ r = report text o := by
  rw [parse] at h
  dsimp only at h
  split at h
  next n hf =>
    cases h
    exact ⟨_, isFirst_of_findWord? hf, rfl⟩
  next hf =>
    split at h
    next n hc =>
      cases h
      exact ⟨_, isFirst_of_token hf (.inl rfl) (sound_two _ _)
        (isFirstWrong_of_commaAfterArrow? hc), rfl⟩
    next s hc hs =>
      cases h
      exact ⟨_, isFirst_of_stop hf hc hs, rfl⟩
    next hc hs => exact exists_isFirst_of_expression hf hs rfl hc h

theorem not_in_of_parse {e : Expression} (h : parse text = .ok e) (o : Offence) : ¬ o.In text := by
  obtain ⟨hf, hc, hs, he⟩ := parse_eq_ok_iff.mp h
  obtain ⟨hi, hr⟩ := Outline.expression_eq_ok_iff.mp he
  have h₃ : Sound text 3 ((scan 0 text.toList).1.map Lexeme.token) := sound_of_commaAfterArrow? hc
  obtain ⟨h₄, hend⟩ := sound_four h₃ hi
  refine not_in hf hs hend ?_ o
  rcases hr with ⟨ha, -⟩ | ⟨a, ha, hl, -⟩
  · have hn : .arrow ∉ (scan 0 text.toList).1.map Lexeme.token :=
      arrow_notMem.mpr fun x hx => by simpa using List.filter_eq_nil_iff.mp ha x hx
    exact (h₄.of_notMem (by decide) hn).of_notMem (by decide) hn
  · obtain ⟨before, after, hx, hb, ha, hn⟩ := exists_of_arrows ha
    rw [hx] at h₄ hl ⊢
    obtain ⟨hin, hout, -⟩ := outline_of_arrow hb ha hn
    rw [hin, hout, List.headD_cons] at hl
    rw [List.map_append, List.map_cons, ha] at h₄ ⊢
    refine sound_six (arrow_notMem.mpr hb) (fun l hm => ?_)
      (sound_five (arrow_notMem.mpr hb) (arrow_notMem.mpr hn) h₄)
    obtain ⟨x, hx, hxl⟩ := List.mem_map.mp hm
    exact (mem_flatten_labelsOf hb).mp (hl l (mem_labelsOf.mpr ⟨x, hx, hxl⟩))

end Offence

structure Span.Shows (s : Span) (text : String) (word : List Char) : Prop where
  one_le : 1 ≤ s.start
  start_lt : s.start < s.stop
  stop_le : s.stop ≤ text.length + 1
  eq_word : (text.toList.drop (s.start - 1).toNat).take (s.stop - s.start).toNat = word

theorem Span.shows_ofOffset {text : String} {before word after : List Char}
    (he : text.toList = before ++ (word ++ after)) (hw : word ≠ []) :
    (Span.ofOffset before.length word.length).Shows text word := by
  have hpos : 0 < word.length := List.length_pos_of_ne_nil hw
  have hlen : text.length = before.length + (word.length + after.length) := by
    rw [← String.length_toList, he, List.length_append, List.length_append]
  constructor
  case eq_word =>
    have hstart : ((before.length : Int) + 1 - 1).toNat = before.length := by omega
    have hstop : ((before.length : Int) + 1 + word.length - (before.length + 1)).toNat =
        word.length := by omega
    rw [Span.ofOffset, hstart, hstop, he, List.drop_left, List.take_left]
  all_goals
    simp only [Span.ofOffset]
    omega

/-- A text is rejected for its first offence, at the place of that. -/
theorem parse_error_iff_first (text : String) :
    (∀ r, parse text = .error r ↔ ∃ o : Offence, o.IsFirst text ∧ r = o.report text) ∧
      ∀ o : Offence, o.In text →
        o.fault.kind = (if o.stage = 1 then .unsupportedFeature else .malformedSubscripts) ∧
          (o.span.Shows text o.word ∨
            o.word = [] ∧ o.stage = 3 ∧ o.offset = (Text.trimRight text.toList).length) := by
  refine ⟨fun r => ⟨Offence.exists_isFirst_of_parse, ?_⟩, fun o ho => ⟨ho.kind, ?_⟩⟩
  · rintro ⟨o, ho, rfl⟩
    cases hp : parse text with
    | ok e => exact absurd ho.isIn (Offence.not_in_of_parse hp o)
    | error r =>
      obtain ⟨o', ho', rfl⟩ := Offence.exists_isFirst_of_parse hp
      rw [ho.eq ho']
  · rcases ho.stands with ⟨before, after, he, hn, hw⟩ | hw
    · rw [Offence.span, hn, Nat.max_eq_right (List.length_pos_of_ne_nil hw)]
      exact .inl (Span.shows_ofOffset he hw)
    · exact .inr hw

theorem parse_error_iff_first_of_commas :
    let text := ",->,"
    let o : Offence := ⟨2, 3, [','], .misplaced text⟩
    (parse text = .error (o.report text) ∧ ∃ o' : Offence, o'.IsFirst text ∧
      o.report text = o'.report text) ∧
      o.In text ∧ o.fault.kind = .malformedSubscripts ∧ o.span.Shows text o.word := by
  intro text o
  have hp : parse text = .error (o.report text) := by decide
  have ho : o.In text := by
    refine Offence.in_iff_scan.mpr
      (.inr (.inr (.inl ⟨[⟨.comma, 0⟩, ⟨.arrow, 1⟩], ⟨.comma, 3⟩, [], 2, _,
        ?_, ?_, rfl⟩)))
    · decide
    · exact .misplaced (by decide)
  obtain ⟨h₁, h₂⟩ := parse_error_iff_first text
  obtain ⟨hk, hs⟩ := h₂ o ho
  exact ⟨⟨hp, (h₁ _).mp hp⟩, ho, hk, hs.resolve_right fun h => List.cons_ne_nil _ _ h.1⟩

end Einsum

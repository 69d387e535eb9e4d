import Einsum.Proofs.Label
import Einsum.Subscripts.Check

namespace Einsum

theorem isLabel_of_mem_scan {offset : Nat} {cs : List Char} {x : Lexeme}
    (h : x ∈ (scan offset cs).1) {l : Label} (hl : x.token = .label l) : isLabel l = true := by
  fun_induction scan offset cs with
  | case1 => exact absurd h List.not_mem_nil
  | case2 offset cs lexemes stop hs ih =>
    rcases List.mem_cons.mp h with rfl | h
    · cases hl
    · exact ih (by rwa [hs])
  | case3 offset c cs _ _ ih => exact ih h
  | case4 offset c cs _ _ hc lexemes stop hs ih =>
    rcases List.mem_cons.mp h with rfl | h
    · cases hl
      exact hc
    · exact ih (by rwa [hs])
  | case5 offset c cs _ _ _ _ lexemes stop hs ih =>
    rcases List.mem_cons.mp h with rfl | h
    · cases hl
    · exact ih (by rwa [hs])
  | case6 => exact absurd h List.not_mem_nil

theorem mem_labelsOf {xs : List Lexeme} {l : Label} :
    l ∈ labelsOf xs ↔ ∃ x ∈ xs, x.token = .label l := by
  rw [labelsOf]
  fun_induction placedLabels xs with
  | case1 => simp
  | case2 m offset xs ih =>
    rw [List.map_cons, List.mem_cons, ih]
    simp [eq_comm]
  | case3 x xs hx ih =>
    rw [ih]
    have hn : x.token ≠ .label l := fun h => hx l x.offset (by cases x; simp_all)
    simp [hn]

theorem splitLexemes_ne_nil (separator : Token) (xs : List Lexeme) :
    splitLexemes separator xs ≠ [] := by
  fun_cases splitLexemes separator xs <;> exact List.cons_ne_nil _ _

theorem of_mem_splitLexemes {separator : Token} {xs g : List Lexeme}
    (hg : g ∈ splitLexemes separator xs) {x : Lexeme} (hx : x ∈ g) :
    x ∈ xs ∧ x.token ≠ separator := by
  fun_induction splitLexemes separator xs generalizing g with
  | case1 => simp_all
  | case2 y ys hy ih =>
    rcases List.mem_cons.mp hg with rfl | hg
    · exact absurd hx List.not_mem_nil
    · exact (ih hg hx).imp_left (List.mem_cons_of_mem y)
  | case3 y ys _ hs => exact absurd hs (splitLexemes_ne_nil separator ys)
  | case4 y ys hy k ks hs ih =>
    rw [hs] at ih
    rcases List.mem_cons.mp hg with rfl | hg
    · rcases List.mem_cons.mp hx with rfl | hx
      · exact ⟨List.mem_cons_self, hy⟩
      · exact (ih List.mem_cons_self hx).imp_left (List.mem_cons_of_mem y)
    · exact (ih (List.mem_cons_of_mem k hg) hx).imp_left (List.mem_cons_of_mem y)

theorem nodup_of_firstRepeat? {seen ls : Group} (h : firstRepeat? seen ls = none) :
    ls.Nodup ∧ ∀ l ∈ ls, l ∉ seen := by
  induction ls generalizing seen with
  | nil => simp
  | cons l ls ih =>
    rw [firstRepeat?] at h
    split at h
    next => cases h
    next hl =>
      obtain ⟨hn, hs⟩ := ih (Option.map_eq_none_iff.mp h)
      refine ⟨List.nodup_cons.mpr ⟨fun hm => hs l hm List.mem_cons_self, hn⟩, ?_⟩
      rw [List.forall_mem_cons]
      exact ⟨hl, fun m hm hms => hs m hm (List.mem_cons_of_mem l hms)⟩

section

variable {text : String} {e : Expression}

theorem expression_eq_ok {o : Outline} (h : o.expression text = .ok e) :
    e.subscripts.inputs = o.inputs.map labelsOf ∧ (∀ g ∈ o.inputs, g ≠ []) ∧
      ∀ l ∈ e.subscripts.output, l ∈ e.subscripts.axes := by
  rw [Outline.expression] at h
  dsimp only at h
  split at h
  next => cases h
  next => cases h
  next hi _ =>
    cases h
    refine ⟨rfl, fun g hg => by simpa using List.findIdx?_eq_none_iff.mp hi g hg,
      fun l hl => ?_⟩
    exact mem_firsts.mp (List.mem_filter.mp (mem_sortLabels.mp hl)).1
  next hi _ =>
    split at h
    next => cases h
    next hf =>
      cases h
      refine ⟨rfl, fun g hg => by simpa using List.findIdx?_eq_none_iff.mp hi g hg,
        fun l hl => ?_⟩
      obtain ⟨p, hp, rfl⟩ := List.mem_map.mp hl
      simpa [Subscripts.axes] using List.find?_eq_none.mp hf p hp

theorem parse_eq_ok (h : parse text = .ok e) :
    (Outline.ofLexemes (scan 0 text.toList).1).expression text = .ok e := by
  rw [parse] at h
  dsimp only at h
  split at h
  next => cases h
  next =>
    split at h
    next => cases h
    next => cases h
    next => exact h

theorem inputs_of_parse (h : parse text = .ok e) : e.subscripts.inputs ≠ [] ∧
    ∀ g ∈ e.subscripts.inputs, g ≠ [] ∧ ∀ l ∈ g, isLabel l = true := by
  obtain ⟨hi, hne, -⟩ := expression_eq_ok (parse_eq_ok h)
  rw [hi, List.forall_mem_map]
  refine ⟨by simpa [Outline.ofLexemes] using splitLexemes_ne_nil _ _, fun g hg => ?_⟩
  have hg' (x : Lexeme) (hx : x ∈ g) :
      x ∈ (scan 0 text.toList).1 ∧ x.token ≠ .arrow ∧ x.token ≠ .comma := by
    obtain ⟨hm, hc⟩ := of_mem_splitLexemes hg hx
    exact ⟨(List.takeWhile_prefix _).subset hm, by simpa using List.mem_takeWhile_imp hm, hc⟩
  constructor
  · -- Between commas and before the arrow there is nothing but labels.
    obtain ⟨x, hx⟩ := List.exists_mem_of_ne_nil g (hne g hg)
    obtain ⟨-, ha, hc⟩ := hg' x hx
    cases ht : x.token with
    | label l => exact List.ne_nil_of_mem (mem_labelsOf.mpr ⟨x, hx, ht⟩)
    | comma => exact absurd ht hc
    | arrow => exact absurd ht ha
  · intro l hl
    obtain ⟨x, hx, ht⟩ := mem_labelsOf.mp hl
    exact isLabel_of_mem_scan (hg' x hx).1 ht

theorem axes_ne_nil_of_parse (h : parse text = .ok e) : e.subscripts.axes ≠ [] := by
  obtain ⟨hne, hg⟩ := inputs_of_parse h
  obtain ⟨g, hm⟩ := List.exists_mem_of_ne_nil _ hne
  obtain ⟨l, hl⟩ := List.exists_mem_of_ne_nil g (hg g hm).1
  exact List.ne_nil_of_mem (e.subscripts.mem_axes.mpr ⟨g, hm, hl⟩)

theorem check_eq_ok {n : Int} (h : e.check n = .ok ()) :
    n = e.subscripts.inputs.length ∧ e.subscripts.output.Nodup := by
  rw [Expression.check] at h
  split at h
  next => cases h
  next hn =>
    split at h
    next => cases h
    next hr => exact ⟨not_not.mp hn, (nodup_of_firstRepeat? hr).1⟩

theorem validated_of_parse (h : parse text = .ok e) {n : Int} (hc : e.check n = .ok ()) :
    e.subscripts.Validated where
  letters l hl := by
    obtain ⟨g, hg, hlg⟩ := e.subscripts.mem_axes.mp hl
    exact ((inputs_of_parse h).2 g hg).2 l hlg
  output_nodup := (check_eq_ok hc).2
  output_subset := (expression_eq_ok (parse_eq_ok h)).2.2

end

end Einsum

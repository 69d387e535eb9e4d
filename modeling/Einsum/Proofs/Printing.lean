import Einsum.Proofs.Location

namespace Einsum

theorem significant_eq_self {cs : List Char} (h : ∀ c ∈ cs, isIgnored c = false) :
    significant cs = cs :=
  List.filter_eq_self.mpr fun c hc => by simp [h c hc]

theorem arrowsWhole_of_forall {cs : List Char} (h : ∀ c ∈ cs, isIgnored c = false) :
    ArrowsWhole cs := by
  intro before blanks after he hb
  apply List.eq_nil_iff_forall_not_mem.mpr
  intro c hc
  have hn := h c (by simp [he, hc])
  rw [hb c hc] at hn
  cases hn

namespace Subscripts

variable {s : Subscripts}

theorem isIgnored_chars (hg : AreGroups s.inputs)
    (ho : ∀ l ∈ s.output, l ∈ s.inputs.flatten) :
    ∀ c ∈ s.chars, isIgnored c = false := by
  intro c hc
  rw [chars, List.mem_append, List.mem_cons, List.mem_cons] at hc
  rcases hc with hc | rfl | rfl | hc
  · rcases mem_joinGroups hc with rfl | ⟨g, hm, hl⟩
    · decide
    · exact isIgnored_of_isLabel (hg.isLabel_of_mem_flatten (List.mem_flatten.mpr ⟨g, hm, hl⟩))
  · decide
  · decide
  · exact isIgnored_of_isLabel (hg.isLabel_of_mem_flatten (ho c hc))

theorem parse_text (hg : AreGroups s.inputs) (ho : ∀ l ∈ s.output, l ∈ s.inputs.flatten) :
    parse s.text = .ok ⟨s, true, s.text⟩ := by
  have hi := isIgnored_chars hg ho
  have ht : s.text.toList = s.chars := String.toList_ofList
  refine parse_of_arrow ?_ hg ?_ ho
  · rw [ht]
    exact arrowsWhole_of_forall hi
  · rw [ht, significant_eq_self hi]
    rfl

end Subscripts

section

variable {text : String} {e : Expression}

theorem output_subset_of_isReadFrom (h : e.IsReadFrom text) :
    ∀ l ∈ e.subscripts.output, l ∈ e.subscripts.inputs.flatten := by
  have hr := h.reading
  split at hr
  next => exact hr.2
  next => exact fun l hl => List.count_pos_iff.mp (by rw [(hr.2.2 l).mp hl]; decide)

theorem explicit_of_arrow (h : e.IsReadFrom text) (ha : Token.arrow.chars <:+: text.toList) :
    e.explicit = true := by
  by_contra hx
  have hr := h.reading
  rw [if_neg hx] at hr
  have hd : '-' ∈ significant text.toList :=
    List.mem_filter.mpr ⟨ha.subset List.mem_cons_self, by decide⟩
  rw [hr.1] at hd
  exact dash_notMem_joinGroups h.areGroups hd

end

/-- Subscripts are read off their text, and so is what any text says; a text with an arrow is
printed as it stands, without the characters that have no meaning. -/
theorem parse_text_inverse :
    (∀ s : Subscripts, AreGroups s.inputs → (∀ l ∈ s.output, l ∈ s.inputs.flatten) →
      ∃ e, parse s.text = .ok e ∧ e.subscripts = s ∧ e.subscripts.text = s.text) ∧
    (∀ text e, parse text = .ok e → ∃ e', parse e.subscripts.text = .ok e' ∧
      e'.subscripts = e.subscripts) ∧
    ∀ text e, parse text = .ok e → Token.arrow.chars <:+: text.toList →
      e.subscripts.text = String.ofList (significant text.toList) := by
  refine ⟨fun s hg ho => ⟨_, Subscripts.parse_text hg ho, rfl, rfl⟩, fun text e h => ?_,
    fun text e h ha => ?_⟩
  · have hr := isReadFrom_of_parse h
    exact ⟨_, Subscripts.parse_text hr.areGroups (output_subset_of_isReadFrom hr), rfl⟩
  · have hr := isReadFrom_of_parse h
    have hs := hr.reading
    rw [if_pos (explicit_of_arrow hr ha)] at hs
    rw [hs.1]
    rfl

theorem parse_text_inverse_of_blanks :
    let s := Subscripts.mk [['i', 'j'], ['j', 'j']] ['j', 'i', 'j']
    let e : Expression := ⟨⟨[['b', 'a'], ['c']], ['a', 'b', 'c']⟩, false, "ba , c"⟩
    let e' : Expression := ⟨⟨[['i', 'j'], ['j']], ['j', 'j']⟩, true, " ij,\nj->j\tj"⟩
    (∃ e, parse s.text = .ok e ∧ e.subscripts = s ∧ e.subscripts.text = s.text) ∧
      parse "ba , c" = .ok e ∧
        (∃ e', parse e.subscripts.text = .ok e' ∧ e'.subscripts = e.subscripts) ∧
        parse " ij,\nj->j\tj" = .ok e' ∧
          e'.subscripts.text = String.ofList (significant " ij,\nj->j\tj".toList) := by
  intro s e e'
  have hg : AreGroups s.inputs := ⟨List.cons_ne_nil _ _, by simp [s]⟩
  have he : parse "ba , c" = .ok e := by decide
  have he' : parse " ij,\nj->j\tj" = .ok e' := by decide
  have ha : Token.arrow.chars <:+: " ij,\nj->j\tj".toList :=
    ⟨" ij,\nj".toList, "j\tj".toList, by decide⟩
  obtain ⟨h₁, h₂, h₃⟩ := parse_text_inverse
  exact ⟨h₁ s hg (by simp [s]), he, h₂ _ e he, he', h₃ _ e' he' ha⟩

end Einsum

import Einsum.Proofs.Reading

namespace Einsum

def significant (cs : List Char) : List Char := cs.filter fun c => !isIgnored c

/-- Nothing stands between the two characters of an arrow. -/
def ArrowsWhole (cs : List Char) : Prop :=
  ∀ before blanks after, cs = before ++ '-' :: (blanks ++ '>' :: after) →
    (∀ c ∈ blanks, isIgnored c = true) → blanks = []

section

variable {c : Char} {cs : List Char}

theorem significant_cons_of_ignored (h : isIgnored c = true) :
    significant (c :: cs) = significant cs := by
  simp [significant, h]

theorem significant_cons (h : isIgnored c = false) :
    significant (c :: cs) = c :: significant cs := by
  simp [significant, h]

theorem ArrowsWhole.tail (h : ArrowsWhole (c :: cs)) : ArrowsWhole cs :=
  fun before blanks after he => h (c :: before) blanks after (by rw [he, List.cons_append])

theorem ArrowsWhole.cons (h : ArrowsWhole cs) (hc : c = '-' → ∃ cs', cs = '>' :: cs') :
    ArrowsWhole (c :: cs) := by
  intro before blanks after he hb
  cases before with
  | cons d before => exact h before blanks after (List.cons.inj he).2 hb
  | nil =>
    obtain ⟨rfl, ht⟩ := List.cons.inj he
    obtain ⟨cs', rfl⟩ := hc rfl
    cases blanks with
    | nil => rfl
    | cons d blanks =>
      obtain ⟨rfl, -⟩ := List.cons.inj ht
      exact absurd (hb '>' List.mem_cons_self) (by decide)

theorem ArrowsWhole.next (h : ArrowsWhole ('-' :: cs)) {ds : List Char}
    (hs : significant cs = '>' :: ds) :
    ∃ cs', cs = '>' :: cs' := by
  obtain ⟨blanks, after, he, hb, -, -⟩ := List.filter_eq_cons_iff.mp hs
  have hn := h [] blanks after (by rw [he, List.nil_append]) fun d hd => by simpa using hb d hd
  exact ⟨after, by rw [he, hn, List.nil_append]⟩

end

theorem isIgnored_of_isLabel {l : Label} (h : isLabel l = true) : isIgnored l = false := by
  rw [Bool.eq_false_iff]
  intro hi
  simp only [isIgnored, Bool.or_eq_true, beq_iff_eq] at hi
  rcases hi with (((rfl | rfl) | rfl) | rfl) | rfl <;> exact absurd h (by decide)

theorem Token.chars_ne_nil (t : Token) : t.chars ≠ [] := by cases t <;> exact List.cons_ne_nil _ _

-- What `scan` can return: a label among its tokens is a letter.
def Token.IsRead (t : Token) : Prop := ∀ l, t = .label l → isLabel l = true

section

variable {offset : Nat} {cs : List Char}

theorem significant_of_scan (h : (scan offset cs).2 = none) :
    significant cs = ((scan offset cs).1.map Lexeme.token).flatMap Token.chars := by
  fun_induction scan offset cs with
  | case1 => rfl
  | case2 offset cs lexemes stop hs ih =>
    rw [hs] at ih
    rw [significant_cons (by decide), significant_cons (by decide), ih h]
    rfl
  | case3 offset c cs _ hi ih => rw [significant_cons_of_ignored hi, ih h]
  | case4 offset c cs _ hi _ lexemes stop hs ih =>
    rw [hs] at ih
    rw [significant_cons (by simpa using hi), ih h]
    rfl
  | case5 offset c cs _ hi _ hc lexemes stop hs ih =>
    rw [hs] at ih
    rw [significant_cons (by simpa using hi), ih h, beq_iff_eq.mp hc]
    rfl
  | case6 => cases h

theorem arrowsWhole_of_scan (h : (scan offset cs).2 = none) : ArrowsWhole cs := by
  fun_induction scan offset cs with
  | case1 => exact fun before blanks after he => by simp at he
  | case2 offset cs lexemes stop hs ih =>
    rw [hs] at ih
    exact ((ih h).cons fun he => absurd he (by decide)).cons fun _ => ⟨cs, rfl⟩
  | case3 offset c cs _ hi ih => exact (ih h).cons fun he => absurd (he ▸ hi) (by decide)
  | case4 offset c cs _ _ hl lexemes stop hs ih =>
    rw [hs] at ih
    exact (ih h).cons fun he => absurd (he ▸ hl) (by decide)
  | case5 offset c cs _ _ _ hc lexemes stop hs ih =>
    rw [hs] at ih
    exact (ih h).cons fun he => absurd (he ▸ hc) (by decide)
  | case6 => cases h

-- The first character tells the first token, since no two tokens start alike.
theorem flatMap_chars_cases {c : Char} {ds : List Char} {ts : List Token}
    (ht : ∀ t ∈ ts, t.IsRead) (h : c :: ds = ts.flatMap Token.chars) :
    (∃ us, ts = .label c :: us ∧ isLabel c = true ∧ ds = us.flatMap Token.chars) ∨
      (∃ us, ts = .comma :: us ∧ c = ',' ∧ ds = us.flatMap Token.chars) ∨
        ∃ us, ts = .arrow :: us ∧ c = '-' ∧ ds = '>' :: us.flatMap Token.chars := by
  cases ts with
  | nil => cases h
  | cons t us =>
    cases t with
    | label l =>
      obtain ⟨rfl, hd⟩ := List.cons.inj h
      exact .inl ⟨us, rfl, ht _ List.mem_cons_self c rfl, hd⟩
    | comma => exact .inr (.inl ⟨us, rfl, (List.cons.inj h).1, (List.cons.inj h).2⟩)
    | arrow => exact .inr (.inr ⟨us, rfl, (List.cons.inj h).1, (List.cons.inj h).2⟩)

/-- Tokens are read off what means something in a text, if its arrows are whole. -/
theorem scan_of_significant (offset : Nat) {ts : List Token} (hw : ArrowsWhole cs)
    (ht : ∀ t ∈ ts, t.IsRead) (h : significant cs = ts.flatMap Token.chars) :
    (scan offset cs).2 = none ∧ (scan offset cs).1.map Lexeme.token = ts := by
  fun_induction scan offset cs generalizing ts with
  | case1 =>
    refine ⟨rfl, ?_⟩
    cases ts with
    | nil => rfl
    | cons t ts => simp [significant, t.chars_ne_nil] at h
  | case2 offset cs lexemes stop hs ih =>
    rw [hs] at ih
    rw [significant_cons (by decide), significant_cons (by decide)] at h
    rcases flatMap_chars_cases ht h with ⟨us, rfl, hl, -⟩ | ⟨us, rfl, hc, -⟩ | ⟨us, rfl,
      -, hd⟩
    · exact absurd hl (by decide)
    · exact absurd hc (by decide)
    · obtain ⟨hn, hm⟩ := ih hw.tail.tail (List.forall_mem_cons.mp ht).2 (List.cons.inj hd).2
      exact ⟨hn, congrArg (Token.arrow :: ·) hm⟩
  | case3 offset c cs _ hi ih =>
    rw [significant_cons_of_ignored hi] at h
    exact ih hw.tail ht h
  | case4 offset c cs _ hi hl lexemes stop hs ih =>
    rw [hs] at ih
    rw [significant_cons (by simpa using hi)] at h
    rcases flatMap_chars_cases ht h with ⟨us, rfl, -, hd⟩ | ⟨us, rfl, rfl, -⟩ | ⟨us, rfl,
      rfl, -⟩
    · obtain ⟨hn, hm⟩ := ih hw.tail (List.forall_mem_cons.mp ht).2 hd
      exact ⟨hn, congrArg (Token.label c :: ·) hm⟩
    · exact absurd hl (by decide)
    · exact absurd hl (by decide)
  | case5 offset c cs _ hi hl hc lexemes stop hs ih =>
    rw [hs] at ih
    rw [significant_cons (by simpa using hi)] at h
    rcases flatMap_chars_cases ht h with ⟨us, rfl, hl', -⟩ | ⟨us, rfl, -, hd⟩ | ⟨us, rfl,
      rfl, -⟩
    · exact absurd hl' hl
    · obtain ⟨hn, hm⟩ := ih hw.tail (List.forall_mem_cons.mp ht).2 hd
      exact ⟨hn, congrArg (Token.comma :: ·) hm⟩
    · exact absurd hc (by decide)
  | case6 offset c cs hd hi hl hc =>
    -- The reader stops at a dash that starts no arrow; then the next token would be a torn arrow.
    rw [significant_cons (by simpa using hi)] at h
    rcases flatMap_chars_cases ht h with ⟨us, rfl, hl', -⟩ | ⟨us, rfl, hc', -⟩ | ⟨us,
      rfl, rfl, hs⟩
    · exact absurd hl' hl
    · exact absurd (beq_iff_eq.mpr hc') hc
    · obtain ⟨cs', rfl⟩ := hw.next hs
      exact absurd rfl (hd cs' rfl)

end

end Einsum

import Einsum.Proofs.Location

namespace Einsum

/-- Tokens one after the other, with nothing but ignored characters between them. -/
inductive Spells : List Char → List Token → Prop
  | nil : Spells [] []
  | blank {c : Char} {cs : List Char} {ts : List Token} : isIgnored c = true → Spells cs ts →
      Spells (c :: cs) ts
  | token {t : Token} {cs : List Char} {ts : List Token} : t.IsRead → Spells cs ts →
      Spells (t.chars ++ cs) (t :: ts)

def StartsToken (cs : List Char) : Prop := ∃ t after, Token.IsRead t ∧ cs = t.chars ++ after

theorem Token.isRead_comma : Token.comma.IsRead := by
  intro l h
  cases h

theorem Token.isRead_arrow : Token.arrow.IsRead := by
  intro l h
  cases h

theorem Token.isRead_label {l : Label} (h : isLabel l = true) : (Token.label l).IsRead := by
  intro m hm
  cases hm
  exact h

section

variable {k : Nat} {c : Char} {cs : List Char} {t : Token}

theorem scan_blank (h : isIgnored c = true) : scan k (c :: cs) = scan (k + 1) cs := by
  rw [scan.eq_3, if_pos h]
  rintro ds rfl -
  exact absurd h (by decide)

theorem scan_token (h : t.IsRead) : scan k (t.chars ++ cs) =
    (⟨t, k⟩ :: (scan (k + t.chars.length) cs).1, (scan (k + t.chars.length) cs).2) := by
  cases t with
  | label l =>
    have hl := h l rfl
    have hi : ¬ isIgnored l = true := by simp [isIgnored_of_isLabel hl]
    rw [Token.chars, List.singleton_append, scan.eq_3, if_neg hi, if_pos hl]
    · rfl
    · rintro ds rfl -
      exact absurd hl (by decide)
  | comma => rfl
  | arrow => rfl

theorem scan_stop (hi : isIgnored c = false) (h : ¬ StartsToken (c :: cs)) :
    scan k (c :: cs) = ([], some ⟨c, k⟩) := by
  have hl : ¬ isLabel c = true := fun hl => h ⟨.label c, cs, Token.isRead_label hl, rfl⟩
  have hc : ¬ (c == ',') = true :=
    fun hc => h ⟨.comma, cs, Token.isRead_comma, by rw [beq_iff_eq.mp hc]; rfl⟩
  rw [scan.eq_3, if_neg (by simp [hi]), if_neg hl, if_neg hc]
  rintro ds rfl rfl
  exact h ⟨.arrow, ds, Token.isRead_arrow, rfl⟩

end

/-- A text is read from the left: it ends, or it starts with an ignored character, with a token, or
with something else. -/
@[elab_as_elim]
theorem text_induction {P : List Char → Prop} (nil : P [])
    (blank : ∀ c cs, isIgnored c = true → P cs → P (c :: cs))
    (token : ∀ t cs, Token.IsRead t → P cs → P (t.chars ++ cs))
    (stop : ∀ c cs, isIgnored c = false → ¬ StartsToken (c :: cs) → P (c :: cs))
    (cs : List Char) : P cs := by
  have h (k : Nat) : P cs := by
    fun_induction scan k cs with
    | case1 => exact nil
    | case2 offset cs _ _ _ ih => exact token .arrow cs Token.isRead_arrow ih
    | case3 offset c cs _ hi ih => exact blank c cs hi ih
    | case4 offset c cs _ _ hl _ _ _ ih => exact token (.label c) cs (Token.isRead_label hl) ih
    | case5 offset c cs _ _ _ hc _ _ _ ih =>
      rw [beq_iff_eq.mp hc]
      exact token .comma cs Token.isRead_comma ih
    | case6 offset c cs hd hi hl hc =>
      refine stop c cs (by simpa using hi) ?_
      rintro ⟨t, after, ht, he⟩
      cases t with
      | label l =>
        obtain ⟨rfl, -⟩ := List.cons.inj he
        exact hl (ht c rfl)
      | comma =>
        obtain ⟨rfl, -⟩ := List.cons.inj he
        exact hc rfl
      | arrow =>
        obtain ⟨rfl, rfl⟩ := List.cons.inj he
        exact hd after rfl rfl
  exact h 0

section

variable {k : Nat} {cs before after : List Char} {ts : List Token}

theorem Spells.map_token_scan (h : Spells cs ts) : (scan k cs).1.map Lexeme.token = ts := by
  induction h generalizing k with
  | nil => rfl
  | blank hc _ ih => rw [scan_blank hc, ih]
  | token ht _ ih => rw [scan_token ht, List.map_cons, ih]

theorem Spells.stop_eq_none (h : Spells cs ts) : (scan k cs).2 = none := by
  induction h generalizing k with
  | nil => rfl
  | blank hc _ ih => rw [scan_blank hc, ih]
  | token ht _ ih => rw [scan_token ht, ih]

theorem Spells.scan_append (h : Spells before ts) : scan k (before ++ after) =
    ((scan k before).1 ++ (scan (k + before.length) after).1,
      (scan (k + before.length) after).2) := by
  induction h generalizing k with
  | nil => rfl
  | blank hc _ ih =>
    rw [List.cons_append, scan_blank hc, scan_blank hc, ih, List.length_cons, Nat.add_right_comm,
      Nat.add_assoc]
  | token ht _ ih =>
    rw [List.append_assoc, scan_token ht, scan_token ht, ih, List.length_append, Nat.add_assoc]
    rfl

theorem spells_of_scan (h : (scan k cs).2 = none) : Spells cs ((scan k cs).1.map Lexeme.token) := by
  induction cs using text_induction generalizing k with
  | nil => exact .nil
  | blank c cs hc ih =>
    rw [scan_blank hc] at h ⊢
    exact .blank hc (ih h)
  | token t cs ht ih =>
    rw [scan_token ht] at h ⊢
    exact .token ht (ih h)
  | stop c cs hi hn =>
    rw [scan_stop hi hn] at h
    cases h

/-- A lexeme is a token of the text at its offset, behind the tokens before it. -/
theorem mem_scan_iff {us : List Token} {t : Token} {n : Nat} :
    (∃ xs ys, (scan k cs).1 = xs ++ ⟨t, n⟩ :: ys ∧ xs.map Lexeme.token = us) ↔
      ∃ before after, cs = before ++ (t.chars ++ after) ∧ Spells before us ∧ t.IsRead ∧
        n = k + before.length := by
  constructor
  · rintro ⟨xs, ys, hx, rfl⟩
    induction cs using text_induction generalizing k xs with
    | nil => simp [scan] at hx
    | blank c cs hc ih =>
      rw [scan_blank hc] at hx
      obtain ⟨before, after, rfl, hb, ht, rfl⟩ := ih xs hx
      exact ⟨c :: before, after, rfl, .blank hc hb, ht, by rw [List.length_cons]; omega⟩
    | token t' cs ht' ih =>
      rw [scan_token ht'] at hx
      cases xs with
      | nil =>
        obtain ⟨he, -⟩ := List.cons.inj hx
        cases he
        exact ⟨[], cs, rfl, .nil, ht', rfl⟩
      | cons x xs =>
        obtain ⟨rfl, hxs⟩ := List.cons.inj hx
        obtain ⟨before, after, rfl, hb, ht, rfl⟩ := ih xs hxs
        refine ⟨t'.chars ++ before, after, by rw [List.append_assoc], .token ht' hb, ht, ?_⟩
        rw [List.length_append, Nat.add_assoc]
    | stop c cs hi hn =>
      rw [scan_stop hi hn] at hx
      simp at hx
  · rintro ⟨before, after, rfl, hb, ht, rfl⟩
    rw [hb.scan_append, scan_token ht]
    exact ⟨_, _, rfl, hb.map_token_scan⟩

theorem stop_scan_iff {c : Char} {n : Nat} : (scan k cs).2 = some ⟨c, n⟩ ↔
    ∃ before after ts, cs = before ++ c :: after ∧ Spells before ts ∧ isIgnored c = false ∧
      ¬ StartsToken (c :: after) ∧ n = k + before.length := by
  constructor
  · intro h
    induction cs using text_induction generalizing k with
    | nil => cases h
    | blank d cs hd ih =>
      rw [scan_blank hd] at h
      obtain ⟨before, after, ts, rfl, hb, hi, hn, rfl⟩ := ih h
      exact ⟨d :: before, after, ts, rfl, .blank hd hb, hi, hn, by rw [List.length_cons]; omega⟩
    | token t cs ht ih =>
      rw [scan_token ht] at h
      obtain ⟨before, after, ts, rfl, hb, hi, hn, rfl⟩ := ih h
      refine ⟨t.chars ++ before, after, t :: ts, by rw [List.append_assoc], .token ht hb, hi,
        hn, ?_⟩
      rw [List.length_append, Nat.add_assoc]
    | stop d cs hi hn =>
      rw [scan_stop hi hn] at h
      cases h
      exact ⟨[], cs, [], rfl, .nil, hi, hn, rfl⟩
  · rintro ⟨before, after, ts, rfl, hb, hi, hn, rfl⟩
    rw [hb.scan_append, scan_stop hi hn]

def places (k : Nat) (cs : List Char) : List Nat :=
  (scan k cs).1.map Lexeme.offset ++ ((scan k cs).2.map Stop.offset).toList

theorem pairwise_places (k : Nat) (cs : List Char) :
    (places k cs).Pairwise (· < ·) ∧ ∀ n ∈ places k cs, k ≤ n := by
  induction cs using text_induction generalizing k with
  | nil => exact ⟨.nil, by simp [places, scan]⟩
  | blank c cs hc ih =>
    rw [places, scan_blank hc]
    exact ⟨(ih (k + 1)).1, fun n hn => Nat.le_of_succ_le ((ih (k + 1)).2 n hn)⟩
  | token t cs ht ih =>
    obtain ⟨hp, hk⟩ := ih (k + t.chars.length)
    have hpos : 0 < t.chars.length := List.length_pos_of_ne_nil t.chars_ne_nil
    have he : places k (t.chars ++ cs) = k :: places (k + t.chars.length) cs := by
      rw [places, scan_token ht]
      rfl
    rw [he, List.pairwise_cons, List.forall_mem_cons]
    refine ⟨⟨fun n hn => ?_, hp⟩, Nat.le_refl k, fun n hn => ?_⟩
    · have := hk n hn
      omega
    · have := hk n hn
      omega
  | stop c cs hi hn =>
    have he : places k (c :: cs) = [k] := by
      rw [places, scan_stop hi hn]
      rfl
    rw [he]
    exact ⟨List.pairwise_singleton _ k, by simp⟩

theorem pairwise_offset (k : Nat) (cs : List Char) :
    (scan k cs).1.Pairwise fun x y => x.offset < y.offset :=
  List.pairwise_map.mp (List.pairwise_append.mp (pairwise_places k cs).1).1

theorem offset_lt_of_stop {x : Lexeme} (hx : x ∈ (scan k cs).1) {s : Stop}
    (hs : (scan k cs).2 = some s) :
    x.offset < s.offset := by
  refine (List.pairwise_append.mp (pairwise_places k cs).1).2.2 _ (List.mem_map_of_mem hx) _ ?_
  rw [hs]
  exact List.mem_singleton_self _

end

end Einsum

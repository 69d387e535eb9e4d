import Einsum.Kernel.Basic
import Einsum.Proofs.Label

namespace Einsum

section

variable {α : Type} {c : α} {as bs as' bs' : List α}

theorem append_cons_inj_left (ha : c ∉ as) (hb : c ∉ bs) (h : as ++ c :: as' = bs ++ c :: bs') :
    as = bs ∧ as' = bs' := by
  induction as generalizing bs with
  | nil =>
    cases bs with
    | nil => exact ⟨rfl, (List.cons.inj h).2⟩
    | cons b bs => exact absurd ((List.cons.inj h).1 ▸ List.mem_cons_self) hb
  | cons a as ih =>
    cases bs with
    | nil => exact absurd ((List.cons.inj h).1 ▸ List.mem_cons_self) ha
    | cons b bs =>
      obtain ⟨rfl, ht⟩ := List.cons.inj h
      obtain ⟨rfl, rfl⟩ := ih (fun hm => ha (List.mem_cons_of_mem _ hm))
        (fun hm => hb (List.mem_cons_of_mem _ hm)) ht
      exact ⟨rfl, rfl⟩

theorem append_cons_inj_right (ha : c ∉ as') (hb : c ∉ bs')
    (h : as ++ c :: as' = bs ++ c :: bs') :
    as = bs ∧ as' = bs' := by
  have hr := congrArg List.reverse h
  simp only [List.reverse_append, List.reverse_cons, List.append_assoc, List.singleton_append] at hr
  obtain ⟨h', h⟩ :=
    append_cons_inj_left (mt List.mem_reverse.mp ha) (mt List.mem_reverse.mp hb) hr
  exact ⟨List.reverse_inj.mp h, List.reverse_inj.mp h'⟩

end

def IsMark (c : Char) : Prop := isLabel c = false

namespace Subscripts

variable {s u : Subscripts} {c : Char}

def Avoids (s : Subscripts) (c : Char) : Prop := (∀ g ∈ s.inputs, c ∉ g) ∧ c ∉ s.output

structure Delimited (s : Subscripts) : Prop where
  comma : s.Avoids ','
  dash : s.Avoids '-'
  colon : s.Avoids ':'
  underscore : s.Avoids '_'

theorem Validated.avoids (hs : s.Validated) (hc : IsMark c) : s.Avoids c := by
  have hne {l : Label} (hl : l ∈ s.axes) : c ≠ l := by
    rintro rfl
    have h := hs.letters c hl
    rw [hc] at h
    cases h
  exact ⟨fun g hg hm => hne (s.mem_axes.mpr ⟨g, hg, hm⟩) rfl,
    fun hm => hne (hs.output_subset c hm) rfl⟩

theorem Validated.delimited (hs : s.Validated) : s.Delimited :=
  ⟨hs.avoids rfl, hs.avoids rfl, hs.avoids rfl, hs.avoids rfl⟩

theorem mem_joinGroups {gs : List Group} (h : c ∈ joinGroups gs) :
    c = ',' ∨ ∃ g ∈ gs, c ∈ g := by
  induction gs using joinGroups.induct with
  | case1 => simp [joinGroups] at h
  | case2 g => exact .inr ⟨g, List.mem_singleton_self g, h⟩
  | case3 g gs hne ih =>
    rw [joinGroups] at h
    · rcases List.mem_append.mp h with h | h
      · exact .inr ⟨g, List.mem_cons_self, h⟩
      · rcases List.mem_cons.mp h with h | h
        · exact .inl h
        · rcases ih h with h | ⟨g', hg', h⟩
          · exact .inl h
          · exact .inr ⟨g', List.mem_cons_of_mem g hg', h⟩
    · exact hne

theorem Avoids.notMem_joinGroups (hs : s.Avoids c) (hne : c ≠ ',') :
    c ∉ joinGroups s.inputs := by
  intro hm
  rcases mem_joinGroups hm with h | ⟨g, hg, h⟩
  · exact hne h
  · exact hs.1 g hg h

theorem joinGroups_cons {g : Group} {gs : List Group} (h : gs ≠ []) :
    joinGroups (g :: gs) = g ++ ',' :: joinGroups gs := by
  cases gs with
  | nil => exact absurd rfl h
  | cons => rfl

theorem joinGroups_inj {gs hs : List Group} (hg : ∀ g ∈ gs, ',' ∉ g)
    (hh : ∀ h ∈ hs, ',' ∉ h) (hgn : gs ≠ []) (hhn : hs ≠ [])
    (h : joinGroups gs = joinGroups hs) : gs = hs := by
  induction gs generalizing hs with
  | nil => exact absurd rfl hgn
  | cons g gs ih =>
    obtain ⟨k, hs, rfl⟩ := List.exists_cons_of_ne_nil hhn
    have hgc := hg g List.mem_cons_self
    have hkc := hh k List.mem_cons_self
    by_cases hgs : gs = []
    · by_cases hhs : hs = []
      · subst gs hs
        rw [joinGroups, joinGroups] at h
        rw [h]
      · subst gs
        rw [joinGroups_cons hhs, joinGroups] at h
        exact absurd (by simp [h]) hgc
    · by_cases hhs : hs = []
      · subst hs
        rw [joinGroups_cons hgs, joinGroups] at h
        exact absurd (by simp [← h]) hkc
      · rw [joinGroups_cons hgs, joinGroups_cons hhs] at h
        obtain ⟨rfl, ht⟩ := append_cons_inj_left hgc hkc h
        rw [ih (fun x hx => hg x (List.mem_cons_of_mem _ hx))
          (fun x hx => hh x (List.mem_cons_of_mem _ hx)) hgs hhs ht]

theorem text_inj (hs : s.Delimited) (hu : u.Delimited) (hsn : s.inputs ≠ [])
    (hun : u.inputs ≠ []) (h : s.text = u.text) : s = u := by
  obtain ⟨hi, ho⟩ := append_cons_inj_left (hs.dash.notMem_joinGroups (by decide))
    (hu.dash.notMem_joinGroups (by decide)) (String.ofList_inj.mp h)
  have hin := joinGroups_inj hs.comma.1 hu.comma.1 hsn hun hi
  have hout := (List.cons.inj ho).2
  cases s
  cases u
  simp_all

theorem flatMap_mark_inj {gs ks : List Group} {o p : Group} (hg : ∀ g ∈ gs, '_' ∉ g)
    (hk : ∀ k ∈ ks, '_' ∉ k) (ho : '_' ∉ o) (hp : '_' ∉ p)
    (h : gs.flatMap (· ++ ['_']) ++ '_' :: o = ks.flatMap (· ++ ['_']) ++ '_' :: p) :
    gs = ks ∧ o = p := by
  have hcons (g : Group) (gs : List Group) (o : Group) : (g :: gs).flatMap (· ++ ['_']) ++
      '_' :: o = g ++ '_' :: (gs.flatMap (· ++ ['_']) ++ '_' :: o) := by simp
  have hnil : '_' ∉ ([] : Group) := List.not_mem_nil
  -- A group ends at its first underscore; an underscore where a group should start ends the inputs.
  induction gs generalizing ks with
  | nil =>
    cases ks with
    | nil => exact ⟨rfl, (List.cons.inj h).2⟩
    | cons k ks =>
      rw [hcons] at h
      obtain ⟨-, rfl⟩ := append_cons_inj_left hnil (hk k List.mem_cons_self) h
      exact absurd (by simp) ho
  | cons g gs ih =>
    cases ks with
    | nil =>
      rw [hcons] at h
      obtain ⟨-, rfl⟩ := append_cons_inj_left (hg g List.mem_cons_self) hnil h
      exact absurd (by simp) hp
    | cons k ks =>
      rw [hcons, hcons] at h
      obtain ⟨rfl, ht⟩ :=
        append_cons_inj_left (hg g List.mem_cons_self) (hk k List.mem_cons_self) h
      obtain ⟨rfl, rfl⟩ := ih (fun x hx => hg x (List.mem_cons_of_mem _ hx))
        (fun x hx => hk x (List.mem_cons_of_mem _ hx)) ht
      exact ⟨rfl, rfl⟩

theorem identifier_inj (hs : s.Delimited) (hu : u.Delimited) (h : s.identifier = u.identifier) :
    s = u := by
  obtain ⟨hi, ho⟩ := flatMap_mark_inj hs.underscore.1 hu.underscore.1 hs.underscore.2
    hu.underscore.2 (String.ofList_inj.mp h)
  cases s
  cases u
  simp_all

theorem letter_ne {n : Nat} (hc : c.toNat < 97) (hz : c.toNat ≠ 0) : letter n ≠ c := by
  rintro rfl
  -- Where the count meets no character, the letter is the character zero.
  by_cases hv : ('a'.toNat + n).isValidChar
  · have hn : (letter n).toNat = 97 + n := by
      rw [letter, Char.ofNat, dif_pos hv]
      exact Char.toNat_ofNatAux hv
    omega
  · exact hz (by rw [letter, Char.ofNat, dif_neg hv]; rfl)

theorem canonical_delimited (s : Subscripts) : s.canonical.Delimited := by
  have h {c : Char} (hc : c.toNat < 97) (hz : c.toNat ≠ 0) : s.canonical.Avoids c := by
    have hmap (g : Group) : c ∉ g.map s.canonicalLabel := by
      intro hm
      obtain ⟨l, -, hl⟩ := List.mem_map.mp hm
      exact letter_ne hc hz hl
    refine ⟨fun g hg => ?_, hmap s.output⟩
    obtain ⟨g, -, rfl⟩ := List.mem_map.mp hg
    exact hmap g
  exact ⟨h (by decide) (by decide), h (by decide) (by decide), h (by decide) (by decide),
    h (by decide) (by decide)⟩

end Subscripts

namespace Kernel

variable {kind kind' : KernelKind} {pattern pattern' : Subscripts} {namePrefix namePrefix' : String}

theorem nameOf_inj (hp : pattern.Delimited) (hp' : pattern'.Delimited)
    (h : nameOf pattern namePrefix = nameOf pattern' namePrefix) : pattern = pattern' := by
  have hl := congrArg String.toList h
  rw [nameOf, nameOf, String.toList_append, String.toList_append] at hl
  exact Subscripts.identifier_inj hp hp' (String.toList_inj.mp (List.append_cancel_left hl))

theorem toList_key : (key pattern kind namePrefix).toList =
    kind.name.toList ++ ':' :: ((nameOf pattern namePrefix).toList ++ ':' :: pattern.chars) := by
  simp [key, toString, String.toList_append, Subscripts.text]

theorem kindName_inj (h : kind.name = kind'.name) : kind = kind' := by
  cases kind <;> cases kind' <;> simp [KernelKind.name] at h ⊢

theorem key_inj (hp : pattern.Delimited) (hp' : pattern'.Delimited) (hn : pattern.inputs ≠ [])
    (hn' : pattern'.inputs ≠ [])
    (h : key pattern kind namePrefix = key pattern' kind' namePrefix') :
    kind = kind' ∧ nameOf pattern namePrefix = nameOf pattern' namePrefix' ∧
      pattern = pattern' := by
  have hl := congrArg String.toList h
  have hk (k : KernelKind) : ':' ∉ k.name.toList := by cases k <;> decide
  have hc {p : Subscripts} (hp : p.Delimited) : ':' ∉ p.chars := by
    simp [Subscripts.chars, hp.colon.notMem_joinGroups (by decide), hp.colon.2]
  rw [toList_key, toList_key] at hl
  -- The kind ends at the first colon and the pattern starts after the last; the name may hold
  -- others.
  obtain ⟨hkind, hrest⟩ := append_cons_inj_left (hk kind) (hk kind') hl
  obtain ⟨hname, htext⟩ := append_cons_inj_right (hc hp) (hc hp') hrest
  exact ⟨kindName_inj (String.toList_inj.mp hkind), String.toList_inj.mp hname,
    Subscripts.text_inj hp hp' hn hn' (congrArg String.ofList htext)⟩

theorem namePrefix_inj (h : nameOf pattern namePrefix = nameOf pattern namePrefix') :
    namePrefix = namePrefix' := by
  have hl := congrArg String.toList h
  rw [nameOf, nameOf, String.toList_append, String.toList_append] at hl
  exact String.toList_inj.mp (List.append_cancel_right hl)

/-- Two kernels of canonical patterns share a key only if they agree in pattern, kind and prefix,
and share a name under one prefix only if they agree in pattern. -/
theorem eq_of_key_canonical_eq (s u : Subscripts) (hs : s.canonical.inputs ≠ [])
    (hu : u.canonical.inputs ≠ []) (kind kind' : KernelKind) (namePrefix namePrefix' : String) :
    (key s.canonical kind namePrefix = key u.canonical kind' namePrefix' →
      s.canonical = u.canonical ∧ kind = kind' ∧ namePrefix = namePrefix') ∧
    (nameOf s.canonical namePrefix = nameOf u.canonical namePrefix →
      s.canonical = u.canonical) := by
  refine ⟨fun h => ?_, nameOf_inj s.canonical_delimited u.canonical_delimited⟩
  obtain ⟨hkind, hname, hpattern⟩ := key_inj s.canonical_delimited u.canonical_delimited hs hu h
  rw [hpattern] at hname
  exact ⟨hpattern, hkind, namePrefix_inj hname⟩

/-- Two kernels may share a name under different prefixes; their keys still differ. -/
theorem key_ne_of_shared_name :
    nameOf (Subscripts.canonical ⟨[['a'], ['a']], []⟩) "k_" =
      nameOf (Subscripts.canonical ⟨[['a']], []⟩) "k_a_" ∧
    key (Subscripts.canonical ⟨[['a'], ['a']], []⟩) .generalReduction "k_" ≠
      key (Subscripts.canonical ⟨[['a']], []⟩) .generalReduction "k_a_" := by
  refine ⟨by decide +kernel, fun h => ?_⟩
  have hne : Subscripts.canonical ⟨[['a'], ['a']], []⟩ ≠
      Subscripts.canonical ⟨[['a']], []⟩ := by decide +kernel
  exact hne ((eq_of_key_canonical_eq _ _ (by decide +kernel) (by decide +kernel) _ _ _ _).1 h).1

end Kernel

end Einsum

import Einsum.Subscripts
import Einsum.Subscripts.Token
import Mathlib

namespace Einsum

section

variable {α β : Type} [DecidableEq α] [DecidableEq β]

@[simp]
theorem mem_firsts {a : α} {as : List α} : a ∈ firsts as ↔ a ∈ as := by
  induction as with
  | nil => rfl
  | cons b as ih => by_cases h : a = b <;> simp [firsts, h, ih]

theorem nodup_firsts (as : List α) : (firsts as).Nodup := by
  induction as with
  | nil => exact List.nodup_nil
  | cons a as ih =>
    rw [firsts, List.nodup_cons]
    exact ⟨by simp, ih.filter _⟩

/-- Renaming that keeps the members of a list apart keeps their order of first appearance. -/
theorem firsts_map (f : α → β) (as : List α) (hf : Set.InjOn f {a | a ∈ as}) :
    firsts (as.map f) = (firsts as).map f := by
  induction as with
  | nil => rfl
  | cons a as ih =>
    have hi := ih (hf.mono fun b hb => List.mem_cons_of_mem a hb)
    rw [List.map_cons, firsts, firsts, hi, List.map_cons, List.filter_map]
    congr 2
    apply List.filter_congr
    intro b hb
    have he : f b = f a ↔ b = a :=
      ⟨fun h => hf (List.mem_cons_of_mem a (mem_firsts.mp hb)) List.mem_cons_self h,
        fun h => h ▸ rfl⟩
    simp [he]

theorem mem_repeated {a : α} {as : List α} : a ∈ repeated as ↔ 1 < as.count a := by
  rw [repeated, List.mem_filter, mem_firsts, decide_eq_true_eq]
  refine ⟨And.right, fun h => ⟨?_, h⟩⟩
  exact List.count_pos_iff.mp (by omega)

end

section

variable {α : Type} (le : α → α → Bool)

theorem insertOrdered_perm (a : α) (as : List α) : (insertOrdered le a as).Perm (a :: as) := by
  induction as with
  | nil => exact List.Perm.refl _
  | cons b as ih =>
    rw [insertOrdered]
    split
    · exact List.Perm.refl _
    · exact (ih.cons b).trans (List.Perm.swap a b as)

theorem sorted_perm (as : List α) : (sorted le as).Perm as := by
  induction as with
  | nil => exact List.Perm.refl _
  | cons a as ih => exact (insertOrdered_perm le a _).trans (ih.cons a)

end

section

variable {α : Type} {le : α → α → Bool}

theorem pairwise_insertOrdered (ht : ∀ a b c, le a b = true → le b c = true → le a c = true)
    (hc : ∀ a b, le a b = true ∨ le b a = true) {a : α} {as : List α}
    (h : as.Pairwise (le · · = true)) :
    (insertOrdered le a as).Pairwise (le · · = true) := by
  induction as with
  | nil => exact List.pairwise_singleton _ a
  | cons b as ih =>
    obtain ⟨hb, has⟩ := List.pairwise_cons.mp h
    rw [insertOrdered]
    split
    next hab =>
      refine List.pairwise_cons.mpr ⟨?_, h⟩
      rw [List.forall_mem_cons]
      exact ⟨hab, fun c hm => ht a b c hab (hb c hm)⟩
    next hab =>
      refine List.pairwise_cons.mpr ⟨fun c hm => ?_, ih has⟩
      rcases List.mem_cons.mp ((insertOrdered_perm le a as).mem_iff.mp hm) with rfl | hm
      · exact (hc b c).resolve_right hab
      · exact hb c hm

theorem pairwise_sorted (ht : ∀ a b c, le a b = true → le b c = true → le a c = true)
    (hc : ∀ a b, le a b = true ∨ le b a = true) (as : List α) :
    (sorted le as).Pairwise (le · · = true) := by
  induction as with
  | nil => exact List.Pairwise.nil
  | cons a as ih => exact pairwise_insertOrdered ht hc ih

end

theorem sortLabels_perm (g : Group) : (sortLabels g).Perm g := sorted_perm _ g

@[simp]
theorem mem_sortLabels {l : Label} {g : Group} : l ∈ sortLabels g ↔ l ∈ g :=
  (sortLabels_perm g).mem_iff

theorem nodup_sortLabels {g : Group} (h : g.Nodup) : (sortLabels g).Nodup :=
  (sortLabels_perm g).nodup_iff.mpr h

theorem pairwise_sortLabels {g : Group} (h : g.Nodup) : (sortLabels g).Pairwise (· < ·) := by
  have hs : (sortLabels g).Pairwise fun a b => decide (a ≤ b) = true :=
    pairwise_sorted (fun a b c hab hbc => decide_eq_true
      ((of_decide_eq_true hab).trans (of_decide_eq_true hbc)))
      (fun a b => by simpa using le_total a b) g
  have hn := nodup_sortLabels h
  exact (hs.and hn).imp fun hab => lt_of_le_of_ne (of_decide_eq_true hab.1) hab.2

namespace Subscripts

variable (s : Subscripts)

theorem mem_axes {l : Label} : l ∈ s.axes ↔ ∃ g ∈ s.inputs, l ∈ g := List.mem_flatten

theorem mem_labels {l : Label} : l ∈ s.labels ↔ l ∈ s.axes ∨ l ∈ s.output := by
  rw [labels, mem_firsts, List.mem_append]

theorem nodup_labels : s.labels.Nodup := nodup_firsts _

theorem mem_summed {l : Label} : l ∈ s.summed ↔ l ∈ s.axes ∧ l ∉ s.output := by
  rw [summed, mem_sortLabels, List.mem_filter, mem_firsts, decide_eq_true_eq]

theorem nodup_summed : s.summed.Nodup := nodup_sortLabels ((nodup_firsts _).filter _)

theorem axes_relabel (f : Label → Label) : (s.relabel f).axes = s.axes.map f := by
  simp [axes, relabel, List.map_flatten]

end Subscripts

theorem isLabel_iff {l : Label} : isLabel l = true ↔ 97 ≤ l.toNat ∧ l.toNat ≤ 122 := by
  rw [isLabel, Bool.and_eq_true, decide_eq_true_eq, decide_eq_true_eq]
  exact Iff.rfl

/-- Subscripts as reading and checking leave them: lower-case labels, and a result without
repetition whose labels the operands have. -/
structure Subscripts.Validated (s : Subscripts) : Prop where
  letters : ∀ l ∈ s.axes, isLabel l = true
  output_nodup : s.output.Nodup
  output_subset : ∀ l ∈ s.output, l ∈ s.axes

theorem Subscripts.validated_iff {s : Subscripts} : s.Validated ↔
    (s.axes.all isLabel && s.output.all (· ∈ s.axes)) = true ∧ s.output.Nodup := by
  simp only [Bool.and_eq_true, List.all_eq_true, decide_eq_true_eq]
  exact ⟨fun h => ⟨⟨h.letters, h.output_subset⟩, h.output_nodup⟩,
    fun h => ⟨h.1.1, h.2, h.1.2⟩⟩

instance (s : Subscripts) : Decidable s.Validated :=
  decidable_of_iff _ Subscripts.validated_iff.symm

/-- There are letters for all labels: counted from `a`, they stay below the surrogates. -/
def Subscripts.Lettered (s : Subscripts) : Prop := 97 + s.labels.length ≤ 0xd800

instance (s : Subscripts) : Decidable s.Lettered := inferInstanceAs (Decidable (_ ≤ _))

theorem toNat_letter {n : Nat} (h : 97 + n < 0xd800) : (letter n).toNat = 97 + n := by
  have hv : (97 + n).isValidChar := Or.inl (by omega)
  have ha : 'a'.toNat = 97 := rfl
  rw [letter, ha, Char.ofNat, dif_pos hv]
  exact Char.toNat_ofNatAux hv

theorem length_le_of_letters {g : Group} (hn : g.Nodup) (hl : ∀ l ∈ g, isLabel l = true) :
    g.length ≤ 26 := by
  have hs : (g.map Char.toNat).toFinset ⊆ Finset.Icc 97 122 := by
    intro n hn
    obtain ⟨l, hlg, rfl⟩ := List.mem_map.mp (List.mem_toFinset.mp hn)
    exact Finset.mem_Icc.mpr (isLabel_iff.mp (hl l hlg))
  have hm : (g.map Char.toNat).Nodup := hn.map fun a b h => Char.toNat_inj.mp h
  have hc := Finset.card_le_card hs
  rw [List.toFinset_card_of_nodup hm] at hc
  simpa using hc

end Einsum

import Einsum.Kernel.Block
import Einsum.Proofs.Label

namespace Einsum

/-- All assignments that give some labels values below their sizes and leave the others alone, the
first label changing slowest. -/
def assignments (sizes : Assignment) : Group → Assignment → List Assignment
  | [], a => [a]
  | l :: ls, a =>
    (List.range (sizes l)).flatMap fun i => assignments sizes ls (Function.update a l i)

def Assignment.Below (a sizes : Assignment) (ls : Group) : Prop := ∀ l ∈ ls, a l < sizes l

def sumOver (sizes : Assignment) (ls : Group) (f : Assignment → Int) (a : Assignment) : Int :=
  ((assignments sizes ls a).map f).sum

variable {sizes : Assignment} {ls ms : Group} {f g : Assignment → Int} {a b : Assignment}

theorem mem_assignments :
    b ∈ assignments sizes ls a ↔ (∀ l ∈ ls, b l < sizes l) ∧ ∀ l, l ∉ ls →
      b l = a l := by
  induction ls generalizing a with
  | nil => simp [assignments, funext_iff]
  | cons l ls ih =>
    simp only [assignments, List.mem_flatMap, List.mem_range, ih]
    constructor
    · rintro ⟨i, hi, hlt, heq⟩
      refine ⟨fun m hm => ?_, fun m hm => ?_⟩
      · by_cases hml : m ∈ ls
        · exact hlt m hml
        · have hme : m = l := (List.mem_cons.mp hm).resolve_right hml
          subst m
          rwa [heq l hml, Function.update_self]
      · obtain ⟨hne, hml⟩ := not_or.mp (mt List.mem_cons.mpr hm)
        rw [heq m hml, Function.update_of_ne hne]
    · rintro ⟨hlt, heq⟩
      refine ⟨b l, hlt l List.mem_cons_self, fun m hm => hlt m (List.mem_cons_of_mem l hm), ?_⟩
      intro m hm
      by_cases hml : m = l
      · rw [hml, Function.update_self]
      · rw [Function.update_of_ne hml, heq m (mt List.mem_cons.mp (not_or.mpr ⟨hml, hm⟩))]

theorem nodup_assignments (h : ls.Nodup) : (assignments sizes ls a).Nodup := by
  induction ls generalizing a with
  | nil => exact List.nodup_singleton a
  | cons l ls ih =>
    obtain ⟨hl, hls⟩ := List.nodup_cons.mp h
    rw [assignments, List.nodup_flatMap]
    refine ⟨fun i _ => ih hls, List.nodup_range.imp fun {i j} hij => ?_⟩
    intro c hi hj
    have hi' := (mem_assignments.mp hi).2 l hl
    have hj' := (mem_assignments.mp hj).2 l hl
    rw [Function.update_self] at hi' hj'
    exact hij (hi'.symm.trans hj')

theorem assignments_append (ls ms : Group) :
    assignments sizes (ls ++ ms) a = (assignments sizes ls a).flatMap (assignments sizes ms) := by
  induction ls generalizing a with
  | nil => simp [assignments]
  | cons l ls ih => simp [assignments, ih, List.flatMap_assoc]

theorem flatMap_ite {β : Type} {is : List Nat} {x : Nat} (hn : is.Nodup) (hx : x ∈ is)
    (bs : List β) :
    (is.flatMap fun i => if i = x then bs else []) = bs := by
  obtain ⟨js, ks, rfl⟩ := List.append_of_mem hx
  obtain ⟨hne, -⟩ := List.nodup_cons.mp ((List.perm_middle.nodup_iff).mp hn)
  have hnil (ms : List Nat) (hm : x ∉ ms) : (ms.flatMap fun i => if i = x then bs else []) =
      [] := by
    apply List.flatMap_eq_nil_iff.mpr
    intro i hi
    exact if_neg fun he : i = x => hm (he ▸ hi)
  obtain ⟨hj, hk⟩ := not_or.mp (mt List.mem_append.mpr hne)
  rw [List.flatMap_append, List.flatMap_cons, hnil js hj, hnil ks hk, if_pos rfl, List.append_nil,
    List.nil_append]

theorem filter_assignments_cons {l : Label} (hl : l ∉ ls) {x : Nat} (hx : x < sizes l)
    (p : Assignment → Prop) [DecidablePred p] :
    (assignments sizes (l :: ls) a).filter (fun b => b l = x ∧ p b) =
      (assignments sizes ls (Function.update a l x)).filter p := by
  have hi (i : Nat) : (assignments sizes ls (Function.update a l i)).filter
      (fun b => b l = x ∧ p b) =
      if i = x then (assignments sizes ls (Function.update a l x)).filter p else [] := by
    have hb : ∀ b ∈ assignments sizes ls (Function.update a l i), b l = i := by
      intro b hb
      rw [(mem_assignments.mp hb).2 l hl, Function.update_self]
    split
    next he =>
      subst i
      apply List.filter_congr
      intro b hm
      simp [hb b hm]
    next he =>
      apply List.filter_eq_nil_iff.mpr
      intro b hm
      simp [hb b hm, he]
  rw [assignments, List.filter_flatMap]
  simp only [hi]
  exact flatMap_ite List.nodup_range (List.mem_range.mpr hx) _

theorem assignments_congr {sizes' : Assignment} (h : ∀ l ∈ ls, sizes l = sizes' l) :
    assignments sizes ls a = assignments sizes' ls a := by
  induction ls generalizing a with
  | nil => rfl
  | cons l ls ih =>
    rw [assignments, assignments, h l List.mem_cons_self]
    congr 1
    funext i
    exact ih fun m hm => h m (List.mem_cons_of_mem l hm)

@[simp]
theorem sumOver_nil : sumOver sizes [] f a = f a := by simp [sumOver, assignments]

theorem sumOver_cons (l : Label) :
    sumOver sizes (l :: ls) f a =
      ((List.range (sizes l)).map fun i => sumOver sizes ls f (Function.update a l i)).sum := by
  rw [sumOver, assignments, List.map_flatMap, List.flatMap_def, List.sum_flatten, List.map_map]
  rfl

theorem sumOver_append :
    sumOver sizes (ls ++ ms) f a = sumOver sizes ls (sumOver sizes ms f) a := by
  rw [sumOver, assignments_append, List.map_flatMap, List.flatMap_def, List.sum_flatten,
    List.map_map]
  rfl

theorem sumOver_congr (h : ∀ b ∈ assignments sizes ls a, f b = g b) :
    sumOver sizes ls f a = sumOver sizes ls g a := by
  rw [sumOver, sumOver, List.map_congr_left h]

theorem sumOver_congr_sizes {sizes' : Assignment} (h : ∀ l ∈ ls, sizes l = sizes' l) :
    sumOver sizes ls f a = sumOver sizes' ls f a := by
  rw [sumOver, sumOver, assignments_congr h]

theorem sumOver_of_mem_iff (hl : ls.Nodup) (hm : ms.Nodup) (h : ∀ l, l ∈ ls ↔ l ∈ ms) :
    sumOver sizes ls f a = sumOver sizes ms f a := by
  have hp : (assignments sizes ls a).Perm (assignments sizes ms a) := by
    apply (List.perm_ext_iff_of_nodup (nodup_assignments hl) (nodup_assignments hm)).mpr
    intro b
    simp only [mem_assignments, h]
  exact (hp.map f).sum_eq

/-- A factor that the summed labels do not occur in stands outside of the sum. -/
theorem sumOver_mul {s : Set Label} (hg : DependsOn g s) (h : ∀ l ∈ ls, l ∉ s) :
    sumOver sizes ls (fun b => f b * g b) a = sumOver sizes ls f a * g a := by
  have hc : ∀ b ∈ assignments sizes ls a, f b * g b = f b * g a := by
    intro b hb
    rw [hg fun l hl => (mem_assignments.mp hb).2 l fun hls => h l hls hl]
  rw [sumOver_congr hc, sumOver, sumOver, List.sum_map_mul_right]

theorem dependsOn_sumOver {s : Set Label} (hf : DependsOn f s) :
    DependsOn (sumOver sizes ls f) (s \ {l | l ∈ ls}) := by
  intro a b h
  induction ls generalizing a b with
  | nil => simpa using hf fun l hl => h l ⟨hl, List.not_mem_nil⟩
  | cons l ls ih =>
    rw [sumOver_cons, sumOver_cons]
    congr 1
    apply List.map_congr_left
    intro i _
    apply ih
    rintro m ⟨hms, hml⟩
    by_cases hm : m = l
    · rw [hm, Function.update_self, Function.update_self]
    · rw [Function.update_of_ne hm, Function.update_of_ne hm]
      exact h m ⟨hms, mt List.mem_cons.mp (not_or.mpr ⟨hm, hml⟩)⟩

/-- Summing after a renaming of labels that keeps them apart. -/
theorem sumOver_rename {r : Label → Label} {s : Set Label} (hr : Set.InjOn r s)
    (hf : DependsOn f s) (hls : ∀ l ∈ ls, l ∈ s) :
    sumOver sizes (ls.map r) (fun b => f (b ∘ r)) a = sumOver (sizes ∘ r) ls f (a ∘ r) := by
  induction ls generalizing a with
  | nil => simp
  | cons l ls ih =>
    rw [List.map_cons, sumOver_cons, sumOver_cons]
    congr 1
    apply List.map_congr_left
    intro i _
    rw [ih fun m hm => hls m (List.mem_cons_of_mem l hm)]
    apply dependsOn_sumOver hf
    rintro m ⟨hms, -⟩
    by_cases hm : m = l
    · rw [hm, Function.comp_apply, Function.update_self, Function.update_self]
    · have hne : r m ≠ r l := fun he => hm (hr hms (hls l List.mem_cons_self) he)
      rw [Function.comp_apply, Function.update_of_ne hne, Function.update_of_ne hm,
        Function.comp_apply]

theorem sumOver_nonneg (h : ∀ b ∈ assignments sizes ls a, 0 ≤ f b) :
    0 ≤ sumOver sizes ls f a := by
  apply List.sum_nonneg
  intro n hn
  obtain ⟨b, hb, rfl⟩ := List.mem_map.mp hn
  exact h b hb

end Einsum

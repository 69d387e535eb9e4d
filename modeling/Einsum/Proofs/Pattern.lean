import Einsum.Proofs.Relabel

namespace Einsum.Subscripts

variable {s u : Subscripts} {f : Label → Label}

theorem bijOn_of_injOn (hf : Set.InjOn f {l | l ∈ s.labels}) :
    Set.BijOn f {l | l ∈ s.labels} {l | l ∈ (s.relabel f).labels} := by
  rw [labels_relabel hf]
  refine ⟨fun l hl => List.mem_map_of_mem hl, hf, ?_⟩
  intro m hm
  exact List.mem_map.mp hm

theorem mem_labels_canonical (hs : s.Lettered) {c : Label} :
    c ∈ s.canonical.labels ↔ ∃ l ∈ s.labels, s.canonicalLabel l = c := by
  rw [canonical, labels_relabel (canonicalLabel_injOn hs), List.mem_map]

theorem relabel_writtenLabel (hs : s.Lettered) :
    s.canonical.relabel (writtenLabel s.labels) = s := by
  have hid : s.relabel id = s := by simp [relabel]
  rw [canonical, relabel_relabel]
  refine (relabel_congr fun l hl => ?_).trans hid
  exact writtenLabel_canonicalLabel hs hl

theorem writtenLabel_injOn (hs : s.Lettered) :
    Set.InjOn (writtenLabel s.labels) {c | c ∈ s.canonical.labels} := by
  intro c hc d hd h
  obtain ⟨l, hl, rfl⟩ := (mem_labels_canonical hs).mp hc
  obtain ⟨m, hm, rfl⟩ := (mem_labels_canonical hs).mp hd
  rw [writtenLabel_canonicalLabel hs hl, writtenLabel_canonicalLabel hs hm] at h
  rw [h]

/-- Subscripts of one canonical form are renamed into each other: number the labels of the one, and
name the numbers as the other does. -/
theorem exists_bijOn_of_canonical_eq (hs : s.Lettered) (hu : u.Lettered)
    (h : s.canonical = u.canonical) :
    ∃ f, Set.BijOn f {l | l ∈ s.labels} {l | l ∈ u.labels} ∧ s.relabel f = u := by
  have hr : s.relabel (writtenLabel u.labels ∘ s.canonicalLabel) = u := by
    rw [← relabel_relabel, ← canonical, h, relabel_writtenLabel hu]
  have hf : Set.InjOn (writtenLabel u.labels ∘ s.canonicalLabel) {l | l ∈ s.labels} := by
    refine (writtenLabel_injOn hu).comp (canonicalLabel_injOn hs) ?_
    intro l hl
    rw [Set.mem_ofPred_eq, ← h]
    exact (mem_labels_canonical hs).mpr ⟨l, hl, rfl⟩
  have hb := bijOn_of_injOn hf
  rw [hr] at hb
  exact ⟨_, hb, hr⟩

/-- The canonical form says all about subscripts but the names of their labels, and with the names,
in order of appearance, it gives them back. -/
theorem canonical_complete (hs : s.Lettered) :
    (∀ u : Subscripts, u.Lettered → (s.canonical = u.canonical ↔
      ∃ f, Set.BijOn f {l | l ∈ s.labels} {l | l ∈ u.labels} ∧ s.relabel f = u)) ∧
    s.canonical.canonical = s.canonical ∧
    (∀ c ∈ s.canonical.labels,
      'a' ≤ c ∧ s.labels[c.toNat - 'a'.toNat]? = some (writtenLabel s.labels c)) ∧
    s.canonical.relabel (writtenLabel s.labels) = s := by
  refine ⟨fun u hu => ⟨exists_bijOn_of_canonical_eq hs hu, ?_⟩,
    canonical_relabel (canonicalLabel_injOn hs), ?_, relabel_writtenLabel hs⟩
  · rintro ⟨f, hf, rfl⟩
    exact (canonical_relabel hf.injOn).symm
  · intro c hc
    obtain ⟨l, hl, rfl⟩ := (mem_labels_canonical hs).mp hc
    rw [writtenLabel_canonicalLabel hs hl]
    exact getElem?_canonicalLabel hs hl

theorem canonical_complete_jij :
    (∃ f, Set.BijOn f {l | l ∈ ['j', 'i', 'k']} {l | l ∈ ['y', 'x', 'a']} ∧
      (⟨[['j', 'i', 'j'], [], ['i']], ['k']⟩ : Subscripts).relabel f =
        ⟨[['y', 'x', 'y'], [], ['x']], ['a']⟩) ∧
    (¬∃ f, Set.BijOn f {l | l ∈ ['j', 'i', 'k']} {l | l ∈ ['y', 'x']} ∧
      (⟨[['j', 'i', 'j'], [], ['i']], ['k']⟩ : Subscripts).relabel f =
        ⟨[['y', 'x', 'y'], [], ['x']], ['y']⟩) ∧
    (⟨[['a', 'b', 'a'], [], ['b']], ['c']⟩ : Subscripts).relabel
      (writtenLabel ['j', 'i', 'k']) = ⟨[['j', 'i', 'j'], [], ['i']], ['k']⟩ := by
  have h := canonical_complete (s := ⟨[['j', 'i', 'j'], [], ['i']], ['k']⟩) (by decide)
  exact ⟨(h.1 ⟨[['y', 'x', 'y'], [], ['x']], ['a']⟩ (by decide)).mp (by decide),
    (h.1 ⟨[['y', 'x', 'y'], [], ['x']], ['y']⟩ (by decide)).not.mp (by decide), h.2.2.2⟩

end Einsum.Subscripts

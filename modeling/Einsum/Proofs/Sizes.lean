import Einsum.Cost
import Einsum.Proofs.Canonical

namespace Einsum

def axisSizes (ps : List (Group × Shape)) : List (Label × Nat) := ps.flatMap fun p => p.1.zip p.2

/-- Each operand has an axis for each of its labels, and labels have one size wherever they
stand. -/
def Agree (ps : List (Group × Shape)) : Prop := ∃ σ : Assignment, ∀ p ∈ ps, p.2 = p.1.map σ

inductive Report.Disagrees (ps : List (Group × Shape)) : Report → Prop
  | rank {name : String} {g : Group} {shape : Shape} (mem : (g, shape) ∈ ps)
      (ne : shape.length ≠ g.length) :
      Disagrees ps { fault := .rank name g g.length shape.length }
  | size {l : Label} {name : String} {axis : Int} {m n : Nat} (expected : (l, m) ∈ axisSizes ps)
      (actual : (l, n) ∈ axisSizes ps) (ne : m ≠ n) :
        Disagrees ps { fault := .size l name axis m n }

theorem mem_axisSizes {ps : List (Group × Shape)} {q : Label × Nat} :
    q ∈ axisSizes ps ↔ ∃ p ∈ ps, q ∈ p.1.zip p.2 := List.mem_flatMap

section

variable {α β : Type} {f : α → β} {as : List α}

theorem mem_zip_map {a : α} (h : a ∈ as) : (a, f a) ∈ as.zip (as.map f) := by
  induction as with
  | nil => exact absurd h List.not_mem_nil
  | cons b as ih =>
    rcases List.mem_cons.mp h with rfl | h
    · exact List.mem_cons_self
    · exact List.mem_cons_of_mem _ (ih h)

theorem eq_of_mem_zip_map {q : α × β} (h : q ∈ as.zip (as.map f)) : f q.1 = q.2 := by
  induction as with
  | nil => exact absurd h List.not_mem_nil
  | cons b as ih =>
    rcases List.mem_cons.mp h with rfl | h
    · rfl
    · exact ih h

theorem eq_map_of_zip {bs : List β} (hl : bs.length = as.length)
    (h : ∀ q ∈ as.zip bs, f q.1 = q.2) :
    bs = as.map f := by
  induction as generalizing bs with
  | nil => exact List.length_eq_zero_iff.mp hl
  | cons a as ih =>
    obtain ⟨b, bs, rfl⟩ := List.exists_cons_of_length_eq_add_one hl
    rw [List.zip_cons_cons, List.forall_mem_cons] at h
    rw [List.map_cons, h.1, ← ih (Nat.succ_inj.mp hl) h.2]

end

theorem Report.Disagrees.not_agree {ps : List (Group × Shape)} {r : Report} (h : r.Disagrees ps) :
    ¬ Agree ps := by
  rintro ⟨σ, hσ⟩
  have haxis (q : Label × Nat) (hq : q ∈ axisSizes ps) : σ q.1 = q.2 := by
    obtain ⟨p, hp, hm⟩ := mem_axisSizes.mp hq
    rw [hσ p hp] at hm
    exact eq_of_mem_zip_map hm
  cases h with
  | rank mem ne =>
    exact ne ((congrArg List.length (hσ _ mem)).trans (List.length_map _))
  | size expected actual ne => exact ne ((haxis _ expected).symm.trans (haxis _ actual))

theorem lookup_map_snd {β γ : Type} (f : β → γ) (xs : List (Label × β)) (l : Label) :
    (xs.map fun p => (p.1, f p.2)).lookup l = (xs.lookup l).map f := by
  induction xs with
  | nil => rfl
  | cons x xs ih =>
    rw [List.map_cons, List.lookup_cons, List.lookup_cons, ih]
    cases l == x.1 <;> rfl

theorem mem_of_lookup {β : Type} {xs : List (Label × β)} {l : Label} {b : β}
    (h : xs.lookup l = some b) :
    (l, b) ∈ xs := by
  obtain ⟨before, after, he, -⟩ := List.lookup_eq_some_iff.mp h
  rw [he]
  exact List.mem_append_right before List.mem_cons_self

def Sizes.cast (known : Sizes Nat) : Sizes Int := known.map fun p => (p.1, (p.2 : Int))

theorem Sizes.lookup_cast (known : Sizes Nat) (l : Label) :
    known.cast.lookup l = (known.lookup l).map fun n : Nat => (n : Int) := lookup_map_snd _ known l

def givenShape (shape : Shape) : Except Error (List Size) :=
  plainShape (shape.map fun n : Nat => (n : Int))

/-- What is known of sizes after some axes have been looked at: it comes from axes, it keeps what
was known before, and it has the size of each of these axes. -/
structure Learned (axes seen : List (Label × Nat)) (known known' : Sizes Nat) : Prop where
  subset : known' ⊆ axes
  keeps : ∀ l n, known.lookup l = some n → known'.lookup l = some n
  finds : ∀ q ∈ seen, known'.lookup q.1 = some q.2

theorem Learned.refl {axes : List (Label × Nat)} {known : Sizes Nat} (h : known ⊆ axes) :
    Learned axes [] known known :=
  ⟨h, fun _ _ hl => hl, fun _ hq => absurd hq List.not_mem_nil⟩

theorem Learned.trans {axes seen seen' : List (Label × Nat)}
    {known₁ known₂ known₃ : Sizes Nat} (h : Learned axes seen known₁ known₂)
    (h' : Learned axes seen' known₂ known₃) :
    Learned axes (seen ++ seen') known₁ known₃ := by
  refine ⟨h'.subset, fun l n hl => h'.keeps l n (h.keeps l n hl), ?_⟩
  rw [List.forall_mem_append]
  exact ⟨fun q hq => h'.keeps _ _ (h.finds q hq), h'.finds⟩

section

variable {ps : List (Group × Shape)} (operand axis : Nat) {known : Sizes Nat}
  (hk : known ⊆ axisSizes ps)

include hk

theorem learnAxis_cases {l : Label} {n : Nat} (hl : (l, n) ∈ axisSizes ps) :
    (∃ known' : Sizes Nat, learnAxis operand axis known.cast l n = .ok known'.cast ∧
        Learned (axisSizes ps) [(l, n)] known known') ∨
      ∃ r, learnAxis operand axis known.cast l n = .error r ∧ r.Disagrees ps := by
  rw [learnAxis, Sizes.lookup_cast]
  cases hm : known.lookup l with
  | none =>
    refine .inl ⟨known ++ [(l, n)], by simp [Sizes.cast], ?_, fun k m hk => ?_, fun p hp => ?_⟩
    · exact List.append_subset.mpr ⟨hk, List.cons_subset.mpr ⟨hl, List.nil_subset _⟩⟩
    · rw [List.lookup_append, hk, Option.some_or]
    · rw [List.mem_singleton.mp hp, List.lookup_append, hm]
      simp
  | some m =>
    dsimp only [Option.map_some]
    split
    next he =>
      refine .inl ⟨known, rfl, hk, fun _ _ h => h, fun p hp => ?_⟩
      rw [List.mem_singleton.mp hp, hm, Int.ofNat_inj.mp he]
    next he => exact .inr ⟨_, rfl, .size (hk (mem_of_lookup hm)) hl fun h => he (h ▸ rfl)⟩

theorem learnAxes_cases {g : Group} {shape : Shape} (hl : shape.length = g.length)
    (hs : g.zip shape ⊆ axisSizes ps) :
    (∃ known' : Sizes Nat,
        learnAxes operand axis known.cast g (shape.map fun n : Nat => .ok (n : Int)) =
          .ok known'.cast ∧ Learned (axisSizes ps) (g.zip shape) known known') ∨
      ∃ r, learnAxes operand axis known.cast g (shape.map fun n : Nat => .ok (n : Int)) =
        .error (.report r) ∧ r.Disagrees ps := by
  induction g generalizing axis known shape with
  | nil => exact .inl ⟨known, rfl, .refl hk⟩
  | cons l g ih =>
    obtain ⟨n, shape, rfl⟩ := List.exists_cons_of_length_eq_add_one hl
    rw [List.zip_cons_cons, List.cons_subset] at hs
    rw [List.map_cons, learnAxes, ok_bind]
    rcases learnAxis_cases operand axis hk hs.1 with ⟨known₁, h₁, hl₁⟩ | ⟨r, hr, hd⟩
    · rw [h₁]
      rcases ih (axis + 1) hl₁.subset (Nat.succ_inj.mp hl) hs.2 with ⟨known₂, h₂,
        hl₂⟩ | ⟨r, hr, hd⟩
      · exact .inl ⟨known₂, h₂, hl₁.trans hl₂⟩
      · exact .inr ⟨r, hr, hd⟩
    · rw [hr]
      exact .inr ⟨r, rfl, hd⟩

end

theorem learnOperands_cons (operand : Nat) (sizes : Sizes Int) (g : Group) (gs : List Group)
    (shape : Shape) (shapes : List (Except Error (List Size))) :
    learnOperands operand sizes (g :: gs) (givenShape shape :: shapes) =
      if shape.length = g.length then
        learnAxes operand 0 sizes g (shape.map fun n : Nat => .ok (n : Int)) >>= fun sizes =>
          learnOperands (operand + 1) sizes gs shapes
      else .error (.report { fault := .rank (operandName operand) g g.length shape.length }) := by
  rw [learnOperands, givenShape, plainShape, ok_bind, List.map_map, List.length_map]
  by_cases h : shape.length = g.length
  · rw [if_neg (not_not.mpr h), if_pos h]
    rfl
  · rw [if_pos h, if_neg h]
    rfl

theorem learnOperands_cases {ps qs : List (Group × Shape)} (operand : Nat) {known : Sizes Nat}
    (hk : known ⊆ axisSizes ps) (hq : qs ⊆ ps) :
    (∃ known' : Sizes Nat,
        learnOperands operand known.cast (qs.map Prod.fst) (qs.map (givenShape ∘ Prod.snd)) =
          .ok known'.cast ∧
          Learned (axisSizes ps) (axisSizes qs) known known' ∧ ∀ q ∈ qs, q.2.length =
            q.1.length) ∨
      ∃ r, learnOperands operand known.cast (qs.map Prod.fst) (qs.map (givenShape ∘ Prod.snd)) =
          .error (.report r) ∧ r.Disagrees ps := by
  induction qs generalizing operand known with
  | nil => exact .inl ⟨known, rfl, .refl hk, fun q hq => absurd hq List.not_mem_nil⟩
  | cons q qs ih =>
    obtain ⟨hq, hqs⟩ := List.cons_subset.mp hq
    have hax : q.1.zip q.2 ⊆ axisSizes ps := fun x hx => mem_axisSizes.mpr ⟨q, hq, hx⟩
    rw [List.map_cons, List.map_cons, Function.comp_apply, learnOperands_cons]
    by_cases hr : q.2.length = q.1.length
    · rw [if_pos hr]
      rcases learnAxes_cases operand 0 hk hr hax with ⟨known₁, h₁, hl₁⟩ | ⟨r, hr, hd⟩
      · rw [h₁, ok_bind]
        rcases ih (operand + 1) hl₁.subset hqs with ⟨known₂, h₂, hl₂, hn⟩ | ⟨r,
          hr, hd⟩
        · exact .inl ⟨known₂, h₂, hl₁.trans hl₂, List.forall_mem_cons.mpr ⟨hr, hn⟩⟩
        · exact .inr ⟨r, hr, hd⟩
      · rw [hr]
        exact .inr ⟨r, rfl, hd⟩
    · rw [if_neg hr]
      exact .inr ⟨_, rfl, .rank hq hr⟩

theorem eq_map_of_lookup {ps : List (Group × Shape)} {known : Sizes Nat}
    (hk : ∀ q ∈ axisSizes ps, known.lookup q.1 = some q.2)
    (hr : ∀ p ∈ ps, p.2.length = p.1.length) :
    ∀ p ∈ ps, p.2 = p.1.map fun l => (known.lookup l).getD 0 := by
  intro p hp
  apply eq_map_of_zip (hr p hp)
  intro q hq
  rw [hk q (mem_axisSizes.mpr ⟨p, hp, hq⟩), Option.getD_some]

section

variable {s : Subscripts} {shapes : List Shape} (hl : shapes.length = s.inputs.length)

include hl

theorem labelSizes_learned :
    (∃ known : Sizes Nat, s.labelSizes (shapes.map givenShape) = .ok known.cast ∧
        (∀ q ∈ axisSizes (s.inputs.zip shapes), known.lookup q.1 = some q.2) ∧
          ∀ p ∈ s.inputs.zip shapes, p.2.length = p.1.length) ∨
      ∃ r, s.labelSizes (shapes.map givenShape) = .error (.report r) ∧
        r.Disagrees (s.inputs.zip shapes) := by
  have hf : (s.inputs.zip shapes).map Prod.fst = s.inputs := List.map_fst_zip hl.ge
  have hs : (s.inputs.zip shapes).map Prod.snd = shapes := List.map_snd_zip hl.le
  have hn : ¬ (shapes.map givenShape).length ≠ s.inputs.length := by simpa using hl
  have h := learnOperands_cases 0 (List.nil_subset (axisSizes (s.inputs.zip shapes)))
    (List.Subset.refl (s.inputs.zip shapes))
  rw [← List.map_map, hf, hs] at h
  rw [Subscripts.labelSizes, if_neg hn]
  rcases h with ⟨known, hok, hlearn, hrank⟩ | hr
  · exact .inl ⟨known, hok, hlearn.finds, hrank⟩
  · exact .inr hr

/-- Either labels have one size each, or it is told where they do not. -/
theorem labelSizes_cases :
    (∃ known : Sizes Nat, s.labelSizes (shapes.map givenShape) = .ok known.cast ∧
      Agree (s.inputs.zip shapes)) ∨
      ∃ r, s.labelSizes (shapes.map givenShape) = .error (.report r) ∧
        r.Disagrees (s.inputs.zip shapes) := by
  rcases labelSizes_learned hl with ⟨known, hok, hfinds, hrank⟩ | hr
  · exact .inl ⟨known, hok, _, eq_map_of_lookup hfinds hrank⟩
  · exact .inr hr

theorem labelSizes_eq_ok {known : Sizes Int}
    (h : s.labelSizes (shapes.map givenShape) = .ok known) :
    ∃ σ : Assignment, (shapes = s.inputs.map fun g => g.map σ) ∧
      ∀ l ∈ s.axes, known.lookup l = some (σ l : Int) := by
  rcases labelSizes_learned hl with ⟨found, hok, hfinds, hrank⟩ | ⟨r, hr, -⟩
  · cases h.symm.trans hok
    have hmap := eq_map_of_lookup hfinds hrank
    have hshapes := eq_map_of_zip hl fun p hp => (hmap p hp).symm
    refine ⟨_, hshapes, fun l hm => ?_⟩
    obtain ⟨g, hg, hlg⟩ := s.mem_axes.mp hm
    have hpair := mem_zip_map (f := fun g : Group => g.map fun l => (found.lookup l).getD 0) hg
    rw [← hshapes] at hpair
    rw [Sizes.lookup_cast, hfinds _ (mem_axisSizes.mpr ⟨_, hpair, mem_zip_map hlg⟩)]
    rfl
  · cases h.symm.trans hr

end

def Check.relabel (f : Label → Label) : Check → Check
  | rank operand g => rank operand (g.map f)
  | bind l operand axis => bind (f l) operand axis
  | agree l operand axis => agree (f l) operand axis

def Check.labels : Check → Group
  | rank _ g => g
  | bind l _ _ | agree l _ _ => [l]

section

variable {f : Label → Label}

theorem axisChecks_relabel (operand axis : Nat) {bound ls : Group}
    (hf : Set.InjOn f {l | l ∈ bound ∨ l ∈ ls}) :
    axisChecks operand axis (bound.map f) (ls.map f) =
      (axisChecks operand axis bound ls).map (Check.relabel f) := by
  induction ls generalizing axis bound with
  | nil => rfl
  | cons l ls ih =>
    have hm : f l ∈ bound.map f ↔ l ∈ bound := by
      refine ⟨fun h => ?_, fun h => List.mem_map_of_mem h⟩
      obtain ⟨m, hm, he⟩ := List.mem_map.mp h
      rwa [← hf (.inl hm) (.inr List.mem_cons_self) he]
    rw [List.map_cons, axisChecks, axisChecks]
    by_cases hl : l ∈ bound
    · rw [if_pos hl, if_pos (hm.mpr hl), ih (axis + 1)
        (hf.mono fun m h => h.imp_right (List.mem_cons_of_mem l))]
      rfl
    · rw [if_neg hl, if_neg (mt hm.mp hl), ← List.map_cons, ih (axis + 1) (hf.mono ?_)]
      · rfl
      · rintro m (h | h)
        · rcases List.mem_cons.mp h with rfl | h
          · exact .inr List.mem_cons_self
          · exact .inl h
        · exact .inr (List.mem_cons_of_mem l h)

theorem checksFrom_relabel (operand : Nat) (bound : Group) {gs : List Group}
    (hf : Set.InjOn f {l | l ∈ bound ∨ l ∈ gs.flatten}) :
    checksFrom operand (bound.map f) (gs.map (·.map f)) =
      (checksFrom operand bound gs).map (Check.relabel f) := by
  induction gs generalizing operand bound with
  | nil => rfl
  | cons g gs ih =>
    have hg : Set.InjOn f {l | l ∈ bound ∨ l ∈ g} :=
      hf.mono fun l h => h.imp_right fun h => List.mem_append_left _ h
    have hgs : Set.InjOn f {l | l ∈ g ++ bound ∨ l ∈ gs.flatten} := by
      refine hf.mono fun l h => ?_
      rw [Set.mem_ofPred_eq, List.mem_append] at h
      rw [Set.mem_ofPred_eq, List.flatten_cons, List.mem_append]
      tauto
    rw [List.map_cons, checksFrom, checksFrom, axisChecks_relabel operand 0 hg, ← List.map_append,
      ih (operand + 1) _ hgs, List.map_append]
    rfl

theorem mem_labels_axisChecks {operand axis : Nat} {bound ls : Group} {c : Check}
    (h : c ∈ axisChecks operand axis bound ls) : c.labels ⊆ ls := by
  induction ls generalizing axis bound with
  | nil => exact absurd h List.not_mem_nil
  | cons l ls ih =>
    rw [axisChecks] at h
    split at h
    all_goals
      rcases List.mem_cons.mp h with rfl | h
      · exact List.cons_subset.mpr ⟨List.mem_cons_self, List.nil_subset _⟩
      · exact List.subset_cons_of_subset l (ih h)

theorem mem_labels_checksFrom {operand : Nat} {bound : Group} {gs : List Group} {c : Check}
    (h : c ∈ checksFrom operand bound gs) : c.labels ⊆ gs.flatten := by
  induction gs generalizing operand bound with
  | nil => exact absurd h List.not_mem_nil
  | cons g gs ih =>
    rw [checksFrom, List.cons_append, List.mem_cons, List.mem_append] at h
    rw [List.flatten_cons]
    rcases h with rfl | h | h
    · exact List.subset_append_left g _
    · exact List.subset_append_of_subset_left _ (mem_labels_axisChecks h)
    · exact List.subset_append_of_subset_right _ (ih h)

def Sizes.relabel (f : Label → Label) (known : Sizes Nat) : Sizes Nat :=
  known.map fun p => (f p.1, p.2)

theorem mem_of_run {shapes : List Shape} {all : Group} {known known' : Sizes Nat}
    (hk : ∀ p ∈ known, p.1 ∈ all) {c : Check} (hc : c.labels ⊆ all)
    (h : c.run [] shapes known = .ok known') : ∀ p ∈ known', p.1 ∈ all := by
  cases c with
  | rank operand g =>
    simp only [Check.run, requireRank] at h
    split at h
    · cases h
      exact hk
    · cases h
  | bind l operand axis =>
    cases h
    rw [List.forall_mem_append, List.forall_mem_singleton]
    exact ⟨hk, hc List.mem_cons_self⟩
  | agree l operand axis =>
    simp only [Check.run, requireSize] at h
    split at h
    · cases h
      exact hk
    · cases h

variable {labels all : Group} (hw : ∀ l ∈ all, writtenLabel labels (f l) = l)

include hw

theorem lookup_relabel {known : Sizes Nat} (hk : ∀ p ∈ known, p.1 ∈ all) {l : Label}
    (hl : l ∈ all) :
    (known.relabel f).lookup (f l) = known.lookup l := by
  induction known with
  | nil => rfl
  | cons p known ih =>
    rw [List.forall_mem_cons] at hk
    have he : (f l == f p.1) = (l == p.1) := by
      rw [Bool.eq_iff_iff, beq_iff_eq, beq_iff_eq]
      refine ⟨fun h => ?_, congrArg f⟩
      rw [← hw l hl, h, hw p.1 hk.1]
    have hi := ih hk.2
    rw [Sizes.relabel] at hi
    rw [Sizes.relabel, List.map_cons, List.lookup_cons, List.lookup_cons, he, hi]

theorem run_relabel (shapes : List Shape) {known : Sizes Nat} (hk : ∀ p ∈ known, p.1 ∈ all)
    {c : Check} (hc : c.labels ⊆ all) :
    (c.relabel f).run labels shapes (known.relabel f) =
      (c.run [] shapes known).map (Sizes.relabel f) := by
  have hid (l : Label) : writtenLabel [] l = l := by simp [writtenLabel]
  cases c with
  | rank operand g =>
    have hg : (g.map f).map (writtenLabel labels) = g.map (writtenLabel []) := by
      rw [List.map_map]
      exact List.map_congr_left fun l hl => (hw l (hc hl)).trans (hid l).symm
    simp only [Check.relabel, Check.run, requireRank, List.length_map, hg]
    split <;> rfl
  | bind l operand axis => simp [Check.relabel, Check.run, Except.map, Sizes.relabel]
  | agree l operand axis =>
    have hl : l ∈ all := hc List.mem_cons_self
    simp only [Check.relabel, Check.run, requireSize, hw l hl, hid, lookup_relabel hw hk hl]
    split <;> rfl

theorem runChecks_relabel (shapes : List Shape) (known : Sizes Nat)
    (hk : ∀ p ∈ known, p.1 ∈ all) (cs : List Check) (hc : ∀ c ∈ cs, c.labels ⊆ all) :
    runChecks labels shapes (known.relabel f) (cs.map (Check.relabel f)) =
      (runChecks [] shapes known cs).map (Sizes.relabel f) := by
  induction cs generalizing known with
  | nil => rfl
  | cons c cs ih =>
    rw [List.forall_mem_cons] at hc
    rw [List.map_cons, runChecks, runChecks, run_relabel hw shapes hk hc.1]
    cases h : c.run [] shapes known with
    | error r => rfl
    | ok known' => exact ih known' (mem_of_run hk hc.1 h) hc.2

end

def Keyed (bound : Group) (known : Sizes Nat) : Prop :=
  ∀ l, l ∈ bound ↔ (known.lookup l).isSome = true

theorem Keyed.congr {bound bound' : Group} {known : Sizes Nat} (h : Keyed bound known)
    (hb : ∀ l, l ∈ bound ↔ l ∈ bound') : Keyed bound' known :=
  fun l => (hb l).symm.trans (h l)

theorem Keyed.insert {bound : Group} {known : Sizes Nat} (h : Keyed bound known) (l : Label)
    (n : Nat) :
    Keyed (l :: bound) (known ++ [(l, n)]) := by
  intro m
  rw [List.mem_cons, List.lookup_append, h m]
  by_cases hm : m = l
  · simp [hm]
  · have hn : (m == l) = false := by simpa using hm
    simp [hm, hn, List.lookup]

inductive Matches (bound : Group) : Except Report (Sizes Nat) → Except Error (Sizes Int) → Prop
  | known {known : Sizes Nat} (keyed : Keyed bound known) : Matches bound (.ok known)
      (.ok known.cast)
  | reported (r : Report) : Matches bound (.error r) (.error (.report r))

theorem Matches.congr {bound bound' : Group} {checked : Except Report (Sizes Nat)}
    {learned : Except Error (Sizes Int)} (h : Matches bound checked learned)
    (hb : ∀ l, l ∈ bound ↔ l ∈ bound') :
    Matches bound' checked learned := by
  cases h with
  | known keyed => exact .known (keyed.congr hb)
  | reported r => exact .reported r

theorem runChecks_append (labels : Group) (shapes : List Shape) (known : Sizes Nat)
    (cs ds : List Check) :
    runChecks labels shapes known (cs ++ ds) =
      runChecks labels shapes known cs >>= fun known => runChecks labels shapes known ds := by
  induction cs generalizing known with
  | nil => rfl
  | cons c cs ih =>
    rw [List.cons_append, runChecks, runChecks]
    cases c.run labels shapes known with
    | error r => rfl
    | ok known' => exact ih known'

section

variable (shapes : List Shape)

theorem matches_axes (operand axis : Nat) {bound ls : Group} {known : Sizes Nat}
    (hk : Keyed bound known) (hl : ((shapes.getD operand []).drop axis).length = ls.length) :
    Matches (ls ++ bound) (runChecks [] shapes known (axisChecks operand axis bound ls))
      (learnAxes operand axis known.cast ls
        (((shapes.getD operand []).drop axis).map fun n : Nat => .ok (n : Int))) := by
  induction ls generalizing axis bound known with
  | nil => exact .known hk
  | cons l ls ih =>
    obtain ⟨n, ns, hn⟩ := List.exists_cons_of_length_eq_add_one hl
    obtain ⟨hget, hrest⟩ := getD_of_drop hn 0
    have hlen : ((shapes.getD operand []).drop (axis + 1)).length = ls.length := by
      rw [hn] at hl
      rw [hrest]
      exact Nat.succ_inj.mp hl
    have hw : writtenLabel [] l = l := by simp [writtenLabel]
    rw [hn, List.map_cons, learnAxes, ok_bind, learnAxis, Sizes.lookup_cast, axisChecks]
    cases hm : known.lookup l with
    | none =>
      have hb : l ∉ bound := fun h => by simpa [hm] using (hk l).mp h
      have hi := ih (axis + 1) (hk.insert l n) hlen
      rw [hrest] at hi
      have hc : (known ++ [(l, n)]).cast = known.cast ++ [(l, (n : Int))] := List.map_append
      rw [hc] at hi
      rw [if_neg hb, runChecks, Check.run, hget]
      exact hi.congr (by grind)
    | some m =>
      have hb : l ∈ bound := (hk l).mpr (by rw [hm]; rfl)
      rw [if_pos hb, runChecks, Check.run, hget, hm, requireSize, hw]
      dsimp only [Option.getD_some, Option.map_some]
      by_cases he : (m : Int) = n
      · have hi := ih (axis + 1) hk hlen
        rw [hrest] at hi
        rw [if_pos he, if_pos he]
        exact hi.congr (by grind)
      · rw [if_neg he, if_neg he]
        exact .reported _

theorem matches_operands (operand : Nat) {bound : Group} (gs : List Group) {known : Sizes Nat}
    (hk : Keyed bound known) (hl : (shapes.drop operand).length = gs.length) :
    Matches (gs.flatten ++ bound) (runChecks [] shapes known (checksFrom operand bound gs))
      (learnOperands operand known.cast gs ((shapes.drop operand).map givenShape)) := by
  induction gs generalizing operand bound known with
  | nil => exact .known hk
  | cons g gs ih =>
    obtain ⟨shape, rest, hs⟩ := List.exists_cons_of_length_eq_add_one hl
    obtain ⟨hget, hrest⟩ := getD_of_drop hs []
    have hlen : (shapes.drop (operand + 1)).length = gs.length := by
      rw [hs] at hl
      rw [hrest]
      exact Nat.succ_inj.mp hl
    have hw : g.map (writtenLabel []) = g := List.map_id'' (fun l => by simp [writtenLabel]) g
    rw [hs, List.map_cons, learnOperands_cons, checksFrom, List.cons_append, runChecks,
      Check.run, hget, requireRank, hw]
    by_cases hr : shape.length = g.length
    · have hd : (shapes.getD operand []).drop 0 = shape := by rw [hget, List.drop_zero]
      have ha := matches_axes shapes operand 0 hk (by rw [hd, hr])
      rw [hd] at ha
      rw [if_pos (congrArg Nat.cast hr), if_pos hr]
      dsimp only [Except.map]
      rw [runChecks_append]
      generalize runChecks [] shapes known (axisChecks operand 0 bound g) = checked at ha ⊢
      generalize learnAxes operand 0 known.cast g (shape.map fun n : Nat => .ok (n : Int)) =
        learned at ha ⊢
      cases ha with
      | known keyed =>
        have hi := ih (operand + 1) keyed hlen
        rw [hrest] at hi
        refine hi.congr fun l => ?_
        rw [List.flatten_cons, List.mem_append, List.mem_append, List.mem_append, List.mem_append]
        tauto
      | reported r => exact .reported r
    · rw [if_neg fun h => hr (Int.ofNat_inj.mp h), if_neg hr]
      exact .reported _

end

/-- A kernel checks its operands as the sizes of labels are found out, and reports the same. -/
theorem runChecks_canonical {s : Subscripts} (hs : s.Validated) {shapes : List Shape}
    (hl : shapes.length = s.inputs.length) :
    (∃ known : Sizes Nat, s.labelSizes (shapes.map givenShape) = .ok known.cast ∧
        runChecks s.labels shapes [] (prologue s.canonical.inputs) =
          .ok (known.relabel s.canonicalLabel)) ∨
      ∃ r, s.labelSizes (shapes.map givenShape) = .error (.report r) ∧
        runChecks s.labels shapes [] (prologue s.canonical.inputs) = .error r := by
  have hax : ∀ l ∈ s.inputs.flatten, l ∈ s.labels := fun l h => s.mem_labels.mpr (.inl h)
  have hrel : prologue s.canonical.inputs =
      (prologue s.inputs).map (Check.relabel s.canonicalLabel) := by
    apply checksFrom_relabel 0 []
    refine (Subscripts.canonicalLabel_injOn hs.lettered).mono fun l h => hax l ?_
    exact h.resolve_left List.not_mem_nil
  have hw : ∀ l ∈ s.labels, writtenLabel s.labels (s.canonicalLabel l) = l :=
    fun l h => Subscripts.writtenLabel_canonicalLabel hs.lettered h
  have hrun := runChecks_relabel hw shapes [] (fun p hp => absurd hp List.not_mem_nil)
    (prologue s.inputs) fun c hc l h => hax l (mem_labels_checksFrom hc h)
  have hkeyed : Keyed [] [] := fun l => by simp
  have hm := matches_operands shapes 0 s.inputs hkeyed (by rw [List.drop_zero, hl])
  have hn : ¬ (shapes.map givenShape).length ≠ s.inputs.length := by simpa using hl
  rw [List.drop_zero] at hm
  rw [Subscripts.labelSizes, if_neg hn, hrel]
  rw [Sizes.relabel, List.map_nil] at hrun
  rw [hrun, prologue]
  generalize runChecks [] shapes [] (checksFrom 0 [] s.inputs) = checked at hm ⊢
  have hcast : Sizes.cast [] = [] := rfl
  rw [hcast] at hm
  generalize learnOperands 0 [] s.inputs (shapes.map givenShape) = learned at hm ⊢
  cases hm with
  | @known known keyed => exact .inl ⟨known, rfl, rfl⟩
  | reported r => exact .inr ⟨r, rfl, rfl⟩

end Einsum

import Einsum.Kernel.Call
import Einsum.Proofs.Kernel

namespace Einsum

/-- The outcome of a computation that fails exactly where an array cannot be allocated. -/
structure Yields {α : Type} (fits : Prop) (post : α → Prop) (r : Except Error α) : Prop where
  success : fits → ∃ a, r = .ok a ∧ post a
  refusal : ¬ fits → r = .error .arrayTooBig ∨ r = .error .sizeTooLarge

theorem Yields.ok {α : Type} {post : α → Prop} {a : α} (h : post a) :
    Yields True post (.ok a) :=
  ⟨fun _ => ⟨a, rfl, h⟩, fun hn => absurd trivial hn⟩

theorem Yields.fits {α : Type} {fits : Prop} {post : α → Prop} {r : Except Error α}
    (h : Yields fits post r) {a : α} (hr : r = .ok a) : fits := by
  by_contra hn
  rcases h.refusal hn with he | he
  · cases hr.symm.trans he
  · cases hr.symm.trans he

theorem ok_bind {α β : Type} (a : α) (f : α → Except Error β) :
    (Except.ok a >>= f) = f a := rfl

theorem bind_eq_ok {α β : Type} {r : Except Error α} {f : α → Except Error β} {b : β}
    (h : (r >>= f) = .ok b) : ∃ a, r = .ok a ∧ f a = .ok b := by
  cases r with
  | error e => cases h
  | ok a => exact ⟨a, rfl, h⟩

theorem mapM_eq_ok {α β : Type} {f : α → Except Error β} {g : α → β} {as : List α}
    (h : ∀ a ∈ as, f a = .ok (g a)) :
    as.mapM f = .ok (as.map g) := by
  induction as with
  | nil => rfl
  | cons a as ih =>
    rw [List.forall_mem_cons] at h
    rw [List.mapM_cons, h.1, ih h.2]
    rfl

theorem Yields.bind {α β : Type} {p q : Prop} {P : α → Prop} {Q : β → Prop}
    {r : Except Error α} {f : α → Except Error β} (hr : Yields p P r)
    (hf : ∀ a, P a → Yields q Q (f a)) :
    Yields (p ∧ q) Q (r >>= f) := by
  by_cases hp : p
  · obtain ⟨a, rfl, ha⟩ := hr.success hp
    rw [ok_bind]
    exact ⟨fun h => (hf a ha).success h.2, fun h => (hf a ha).refusal fun hq => h ⟨hp, hq⟩⟩
  · refine ⟨fun h => absurd h.1 hp, fun _ => ?_⟩
    rcases hr.refusal hp with rfl | rfl
    · exact .inl rfl
    · exact .inr rfl

theorem Yields.imp {α : Type} {p q : Prop} {P Q : α → Prop} {r : Except Error α}
    (h : Yields p P r) (hpq : p ↔ q) (hPQ : ∀ a, P a → Q a) : Yields q Q r := by
  refine ⟨fun hq => ?_, fun hq => h.refusal (mt hpq.mp hq)⟩
  obtain ⟨a, ha, hP⟩ := h.success (hpq.mpr hq)
  exact ⟨a, ha, hPQ a hP⟩

/-- The bytes of an array fit into a signed word, empty axes left out. -/
def Fits (d : ElemType) (shape : Shape) : Prop :=
  d.byteCount * (shape.filter (· ≠ 0)).prod < 2 ^ 63

instance (d : ElemType) (shape : Shape) : Decidable (Fits d shape) :=
  inferInstanceAs (Decidable (_ < _))

theorem isWord_natCast {n : Nat} : isWord n = true ↔ n < 2 ^ 63 := by
  simp only [isWord, twoPow, Bool.and_eq_true]
  norm_num

theorem one_le_prod_filter (shape : Shape) : 1 ≤ (shape.filter (· ≠ 0)).prod := by
  apply List.one_le_prod_of_one_le
  intro n hn
  obtain ⟨-, hn⟩ := List.mem_filter.mp hn
  exact Nat.one_le_iff_ne_zero.mpr (of_decide_eq_true hn)

theorem byteTotal_eq {bytes : Nat} (hb : bytes < 2 ^ 63) (shape : Shape) :
    byteTotal bytes (shape.map fun n : Nat => (n : Int)) =
      if bytes * (shape.filter (· ≠ 0)).prod < 2 ^ 63 then
        .ok (bytes * (shape.filter (· ≠ 0)).prod)
      else .error .arrayTooBig := by
  induction shape generalizing bytes with
  | nil => simpa [byteTotal] using hb
  | cons n shape ih =>
    by_cases hn : n = 0
    · simp [byteTotal, hn, ih hb]
    · have hp := one_le_prod_filter shape
      have hf : ((n :: shape).filter (· ≠ 0)).prod = n * (shape.filter (· ≠ 0)).prod := by
        simp [hn]
      have hw : isWord ((bytes : Int) * n) = true ↔ bytes * n < 2 ^ 63 := by
        rw [← isWord_natCast, Nat.cast_mul]
      have hz : ¬ ((n : Int) = 0) := by omega
      have hl : ¬ ((n : Int) < 0) := by omega
      rw [List.map_cons, byteTotal, if_neg hz, if_neg hl, hf, ← mul_assoc]
      by_cases hs : bytes * n < 2 ^ 63
      · rw [if_pos (hw.mpr hs), Int.toNat_natCast]
        exact ih hs
      · rw [if_neg (mt hw.mp hs), if_neg]
        have := Nat.le_mul_of_pos_right (bytes * n) hp
        omega

theorem byteCount_pos (d : ElemType) : 1 ≤ d.byteCount ∧ d.byteCount ≤ 8 := by
  cases d with
  | int t => cases h : t.width <;> simp [ElemType.byteCount, Width.bits, h]
  | bool | float32 | float64 | object => decide

theorem Fits.of_subset {ι : Type} {d : ElemType} {σ : ι → Nat} {ls ms : List ι}
    (h : Fits d (ms.map σ)) (hn : ls.Nodup) (hs : ls ⊆ ms) : Fits d (ls.map σ) := by
  obtain ⟨ks, hp, hk⟩ := List.subperm_of_subset hn hs
  have hd := ((hk.map σ).filter (· ≠ 0)).prod_dvd_prod
  rw [((hp.map σ).filter _).prod_eq] at hd
  have hle := Nat.le_of_dvd (one_le_prod_filter _) hd
  exact lt_of_le_of_lt (Nat.mul_le_mul_left _ hle) h

theorem prod_le_prod_filter (shape : Shape) : shape.prod ≤ (shape.filter (· ≠ 0)).prod := by
  by_cases hz : 0 ∈ shape
  · rw [List.prod_eq_zero hz]
    exact Nat.zero_le _
  · rw [List.filter_eq_self.mpr]
    intro n hn
    simpa using fun he : n = 0 => hz (he ▸ hn)

theorem Fits.size_lt {d : ElemType} {shape : Shape} (h : Fits d shape) :
    ∀ n ∈ shape, n < 2 ^ 63 := by
  intro n hn
  by_cases hz : n = 0
  · omega
  · have hd : n ∣ (shape.filter (· ≠ 0)).prod :=
      List.dvd_prod (List.mem_filter.mpr ⟨hn, decide_eq_true hz⟩)
    have hle := Nat.le_of_dvd (one_le_prod_filter shape) hd
    have hm := Nat.le_mul_of_pos_left (shape.filter (· ≠ 0)).prod (byteCount_pos d).1
    exact lt_of_le_of_lt (hle.trans hm) h

theorem shapeOf_yields (d : ElemType) (shape : Shape) (hl : shape.length ≤ maxAxes) :
    Yields (Fits d shape) (· = shape) (shapeOf d (shape.map fun n : Nat => (n : Int))) := by
  have hb : d.byteCount < 2 ^ 63 := lt_of_le_of_lt (byteCount_pos d).2 (by norm_num)
  have ht : (shape.map fun n : Nat => (n : Int)).map Int.toNat = shape := by
    rw [List.map_map]
    exact List.map_id shape
  have hlen : ¬ maxAxes < (shape.map fun n : Nat => (n : Int)).length := by simpa using hl
  have hw : (shape.map fun n : Nat => (n : Int)).all isWord = true ↔
      ∀ n ∈ shape, n < 2 ^ 63 := by
    simp only [List.all_eq_true, List.forall_mem_map, isWord_natCast]
  constructor
  · intro hf
    refine ⟨shape, ?_, rfl⟩
    have hbt := byteTotal_eq hb shape
    rw [if_pos (by exact hf)] at hbt
    simp only [shapeOf, hlen, hw.mpr hf.size_lt, hbt, ht]
    rfl
  · intro hf
    by_cases hs : ∀ n ∈ shape, n < 2 ^ 63
    · left
      have hbt := byteTotal_eq hb shape
      rw [if_neg (by exact hf)] at hbt
      simp only [shapeOf, hlen, hw.mpr hs, hbt]
      rfl
    · right
      have hn := Bool.not_eq_true _ ▸ mt hw.mp hs
      simp only [shapeOf, hlen, hn]
      rfl

section

variable {τ : Assignment}

def Knows (τ : Assignment) (bound : Group) (known : Sizes Nat) : Prop :=
  ∀ l, known.lookup l = if l ∈ bound then some (τ l) else none

theorem Knows.insert {bound : Group} {known : Sizes Nat} (h : Knows τ bound known) {l : Label}
    (hl : l ∉ bound) : Knows τ (l :: bound) (known ++ [(l, τ l)]) := by
  intro m
  rw [List.lookup_append, h m]
  by_cases hm : m = l
  · simp [hm, hl]
  · have hn : (m == l) = false := by simpa using hm
    by_cases hb : m ∈ bound <;> simp [hm, hb, hn, List.lookup]

theorem Knows.congr {bound bound' : Group} {known : Sizes Nat} (h : Knows τ bound known)
    (hb : ∀ l, l ∈ bound ↔ l ∈ bound') : Knows τ bound' known := by
  intro l
  simp only [h l, hb]

theorem getElem?_of_drop {α : Type} {as bs : List α} {a : α} {k : Nat}
    (h : as.drop k = a :: bs) :
    as[k]? = some a ∧ as.drop (k + 1) = bs := by
  refine ⟨by rw [← List.head?_drop, h, List.head?_cons], ?_⟩
  rw [← List.drop_drop, h, List.drop_one, List.tail_cons]

theorem getD_of_drop {α : Type} {as bs : List α} {a : α} {k : Nat} (h : as.drop k = a :: bs)
    (d : α) :
    as.getD k d = a ∧ as.drop (k + 1) = bs := by
  obtain ⟨hk, hr⟩ := getElem?_of_drop h
  rw [List.getD_eq_getElem?_getD, hk, Option.getD_some]
  exact ⟨rfl, hr⟩

section

variable (labels : Group) (shapes : List Shape)

theorem runChecks_axisChecks (operand : Nat) {axis : Nat} {bound ls : Group} {known : Sizes Nat}
    (hk : Knows τ bound known) (hs : (shapes.getD operand []).drop axis = ls.map τ)
    (cs : List Check) :
    ∃ known', Knows τ (ls ++ bound) known' ∧
      runChecks labels shapes known (axisChecks operand axis bound ls ++ cs) =
        runChecks labels shapes known' cs := by
  induction ls generalizing axis bound known with
  | nil => exact ⟨known, hk, rfl⟩
  | cons l ls ih =>
    obtain ⟨hd, ht⟩ := getD_of_drop hs 0
    by_cases hl : l ∈ bound
    · obtain ⟨known', hk', hr⟩ := ih hk ht
      refine ⟨known', hk'.congr (by grind), ?_⟩
      rw [axisChecks, if_pos hl, List.cons_append, runChecks]
      have hc : (Check.agree l operand axis).run labels shapes known = .ok known := by
        simp only [Check.run, requireSize, hk l, hl, hd, if_true, Option.getD_some, Except.map]
      rw [hc]
      exact hr
    · obtain ⟨known', hk', hr⟩ := ih (hk.insert hl) ht
      refine ⟨known', hk'.congr (by grind), ?_⟩
      rw [axisChecks, if_neg hl, List.cons_append, runChecks]
      have hc : (Check.bind l operand axis).run labels shapes known =
          .ok (known ++ [(l, τ l)]) := by
        simp only [Check.run, hd]
      rw [hc]
      exact hr

theorem runChecks_checksFrom {operand : Nat} {bound : Group} {gs : List Group} {known : Sizes Nat}
    (hk : Knows τ bound known) (hs : shapes.drop operand = gs.map fun g => g.map τ) :
    ∃ known', Knows τ (gs.flatten ++ bound) known' ∧
      runChecks labels shapes known (checksFrom operand bound gs) = .ok known' := by
  induction gs generalizing operand bound known with
  | nil => exact ⟨known, hk, rfl⟩
  | cons g gs ih =>
    obtain ⟨hd, ht⟩ := getD_of_drop hs []
    obtain ⟨known₁, hk₁, hr₁⟩ := runChecks_axisChecks labels shapes operand hk
      (hd ▸ List.drop_zero : (shapes.getD operand []).drop 0 = g.map τ)
      (checksFrom (operand + 1) (g ++ bound) gs)
    obtain ⟨known₂, hk₂, hr₂⟩ := ih hk₁ ht
    refine ⟨known₂, hk₂.congr (by simp; grind), ?_⟩
    have hc : (Check.rank operand g).run labels shapes known = .ok known := by
      simp only [Check.run, requireRank, hd, List.length_map, if_true, Except.map]
    rw [checksFrom, List.cons_append, runChecks, hc]
    exact hr₁.trans hr₂

/-- The sizes of all labels are known once the operands have passed. -/
theorem runChecks_prologue {shapes : List Shape} {gs : List Group}
    (hs : shapes = gs.map fun g => g.map τ) :
    ∃ known, Knows τ gs.flatten known ∧ runChecks labels shapes [] (prologue gs) =
      .ok known := by
  have hk : Knows τ [] [] := fun l => rfl
  have hd : shapes.drop 0 = gs.map fun g => g.map τ := by rw [List.drop_zero, hs]
  obtain ⟨known, hk, hr⟩ := runChecks_checksFrom labels shapes hk hd
  exact ⟨known, List.append_nil gs.flatten ▸ hk, hr⟩

end

theorem resultShape_eq {bound ls : Group} {known : Sizes Nat} (hk : Knows τ bound known)
    (hl : ∀ l ∈ ls, l ∈ bound) : Kernel.resultShape known ls = .ok (ls.map τ) := by
  induction ls with
  | nil => rfl
  | cons l ls ih =>
    have hb : l ∈ bound := hl l List.mem_cons_self
    have hi := ih fun m hm => hl m (List.mem_cons_of_mem l hm)
    simp only [Kernel.resultShape, hk l, hb, hi, if_true, Except.map, List.map_cons]

end

theorem isDigit_of_isLabel {l : Label} (h : isLabel l = true) : l.isDigit = false := by
  have hl := (isLabel_iff.mp h).1
  simp only [Char.isDigit, Bool.and_eq_false_iff, decide_eq_false_iff_not]
  right
  intro hv
  have : l.toNat ≤ 57 := hv
  omega

theorem digitIndex?_of_isLabel {l : Label} (h : isLabel l = true) : digitIndex? l = none := by
  simp [digitIndex?, isDigit_of_isLabel h]

section

variable {shapeAt : Place → Shape} {sizes : Assignment} {bound : Group}

theorem indexFault?_eq_none {ls : Group} (hb : ∀ l ∈ ls, l ∈ bound)
    (hl : ∀ l ∈ ls, isLabel l = true) (shape : Shape) : indexFault? bound shape ls = none := by
  have hf : ls.find? (fun l => l ∉ bound && (digitIndex? l).isNone) = none := by
    apply List.find?_eq_none.mpr
    intro l hm
    simp [hb l hm]
  rw [indexFault?, hf]
  apply List.findSome?_eq_none_iff.mpr
  rintro ⟨⟨l, size⟩, axis⟩ hm
  have hm' := (List.of_mem_zip (List.fst_mem_of_mem_zipIdx hm)).1
  simp [digitIndex?_of_isLabel (hl l hm')]

theorem fault?_nest {ls : Group} {b : Block}
    (h : ∀ bound' : Group, (∀ l ∈ ls, l ∈ bound') → (∀ l ∈ bound, l ∈ bound') →
      b.fault? shapeAt sizes bound' = none) :
    (nest ls b).fault? shapeAt sizes bound = none := by
  induction ls generalizing bound with
  | nil => exact h bound (fun l hl => absurd hl List.not_mem_nil) fun l hl => hl
  | cons l ls ih =>
    have hn : nest (l :: ls) b = .loop [l] (nest ls b) := rfl
    rw [hn, Block.fault?]
    split
    · rfl
    · apply ih
      intro bound' hls hb
      refine h bound' ?_ fun m hm => hb m (List.mem_append_right _ hm)
      intro m hm
      rcases List.mem_cons.mp hm with rfl | hm
      · exact hb m (List.mem_append_left _ (List.mem_singleton_self m))
      · exact hls m hm

theorem fault?_loops {flat : Bool} {ls : Group} {b : Block}
    (h : ∀ bound' : Group, (∀ l ∈ ls, l ∈ bound') → (∀ l ∈ bound, l ∈ bound') →
      b.fault? shapeAt sizes bound' = none) :
    (loops flat ls b).fault? shapeAt sizes bound = none := by
  rw [loops]
  split
  · rw [Block.fault?]
    split
    · rfl
    · exact h _ (fun l hl => List.mem_append_left _ hl) fun l hl => List.mem_append_right _ hl
  · exact fault?_nest h

theorem fault?_seq {b c : Block} (hb : b.fault? shapeAt sizes bound = none)
    (hc : c.fault? shapeAt sizes bound = none) :
    (Block.seq b c).fault? shapeAt sizes bound = none := by
  rw [Block.fault?, hb, hc]
  rfl

theorem fault?_atom {st : Statement}
    (hb : ∀ p ∈ st.lookups, ∀ l ∈ p.2, l ∈ bound ∧ isLabel l = true) :
    (Block.atom st).fault? shapeAt sizes bound = none := by
  rw [Block.fault?]
  apply List.findSome?_eq_none_iff.mpr
  rintro ⟨place, ls⟩ hp
  exact indexFault?_eq_none (fun l hl => (hb _ hp l hl).1) (fun l hl => (hb _ hp l hl).2) _

section

variable {s : Subscripts} (hs : s.Validated)

include hs

theorem fault?_output {place : Place} (hb : ∀ l ∈ s.output, l ∈ bound) :
    ∀ p ∈ [(place, s.output)], ∀ l ∈ p.2, l ∈ bound ∧ isLabel l = true := by
  intro p hp l hl
  rw [List.mem_singleton.mp hp] at hl
  exact ⟨hb l hl, hs.letters l (hs.output_subset l hl)⟩

theorem fault?_accesses (hb : ∀ l ∈ s.axes, l ∈ bound) :
    ∀ p ∈ s.accesses.map Access.place, ∀ l ∈ p.2, l ∈ bound ∧ isLabel l = true := by
  intro p hp l hl
  obtain ⟨x, hx, rfl⟩ := List.mem_map.mp hp
  obtain ⟨⟨g, k⟩, hg, rfl⟩ := List.mem_map.mp hx
  have ha : l ∈ s.axes := s.mem_axes.mpr ⟨g, List.fst_mem_of_mem_zipIdx hg, hl⟩
  exact ⟨hb l ha, hs.letters l ha⟩

theorem fault?_reductionBody : (reductionBody s).fault? shapeAt sizes [] = none := by
  obtain ⟨flat, hbody⟩ := reductionBody_eq s
  rw [hbody]
  apply fault?_loops
  intro bound hout _
  rw [reductionCell]
  split
  next hn =>
    have hax : ∀ l ∈ s.axes, l ∈ bound := by
      intro l hl
      by_contra hb
      have hm := s.mem_summed.mpr ⟨hl, fun ho => hb (hout l ho)⟩
      simp [List.isEmpty_iff.mp hn] at hm
    apply fault?_atom
    intro p hp
    rcases List.mem_append.mp hp with hp | hp
    · exact fault?_accesses hs hax p hp
    · exact fault?_output hs hout p hp
  next =>
    have hinner : (loops flat s.summed (.atom (.accumulate s.accesses))).fault? shapeAt sizes
        bound = none := by
      apply fault?_loops
      intro bound' hsum hb
      apply fault?_atom
      apply fault?_accesses hs
      intro l hl
      by_cases ho : l ∈ s.output
      · exact hb l (hout l ho)
      · exact hsum l (s.mem_summed.mpr ⟨hl, ho⟩)
    exact fault?_seq rfl (fault?_seq hinner (fault?_atom (fault?_output hs hout)))

theorem fault?_matrixProduct {left right : Group} {row shared column : Label}
    (hp : MatrixProduct s left right row shared column) :
    (nest [row, shared] (matrixCell s.output ⟨0, left⟩ ⟨1, right⟩ column)).fault?
      shapeAt sizes [] = none := by
  apply fault?_nest
  intro bound hb _
  have hhold : (Block.atom (.hold ⟨0, left⟩)).fault? shapeAt sizes bound = none := by
    apply fault?_atom
    intro p hq l hl
    rw [List.mem_singleton.mp hq] at hl
    have hl' := hp.left_perm.mem_iff.mp hl
    exact ⟨hb l hl', hs.letters l (hp.mem_axes.mpr (by grind))⟩
  have hcolumn : (nest [column] (.atom (.addHeld s.output ⟨1, right⟩))).fault? shapeAt sizes
      bound = none := by
    apply fault?_nest
    intro bound' hc hb'
    have hax : ∀ l ∈ s.axes, l ∈ bound' := by
      intro l hl
      have := hp.mem_axes.mp hl
      grind
    apply fault?_atom
    intro p hq
    rcases List.mem_cons.mp hq with rfl | hq
    · exact fault?_output hs (fun l hl => hax l (hs.output_subset l hl)) _
        (List.mem_singleton_self _)
    · apply fault?_accesses hs hax p
      rw [hp.accesses_eq]
      exact List.mem_cons_of_mem _ hq
  exact fault?_seq hhold hcolumn

theorem fault?_kernelBody {special : Bool} {b : Block}
    (hb : kernelBody s (s.kind special) = .ok b) :
    b.fault? shapeAt sizes [] = none := by
  rcases kernelBody_cases hb with rfl | ⟨left, right, row, shared, column, hp, rfl⟩
  · exact fault?_reductionBody hs
  · exact fault?_matrixProduct hs hp

end

end

theorem Factor.Exact.congr_sizes {d : ElemType} {sizes τ : Assignment} {f : Factor}
    (h : f.Exact d sizes) (hs : ∀ l ∈ f.labels, sizes l = τ l) : f.Exact d τ where
  type := h.type
  shape := h.shape.trans (List.map_congr_left hs)
  full := h.full
  depends := h.depends
  admits a ha := h.admits a fun l hl => hs l hl ▸ ha l hl
  get a ha := h.get a fun l hl => hs l hl ▸ ha l hl

theorem zeros_fill_yields {α : Type} (ops : Arithmetic α) (types : List ElemType) (shape : Shape)
    (hl : shape.length ≤ maxAxes) :
    Yields (Fits (.common types) shape)
      (· = .fill (.common types) shape (ops.zero (.common types)))
      (zeros ops (shape.map fun n : Nat => (n : Int)) types) := by
  have hz : zeros ops (shape.map fun n : Nat => (n : Int)) types =
      shapeOf (.common types) (shape.map fun n : Nat => (n : Int)) >>= fun shape =>
        .ok (.fill (.common types) shape (ops.zero (.common types))) := rfl
  rw [hz]
  refine ((shapeOf_yields (.common types) shape hl).bind (q := True) ?_).imp (and_iff_left trivial)
    fun _ h => h
  rintro _ rfl
  exact Yields.ok rfl

theorem zeros_yields {d : ElemType} (hd : d.IsExact) {τ : Assignment} {ls : Group}
    (hl : ls.length ≤ maxAxes) {types : List ElemType} (ht : .common types = d) :
    Yields (Fits d (ls.map τ)) (Blank d τ ls)
      (zeros Scalar.arithmetic ((ls.map τ).map fun n : Nat => (n : Int)) types) := by
  have hy := zeros_fill_yields Scalar.arithmetic types (ls.map τ) (by simpa using hl)
  rw [ht] at hy
  refine hy.imp Iff.rfl ?_
  rintro _ rfl
  refine ⟨rfl, rfl, Tensor.isFull_fill .., fun ns hns => ?_⟩
  exact (Tensor.get_fill d _ hns).trans (ElemType.zero_eq_element hd)

def Store.outcome {α : Type} (s : Store α) : Except Error (Tensor α) :=
  match s.failure with
  | some e => .error e
  | none => .ok s.result

theorem Store.outcome_of_none {α : Type} {u : Store α} (h : u.failure = none) :
    u.outcome = .ok u.result := by
  rw [Store.outcome, h]

theorem Store.outcome_of_some {α : Type} {u : Store α} {e : Error} (h : u.failure = some e) :
    u.outcome = .error e := by
  rw [Store.outcome, h]

theorem Store.result_of_outcome {α : Type} {u : Store α} {t : Tensor α} (h : u.outcome = .ok t) :
    u.result = t := by
  cases hf : u.failure with
  | none => exact Except.ok.inj ((outcome_of_none hf).symm.trans h)
  | some e => cases (outcome_of_some hf).symm.trans h

/-- On operands that agree on the sizes of labels a kernel allocates its result and fills it, the
sizes being those of the operands. -/
theorem call_of_shapes {α : Type} (ops : Arithmetic α) {τ : Assignment} {k : Kernel}
    {special : Bool} (hv : k.pattern.Validated)
    (hb : kernelBody k.pattern (k.pattern.kind special) = .ok k.body) {ts : List (Tensor α)}
    (hs : ts.map Tensor.shape = k.pattern.inputs.map fun g => g.map τ) (labels : Group) :
    ∃ known, (∀ l ∈ k.pattern.axes, Kernel.assignment known l = τ l) ∧
      k.call ops labels ts =
        zeros ops ((k.pattern.output.map τ).map fun n : Nat => (n : Int)) (ts.map Tensor.type) >>=
          fun result =>
          (k.body.fill ops ts (Kernel.assignment known) result).outcome := by
  have hlen : ts.length = k.pattern.inputs.length := by simpa using congrArg List.length hs
  have hcount : k.checkCount ts.length = .ok () := if_pos hlen
  obtain ⟨known, hk, hr⟩ := runChecks_prologue labels hs
  refine ⟨known, fun l hl => ?_, ?_⟩
  · have hl' : l ∈ k.pattern.inputs.flatten := hl
    simp [Kernel.assignment, hk l, hl']
  · simp only [Kernel.call, hcount, hr, Except.mapError, ok_bind,
      resultShape_eq hk hv.output_subset, fault?_kernelBody hv hb]
    rfl

theorem Products.congr_sizes {d : ElemType} {sizes τ : Assignment} {s : Subscripts}
    {ts : List (Tensor Scalar)} {v : Assignment → Int} (h : Products d sizes s ts v)
    (hs : ∀ l ∈ s.axes, sizes l = τ l) : Products d τ s ts v where
  product a ha := h.product a fun l hl => hs l hl ▸ ha l hl
  admits a ha := h.admits a fun l hl => hs l hl ▸ ha l hl
  depends := h.depends

/-- A kernel called on operands that agree on the sizes of labels gives the sum of products, if the
result can be allocated. -/
theorem call_yields {d : ElemType} (hd : d.IsExact) {τ : Assignment} {k : Kernel} {special : Bool}
    (hv : k.pattern.Validated) (hb : kernelBody k.pattern (k.pattern.kind special) = .ok k.body)
    {ts : List (Tensor Scalar)} (hs : ts.map Tensor.shape = k.pattern.inputs.map fun g => g.map τ)
    (ht : .common (ts.map Tensor.type) = d) {v : Assignment → Int}
    (hp : Products d τ k.pattern ts v) (hc : d = .bool → (k.pattern.summed.map τ).prod < 2 ^ 64)
    (labels : Group) :
    Yields (Fits d (k.pattern.output.map τ))
      (fun t => Factor.Exact d τ ⟨k.pattern.output, t, sumOver τ k.pattern.summed v⟩)
      (k.call Scalar.arithmetic labels ts) := by
  obtain ⟨known, hsize, hcall⟩ := call_of_shapes Scalar.arithmetic hv hb hs labels
  have hp' : Products d (Kernel.assignment known) k.pattern ts v :=
    hp.congr_sizes fun l hl => (hsize l hl).symm
  have hout : ∀ l ∈ k.pattern.output, Kernel.assignment known l = τ l :=
    fun l hl => hsize l (hv.output_subset l hl)
  have hsum : ∀ l ∈ k.pattern.summed, Kernel.assignment known l = τ l :=
    fun l hl => hsize l (k.pattern.mem_summed.mp hl).1
  have hlen : k.pattern.output.length ≤ maxAxes :=
    (length_le_of_letters hv.output_nodup fun l hl => hv.letters l (hv.output_subset l hl)).trans
      (by decide)
  rw [hcall]
  refine ((zeros_yields hd hlen ht).bind (q := True) ?_).imp (and_iff_left trivial) fun _ h => h
  intro t ht
  have ht' : Blank d (Kernel.assignment known) k.pattern.output t :=
    ⟨ht.type, ht.shape.trans (List.map_congr_left fun l hl => (hout l hl).symm),
      ht.full, ht.get⟩
  have hc' : d = .bool → (k.pattern.summed.map (Kernel.assignment known)).prod < 2 ^ 64 := by
    rwa [List.map_congr_left hsum]
  obtain ⟨hfail, hx⟩ := computes_kernelBody hd hp' hb hc' .start t ht'
  have hfill : (k.body.fill Scalar.arithmetic ts (Kernel.assignment known) t).failure = none :=
    hfail
  rw [Store.outcome, hfill]
  apply Yields.ok
  have hvalue : sumOver (Kernel.assignment known) k.pattern.summed v =
      sumOver τ k.pattern.summed v := by
    funext a
    exact sumOver_congr_sizes hsum
  rw [hvalue] at hx
  exact hx.congr_sizes hout

end Einsum

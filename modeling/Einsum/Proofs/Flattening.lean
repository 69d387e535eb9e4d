import Einsum.Proofs.Listing
import Einsum.Proofs.Run

namespace Einsum

namespace Block

/-- The statements that a block carries out, in order, with the values that the labels have
there. -/
def visits (sizes : Assignment) : Block → Assignment → List (Statement × Assignment)
  | atom st, a => [(st, a)]
  | seq b c, a => b.visits sizes a ++ c.visits sizes a
  | loop labels b, a =>
    (tuples (labels.map sizes)).flatMap fun ns => b.visits sizes (a.bind labels ns)

def nested : Block → Block
  | atom st => atom st
  | seq b c => seq b.nested c.nested
  | loop labels b => nest labels b.nested

section

variable {α : Type} (ops : Arithmetic α) (operands : List (Tensor α)) (sizes : Assignment)

theorem run_eq_foldl_visits (b : Block) (a : Assignment) (s : Store α) :
    b.run ops operands sizes a s =
      (b.visits sizes a).foldl (fun s v => v.1.run ops operands v.2 s) s := by
  induction b generalizing a s with
  | atom st => rfl
  | seq b c ihb ihc => rw [run, visits, List.foldl_append, ihb, ihc]
  | loop labels b ih =>
    rw [run, visits, List.foldl_flatMap]
    congr 1
    funext s ns
    exact ih _ s

theorem visits_loop (ls : Group) (b : Block) (a : Assignment) :
    (loop ls b).visits sizes a = (assignments sizes ls a).flatMap (b.visits sizes) := by
  rw [visits, ← map_bind_tuples, List.flatMap_map]

theorem visits_nest (ls : Group) (b : Block) (a : Assignment) :
    (nest ls b).visits sizes a = (assignments sizes ls a).flatMap (b.visits sizes) := by
  induction ls generalizing a with
  | nil => simp [nest, assignments]
  | cons l ls ih =>
    have hl : nest (l :: ls) b = loop [l] (nest ls b) := rfl
    have ha : assignments sizes (l :: ls) a =
        (assignments sizes [l] a).flatMap (assignments sizes ls) :=
      assignments_append [l] ls
    rw [hl, visits_loop, ha, List.flatMap_assoc]
    congr 1
    funext a
    exact ih a

/-- Tuples come in the order in which nested loops run through them. -/
theorem visits_nested (b : Block) (a : Assignment) :
    b.nested.visits sizes a = b.visits sizes a := by
  induction b generalizing a with
  | atom st => rfl
  | seq b c ihb ihc => rw [nested, visits, visits, ihb, ihc]
  | loop labels b ih =>
    rw [nested, visits_nest, visits_loop]
    congr 1
    funext a
    exact ih a

end

section

variable {shapeAt : Place → Shape} {sizes : Assignment}

theorem fault?_congr (b : Block) {bound bound' : Group} (h : ∀ l, l ∈ bound ↔ l ∈ bound') :
    b.fault? shapeAt sizes bound = b.fault? shapeAt sizes bound' := by
  induction b generalizing bound bound' with
  | atom st => simp only [fault?, indexFault?, h]
  | seq b c ihb ihc => rw [fault?, fault?, ihb h, ihc h]
  | loop labels b ih =>
    have hl : ∀ l, l ∈ labels ++ bound ↔ l ∈ labels ++ bound' := by
      intro l
      rw [List.mem_append, List.mem_append, h]
    rw [fault?, fault?, ih hl]

theorem fault?_nest_eq (ls : Group) (b : Block) (bound : Group) :
    (nest ls b).fault? shapeAt sizes bound = (loop ls b).fault? shapeAt sizes bound := by
  induction ls generalizing bound with
  | nil => rfl
  | cons l ls ih =>
    have hl : nest (l :: ls) b = loop [l] (nest ls b) := rfl
    have hb : b.fault? shapeAt sizes (ls ++ ([l] ++ bound)) =
        b.fault? shapeAt sizes (l :: ls ++ bound) := by
      apply fault?_congr
      intro m
      simp only [List.mem_append, List.mem_cons]
      tauto
    rw [hl, fault?, ih, fault?, fault?, hb, List.any_cons, List.any_cons, List.any_nil,
      Bool.or_false]
    cases decide (sizes l = 0) <;> rfl

theorem fault?_nested (b : Block) (bound : Group) :
    b.nested.fault? shapeAt sizes bound = b.fault? shapeAt sizes bound := by
  induction b generalizing bound with
  | atom st => rfl
  | seq b c ihb ihc => rw [nested, fault?, fault?, ihb, ihc]
  | loop labels b ih => rw [nested, fault?_nest_eq, fault?, fault?, ih]

end

theorem nested_nest (ls : Group) (b : Block) : (nest ls b).nested = nest ls b.nested := by
  induction ls with
  | nil => rfl
  | cons l ls ih =>
    have hl (b : Block) : nest (l :: ls) b = loop [l] (nest ls b) := rfl
    rw [hl, nested, ih, hl]
    rfl

theorem nested_loops (flat : Bool) (ls : Group) (b : Block) :
    (loops flat ls b).nested = nest ls b.nested := by
  rw [loops]
  split
  · rfl
  · exact nested_nest ls b

theorem depth_nest (ls : Group) (b : Block) : (nest ls b).depth = ls.length + b.depth := by
  induction ls with
  | nil => simp [nest]
  | cons l ls ih =>
    have hl : nest (l :: ls) b = loop [l] (nest ls b) := rfl
    rw [hl, depth, ih, List.length_cons]
    omega

theorem depth_loops_le (flat : Bool) (ls : Group) (b : Block) :
    (loops flat ls b).depth ≤ (if flat then 1 else ls.length) + b.depth := by
  rw [loops]
  cases flat with
  | false => simp [depth_nest]
  | true =>
    by_cases hl : 2 ≤ ls.length
    · simp only [hl, decide_true, Bool.and_self, if_true, depth]
      omega
    · simp only [hl, decide_false, Bool.and_false, Bool.false_eq_true, if_false,
        if_true, depth_nest]
      omega

end Block

def nestBody (s : Subscripts) : KernelKind → Except Error Block
  | .generalReduction | .trace => .ok (nest s.output (reductionCell s false))
  | .matrixProduct => matrixProductBody s
  | .diagonalExtraction => s.inputs.head?.elim (.error .listIndex) fun g =>
    .ok (nest s.output (.atom (.assign s.output [⟨0, g⟩])))

theorem nested_reductionBody (s : Subscripts) :
    (reductionBody s).nested = nest s.output (reductionCell s false) := by
  obtain ⟨flat, hbody⟩ := reductionBody_eq s
  rw [hbody, Block.nested_loops, reductionCell, reductionCell]
  split
  · rfl
  · simp only [Block.nested, Block.nested_loops]
    rfl

theorem matrixProductBody_cases {s : Subscripts} {b : Block} (h : matrixProductBody s = .ok b) :
    ∃ left right row shared column, b =
      nest [row, shared] (matrixCell s.output ⟨0, left⟩ ⟨1, right⟩ column) := by
  rw [matrixProductBody] at h
  split at h
  next left right hin =>
    obtain ⟨shared, -, h⟩ := bind_eq_ok h
    obtain ⟨row, -, h⟩ := bind_eq_ok h
    obtain ⟨column, -, h⟩ := bind_eq_ok h
    exact ⟨left, right, row, shared, column, (Except.ok.inj h).symm⟩
  all_goals cases h

theorem nestBody_of_kernelBody {s : Subscripts} {kind : KernelKind} {b : Block}
    (h : kernelBody s kind = .ok b) :
    nestBody s kind = .ok b.nested := by
  cases kind with
  | generalReduction | trace =>
    cases h
    rw [nested_reductionBody, nestBody]
  | matrixProduct =>
    obtain ⟨left, right, row, shared, column, rfl⟩ := matrixProductBody_cases h
    rw [Block.nested_nest]
    exact h
  | diagonalExtraction =>
    rw [kernelBody, diagonalBody] at h
    split at h
    · cases h
    next g gs hin =>
      cases h
      rw [nestBody, hin, Block.nested_loops]
      rfl

theorem depth_reductionCell_le (s : Subscripts) (flat : Bool) :
    (reductionCell s flat).depth ≤ if flat then 1 else s.summed.length := by
  rw [reductionCell]
  split
  · exact Nat.zero_le _
  · have hl := Block.depth_loops_le flat s.summed (.atom (.accumulate s.accesses))
    simpa [Block.depth] using hl

theorem depth_kernelBody {s : Subscripts} {kind : KernelKind} {b : Block}
    (h : kernelBody s kind = .ok b) :
    b.depth ≤ nestingLimit := by
  cases kind with
  | generalReduction | trace =>
    cases h
    obtain ⟨flat, hflat, hbody⟩ : ∃ flat, flat =
      decide (nestingLimit < s.output.length + s.summed.length) ∧
        reductionBody s = loops flat s.output (reductionCell s flat) := ⟨_, rfl, rfl⟩
    have houter := Block.depth_loops_le flat s.output (reductionCell s flat)
    have hinner := depth_reductionCell_le s flat
    rw [hbody]
    cases flat with
    | true =>
      simp only [if_true] at houter hinner
      rw [nestingLimit]
      omega
    | false =>
      have hfew := of_decide_eq_false hflat.symm
      simp only [Bool.false_eq_true, if_false] at houter hinner
      omega
  | matrixProduct =>
    obtain ⟨left, right, row, shared, column, rfl⟩ := matrixProductBody_cases h
    simp [Block.depth_nest, matrixCell, Block.depth, nestingLimit]
  | diagonalExtraction =>
    rw [kernelBody, diagonalBody] at h
    split at h
    · cases h
    next g gs hin =>
      cases h
      refine (Block.depth_loops_le _ _ _).trans ?_
      by_cases hflat : nestingLimit < s.output.length
      · rw [decide_eq_true hflat, if_pos rfl, Block.depth, nestingLimit]
        omega
      · rw [decide_eq_false hflat, if_neg Bool.false_ne_true]
        exact Nat.le_of_not_lt hflat

theorem Kernel.call_congr {k : Kernel} {b : Block}
    (hv : ∀ sizes a, k.body.visits sizes a = b.visits sizes a)
    (hf : ∀ shapeAt sizes, k.body.fault? shapeAt sizes [] = b.fault? shapeAt sizes []) {α : Type}
    (ops : Arithmetic α) (labels : Group) (operands : List (Tensor α)) :
    k.call ops labels operands = { k with body := b }.call ops labels operands := by
  simp only [Kernel.call, Block.fill, Kernel.checkCount, hf, Block.run_eq_foldl_visits, hv]

theorem Kernel.call_eq_ok {k : Kernel} {special : Bool} (hv : k.pattern.Validated)
    (hb : kernelBody k.pattern (k.pattern.kind special) = .ok k.body) {α : Type}
    {ops : Arithmetic α} (hn : ∀ x, ops.fault? x = none) {operands : List (Tensor α)}
    {σ : Assignment} (hs : operands.map Tensor.shape = k.pattern.inputs.map fun g => g.map σ)
    (hfits : Fits (.common (operands.map Tensor.type)) (k.pattern.output.map σ)) (labels : Group) :
    ∃ t, k.call ops labels operands = .ok t ∧ t.shape = k.pattern.output.map σ := by
  obtain ⟨known, -, hcall⟩ := call_of_shapes ops hv hb hs labels
  have hlike (blank : Tensor α) :
      (k.body.fill ops operands (Kernel.assignment known) blank).result.Alike blank :=
    k.body.run_alike ops operands (Kernel.assignment known) .start (.start ops blank)
  have hfail (blank : Tensor α) :
      (k.body.fill ops operands (Kernel.assignment known) blank).failure = none := by
    refine k.body.run_invariant (I := fun u => u.failure = none) (fun st a u hu => ?_) _ _ rfl
    cases st <;> simp [Statement.run, Store.write, Store.note, hn, hu]
  obtain ⟨blank, hz, rfl⟩ :=
    (zeros_fill_yields ops (operands.map Tensor.type) _ (length_output_le hv σ)).success hfits
  rw [hcall, hz, ok_bind, Store.outcome, hfail]
  exact ⟨_, rfl, (hlike _).shape⟩

/-- A kernel has at most eighteen loops inside one another, so that no line of its text is indented
by more than nineteen levels. No call can tell it from the kernel with a loop for each label: both
visit the same values of the labels in the same order. -/
theorem Kernel.emit_runs_as_nest {s pattern : Subscripts} (hs : s.Validated)
    (hp : pattern = s ∨ pattern = s.canonical) (special : Bool) (serial : Nat) (word : String) :
    ∃ k b, Kernel.emit serial pattern (s.kind special) word = .ok k ∧ k.body.depth ≤ 18 ∧
      (IsLine word → ∀ l ∈ textLines k.source, indentation l ≤ 4 * (18 + 1)) ∧
      nestBody pattern (s.kind special) = .ok b ∧
        (∀ sizes a, k.body.visits sizes a = b.visits sizes a) ∧
        ∀ (α : Type) (ops : Arithmetic α) (labels : Group) (operands : List (Tensor α)),
          k.call ops labels operands = { k with body := b }.call ops labels operands ∧
            ((∀ x, ops.fault? x = none) → ∀ σ : Assignment,
              (operands.map Tensor.shape = pattern.inputs.map fun g => g.map σ) →
                Fits (.common (operands.map Tensor.type)) (pattern.output.map σ) →
                  ∃ t, k.call ops labels operands = .ok t ∧
                    t.shape = pattern.output.map σ) := by
  obtain ⟨hv, hkind⟩ : pattern.Validated ∧ pattern.kind special = s.kind special := by
    rcases hp with rfl | rfl
    · exact ⟨hs, rfl⟩
    · exact ⟨hs.canonical, kind_canonical hs special⟩
  obtain ⟨body, hb⟩ := exists_kernelBody pattern special
  have hv' (sizes a : Assignment) : body.visits sizes a = body.nested.visits sizes a :=
    (body.visits_nested sizes a).symm
  have hf (shapeAt : Place → Shape) (sizes : Assignment) :
      body.fault? shapeAt sizes [] = body.nested.fault? shapeAt sizes [] :=
        (body.fault?_nested []).symm
  have hdepth : body.depth ≤ 18 := depth_kernelBody hb
  let k : Kernel := ⟨serial, nameOf pattern word, pattern.kind special, pattern, body⟩
  have htext (hw : IsLine word) : ∀ l ∈ textLines k.source, indentation l ≤ 4 * (18 + 1) := by
    rw [textLines_source hv hb (isLine_nameOf hv hw), List.forall_mem_append,
      List.forall_mem_singleton]
    exact ⟨fun l hl => (k.indentation_lines_le l hl).trans (by gcongr), by decide⟩
  rw [← hkind]
  refine ⟨k, body.nested, by rw [emit, hb]; rfl, hdepth, htext, nestBody_of_kernelBody hb, hv',
    fun α ops labels operands => ⟨?_, ?_⟩⟩
  · exact call_congr hv' hf ops labels operands
  · intro hn σ hsh hfits
    exact call_eq_ok hv hb hn hsh hfits labels

/-- Twenty labels are too many for loops inside one another; differences are neither commutative nor
associative. -/
theorem Kernel.emit_runs_as_nest_of_twenty :
    let s : Subscripts := ⟨["hgfedcbaij".toList, "klmnopqrst".toList], "abcdefghij".toList⟩
    let ops : Arithmetic Int :=
      ⟨0, fun _ => 0, fun x y => x - y, fun x y => y - 2 * x, fun _ x => x, fun _ => none⟩
    ∃ k b, Kernel.emit 0 s.canonical (s.kind true) "" = .ok k ∧ k.body.depth ≤ 18 ∧
      b.depth = 20 ∧ (∀ l ∈ textLines k.source, indentation l ≤ 4 * (18 + 1)) ∧
      ∀ labels operands, k.call ops labels operands =
        { k with body := b }.call ops labels operands := by
  intro s ops
  have hs : s.Validated := by decide
  obtain ⟨k, b, hk, hd, htext, hb, -, hcall⟩ := emit_runs_as_nest hs (.inr rfl) true 0 ""
  refine ⟨k, b, hk, hd, ?_, htext (by decide), fun labels operands =>
    (hcall Int ops labels operands).1⟩
  have hdepth : (nestBody s.canonical (s.kind true)).toOption.map Block.depth = some 20 := by
    decide +kernel
  rw [hb] at hdepth
  exact Option.some.inj hdepth

end Einsum

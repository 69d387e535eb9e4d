import Einsum.Proofs.Compilation
import Einsum.Proofs.Sizes

namespace Einsum

def IsLine (s : String) : Prop := '\n' ∉ s.toList

instance (s : String) : Decidable (IsLine s) := inferInstanceAs (Decidable ¬ _)

def textLines (text : String) : List String := (text.toList.splitOn '\n').map String.ofList

def definedName? (l : String) : Option String :=
  if "def ".toList.isPrefixOf l.toList then
    some (String.ofList ((l.toList.drop 4).takeWhile (· ≠ '('))) else none

def Indented (l : String) : Prop := ∃ depth text, l = line (depth + 1) text ∧ IsLine text

def Defines (name : String) (ls : List String) : Prop :=
  ∃ head rest, ls = head :: rest ∧ IsLine head ∧ definedName? head = some name ∧
    ∀ l ∈ rest, Indented l

theorem toList_line (depth : Nat) (text : String) :
    (line depth text).toList = List.replicate (4 * depth) ' ' ++ text.toList := by
  have hpush (n : Nat) : ("".pushn ' ' n).toList = List.replicate n ' ' := by
    induction n with
    | zero => rfl
    | succ n ih =>
      rw [String.pushn_eq_repeat_push] at ih ⊢
      rw [Nat.repeat, String.toList_push, ih, List.replicate_succ']
  rw [line, String.toList_append, hpush]

def indentation (l : String) : Nat := (l.toList.takeWhile (· = ' ')).length

def IsFlush (s : String) : Prop := s.toList.head?.any (· ≠ ' ') = true

instance (s : String) : Decidable (IsFlush s) := inferInstanceAs (Decidable (_ = true))

theorem IsFlush.append {s : String} (h : IsFlush s) (t : String) : IsFlush (s ++ t) := by
  rw [IsFlush] at h ⊢
  rw [String.toList_append]
  cases hs : s.toList with
  | nil =>
    rw [hs] at h
    cases h
  | cons c cs =>
    rw [hs] at h
    exact h

theorem IsFlush.takeWhile_eq_nil {s : String} (h : IsFlush s) :
    s.toList.takeWhile (· = ' ') = [] := by
  rw [IsFlush] at h
  cases hs : s.toList with
  | nil => rfl
  | cons c cs =>
    rw [hs] at h
    exact List.takeWhile_cons_of_neg (by simpa using h)

theorem indentation_line {text : String} (h : IsFlush text) (depth : Nat) :
    indentation (line depth text) = 4 * depth := by
  rw [indentation, toList_line, List.takeWhile_append_of_pos (by simp), h.takeWhile_eq_nil,
    List.append_nil, List.length_replicate]

theorem isLine_line {text : String} (h : IsLine text) (depth : Nat) : IsLine (line depth text) := by
  rw [IsLine, toList_line, List.mem_append, List.mem_replicate]
  rintro (⟨-, hb⟩ | ht)
  · cases hb
  · exact h ht

theorem Indented.isLine {l : String} (h : Indented l) : IsLine l := by
  obtain ⟨depth, text, rfl, ht⟩ := h
  exact isLine_line ht _

theorem Defines.lines {name : String} {ls : List String} (h : Defines name ls) :
    ls ≠ [] ∧ ∀ l ∈ ls, IsLine l := by
  obtain ⟨head, rest, rfl, hh, -, hr⟩ := h
  exact ⟨List.cons_ne_nil _ _, List.forall_mem_cons.mpr ⟨hh, fun l hl => (hr l hl).isLine⟩⟩

section

variable {s t : String}

@[simp]
theorem isLine_append : IsLine (s ++ t) ↔ IsLine s ∧ IsLine t := by
  simp [IsLine, String.toList_append, not_or]

theorem textLines_append (s t : String) :
    textLines (s ++ "\n" ++ t) = textLines s ++ textLines t := by
  have hl : (s ++ "\n" ++ t).toList = s.toList ++ '\n' :: t.toList := by simp [String.toList_append]
  rw [textLines, hl, List.splitOn_append_cons_self, List.map_append, textLines, textLines]

theorem textLines_empty : textLines "" = [""] := by decide

/-- Lines that are written down one below the other can be read again. -/
theorem textLines_intercalate {ls : List String} (hne : ls ≠ []) (h : ∀ l ∈ ls, IsLine l) :
    textLines ("\n".intercalate ls ++ "\n") = ls ++ [""] := by
  have hsplit : textLines ("\n".intercalate ls) = ls := by
    have hb : ∀ l ∈ ls.map String.toList, '\n' ∉ l := List.forall_mem_map.mpr h
    have hn : ls.map String.toList ≠ [] := by simpa using hne
    rw [textLines, String.toList_intercalate]
    refine (congrArg _ (List.splitOn_intercalate '\n' hb hn)).trans ?_
    simp [List.map_map, Function.comp_def]
  have happ := textLines_append ("\n".intercalate ls) ""
  rwa [String.append_empty, hsplit, textLines_empty] at happ

end

theorem isLine_intercalate {sep : String} (hs : IsLine sep) {parts : List String}
    (h : ∀ p ∈ parts, IsLine p) :
    IsLine (sep.intercalate parts) := by
  induction parts with
  | nil => exact List.not_mem_nil
  | cons p parts ih =>
    rw [List.forall_mem_cons] at h
    cases parts with
    | nil => simpa using h.1
    | cons q parts =>
      rw [String.intercalate_cons_cons, isLine_append, isLine_append]
      exact ⟨⟨h.1, hs⟩, ih h.2⟩

theorem isLine_commaList {items : List String} (h : ∀ i ∈ items, IsLine i) :
    IsLine (commaList items) :=
  isLine_intercalate (by decide) h

@[simp]
theorem isLine_repr (n : Nat) : IsLine n.repr := by
  intro h
  rw [Nat.toList_repr] at h
  exact absurd (Nat.isDigit_of_mem_toDigits (by decide) (by decide) h) (by decide)

@[simp]
theorem isLine_operandName (k : Nat) : IsLine (operandName k) := by
  have hk : operandName k = "arg" ++ k.repr := rfl
  rw [hk, isLine_append]
  exact ⟨by decide, isLine_repr k⟩

theorem ne_break_of_isLabel {l : Label} (h : isLabel l = true) : l ≠ '\n' := by
  rintro rfl
  exact absurd h (by decide)

theorem isLine_labelText {l : Label} (h : isLabel l = true) : IsLine (labelText l) := by
  rw [IsLine, labelText, String.toList_singleton, List.mem_singleton]
  exact (ne_break_of_isLabel h).symm

theorem isLine_sizeName {l : Label} (h : isLabel l = true) : IsLine (sizeName l) := by
  have hl : sizeName l = "n_" ++ labelText l := rfl
  rw [hl, isLine_append]
  exact ⟨by decide, isLine_labelText h⟩

theorem break_notMem_escapeChar {mark : Char} (hm : mark ≠ '\n') (c : Char) :
    '\n' ∉ Text.escapeChar mark c := by
  have hhex (width n : Nat) : '\n' ∉ Text.hexadecimal width n := by
    intro h
    obtain ⟨k, -, hk⟩ := List.mem_map.mp h
    have hd : ∀ d < 16, Nat.digitChar d ≠ '\n' := by decide
    exact hd _ (Nat.mod_lt _ (by decide)) hk
  rw [Text.escapeChar]
  split_ifs with hmark hbreak
  · have hc : c ≠ '\n' := by
      rintro rfl
      simp [hm.symm] at hmark
    simp [hc.symm]
  · decide
  · decide
  · decide
  · simp only [beq_iff_eq] at hbreak
    simp [Ne.symm hbreak]
  · rw [Text.escapeCode]
    split_ifs <;> simp [hhex]

@[simp]
theorem isLine_quote (s : String) : IsLine (Text.quote s) := by
  have hm : Text.quoteMark s.toList ≠ '\n' := by
    rw [Text.quoteMark]
    split <;> decide
  rw [IsLine, Text.quote, String.toList_ofList, Text.quoteChars]
  simp only [List.cons_append, List.mem_cons, List.mem_append, List.mem_flatMap, not_or,
    List.not_mem_nil]
  refine ⟨hm.symm, ?_, hm.symm, not_false⟩
  rintro ⟨c, -, hc⟩
  exact break_notMem_escapeChar hm c hc

section

variable {g : Group} (hg : ∀ l ∈ g, isLabel l = true)

include hg

theorem isLine_labels : IsLine (commaList (g.map labelText)) :=
  isLine_commaList (List.forall_mem_map.mpr fun l hl => isLine_labelText (hg l hl))

theorem isLine_sizeNames : IsLine (commaList (g.map sizeName)) :=
  isLine_commaList (List.forall_mem_map.mpr fun l hl => isLine_sizeName (hg l hl))

theorem isLine_indexText {name : String} (hn : IsLine name) : IsLine (indexText name g) := by
  have hlabels := isLine_labels hg
  unfold indexText
  split <;> simp +decide [toString, hn, hlabels]

theorem isLine_shapeSource : IsLine (shapeSource g) := by
  have hsizes := isLine_sizeNames hg
  unfold shapeSource
  split
  next l => simp +decide [toString, isLine_sizeName (hg l List.mem_cons_self)]
  next => simp +decide [toString, hsizes]

theorem isLine_loopHeader : IsLine (loopHeader g) := by
  have hrange (l : Label) (hl : l ∈ g) : IsLine (rangeSource l) := by
    simp +decide [rangeSource, toString, isLine_sizeName (hg l hl)]
  have hlabels := isLine_labels hg
  have hranges : IsLine (commaList (g.map rangeSource)) :=
    isLine_commaList (List.forall_mem_map.mpr hrange)
  unfold loopHeader
  split
  next l =>
    have hl : IsLine (String.singleton l) := isLine_labelText (hg l List.mem_cons_self)
    simp only [toString, isLine_append]
    exact ⟨⟨⟨⟨by decide, hl⟩, by decide⟩, hrange l List.mem_cons_self⟩, by decide⟩
  next => simp +decide [toString, hlabels, hranges]

end

theorem isLine_productSource {factors : List Access}
    (h : ∀ x ∈ factors, ∀ l ∈ x.labels, isLabel l = true) :
    IsLine (productSource factors) :=
  isLine_intercalate (by decide) (List.forall_mem_map.mpr fun x hx => isLine_indexText (h x hx)
    (isLine_operandName _))

theorem Statement.isLine_source {st : Statement}
    (h : ∀ p ∈ st.lookups, ∀ l ∈ p.2, isLabel l = true) :
    IsLine st.source := by
  have hout {g : Group} (hg : ∀ l ∈ g, isLabel l = true) : IsLine (indexText resultName g) :=
    isLine_indexText hg (by decide)
  have hin {x : Access} (hx : ∀ l ∈ x.labels, isLabel l = true) : IsLine x.source :=
    isLine_indexText hx (isLine_operandName x.operand)
  cases st with
  | clear => decide
  | accumulate factors =>
    simp +decide [source, toString, isLine_productSource (List.forall_mem_map.mp h)]
  | flush target =>
    rw [lookups, List.forall_mem_singleton] at h
    simp +decide [source, toString, hout h]
  | assign target factors =>
    rw [lookups, List.forall_mem_append, List.forall_mem_singleton] at h
    simp +decide [source, toString, hout h.2, isLine_productSource (List.forall_mem_map.mp h.1)]
  | hold factor =>
    rw [lookups, List.forall_mem_singleton] at h
    simp +decide [source, toString, hin h]
  | addHeld target factor =>
    rw [lookups, List.forall_mem_cons, List.forall_mem_singleton] at h
    simp +decide [source, toString, hout h.1, hin h.2]

theorem isFlush_indexText (g : Group) : IsFlush (indexText resultName g) := by
  unfold indexText
  split <;> simp +decide [toString, IsFlush.append]

theorem Statement.isFlush_source (st : Statement) : IsFlush st.source := by
  cases st with
  | clear => decide
  | accumulate | hold => simp +decide [source, toString, IsFlush.append]
  | flush | assign | addHeld => simp [source, toString, IsFlush.append, isFlush_indexText]

theorem isFlush_loopHeader (g : Group) : IsFlush (loopHeader g) := by
  unfold loopHeader
  split
  all_goals
    repeat apply IsFlush.append
    decide

namespace Block

theorem indentation_source_le (b : Block) (depth : Nat) :
    ∀ l ∈ b.source depth, indentation l ≤ 4 * (depth + b.depth) := by
  induction b generalizing depth with
  | atom st =>
    rw [source, List.forall_mem_singleton, indentation_line st.isFlush_source]
    exact le_rfl
  | seq b c ihb ihc =>
    rw [source, List.forall_mem_append, Block.depth]
    exact ⟨fun l hl => (ihb depth l hl).trans (by omega),
      fun l hl => (ihc depth l hl).trans (by omega)⟩
  | loop labels b ih =>
    rw [source, List.forall_mem_cons, indentation_line (isFlush_loopHeader labels), Block.depth]
    exact ⟨by omega, fun l hl => (ih (depth + 1) l hl).trans (by omega)⟩

def mentioned : Block → Group
  | atom st => st.lookups.flatMap Prod.snd
  | seq b c => b.mentioned ++ c.mentioned
  | loop labels b => labels ++ b.mentioned

theorem mentioned_nest (ls : Group) (b : Block) : (nest ls b).mentioned = ls ++ b.mentioned := by
  induction ls with
  | nil => rfl
  | cons l ls ih =>
    have hn : nest (l :: ls) b = loop [l] (nest ls b) := rfl
    rw [hn, mentioned, ih]
    rfl

theorem mentioned_loops (flat : Bool) (ls : Group) (b : Block) :
    (loops flat ls b).mentioned = ls ++ b.mentioned := by
  rw [loops]
  split
  · rfl
  · exact mentioned_nest ls b

theorem indented_source {b : Block} (h : ∀ l ∈ b.mentioned, isLabel l = true) (depth : Nat) :
    ∀ text ∈ b.source (depth + 1), Indented text := by
  induction b generalizing depth with
  | atom st =>
    rw [source, List.forall_mem_singleton]
    refine ⟨depth, st.source, rfl, st.isLine_source fun p hp l hl => ?_⟩
    exact h l (List.mem_flatMap.mpr ⟨p, hp, hl⟩)
  | seq b c ihb ihc =>
    rw [mentioned, List.forall_mem_append] at h
    rw [source, List.forall_mem_append]
    exact ⟨ihb h.1 depth, ihc h.2 depth⟩
  | loop labels b ih =>
    rw [mentioned, List.forall_mem_append] at h
    rw [source, List.forall_mem_cons]
    exact ⟨⟨depth, loopHeader labels, rfl, isLine_loopHeader h.1⟩, ih h.2 (depth + 1)⟩

end Block

theorem mentioned_kernelBody {s : Subscripts} (hs : s.Validated) {special : Bool} {b : Block}
    (hb : kernelBody s (s.kind special) = .ok b) : ∀ l ∈ b.mentioned, l ∈ s.axes := by
  have hacc : ∀ l ∈ (s.accesses.map Access.place).flatMap Prod.snd, l ∈ s.axes := by
    intro l hl
    obtain ⟨p, hp, hl⟩ := List.mem_flatMap.mp hl
    exact (fault?_accesses hs (fun _ h => h) p hp l hl).1
  have hout := hs.output_subset
  have hsum : ∀ l ∈ s.summed, l ∈ s.axes := fun l hl => (s.mem_summed.mp hl).1
  rcases kernelBody_cases hb with rfl | ⟨left, right, row, shared, column, hp, rfl⟩
  · obtain ⟨flat, hbody⟩ := reductionBody_eq s
    rw [hbody, Block.mentioned_loops, List.forall_mem_append, reductionCell]
    refine ⟨hout, ?_⟩
    split
    · rw [Block.mentioned, Statement.lookups, List.flatMap_append, List.forall_mem_append]
      exact ⟨hacc, by simpa using hout⟩
    · simp only [Block.mentioned, Block.mentioned_loops, Statement.lookups, List.flatMap_nil,
        List.nil_append, List.forall_mem_append]
      exact ⟨⟨hsum, hacc⟩, by simpa using hout⟩
  · intro l hl
    simp only [Block.mentioned_nest, matrixCell, Block.mentioned, Statement.lookups, Access.place,
      List.flatMap_cons, List.flatMap_nil, List.append_nil, List.mem_append, hp.left_perm.mem_iff,
      hp.right_perm.mem_iff, hp.output_perm.mem_iff, List.mem_cons, List.not_mem_nil,
      or_false] at hl
    rw [hp.mem_axes, List.mem_cons, List.mem_cons, List.mem_singleton]
    tauto

theorem Subscripts.Validated.isLine_text {s : Subscripts} (hs : s.Validated) : IsLine s.text := by
  have h : s.Avoids '\n' := hs.avoids rfl
  have hi := h.notMem_joinGroups (by decide)
  have ho := h.2
  rw [IsLine, Subscripts.text, String.toList_ofList]
  simp [Subscripts.chars, hi, ho]

namespace Check

theorem source_rank (operand : Nat) (group : Group) :
    (rank operand group).source =
      "_rank(" ++ operandName operand ++ ", " ++ group.length.repr ++ ", " ++
      Text.quote (operandName operand) ++ ", " ++ Text.quote group.text ++ ", labels)" := rfl

theorem source_bind (l : Label) (operand axis : Nat) :
    (bind l operand axis).source =
      sizeName l ++ " = " ++ operandName operand ++ ".shape[" ++ axis.repr ++ "]" := rfl

theorem source_agree (l : Label) (operand axis : Nat) :
    (agree l operand axis).source =
      "_dim(labels, " ++ Text.quote (labelText l) ++ ", " ++ sizeName l ++
      ", " ++ operandName operand ++ ".shape[" ++ axis.repr ++ "], " ++
        Text.quote (operandName operand) ++ ", " ++ axis.repr ++ ")" := rfl

theorem isLine_source {c : Check} (h : ∀ l ∈ c.labels, isLabel l = true) : IsLine c.source := by
  cases c with
  | rank operand group =>
    simp only [source_rank, isLine_append, isLine_operandName, isLine_repr, isLine_quote, and_true]
    decide
  | bind l operand axis =>
    simp only [source_bind, isLine_append, isLine_sizeName (h l List.mem_cons_self),
      isLine_operandName, isLine_repr, true_and, and_true]
    decide
  | agree l operand axis =>
    simp only [source_agree, isLine_append, isLine_sizeName (h l List.mem_cons_self),
      isLine_operandName, isLine_repr, isLine_quote, and_true]
    decide

theorem isFlush_source (c : Check) : IsFlush c.source := by
  cases c with
  | rank operand group =>
    rw [source_rank]
    repeat apply IsFlush.append
    decide
  | bind l operand axis =>
    have hl : sizeName l = "n_" ++ labelText l := rfl
    rw [source_bind, hl]
    repeat apply IsFlush.append
    decide
  | agree l operand axis =>
    rw [source_agree]
    repeat apply IsFlush.append
    decide

end Check

namespace Kernel

theorem header_eq (k : Kernel) :
    k.header = "def " ++ k.name ++ "(" ++ (commaList k.pattern.operandNames ++ ", labels):") := by
  simp only [header, toString, String.append_assoc]

theorem lines_eq (k : Kernel) :
    k.lines = k.header :: ([line 1 s!"# {k.kind.name}: {k.pattern}"] ++
      (prologue k.pattern.inputs).map (fun c => line 1 c.source) ++ [line 1 k.allocation] ++
        k.body.source 1 ++ [line 1 s!"return {resultName}"]) := rfl

theorem isLine_operandNames (s : Subscripts) : IsLine (commaList s.operandNames) :=
  isLine_commaList (List.forall_mem_map.mpr fun i _ => isLine_operandName i)

theorem isLine_nameOf {pattern : Subscripts} (hv : pattern.Validated) {word : String}
    (hw : IsLine word) :
    IsLine (nameOf pattern word) := by
  rw [IsLine, toList_nameOf, List.mem_append]
  rintro (h | h)
  · exact hw h
  · rcases Subscripts.mem_identifier hv h with hl | hl
    · exact ne_break_of_isLabel hl rfl
    · exact absurd hl (by decide)

theorem isLine_header {k : Kernel} (hn : IsLine k.name) : IsLine k.header := by
  simp only [header_eq, isLine_append, hn, isLine_operandNames, and_true, true_and]
  decide

theorem indented_lines {k : Kernel} {special : Bool} (hv : k.pattern.Validated)
    (hb : kernelBody k.pattern (k.pattern.kind special) = .ok k.body) :
    ∀ l ∈ k.lines.tail, Indented l := by
  have hcomment : IsLine s!"# {k.kind.name}: {k.pattern}" := by
    have hkind : IsLine k.kind.name := by cases k.kind <;> decide
    have htext : IsLine (toString k.pattern) := hv.isLine_text
    simp only [isLine_append, htext, and_true]
    exact ⟨⟨by decide, hkind⟩, by decide⟩
  have hzeros : IsLine k.allocation := by
    have hshape : IsLine (shapeSource k.pattern.output) :=
      isLine_shapeSource fun l hl => hv.letters l (hv.output_subset l hl)
    simp only [allocation, toString, isLine_append]
    exact ⟨⟨⟨⟨⟨by decide, by decide⟩, hshape⟩, by decide⟩, isLine_operandNames _⟩,
      by decide⟩
  have hchecks : ∀ check ∈ prologue k.pattern.inputs, IsLine check.source := by
    intro check hm
    exact check.isLine_source fun l hl => hv.letters l (mem_labels_checksFrom hm hl)
  have hbody := k.body.indented_source
    (fun l hl => hv.letters l (mentioned_kernelBody hv hb l hl)) 0
  rw [lines_eq, List.tail_cons]
  simp only [List.forall_mem_append, List.forall_mem_map, List.forall_mem_singleton]
  exact ⟨⟨⟨⟨⟨0, _, rfl, hcomment⟩, fun check hm => ⟨0, _, rfl, hchecks check hm⟩⟩,
    ⟨0, _, rfl, hzeros⟩⟩, hbody⟩, ⟨0, _, rfl, by decide⟩⟩

theorem textLines_source {k : Kernel} {special : Bool} (hv : k.pattern.Validated)
    (hb : kernelBody k.pattern (k.pattern.kind special) = .ok k.body) (hn : IsLine k.name) :
    textLines k.source = k.lines ++ [""] := by
  refine textLines_intercalate (List.cons_ne_nil _ _) ?_
  exact List.forall_mem_cons.mpr
    ⟨isLine_header hn, fun l hl => (indented_lines hv hb l hl).isLine⟩

theorem indentation_lines_le (k : Kernel) :
    ∀ l ∈ k.lines, indentation l ≤ 4 * (k.body.depth + 1) := by
  have hlevel {text : String} (h : IsFlush text) :
      indentation (line 1 text) ≤ 4 * (k.body.depth + 1) := by
    rw [indentation_line h]
    omega
  have hheader : IsFlush k.header := by
    rw [header_eq]
    repeat apply IsFlush.append
    decide
  have hcomment : IsFlush s!"# {k.kind.name}: {k.pattern}" := by
    repeat apply IsFlush.append
    decide
  have hzeros : IsFlush k.allocation := by
    repeat apply IsFlush.append
    decide
  have hreturn : IsFlush s!"return {resultName}" := by decide
  rw [lines_eq]
  simp only [List.forall_mem_cons, List.forall_mem_append, List.forall_mem_map, List.not_mem_nil,
    false_imp_iff, implies_true, and_true]
  refine ⟨?_, ⟨⟨⟨hlevel hcomment, fun c _ => hlevel c.isFlush_source⟩, hlevel hzeros⟩,
    fun l hl => ?_⟩, hlevel hreturn⟩
  · rw [indentation, hheader.takeWhile_eq_nil]
    exact Nat.zero_le _
  · rw [add_comm]
    exact k.body.indentation_source_le 1 l hl

end Kernel

end Einsum

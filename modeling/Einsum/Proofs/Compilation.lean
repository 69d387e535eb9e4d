import Einsum.Proofs.Lowering

namespace Einsum

section

variable {ls : Group} {b : Block}

theorem loopLabels_nest : (nest ls b).loopLabels = ls ++ b.loopLabels := by
  induction ls with
  | nil => rfl
  | cons l ls ih =>
    have hn : nest (l :: ls) b = .loop [l] (nest ls b) := rfl
    rw [hn, Block.loopLabels, ih]
    rfl

theorem loopLabels_loops {flat : Bool} : (loops flat ls b).loopLabels = ls ++ b.loopLabels := by
  rw [loops]
  split
  · rfl
  · exact loopLabels_nest

end

theorem loopLabels_reductionBody (s : Subscripts) :
    (reductionBody s).loopLabels = s.output ++ s.summed := by
  obtain ⟨flat, hbody⟩ := reductionBody_eq s
  rw [hbody, loopLabels_loops, reductionCell]
  split
  next he => rw [List.isEmpty_iff.mp he]; rfl
  next => simp [Block.loopLabels, loopLabels_loops]

theorem loopLabels_matrixProduct {output : Group} {x y : Access} {row shared column : Label} :
    (nest [row, shared] (matrixCell output x y column)).loopLabels = [row, shared, column] := by
  simp [loopLabels_nest, matrixCell, Block.loopLabels]

theorem loopLabels_kernelBody {s : Subscripts} {special : Bool} {b : Block}
    (hb : kernelBody s (s.kind special) = .ok b) : ∀ l ∈ b.loopLabels, l ∈ s.labels := by
  rcases kernelBody_cases hb with rfl | ⟨left, right, row, shared, column, hp, rfl⟩
  · rw [loopLabels_reductionBody, List.forall_mem_append]
    exact ⟨fun l hl => s.mem_labels.mpr (.inr hl), fun l hl => s.mem_labels.mpr
      (.inl (s.mem_summed.mp hl).1)⟩
  · rw [loopLabels_matrixProduct]
    exact fun l hl => s.mem_labels.mpr (.inl (hp.mem_axes.mpr hl))

namespace Text

variable {cs ds : List Char} {c : Char}

theorem Ranges.contains_of_isLabel {ranges : Ranges} (hr : (0x61, 0x7a) ∈ ranges)
    (h : isLabel c = true) :
    ranges.contains c = true := by
  obtain ⟨hl, hh⟩ := isLabel_iff.mp h
  exact List.any_eq_true.mpr ⟨(0x61, 0x7a), hr, by simp [hl, hh]⟩

theorem isIdentifierStart_of_isLabel (h : isLabel c = true) : isIdentifierStart c = true :=
  Ranges.contains_of_isLabel (List.mem_of_getElem? (i := 2) rfl) h

theorem isIdentifierPart_of_isLabel (h : isLabel c = true) : isIdentifierPart c = true :=
  Ranges.contains_of_isLabel (List.mem_of_getElem? (i := 3) rfl) h

theorem isIdentifier_append (h : isIdentifier (cs ++ ['x']) = true) (hne : ds ≠ [])
    (hd : ∀ c ∈ ds, isLabel c = true ∨ c = '_') : isIdentifier (cs ++ ds) = true := by
  have hpart : ds.all isIdentifierPart = true := by
    rw [List.all_eq_true]
    intro c hc
    rcases hd c hc with hl | rfl
    · exact isIdentifierPart_of_isLabel hl
    · decide
  cases cs with
  | nil =>
    obtain ⟨c, ds, rfl⟩ := List.exists_cons_of_ne_nil hne
    rw [List.all_cons, Bool.and_eq_true] at hpart
    rw [List.nil_append, isIdentifier, hpart.2, Bool.and_true]
    rcases hd c List.mem_cons_self with hl | rfl
    · exact isIdentifierStart_of_isLabel hl
    · decide
  | cons c cs =>
    simp only [List.cons_append, isIdentifier, List.all_append, Bool.and_eq_true] at h ⊢
    exact ⟨h.1, h.2.1, hpart⟩

theorem Ranges.le_toNat {ranges : Ranges} {n : Nat} (hr : ranges.all (n ≤ ·.1) = true)
    (h : ranges.contains c = true) : n ≤ c.toNat := by
  obtain ⟨r, hm, hc⟩ := List.any_eq_true.mp h
  have hn := List.all_eq_true.mp hr r hm
  rw [Bool.and_eq_true, decide_eq_true_eq] at hc
  exact (of_decide_eq_true hn).trans hc.1

theorem zero_le_of_isIdentifierStart (h : isIdentifierStart c = true) : '0'.toNat ≤ c.toNat :=
  Ranges.le_toNat (by decide +kernel) h

theorem zero_le_of_isIdentifierPart (h : isIdentifierPart c = true) : '0'.toNat ≤ c.toNat :=
  Ranges.le_toNat (by decide +kernel) h

theorem zero_le_of_isIdentifier (h : isIdentifier cs = true) :
    ∀ c ∈ cs, '0'.toNat ≤ c.toNat := by
  cases cs with
  | nil => exact fun c hc => absurd hc List.not_mem_nil
  | cons c cs =>
    rw [isIdentifier, Bool.and_eq_true, List.all_eq_true] at h
    rw [List.forall_mem_cons]
    exact ⟨zero_le_of_isIdentifierStart h.1, fun d hd => zero_le_of_isIdentifierPart (h.2 d hd)⟩

theorem dropWhile_isBlank (h : isIdentifier cs = true) : cs.dropWhile Lexis.isBlank = cs := by
  cases cs with
  | nil => rfl
  | cons c cs =>
    have hc := zero_le_of_isIdentifier h c List.mem_cons_self
    apply List.dropWhile_cons_of_neg
    intro hb
    simp only [Lexis.isBlank, Bool.or_eq_true, beq_iff_eq] at hb
    rcases hb with (rfl | rfl) | rfl <;> exact absurd hc (by decide)

theorem null_notMem (h : isIdentifier cs = true) : '\x00' ∉ cs :=
  fun hm => absurd (zero_le_of_isIdentifier h _ hm) (by decide)

end Text

namespace Subscripts

variable {s : Subscripts}

theorem toList_identifier (s : Subscripts) :
    s.identifier.toList = s.inputs.flatMap (· ++ ['_']) ++ '_' :: s.output := String.toList_ofList

theorem mem_identifier (hs : s.Validated) {c : Char} (hc : c ∈ s.identifier.toList) :
    isLabel c = true ∨ c = '_' := by
  rw [toList_identifier, List.mem_append, List.mem_flatMap, List.mem_cons] at hc
  rcases hc with ⟨g, hg, hc⟩ | rfl | hc
  · rcases List.mem_append.mp hc with hc | hc
    · exact .inl (hs.letters c (s.mem_axes.mpr ⟨g, hg, hc⟩))
    · exact .inr (List.mem_singleton.mp hc)
  · exact .inr rfl
  · exact .inl (hs.letters c (hs.output_subset c hc))

theorem mem_axes_canonical (h : s.axes ≠ []) : 'a' ∈ s.canonical.axes := by
  obtain ⟨l, ls, hax⟩ := List.exists_cons_of_ne_nil h
  have hl : s.canonicalLabel l = 'a' := by
    rw [canonicalLabel, labels, hax, List.cons_append, firsts, List.idxOf_cons_self]
    rfl
  rw [canonical, axes_relabel, hax, List.map_cons, hl]
  exact List.mem_cons_self

theorem identifier_of_axes_eq_nil (hs : s.Validated) (h : s.axes = []) :
    s.identifier.toList = List.replicate (s.inputs.length + 1) '_' := by
  have hi : ∀ g ∈ s.inputs, g = [] := by
    intro g hg
    apply List.eq_nil_iff_forall_not_mem.mpr
    intro l hl
    have := s.mem_axes.mpr ⟨g, hg, hl⟩
    simp [h] at this
  have ho : s.output = [] := by
    apply List.eq_nil_iff_forall_not_mem.mpr
    intro l hl
    have := hs.output_subset l hl
    simp [h] at this
  have hm : s.inputs.flatMap (· ++ ['_']) = s.inputs.flatMap fun _ => ['_'] :=
    List.flatMap_congr fun g hg => by rw [hi g hg]; rfl
  rw [toList_identifier, hm, ho, ← List.map_eq_flatMap, List.map_const', List.replicate_succ']

end Subscripts

namespace Kernel

variable {s : Subscripts} {c : Config} {k : Kernel}

theorem toList_nameOf (pattern : Subscripts) (word : String) :
    (nameOf pattern word).toList = word.toList ++ pattern.identifier.toList := String.toList_append

/-- No kernel but that for a single scalar can get the reserved name. -/
theorem nameOf_ne_reservedName (hs : s.Validated) (h : 2 ≤ s.inputs.length ∨ s.axes ≠ [])
    (word : String) :
    (nameOf s.canonical word).toList ≠ reservedName.toList := by
  intro he
  rw [toList_nameOf] at he
  -- With labels there is an `a`, and scalars alone give three underscores at the end.
  by_cases hax : s.axes = []
  · have hc : s.canonical.axes = [] := by rw [Subscripts.canonical, s.axes_relabel, hax]; rfl
    have hlen : s.canonical.inputs.length = s.inputs.length := by
      simp [Subscripts.canonical, Subscripts.relabel]
    have hk : s.canonical.inputs.length + 1 = (s.inputs.length - 2) + 3 := by
      have := h.resolve_right (not_not.mpr hax)
      omega
    rw [Subscripts.identifier_of_axes_eq_nil hs.canonical hc, hk, List.replicate_add,
      ← List.append_assoc] at he
    have hs : ['_', '_', '_'] <:+ reservedName.toList := ⟨_, he⟩
    exact absurd hs (by decide)
  · obtain ⟨g, hg, ha⟩ := s.canonical.mem_axes.mp (Subscripts.mem_axes_canonical hax)
    have hm : 'a' ∈ s.canonical.identifier.toList := by
      rw [Subscripts.toList_identifier]
      exact List.mem_append_left _ (List.mem_flatMap.mpr ⟨g, hg, List.mem_append_left _ ha⟩)
    have hr : 'a' ∈ reservedName.toList := he ▸ List.mem_append_right _ hm
    exact absurd hr (by decide)

section

variable (hs : s.Validated) (hp : Settings.isUsablePrefix c.kernelPrefix = true)

include hs hp

theorem isIdentifier_nameOf :
    Text.isIdentifier (nameOf s.canonical c.kernelPrefix).toList = true := by
  rw [toList_nameOf]
  refine Text.isIdentifier_append hp ?_ fun _ => Subscripts.mem_identifier hs.canonical
  rw [Subscripts.toList_identifier]
  exact List.append_ne_nil_of_right_ne_nil _ (List.cons_ne_nil _ _)

theorem IsFor.refusal?_eq_none (hk : k.IsFor c s) (hi : s.inputs ≠ [])
    (h : 2 ≤ s.inputs.length ∨ s.axes ≠ []) : k.refusal? = none := by
  have hname : k.name.toList.dropWhile Lexis.isBlank =
      (nameOf s.canonical c.kernelPrefix).toList := by
    rw [hk.name]
    exact Text.dropWhile_isBlank (isIdentifier_nameOf hs hp)
  have hlabels (l : Label) (hl : l ∈ s.canonical.labels) : isLabel l = true := by
    rcases s.canonical.mem_labels.mp hl with hl | hl
    · exact hs.canonical.letters l hl
    · exact hs.canonical.letters l (hs.canonical.output_subset l hl)
  have hplain : k.isPlain = true := by
    have hin : k.pattern.inputs.isEmpty = false := by
      rw [hk.pattern]
      simpa using Subscripts.canonical_inputs_ne_nil hi
    have hall : (k.pattern.labels.all fun l => Text.isIdentifierStart l || l.isDigit) = true := by
      rw [hk.pattern, List.all_eq_true]
      intro l hl
      rw [Text.isIdentifierStart_of_isLabel (hlabels l hl), Bool.true_or]
    rw [isPlain, hin, hname, isIdentifier_nameOf hs hp, hall]
    rfl
  have hloops : k.body.loopLabels.any Char.isDigit = false := by
    have hb := hk.body
    rw [← kind_canonical hs] at hb
    rw [List.any_eq_false]
    intro l hl
    simp [isDigit_of_isLabel (hlabels l (loopLabels_kernelBody hb l hl))]
  rw [refusal?, hplain, hloops, hname]
  simp [nameOf_ne_reservedName hs h]

/-- The kernel is a program, so all that matters is whether it is found under its own name. -/
theorem IsFor.compile_eq (hk : k.IsFor c s) (hi : s.inputs ≠ [])
    (h : 2 ≤ s.inputs.length ∨ s.axes ≠ []) :
    k.compile = if Text.isNormal k.name.toList then .ok ()
      else .error (.missingKey (Text.quote k.name)) := by
  have hid := isIdentifier_nameOf hs hp
  rw [← hk.name] at hid
  have hnull : k.name.contains '\x00' = false := by
    rw [String.contains_char_eq, decide_eq_false_iff_not]
    exact Text.null_notMem hid
  rw [compile, hk.refusal?_eq_none hs hp hi h, hnull, hid, Bool.true_and]
  rfl

theorem IsFor.compile_eq_ok (hk : k.IsFor c s) (hi : s.inputs ≠ [])
    (h : 2 ≤ s.inputs.length ∨ s.axes ≠ [])
    (ha : c.kernelPrefix.toList.all (·.toNat < 0x80) = true) :
    k.compile = .ok () := by
  have hnormal : Text.isNormal k.name.toList = true := by
    rw [Text.isNormal, hk.name, toList_nameOf, List.all_append, ha, Bool.true_and, Bool.or_eq_true,
      List.all_eq_true]
    left
    intro ch hch
    rw [decide_eq_true_eq]
    rcases Subscripts.mem_identifier hs.canonical hch with hl | rfl
    · have := (isLabel_iff.mp hl).2
      omega
    · decide
  rw [hk.compile_eq hs hp hi h, if_pos hnormal]

end

end Kernel

end Einsum

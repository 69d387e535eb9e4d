import Einsum.Proofs.Session

namespace Einsum

namespace Text

section

variable {c : Char} (hc : c.toNat < 0x80)

include hc

theorem combiningClass_of_lt : combiningClass c = 0 := by
  have hall : ∀ r ∈ combiningRanges, 0x80 ≤ r.1 := by decide +kernel
  rw [combiningClass, List.find?_eq_none.mpr]
  intro r hr
  have hlt := hall r hr
  have hle : ¬ r.1 ≤ c.toNat := by omega
  simp [hle]

theorem decompose_of_lt (fuel : Nat) : decompose fuel c = [c] := by
  cases fuel with
  | zero => rfl
  | succ fuel =>
    have hall : ∀ r ∈ compositions, 0x80 ≤ r.1 := by decide +kernel
    have hh : hangulParts? c.toNat = none := if_neg (by omega)
    have hp : parts? c = none := by
      rw [parts?, hh, List.find?_eq_none.mpr]
      · rfl
      · intro r hr
        have hlt := hall r hr
        have hne : r.1 ≠ c.toNat := by omega
        simp [hne]
    rw [decompose, hp]

theorem compose?_of_lt (b : Char) : compose? b c = none := by
  have hall : ∀ r ∈ compositions, 0x80 ≤ r.2.2 := by decide +kernel
  have hh : composeHangul? b.toNat c.toNat = none := by
    rw [composeHangul?, if_neg (by omega)]
    split
    · rw [if_neg (by omega)]
    · rfl
  rw [compose?, hh, List.find?_eq_none.mpr]
  · rfl
  · intro r hr
    have hlt := hall r hr
    have hne : r.2.2 ≠ c.toNat := by omega
    simp [hne]

theorem isVariant_of_lt : isVariant c = false := by
  rw [Bool.eq_false_iff]
  intro h
  have := Ranges.le_toNat (n := 0x80) (by decide +kernel) h
  omega

end

section

variable {cs ds : List Char} (hd : ∀ d ∈ ds, d.toNat < 0x80)

include hd

theorem flatMap_decompose : ds.flatMap (decompose decompositionDepth) = ds := by
  rw [List.flatMap_congr fun d hm => decompose_of_lt (hd d hm) decompositionDepth]
  exact List.flatMap_singleton' ds

theorem takeWhile_marks : ds.takeWhile (fun d => combiningClass d ≠ 0) = [] := by
  cases ds with
  | nil => rfl
  | cons d ds =>
    exact List.takeWhile_cons_of_neg (by simp [combiningClass_of_lt (hd d List.mem_cons_self)])

theorem orderMarks_of_lt : orderMarks ds = ds := by
  induction ds with
  | nil => rfl
  | cons d ds ih =>
    rw [List.forall_mem_cons] at hd
    rw [orderMarks, if_pos (combiningClass_of_lt hd.1), ih hd.2]

theorem orderMarks_append : orderMarks (cs ++ ds) = orderMarks cs ++ ds := by
  induction cs with
  | nil => exact orderMarks_of_lt hd
  | cons c cs ih =>
    have htake : (orderMarks cs ++ ds).takeWhile (fun d => combiningClass d ≠ 0) =
        (orderMarks cs).takeWhile fun d => combiningClass d ≠ 0 := by
      rw [List.takeWhile_append, takeWhile_marks hd, List.append_nil]
      split
      next h => exact ((List.takeWhile_prefix _).eq_of_length h).symm
      next => rfl
    have hle :=
      (List.takeWhile_prefix (l := orderMarks cs) fun d => combiningClass d ≠ 0).length_le
    rw [List.cons_append, orderMarks, orderMarks, ih, htake]
    split
    · rfl
    · dsimp only
      rw [List.drop_append_of_le_length hle, List.append_assoc]

theorem chars_foldl_step (s : Composing) : (ds.foldl Composing.step s).chars = s.chars ++ ds := by
  induction ds generalizing s with
  | nil => exact (List.append_nil _).symm
  | cons d ds ih =>
    rw [List.forall_mem_cons] at hd
    have hb : s.base.bind (compose? · d) = none := by
      cases s.base with
      | none => rfl
      | some b => exact compose?_of_lt hd.1 b
    have hstep : s.step d = ⟨s.chars, some d, [], 0⟩ := by
      simp only [Composing.step, hb, combiningClass_of_lt hd.1, if_true]
    rw [List.foldl_cons, hstep, ih hd.2]
    simp [Composing.chars]

theorem compose_append : compose (cs ++ ds) = compose cs ++ ds := by
  rw [compose, List.foldl_append, chars_foldl_step hd]
  rfl

/-- Whether a text is its own normal form does not depend on what is ASCII at its end. -/
theorem isNormal_append : isNormal (cs ++ ds) = isNormal cs := by
  have hall : ds.all (·.toNat < 0x80) = true := by simpa using hd
  have hany : ds.any isVariant = false := List.any_eq_false.mpr fun d hm => by
    simp [isVariant_of_lt (hd d hm)]
  have heq : (compose (orderMarks ((cs ++ ds).flatMap (decompose decompositionDepth))) =
      cs ++ ds) ↔ compose (orderMarks (cs.flatMap (decompose decompositionDepth))) = cs := by
    rw [List.flatMap_append, flatMap_decompose hd, orderMarks_append hd, compose_append hd,
      List.append_cancel_right_eq]
  simp only [isNormal, List.all_append, hall, List.any_append, hany, Bool.and_true,
    Bool.or_false, heq]

end

end Text

theorem Kernel.IsFor.isNormal_name {c : Config} {s : Subscripts} {k : Kernel} (hk : k.IsFor c s)
    (hs : s.Validated) :
    Text.isNormal k.name.toList = Text.isNormal c.kernelPrefix.toList := by
  rw [hk.name, Kernel.toList_nameOf]
  apply Text.isNormal_append
  intro d hd
  rcases Subscripts.mem_identifier hs.canonical hd with hl | rfl
  · have := (isLabel_iff.mp hl).2
    omega
  · decide

theorem compileKernels_of_error {k : Kernel} {ks : List Kernel} {err : Error}
    (h : k.compile = .error err) :
    compileKernels (k :: ks) = .error err := by
  rw [compileKernels, h]

theorem Program.IsFor.kernels_ne_nil {c : Config} {e : Expression} {p : Program} (h : p.IsFor c e) :
    p.kernels ≠ [] := by
  have hops : p.operations ≠ [] := by
    have hlow := h.operations
    generalize p.operations = ops at hlow
    cases hlow with
    | single => exact List.cons_ne_nil _ _
    | steps ne _ performs =>
      rintro rfl
      exact ne (List.forall₂_nil_right_iff.mp performs)
  obtain ⟨op, ops, ho⟩ := List.exists_cons_of_ne_nil hops
  rw [Program.kernels, linkedKernels, ho, List.map_cons, distinctBy]
  exact List.cons_ne_nil _ _

section

variable {c : Config} {text : String} {n : Int} {e : Expression} {p : Program}
  (hp : parse text = .ok e) (hc : e.check n = .ok ()) (h : p.IsFor c e)

include hp hc h

theorem Program.IsFor.compile_kernel (hu : Settings.isUsablePrefix c.kernelPrefix = true) :
    ∀ k ∈ p.kernels,
      k.compile = if Text.isNormal c.kernelPrefix.toList then .ok ()
        else .error (.missingKey (Text.quote k.name)) := by
  intro k hk
  obtain ⟨op, hop, rfl⟩ := List.mem_map.mp (mem_of_mem_distinctBy hk)
  obtain ⟨s, hs, hi, hl, hfor⟩ := h.kernels hp hc op hop
  rw [hfor.compile_eq hs hu hi hl, hfor.isNormal_name hs]

theorem Program.IsFor.compileKernels_eq (hu : Settings.isUsablePrefix c.kernelPrefix = true) :
    if Text.isNormal c.kernelPrefix.toList then compileKernels p.kernels = .ok ()
    else ∃ literal, compileKernels p.kernels = .error (.missingKey literal) := by
  have hk := h.compile_kernel hp hc hu
  split
  next hn =>
    apply compileKernels_eq_ok
    intro k hm
    rw [hk k hm, if_pos hn]
  next hn =>
    obtain ⟨k, ks, hks⟩ := List.exists_cons_of_ne_nil h.kernels_ne_nil
    have hm : k ∈ p.kernels := hks ▸ List.mem_cons_self
    refine ⟨Text.quote k.name, ?_⟩
    rw [hks]
    apply compileKernels_of_error
    rw [hk k hm, if_neg hn]

end

end Einsum

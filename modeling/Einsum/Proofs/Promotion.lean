import Einsum.Proofs.Element

namespace Einsum

namespace ElemType

theorem mem_ints (w : IntType) : .int w ∈ ints := by
  obtain ⟨signed, width⟩ := w
  cases signed <;> cases width <;> decide

theorem mem_all (d : ElemType) : d ∈ all := by
  cases d with
  | int t => exact List.mem_cons_of_mem _ (List.mem_append_left _ (mem_ints t))
  | bool | float32 | float64 | object => decide

theorem common_pair (a b : ElemType) : common [a, b] = a.promote b := by
  have h : ∀ a ∈ all, ∀ b ∈ all, common [a, b] = a.promote b := by decide
  exact h a (mem_all a) b (mem_all b)

theorem promote_eq_object {a b : ElemType} :
    a.promote b = .object ↔ a = .object ∨ b = .object := by
  have h : ∀ a ∈ all, ∀ b ∈ all, a.promote b = .object ↔ a = .object ∨ b = .object := by
    decide
  exact h a (mem_all a) b (mem_all b)

def wholes : List ElemType := .bool :: ints

/-- Whole types, and the type that those combine to which no integer type holds. -/
def widened : List ElemType := wholes ++ [.float64]

section

variable {a b c m t z : ElemType}

theorem promote_comm (a b : ElemType) : a.promote b = b.promote a := by
  have h : ∀ a ∈ all, ∀ b ∈ all, a.promote b = b.promote a := by decide
  exact h a (mem_all a) b (mem_all b)

@[simp]
theorem promote_bool (a : ElemType) : a.promote .bool = a := by cases a <;> rfl

theorem promote_left_comm (ha : a ∈ wholes) (hb : b ∈ wholes) (c : ElemType) :
    a.promote (b.promote c) = b.promote (a.promote c) := by
  have h : ∀ a ∈ wholes, ∀ b ∈ wholes, ∀ c ∈ all, a.promote (b.promote c) =
      b.promote (a.promote c) := by
    decide +kernel
  exact h a ha b hb c (mem_all c)

theorem promote_assoc (ha : a ∈ wholes) (hb : b ∈ wholes) (hc : c ∈ wholes) :
    (a.promote b).promote c = a.promote (b.promote c) := by
  have h : ∀ a ∈ wholes, ∀ b ∈ wholes, ∀ c ∈ wholes, (a.promote b).promote c =
      a.promote (b.promote c) := by
    decide +kernel
  exact h a ha b hb c hc

theorem promote_absorb (ha : a ∈ wholes) (c : ElemType) :
    a.promote (a.promote c) = a.promote c := by
  have h : ∀ a ∈ wholes, ∀ c ∈ all, a.promote (a.promote c) = a.promote c := by decide
  exact h a ha c (mem_all c)

theorem promote_of_greater (hm : m ∈ wholes) (ht : t ∈ wholes) (hz : z ∈ widened)
    (h : m.promote z = z) :
    z.promote (m.promote t) = t.promote z ∧ t.promote z ∈ widened ∧ m.promote (t.promote z) =
      t.promote z := by
  have hall : ∀ m ∈ wholes, ∀ t ∈ wholes, ∀ z ∈ widened, m.promote z = z →
      z.promote (m.promote t) = t.promote z ∧ t.promote z ∈ widened ∧
        m.promote (t.promote z) = t.promote z := by
    decide +kernel
  exact hall m hm t ht z hz h

def join (ts : List ElemType) : ElemType := ts.foldr promote .bool

variable {ts us : List ElemType} {w : IntType}

theorem join_perm (hw : ∀ t ∈ ts, t ∈ wholes) (hp : ts.Perm us) : join ts = join us :=
  hp.foldr_eq' (fun a ha b hb c => promote_left_comm (hw b hb) (hw a ha) c) _

theorem promote_join (hw : ∀ t ∈ ts, t ∈ wholes) (ha : a ∈ ts) :
    a.promote (join ts) = join ts := by
  rw [join_perm hw (List.perm_cons_erase ha)]
  exact promote_absorb (hw a ha) _

theorem greatest_mem (hne : ts ≠ []) : greatest ts ∈ ts := by
  induction ts with
  | nil => exact absurd rfl hne
  | cons t ts ih =>
    by_cases h : (greatest ts).index ≤ t.index
    · simp [greatest, h]
    · have hts : ts ≠ [] := by
        rintro rfl
        exact h (by simp [greatest, index, all])
      simp [greatest, h, ih hts]

theorem foldl_promote_greater (hm : m ∈ wholes) (hw : ∀ t ∈ ts, t ∈ wholes)
    (hz : z ∈ widened) (h : m.promote z = z) :
    (ts.map m.promote).foldl promote z = ts.foldl (fun z t => t.promote z) z := by
  induction ts generalizing z with
  | nil => rfl
  | cons t ts ih =>
    rw [List.forall_mem_cons] at hw
    obtain ⟨heq, hmem, hle⟩ := promote_of_greater hm hw.1 hz h
    rw [List.map_cons, List.foldl_cons, List.foldl_cons, heq]
    exact ih hw.2 hmem hle

/-- For whole types it does not matter which of them is combined first. -/
theorem common_eq_join (hw : ∀ t ∈ ts, t ∈ wholes) (hne : ts ≠ []) :
    common ts = join ts := by
  have hm := greatest_mem hne
  have hcommon : common ts = (ts.map (greatest ts).promote).foldl promote (greatest ts) := by
    cases ts with
    | nil => exact absurd rfl hne
    | cons t ts => rfl
  calc common ts
    _ = ts.foldl (fun z t => t.promote z) (greatest ts) := by
        rw [hcommon, foldl_promote_greater (hw _ hm) hw (List.mem_append_left _ (hw _ hm))
          (promote_self _)]
    _ = join (ts.reverse ++ [greatest ts]) := by
        rw [join, List.foldr_append, List.foldr_reverse, List.foldr_cons, List.foldr_nil,
          promote_bool]
    _ = join (greatest ts :: ts) := by
        apply join_perm
        · simpa [or_imp, forall_and] using ⟨hw, hw _ hm⟩
        · exact List.perm_append_comm.trans (List.Perm.cons _ ts.reverse_perm)
    _ = join ts := promote_join hw hm

def Within (w : IntType) (a : ElemType) : Prop := a.promote (.int w) = .int w

namespace Within

theorem mem_wholes (h : a.Within w) : a ∈ wholes := by
  have hall : ∀ a ∈ all, ∀ b ∈ ints, a.promote b = b → a ∈ wholes := by decide
  exact hall a (mem_all a) _ (mem_ints w) h

theorem byteCount_le (h : a.Within w) : a.byteCount ≤ (int w).byteCount := by
  have hall : ∀ a ∈ all, ∀ b ∈ ints, a.promote b = b → a.byteCount ≤ b.byteCount := by
    decide
  exact hall a (mem_all a) _ (mem_ints w) h

theorem promote (ha : a.Within w) (hb : b.Within w) : (a.promote b).Within w := by
  rw [Within, promote_assoc ha.mem_wholes hb.mem_wholes (List.mem_cons_of_mem _ (mem_ints w)), hb,
    ha]

theorem join (h : ∀ t ∈ ts, t.Within w) : (join ts).Within w := by
  induction ts with
  | nil => rfl
  | cons t ts ih =>
    rw [List.forall_mem_cons] at h
    exact h.1.promote (ih h.2)

end Within

theorem within_of_join (hw : ∀ t ∈ ts, t ∈ wholes) (h : join ts = .int w) :
    ∀ t ∈ ts, t.Within w :=
  fun t ht => by
    rw [Within, ← h]
    exact promote_join hw ht

end

end ElemType

namespace Scalar

variable {d a b : ElemType} {x y : Scalar}

theorem IsElement.cast (h : x.IsElement d) : Scalar.cast d x = x := by
  cases h with
  | bool b => cases b <;> rfl
  | int t n h => rw [Scalar.cast, Scalar.toInt, IntType.wrap_of_holds _ h]
  | float32 | float64 | object => rfl

theorem isElement_cast (hd : d ≠ .object) (x : Scalar) : (Scalar.cast d x).IsElement d := by
  cases d with
  | bool => exact .bool _
  | int t => exact .int t _ (t.holds_wrap _)
  | float32 => exact .float32 _
  | float64 => exact .float64 _
  | object => exact absurd rfl hd

theorem isElement_typed (op : Operator) (hx : x.elemType = a) (hy : y.elemType = b)
    (hd : a.promote b ≠ .object) :
    (op.typed x y).IsElement (a.promote b) := by
  rw [Operator.typed, hx, hy]
  cases h : a.promote b with
  | bool => exact .bool _
  | int t => exact .int t _ (t.holds_wrap _)
  | float32 => exact .float32 _
  | float64 => exact .float64 _
  | object => exact absurd h hd

theorem IsElement.mul (hx : x.IsElement a) (hy : y.IsElement b) (hd : a.promote b ≠ .object) :
    (Scalar.mul x y).IsElement (a.promote b) := by
  obtain ⟨ha, hb⟩ := not_or.mp (mt ElemType.promote_eq_object.mpr hd)
  have hx' := hx.elemType ha
  have hy' := hy.elemType hb
  have hm : Scalar.mul x y = Operator.mul.typed x y :=
    Operator.mul.apply_fixed (hx' ▸ ha) (hy' ▸ hb)
  rw [hm]
  exact isElement_typed _ hx' hy' hd

theorem IsElement.add (hx : x.IsElement d) (hy : y.IsElement d) (hd : d ≠ .object) :
    Scalar.add x y = Operator.add.typed x y ∧ (Scalar.add x y).IsElement d := by
  have hx' := hx.elemType hd
  have hy' := hy.elemType hd
  have ha : Scalar.add x y = Operator.add.typed x y :=
    Operator.add.apply_fixed (hx' ▸ hd) (hy' ▸ hd)
  have hp := isElement_typed Operator.add hx' hy' (by rwa [ElemType.promote_self])
  rw [ElemType.promote_self] at hp
  exact ⟨ha, ha ▸ hp⟩

end Scalar

end Einsum

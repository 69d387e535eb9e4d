import Mathlib.Order.MinMax
import Einsum.Number.Binary

namespace Einsum

theorem twoPow_add (m n : Nat) : twoPow (m + n) = twoPow m * twoPow n := Nat.pow_add 2 m n

theorem twoPow_pos (n : Nat) : 0 < twoPow n := Nat.two_pow_pos n

theorem twoPow_le {m n : Nat} (h : m ≤ n) : twoPow m ≤ twoPow n :=
  Nat.pow_le_pow_right Nat.two_pos h

namespace Number

theorem div_le_roundDiv (n d : Nat) : n / d ≤ roundDiv n d ∧ roundDiv n d ≤ n / d + 1 := by
  rw [roundDiv]
  split <;> omega

theorem succ_le_roundDiv_iff {n half k : Nat} (hpos : 0 < half) (hk : k % 2 = 1) :
    k + 1 ≤ roundDiv n (2 * half) ↔ 2 * half * k + half ≤ n := by
  have hdm : 2 * half * (n / (2 * half)) + n % (2 * half) = n := Nat.div_add_mod n (2 * half)
  have hr : n % (2 * half) < 2 * half := Nat.mod_lt n (by omega)
  have hbounds := div_le_roundDiv n (2 * half)
  rcases Nat.lt_trichotomy (n / (2 * half)) k with hlt | rfl | hgt
  · have hm : 2 * half * (n / (2 * half) + 1) ≤ 2 * half * k := Nat.mul_le_mul_left _ hlt
    rw [Nat.mul_succ] at hm
    omega
  · rw [roundDiv]
    split <;> omega
  · have hm : 2 * half * (k + 1) ≤ 2 * half * (n / (2 * half)) := Nat.mul_le_mul_left _ hgt
    rw [Nat.mul_succ] at hm
    omega

section

variable {n : Nat} (hn : n ≠ 0)

include hn

theorem scaleDown_log2 {k a b : Nat} (h : scaleDown n 1 (n.log2 - k) = (a, b)) :
    twoPow k * b ≤ a ∧ a < twoPow (k + 1) * b ∧ 0 < b := by
  have hlow : twoPow n.log2 ≤ n := Nat.log2_self_le hn
  have hhigh : n < twoPow (n.log2 + 1) := Nat.lt_log2_self
  rw [scaleDown] at h
  split at h
  next hq =>
    obtain ⟨rfl, rfl⟩ := Prod.mk.inj h
    obtain ⟨j, hj⟩ := Nat.exists_eq_add_of_le (show k ≤ n.log2 by omega)
    have ht : ((n.log2 : Int) - k).toNat = j := by omega
    rw [hj] at hlow hhigh
    rw [ht, Nat.one_mul, ← twoPow_add, ← twoPow_add, Nat.add_right_comm]
    exact ⟨hlow, hhigh, twoPow_pos j⟩
  next hq =>
    obtain ⟨rfl, rfl⟩ := Prod.mk.inj h
    obtain ⟨j, hj⟩ := Nat.exists_eq_add_of_le (show n.log2 ≤ k by omega)
    have ht : (-((n.log2 : Int) - k)).toNat = j := by omega
    rw [ht, Nat.mul_one, Nat.mul_one, hj, twoPow_add, Nat.add_right_comm, twoPow_add]
    exact ⟨Nat.mul_le_mul_right _ hlow, Nat.mul_lt_mul_of_pos_right hhigh (twoPow_pos j),
      Nat.one_pos⟩

theorem le_div_of_scaleDown {k a b : Nat} (h : scaleDown n 1 (n.log2 - k) = (a, b)) :
    twoPow k ≤ a / b := by
  obtain ⟨hle, -, hpos⟩ := scaleDown_log2 hn h
  exact (Nat.le_div_iff_mul_le hpos).mpr hle

/-- The word of an integer in double precision: the significand has its 53 leading bits, rounded. -/
theorem ofInt_natCast {a b : Nat} (h : scaleDown n 1 (n.log2 - 52) = (a, b)) :
    binary64.ofInt n = min ((n.log2 + 1022) * twoPow 52 + roundDiv a b) binary64.infinity := by
  have hsign : ¬ (n : Int) < 0 := by omega
  have hexp : binary64.minExponent = -1074 := rfl
  have hprec : binary64.precision = 53 := rfl
  have hone : Nat.log2 1 = 0 := rfl
  have hlow : max (-1074 : Int) ((n.log2 : Int) - (0 : Nat) - (53 : Nat)) =
      n.log2 - (53 : Nat) := by omega
  have hsig : ¬ roundDiv a b < twoPow 52 := by
    have hle : twoPow 52 ≤ a / b := le_div_of_scaleDown hn h
    have := (div_le_roundDiv a b).1
    omega
  obtain ⟨⟨a', b'⟩, h'⟩ : ∃ r, scaleDown n 1 (n.log2 - (53 : Nat)) = r := ⟨_, rfl⟩
  have hcarry : twoPow 53 ≤ a' / b' := le_div_of_scaleDown hn h'
  have hq : (n.log2 : Int) - (53 : Nat) + 1 = n.log2 - 52 := by omega
  have hfield : ((n.log2 : Int) - 52 - -1074).toNat = n.log2 + 1022 := by omega
  rw [Format.ofInt, if_neg hsign, Nat.zero_add, Int.natAbs_natCast, Format.roundQuotient, if_neg hn]
  simp only [hexp, hprec, hone, hlow, h', hcarry, if_true, hq, h, hsig, if_false, hfield]

end

/-- An integer is too large for double precision from halfway between the greatest number and the
next power of two. -/
theorem infinity_le_ofInt {n : Nat} :
    binary64.infinity ≤ binary64.ofInt n ↔ twoPow 1024 - twoPow 970 ≤ n := by
  have hinf : binary64.infinity = 2047 * twoPow 52 := rfl
  have h₅₂ : twoPow 52 = 4503599627370496 := rfl
  have h₅₃ : twoPow 53 = 9007199254740992 := rfl
  have htop : twoPow 1024 = twoPow 54 * twoPow 970 := by rw [← twoPow_add]
  have hmid : twoPow 1023 = twoPow 53 * twoPow 970 := by rw [← twoPow_add]
  have hhalf : twoPow 971 = twoPow 1 * twoPow 970 := by rw [← twoPow_add]
  rw [show twoPow 54 = 18014398509481984 from rfl] at htop
  rw [h₅₃] at hmid
  rw [show twoPow 1 = 2 from rfl] at hhalf
  have hpos := twoPow_pos 970
  by_cases hn : n = 0
  · subst hn
    have hzero : binary64.ofInt (0 : Nat) = 0 := rfl
    omega
  · obtain ⟨⟨a, b⟩, h⟩ : ∃ r, scaleDown n 1 (n.log2 - 52) = r := ⟨_, rfl⟩
    have hlow : twoPow n.log2 ≤ n := Nat.log2_self_le hn
    have hhigh : n < twoPow (n.log2 + 1) := Nat.lt_log2_self
    obtain ⟨-, hlt, hb⟩ := scaleDown_log2 hn h
    have hdiv : a / b < twoPow 53 := (Nat.div_lt_iff_lt_mul hb).mpr hlt
    have hsig : twoPow 52 ≤ a / b := le_div_of_scaleDown hn h
    have hround := div_le_roundDiv a b
    rw [ofInt_natCast hn h, le_min_iff, and_iff_left le_rfl, hinf, h₅₂]
    rcases Nat.lt_trichotomy n.log2 1023 with hl | hl | hl
    · have hbound : twoPow (n.log2 + 1) ≤ twoPow 1023 := twoPow_le hl
      omega
    · -- Only here rounding decides: up to the next power of two, or not.
      have hshift : ((n.log2 : Int) - 52).toNat = 971 := by omega
      have hscale : scaleDown n 1 (n.log2 - 52) = (n, 2 * twoPow 970) := by
        rw [scaleDown, if_pos (by omega), hshift, Nat.one_mul, hhalf]
      have hparts := Prod.mk.inj (h.symm.trans hscale)
      have hiff := succ_le_roundDiv_iff (n := n) (k := 9007199254740991) hpos rfl
      rw [← hparts.1, ← hparts.2] at hiff
      omega
    · have hbound : twoPow 1024 ≤ twoPow n.log2 := twoPow_le hl
      omega

end Number

end Einsum

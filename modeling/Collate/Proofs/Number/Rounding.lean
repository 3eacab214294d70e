import Collate.Proofs.Number.Nearest
import Mathlib.Data.Rat.Cast.Order
import Mathlib.Tactic.NormNum.Inv
import Mathlib.Tactic.Positivity
import Mathlib.Tactic.Ring

/-!
What becomes of numbers that are too great or too small for a format. Rounding gives a finite number
below the middle between the greatest one and the power of two behind it, and zero up to half of the
least one.
-/

namespace Collate

section

variable {num den e k n : Nat}

theorem divNearest_lt_iff (hd : 0 < den) (hn : n % 2 = 0) :
    divNearest num den < n ↔ 2 * num + den < 2 * n * den := by
  have hq := Nat.div_add_mod' num den
  have hr := Nat.mod_lt num hd
  have hlt (a : Nat) : a * den < 2 * n * den ↔ a < 2 * n := Nat.mul_lt_mul_right hd
  have hle (a : Nat) : a * den ≤ 2 * n * den ↔ a ≤ 2 * n := Nat.mul_le_mul_right_iff hd
  have h1 := hlt (2 * (num / den) + 1)
  have h2 := hlt (2 * (num / den) + 2)
  have h3 := hle (2 * (num / den) + 2)
  have h4 := hle (2 * (num / den) + 3)
  simp only [Nat.add_mul, Nat.mul_assoc, Nat.one_mul] at h1 h2 h3 h4
  simp only [divNearest, Nat.mul_assoc]
  generalize num / den * den = p at *
  generalize n * den = t at *
  split
  · omega
  · split
    · omega
    · omega

theorem divNearest_pos_iff (hd : 0 < den) : 0 < divNearest num den ↔ den < 2 * num := by
  by_cases hlt : num < den
  · simp only [divNearest, Nat.div_eq_of_lt hlt, Nat.mod_eq_of_lt hlt]
    split
    · omega
    · split <;> omega
  · have h := divNearest_mono den (Nat.le_of_not_lt hlt)
    have h1 := divNearest_mul hd 1
    rw [Nat.one_mul] at h1
    omega

def toStep (e num den : Nat) : Nat :=
  divNearest num (den * 2 ^ e) * 2 ^ e

theorem toStep_lt_iff (hd : 0 < den) (he : e < n) :
    toStep e num den < 2 ^ n ↔ 2 * num + 2 ^ e * den < 2 ^ (n + 1) * den := by
  obtain ⟨k, rfl⟩ := Nat.exists_eq_add_of_lt he
  have heven : 2 ^ (k + 1) % 2 = 0 := by
    rw [pow_succ]
    exact Nat.mul_mod_left _ 2
  have hp : 2 ^ (e + k + 1) = 2 ^ (k + 1) * 2 ^ e := by
    rw [Nat.add_assoc, Nat.add_comm, pow_add]
  have hden : 0 < den * 2 ^ e := Nat.mul_pos hd (Nat.two_pow_pos e)
  have hside : 2 * 2 ^ (k + 1) * (den * 2 ^ e) = 2 ^ (e + k + 1 + 1) * den := by
    rw [pow_succ 2 (e + k + 1), hp]
    ring
  unfold toStep
  rw [hp, Nat.mul_lt_mul_right (Nat.two_pow_pos e), divNearest_lt_iff hden heven, hside,
    Nat.mul_comm den]

theorem le_toStep (hd : 0 < den) (he : e ≤ k) (h : 2 ^ k * den ≤ num) :
    2 ^ k ≤ toStep e num den := by
  obtain ⟨j, hj⟩ := Nat.pow_dvd_pow 2 he
  have hden : 0 < den * 2 ^ e := Nat.mul_pos hd (Nat.two_pow_pos e)
  have hm : j * (den * 2 ^ e) ≤ num := by
    rw [hj] at h
    calc j * (den * 2 ^ e) = 2 ^ e * j * den := by ring
      _ ≤ num := h
  have hle := divNearest_mono (den * 2 ^ e) hm
  rw [divNearest_mul hden] at hle
  rw [hj, Nat.mul_comm]
  exact Nat.mul_le_mul_right _ hle

theorem toStep_pos_iff (hd : 0 < den) : 0 < toStep e num den ↔ 2 ^ e * den < 2 * num := by
  have hden : 0 < den * 2 ^ e := Nat.mul_pos hd (Nat.two_pow_pos e)
  unfold toStep
  rw [Nat.mul_pos_iff_of_pos_right (Nat.two_pow_pos e), divNearest_pos_iff hden, Nat.mul_comm den]

end

namespace BinaryFormat

variable {f : BinaryFormat} {num den : Nat}

def gap (f : BinaryFormat) (q : Nat) : Nat :=
  max f.step (Nat.log2 q + 1 - f.bits)

theorem round_eq (f : BinaryFormat) (negative : Bool) (num den : Nat) :
    f.round negative num den = if toStep (f.gap (num / den)) num den < 2 ^ f.bound
      then .finite negative (toStep (f.gap (num / den)) num den) else .infinite negative := by
  simp only [round, toStep, gap, twoTo_eq, Nat.shiftLeft_eq]
  rfl

theorem pow_log2_mul_le (h : num / den ≠ 0) : 2 ^ Nat.log2 (num / den) * den ≤ num :=
  Nat.le_trans (Nat.mul_le_mul_right den (Nat.log2_self_le h)) (Nat.div_mul_le_self num den)

theorem isFinite_round (hf : f.step + f.bits ≤ f.bound) (hb : 0 < f.bits) (hd : 0 < den)
    (negative : Bool) : (f.round negative num den).isFinite ↔
      2 * num + 2 ^ (f.bound - f.bits) * den < 2 ^ (f.bound + 1) * den := by
  have hfin : (f.round negative num den).isFinite ↔
      toStep (f.gap (num / den)) num den < 2 ^ f.bound := by
    rw [round_eq]
    split <;> simp [Binary64.isFinite, *]
  rw [hfin]
  by_cases hq : num / den < 2 ^ f.bound
  · have hlog : Nat.log2 (num / den) + 1 ≤ f.bound := by
      by_cases hz : num / den = 0
      · rw [hz, Nat.log2_zero]
        omega
      · exact (Nat.log2_lt hz).mpr hq
    have hgap : f.gap (num / den) ≤ f.bound - f.bits := by
      unfold gap
      omega
    rw [toStep_lt_iff hd (by omega)]
    rcases Nat.lt_or_eq_of_le hgap with hlt | he
    · -- Below half of the bound neither side is at its limit.
      have hsmall : num / den < 2 ^ (f.bound - 1) := by
        apply Nat.lt_of_lt_of_le Nat.lt_log2_self
        apply Nat.pow_le_pow_right (by decide)
        unfold gap at hlt
        omega
      have hnum : num < 2 ^ (f.bound - 1) * den := (Nat.div_lt_iff_lt_mul hd).mp hsmall
      have hstep (e : Nat) (he : e ≤ f.bound - f.bits) : 2 ^ e * den ≤ 2 ^ (f.bound - 1) * den :=
        Nat.mul_le_mul_right den (Nat.pow_le_pow_right (by decide) (by omega))
      have hfour : 2 ^ (f.bound + 1) * den = 4 * (2 ^ (f.bound - 1) * den) := by
        have he : f.bound + 1 = f.bound - 1 + 2 := by omega
        rw [he, pow_add]
        ring
      have h1 := hstep _ hgap
      have h2 := hstep _ (Nat.le_refl _)
      omega
    · rw [he]
  · have hle : 2 ^ f.bound ≤ num / den := Nat.le_of_not_lt hq
    have hz : num / den ≠ 0 := by
      have := Nat.two_pow_pos f.bound
      omega
    have hlog : f.bound ≤ Nat.log2 (num / den) := (Nat.le_log2 hz).mpr hle
    have hs : 2 ^ Nat.log2 (num / den) ≤ toStep (f.gap (num / den)) num den := by
      apply le_toStep hd _ (pow_log2_mul_le hz)
      unfold gap
      omega
    have hp : 2 ^ f.bound ≤ 2 ^ Nat.log2 (num / den) := Nat.pow_le_pow_right (by decide) hlog
    have hnum : 2 ^ f.bound * den ≤ num := (Nat.le_div_iff_mul_le hd).mp hle
    rw [pow_succ, Nat.mul_right_comm]
    omega

theorem isNegative_round (hd : 0 < den) (hb : 0 < f.bits) (negative : Bool) :
    (f.round negative num den).isNegative = (negative && decide (2 ^ f.step * den < 2 * num)) := by
  have hpos : 0 < toStep (f.gap (num / den)) num den ↔ 2 ^ f.step * den < 2 * num := by
    by_cases hg : f.gap (num / den) = f.step
    · rw [toStep_pos_iff hd, hg]
    · have hl : f.step < Nat.log2 (num / den) + 1 - f.bits ∧
          f.gap (num / den) ≤ Nat.log2 (num / den) := by
        unfold gap at hg ⊢
        omega
      have hz : num / den ≠ 0 := by
        intro hz
        rw [hz, Nat.log2_zero] at hl
        omega
      have hnum := pow_log2_mul_le hz
      have hs := le_toStep hd hl.2 hnum
      have h2 := Nat.two_pow_pos (Nat.log2 (num / den))
      have hstep : 2 ^ f.step * den ≤ 2 ^ Nat.log2 (num / den) * den :=
        Nat.mul_le_mul_right den (Nat.pow_le_pow_right (by decide) (by omega))
      have hnum0 : 0 < num := Nat.lt_of_lt_of_le (Nat.mul_pos h2 hd) hnum
      constructor <;> intro <;> omega
  rw [round_eq]
  split
  next h =>
    rw [Bool.eq_iff_iff]
    simp only [Binary64.isNegative, Bool.and_eq_true, bne_iff_ne, decide_eq_true_iff, ← hpos,
      Nat.pos_iff_ne_zero, ne_eq]
  next h =>
    have h0 : 0 < toStep (f.gap (num / den)) num den := by
      have := Nat.two_pow_pos f.bound
      omega
    simp only [Binary64.isNegative, hpos.mp h0, decide_true, Bool.and_true]

end BinaryFormat

namespace Binary64

/-- From here on a number is not rounded to a finite one: the middle between the greatest of them
and the next power of two. -/
def overflow : ℚ := 2 ^ 1024 - 2 ^ 970

def underflow : ℚ := 1 / 2 ^ 1075

variable {num den c : Nat} {e : Int} {q : ℚ}

theorem isFinite_round (hd : 0 < den) (hq : (num : ℚ) = q * 2 ^ unitBits * den) (negative : Bool) :
    (round negative num den).isFinite ↔ q < overflow := by
  have hgap : BinaryFormat.double.bound - BinaryFormat.double.bits = 970 + (unitBits + 1) := rfl
  have hbound : BinaryFormat.double.bound + 1 = 1024 + (unitBits + 1) := rfl
  have hpos : (0 : ℚ) < 2 ^ (unitBits + 1) * den := by
    have hden : (0 : ℚ) < den := Nat.cast_pos.mpr hd
    positivity
  have hnum : ((2 * num : Nat) : ℚ) = q * (2 ^ (unitBits + 1) * den) := by
    rw [Nat.cast_mul, hq, pow_succ]
    push_cast
    ring
  have hpow (k : Nat) : ((2 ^ (k + (unitBits + 1)) * den : Nat) : ℚ) =
      2 ^ k * (2 ^ (unitBits + 1) * den) := by
    rw [pow_add, Nat.mul_assoc]
    simp only [Nat.cast_mul, Nat.cast_pow, Nat.cast_ofNat]
  rw [round, BinaryFormat.isFinite_round (by decide) (by decide) hd, hgap, hbound,
    ← Nat.cast_lt (α := ℚ), Nat.cast_add, hnum, hpow, hpow, ← add_mul, mul_lt_mul_iff_left₀ hpos,
    overflow, lt_sub_iff_add_lt]

theorem isNegative_round (hd : 0 < den) (hq : (num : ℚ) = q * 2 ^ unitBits * den) (negative : Bool) :
    (round negative num den).isNegative = (negative && decide (underflow < q)) := by
  have hpos : (0 : ℚ) < den := Nat.cast_pos.mpr hd
  have hlt : 2 ^ BinaryFormat.double.step * den < 2 * num ↔ underflow < q := by
    have hnum : ((2 * num : Nat) : ℚ) = q * 2 ^ (unitBits + 1) * den := by
      rw [Nat.cast_mul, hq, pow_succ]
      push_cast
      ring
    have hunit : underflow = 1 / 2 ^ (unitBits + 1) := rfl
    have hone : 2 ^ BinaryFormat.double.step * den = den := Nat.one_mul den
    rw [hone, hunit, ← Nat.cast_lt (α := ℚ), hnum, div_lt_iff₀ (by positivity),
      lt_mul_iff_one_lt_left hpos]
  rw [round, BinaryFormat.isNegative_round hd (by decide)]
  simp only [hlt]

theorem underflow_lt_overflow : underflow < overflow := by
  have hp : (2 : ℚ) ^ 970 + 1 < 2 ^ 1024 := by
    exact_mod_cast show 2 ^ 970 + 1 < 2 ^ 1024 by decide +kernel
  have hu : underflow ≤ 1 := (div_le_one (by positivity)).mpr (one_le_pow₀ (by decide))
  have ho : 1 < overflow := lt_sub_iff_add_lt'.mpr hp
  exact lt_of_le_of_lt hu ho

theorem digits_bounds (hc : c ≠ 0) : (10 : ℚ) ^ (((Nat.toDigits 10 c).length : Int) - 1) ≤ c ∧
    (c : ℚ) < 10 ^ ((Nat.toDigits 10 c).length : Int) := by
  have hpos : 0 < (Nat.toDigits 10 c).length := List.length_pos_iff.mpr Nat.toDigits_ne_nil
  have hlt := (Nat.length_toDigits_le_iff (by decide) hpos).mp (Nat.le_refl _)
  obtain ⟨k, hk⟩ : ∃ k, (Nat.toDigits 10 c).length = k + 1 :=
    ⟨_, (Nat.succ_pred_eq_of_pos hpos).symm⟩
  have hle : 10 ^ k ≤ c := by
    rcases Nat.eq_zero_or_pos k with rfl | h0
    · exact Nat.pos_of_ne_zero hc
    · by_contra hn
      have := (Nat.length_toDigits_le_iff (by decide) h0).mpr (Nat.lt_of_not_le hn)
      omega
  rw [hk] at hlt ⊢
  have hs : ((k + 1 : Nat) : Int) - 1 = (k : Nat) := by omega
  rw [hs, zpow_natCast, zpow_natCast]
  exact ⟨by exact_mod_cast hle, by exact_mod_cast hlt⟩

theorem ofDecimal_cases (negative : Bool) (c : Nat) (e : Int) :
    (ofDecimal negative c e = .infinite negative ∧ overflow ≤ c * (10 : ℚ) ^ e) ∨
      (ofDecimal negative c e = .finite negative 0 ∧ c * (10 : ℚ) ^ e ≤ underflow) ∨
      ∃ num den : Nat, ofDecimal negative c e = round negative num den ∧ 0 < den ∧
        (num : ℚ) = c * (10 : ℚ) ^ e * 2 ^ unitBits * den := by
  have h10 : (10 : ℚ) ≠ 0 := by decide
  have hpos : (0 : ℚ) < 10 ^ e := zpow_pos (by decide) e
  unfold ofDecimal
  by_cases hc : c = 0
  · refine .inr (.inl ⟨if_pos hc, ?_⟩)
    rw [hc, Nat.cast_zero, zero_mul]
    exact div_nonneg (by decide) (by positivity)
  · obtain ⟨hle, hlt⟩ := digits_bounds hc
    simp only [if_neg hc]
    generalize ((Nat.toDigits 10 c).length : Int) = n at *
    split
    next hbig =>
      refine .inl ⟨rfl, ?_⟩
      calc overflow ≤ 2 ^ 1024 := sub_le_self _ (pow_nonneg zero_le_two 970)
        _ ≤ (10 : ℚ) ^ (310 : Int) := by
          exact_mod_cast show 2 ^ 1024 ≤ 10 ^ 310 by decide +kernel
        _ ≤ 10 ^ (n - 1 + e) := zpow_le_zpow_right₀ (by decide) (by omega)
        _ = 10 ^ (n - 1) * 10 ^ e := zpow_add₀ h10 _ _
        _ ≤ c * 10 ^ e := mul_le_mul_of_nonneg_right hle hpos.le
    next =>
      split
      next hsmall =>
        refine .inr (.inl ⟨rfl, le_of_lt ?_⟩)
        have hp : (2 : ℚ) ^ 1075 ≤ 10 ^ 331 := by
          exact_mod_cast show 2 ^ 1075 ≤ 10 ^ 331 by decide +kernel
        calc (c : ℚ) * 10 ^ e < 10 ^ n * 10 ^ e := mul_lt_mul_of_pos_right hlt hpos
          _ = 10 ^ (n + e) := (zpow_add₀ h10 _ _).symm
          _ ≤ 10 ^ (-331 : Int) := zpow_le_zpow_right₀ (by decide) (by omega)
          _ = 1 / 10 ^ 331 := by rw [zpow_neg, one_div]; rfl
          _ ≤ underflow := one_div_le_one_div_of_le (by positivity) hp
      next =>
        right
        right
        split
        next he =>
          obtain ⟨k, rfl⟩ := Int.eq_ofNat_of_zero_le he
          refine ⟨_, _, rfl, Nat.one_pos, ?_⟩
          rw [Nat.shiftLeft_eq, Int.toNat_natCast, zpow_natCast, Nat.cast_one, mul_one]
          simp only [tenTo, Nat.cast_mul, Nat.pow_eq, Nat.cast_pow, Nat.cast_ofNat]
        next he =>
          obtain ⟨k, hk⟩ := Int.eq_ofNat_of_zero_le (show 0 ≤ -e by omega)
          have hen : e = -(k : Int) := by omega
          have hten : (10 : ℚ) ^ k ≠ 0 := pow_ne_zero _ h10
          refine ⟨_, _, rfl, Nat.pow_pos (by decide), ?_⟩
          rw [Nat.shiftLeft_eq, hen, Int.neg_neg, Int.toNat_natCast, zpow_neg, zpow_natCast]
          simp only [tenTo, Nat.cast_mul, Nat.pow_eq, Nat.cast_pow, Nat.cast_ofNat]
          rw [mul_right_comm, inv_mul_cancel_right₀ hten]

theorem isFinite_ofDecimal (negative : Bool) (c : Nat) (e : Int) :
    (ofDecimal negative c e).isFinite ↔ c * (10 : ℚ) ^ e < overflow := by
  rcases ofDecimal_cases negative c e with ⟨h, hq⟩ | ⟨h, hq⟩ | ⟨num, den, h, hd, hq⟩
  · rw [h]
    exact ⟨nofun, fun hlt => absurd hlt hq.not_gt⟩
  · rw [h]
    exact ⟨fun _ => lt_of_le_of_lt hq underflow_lt_overflow, fun _ => rfl⟩
  · rw [h, isFinite_round hd hq]

theorem isNegative_ofDecimal (negative : Bool) (c : Nat) (e : Int) :
    (ofDecimal negative c e).isNegative = (negative && decide (underflow < c * (10 : ℚ) ^ e)) := by
  rcases ofDecimal_cases negative c e with ⟨h, hq⟩ | ⟨h, hq⟩ | ⟨num, den, h, hd, hq⟩
  · have hlt := lt_of_lt_of_le underflow_lt_overflow hq
    rw [h, decide_eq_true hlt, Bool.and_true]
    rfl
  · rw [h, decide_eq_false hq.not_gt, Bool.and_false]
    exact Bool.and_false negative
  · rw [h, isNegative_round hd hq]

end Binary64
end Collate

import Collate.Number.Decimal
import Collate.Proofs.Value.Order
import Mathlib.Algebra.Group.Int.Defs
import Mathlib.Algebra.Group.Nat.Defs

namespace Collate

theorem twoTo_eq (n : Nat) : twoTo n = 2 ^ n :=
  Nat.one_shiftLeft n

theorem divNearest_cases (num den : Nat) :
    (divNearest num den = num / den ∧ 2 * (num % den) ≤ den) ∨
      (divNearest num den = num / den + 1 ∧ den ≤ 2 * (num % den)) := by
  simp only [divNearest]
  split
  · left
    omega
  · split
    · right
      omega
    · have hq := Nat.mod_two_eq_zero_or_one (num / den)
      rcases hq with hq | hq
      · left
        omega
      · right
        omega

theorem divNearest_mul {d : Nat} (hd : 0 < d) (k : Nat) : divNearest (k * d) d = k := by
  simp only [divNearest, Nat.mul_div_cancel k hd, Nat.mul_mod_left]
  exact if_pos hd

theorem divNearest_mono {m n : Nat} (d : Nat) (h : m ≤ n) : divNearest m d ≤ divNearest n d := by
  have hq : m / d ≤ n / d := Nat.div_le_div_right h
  rcases Nat.lt_or_eq_of_le hq with hq | hq
  · have hm := divNearest_cases m d
    have hn := divNearest_cases n d
    omega
  · have hm := Nat.div_add_mod m d
    have hn := Nat.div_add_mod n d
    rw [hq] at hm
    have hr : m % d ≤ n % d := by omega
    simp only [divNearest, hq]
    split <;> split <;> (try split) <;> (try split) <;> omega

namespace Binary64

open Decimal (gapBits)

def nearestUnits (m : Nat) : Nat :=
  divNearest m (2 ^ gapBits m) * 2 ^ gapBits m

theorem nearestUnits_of_dvd {m : Nat} (h : 2 ^ gapBits m ∣ m) : nearestUnits m = m := by
  obtain ⟨k, hk⟩ := h
  rw [Nat.mul_comm] at hk
  unfold nearestUnits
  generalize gapBits m = e at *
  rw [hk, divNearest_mul (Nat.two_pow_pos e)]

theorem nearestUnits_two_pow (n : Nat) : nearestUnits (2 ^ n) = 2 ^ n := by
  apply nearestUnits_of_dvd
  unfold gapBits
  rw [Nat.log2_two_pow]
  exact Nat.pow_dvd_pow 2 (Nat.sub_le n 52)

theorem nearestUnits_near (m : Nat) :
    2 * m ≤ 2 * nearestUnits m + 2 ^ gapBits m ∧ 2 * nearestUnits m ≤ 2 * m + 2 ^ gapBits m := by
  unfold nearestUnits
  have hpos := Nat.two_pow_pos (gapBits m)
  generalize 2 ^ gapBits m = d at *
  have hd := Nat.div_add_mod' m d
  have hlt := Nat.mod_lt m hpos
  rcases divNearest_cases m d with ⟨hq, hr⟩ | ⟨hq, hr⟩
  · rw [hq]
    omega
  · rw [hq, Nat.add_one_mul (m / d) d]
    omega

theorem nearestUnits_le {m k : Nat} (hk : gapBits m ≤ k) (h : m ≤ 2 ^ k) :
    nearestUnits m ≤ 2 ^ k := by
  obtain ⟨j, hj⟩ := Nat.pow_dvd_pow 2 hk
  rw [hj, Nat.mul_comm] at h ⊢
  have hd := divNearest_mono (2 ^ gapBits m) h
  rw [divNearest_mul (Nat.two_pow_pos _)] at hd
  exact Nat.mul_le_mul_right _ hd

theorem le_nearestUnits {m k : Nat} (hk : gapBits m ≤ k) (h : 2 ^ k ≤ m) :
    2 ^ k ≤ nearestUnits m := by
  obtain ⟨j, hj⟩ := Nat.pow_dvd_pow 2 hk
  rw [hj, Nat.mul_comm] at h ⊢
  have hd := divNearest_mono (2 ^ gapBits m) h
  rw [divNearest_mul (Nat.two_pow_pos _)] at hd
  exact Nat.mul_le_mul_right _ hd

theorem nearestUnits_mono {m n : Nat} (h : m ≤ n) : nearestUnits m ≤ nearestUnits n := by
  rcases Nat.lt_trichotomy m.log2 n.log2 with hl | hl | hl
  · have hn : n ≠ 0 := by
      rintro rfl
      simp at hl
    have hm : nearestUnits m ≤ 2 ^ (m.log2 + 1) :=
      nearestUnits_le (by unfold gapBits; omega) (Nat.le_of_lt Nat.lt_log2_self)
    have hn : 2 ^ n.log2 ≤ nearestUnits n :=
      le_nearestUnits (Nat.sub_le _ _) (Nat.log2_self_le hn)
    have hp : 2 ^ (m.log2 + 1) ≤ 2 ^ n.log2 := Nat.pow_le_pow_right (by decide) hl
    omega
  · unfold nearestUnits gapBits
    rw [hl]
    exact Nat.mul_le_mul_right _ (divNearest_mono _ h)
  · have hm : m ≠ 0 := by
      rintro rfl
      simp at hl
    have hp := Nat.le_trans (Nat.log2_self_le hm) h
    have hn : n ≠ 0 := Nat.ne_of_gt (Nat.lt_of_lt_of_le (Nat.two_pow_pos _) hp)
    have := (Nat.le_log2 hn).mpr hp
    omega

theorem gapBits_le {n k : Nat} (h : n < 2 ^ (k + 53)) : gapBits n ≤ k := by
  unfold gapBits
  by_cases hn : n = 0
  · simp [hn]
  · have := (Nat.log2_lt hn).mpr h
    omega

theorem nearestUnits_small {n : Nat} (h : n ≤ 2 ^ 53) :
    nearestUnits (n * 2 ^ unitBits) = n * 2 ^ unitBits := by
  rcases Nat.lt_or_eq_of_le h with h | rfl
  · apply nearestUnits_of_dvd
    apply Nat.dvd_mul_left_of_dvd
    apply Nat.pow_dvd_pow
    apply gapBits_le
    rw [pow_add, Nat.mul_comm]
    exact Nat.mul_lt_mul_of_pos_left h (Nat.two_pow_pos unitBits)
  · rw [← pow_add, nearestUnits_two_pow]

theorem nearestUnits_large {n : Nat} (h : n < 2 ^ 64) :
    n * 2 ^ unitBits ≤ nearestUnits (n * 2 ^ unitBits) + 1024 * 2 ^ unitBits ∧
      nearestUnits (n * 2 ^ unitBits) ≤ n * 2 ^ unitBits + 1024 * 2 ^ unitBits := by
  have hn := nearestUnits_near (n * 2 ^ unitBits)
  have hg : gapBits (n * 2 ^ unitBits) ≤ unitBits + 11 := by
    apply gapBits_le
    rw [Nat.add_assoc, pow_add, Nat.mul_comm]
    exact Nat.mul_lt_mul_of_pos_left h (Nat.two_pow_pos unitBits)
  have hp : 2 ^ gapBits (n * 2 ^ unitBits) ≤ 2 ^ (unitBits + 11) :=
    Nat.pow_le_pow_right (by decide) hg
  rw [pow_add] at hp
  omega

theorem ofInt_eq {n : Int} (h : n.natAbs ≤ 2 ^ 64) :
    ofInt n = .finite (n < 0) (nearestUnits (n.natAbs * 2 ^ unitBits)) := by
  have hm : n.natAbs * 2 ^ unitBits ≤ 2 ^ (64 + unitBits) := by
    rw [pow_add]
    exact Nat.mul_le_mul_right _ h
  have hb := nearestUnits_mono hm
  rw [nearestUnits_two_pow] at hb
  have hf : nearestUnits (n.natAbs * 2 ^ unitBits) < twoTo BinaryFormat.double.bound := by
    rw [twoTo_eq]
    exact Nat.lt_of_le_of_lt hb (Nat.pow_lt_pow_right (by decide) (by decide))
  have hr : divNearest (n.natAbs <<< unitBits) (1 <<< gapBits (n.natAbs <<< unitBits)) <<<
      gapBits (n.natAbs <<< unitBits) = nearestUnits (n.natAbs * 2 ^ unitBits) := by
    simp only [nearestUnits, Nat.shiftLeft_eq, Nat.one_mul]
  have he : max BinaryFormat.double.step (Nat.log2 (n.natAbs <<< unitBits / 1) + 1 -
      BinaryFormat.double.bits) = gapBits (n.natAbs <<< unitBits) := by
    simp only [Nat.div_one, BinaryFormat.double, gapBits]
    omega
  unfold ofInt round BinaryFormat.round
  simp only [he, hr, if_pos hf]

theorem ofInt_small {n : Int} (h : n.natAbs ≤ 2 ^ 53) :
    ofInt n = .finite (n < 0) (n.natAbs * 2 ^ unitBits) := by
  rw [ofInt_eq (by omega), nearestUnits_small h]

theorem signedUnits_ofInt {n : Int} (h : n.natAbs ≤ 2 ^ 64) :
    (ofInt n).signedUnits = signed (n < 0) (nearestUnits (n.natAbs * 2 ^ unitBits)) := by
  rw [ofInt_eq h]
  rfl

theorem compare_ofInt {a b : Int} (ha : a.natAbs ≤ 2 ^ 64) (hb : b.natAbs ≤ 2 ^ 64) :
    compare (ofInt a) (ofInt b) = compare (ofInt a).signedUnits (ofInt b).signedUnits := by
  rw [ofInt_eq ha, ofInt_eq hb]
  rfl

theorem signedUnits_mono {a b : Int} (ha : a.natAbs ≤ 2 ^ 64) (hb : b.natAbs ≤ 2 ^ 64)
    (h : a ≤ b) : (ofInt a).signedUnits ≤ (ofInt b).signedUnits := by
  rw [signedUnits_ofInt ha, signedUnits_ofInt hb]
  unfold signed
  by_cases hn : a < 0
  · by_cases hm : b < 0
    · have hu := nearestUnits_mono (Nat.mul_le_mul_right (2 ^ unitBits)
        (show b.natAbs ≤ a.natAbs by omega))
      simp only [hn, hm, decide_true, if_true]
      omega
    · simp only [hn, hm, decide_true, decide_false, if_true, Bool.false_eq_true, if_false]
      omega
  · have hm : ¬ b < 0 := by omega
    have hu := nearestUnits_mono (Nat.mul_le_mul_right (2 ^ unitBits)
      (show a.natAbs ≤ b.natAbs by omega))
    simp only [hn, hm, decide_false, Bool.false_eq_true, if_false]
    omega

theorem signed_natAbs (n : Int) (u : Nat) : signed (n < 0) (n.natAbs * u) = n * u := by
  unfold signed
  by_cases hn : n < 0
  · have hm : (n.natAbs : Int) = -n := by omega
    simp only [hn, decide_true, if_true, Int.natCast_mul, hm, Int.neg_mul, Int.neg_neg]
  · have hm : (n.natAbs : Int) = n := by omega
    simp only [hn, decide_false, Bool.false_eq_true, if_false, Int.natCast_mul, hm]

theorem signedUnits_small {n : Int} (h : n.natAbs ≤ 2 ^ 53) :
    (ofInt n).signedUnits = n * (2 ^ unitBits : Nat) := by
  rw [signedUnits_ofInt (by omega), nearestUnits_small h, signed_natAbs]

theorem eq_of_compare_ofInt {a b : Int} (ha : a.natAbs ≤ 2 ^ 53) (hb : b.natAbs ≤ 2 ^ 53)
    (h : compare (ofInt a) (ofInt b) = .eq) : a = b := by
  rw [compare_ofInt (by omega) (by omega), Std.compare_eq_iff_eq, signedUnits_small ha,
    signedUnits_small hb] at h
  have hpos : (0 : Int) < (2 ^ unitBits : Nat) := Int.natCast_pos.mpr (Nat.two_pow_pos unitBits)
  exact Int.eq_of_mul_eq_mul_right (Int.ne_of_gt hpos) h

theorem signedUnits_large {n : Int} (h : n.natAbs < 2 ^ 64) :
    n * (2 ^ unitBits : Nat) ≤ (ofInt n).signedUnits + 1024 * (2 ^ unitBits : Nat) ∧
      (ofInt n).signedUnits ≤ n * (2 ^ unitBits : Nat) + 1024 * (2 ^ unitBits : Nat) := by
  have hu := nearestUnits_large h
  rw [signedUnits_ofInt (by omega), ← signed_natAbs]
  unfold signed
  split <;> omega

theorem nearestUnits_pos {n : Nat} (h : 0 < n) : 0 < nearestUnits (n * 2 ^ unitBits) := by
  have hu := nearestUnits_mono (Nat.mul_le_mul_right (2 ^ unitBits) (show 1 ≤ n from h))
  rw [nearestUnits_small (by decide), Nat.one_mul] at hu
  have hp : 0 < 2 ^ unitBits := Nat.two_pow_pos unitBits
  exact Nat.lt_of_lt_of_le hp hu

theorem isNegative_ofInt {n : Int} (h : n.natAbs ≤ 2 ^ 64) : (ofInt n).isNegative = (n < 0 : Bool) := by
  rw [ofInt_eq h]
  by_cases hn : n < 0
  · have hu := nearestUnits_pos (Int.natAbs_pos.mpr (Int.ne_of_lt hn))
    have hne : nearestUnits (n.natAbs * 2 ^ unitBits) ≠ 0 := Nat.ne_of_gt hu
    simp only [isNegative, hn, decide_true, Bool.true_and, bne_iff_ne]
    exact hne
  · simp only [isNegative, hn, decide_false, Bool.false_and]

theorem signed_inj {s t : Bool} {u v : Nat} (hs : s = true → 0 < u) (ht : t = true → 0 < v)
    (h : signed s u = signed t v) : s = t ∧ u = v := by
  unfold signed at h
  cases s <;> cases t <;> simp at hs ht h ⊢ <;> omega

theorem ofInt_inj_iff {a b : Int} (ha : a.natAbs ≤ 2 ^ 64) (hb : b.natAbs ≤ 2 ^ 64) :
    compare (ofInt a) (ofInt b) = .eq ↔ ofInt a = ofInt b := by
  constructor
  · intro h
    rw [compare_ofInt ha hb, Std.compare_eq_iff_eq, signedUnits_ofInt ha, signedUnits_ofInt hb] at h
    have hp (n : Int) (hn : decide (n < 0) = true) : 0 < nearestUnits (n.natAbs * 2 ^ unitBits) :=
      nearestUnits_pos (Int.natAbs_pos.mpr (Int.ne_of_lt (of_decide_eq_true hn)))
    obtain ⟨hs, hu⟩ := signed_inj (hp a) (hp b) h
    rw [ofInt_eq ha, ofInt_eq hb, hs, hu]
  · intro h
    rw [h]
    exact Std.ReflCmp.compare_self

theorem far_of_ofInt_eq {a b : Int} (ha : a.natAbs < 2 ^ 64) (hb : b.natAbs < 2 ^ 64) (hab : a < b)
    (h : ofInt a = ofInt b) : 2 ^ 53 ≤ a.natAbs ∧ 2 ^ 53 ≤ b.natAbs ∧ b - a ≤ 2048 := by
  have hpos : (0 : Int) < (2 ^ unitBits : Nat) := Int.natCast_pos.mpr (Nat.two_pow_pos unitBits)
  -- A small integer has a neighbour between the two, from which rounding tells it.
  refine ⟨?_, ?_, ?_⟩
  · apply Nat.le_of_not_lt
    intro hs
    have hm := signedUnits_mono (a := a + 1) (b := b) (by omega) (by omega) hab
    rw [← h, signedUnits_small (n := a + 1) (by omega), signedUnits_small (by omega)] at hm
    have := Int.le_of_mul_le_mul_right hm hpos
    omega
  · apply Nat.le_of_not_lt
    intro hs
    have hm := signedUnits_mono (a := a) (b := b - 1) (by omega) (by omega) (by omega)
    rw [h, signedUnits_small (n := b - 1) (by omega), signedUnits_small (by omega)] at hm
    have := Int.le_of_mul_le_mul_right hm hpos
    omega
  · have hu := signedUnits_large ha
    have hv := signedUnits_large hb
    rw [h] at hu
    have hd : (b - a) * (2 ^ unitBits : Nat) ≤ 2048 * (2 ^ unitBits : Nat) := by
      rw [Int.sub_mul]
      omega
    exact Int.le_of_mul_le_mul_right hd hpos

end Binary64
end Collate

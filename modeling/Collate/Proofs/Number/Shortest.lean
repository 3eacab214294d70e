import Collate.Number.Style
import Collate.Proofs.Number.Nearest

namespace Collate

open Binary64 (unitBits)

namespace Decimal

variable {m j c : Nat} {tie : Tie}

theorem tenTo_eq (n : Nat) : tenTo n = 10 ^ n := rfl

theorem gapBits_small (hm : m < 2 ^ 53) : gapBits (m * 2 ^ unitBits) ≤ unitBits := by
  apply Binary64.gapBits_le
  rw [pow_add, Nat.mul_comm]
  exact Nat.mul_lt_mul_of_pos_left hm (Nat.two_pow_pos unitBits)

theorem lowerEnd_le (u : Nat) : 4 * u ≤ lowerEnd u + twoTo (gapBits u + 1) := by
  have hle : twoTo (gapBits u) ≤ twoTo (gapBits u + 1) := by
    rw [twoTo_eq, twoTo_eq]
    exact Nat.pow_le_pow_right (by decide) (Nat.le_succ _)
  simp only [lowerEnd]
  split <;> omega

theorem lowerEnd_two_pow {n : Nat} (hn : 0 < gapBits (2 ^ n)) :
    lowerEnd (2 ^ n) = 4 * 2 ^ n - twoTo (gapBits (2 ^ n)) := by
  have hu : 2 ^ n = twoTo (Nat.log2 (2 ^ n)) := by rw [Nat.log2_two_pow, twoTo_eq]
  simp only [lowerEnd, if_pos (And.intro hn hu)]

/-- The reals that round to an integer are at most half a step away. Above `2 ^ 53`, where the steps
get wider, the end of the interval is a whole one away. -/
theorem ends_integer (hm : m ≤ 2 ^ 53) :
    4 * (m * 2 ^ unitBits) ≤ lowerEnd (m * 2 ^ unitBits) + 2 * 2 ^ unitBits ∧
      (upperEnd (m * 2 ^ unitBits) ≤ 4 * (m * 2 ^ unitBits) + 2 * 2 ^ unitBits ∨
        m = 2 ^ 53 ∧ upperEnd (m * 2 ^ unitBits) = 4 * (m * 2 ^ unitBits) + 4 * 2 ^ unitBits) := by
  rcases Nat.lt_or_eq_of_le hm with hm | rfl
  · have hg : twoTo (gapBits (m * 2 ^ unitBits) + 1) ≤ 2 * 2 ^ unitBits := by
      rw [twoTo_eq, pow_succ, Nat.mul_comm]
      exact Nat.mul_le_mul_left 2 (Nat.pow_le_pow_right (by decide) (gapBits_small hm))
    have hl := lowerEnd_le (m * 2 ^ unitBits)
    refine ⟨by omega, .inl ?_⟩
    unfold upperEnd
    omega
  · have hg : gapBits (2 ^ (53 + unitBits)) = unitBits + 1 := by
      unfold gapBits
      rw [Nat.log2_two_pow]
      omega
    have hl : lowerEnd (2 ^ (53 + unitBits)) = 4 * 2 ^ (53 + unitBits) - 2 * 2 ^ unitBits := by
      rw [lowerEnd_two_pow (hg ▸ Nat.succ_pos _), hg, twoTo_eq, pow_succ, Nat.mul_comm _ 2]
    have hu : upperEnd (2 ^ (53 + unitBits)) = 4 * 2 ^ (53 + unitBits) + 4 * 2 ^ unitBits := by
      rw [upperEnd, hg, twoTo_eq, pow_succ, pow_succ, Nat.mul_assoc, Nat.mul_comm _ (2 * 2)]
    rw [← pow_add]
    refine ⟨?_, .inr ⟨rfl, hu⟩⟩
    generalize 2 ^ (53 + unitBits) = u at *
    omega

theorem eq_of_readsBack (hm : m ≤ 2 ^ 53)
    (h : readsBack (m * 2 ^ unitBits) (j * 2 ^ unitBits) 1 = true) :
    j = m ∨ m = 2 ^ 53 ∧ j = m + 1 := by
  have hends : lowerEnd (m * 2 ^ unitBits) ≤ 4 * (j * 2 ^ unitBits) ∧
      4 * (j * 2 ^ unitBits) ≤ upperEnd (m * 2 ^ unitBits) := by
    unfold readsBack at h
    split at h
    all_goals
      simp only [Nat.mul_one, decide_eq_true_eq] at h
      omega
  obtain ⟨hl, hu⟩ := ends_integer hm
  have hpos := Nat.two_pow_pos unitBits
  clear h
  generalize 2 ^ unitBits = d at *
  -- Multiples of `d` that are apart are so by a whole `d`.
  have apart {i k : Nat} (h : i < k) : i * d + d ≤ k * d := by
    rw [← Nat.succ_mul]
    exact Nat.mul_le_mul_right d h
  have hlow : m ≤ j := by
    apply Nat.le_of_not_lt
    intro hj
    have := apart hj
    omega
  rcases hu with hu | ⟨he, hu⟩
  · left
    apply Nat.le_antisymm _ hlow
    apply Nat.le_of_not_lt
    intro hj
    have := apart hj
    omega
  · have hhigh : j ≤ m + 1 := by
      apply Nat.le_of_not_lt
      intro hj
      have h1 := apart hj
      have h2 := apart (Nat.lt_add_one m)
      omega
    omega

theorem readsBack_self {u : Nat} (hu : 0 < u) : readsBack u u 1 = true := by
  have hl : lowerEnd u < 4 * u := by
    have hpos (n : Nat) : 0 < twoTo n := twoTo_eq n ▸ Nat.two_pow_pos n
    have he := hpos (gapBits u)
    have he' := hpos (gapBits u + 1)
    simp only [lowerEnd]
    split <;> omega
  have hu : 4 * u < upperEnd u := by
    have he : 0 < twoTo (gapBits u + 1) := twoTo_eq _ ▸ Nat.two_pow_pos _
    unfold upperEnd
    omega
  unfold readsBack
  simp only [Nat.mul_one]
  split <;> simp only [decide_eq_true_eq] <;> omega

theorem onGrid_eq_some {u num den : Nat} {k : Int} (hk : gridUnit k = (num, den))
    (h : onGrid tie u k = some c) :
    c = u * den / num ∧ readsBack u (c * num) den = true ∨
      c = u * den / num + 1 ∧ readsBack u (c * num) den = true ∧
        (readsBack u (u * den / num * num) den = true →
          (2 * (u * den / num) + 1) * num ≤ 2 * u * den) := by
  unfold onGrid at h
  rw [hk] at h
  dsimp only at h
  generalize u * den / num = d at *
  cases hl : readsBack u (d * num) den with
  | false =>
    cases hu : readsBack u ((d + 1) * num) den with
    | false => rw [hl, hu] at h; cases h
    | true =>
      rw [hl, hu] at h
      cases h
      exact .inr ⟨rfl, hu, nofun⟩
  | true =>
    cases hu : readsBack u ((d + 1) * num) den with
    | false =>
      rw [hl, hu] at h
      cases h
      exact .inl ⟨rfl, hl⟩
    | true =>
      rw [hl, hu] at h
      dsimp only at h
      split at h
      next =>
        cases h
        exact .inl ⟨rfl, hl⟩
      next hc =>
        cases h
        have hc := Nat.compare_eq_gt.mp hc
        exact .inr ⟨rfl, hu, fun _ => by omega⟩
      next hc =>
        have hc := Nat.compare_eq_eq.mp hc
        split at h
        · cases h
          exact .inr ⟨rfl, hu, fun _ => by omega⟩
        · cases h
          exact .inl ⟨rfl, hl⟩

theorem onGrid_ne_none {u num den : Nat} {k : Int} (hk : gridUnit k = (num, den))
    (h : readsBack u (u * den / num * num) den = true) : onGrid tie u k ≠ none := by
  unfold onGrid
  rw [hk]
  dsimp only
  rw [h]
  cases readsBack u ((u * den / num + 1) * num) den with
  | false => nofun
  | true =>
    dsimp only
    split <;> nofun

theorem gridUnit_natCast (i : Nat) : gridUnit i = (10 ^ i * 2 ^ unitBits, 1) := by
  have hn : (-(i : Int)).toNat = 0 := by omega
  rw [gridUnit, Int.toNat_natCast, hn, Nat.shiftLeft_eq, tenTo_eq, tenTo_eq, pow_zero]

theorem onGrid_integer (hm : 0 < m) (hm' : m ≤ 2 ^ 53) {i : Nat}
    (h : onGrid tie (m * 2 ^ unitBits) i = some c) : c * 10 ^ i = m := by
  have hpos := Nat.two_pow_pos unitBits
  have hself : readsBack (m * 2 ^ unitBits) (m * 2 ^ unitBits) 1 = true :=
    readsBack_self (Nat.mul_pos hm hpos)
  have hd : m * 2 ^ unitBits / (10 ^ i * 2 ^ unitBits) = m / 10 ^ i :=
    Nat.mul_div_mul_right _ _ hpos
  have hback {k : Nat} (hk : readsBack (m * 2 ^ unitBits) (k * (10 ^ i * 2 ^ unitBits)) 1 = true) :
      k * 10 ^ i = m ∨ m = 2 ^ 53 ∧ k * 10 ^ i = m + 1 := by
    rw [← Nat.mul_assoc] at hk
    exact eq_of_readsBack hm' hk
  have h := onGrid_eq_some (gridUnit_natCast i) h
  rw [Nat.mul_one, hd] at h
  have hlow : m / 10 ^ i * 10 ^ i ≤ m := Nat.div_mul_le_self m (10 ^ i)
  have hhigh : m < (m / 10 ^ i + 1) * 10 ^ i := by
    rw [Nat.mul_comm]
    exact Nat.lt_mul_div_succ m (Nat.pow_pos (by decide))
  rcases h with ⟨rfl, hr⟩ | ⟨rfl, hr, hn⟩
  · have := hback hr
    omega
  · -- The end above `2 ^ 53` is no multiple of ten, and farther than `2 ^ 53` itself.
    exfalso
    obtain ⟨hb, he⟩ : m = 2 ^ 53 ∧ (m / 10 ^ i + 1) * 10 ^ i = m + 1 := by
      have := hback hr
      omega
    cases i with
    | succ i =>
      have hten : 10 ∣ m + 1 := by
        rw [← he, pow_succ, ← Nat.mul_assoc]
        exact Nat.dvd_mul_left 10 _
      omega
    | zero =>
      simp only [pow_zero, Nat.div_one, Nat.one_mul, Nat.mul_one] at hn
      have hn := hn hself
      rw [← Nat.mul_assoc] at hn
      have := Nat.le_of_mul_le_mul_right hn hpos
      omega

theorem onGrid_zero (tie : Tie) (hm : 0 < m) : onGrid tie (m * 2 ^ unitBits) 0 ≠ none := by
  have hpos := Nat.two_pow_pos unitBits
  apply onGrid_ne_none (gridUnit_natCast 0)
  rw [pow_zero, Nat.one_mul, Nat.mul_one, Nat.mul_div_cancel _ hpos]
  exact readsBack_self (Nat.mul_pos hm hpos)

theorem search_succ (tie : Tie) (u : Nat) (k : Int) (fuel : Nat) :
    search tie u k (fuel + 1) = match onGrid tie u k with
      | some d => ⟨d, k⟩
      | none => search tie u (k - 1) fuel := by
  rfl

theorem search_integer (hm : 0 < m) (hm' : m ≤ 2 ^ 53) (tie : Tie) {fuel i : Nat} (hi : i < fuel) :
    ∃ c j : Nat, search tie (m * 2 ^ unitBits) i fuel = ⟨c, j⟩ ∧ c * 10 ^ j = m := by
  induction i generalizing fuel with
  | zero =>
    obtain ⟨c, hc⟩ := Option.ne_none_iff_exists'.mp (onGrid_zero tie hm)
    cases fuel with
    | zero => omega
    | succ fuel =>
      refine ⟨c, 0, ?_, onGrid_integer hm hm' hc⟩
      rw [search_succ, Int.natCast_zero, hc]
  | succ i ih =>
    cases fuel with
    | zero => omega
    | succ fuel =>
      rw [search_succ]
      cases hc : onGrid tie (m * 2 ^ unitBits) (i + 1 : Nat) with
      | some c => exact ⟨c, i + 1, rfl, onGrid_integer hm hm' hc⟩
      | none =>
        have hk : ((i + 1 : Nat) : Int) - 1 = i := by omega
        dsimp only
        rw [hk]
        exact ih (by omega)

theorem length_toDigits_mul_pow {n k : Nat} (hm : 0 < m) (hn : m < 10 ^ n) (hk : 0 < k) :
    k < (Nat.toDigits 10 (m * 10 ^ k)).length ∧
      (Nat.toDigits 10 (m * 10 ^ k)).length ≤ n + k := by
  constructor
  · rw [← Nat.not_le, Nat.length_toDigits_le_iff (by decide) hk, Nat.not_lt]
    exact Nat.le_mul_of_pos_left _ hm
  · rw [Nat.length_toDigits_le_iff (by decide) (Nat.add_pos_right n hk), pow_add]
    exact Nat.mul_lt_mul_of_pos_right hn (Nat.pow_pos (by decide))

theorem leading_integer (hm : 0 < m) (hm' : m ≤ 2 ^ 53) :
    ∃ i : Nat, leading (m * 2 ^ unitBits) + 1 = i ∧ i < 18 := by
  have hu : m * 2 ^ unitBits * tenTo 324 / twoTo unitBits = m * 10 ^ 324 := by
    rw [twoTo_eq, tenTo_eq, Nat.mul_right_comm, Nat.mul_div_cancel _ (Nat.two_pow_pos unitBits)]
  have hlt : m < 10 ^ 17 := by omega
  obtain ⟨hlow, hhigh⟩ := length_toDigits_mul_pow hm hlt (show 0 < 324 by decide)
  unfold leading
  rw [hu]
  generalize (Nat.toDigits 10 (m * 10 ^ 324)).length = n at *
  exact ⟨n - 324, by omega, by omega⟩

theorem shortest_zero (tie : Tie) : shortest tie 0 = ⟨0, 0⟩ := by
  rw [shortest, if_pos rfl]

theorem positional_natCast (c j : Nat) :
    (Decimal.mk c j).positional = Nat.toDigits 10 (c * 10 ^ j) := by
  rw [positional, if_pos (Int.natCast_nonneg j), Int.toNat_natCast, tenTo_eq]

theorem positional_shortest (hm : m ≤ 2 ^ 53) (tie : Tie) :
    (shortest tie (m * 2 ^ unitBits)).positional = Nat.toDigits 10 m := by
  rcases Nat.eq_zero_or_pos m with rfl | hm0
  · rw [Nat.zero_mul, shortest_zero]
    exact positional_natCast 0 0
  · obtain ⟨i, hi, hlt⟩ := leading_integer hm0 hm
    obtain ⟨c, j, hs, hc⟩ := search_integer hm0 hm tie hlt
    have hne : m * 2 ^ unitBits ≠ 0 := Nat.ne_of_gt (Nat.mul_pos hm0 (Nat.two_pow_pos unitBits))
    rw [shortest, if_neg hne, hi, hs, positional_natCast, hc]

end Decimal

theorem NumberStyle.magnitude_plain (u : Nat) :
    plain.magnitude u = (Decimal.shortest .up u).positional := by
  simp [magnitude, plain]

theorem Binary64.render_plain_integer {m : Nat} (hm : m ≤ 2 ^ 53) (negative : Bool) :
    (Binary64.finite negative (m * 2 ^ unitBits)).render .plain =
      withSign negative (Nat.toDigits 10 m) := by
  rw [render, NumberStyle.magnitude_plain, Decimal.positional_shortest hm]

end Collate

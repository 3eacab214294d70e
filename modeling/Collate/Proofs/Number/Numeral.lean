import Collate.Number.Reading
import Collate.Proofs.Number.Rounding
import Mathlib.Data.List.TakeWhile
import Mathlib.Tactic.FieldSimp

namespace Collate

inductive Sign
  | none
  | plus
  | minus
  deriving DecidableEq

namespace Sign

def text : Sign → List Char
  | none => []
  | plus => ['+']
  | minus => ['-']

def isMinus (s : Sign) : Bool :=
  s = minus

theorem splitSign_text (s : Sign) {c : Char} (hm : c ≠ '-') (hp : c ≠ '+') (cs : List Char) :
    Binary64.splitSign (s.text ++ c :: cs) = (s.isMinus, c :: cs) := by
  cases s with
  | plus => rfl
  | minus => rfl
  | none =>
    rw [text, List.nil_append, Binary64.splitSign]
    · rfl
    · rintro r he
      exact hm (List.cons.inj he).1
    · rintro r he
      exact hp (List.cons.inj he).1

end Sign

structure Power where
  mark : Char
  sign : Sign
  digits : List Char
  mark_eq : mark = 'e' ∨ mark = 'E'
  digits_ne : digits ≠ []
  isDigit : ∀ c ∈ digits, c.isDigit

structure Numeral where
  sign : Sign
  whole : List Char
  fraction : Option (List Char)
  power : Option Power
  digits_ne : whole ++ fraction.getD [] ≠ []
  isDigit : ∀ c ∈ whole ++ fraction.getD [], c.isDigit

def StartsUnsigned (c : Char) : Prop :=
  c.isDigit ∨ c = '.'

namespace StartsUnsigned

variable {c d : Char}

theorem ne (h : StartsUnsigned c) (hd : d.isDigit = false) (hp : d ≠ '.') : c ≠ d := by
  rintro rfl
  rcases h with h | rfl
  · rw [h] at hd
    cases hd
  · exact hp rfl

theorem toLower_eq (h : StartsUnsigned c) : c.toLower = c := by
  rcases h with h | rfl
  · have hc : c.toNat ≤ 57 := (Char.isDigit_iff_toNat.mp h).2
    apply dif_neg
    rintro ⟨ha, -⟩
    have ha : 65 ≤ c.toNat := ha
    omega
  · rfl

end StartsUnsigned

theorem span_digits {ds r : List Char} (hd : ∀ c ∈ ds, c.isDigit)
    (hr : ∀ c ∈ r.head?, c.isDigit = false) :
    (ds ++ r).takeWhile Char.isDigit = ds ∧ (ds ++ r).dropWhile Char.isDigit = r := by
  rw [List.takeWhile_append_of_pos hd, List.dropWhile_append_of_pos hd]
  cases r with
  | nil => exact ⟨List.append_nil ds, rfl⟩
  | cons c r =>
    have hc : ¬ c.isDigit := Bool.eq_false_iff.mp (hr c rfl)
    rw [List.takeWhile_cons_of_neg hc, List.dropWhile_cons_of_neg hc, List.append_nil]
    exact ⟨rfl, rfl⟩

namespace Power

variable (p : Power)

def text : List Char :=
  p.mark :: (p.sign.text ++ p.digits)

def exponent : Int :=
  if p.sign.isMinus then -Nat.ofDigitChars 10 p.digits 0 else Nat.ofDigitChars 10 p.digits 0

theorem isDigit_mark : p.mark.isDigit = false := by
  rcases p.mark_eq with h | h <;> rw [h] <;> rfl

theorem mark_ne_point : p.mark ≠ '.' := by
  rcases p.mark_eq with h | h <;> rw [h] <;> decide

theorem readExponent?_text : Binary64.readExponent? p.text = some p.exponent := by
  obtain ⟨d, ds, hds⟩ := List.exists_cons_of_ne_nil p.digits_ne
  have hd : d.isDigit := p.isDigit d (hds ▸ List.mem_cons_self)
  have hs : Binary64.splitSign (p.sign.text ++ p.digits) = (p.sign.isMinus, p.digits) := by
    rw [hds]
    have hs : StartsUnsigned d := .inl hd
    exact p.sign.splitSign_text (hs.ne rfl (by decide)) (hs.ne rfl (by decide)) ds
  rw [text, Binary64.readExponent?, hs]
  exact if_pos ⟨p.mark_eq, p.digits_ne, List.all_eq_true.mpr p.isDigit⟩

def ofNat (s : Sign) (k : Nat) : Power where
  mark := 'e'
  sign := s
  digits := Nat.toDigits 10 k
  mark_eq := .inl rfl
  digits_ne := Nat.toDigits_ne_nil
  isDigit _ := Nat.isDigit_of_mem_toDigits (by decide) (by decide)

theorem exponent_ofNat (s : Sign) (k : Nat) :
    (ofNat s k).exponent = if s.isMinus then -(k : Int) else k := by
  rw [exponent, ofNat, Nat.ofDigitChars_toDigits (by decide) (by decide)]

end Power

namespace Numeral

variable (n : Numeral)

def places : List Char :=
  n.fraction.getD []

def exponent : Int :=
  n.power.elim 0 Power.exponent

def magnitude : ℚ :=
  (Nat.ofDigitChars 10 n.whole 0 + Nat.ofDigitChars 10 n.places 0 / 10 ^ n.places.length) *
    10 ^ n.exponent

def value : ℚ :=
  if n.sign.isMinus then -n.magnitude else n.magnitude

def toBinary64 : Binary64 :=
  .ofDecimal n.sign.isMinus (ofDigits (n.whole ++ n.places)) (n.exponent - n.places.length)

def tail : List Char :=
  n.power.elim [] Power.text

def rest : List Char :=
  n.fraction.elim [] ('.' :: ·) ++ n.tail

def text : String :=
  String.ofList (n.sign.text ++ (n.whole ++ n.rest))

theorem magnitude_nonneg : 0 ≤ n.magnitude :=
  mul_nonneg (by positivity) (zpow_nonneg (by decide) _)

theorem abs_value : |n.value| = n.magnitude := by
  unfold value
  split
  · rw [abs_neg, abs_of_nonneg n.magnitude_nonneg]
  · rw [abs_of_nonneg n.magnitude_nonneg]

theorem magnitude_eq : n.magnitude =
    ofDigits (n.whole ++ n.places) * (10 : ℚ) ^ (n.exponent - n.places.length) := by
  have h10 : (10 : ℚ) ^ n.places.length ≠ 0 := pow_ne_zero _ (by decide)
  have hd : ofDigits (n.whole ++ n.places) = Nat.ofDigitChars 10 n.whole 0 * 10 ^ n.places.length +
      Nat.ofDigitChars 10 n.places 0 := by
    change Nat.ofDigitChars 10 (n.whole ++ n.places) 0 = _
    rw [Nat.ofDigitChars_append, Nat.ofDigitChars_eq_ofDigitChars_zero, Nat.mul_comm]
  rw [magnitude, hd, zpow_sub₀ (by decide), zpow_natCast]
  push_cast
  field_simp

theorem exists_starts : ∃ c cs, n.whole ++ n.rest = c :: cs ∧ StartsUnsigned c := by
  cases hw : n.whole with
  | cons c cs =>
    refine ⟨c, cs ++ n.rest, rfl, .inl (n.isDigit c ?_)⟩
    rw [hw]
    exact List.mem_cons_self
  | nil =>
    cases hf : n.fraction with
    | none => exact absurd (by rw [hw, hf]; rfl) n.digits_ne
    | some ds => exact ⟨'.', _, by rw [rest, hf]; rfl, .inr rfl⟩

theorem head?_tail : ∀ c ∈ n.tail.head?, c.isDigit = false ∧ c ≠ '.' := by
  unfold tail
  cases n.power with
  | none => nofun
  | some p =>
    rintro c ⟨⟩
    exact ⟨p.isDigit_mark, p.mark_ne_point⟩

theorem readExponent?_tail : Binary64.readExponent? n.tail = some n.exponent := by
  unfold tail exponent
  cases n.power with
  | none => rfl
  | some p => exact p.readExponent?_text

theorem readDecimal?_text (negative : Bool) : Binary64.readDecimal? negative (n.whole ++ n.rest) =
    some (.ofDecimal negative (ofDigits (n.whole ++ n.places)) (n.exponent - n.places.length)) := by
  obtain ⟨hwhole, hplaces⟩ := List.forall_mem_append.mp n.isDigit
  have hne : ¬ (n.whole = [] ∧ n.places = []) := fun h => n.digits_ne (List.append_eq_nil_iff.mpr h)
  have htail (c : Char) (hc : c ∈ n.tail.head?) : c.isDigit = false := (n.head?_tail c hc).1
  unfold Binary64.readDecimal?
  cases hf : n.fraction with
  | none =>
    have hrest : n.rest = n.tail := by
      rw [rest, hf]
      rfl
    have hpl : n.places = [] := by
      rw [places, hf]
      rfl
    obtain ⟨ht, hd⟩ := span_digits hwhole htail
    rw [hrest, ht, hd]
    rw [hpl] at hne ⊢
    dsimp only
    split
    next r hr => exact absurd rfl ((n.head?_tail '.' (by rw [hr]; rfl)).2)
    next => rw [if_neg hne, n.readExponent?_tail, Option.map_some]
  | some ds =>
    have hrest : n.rest = '.' :: (ds ++ n.tail) := by
      rw [rest, hf]
      rfl
    have hpl : n.places = ds := by
      rw [places, hf]
      rfl
    obtain ⟨ht, hd⟩ := span_digits (r := n.rest) hwhole (by rw [hrest]; rintro c ⟨⟩; rfl)
    obtain ⟨ht', hd'⟩ := span_digits (hpl ▸ hplaces : ∀ c ∈ ds, c.isDigit) htail
    rw [ht, hd, hrest]
    rw [hpl] at hne ⊢
    simp only [ht', hd', if_neg hne, n.readExponent?_tail, Option.map_some]

theorem ofText?_text : Binary64.ofText? n.text = some n.toBinary64 := by
  obtain ⟨c, cs, hc, hs⟩ := n.exists_starts
  have hname (t : String) (d : Char) (ds : List Char) (ht : t.toList = d :: ds)
      (hd : d.isDigit = false) (hp : d ≠ '.') :
      String.ofList ((n.whole ++ n.rest).map Char.toLower) ≠ t := by
    intro he
    have he := congrArg String.toList he
    rw [String.toList_ofList, hc, List.map_cons, hs.toLower_eq, ht] at he
    exact hs.ne hd hp (List.cons.inj he).1
  unfold Binary64.ofText?
  have hsplit : Binary64.splitSign n.text.toList = (n.sign.isMinus, n.whole ++ n.rest) := by
    rw [text, String.toList_ofList, hc]
    exact n.sign.splitSign_text (hs.ne rfl (by decide)) (hs.ne rfl (by decide)) cs
  rw [hsplit]
  simp only [hname "nan" 'n' ['a', 'n'] rfl rfl (by decide),
    hname "inf" 'i' ['n', 'f'] rfl rfl (by decide),
    hname "infinity" 'i' ['n', 'f', 'i', 'n', 'i', 't', 'y'] rfl rfl (by decide), or_self, if_false]
  exact n.readDecimal?_text _

theorem isFinite_toBinary64 : n.toBinary64.isFinite ↔ |n.value| < Binary64.overflow := by
  rw [toBinary64, Binary64.isFinite_ofDecimal, abs_value, magnitude_eq]

theorem isNegative_toBinary64 :
    n.toBinary64.isNegative = decide (n.value < -Binary64.underflow) := by
  rw [toBinary64, Binary64.isNegative_ofDecimal, ← magnitude_eq, Bool.eq_iff_iff, Bool.and_eq_true,
    decide_eq_true_iff, decide_eq_true_iff, value]
  cases n.sign.isMinus with
  | false =>
    have hu : 0 ≤ Binary64.underflow := div_nonneg (by decide) (by positivity)
    have hm := n.magnitude_nonneg
    constructor
    · nofun
    · intro hlt
      exact absurd (lt_of_lt_of_le hlt (neg_nonpos.mpr hu)) hm.not_gt
  | true =>
    rw [if_pos rfl, neg_lt_neg_iff]
    exact ⟨And.right, fun h => ⟨rfl, h⟩⟩

def powerOfTen (sign s : Sign) (k : Nat) : Numeral where
  sign := sign
  whole := ['1']
  fraction := none
  power := some (.ofNat s k)
  digits_ne := by decide
  isDigit := List.all_eq_true.mp rfl

theorem magnitude_powerOfTen (sign s : Sign) (k : Nat) :
    (powerOfTen sign s k).magnitude = 10 ^ (if s.isMinus then -(k : Int) else k) := by
  have hw : Nat.ofDigitChars 10 (powerOfTen sign s k).whole 0 = 1 := rfl
  have hp : Nat.ofDigitChars 10 (powerOfTen sign s k).places 0 = 0 := rfl
  rw [magnitude, hw, hp, Nat.cast_one, Nat.cast_zero, zero_div, add_zero, one_mul,
    ← Power.exponent_ofNat]
  rfl

end Numeral
end Collate

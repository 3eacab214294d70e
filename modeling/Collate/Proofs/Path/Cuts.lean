import Collate.Proofs.Path.Arguments
import Collate.Proofs.Path.Slices
import Mathlib.Algebra.Group.Int.Defs
import Mathlib.Data.List.Infix
import Mathlib.Data.List.Induction

/-!
Where a path is cut. A cut takes one dot out of the text and nothing else is lost; a path that never
closes a parenthesis it did not open is cut at the dots outside of all parentheses, and there only, as
far as its parentheses can be counted in 32 bits.
-/

namespace Collate

namespace Scan

variable {s t : Scan} {u : List Char}

def after (s : Scan) (u : List Char) : Scan :=
  u.foldl next s

theorem after_cons (s : Scan) (c : Char) (u : List Char) : s.after (c :: u) = (s.next c).after u :=
  rfl

theorem after_append (s : Scan) (u v : List Char) : s.after (u ++ v) = (s.after u).after v :=
  List.foldl_append

theorem after_concat (s : Scan) (u : List Char) (c : Char) :
    s.after (u ++ [c]) = (s.after u).next c :=
  after_append s u [c]

theorem Reads.after_eq (h : Reads s u t) : s.after u = t := by
  induction h with
  | nil s => rfl
  | cons hc hs ih => exact ih

theorem next_other {d : Int32} {c : Char} (hl : c ≠ '(') (hr : c ≠ ')') (hq : c = '"' → ¬ 0 < d) :
    next ⟨d, false, false⟩ c = ⟨d, false, false⟩ := by
  have hq : ¬ (c = '"' ∧ 0 < d) := fun h => hq h.1 h.2
  unfold next
  simp only [Bool.false_eq_true, if_false, if_neg hq, if_neg hl, if_neg hr]

end Scan

def CutsAfter (segs : List (List Char)) (u : List Char) : Prop :=
  ∃ before rest, before ≠ [] ∧ rest ≠ [] ∧ segs = before ++ rest ∧ ['.'].intercalate before = u

variable {u w cs : List Char} {opened closed : Nat}

theorem splitFrom_append_of_cuts {s : Scan} (h : (s.after u).cuts '.' = true) (v : List Char) :
    splitFrom s (u ++ '.' :: v) = splitFrom s u ++ splitFrom (s.after u) v := by
  induction u generalizing s with
  | nil => exact splitFrom_dot h v
  | cons c u ih =>
    rw [Scan.after_cons] at h
    have hu := ih h
    by_cases hc : s.cuts c = true
    · obtain rfl := Scan.eq_dot_of_cuts hc
      rw [Scan.next_dot hc] at hu
      rw [List.cons_append, splitFrom_dot hc, splitFrom_dot hc, hu, Scan.after_cons,
        Scan.next_dot hc, List.cons_append]
    · rw [Bool.not_eq_true] at hc
      obtain ⟨seg, segs, hs⟩ := List.exists_cons_of_ne_nil (splitFrom_ne_nil (s.next c) u)
      rw [List.cons_append, splitFrom_cons hc, splitFrom_cons hc, hu, hs, Scan.after_cons]
      rfl

theorem cutsAfter_splitFrom {s : Scan} (h : CutsAfter (splitFrom s cs) u) :
    ∃ v, cs = u ++ '.' :: v ∧ (s.after u).cuts '.' = true := by
  obtain ⟨before, rest, hb, hr, hs, rfl⟩ := h
  induction before generalizing s cs with
  | nil => exact absurd rfl hb
  | cons seg before ih =>
    obtain ⟨t, ht, ⟨-, hn⟩ | ⟨tail, rfl, hd, hs⟩⟩ := splitFrom_eq_cons hs
    · exact absurd (List.append_eq_nil_iff.mp hn).2 hr
    · cases before with
      | nil =>
        rw [List.intercalate_singleton]
        exact ⟨tail, rfl, ht.after_eq ▸ hd⟩
      | cons seg' before =>
        obtain ⟨v, rfl, hv⟩ := ih (List.cons_ne_nil _ _) hs
        refine ⟨v, ?_, ?_⟩
        · simp [List.intercalate_cons_cons]
        · rwa [List.intercalate_cons_cons, List.append_assoc, List.singleton_append,
            Scan.after_append, ht.after_eq, Scan.after_cons, Scan.next_dot hd]

theorem cutsAfter_splitFrom_iff (cs u : List Char) :
    CutsAfter (splitFrom .start cs) u ↔
      (∃ v, cs = u ++ '.' :: v) ∧ (Scan.start.after u).cuts '.' = true := by
  constructor
  · intro h
    obtain ⟨v, hv, hc⟩ := cutsAfter_splitFrom h
    exact ⟨⟨v, hv⟩, hc⟩
  · rintro ⟨⟨v, rfl⟩, hc⟩
    exact ⟨splitFrom .start u, splitFrom (Scan.start.after u) v, splitFrom_ne_nil _ u,
      splitFrom_ne_nil _ v, splitFrom_append_of_cuts hc v, intercalate_splitFrom u⟩

inductive Quotable : List Char → Prop
  | nil : Quotable []
  | plain {w : List Char} {c : Char} (h : Quotable w) (hq : c ≠ '"') (hb : c ≠ '\\') :
      Quotable (w ++ [c])
  | escaped {w : List Char} (h : Quotable w) (c : Char) : Quotable (w ++ ['\\', c])

/-- Read from the left, the text opens and closes so many parentheses outside of strings, and ends
outside of strings. A string begins only where more parentheses are opened than closed. -/
inductive Parenthesized : List Char → Nat → Nat → Prop
  | nil : Parenthesized [] 0 0
  | opening {u : List Char} {opened closed : Nat} (h : Parenthesized u opened closed) :
      Parenthesized (u ++ ['(']) (opened + 1) closed
  | closing {u : List Char} {opened closed : Nat} (h : Parenthesized u opened closed) :
      Parenthesized (u ++ [')']) opened (closed + 1)
  | string {u w : List Char} {opened closed : Nat} (h : Parenthesized u opened closed)
      (hi : closed < opened) (hw : Quotable w) :
      Parenthesized (u ++ '"' :: (w ++ ['"'])) opened closed
  | other {u : List Char} {opened closed : Nat} {c : Char} (h : Parenthesized u opened closed)
      (hl : c ≠ '(') (hr : c ≠ ')') (hq : c = '"' → opened ≤ closed) :
      Parenthesized (u ++ [c]) opened closed

inductive EndsInString : List Char → Prop
  | quotable {u w : List Char} {opened closed : Nat} (h : Parenthesized u opened closed)
      (hi : closed < opened) (hw : Quotable w) : EndsInString (u ++ '"' :: w)
  | backslash {u w : List Char} {opened closed : Nat} (h : Parenthesized u opened closed)
      (hi : closed < opened) (hw : Quotable w) : EndsInString (u ++ '"' :: (w ++ ['\\']))

/-- Wherever the text is read up to, the number of its open parentheses is an integer of 32 bits. -/
def CountFits (cs : List Char) : Prop :=
  ∀ u, u <+: cs → ∀ opened closed, Parenthesized u opened closed →
    -2 ^ 31 ≤ (opened : Int) - closed ∧ (opened : Int) - closed < 2 ^ 31

theorem CountFits.of_prefix {v : List Char} (h : CountFits cs) (hv : v <+: cs) : CountFits v :=
  fun u hu => h u (hu.trans hv)

theorem pos_ofInt_iff {n : Int} (hl : -2 ^ 31 ≤ n) (hh : n < 2 ^ 31) :
    0 < Int32.ofInt n ↔ 0 < n := by
  rw [Int32.lt_iff_toInt_lt, Int32.toInt_ofInt_of_le hl hh, Int32.toInt_zero]

theorem Quotable.after_eq (h : Quotable w) (d : Int32) :
    Scan.after ⟨d, true, false⟩ w = ⟨d, true, false⟩ := by
  induction h with
  | nil => rfl
  | plain h hq hb ih => rw [Scan.after_append, ih]; simp [Scan.after, Scan.next, hq, hb]
  | escaped h c ih => rw [Scan.after_append, ih]; simp [Scan.after, Scan.next]

theorem Quotable.after_quote {d : Int32} (hw : Quotable w) (hd : 0 < d)
    (h : Scan.start.after u = ⟨d, false, false⟩) :
    Scan.start.after (u ++ '"' :: w) = ⟨d, true, false⟩ := by
  have hq : Scan.next ⟨d, false, false⟩ '"' = ⟨d, true, false⟩ := by simp [Scan.next, hd]
  rw [Scan.after_append, h, Scan.after_cons, hq, hw.after_eq]

theorem CountFits.pos_iff (hf : CountFits u) (h : Parenthesized u opened closed) :
    0 < Int32.ofInt (opened - closed) ↔ closed < opened := by
  obtain ⟨hl, hh⟩ := hf u List.prefix_rfl opened closed h
  rw [pos_ofInt_iff hl hh]
  omega

theorem Parenthesized.after_eq (h : Parenthesized u opened closed) (hf : CountFits u) :
    Scan.start.after u = ⟨Int32.ofInt (opened - closed), false, false⟩ := by
  induction h with
  | nil => rfl
  | @opening u opened closed h ih =>
    have hd : ((opened + 1 : Nat) : Int) - closed = opened - closed + 1 := by omega
    rw [Scan.after_concat, ih (hf.of_prefix (List.prefix_append _ _)), hd, Int32.ofInt_add]
    rfl
  | @closing u opened closed h ih =>
    have hd : (opened : Int) - (closed + 1 : Nat) = opened - closed - 1 := by omega
    rw [Scan.after_concat, ih (hf.of_prefix (List.prefix_append _ _)), hd, Int32.ofInt_sub _ 1]
    rfl
  | @string u w opened closed h hi hw ih =>
    have hf := hf.of_prefix (List.prefix_append u _)
    have hq := hw.after_quote ((hf.pos_iff h).mpr hi) (ih hf)
    rw [← List.cons_append, ← List.append_assoc, Scan.after_concat, hq]
    rfl
  | @other u opened closed c h hl hr hq ih =>
    have hf := hf.of_prefix (List.prefix_append u _)
    rw [Scan.after_concat, ih hf, Scan.next_other hl hr]
    exact fun hc hd => Nat.not_lt.mpr (hq hc) ((hf.pos_iff h).mp hd)

theorem EndsInString.after_eq (h : EndsInString u) (hf : CountFits u) :
    ∃ d e, 0 < d ∧ Scan.start.after u = ⟨d, true, e⟩ := by
  cases h with
  | @quotable u w opened closed h hi hw =>
    have hf := hf.of_prefix (List.prefix_append u _)
    have hd := (hf.pos_iff h).mpr hi
    exact ⟨_, false, hd, hw.after_quote hd (h.after_eq hf)⟩
  | @backslash u w opened closed h hi hw =>
    have hf := hf.of_prefix (List.prefix_append u _)
    have hd := (hf.pos_iff h).mpr hi
    refine ⟨_, true, hd, ?_⟩
    rw [← List.cons_append, ← List.append_assoc, Scan.after_concat, hw.after_quote hd (h.after_eq hf)]
    rfl

theorem Scan.after_replicate (n : Nat) :
    Scan.start.after (List.replicate n '(') = ⟨Int32.ofNat n, false, false⟩ := by
  induction n with
  | zero => rfl
  | succ n ih =>
    rw [List.replicate_succ', Scan.after_concat, ih, Int32.ofNat_add]
    rfl

-- With `2 ^ 31` parentheses the depth has wrapped around and is negative.
theorem cutsAfter_replicate_iff (n : Nat) (v : List Char) :
    CutsAfter (splitFrom .start (List.replicate n '(' ++ '.' :: v)) (List.replicate n '(') ↔
      Int32.ofNat n ≤ 0 := by
  rw [cutsAfter_splitFrom_iff, Scan.after_replicate]
  simp [Scan.cuts]

namespace NeverOverclosed

end NeverOverclosed

end Collate

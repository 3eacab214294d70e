import Collate.Proofs.Json.Extent
import Collate.Proofs.Number.Nearest
import Collate.Text.Quoted

namespace Collate.Json

open Binary64 (unitBits)

def EndsItem (rest : List Char) : Prop :=
  ∃ r, rest = ',' :: r ∨ rest = ']' :: r

def StartsItem (cs : List Char) : Prop :=
  ∃ c r, cs = c :: r ∧ isSpace c = false ∧ c ≠ ']'

structure Written (u : List Char) (v : Json) : Prop where
  starts : StartsItem u
  read {fuel : Nat} (depth : Nat) {rest : List Char} (hf : u.length < fuel) (hr : EndsItem rest) :
    readValue fuel depth (u ++ rest) = .ok (v, rest)

section

variable {n : Nat} {c : Char} {rest : List Char}

theorem skipSpace_cons (hc : isSpace c = false) (cs : List Char) : skipSpace (c :: cs) = c :: cs :=
  List.dropWhile_cons_of_neg (by rw [hc]; decide)

theorem EndsItem.takeWhile_digits (h : EndsItem rest) : rest.takeWhile Char.isDigit = [] := by
  obtain ⟨r, rfl | rfl⟩ := h
  · exact List.takeWhile_cons_of_neg (by decide)
  · exact List.takeWhile_cons_of_neg (by decide)

theorem EndsItem.dropWhile_digits (h : EndsItem rest) : rest.dropWhile Char.isDigit = rest := by
  obtain ⟨r, rfl | rfl⟩ := h
  · exact List.dropWhile_cons_of_neg (by decide)
  · exact List.dropWhile_cons_of_neg (by decide)

theorem EndsItem.startsReal (h : EndsItem rest) : startsReal rest = false := by
  obtain ⟨r, rfl | rfl⟩ := h <;> rfl

theorem eq_zero_of_toDigits {ds : List Char} (h : Nat.toDigits 10 n = '0' :: ds) : n = 0 := by
  induction n using Nat.strongRecOn generalizing ds with
  | ind n ih =>
    rw [Nat.toDigits_eq_if (by decide)] at h
    split at h
    next => exact Nat.digitChar_eq_zero.mp (List.cons.inj h).1
    next hn =>
      cases ht : Nat.toDigits 10 (n / 10) with
      | nil => exact absurd ht Nat.toDigits_ne_nil
      | cons d es =>
        rw [ht] at h
        cases h
        have := ih (n / 10) (by omega) ht
        omega

theorem significand_eq {m : Nat} {ds : List Char} (h : Nat.ofDigitChars 10 ds m < 2 ^ 64) :
    significand m ds = (Nat.ofDigitChars 10 ds m, []) := by
  induction ds generalizing m with
  | nil => rfl
  | cons d ds ih =>
    rw [Nat.ofDigitChars_cons] at h ⊢
    have hle : 10 * m + digitValue d ≤ Nat.ofDigitChars 10 ds (10 * m + digitValue d) := by
      rw [Nat.ofDigitChars_eq_ofDigitChars_zero]
      have hp : 0 < 10 ^ ds.length := Nat.pow_pos (by decide)
      have := Nat.le_mul_of_pos_left (10 * m + digitValue d) hp
      omega
    have hlt : 10 * m + digitValue d < twoTo 64 := by
      rw [twoTo_eq]
      exact Nat.lt_of_le_of_lt hle h
    rw [significand, if_pos hlt]
    exact ih h

theorem significand_toDigits (hn : n < 2 ^ 64) : significand 0 (Nat.toDigits 10 n) = (n, []) := by
  have ho : Nat.ofDigitChars 10 (Nat.toDigits 10 n) 0 = n := Nat.ofDigitChars_ten_toDigits
  rw [significand_eq (by rwa [ho]), ho]

theorem isDigit_of_mem_toDigits (hc : c ∈ Nat.toDigits 10 n) : c.isDigit :=
  Nat.isDigit_of_mem_toDigits (by decide) (by decide) hc

theorem readNumeral_toDigits (negative : Bool) (hn : n < 2 ^ 64) (hr : EndsItem rest) :
    readNumeral negative (Nat.toDigits 10 n ++ rest) =
      if negative = false then .ok (.integer n, rest)
      else if n = 0 ∨ twoTo 63 < n then .ok (.real (Binary64.ofNat n).neg, rest)
      else .ok (.integer (-n), rest) := by
  have htake : (Nat.toDigits 10 n ++ rest).takeWhile Char.isDigit = Nat.toDigits 10 n := by
    rw [List.takeWhile_append_of_pos fun _ => isDigit_of_mem_toDigits, hr.takeWhile_digits,
      List.append_nil]
  have hdrop : (Nat.toDigits 10 n ++ rest).dropWhile Char.isDigit = rest := by
    rw [List.dropWhile_append_of_pos fun _ => isDigit_of_mem_toDigits, hr.dropWhile_digits]
  unfold readNumeral
  rw [htake, hdrop]
  split
  next hd => exact absurd hd Nat.toDigits_ne_nil
  next hd =>
    obtain rfl := eq_zero_of_toDigits hd
    cases hd
  next =>
    rw [significand_toDigits hn]
    exact if_pos ⟨rfl, hr.startsReal⟩

theorem exists_readNumeral (negative : Bool) (hn : n ≤ 2 ^ 53) :
    ∃ x : JsonNumber, x.toBinary64 = .finite negative (n * 2 ^ unitBits) ∧ ∀ {rest : List Char},
      EndsItem rest → readNumeral negative (Nat.toDigits 10 n ++ rest) = .ok (x, rest) := by
  have hnat : Binary64.ofInt n = .finite false (n * 2 ^ unitBits) := by
    have hs : ¬ (n : Int) < 0 := Int.not_lt.mpr (Int.natCast_nonneg n)
    rw [Binary64.ofInt_small (by omega), Int.natAbs_natCast, decide_eq_false hs]
  have hread {rest : List Char} (hr : EndsItem rest) :=
    readNumeral_toDigits negative (show n < 2 ^ 64 by omega) hr
  cases negative with
  | false => exact ⟨.integer n, hnat, fun hr => (hread hr).trans (if_pos rfl)⟩
  | true =>
    have hread {rest : List Char} (hr : EndsItem rest) := (hread hr).trans (if_neg (by decide))
    have hlt : ¬ twoTo 63 < n := by
      rw [twoTo_eq]
      omega
    by_cases hz : n = 0
    · refine ⟨.real (Binary64.ofNat n).neg, ?_, fun hr => (hread hr).trans (if_pos (.inl hz))⟩
      rw [JsonNumber.toBinary64, Binary64.ofNat, hnat, Binary64.neg, Bool.not_false]
    · refine ⟨.integer (-n), ?_, fun hr => (hread hr).trans (if_neg (not_or.mpr ⟨hz, hlt⟩))⟩
      have hs : -(n : Int) < 0 := by omega
      rw [JsonNumber.toBinary64, Binary64.ofInt_small (by omega), Int.natAbs_neg,
        Int.natAbs_natCast, decide_eq_true hs]

theorem ne_of_isDigit {d : Char} (hc : c.isDigit) (hd : d.isDigit = false) : c ≠ d := by
  rintro rfl
  rw [hc] at hd
  cases hd

theorem isSpace_of_isDigit (hc : c.isDigit) : isSpace c = false := by
  simp [isSpace, ne_of_isDigit hc]

theorem readValue_digit (fuel depth : Nat) (hc : c.isDigit) (cs : List Char) :
    readValue (fuel + 1) depth (c :: cs) =
      (readNumeral false (c :: cs)).map fun (x, rest) => (.number x, rest) := by
  rw [readValue, skipSpace_cons (isSpace_of_isDigit hc)]
  split
  case h_1 he => cases he
  case h_9 he =>
    obtain ⟨rfl, rfl⟩ := List.cons.inj he
    exact if_pos hc
  all_goals
    next he => exact absurd (List.cons.inj he).1 (ne_of_isDigit hc rfl)

end

section

variable {c : Char} {fuel : Nat} {rest : List Char}

theorem readStringChar_encodeChar (hc : Quoted.isPlain c) (cs : List Char) :
    readStringChar (Quoted.encodeChar c ++ cs) = .ok (some c, cs) := by
  have hlow : 32 ≤ c.toNat := by
    unfold Quoted.isPlain at hc
    split at hc
    · exact of_decide_eq_true hc
    · omega
  unfold Quoted.encodeChar
  split
  next => rfl
  next => rfl
  next => cases hc
  next => cases hc
  next => cases hc
  next => cases hc
  next hq hb _ _ _ _ =>
    rw [if_pos hc, List.singleton_append]
    unfold readStringChar
    split
    next he => cases he
    next he => exact absurd (List.cons.inj he).1 hq
    next he => exact absurd (List.cons.inj he).1 hb
    next he =>
      obtain ⟨rfl, rfl⟩ := List.cons.inj he
      exact if_neg (Nat.not_lt.mpr hlow)

theorem length_encodeChar_pos (c : Char) : 0 < (Quoted.encodeChar c).length := by
  unfold Quoted.encodeChar
  split
  case h_7 =>
    split
    · exact Nat.one_pos
    · exact Nat.succ_pos _
  all_goals exact Nat.two_pos

theorem readChars_encode {s : List Char} (hs : ∀ c ∈ s, Quoted.isPlain c)
    (hf : (s.flatMap Quoted.encodeChar).length < fuel) :
    readChars fuel (s.flatMap Quoted.encodeChar ++ '"' :: rest) = .ok (s, rest) := by
  induction s generalizing fuel with
  | nil =>
    cases fuel with
    | zero => omega
    | succ fuel => rfl
  | cons c s ih =>
    obtain ⟨hc, hs⟩ := List.forall_mem_cons.mp hs
    have hpos := length_encodeChar_pos c
    rw [List.flatMap_cons, List.length_append] at hf
    cases fuel with
    | zero => omega
    | succ fuel =>
      rw [readChars, List.flatMap_cons, List.append_assoc, readStringChar_encodeChar hc]
      have hs := ih hs (show (s.flatMap Quoted.encodeChar).length < fuel by omega)
      exact bind_eq_ok.mpr ⟨_, rfl, bind_eq_ok.mpr ⟨_, hs, rfl⟩⟩

end

theorem Written.of_cons {c : Char} {u : List Char} {v : Json} (hs : isSpace c = false)
    (hb : c ≠ ']') (h : ∀ {fuel : Nat} (depth : Nat) {rest : List Char}, u.length < fuel →
      EndsItem rest → readValue (fuel + 1) depth (c :: (u ++ rest)) = .ok (v, rest)) :
    Written (c :: u) v := by
  refine ⟨⟨c, u, rfl, hs, hb⟩, ?_⟩
  intro fuel depth rest hf hr
  rw [List.length_cons] at hf
  cases fuel with
  | zero => omega
  | succ fuel => exact h depth (by omega) hr

theorem written_null : Written "null".toList .null := by
  apply Written.of_cons rfl (by decide)
  intro fuel depth rest _ _
  rw [readValue, skipSpace_cons rfl]
  rfl

theorem written_bool (b : Bool) : Written (toString b).toList (.bool b) := by
  cases b
  all_goals
    apply Written.of_cons rfl (by decide)
    intro fuel depth rest _ _
    rw [readValue, skipSpace_cons rfl]
    rfl

theorem written_string {s : String} (hs : ∀ c ∈ s.toList, Quoted.isPlain c) :
    Written (Quoted.encode s).toList (.string s) := by
  rw [Quoted.encode, String.toList_ofList, List.cons_append]
  apply Written.of_cons rfl (by decide)
  intro fuel depth rest hf hr
  rw [List.length_append] at hf
  have hf : (s.toList.flatMap Quoted.encodeChar).length < fuel := by omega
  rw [readValue, skipSpace_cons rfl, List.append_assoc]
  refine map_eq_ok.mpr ⟨(s, rest), map_eq_ok.mpr ⟨_, readChars_encode hs hf, ?_⟩, rfl⟩
  exact congrArg (·, rest) String.ofList_toList

theorem exists_written_number {n : Nat} (hn : n ≤ 2 ^ 53) (negative : Bool) :
    ∃ x : JsonNumber, x.toBinary64 = .finite negative (n * 2 ^ unitBits) ∧
      Written (Binary64.withSign negative (Nat.toDigits 10 n)).toList (.number x) := by
  obtain ⟨x, hx, hread⟩ := exists_readNumeral negative hn
  refine ⟨x, hx, ?_⟩
  rw [Binary64.withSign, String.toList_ofList]
  cases negative with
  | true =>
    apply Written.of_cons rfl (by decide)
    intro fuel depth rest _ hr
    rw [readValue, skipSpace_cons rfl]
    exact map_eq_ok.mpr ⟨_, hread hr, rfl⟩
  | false =>
    rw [if_neg (by decide)]
    cases hd : Nat.toDigits 10 n with
    | nil => exact absurd hd Nat.toDigits_ne_nil
    | cons c ds =>
      have hc : c.isDigit := isDigit_of_mem_toDigits (hd ▸ List.mem_cons_self)
      rw [hd] at hread
      apply Written.of_cons (isSpace_of_isDigit hc) (ne_of_isDigit hc rfl)
      intro fuel depth rest _ hr
      rw [readValue_digit fuel depth hc]
      exact map_eq_ok.mpr ⟨_, hread hr, rfl⟩

section

variable {us : List (List Char)} {vs : List Json}

theorem readListSeparator_end (rest : List Char) :
    readListSeparator (']' :: rest) = .ok (false, rest) := by
  unfold readListSeparator
  rw [skipSpace_cons rfl]
  rfl

theorem readListSeparator_comma {cs : List Char} (h : StartsItem cs) :
    readListSeparator (',' :: cs) = .ok (true, cs) := by
  obtain ⟨c, r, rfl, hs, hb⟩ := h
  unfold readListSeparator
  rw [skipSpace_cons rfl]
  split
  next he => cases he
  next he => cases he
  next he =>
    obtain ⟨-, rfl⟩ := List.cons.inj he
    rw [skipSpace_cons hs]
    split
    next he => cases he
    next he => exact absurd (List.cons.inj he).1 hb
    next => rfl
  next hne => exact absurd rfl (hne _)

theorem readItems_of_startsItem {cs : List Char} (h : StartsItem cs) (fuel depth : Nat) :
    readItems (fuel + 1) depth cs = readMoreItems fuel depth cs := by
  obtain ⟨c, r, rfl, hs, hb⟩ := h
  rw [readItems, skipSpace_cons hs]
  split
  next he => cases he
  next he => exact absurd (List.cons.inj he).1 hb
  next => rfl

theorem StartsItem.append {u : List Char} (h : StartsItem u) (rest : List Char) :
    StartsItem (u ++ rest) := by
  obtain ⟨c, r, rfl, hc⟩ := h
  exact ⟨c, r ++ rest, rfl, hc⟩

theorem startsItem_intercalate (h : List.Forall₂ Written us vs) (hne : us ≠ []) :
    StartsItem ([','].intercalate us) := by
  cases h with
  | nil => exact absurd rfl hne
  | @cons u v us vs hu hus =>
    cases us with
    | nil =>
      rw [List.intercalate_singleton]
      exact hu.starts
    | cons u' us =>
      rw [List.intercalate_cons_cons, List.append_assoc]
      exact hu.starts.append _

theorem readMoreItems_intercalate {fuel : Nat} (depth : Nat) (h : List.Forall₂ Written us vs)
    (hne : us ≠ []) (hf : ([','].intercalate us).length + 1 < fuel) (rest : List Char) :
    readMoreItems fuel depth ([','].intercalate us ++ ']' :: rest) = .ok (vs, rest) := by
  induction h generalizing fuel with
  | nil => exact absurd rfl hne
  | @cons u v us vs hu hus ih =>
    cases fuel with
    | zero => omega
    | succ fuel =>
      rw [readMoreItems]
      cases hus with
      | nil =>
        rw [List.intercalate_singleton] at hf ⊢
        have hv := hu.read depth (show u.length < fuel by omega) ⟨rest, .inr rfl⟩
        exact bind_eq_ok.mpr ⟨_, hv, bind_eq_ok.mpr ⟨_, readListSeparator_end rest, rfl⟩⟩
      | @cons u' v' us vs hu' hus =>
        have hne' : u' :: us ≠ [] := List.cons_ne_nil u' us
        have hstarts := (startsItem_intercalate (.cons hu' hus) hne').append (']' :: rest)
        rw [List.intercalate_cons_of_ne_nil hne', List.append_assoc] at hf ⊢
        simp only [List.length_append, List.length_cons] at hf
        have hv := hu.read depth (show u.length < fuel by omega)
          ⟨[','].intercalate (u' :: us) ++ ']' :: rest, .inl rfl⟩
        have hvs := ih hne' (show _ < fuel by omega)
        rw [List.append_assoc]
        exact bind_eq_ok.mpr ⟨_, hv, bind_eq_ok.mpr ⟨_, readListSeparator_comma hstarts,
          bind_eq_ok.mpr ⟨_, hvs, rfl⟩⟩⟩

theorem readItems_intercalate {fuel : Nat} (depth : Nat) (h : List.Forall₂ Written us vs)
    (hf : ([','].intercalate us).length + 2 < fuel) (rest : List Char) :
    readItems fuel depth ([','].intercalate us ++ ']' :: rest) = .ok (vs, rest) := by
  cases fuel with
  | zero => omega
  | succ fuel =>
    by_cases hne : us = []
    · subst hne
      cases h
      rw [readItems]
      rfl
    · rw [readItems_of_startsItem ((startsItem_intercalate h hne).append _)]
      exact readMoreItems_intercalate depth h hne (by omega) rest

theorem parse_intercalate (h : List.Forall₂ Written us vs) :
    parse (String.ofList ('[' :: [','].intercalate us ++ [']'])) = .ok (.array vs) := by
  refine parse_eq_ok.mpr ⟨[], ?_, rfl⟩
  rw [String.toList_ofList, List.cons_append, fuelFor, readValue, skipSpace_cons rfl]
  refine map_eq_ok.mpr ⟨(vs, []), readItems_intercalate _ h ?_ [], rfl⟩
  rw [List.length_cons, List.length_append]
  omega

end

end Collate.Json

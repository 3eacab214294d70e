import Collate.Proofs.Json.Extent
import Collate.Toml.Parser

namespace Collate.Toml

open Json (Passes isScalarChar)

section Blank

variable {c : Char} {cs r tail : List Char} {fuel : Nat}

def Solid (tail : List Char) : Prop :=
  ∀ c, tail.head? = some c → Json.isSpace c = false ∧ c ≠ '#'

theorem solid_nil : Solid [] :=
  nofun

theorem solid_cons (hc : Json.isSpace c = false) (hne : c ≠ '#') : Solid (c :: cs) := by
  intro d hd
  cases hd
  exact ⟨hc, hne⟩

theorem head_of_passes (h : Passes Json.isSpace (c :: cs) tail) :
    Json.isSpace c ∧ Passes Json.isSpace cs tail ∨ tail = c :: cs := by
  obtain ⟨u, hu, hs⟩ := h
  cases u with
  | nil => exact .inr hu.symm
  | cons d u =>
    cases hu
    obtain ⟨hd, hs⟩ := List.forall_mem_cons.mp hs
    exact .inl ⟨hd, u, rfl, hs⟩

theorem passes_tail (ht : Solid tail) (hc : Json.isSpace c)
    (h : Passes Json.isSpace (c :: cs) tail) : Passes Json.isSpace cs tail := by
  rcases head_of_passes h with ⟨-, h⟩ | rfl
  · exact h
  · rw [(ht c rfl).1] at hc
    cases hc

theorem passes_skipSpace (ht : Solid tail) (h : Passes Json.isSpace cs tail) :
    Passes Json.isSpace (skipSpace cs) tail := by
  induction cs with
  | nil => exact h
  | cons c cs ih =>
    unfold skipSpace
    rw [List.dropWhile_cons]
    split
    next hc =>
      apply ih
      apply passes_tail ht _ h
      simp only [isSpace, Bool.or_eq_true, decide_eq_true_eq] at hc
      rcases hc with rfl | rfl <;> rfl
    next => exact h

theorem dropComment_eq (ht : Solid tail) (h : Passes Json.isSpace cs tail) :
    dropComment cs = cs := by
  unfold dropComment
  split
  next r =>
    rcases head_of_passes h with ⟨hc, -⟩ | rfl
    · cases hc
    · exact absurd rfl (ht '#' rfl).2
  next => rfl

theorem passes_dropNewline? (ht : Solid tail) (h : Passes Json.isSpace cs tail)
    (hr : dropNewline? cs = some r) : Passes Json.isSpace r tail := by
  unfold dropNewline? at hr
  split at hr
  · cases hr
    exact passes_tail ht rfl h
  · cases hr
    exact passes_tail ht rfl (passes_tail ht rfl h)
  · cases hr

theorem passes_skipTrivia (ht : Solid tail) (h : Passes Json.isSpace cs tail) :
    Passes Json.isSpace (skipTrivia fuel cs) tail := by
  induction fuel generalizing cs with
  | zero => exact h
  | succ fuel ih =>
    have hs := passes_skipSpace ht h
    rw [skipTrivia, dropComment_eq ht hs]
    split
    next hr => exact ih (passes_dropNewline? ht hs hr)
    next => exact hs

theorem passes_readLineEnd (h : Passes Json.isSpace cs []) (hr : readLineEnd cs = some r) :
    Passes Json.isSpace r [] := by
  have hs := passes_skipSpace solid_nil h
  rw [readLineEnd, dropComment_eq solid_nil hs] at hr
  split at hr
  · cases hr
    exact .refl _
  · exact passes_dropNewline? solid_nil hs hr

def startsKey (c : Char) : Bool :=
  isWordChar c || c = '"' || c = '\''

theorem startsKey_of_readKey? {x : Token × List Char} (h : readKey? cs = some x) :
    ∃ c r, cs = c :: r ∧ startsKey c := by
  unfold readKey? at h
  split at h
  next hq =>
    unfold readQuoted? at hq
    split at hq
    · exact ⟨_, _, rfl, rfl⟩
    · exact ⟨_, _, rfl, rfl⟩
    · exact ⟨_, _, rfl, rfl⟩
    · exact ⟨_, _, rfl, rfl⟩
    · cases hq
  next =>
    cases cs with
    | nil => cases h
    | cons c r =>
      refine ⟨c, r, rfl, ?_⟩
      dsimp only at h
      split at h
      next => cases h
      next hw =>
        rw [List.takeWhile_cons] at hw
        split at hw
        next hc =>
          rw [Bool.and_eq_true] at hc
          simp [startsKey, hc.1]
        next => exact absurd rfl hw

theorem startsKey_of_readKeys {x : List Token × List Char} (h : readKeys fuel cs = some x) :
    ∃ c r, cs = c :: r ∧ startsKey c := by
  cases fuel with
  | zero => cases h
  | succ fuel =>
    obtain ⟨y, hy, -⟩ := Option.bind_eq_some_iff.mp h
    exact startsKey_of_readKey? hy

theorem startsKey_of_isSpace (h : Json.isSpace c) : startsKey c = false := by
  simp only [Json.isSpace, Bool.or_eq_true, decide_eq_true_eq] at h
  rcases h with ((rfl | rfl) | rfl) | rfl <;> rfl

theorem head_of_readStatement {x : Statement × List Char} (h : readStatement fuel cs = some x) :
    ∃ c r, cs = c :: r ∧ (c = '[' ∨ startsKey c) := by
  unfold readStatement at h
  split at h
  · exact ⟨_, _, rfl, .inl rfl⟩
  · exact ⟨_, _, rfl, .inl rfl⟩
  · obtain ⟨y, hy, -⟩ := Option.bind_eq_some_iff.mp h
    obtain ⟨c, r, hc, hs⟩ := startsKey_of_readKeys hy
    exact ⟨c, r, hc, .inr hs⟩

end Blank

section Keys

variable {d : Char} {u w r rest left : List Char} {keys : List Token} {fuel : Nat}

def Stops (d : Char) : Prop :=
  d = ',' ∨ d = ']'

theorem Stops.solid (hd : Stops d) : Solid (d :: r) := by
  rcases hd with rfl | rfl
  · exact solid_cons rfl (by decide)
  · exact solid_cons rfl (by decide)

theorem isWordChar_of_isScalarChar {c : Char} (h : isScalarChar c) :
    isWordChar c ∧ isSpace c = false := by
  have ne {d : Char} (hd : isScalarChar d = false) : c ≠ d := by
    rintro rfl
    rw [hd] at h
    cases h
  have hs : isSpace c = false := by
    simp only [isSpace, ne (d := ' ') rfl, ne (d := '\t') rfl, decide_false, Bool.or_false]
  refine ⟨?_, hs⟩
  simp only [isWordChar, hs, List.mem_cons, List.not_mem_nil, ne (d := '\n') rfl,
    ne (d := '\r') rfl, ne (d := '#') rfl, ne (d := ',') rfl, ne (d := '=') rfl,
    ne (d := '[') rfl, ne (d := ']') rfl, ne (d := '\x7b') rfl, ne (d := '\x7d') rfl,
    ne (d := '"') rfl, ne (d := '\'') rfl, or_self, not_false_eq_true, decide_true, Bool.not_false,
    Bool.and_self]

theorem head_of_stops {c : Char} (hd : Stops d) (hr : Passes Json.isSpace (c :: rest) (d :: r)) :
    startsKey c = false ∧ c ≠ '.' := by
  rcases head_of_passes hr with ⟨hc, -⟩ | hc
  · refine ⟨startsKey_of_isSpace hc, ?_⟩
    rintro rfl
    cases hc
  · cases hc
    rcases hd with rfl | rfl
    · exact ⟨rfl, by decide⟩
    · exact ⟨rfl, by decide⟩

theorem readQuoted?_of_isWordChar {c : Char} (hc : isWordChar c) : readQuoted? (c :: rest) = none := by
  unfold readQuoted?
  split
  next h => cases h; cases hc
  next h => cases h; cases hc
  next h => cases h; cases hc
  next h => cases h; cases hc
  next => rfl

theorem readKey?_word (hw : ∀ x ∈ w, isScalarChar x ∧ x ≠ '.') (hne : w ≠ [])
    (hr : ∀ c, rest.head? = some c → (isWordChar c && c ≠ '.') = false) :
    readKey? (w ++ rest) = some (.bare w, rest) := by
  have ht : (w ++ rest).takeWhile (fun c => isWordChar c && c ≠ '.') = w := by
    rw [List.takeWhile_append_of_pos]
    · cases rest with
      | nil => rw [List.takeWhile_nil, List.append_nil]
      | cons c rest =>
        rw [List.takeWhile_cons_of_neg (by rw [hr c rfl]; decide), List.append_nil]
    · intro x hx
      simp [(isWordChar_of_isScalarChar (hw x hx).1).1, (hw x hx).2]
  have hq : readQuoted? (w ++ rest) = none := by
    cases w with
    | nil => exact absurd rfl hne
    | cons c w =>
      exact readQuoted?_of_isWordChar (isWordChar_of_isScalarChar (hw c List.mem_cons_self).1).1
  rw [readKey?, hq]
  simp only [ht, if_neg hne, List.drop_left]

theorem readKeys_eq_some {cs : List Char} (h : readKeys (fuel + 1) cs = some (keys, left)) :
    ∃ key rest, readKey? cs = some (key, rest) ∧
      (left = skipSpace rest ∧ left.head? ≠ some '.' ∧ keys = [key] ∨
        ∃ q ts, skipSpace rest = '.' :: q ∧ readKeys fuel (skipSpace q) = some (ts, left) ∧
          keys = key :: ts) := by
  obtain ⟨⟨key, rest⟩, hk, h⟩ := Option.bind_eq_some_iff.mp h
  refine ⟨key, rest, hk, ?_⟩
  dsimp only at h
  split at h
  next q hs =>
    obtain ⟨⟨ts, left⟩, hts, h⟩ := Option.bind_eq_some_iff.mp h
    cases h
    exact .inr ⟨q, ts, hs, hts, rfl⟩
  next hs =>
    cases h
    refine .inl ⟨rfl, ?_, rfl⟩
    intro hd
    obtain ⟨q, hq⟩ := List.head?_eq_some_iff.mp hd
    exact hs q hq

theorem skipSpace_ne_dot {q : List Char} (hd : Stops d) (hr : Passes Json.isSpace rest (d :: r)) :
    skipSpace rest ≠ '.' :: q := by
  intro hs
  have hend := passes_skipSpace hd.solid hr
  rw [hs] at hend
  exact absurd rfl (head_of_stops hd hend).2

theorem not_readKeys_of_stops {x : List Token × List Char} (hd : Stops d)
    (hr : Passes Json.isSpace rest (d :: r)) : readKeys fuel (skipSpace rest) ≠ some x := by
  intro h
  have hend := passes_skipSpace hd.solid hr
  obtain ⟨c, q, hc, hs⟩ := startsKey_of_readKeys h
  rw [hc] at hend
  rw [(head_of_stops hd hend).1] at hs
  cases hs

theorem skipSpace_of_isScalarChar {c : Char} (hc : isScalarChar c) (cs : List Char) :
    skipSpace (c :: cs) = c :: cs := by
  apply List.dropWhile_cons_of_neg
  rw [(isWordChar_of_isScalarChar hc).2]
  decide

theorem readKeys_word (hw : ∀ x ∈ w, isScalarChar x ∧ x ≠ '.') (hne : w ≠ []) (hd : Stops d)
    (hr : Passes Json.isSpace rest (d :: r)) (h : readKeys fuel (w ++ rest) = some (keys, left)) :
    left = skipSpace rest ∧ keys = [.bare w] := by
  cases fuel with
  | zero => cases h
  | succ fuel =>
    obtain ⟨key, rest', hk, h⟩ := readKeys_eq_some h
    have hrest : ∀ c, rest.head? = some c → (isWordChar c && c ≠ '.') = false := by
      intro c hc
      obtain ⟨q, rfl⟩ := List.head?_eq_some_iff.mp hc
      have hs := (head_of_stops hd hr).1
      simp only [startsKey, Bool.or_eq_false_iff] at hs
      rw [hs.1.1, Bool.false_and]
    rw [readKey?_word hw hne hrest] at hk
    cases hk
    rcases h with ⟨hl, -, hk⟩ | ⟨q, ts, hq, -⟩
    · exact ⟨hl, hk⟩
    · exact absurd hq (skipSpace_ne_dot hd hr)

theorem readKeys_bare (hw : ∀ x ∈ w, isScalarChar x) (hne : w ≠ []) (hd : Stops d)
    (hr : Passes Json.isSpace rest (d :: r)) (h : readKeys fuel (w ++ rest) = some (keys, left)) :
    left = skipSpace rest ∧ ∃ v ts, keys = .bare v :: ts ∧ v ≠ [] ∧ v <+: w := by
  induction fuel generalizing w keys left with
  | zero => cases h
  | succ fuel ih =>
    -- The first dot ends the first key, and behind it is again a word, or the end.
    by_cases hdot : '.' ∈ w
    · obtain ⟨key, rest', hk, h⟩ := readKeys_eq_some h
      obtain ⟨v, w', rfl, hv⟩ := List.eq_append_cons_of_mem hdot
      have hvw : ∀ x ∈ v, isScalarChar x ∧ x ≠ '.' := by
        intro x hx
        refine ⟨hw x (List.mem_append_left _ hx), ?_⟩
        rintro rfl
        exact hv hx
      have hs : skipSpace ('.' :: (w' ++ rest)) = '.' :: (w' ++ rest) := rfl
      by_cases hvn : v = []
      · rw [hvn] at hk
        cases hk
      · rw [List.append_assoc, List.cons_append, readKey?_word hvw hvn (by rintro c ⟨⟩; rfl)] at hk
        cases hk
        rw [hs] at h
        rcases h with ⟨rfl, hne, -⟩ | ⟨q, ts, hq, hts, rfl⟩
        · exact absurd rfl hne
        · cases hq
          cases w' with
          | nil => exact absurd hts (not_readKeys_of_stops hd hr)
          | cons c w' =>
            have hw' : ∀ x ∈ c :: w', isScalarChar x := fun x hx =>
              hw x (List.mem_append_right _ (List.mem_cons_of_mem _ hx))
            rw [List.cons_append, skipSpace_of_isScalarChar (hw' c List.mem_cons_self)] at hts
            obtain ⟨hl, -⟩ := ih hw' nofun hts
            exact ⟨hl, v, ts, rfl, hvn, List.prefix_append v _⟩
    · have hww : ∀ x ∈ w, isScalarChar x ∧ x ≠ '.' := by
        intro x hx
        refine ⟨hw x hx, ?_⟩
        rintro rfl
        exact hdot hx
      obtain ⟨hl, rfl⟩ := readKeys_word hww hne hd hr h
      exact ⟨hl, w, [], rfl, hne, List.prefix_refl w⟩

theorem splitBasic?_unquoted (hu : Json.Unquoted u) (rest : List Char) :
    splitBasic? (u ++ '"' :: rest) = some (u, rest) := by
  induction hu with
  | nil => rfl
  | @plain c u hq hb hn _ ih =>
    rw [List.cons_append, splitBasic?.eq_def]
    split
    next h => cases h
    next h => exact absurd (List.cons.inj h).1 hq
    next h => exact absurd (List.cons.inj h).1 hn
    next h => exact absurd (List.cons.inj h).1 hb
    next h => exact absurd (List.cons.inj h).1 hb
    next h => cases h; rw [ih]; rfl
  | @escaped c u hn _ ih =>
    rw [List.cons_append, List.cons_append, splitBasic?.eq_def]
    split
    next h => cases h
    next h => cases h
    next h => cases h
    next h => cases h; exact absurd rfl hn
    next h => cases h; rw [ih]; rfl
    next hne h => cases h; exact absurd rfl (hne _ _ rfl)

theorem readQuoted?_basic {cs : List Char} (hne : ∀ r, cs ≠ '"' :: '"' :: r)
    (hs : splitBasic? cs = some (u, rest)) : readQuoted? ('"' :: cs) = some (.basic u, rest) := by
  unfold readQuoted?
  split
  next h => cases h; exact absurd rfl (hne _)
  next h => cases h
  next h => cases h; rw [hs]
  next h => cases h
  next h _ => exact absurd rfl (h _)

theorem readQuoted?_unquoted (hu : Json.Unquoted u) (hr : rest.head? ≠ some '"') :
    readQuoted? ('"' :: u ++ '"' :: rest) = some (.basic u, rest) := by
  apply readQuoted?_basic _ (splitBasic?_unquoted hu rest)
  intro r h
  cases hu with
  | nil =>
    cases h
    exact hr rfl
  | plain hq _ _ _ => exact hq (List.cons.inj h).1
  | escaped _ _ => cases h

theorem readKeys_string (hu : Json.Unquoted u) (hd : Stops d)
    (hr : Passes Json.isSpace rest (d :: r))
    (h : readKeys fuel ('"' :: u ++ '"' :: rest) = some (keys, left)) :
    left = skipSpace rest ∧ keys = [.basic u] := by
  cases fuel with
  | zero => cases h
  | succ fuel =>
    obtain ⟨key, rest', hk, h⟩ := readKeys_eq_some h
    have hq : rest.head? ≠ some '"' := by
      intro hq
      obtain ⟨q, rfl⟩ := List.head?_eq_some_iff.mp hq
      cases (head_of_stops hd hr).1
    rw [readKey?, readQuoted?_unquoted hu hq] at hk
    cases hk
    rcases h with ⟨hl, -, hk⟩ | ⟨q, ts, hq, -⟩
    · exact ⟨hl, hk⟩
    · exact absurd hq (skipSpace_ne_dot hd hr)

end Keys

section Strings

variable {c c' : Char} {e u ds s t cs rest : List Char}

theorem readCodePoint_append {n : Nat} (hl : ds.length = 4) (hv : Json.hexValue? ds = some n) :
    readCodePoint 4 (ds ++ u) = if n.isValidChar then some (.ofNat n, u) else none := by
  have ht : (ds ++ u).take 4 = ds := by rw [← hl, List.take_left]
  have hd : (ds ++ u).drop 4 = u := by rw [← hl, List.drop_left]
  have hf : ds.foldl (fun n? c => n?.bind fun n => (hexDigit? c).map (16 * n + ·)) (some 0) =
      some n := hv
  unfold readCodePoint
  simp only [ht, hd, hf, hl, true_and]

theorem readEscape_append (he : Json.Escape e c) (h : readEscape (e ++ u) = some (c', rest)) :
    c' = c ∧ rest = u := by
  cases he with
  | simple hs =>
    unfold Json.simpleEscape? at hs
    split at hs <;> cases hs <;> cases h <;> exact ⟨rfl, rfl⟩
  | unit hl hv _ =>
    rw [List.cons_append, readEscape, readCodePoint_append hl hv] at h
    split at h
    · obtain ⟨hc, hr⟩ := Prod.mk.inj (Option.some.inj h)
      exact ⟨hc.symm, hr.symm⟩
    · cases h
  | pair hl hv hn _ _ =>
    rw [List.append_assoc, List.cons_append, readEscape, readCodePoint_append hl hv] at h
    split at h
    next hvalid =>
      unfold Nat.isValidChar at hvalid
      omega
    next => cases h

theorem decodeBasic?_eq {fuel : Nat} (hb : Json.StringBody u s)
    (h : decodeBasic? fuel u = some t) : t = s := by
  induction hb generalizing fuel t with
  | nil =>
    cases fuel <;> cases h <;> rfl
  | @plain c u s _ hb _ _ ih =>
    cases fuel with
    | zero => cases h
    | succ fuel =>
      rw [decodeBasic?.eq_def] at h
      split at h
      next hs => cases hs
      next => cases h
      next hs => exact absurd (List.cons.inj hs).1 hb
      next hf hs =>
        cases hs
        cases hf
        split at h
        · obtain ⟨t', ht, rfl⟩ := Option.map_eq_some_iff.mp h
          rw [ih ht]
        · cases h
  | @escape e u s c he _ ih =>
    cases fuel with
    | zero => cases h
    | succ fuel =>
      obtain ⟨⟨c', rest⟩, hc, hr⟩ := Option.bind_eq_some_iff.mp h
      obtain ⟨t', ht, hr⟩ := Option.bind_eq_some_iff.mp hr
      cases hr
      obtain ⟨hcc, hrest⟩ := readEscape_append he hc
      rw [hrest] at ht
      rw [hcc, ih ht]

theorem key?_basic {k : String} (hb : Json.StringBody u s) (h : (Token.basic u).key? = some k) :
    k = String.ofList s := by
  obtain ⟨t, ht, rfl⟩ := Option.map_eq_some_iff.mp h
  rw [decodeBasic?_eq hb ht]

end Strings

inductive ValueKeys : Json → List Token → Prop
  | bare {v : Json} {c : Char} {w : List Char} {ts : List Token} (hv : v.isBare)
      (hc : Json.startsBare c) : ValueKeys v (.bare (c :: w) :: ts)
  | string {s : String} {u : List Char} (h : Json.StringBody u s.toList) :
      ValueKeys (.string s) [.basic u]

theorem solid_scalarText {v : Json} {u rest : List Char} (h : Json.ScalarText v u) :
    Solid (u ++ rest) := by
  cases h with
  | @bare _ c u _ hc _ =>
    have hw := (isWordChar_of_isScalarChar (Json.isScalarChar_of_startsBare hc)).1
    apply solid_cons
    · rw [Bool.eq_false_iff]
      intro hs
      have hk := startsKey_of_isSpace hs
      rw [startsKey, hw] at hk
      cases hk
    · rintro rfl
      cases hc
  | string _ => exact solid_cons rfl (by decide)

theorem valueKeys_of_scalarText {v : Json} {d : Char} {u r rest left : List Char}
    {keys : List Token} {fuel : Nat} (hs : Json.ScalarText v u) (hd : Stops d)
    (hr : Passes Json.isSpace rest (d :: r)) (h : readKeys fuel (u ++ rest) = some (keys, left)) :
    left = skipSpace rest ∧ ValueKeys v keys := by
  cases hs with
  | @bare _ c u hv hc hu =>
    have hw : ∀ x ∈ c :: u, isScalarChar x :=
      List.forall_mem_cons.mpr ⟨Json.isScalarChar_of_startsBare hc, hu⟩
    obtain ⟨hl, w, ts, rfl, hne, hp⟩ := readKeys_bare hw nofun hd hr h
    refine ⟨hl, ?_⟩
    cases w with
    | nil => exact absurd rfl hne
    | cons c w =>
      obtain ⟨rfl, -⟩ := List.cons_prefix_cons.mp hp
      exact .bare hv hc
  | string hu =>
    rw [List.append_assoc] at h
    obtain ⟨hl, rfl⟩ := readKeys_string hu.unquoted hd hr h
    exact ⟨hl, .string hu⟩

end Collate.Toml

import Collate.Json.Parser
import Collate.Proofs.Except
import Mathlib.Data.List.TakeWhile

namespace Collate.Json

def Passes (p : Char → Bool) (cs rest : List Char) : Prop :=
  ∃ u, cs = u ++ rest ∧ ∀ c ∈ u, p c

section

variable {p : Char → Bool} {c : Char} {cs ds rest : List Char}

theorem Passes.refl (cs : List Char) : Passes p cs cs :=
  ⟨[], rfl, nofun⟩

theorem Passes.trans (h : Passes p cs ds) (h' : Passes p ds rest) : Passes p cs rest := by
  obtain ⟨u, rfl, hu⟩ := h
  obtain ⟨v, rfl, hv⟩ := h'
  refine ⟨u ++ v, (List.append_assoc u v rest).symm, ?_⟩
  intro c hc
  rcases List.mem_append.mp hc with hc | hc
  · exact hu c hc
  · exact hv c hc

theorem Passes.cons (hc : p c) (h : Passes p cs rest) : Passes p (c :: cs) rest := by
  obtain ⟨u, rfl, hu⟩ := h
  exact ⟨c :: u, rfl, List.forall_mem_cons.mpr ⟨hc, hu⟩⟩

theorem Passes.dropWhile {q : Char → Bool} (hq : ∀ c, q c → p c) (cs : List Char) :
    Passes p cs (cs.dropWhile q) := by
  refine ⟨cs.takeWhile q, List.takeWhile_append_dropWhile.symm, ?_⟩
  intro c hc
  exact hq c (List.mem_takeWhile_imp hc)

theorem passes_skipSpace (cs : List Char) : Passes isSpace cs (skipSpace cs) :=
  .dropWhile (fun _ => id) cs

def isScalarChar (c : Char) : Bool :=
  c.isAlphanum || c = '+' || c = '-' || c = '.'

theorem isScalarChar_of_isDigit (h : c.isDigit) : isScalarChar c := by
  unfold isScalarChar Char.isAlphanum
  rw [h]
  simp

theorem passes_digits (cs : List Char) : Passes isScalarChar cs (cs.dropWhile Char.isDigit) :=
  .dropWhile (fun _ => isScalarChar_of_isDigit) cs

theorem passes_splitSign (cs : List Char) : Passes isScalarChar cs (Binary64.splitSign cs).2 := by
  unfold Binary64.splitSign
  split
  · exact .cons rfl (.refl _)
  · exact .cons rfl (.refl _)
  · exact .refl _

theorem passes_readWord {word : List Char} (hw : ∀ w ∈ word, isScalarChar w)
    (h : readWord word cs = .ok rest) : Passes isScalarChar cs rest := by
  induction word generalizing cs with
  | nil => cases h; exact .refl _
  | cons w ws ih =>
    obtain ⟨hw, hws⟩ := List.forall_mem_cons.mp hw
    cases cs with
    | nil => cases h
    | cons c cs =>
      rw [readWord] at h
      split at h
      next he => exact .cons (he ▸ hw) (ih hws h)
      next => cases h

theorem realNumber_rest {negative : Bool} {n : Nat} {e : Int} {x : JsonNumber}
    (h : realNumber negative n e cs = .ok (x, rest)) : rest = cs := by
  unfold realNumber at h
  split at h
  · cases h; rfl
  · cases h

theorem passes_readExponent {negative : Bool} {n : Nat} {e : Int} {x : JsonNumber}
    (h : readExponent negative n e cs = .ok (x, rest)) : Passes isScalarChar cs rest := by
  unfold readExponent at h
  split at h
  next c r =>
    split at h
    next hc =>
      have hr : Passes isScalarChar (c :: r)
          ((Binary64.splitSign r).2.dropWhile Char.isDigit) := by
        apply Passes.cons
        · rcases hc with rfl | rfl <;> rfl
        · exact (passes_splitSign r).trans (passes_digits _)
      suffices hs : rest = (Binary64.splitSign r).2.dropWhile Char.isDigit from hs ▸ hr
      clear hr
      dsimp only at h
      split at h
      · cases h
      · cases h
      · split at h
        · exact realNumber_rest h
        · split at h
          · cases h; rfl
          · cases h
    next => rw [realNumber_rest h]; exact .refl _
  next => rw [realNumber_rest h]; exact .refl _

theorem passes_readFraction {negative : Bool} {n : Nat} {e : Int} {x : JsonNumber}
    (h : readFraction negative n e cs = .ok (x, rest)) : Passes isScalarChar cs rest := by
  unfold readFraction at h
  split at h
  next r =>
    dsimp only at h
    split at h
    · split at h <;> cases h
    · have hr : Passes isScalarChar ('.' :: r) (r.dropWhile Char.isDigit) :=
        .cons rfl (passes_digits r)
      exact hr.trans (passes_readExponent h)
  next => exact passes_readExponent h

theorem passes_readNumeral {negative : Bool} {x : JsonNumber}
    (h : readNumeral negative cs = .ok (x, rest)) :
    Passes isScalarChar (cs.dropWhile Char.isDigit) rest := by
  unfold readNumeral at h
  split at h
  · split at h <;> cases h
  · cases h
  · dsimp only at h
    split at h
    · split at h
      · cases h; exact .refl _
      · split at h <;> (cases h; exact .refl _)
    · exact passes_readFraction h

end

inductive Escape : List Char → Char → Prop
  | simple {c d : Char} (h : simpleEscape? c = some d) : Escape [c] d
  | unit {ds : List Char} {n : Nat} (hl : ds.length = 4) (h : hexValue? ds = some n)
      (hn : ¬ (0xD800 ≤ n ∧ n ≤ 0xDFFF)) : Escape ('u' :: ds) (Char.ofNat n)
  | pair {ds es : List Char} {n m : Nat} (hl : ds.length = 4) (h : hexValue? ds = some n)
      (hn : 0xD800 ≤ n ∧ n ≤ 0xDBFF) (hl' : es.length = 4) (h' : hexValue? es = some m) :
      Escape ('u' :: ds ++ '\\' :: 'u' :: es)
        (Char.ofNat ((n - 0xD800) * 0x400 + (m - 0xDC00) + 0x10000))

inductive StringBody : List Char → List Char → Prop
  | nil : StringBody [] []
  | plain {c : Char} {u s : List Char} (hq : c ≠ '"') (hb : c ≠ '\\') (hc : 32 ≤ c.toNat)
      (h : StringBody u s) : StringBody (c :: u) (c :: s)
  | escape {e u s : List Char} {c : Char} (he : Escape e c) (h : StringBody u s) :
      StringBody ('\\' :: e ++ u) (c :: s)

section

variable {cs rest : List Char}

theorem isSome_of_foldl_hexDigit? {n : Nat} {acc : Option Nat}
    (h : cs.foldl (fun n? c => n?.bind fun n => (hexDigit? c).map (16 * n + ·)) acc = some n) :
    acc.isSome ∧ ∀ c ∈ cs, (hexDigit? c).isSome := by
  induction cs generalizing acc with
  | nil => cases h; exact ⟨rfl, nofun⟩
  | cons c cs ih =>
    obtain ⟨hc, hcs⟩ := ih h
    cases acc with
    | none => cases hc
    | some m =>
      have hc : ((hexDigit? c).map (16 * m + ·)).isSome := hc
      rw [Option.isSome_map] at hc
      exact ⟨rfl, List.forall_mem_cons.mpr ⟨hc, hcs⟩⟩

theorem utf8Size_of_hexDigit? {c : Char} (h : (hexDigit? c).isSome) : c.utf8Size = 1 := by
  have hc : c.val ≤ 127 := by
    unfold hexDigit? at h
    split at h
    next hd =>
      have hd := Char.isDigit_iff_toNat.mp hd
      rw [UInt32.le_iff_toNat_le]
      exact Nat.le_trans hd.2 (by decide)
    · split at h
      next hl => exact UInt32.le_trans hl.2 (by decide)
      · split at h
        next hu => exact UInt32.le_trans hu.2 (by decide)
        next => cases h
  exact Char.utf8Size_eq_one_iff.mpr hc

theorem byteCount_of_hexDigits (h : ∀ c ∈ cs, (hexDigit? c).isSome) : byteCount cs = cs.length := by
  induction cs with
  | nil => rfl
  | cons c cs ih =>
    obtain ⟨hc, hcs⟩ := List.forall_mem_cons.mp h
    rw [byteCount, utf8Size_of_hexDigit? hc, ih hcs, List.length_cons, Nat.add_comm]

theorem readHex_eq_ok {n : Nat} (h : readHex cs = .ok (n, rest)) :
    ∃ ds, cs = ds ++ rest ∧ ds.length = 4 ∧ hexValue? ds = some n := by
  unfold readHex at h
  split at h
  · cases h
  next hb =>
    split at h
    next hn =>
      cases h
      refine ⟨cs.take 4, (List.take_append_drop 4 cs).symm, ?_, hn⟩
      -- With fewer characters than that they would be all digits, and fewer bytes.
      by_cases hl : 4 ≤ cs.length
      · exact List.length_take_of_le hl
      · have ht : cs.take 4 = cs := List.take_of_length_le (by omega)
        rw [ht] at hn
        have hd := byteCount_of_hexDigits (isSome_of_foldl_hexDigit? hn).2
        omega
    next => cases h

theorem readTrailing_eq_ok {lead : Nat} {c : Char} (h : readTrailing lead cs = .ok (c, rest)) :
    ∃ ds n, cs = '\\' :: 'u' :: ds ++ rest ∧ ds.length = 4 ∧ hexValue? ds = some n ∧
      c = Char.ofNat ((lead - 0xD800) * 0x400 + (n - 0xDC00) + 0x10000) := by
  unfold readTrailing at h
  split at h
  · cases h
  · cases h
  · obtain ⟨⟨n, r⟩, hn, hc⟩ := bind_eq_ok.mp h
    obtain ⟨ds, rfl, hl, hv⟩ := readHex_eq_ok hn
    dsimp only at hc
    split at hc
    · obtain ⟨hd, rfl⟩ := Prod.mk.inj (Except.ok.inj hc)
      exact ⟨ds, n, rfl, hl, hv, hd.symm⟩
    · cases hc
  · cases h
  · cases h

theorem readEscape_eq_ok {c : Char} (h : readEscape cs = .ok (c, rest)) :
    ∃ e, cs = e ++ rest ∧ Escape e c := by
  unfold readEscape at h
  split at h
  · cases h
  · obtain ⟨⟨n, r⟩, hn, hc⟩ := bind_eq_ok.mp h
    obtain ⟨ds, rfl, hl, hv⟩ := readHex_eq_ok hn
    dsimp only at hc
    split at hc
    · cases hc
    next hlow =>
      split at hc
      next hhigh =>
        obtain ⟨es, m, rfl, hl', hv', hd⟩ := readTrailing_eq_ok hc
        rw [hd]
        refine ⟨'u' :: ds ++ '\\' :: 'u' :: es, ?_, .pair hl hv hhigh hl' hv'⟩
        simp only [List.cons_append, List.append_assoc]
      next hhigh =>
        obtain ⟨hd, rfl⟩ := Prod.mk.inj (Except.ok.inj hc)
        rw [← hd]
        exact ⟨'u' :: ds, rfl, .unit hl hv (by omega)⟩
  · split at h
    next hd =>
      cases h
      exact ⟨[_], rfl, .simple hd⟩
    next => cases h

theorem readChars_eq_ok {fuel : Nat} {s : List Char} (h : readChars fuel cs = .ok (s, rest)) :
    ∃ u, cs = u ++ '"' :: rest ∧ StringBody u s := by
  induction fuel generalizing cs s with
  | zero => cases h
  | succ fuel ih =>
    obtain ⟨⟨c?, r⟩, hc, hr⟩ := bind_eq_ok.mp h
    clear h
    unfold readStringChar at hc
    split at hc
    · cases hc
    · cases hc
      cases hr
      exact ⟨[], rfl, .nil⟩
    · obtain ⟨⟨c, r⟩, he, hc⟩ := map_eq_ok.mp hc
      cases hc
      obtain ⟨⟨s, r'⟩, hs, hr⟩ := bind_eq_ok.mp hr
      cases hr
      obtain ⟨e, rfl, hec⟩ := readEscape_eq_ok he
      obtain ⟨u, rfl, hu⟩ := ih hs
      refine ⟨'\\' :: e ++ u, ?_, .escape hec hu⟩
      simp only [List.cons_append, List.append_assoc]
    next c r hq hb =>
      split at hc
      · cases hc
      next hn =>
        cases hc
        obtain ⟨⟨s, r'⟩, hs, hr⟩ := bind_eq_ok.mp hr
        cases hr
        obtain ⟨u, rfl, hu⟩ := ih hs
        exact ⟨c :: u, rfl, .plain hq hb (by omega) hu⟩

theorem readString_eq_ok {fuel : Nat} {s : String} (h : readString fuel cs = .ok (s, rest)) :
    ∃ u, cs = u ++ '"' :: rest ∧ StringBody u s.toList := by
  obtain ⟨⟨t, r⟩, ht, h⟩ := map_eq_ok.mp h
  cases h
  rw [String.toList_ofList]
  exact readChars_eq_ok ht

end

inductive Unquoted : List Char → Prop
  | nil : Unquoted []
  | plain {c : Char} {u : List Char} (hq : c ≠ '"') (hb : c ≠ '\\') (hn : c ≠ '\n')
      (h : Unquoted u) : Unquoted (c :: u)
  | escaped {c : Char} {u : List Char} (hn : c ≠ '\n') (h : Unquoted u) :
      Unquoted ('\\' :: c :: u)

theorem Unquoted.hexDigits {ds u : List Char} (hd : ∀ c ∈ ds, (hexDigit? c).isSome)
    (h : Unquoted u) : Unquoted (ds ++ u) := by
  induction ds with
  | nil => exact h
  | cons d ds ih =>
    obtain ⟨hc, hcs⟩ := List.forall_mem_cons.mp hd
    apply Unquoted.plain _ _ _ (ih hcs)
    all_goals
      rintro rfl
      cases hc

theorem Escape.unquoted {e u : List Char} {c : Char} (he : Escape e c) (h : Unquoted u) :
    Unquoted ('\\' :: e ++ u) := by
  cases he with
  | @simple b d hs =>
    apply Unquoted.escaped _ h
    rintro rfl
    cases hs
  | unit _ hv _ => exact .escaped (by decide) (h.hexDigits (isSome_of_foldl_hexDigit? hv).2)
  | pair _ hv _ _ hv' =>
    rw [← List.cons_append, List.append_assoc]
    apply Unquoted.escaped (by decide)
    apply Unquoted.hexDigits (isSome_of_foldl_hexDigit? hv).2
    exact .escaped (by decide) (h.hexDigits (isSome_of_foldl_hexDigit? hv').2)

theorem StringBody.unquoted {u s : List Char} (h : StringBody u s) : Unquoted u := by
  induction h with
  | nil => exact .nil
  | plain hq hb hc _ ih =>
    apply Unquoted.plain hq hb _ ih
    rintro rfl
    exact absurd hc (by decide)
  | escape he _ ih => exact he.unquoted ih

def isBare : Json → Bool
  | null | bool _ | number _ => true
  | _ => false

def startsBare (c : Char) : Bool :=
  c = 'n' || c = 't' || c = 'f' || c = '-' || c.isDigit

inductive ScalarText : Json → List Char → Prop
  | bare {v : Json} {c : Char} {u : List Char} (hv : v.isBare) (hc : startsBare c)
      (hu : ∀ d ∈ u, isScalarChar d) : ScalarText v (c :: u)
  | string {s : String} {u : List Char} (h : StringBody u s.toList) :
      ScalarText (.string s) ('"' :: u ++ ['"'])

section

variable {c : Char} {cs rest : List Char} {v : Json}

theorem isScalarChar_of_startsBare (h : startsBare c) : isScalarChar c := by
  simp only [startsBare, Bool.or_eq_true, decide_eq_true_eq] at h
  rcases h with (((rfl | rfl) | rfl) | rfl) | h
  · rfl
  · rfl
  · rfl
  · rfl
  · exact isScalarChar_of_isDigit h

theorem scalarText_of_passes (h : Passes isScalarChar cs rest) (hv : v.isBare)
    (hc : startsBare c) : ∃ u, c :: cs = u ++ rest ∧ ScalarText v u := by
  obtain ⟨u, rfl, hu⟩ := h
  exact ⟨c :: u, rfl, .bare hv hc hu⟩

theorem scalarText_of_readWord {word : List Char} {w : Json} (hw : word.all isScalarChar)
    (h : (readWord word cs).map (fun rest => (w, rest)) = .ok (v, rest)) (hv : w.isBare)
    (hc : startsBare c) : ∃ u, c :: cs = u ++ rest ∧ ScalarText v u := by
  obtain ⟨r, hr, h⟩ := map_eq_ok.mp h
  cases h
  exact scalarText_of_passes (passes_readWord (List.all_eq_true.mp hw) hr) hv hc

theorem readValue_eq_ok {fuel depth : Nat} (h : readValue fuel depth cs = .ok (v, rest)) :
    (∃ u, skipSpace cs = u ++ rest ∧ ScalarText v u) ∨
      ((skipSpace cs).head? = some '[' ∧ v.kind = .array) ∨
      (skipSpace cs).head? = some '\x7b' ∧ v.kind = .object := by
  cases fuel with
  | zero => rw [readValue] at h; cases h
  | succ fuel =>
    rw [readValue] at h
    split at h
    next => cases h
    next hs => exact .inl (hs ▸ scalarText_of_readWord (by decide) h rfl rfl)
    next hs => exact .inl (hs ▸ scalarText_of_readWord (by decide) h rfl rfl)
    next hs => exact .inl (hs ▸ scalarText_of_readWord (by decide) h rfl rfl)
    next r hs =>
      obtain ⟨⟨n, r'⟩, hr, h⟩ := map_eq_ok.mp h
      cases h
      rw [hs]
      exact .inl (scalarText_of_passes ((passes_digits r).trans (passes_readNumeral hr)) rfl rfl)
    next hs =>
      obtain ⟨⟨s, r⟩, hr, h⟩ := map_eq_ok.mp h
      cases h
      obtain ⟨u, rfl, hu⟩ := readString_eq_ok hr
      refine .inl ⟨'"' :: u ++ ['"'], ?_, .string hu⟩
      rw [hs]
      simp only [List.cons_append, List.append_assoc, List.nil_append]
    next hs =>
      split at h
      · cases h
      · obtain ⟨⟨items, r⟩, -, h⟩ := map_eq_ok.mp h
        cases h
        exact .inr (.inl ⟨by rw [hs]; rfl, rfl⟩)
    next hs =>
      split at h
      · cases h
      · obtain ⟨⟨entries, r⟩, -, h⟩ := map_eq_ok.mp h
        cases h
        exact .inr (.inr ⟨by rw [hs]; rfl, rfl⟩)
    next c r _ _ _ _ _ _ _ hs =>
      split at h
      next hd =>
        obtain ⟨⟨n, r'⟩, hr, h⟩ := map_eq_ok.mp h
        cases h
        have hp := passes_readNumeral hr
        rw [List.dropWhile_cons_of_pos hd] at hp
        have hc : startsBare c := by
          unfold startsBare
          rw [hd, Bool.or_true]
        rw [hs]
        exact .inl (scalarText_of_passes ((passes_digits r).trans hp) rfl hc)
      next => cases h

theorem isSpace_of_skipSpace {r : List Char} (h : skipSpace cs = c :: r) : isSpace c = false := by
  have hc := List.head?_dropWhile_not isSpace cs
  rw [show cs.dropWhile isSpace = c :: r from h] at hc
  simpa using hc

theorem readListSeparator_eq_ok {more : Bool} (h : readListSeparator cs = .ok (more, rest)) :
    skipSpace cs = ']' :: rest ∧ more = false ∨
      ∃ r, skipSpace cs = ',' :: r ∧ skipSpace r = rest ∧ more = true := by
  unfold readListSeparator at h
  split at h
  next => cases h
  next hs =>
    cases h
    exact .inl ⟨hs, rfl⟩
  next r hs =>
    split at h
    · cases h
    · cases h
    · cases h
      exact .inr ⟨r, hs, rfl, rfl⟩
  next => cases h

theorem expectEnd_eq_ok : expectEnd cs = .ok () ↔ skipSpace cs = [] := by
  unfold expectEnd
  split
  next hs => exact ⟨fun _ => hs, fun _ => rfl⟩
  next hne => exact ⟨nofun, fun hs => absurd hs hne⟩

theorem parse_eq_ok {text : String} :
    parse text = .ok v ↔ ∃ rest,
      readValue (fuelFor text.toList) depthLimit text.toList = .ok (v, rest) ∧
        skipSpace rest = [] := by
  rw [parse, mapError_eq_ok, readDocument, bind_eq_ok]
  constructor
  · rintro ⟨⟨w, rest⟩, hw, h⟩
    obtain ⟨_, he, h⟩ := bind_eq_ok.mp h
    cases h
    exact ⟨rest, hw, expectEnd_eq_ok.mp he⟩
  · rintro ⟨rest, hw, hs⟩
    exact ⟨(v, rest), hw, bind_eq_ok.mpr ⟨(), expectEnd_eq_ok.mpr hs, rfl⟩⟩

end

end Collate.Json

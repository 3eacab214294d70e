import Collate.Path.Parser
import Collate.Proofs.Json.Extent
import Collate.Proofs.Path.Split

namespace Collate

namespace Scan

def inCall : Scan := ⟨1, false, false⟩

def inString : Scan := ⟨1, true, false⟩

theorem cuts_of_pos {s : Scan} (h : 0 < s.depth) (c : Char) : s.cuts c = false := by
  have hd : ¬ s.depth ≤ 0 := Int32.not_le.mpr h
  simp [cuts, hd]

theorem cuts_inCall (c : Char) : inCall.cuts c = false := cuts_of_pos (by decide) c

theorem cuts_inString (c : Char) : inString.cuts c = false := cuts_of_pos (by decide) c

def Plain (c : Char) : Prop :=
  c ≠ '"' ∧ c ≠ '(' ∧ c ≠ ')'

instance (c : Char) : Decidable (Plain c) :=
  inferInstanceAs (Decidable (_ ∧ _))

theorem next_inCall {c : Char} (h : Plain c) : inCall.next c = inCall := by
  obtain ⟨hq, hl, hr⟩ := h
  simp [next, inCall, hq, hl, hr]

theorem next_inString {c : Char} (hq : c ≠ '"') (hb : c ≠ '\\') :
    inString.next c = inString := by
  simp [next, inString, hq, hb]

abbrev Crosses : List Char → List Char → Prop := Spans inCall inCall

theorem Crosses.cons {c : Char} {cs rest : List Char} (hc : Plain c) (h : Crosses cs rest) :
    Crosses (c :: cs) rest :=
  Spans.cons (cuts_inCall c) (by rwa [next_inCall hc])

theorem Crosses.of_passes {p : Char → Bool} {cs rest : List Char} (hp : ∀ c, p c → Plain c)
    (h : Json.Passes p cs rest) : Crosses cs rest := by
  obtain ⟨u, rfl, hu⟩ := h
  refine ⟨u, rfl, .of_forall (fun c _ => cuts_inCall c) ?_⟩
  intro c hc
  exact next_inCall (hp c (hu c hc))

theorem reads_unquoted {u : List Char} (h : Json.Unquoted u) : Reads inString u inString := by
  induction h with
  | nil => exact .nil _
  | @plain c u hq hb _ _ ih =>
    refine .cons (cuts_inString c) ?_
    rw [next_inString hq hb]
    exact ih
  | @escaped c u _ _ ih => exact .cons (cuts_inString _) (.cons (cuts_of_pos (by decide) c) ih)

theorem crosses_string {u : List Char} (h : Json.Unquoted u) (rest : List Char) :
    Crosses ('"' :: u ++ '"' :: rest) rest := by
  refine ⟨'"' :: u ++ ['"'], by simp, ?_⟩
  have hq : Reads inString ['"'] inCall := .cons (cuts_inString _) (.nil _)
  exact .cons (cuts_inCall _) ((reads_unquoted h).append hq)

end Scan

namespace Json

open Scan

variable {cs rest : List Char} {v : Json} {l : Literal}

inductive IsLiteral : Json → Literal → Prop
  | null : IsLiteral .null .null
  | bool (b : Bool) : IsLiteral (.bool b) (.bool b)
  | number (n : JsonNumber) : IsLiteral (.number n) (.number n.toBinary64)
  | string (s : String) : IsLiteral (.string s) (.string s)

theorem ofJson_eq_ok : Literal.ofJson v = .ok l ↔ v.IsLiteral l := by
  constructor
  · intro h
    cases v <;> cases h <;> constructor
  · rintro (_ | _ | _ | _) <;> rfl

theorem plain_of_eq_false {p : Char → Bool} (hq : p '"' = false) (hl : p '(' = false)
    (hr : p ')' = false) (c : Char) (hc : p c) : Plain c := by
  have ne {d : Char} (hd : p d = false) : c ≠ d := fun h => by rw [h, hd] at hc; cases hc
  exact ⟨ne hq, ne hl, ne hr⟩

theorem crosses_skipSpace (cs : List Char) : Crosses cs (skipSpace cs) :=
  .of_passes (plain_of_eq_false rfl rfl rfl) (passes_skipSpace cs)

theorem crosses_scalarText {v : Json} {u : List Char} (h : ScalarText v u) (rest : List Char) :
    Crosses (u ++ rest) rest := by
  cases h with
  | bare _ hc hu =>
    apply Crosses.of_passes (plain_of_eq_false (p := isScalarChar) rfl rfl rfl)
    exact ⟨_, rfl, List.forall_mem_cons.mpr ⟨isScalarChar_of_startsBare hc, hu⟩⟩
  | string h =>
    rw [List.append_assoc]
    exact crosses_string h.unquoted rest

def IsScalar (v : Json) : Prop := ∃ l, v.IsLiteral l

theorem IsScalar.kind_ne (h : v.IsScalar) : v.kind ≠ .array ∧ v.kind ≠ .object := by
  obtain ⟨l, hl⟩ := h
  cases hl <;> simp [kind]

theorem crosses_readValue {fuel depth : Nat} {v : Json} (hv : v.IsScalar)
    (h : readValue fuel depth cs = .ok (v, rest)) : Crosses cs rest := by
  refine (crosses_skipSpace cs).trans ?_
  rcases readValue_eq_ok h with ⟨u, hu, hs⟩ | ⟨-, hk⟩ | ⟨-, hk⟩
  · rw [hu]
    exact crosses_scalarText hs rest
  · exact absurd hk hv.kind_ne.1
  · exact absurd hk hv.kind_ne.2

theorem crosses_readListSeparator {more : Bool} (h : readListSeparator cs = .ok (more, rest)) :
    Crosses cs (if more then rest else ']' :: rest) := by
  refine (crosses_skipSpace cs).trans ?_
  rcases readListSeparator_eq_ok h with ⟨hs, rfl⟩ | ⟨r, hs, rfl, rfl⟩
  · rw [hs]
    exact .refl _ _
  · rw [hs]
    exact Crosses.cons (by decide) (crosses_skipSpace r)

theorem crosses_readMoreItems {fuel depth : Nat} {vs : List Json} (hv : ∀ v ∈ vs, v.IsScalar)
    (h : readMoreItems fuel depth cs = .ok (vs, rest)) : Crosses cs (']' :: rest) := by
  induction fuel generalizing cs vs with
  | zero => rw [readMoreItems] at h; cases h
  | succ fuel ih =>
    rw [readMoreItems] at h
    obtain ⟨⟨v, r⟩, hr, h⟩ := bind_eq_ok.mp h
    obtain ⟨⟨more, r'⟩, hm, h⟩ := bind_eq_ok.mp h
    cases more with
    | false =>
      cases h
      exact (crosses_readValue (hv v List.mem_cons_self) hr).trans (crosses_readListSeparator hm)
    | true =>
      obtain ⟨⟨vs, r''⟩, hvs, h⟩ := bind_eq_ok.mp h
      cases h
      obtain ⟨hv, hvs'⟩ := List.forall_mem_cons.mp hv
      exact ((crosses_readValue hv hr).trans (crosses_readListSeparator hm)).trans (ih hvs' hvs)

theorem crosses_readItems {fuel depth : Nat} {vs : List Json} (hv : ∀ v ∈ vs, v.IsScalar)
    (h : readItems fuel depth cs = .ok (vs, rest)) : Crosses cs (']' :: rest) := by
  refine (crosses_skipSpace cs).trans ?_
  cases fuel with
  | zero => rw [readItems] at h; cases h
  | succ fuel =>
    rw [readItems] at h
    split at h
    next => cases h
    next hs =>
      rw [hs]
      cases h
      exact .refl _ _
    next => exact crosses_readMoreItems hv h

theorem readItems_of_parse {args : List Char} {items : List Json}
    (h : parse (String.ofList ('[' :: args ++ [']'])) = .ok (.array items)) :
    ∃ fuel depth rest,
      readItems fuel depth (args ++ [']']) = .ok (items, rest) ∧ skipSpace rest = [] := by
  obtain ⟨rest, hv, hs⟩ := parse_eq_ok.mp h
  rw [String.toList_ofList, List.cons_append, fuelFor, readValue] at hv
  have hb : skipSpace ('[' :: (args ++ [']'])) = '[' :: (args ++ [']']) :=
    List.dropWhile_cons_of_neg (by decide)
  rw [hb] at hv
  obtain ⟨⟨items', r⟩, hi, hv⟩ := map_eq_ok.mp hv
  cases hv
  exact ⟨_, _, rest, hi, hs⟩

theorem reads_arguments {args : List Char} {items : List Json}
    (h : parse (String.ofList ('[' :: args ++ [']'])) = .ok (.array items))
    (hv : ∀ v ∈ items, v.IsScalar) : Reads inCall args inCall := by
  obtain ⟨fuel, depth, rest, hi, hs⟩ := readItems_of_parse h
  obtain ⟨u, hu, hr⟩ := crosses_readItems hv hi
  -- The last bracket of the text is the one that ends the array, since only blanks may follow that.
  have hn : rest = [] := by
    rcases List.eq_nil_or_concat rest with hn | ⟨init, c, rfl⟩
    · exact hn
    · have hu : args ++ [']'] = (u ++ ']' :: init) ++ [c] := by simpa using hu
      obtain ⟨-, hc⟩ := List.append_inj' hu rfl
      cases hc
      rw [skipSpace, List.dropWhile_eq_nil_iff] at hs
      cases hs ']' (by simp)
  rw [hn] at hu
  rwa [List.append_cancel_right hu]

end Json

end Collate

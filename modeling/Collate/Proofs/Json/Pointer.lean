import Collate.Json.Pointer
import Mathlib.Data.List.TakeDrop

namespace Collate.Json

section Text

variable {c : Char} {part name cs : List Char} {parts : List (List Char)}

def escapeNameChar (c : Char) : List Char :=
  if c = '~' then ['~', '0'] else if c = '/' then ['~', '1'] else [c]

def Pointer.text (p : Pointer) : String :=
  String.ofList (p.flatMap fun name => '/' :: name.toList.flatMap escapeNameChar)

theorem unescapeName_cons (h : c ≠ '~') (cs : List Char) :
    unescapeName (c :: cs) = c :: unescapeName cs := by
  conv_lhs => unfold unescapeName
  split <;> simp_all

theorem unescapeName_escape (name : List Char) :
    unescapeName (name.flatMap escapeNameChar) = name := by
  induction name with
  | nil => rfl
  | cons c name ih =>
    rw [List.flatMap_cons]
    by_cases ht : c = '~'
    · rw [ht]
      exact congrArg ('~' :: ·) ih
    by_cases hs : c = '/'
    · rw [hs]
      exact congrArg ('/' :: ·) ih
    · have hc : escapeNameChar c = [c] := by rw [escapeNameChar, if_neg ht, if_neg hs]
      rw [hc, List.singleton_append, unescapeName_cons ht, ih]

theorem slash_notMem_escape (name : List Char) : '/' ∉ name.flatMap escapeNameChar := by
  intro h
  obtain ⟨c, -, hc⟩ := List.mem_flatMap.mp h
  unfold escapeNameChar at hc
  split_ifs at hc with ht hs
  · simp at hc
  · simp at hc
  · exact hs (List.mem_singleton.mp hc).symm

theorem splitSlashes_ne_nil (cs : List Char) : splitSlashes cs ≠ [] := by
  cases cs with
  | nil => exact List.cons_ne_nil _ _
  | cons c cs =>
    rw [splitSlashes]
    split
    · exact List.cons_ne_nil _ _
    · split <;> exact List.cons_ne_nil _ _

theorem splitSlashes_slash (cs : List Char) : splitSlashes ('/' :: cs) = [] :: splitSlashes cs := by
  rw [splitSlashes]
  split
  next h => exact absurd h (splitSlashes_ne_nil cs)
  next h => rw [h]; rfl

theorem splitSlashes_cons (h : c ≠ '/') (cs : List Char) :
    splitSlashes (c :: cs) = (splitSlashes cs).modifyHead (c :: ·) := by
  rw [splitSlashes]
  split
  next hn => exact absurd hn (splitSlashes_ne_nil cs)
  next hs => rw [hs, if_neg h]; rfl

theorem splitSlashes_eq_iff : splitSlashes cs = part :: parts ↔
    cs = part ++ parts.flatMap ('/' :: ·) ∧ '/' ∉ part ∧ ∀ p ∈ parts, '/' ∉ p := by
  induction cs generalizing part parts with
  | nil =>
    constructor
    · intro h
      cases h
      exact ⟨rfl, List.not_mem_nil, nofun⟩
    · rintro ⟨hc, -, -⟩
      obtain ⟨rfl, hparts⟩ := List.append_eq_nil_iff.mp hc.symm
      cases parts with
      | nil => rfl
      | cons p ps => cases hparts
  | cons c cs ih =>
    obtain ⟨first, rest, hs⟩ := List.exists_cons_of_ne_nil (splitSlashes_ne_nil cs)
    by_cases hc : c = '/'
    · rw [hc, splitSlashes_slash, hs]
      constructor
      · intro h
        cases h
        obtain ⟨htext, hfirst, hrest⟩ := ih.mp hs
        exact ⟨congrArg ('/' :: ·) htext, List.not_mem_nil, List.forall_mem_cons.mpr ⟨hfirst, hrest⟩⟩
      · rintro ⟨htext, hpart, hparts⟩
        cases part with
        | cons d part =>
          rw [(List.cons.inj htext).1] at hpart
          exact absurd List.mem_cons_self hpart
        | nil =>
          cases parts with
          | nil => cases htext
          | cons p ps =>
            obtain ⟨hp, hps⟩ := List.forall_mem_cons.mp hparts
            rw [← hs, ih.mpr ⟨(List.cons.inj htext).2, hp, hps⟩]
    · rw [splitSlashes_cons hc, hs]
      constructor
      · intro h
        cases h
        obtain ⟨htext, hfirst, hrest⟩ := ih.mp hs
        refine ⟨congrArg (c :: ·) htext, ?_, hrest⟩
        exact fun hm => (List.mem_cons.mp hm).elim (fun he => hc he.symm) hfirst
      · rintro ⟨htext, hpart, hparts⟩
        cases part with
        | nil =>
          cases parts with
          | nil => cases htext
          | cons p ps => exact absurd (List.cons.inj htext).1 hc
        | cons d part =>
          obtain ⟨hd, htext⟩ := List.cons.inj htext
          have hsplit := ih.mpr ⟨htext, fun hm => hpart (List.mem_cons_of_mem d hm), hparts⟩
          rw [hs] at hsplit
          cases hsplit
          rw [hd]
          rfl

/-- A slash stands before every name of a pointer, and a name holds none. -/
theorem pointer?_eq_some {text : String} {p : Pointer} : pointer? text = some p ↔
    ∃ parts : List (List Char), text.toList = parts.flatMap ('/' :: ·) ∧
      (∀ part ∈ parts, '/' ∉ part) ∧ p = parts.map fun part => String.ofList (unescapeName part) := by
  unfold pointer?
  constructor
  · intro h
    split at h
    next ht =>
      cases h
      exact ⟨[], ht, nofun, rfl⟩
    next cs ht =>
      cases h
      obtain ⟨first, rest, hs⟩ := List.exists_cons_of_ne_nil (splitSlashes_ne_nil cs)
      obtain ⟨hcs, hfirst, hrest⟩ := splitSlashes_eq_iff.mp hs
      exact ⟨first :: rest, by rw [ht, hcs]; rfl, List.forall_mem_cons.mpr ⟨hfirst, hrest⟩,
        by rw [hs]⟩
    next => cases h
  · rintro ⟨parts, ht, hparts, rfl⟩
    rw [ht]
    cases parts with
    | nil => rfl
    | cons part parts =>
      have hs := splitSlashes_eq_iff.mpr ⟨rfl, List.forall_mem_cons.mp hparts⟩
      exact congrArg (fun names => some (names.map fun name => String.ofList (unescapeName name))) hs

theorem pointer?_text (p : Pointer) : pointer? p.text = some p := by
  refine pointer?_eq_some.mpr ⟨p.map fun name => name.toList.flatMap escapeNameChar, ?_, ?_, ?_⟩
  · rw [Pointer.text, String.toList_ofList, List.flatMap_map]
  · intro part hp
    obtain ⟨name, -, rfl⟩ := List.mem_map.mp hp
    exact slash_notMem_escape _
  · rw [List.map_map]
    refine (List.map_id p).symm.trans (List.map_congr_left fun name _ => ?_)
    simp only [Function.comp_apply, unescapeName_escape, String.ofList_toList, id]

end Text

/-- Documents that are the same but for the part that a pointer names, which is `a` in the one and
`b` in the other. -/
inductive SameBut (a b : Json) : Pointer → Json → Json → Prop
  | here : SameBut a b [] a b
  | entry {name : String} {names : Pointer} {v w : Json} {before after : List (String × Json)}
      (first : ∀ e ∈ before, e.1 ≠ name) (h : SameBut a b names v w) :
      SameBut a b (name :: names) (.object (before ++ (name, v) :: after))
        (.object (before ++ (name, w) :: after))
  | item {name : String} {names : Pointer} {v w : Json} {before after : List Json}
      (index : pointerIndex? name = some before.length) (h : SameBut a b names v w) :
      SameBut a b (name :: names) (.array (before ++ v :: after)) (.array (before ++ w :: after))

theorem lookup?_eq_some {entries : List (String × Json)} {name : String} {v : Json} :
    lookup? entries name = some v ↔
      ∃ before after, entries = before ++ (name, v) :: after ∧ ∀ e ∈ before, e.1 ≠ name := by
  unfold lookup?
  simp only [Option.map_eq_some_iff, List.find?_eq_some_iff_append, decide_eq_true_eq,
    Bool.not_eq_true', decide_eq_false_iff_not]
  constructor
  · rintro ⟨⟨_, _⟩, ⟨rfl, before, after, he, hb⟩, rfl⟩
    exact ⟨before, after, he, hb⟩
  · rintro ⟨before, after, he, hb⟩
    exact ⟨(name, v), ⟨rfl, before, after, he, hb⟩, rfl⟩

theorem modifyEntry_append {name : String} {before : List (String × Json)}
    (hb : ∀ e ∈ before, e.1 ≠ name) (f : Json → Json) (v : Json) (after : List (String × Json)) :
    modifyEntry name f (before ++ (name, v) :: after) = before ++ (name, f v) :: after := by
  induction before with
  | nil => exact if_pos rfl
  | cons e es ih =>
    obtain ⟨he, hes⟩ := List.forall_mem_cons.mp hb
    rw [List.cons_append, modifyEntry, if_neg he, ih hes, List.cons_append]

theorem child?_eq_some {v u : Json} {name : String} :
    v.child? name = some u ↔
      (∃ before after, v = .object (before ++ (name, u) :: after) ∧ ∀ e ∈ before, e.1 ≠ name) ∨
        ∃ before after, v = .array (before ++ u :: after) ∧
          pointerIndex? name = some before.length := by
  cases v with
  | object entries => simp [child?, lookup?_eq_some]
  | array items =>
    simp only [child?, Option.bind_eq_some_iff, reduceCtorEq, false_and, exists_false, false_or,
      array.injEq]
    constructor
    · rintro ⟨i, hi, hu⟩
      obtain ⟨hlt, rfl⟩ := List.getElem?_eq_some_iff.mp hu
      refine ⟨items.take i, items.drop (i + 1), ?_, ?_⟩
      · rw [List.cons_getElem_drop_succ, List.take_append_drop]
      · rw [hi, List.length_take_of_le (Nat.le_of_lt hlt)]
    · rintro ⟨before, after, rfl, hi⟩
      refine ⟨before.length, hi, ?_⟩
      rw [List.getElem?_append_right (Nat.le_refl _), Nat.sub_self]
      rfl
  | null => simp [child?]
  | bool b => simp [child?]
  | number n => simp [child?]
  | string s => simp [child?]

theorem sameBut_replaceAt {p : Pointer} {v a : Json} (h : v.at? p = some a) (b : Json) :
    SameBut a b p v (replaceAt b p v) := by
  induction p generalizing v with
  | nil =>
    cases h
    exact .here
  | cons name names ih =>
    obtain ⟨u, hu, hn⟩ := Option.bind_eq_some_iff.mp h
    rcases child?_eq_some.mp hu with ⟨before, after, rfl, hb⟩ | ⟨before, after, rfl, hi⟩
    · rw [replaceAt, modifyChild, modifyEntry_append hb]
      exact .entry hb (ih hn)
    · simp only [replaceAt, modifyChild, hi]
      have hm : (before ++ u :: after).modify before.length (replaceAt b names) =
          before ++ replaceAt b names u :: after :=
        List.modifyTailIdx_add _ 0 before _
      rw [hm]
      exact .item hi (ih hn)

namespace SameBut

variable {a b v w : Json} {p : Pointer}

theorem symm (h : SameBut a b p v w) : SameBut b a p w v := by
  induction h with
  | here => exact .here
  | entry first _ ih => exact .entry first ih
  | item index _ ih => exact .item index ih

theorem at?_eq (h : SameBut a b p v w) : v.at? p = some a := by
  induction h with
  | here => rfl
  | entry first _ ih =>
    rw [at?, child?_eq_some.mpr (.inl ⟨_, _, rfl, first⟩)]
    exact ih
  | item index _ ih =>
    rw [at?, child?_eq_some.mpr (.inr ⟨_, _, rfl, index⟩)]
    exact ih

theorem eq (h : SameBut a a p v w) : v = w := by
  induction h with
  | here => rfl
  | entry _ _ ih => rw [ih]
  | item _ _ ih => rw [ih]

end SameBut

end Collate.Json

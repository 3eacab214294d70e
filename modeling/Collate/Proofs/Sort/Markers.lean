import Collate.Sort.Evaluator
import Mathlib.Logic.ExistsUnique

namespace Collate

namespace Markers

def withoutDot : List Char → List Char
  | '.' :: r => r
  | r => r

def ofUnmarked (inverted : Bool) (cs : List Char) : Markers :=
  if (withoutDot cs).getLast? = some '?' then ⟨inverted, true, (withoutDot cs).dropLast⟩
  else ⟨inverted, false, withoutDot cs⟩

theorem inverted_ofUnmarked (inverted : Bool) (cs : List Char) :
    (ofUnmarked inverted cs).inverted = inverted := by
  unfold ofUnmarked
  split <;> rfl

theorem ofUnmarked_true (cs : List Char) :
    ofUnmarked true cs = { ofUnmarked false cs with inverted := true } := by
  unfold ofUnmarked
  split <;> rfl

theorem ofExpression_unmarked {cs : List Char} (h : cs.head? ≠ some '!' ∧ cs.head? ≠ some '~') :
    ofExpression cs = ofUnmarked false cs := by
  unfold ofExpression
  split
  next hs =>
    split at hs
    · exact absurd rfl h.1
    · exact absurd rfl h.2
    · cases hs
      rfl

theorem ofExpression_mark {mark : Char} (hm : mark = '!' ∨ mark = '~') (cs : List Char) :
    ofExpression (mark :: cs) = ofUnmarked true cs := by
  rcases hm with rfl | rfl <;> rfl

theorem withoutDot_append_question (cs : List Char) :
    withoutDot (cs ++ ['?']) = withoutDot cs ++ ['?'] := by
  unfold withoutDot
  split
  next r hr =>
    cases cs with
    | nil => cases hr
    | cons c cs =>
      cases hr
      rfl
  next hne =>
    split
    · exact absurd rfl (hne _)
    · rfl

theorem ofUnmarked_append_question (inverted : Bool) (cs : List Char) :
    ofUnmarked inverted (cs ++ ['?']) = ⟨inverted, true, withoutDot cs⟩ := by
  rw [ofUnmarked, withoutDot_append_question, List.getLast?_concat, if_pos rfl,
    List.dropLast_concat]

theorem ofUnmarked_of_getLast? {cs : List Char} (h : cs.getLast? ≠ some '?') (inverted : Bool) :
    ofUnmarked inverted cs = ⟨inverted, false, withoutDot cs⟩ := by
  rw [ofUnmarked, if_neg]
  unfold withoutDot
  split
  next r =>
    cases r with
    | nil => nofun
    | cons c r => rwa [List.getLast?_cons_cons] at h
  next => exact h

end Markers

inductive Mark
  | bang
  | tilde
  deriving DecidableEq

def Mark.char : Mark → Char
  | bang => '!'
  | tilde => '~'

theorem Mark.char_inj {m n : Mark} (h : m.char = n.char) : m = n := by
  revert h
  cases m <;> cases n <;> decide

structure PathExpression where
  mark : Option Mark
  dotted : Bool
  core : List Char
  asks : Bool
  deriving DecidableEq

namespace PathExpression

def stem (e : PathExpression) : List Char :=
  (if e.dotted then ['.'] else []) ++ e.core

def behindMark (e : PathExpression) : List Char :=
  e.stem ++ if e.asks then ['?'] else []

def text (e : PathExpression) : String :=
  String.ofList ((e.mark.map Mark.char).toList ++ e.behindMark)

structure Proper (e : PathExpression) : Prop where
  unmarked : e.mark = none → e.behindMark.head? ≠ some '!' ∧ e.behindMark.head? ≠ some '~'
  undotted : e.dotted = false → e.core.head? ≠ some '.'
  unasked : e.asks = false → e.core.getLast? ≠ some '?'

variable {e f : PathExpression}

theorem Proper.withoutDot_stem (h : e.Proper) : Markers.withoutDot e.stem = e.core := by
  unfold stem
  cases hd : e.dotted with
  | true => rfl
  | false =>
    have hc := h.undotted hd
    simp only [Bool.false_eq_true, if_false, List.nil_append]
    unfold Markers.withoutDot
    split
    next r hr =>
      rw [hr] at hc
      exact absurd rfl hc
    next => rfl

theorem Proper.getLast?_stem (h : e.Proper) (ha : e.asks = false) :
    e.stem.getLast? ≠ some '?' := by
  have hc := h.unasked ha
  unfold stem
  rw [List.getLast?_append]
  cases hl : e.core.getLast? with
  | none =>
    cases e.dotted <;> decide
  | some c =>
    rw [hl] at hc
    exact hc

theorem Proper.ofUnmarked_behindMark (h : e.Proper) (inverted : Bool) :
    Markers.ofUnmarked inverted e.behindMark = ⟨inverted, e.asks, e.core⟩ := by
  unfold behindMark
  cases ha : e.asks with
  | true => rw [if_pos rfl, Markers.ofUnmarked_append_question, h.withoutDot_stem]
  | false =>
    rw [if_neg Bool.false_ne_true, List.append_nil,
      Markers.ofUnmarked_of_getLast? (h.getLast?_stem ha), h.withoutDot_stem]

theorem Proper.ofExpression_text (h : e.Proper) :
    Markers.ofExpression e.text.toList = ⟨e.mark.isSome, e.asks, e.core⟩ := by
  rw [text, String.toList_ofList]
  cases hm : e.mark with
  | none =>
    rw [Option.map_none, Option.toList_none, List.nil_append,
      Markers.ofExpression_unmarked (h.unmarked hm), h.ofUnmarked_behindMark]
    rfl
  | some m =>
    have hc : m.char = '!' ∨ m.char = '~' := by cases m <;> decide
    rw [Option.map_some, Option.toList_some, List.singleton_append, Markers.ofExpression_mark hc,
      h.ofUnmarked_behindMark]
    rfl

theorem Proper.eq_of_text_eq (h : e.Proper) (h' : f.Proper) (ht : e.text = f.text) : e = f := by
  have hm := h.ofExpression_text
  rw [ht, h'.ofExpression_text] at hm
  obtain ⟨hs, ha, hc⟩ := Markers.mk.inj hm
  have ht := String.ofList_inj.mp ht
  obtain ⟨hmark, hb⟩ : e.mark = f.mark ∧ e.behindMark = f.behindMark := by
    cases he : e.mark with
    | none =>
      cases hf : f.mark with
      | none => exact ⟨rfl, by simpa [he, hf] using ht⟩
      | some n => rw [he, hf] at hs; cases hs
    | some m =>
      cases hf : f.mark with
      | none => rw [he, hf] at hs; cases hs
      | some n =>
        rw [he, hf] at ht
        obtain ⟨hmn, hb⟩ := List.cons.inj ht
        exact ⟨congrArg some (Mark.char_inj hmn), hb⟩
  unfold behindMark stem at hb
  rw [ha, hc] at hb
  have hd : (if e.dotted then ['.'] else []) = if f.dotted then ['.'] else [] :=
    List.append_cancel_right (List.append_cancel_right hb)
  have hdotted : e.dotted = f.dotted := by
    revert hd
    cases e.dotted <;> cases f.dotted <;> decide
  cases e
  cases f
  simp_all

theorem exists_behindMark {mark : Option Mark} {cs : List Char}
    (h : mark = none → cs.head? ≠ some '!' ∧ cs.head? ≠ some '~') :
    ∃ e : PathExpression, e.mark = mark ∧ e.behindMark = cs ∧ e.Proper := by
  obtain ⟨stem, asks, hcs, hasks⟩ : ∃ (stem : List Char) (asks : Bool),
      cs = stem ++ (if asks then ['?'] else []) ∧ (asks = false → stem.getLast? ≠ some '?') := by
    by_cases hq : cs.getLast? = some '?'
    · obtain ⟨stem, rfl⟩ := List.getLast?_eq_some_iff.mp hq
      exact ⟨stem, true, rfl, nofun⟩
    · exact ⟨cs, false, (List.append_nil cs).symm, fun _ => hq⟩
  obtain ⟨core, dotted, hstem, hdot⟩ : ∃ (core : List Char) (dotted : Bool),
      stem = (if dotted then ['.'] else []) ++ core ∧ (dotted = false → core.head? ≠ some '.') := by
    by_cases hd : stem.head? = some '.'
    · obtain ⟨core, rfl⟩ := List.head?_eq_some_iff.mp hd
      exact ⟨core, true, rfl, nofun⟩
    · exact ⟨stem, false, rfl, fun _ => hd⟩
  let e : PathExpression := ⟨mark, dotted, core, asks⟩
  have hb : e.behindMark = cs := by rw [hcs, hstem]; rfl
  refine ⟨e, rfl, hb, ⟨fun hm => hb ▸ h hm, hdot, fun ha => ?_⟩⟩
  have hl := hasks ha
  rw [hstem, List.getLast?_append] at hl
  intro hc
  rw [hc] at hl
  exact hl rfl

theorem exists_proper (text : String) : ∃ e : PathExpression, e.Proper ∧ e.text = text := by
  have of_behindMark (mark : Option Mark) (cs : List Char)
      (ht : text.toList = (mark.map Mark.char).toList ++ cs)
      (h : mark = none → cs.head? ≠ some '!' ∧ cs.head? ≠ some '~') :
      ∃ e : PathExpression, e.Proper ∧ e.text = text := by
    obtain ⟨e, rfl, rfl, he⟩ := exists_behindMark h
    exact ⟨e, he, by rw [PathExpression.text, ← ht, String.ofList_toList]⟩
  by_cases hb : text.toList.head? = some '!'
  · obtain ⟨cs, hcs⟩ := List.head?_eq_some_iff.mp hb
    exact of_behindMark (some .bang) cs hcs nofun
  · by_cases hw : text.toList.head? = some '~'
    · obtain ⟨cs, hcs⟩ := List.head?_eq_some_iff.mp hw
      exact of_behindMark (some .tilde) cs hcs nofun
    · exact of_behindMark none text.toList rfl fun _ => ⟨hb, hw⟩

theorem Proper.compile_text {α : Type} (h : e.Proper) :
    (Criterion.path e.text : Criterion α).compile =
      ⟨.path (.parse (String.ofList e.core)) e.asks, e.mark.isSome⟩ := by
  simp only [Criterion.compile, h.ofExpression_text]

end PathExpression

theorem markers_decode {α : Type} :
    (∀ e : PathExpression, e.Proper →
      let evaluator : Evaluator α := (Criterion.path e.text).compile
      evaluator.inverted = e.mark.isSome ∧ evaluator.isExistential = e.asks ∧
        evaluator.path? = some (.parse (String.ofList e.core))) ∧
    (∀ text : String, ∃! e : PathExpression, e.Proper ∧ e.text = text) ∧
    ∀ e f : PathExpression, e.Proper → f.Proper → e.core = f.core → e.asks = f.asks →
      e.mark.isSome = f.mark.isSome →
        (Criterion.path e.text : Criterion α).compile = (Criterion.path f.text).compile := by
  refine ⟨fun e he => ?_, fun text => ?_, fun e f he hf hc ha hm => ?_⟩
  · rw [he.compile_text]
    exact ⟨rfl, rfl, rfl⟩
  · obtain ⟨e, he, rfl⟩ := PathExpression.exists_proper text
    exact ⟨e, ⟨he, rfl⟩, fun f hf => hf.1.eq_of_text_eq he hf.2⟩
  · rw [he.compile_text, hf.compile_text, hc, ha, hm]

-- Only the first mark and the last question mark are taken off.
theorem markers_decode_repeated :
    let e : PathExpression := ⟨some .bang, false, ['~', '.', 'a', '?'], true⟩
    let f : PathExpression := ⟨some .tilde, true, ['~', '.', 'a', '?'], true⟩
    e.Proper ∧ f.Proper ∧ e.text = "!~.a??" ∧ f.text = "~.~.a??" ∧
      (Criterion.path "!~.a??" : Criterion Value).compile.path? = some (.parse "~.a?") ∧
      (Criterion.path "!~.a??" : Criterion Value).compile = (Criterion.path "~.~.a??").compile := by
  intro e f
  have he : e.Proper := ⟨nofun, fun _ => by decide, nofun⟩
  have hf : f.Proper := ⟨nofun, nofun, nofun⟩
  have hte : e.text = "!~.a??" := by decide
  have htf : f.text = "~.~.a??" := by decide
  have hp := (markers_decode (α := Value)).1 e he
  have hc := (markers_decode (α := Value)).2.2 e f he hf rfl rfl rfl
  rw [hte] at hp hc
  rw [htf] at hc
  exact ⟨he, hf, hte, htf, hp.2.2, hc⟩

end Collate

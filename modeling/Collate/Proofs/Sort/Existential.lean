import Collate.Proofs.Sort.Markers
import Collate.Proofs.Sort.Stability

namespace Collate

theorem isTotalLe_bool {β : Type} (f : β → Bool) : IsTotalLe fun a b => !f a || f b where
  trans a b c := by cases f a <;> cases f b <;> cases f c <;> decide
  total a b := by cases f a <;> cases f b <;> decide

theorem pairwise_filter_zipIdx {β : Type} (le : β → β → Bool) (g : β → Bool) (l : List β)
    (h : ∀ a b, g a → g b → le a b) :
    (l.zipIdx.filter fun r => g r.1).Pairwise
      (Refined (fun r s => le r.1 s.1) fun r s => r.2 < s.2) := by
  refine ((pairwise_zipIdx l).filter _).imp_of_mem fun {r s} hr hs hlt => ⟨?_, fun _ => hlt⟩
  exact h r.1 s.1 (List.mem_filter.mp hr).2 (List.mem_filter.mp hs).2

theorem mergeSort_bool {β : Type} (f : β → Bool) (l : List β) :
    l.mergeSort (fun a b => !f a || f b) = l.filter (fun a => !f a) ++ l.filter f := by
  let rs := l.zipIdx.filter (fun r => !f r.1) ++ l.zipIdx.filter fun r => f r.1
  have hp : rs.Perm l.zipIdx := by
    have h := List.filter_append_perm (fun r : β × Nat => !f r.1) l.zipIdx
    simpa only [Bool.not_not] using h
  have hrs : rs.Pairwise
      (Refined (fun r s => !f r.1 || f s.1) fun r s => r.2 < s.2) := by
    refine List.pairwise_append.mpr ⟨?_, ?_, fun r hr s hs => ?_⟩
    · apply pairwise_filter_zipIdx (fun a b => !f a || f b) fun a => !f a
      intro a b ha _
      rw [ha, Bool.true_or]
    · apply pairwise_filter_zipIdx (fun a b => !f a || f b) f
      intro a b _ hb
      rw [hb, Bool.or_true]
    · have hr := (List.mem_filter.mp hr).2
      have hs := (List.mem_filter.mp hs).2
      rw [Bool.not_eq_true'] at hr
      refine ⟨by simp [hr], fun h => ?_⟩
      simp [hr, hs] at h
  rw [← (isTotalLe_bool f).eq_mergeSort hp hrs, List.map_append]
  have hf (g : β → Bool) : (l.zipIdx.filter fun r => g r.1).map Prod.fst = l.filter g := by
    rw [← Function.comp_def, ← List.filter_map, List.zipIdx_map_fst]
  rw [hf, hf fun a => !f a]

variable {α : Type}

theorem compile_unmarked {p : String} (hm : p.toList.head? ≠ some '!' ∧ p.toList.head? ≠ some '~')
    (hq : p.toList.getLast? ≠ some '?') :
    (Criterion.path p : Criterion α).compile =
      ⟨.path (.parse (String.ofList (Markers.withoutDot p.toList))) false, false⟩ := by
  simp only [Criterion.compile, Markers.ofExpression_unmarked hm, Markers.ofUnmarked_of_getLast? hq]

theorem compile_question {p : String}
    (hm : p.toList.head? ≠ some '!' ∧ p.toList.head? ≠ some '~') :
    (Criterion.path (p ++ "?") : Criterion α).compile =
      ⟨.path (.parse (String.ofList (Markers.withoutDot p.toList))) true, false⟩ := by
  have ht : (p ++ "?").toList = p.toList ++ ['?'] := by simp
  have hm : (p.toList ++ ['?']).head? ≠ some '!' ∧ (p.toList ++ ['?']).head? ≠ some '~' := by
    cases hp : p.toList with
    | nil => decide
    | cons c cs => rwa [hp] at hm
  simp only [Criterion.compile, ht, Markers.ofExpression_unmarked hm,
    Markers.ofUnmarked_append_question]

theorem compile_mark_question {mark : String} (hm : mark = "!" ∨ mark = "~") (p : String) :
    (Criterion.path (mark ++ p ++ "?") : Criterion α).compile =
      ⟨.path (.parse (String.ofList (Markers.withoutDot p.toList))) true, true⟩ := by
  obtain ⟨c, hc, ht⟩ : ∃ c, (c = '!' ∨ c = '~') ∧
      (mark ++ p ++ "?").toList = c :: (p.toList ++ ['?']) := by
    rcases hm with rfl | rfl
    · exact ⟨'!', .inl rfl, by simp⟩
    · exact ⟨'~', .inr rfl, by simp⟩
  simp only [Criterion.compile, ht, Markers.ofExpression_mark hc,
    Markers.ofUnmarked_append_question]

variable [Inspect α]

theorem Evaluator.extract_existential (p : Path) (inverted : Bool) (a : α) :
    (⟨.path p true, inverted⟩ : Evaluator α).extract a =
      (fun v => .bool v.isPresent) <$> (⟨.path p false, false⟩ : Evaluator α).extract a := by
  simp only [extract, map_eq_pure_bind, bind_assoc, pure_bind]
  rfl

def Evaluator.lacks (e : Evaluator α) (a : α) : Bool :=
  match (e.extract a).outcome with
  | .ok v => v.isMissing
  | .error _ => false

namespace Comparator

open Traced

theorem keys_single (e : Evaluator α) (a : α) :
    (⟨[e]⟩ : Comparator α).keys a = (fun v => [⟨v, e.inverted⟩]) <$> e.extract a := by
  simp only [keys, keysBy, pure_bind, map_eq_pure_bind]

theorem rows_map {c d : Comparator α} {g : Keys → Keys} (h : ∀ a, d.keys a = g <$> c.keys a)
    (items : List α) : d.rows items = List.map g <$> c.rows items := by
  induction items with
  | nil => rfl
  | cons a items ih =>
    simp only [rows, h, ih, map_eq_pure_bind, bind_assoc, pure_bind, List.map_cons]

theorem succeeds_sort {c : Comparator α} {items : Array α} :
    (c.sort items).Succeeds ↔ ∀ a ∈ items, (c.keys a).Succeeds := by
  rw [← not_iff_not, not_succeeds_iff, exists_sort_error]
  simp only [← not_succeeds_iff, not_forall, exists_prop]

theorem keys_existential (p : Path) (inverted : Bool) (a : α) :
    (⟨[⟨.path p true, inverted⟩]⟩ : Comparator α).keys a =
      List.map (fun k => ⟨.bool k.value.isPresent, inverted⟩) <$>
        (⟨[⟨.path p false, false⟩]⟩ : Comparator α).keys a := by
  simp only [keys_single, Evaluator.extract_existential p inverted, Functor.map_map, List.map_cons,
    List.map_nil]

theorem sort_existential_error_iff (p : Path) (inverted : Bool) (items : Array α) (e : SortError) :
    ((⟨[⟨.path p true, inverted⟩]⟩ : Comparator α).sort items).outcome = .error e ↔
      ((⟨[⟨.path p false, false⟩]⟩ : Comparator α).sort items).outcome = .error e := by
  rw [sort_error_iff, sort_error_iff, rows_map (keys_existential p inverted), outcome_map_eq_error]

theorem le_existential {p : Path} {a b : α} {v w : Value}
    (ha : ((⟨.path p false, false⟩ : Evaluator α).extract a).outcome = .ok v)
    (hb : ((⟨.path p false, false⟩ : Evaluator α).extract b).outcome = .ok w) (inverted : Bool) :
    (⟨[⟨.path p true, inverted⟩]⟩ : Comparator α).le a b =
      if inverted then !v.isMissing || w.isMissing else v.isMissing || !w.isMissing := by
  have row {a : α} {v : Value}
      (ha : ((⟨.path p false, false⟩ : Evaluator α).extract a).outcome = .ok v) :
      (⟨[⟨.path p true, inverted⟩]⟩ : Comparator α).row a = [⟨.bool v.isPresent, inverted⟩] := by
    apply row_eq
    rw [keys_single, Evaluator.extract_existential, outcome_map, outcome_map, ha]
    rfl
  rw [le, row ha, row hb]
  unfold Value.isPresent
  cases inverted <;> cases v.isMissing <;> cases w.isMissing <;> rfl

theorem sort_existential_ok {p : Path} {items : Array α}
    (h : ∀ a ∈ items, ((⟨.path p false, false⟩ : Evaluator α).extract a).Succeeds)
    (inverted : Bool) :
    let lacks := (⟨.path p false, false⟩ : Evaluator α).lacks
    ((⟨[⟨.path p true, inverted⟩]⟩ : Comparator α).sort items).outcome =
      .ok (if inverted then items.filter (fun a => !lacks a) ++ items.filter lacks
        else items.filter lacks ++ items.filter fun a => !lacks a) := by
  intro lacks
  have hk (a : α) (ha : a ∈ items) :
      ((⟨[⟨.path p true, inverted⟩]⟩ : Comparator α).keys a).Succeeds := by
    rw [keys_existential, succeeds_map, keys_single, succeeds_map]
    exact h a ha
  have hle (a : α) (ha : a ∈ items.toList) (b : α) (hb : b ∈ items.toList) :
      (⟨[⟨.path p true, inverted⟩]⟩ : Comparator α).le a b =
        if inverted then !lacks a || lacks b else lacks a || !lacks b := by
    obtain ⟨v, hv⟩ := h a (Array.mem_toList_iff.mp ha)
    obtain ⟨w, hw⟩ := h b (Array.mem_toList_iff.mp hb)
    simp only [le_existential hv hw, lacks, Evaluator.lacks, hv, hw]
  have hf (f g : α → Bool) : (items.toList.filter f ++ items.toList.filter g).toArray =
      items.filter f ++ items.filter g := by
    rw [← Array.toList_filter, ← Array.toList_filter, ← Array.toList_append, Array.toArray_toList]
  rw [sort_eq_mergeSort hk, mergeSort_congr hle]
  cases inverted with
  | true =>
    have hm := mergeSort_bool lacks items.toList
    simp only [if_true, hm, hf]
  | false =>
    have hm := mergeSort_bool (fun a => !lacks a) items.toList
    simp only [Bool.not_not] at hm
    simp only [Bool.false_eq_true, if_false, hm, hf]

theorem sort_existential (p : String)
    (hm : p.toList.head? ≠ some '!' ∧ p.toList.head? ≠ some '~')
    (hq : p.toList.getLast? ≠ some '?') (items : Array α) :
    let sorting : String → Traced SortError (Array α) :=
      fun expression => (ofCriteria [.path expression]).sort items
    let lacks : α → Bool := ((Criterion.path p).compile).lacks
    (∀ expression ∈ [p ++ "?", "~" ++ p ++ "?", "!" ++ p ++ "?"], ∀ e,
      (sorting expression).outcome = .error e ↔ (sorting p).outcome = .error e) ∧
    ((sorting p).Succeeds →
      (∀ a ∈ items, ((Criterion.path p).compile.extract a).Succeeds) ∧
      (sorting (p ++ "?")).outcome = .ok (items.filter lacks ++ items.filter fun a => !lacks a) ∧
      ∀ expression ∈ ["~" ++ p ++ "?", "!" ++ p ++ "?"],
        (sorting expression).outcome = .ok (items.filter (fun a => !lacks a) ++ items.filter lacks)) := by
  intro sorting lacks
  have hp := compile_unmarked (α := α) hm hq
  have hpq := compile_question (α := α) hm
  have hwq := compile_mark_question (α := α) (.inr rfl) p
  have hbq := compile_mark_question (α := α) (.inl rfl) p
  simp only [sorting, lacks, ofCriteria, List.map_cons, List.map_nil, List.forall_mem_cons,
    List.not_mem_nil, false_implies, implies_true, and_true, hp, hpq, hwq, hbq]
  refine ⟨⟨sort_existential_error_iff _ _ _, sort_existential_error_iff _ _ _,
    sort_existential_error_iff _ _ _⟩, fun h => ?_⟩
  have hs : ∀ a ∈ items, ((⟨.path (.parse (String.ofList (Markers.withoutDot p.toList))) false,
      false⟩ : Evaluator α).extract a).Succeeds := by
    intro a ha
    have hk := succeeds_sort.mp h a ha
    rwa [keys_single, succeeds_map] at hk
  exact ⟨hs, sort_existential_ok hs false, sort_existential_ok hs true, sort_existential_ok hs true⟩

theorem sort_existential_prop :
    let item (v : Value) : Value := .object [("prop", v)]
    let items := #[item (.bool true), .object [], item (.bool false), item .null]
    ("prop".toList.head? ≠ some '!' ∧ "prop".toList.head? ≠ some '~') ∧
      "prop".toList.getLast? ≠ some '?' ∧
      ((ofCriteria [.path "prop?"]).sort items).outcome =
        .ok #[.object [], item .null, item (.bool true), item (.bool false)] ∧
      ((ofCriteria [.path "!prop?"]).sort items).outcome =
        .ok #[item (.bool true), item (.bool false), .object [], item .null] := by
  intro item items
  have hm : "prop".toList.head? ≠ some '!' ∧ "prop".toList.head? ≠ some '~' := by decide
  have hq : "prop".toList.getLast? ≠ some '?' := by decide
  have hs : ((ofCriteria [.path "prop"] : Comparator Value).sort items).Succeeds := by
    refine succeeds_sort.mpr fun a ha => ?_
    simp only [items, List.mem_toArray, List.mem_cons, List.not_mem_nil, or_false] at ha
    rcases ha with rfl | rfl | rfl | rfl <;> exact ⟨_, rfl⟩
  obtain ⟨-, h, hi⟩ := (sort_existential "prop" hm hq items).2 hs
  exact ⟨hm, hq, h, hi _ (.tail _ (.head _))⟩

end Comparator

end Collate

import Collate.Json.Inspect
import Collate.Proofs.Sort.Extraction
import Collate.Proofs.Sort.Sorting
import Collate.Proofs.Value.Index

namespace Collate

namespace Json

theorem toValues_eq_map (vs : List Json) : toValues vs = vs.map toValue := by
  induction vs with
  | nil => rfl
  | cons v vs ih => rw [toValues, ih, List.map_cons]

theorem find?_toEntries (entries : List (String × Json)) (name : String) :
    Value.find? (toEntries entries) name = (lookup? entries name).map toValue := by
  induction entries with
  | nil => rfl
  | cons e es ih =>
    obtain ⟨key, v⟩ := e
    unfold Value.find? lookup? at ih ⊢
    rw [toEntries, toEntry, List.find?_cons, List.find?_cons]
    by_cases hk : key = name
    · simp [hk]
    · simp only [hk, decide_false, ih]

end Json

def Criteria.plain {α : Type} (cs : List (Binary64 ⊕ String)) : Criteria α :=
  cs.map (Sum.elim .signed .path)

namespace Inspect

theorem listMember_eq_arrayMember {α : Type} (view : α → Value) (xs : List α) (name : String) :
    listMember view xs name = Value.arrayMember (xs.map view) name := by
  unfold listMember Value.arrayMember
  rw [List.length_map, listIndex?_eq]
  split
  next => rfl
  next =>
    cases memberIndex? name with
    | none => rfl
    | some i => exact congrArg (Option.getD · Value.absent) List.getElem?_map.symm

/-- The items that can be looked into without code of their own: scalars, strings, documents and
values, and what is built of them with options, lists and pointers. -/
inductive Standard : (α : Type) → [Inspect α] → Prop
  | value : Standard Value
  | bool : Standard Bool
  | char : Standard Char
  | string : Standard String
  | int : Standard Int
  | binary64 : Standard Binary64
  | single : Standard Single
  | json : Standard Json
  | option {α : Type} [Inspect α] (h : Standard α) : Standard (Option α)
  | list {α : Type} [Inspect α] (h : Standard α) : Standard (List α)
  | boxed {α : Type} [Inspect α] (h : Standard α) : Standard (Boxed α)

end Inspect

theorem Json.member_eq (v : Json) (name : String) : v.member name = v.toValue.member name := by
  cases v with
  | array items =>
    rw [Json.member, Json.toValue, toValues_eq_map, Value.member,
      Inspect.listMember_eq_arrayMember]
  | object entries => rw [Json.member, Json.toValue, Value.member, find?_toEntries]
  | _ => rfl

theorem Json.invoke_eq (v : Json) (name : String) (args : List Literal) :
    v.invoke name args = v.toValue.invoke name args := by
  cases v with
  | object entries =>
    rw [Json.invoke, Json.toValue, Value.invoke, find?_toEntries]
    cases lookup? entries name with
    | none => rfl
    | some w => cases w <;> rfl
  | _ => rfl

namespace Inspect.Standard

variable {α : Type} [Inspect α]

theorem member_eq (h : Standard α) (x : α) (name : String) :
    member x name = (view x).member name := by
  induction h with
  | json => exact Json.member_eq x name
  | option _ ih =>
    cases x with
    | none => rfl
    | some x => exact ih x
  | list _ _ => exact congrArg Except.ok (listMember_eq_arrayMember view x name)
  | boxed _ ih => exact ih x.content
  | _ => rfl

theorem invoke_eq (h : Standard α) (x : α) (name : String) (args : List Literal) :
    invoke x name args = (view x).invoke name args := by
  induction h with
  | json => exact Json.invoke_eq x name args
  | option _ ih =>
    cases x with
    | none => rfl
    | some x => exact ih x
  | boxed _ ih => exact ih x.content
  | _ => rfl

theorem apply_eq (h : Standard α) (x : α) (step : Step) : step.apply x = step.apply (view x) := by
  cases step with
  | member name => simp only [Step.apply, h.member_eq]; rfl
  | invoke name args => simp only [Step.apply, h.invoke_eq]; rfl
  | invalid fault => rfl

theorem evaluate_eq (h : Standard α) (x : α) (p : Path) : p.evaluate x = p.evaluate (view x) := by
  unfold Path.evaluate
  split
  next => rfl
  next => rw [h.apply_eq]

theorem keys_eq (h : Standard α) (cs : List (Binary64 ⊕ String)) (x : α) :
    (Comparator.ofCriteria (Criteria.plain cs)).keys x =
      (Comparator.ofCriteria (Criteria.plain cs)).keys (view x) := by
  unfold Comparator.keys Comparator.ofCriteria Criteria.plain
  induction cs with
  | nil => rfl
  | cons c cs ih =>
    simp only [List.map_cons, Comparator.keysBy, ih]
    cases c with
    | inl direction => rfl
    | inr expression => simp only [Sum.elim_inr, Criterion.compile, Evaluator.extract, h.evaluate_eq]

theorem rows_eq (h : Standard α) (cs : List (Binary64 ⊕ String)) (items : List α) :
    (Comparator.ofCriteria (Criteria.plain cs)).rows items =
      (Comparator.ofCriteria (Criteria.plain cs)).rows (items.map view) := by
  induction items with
  | nil => rfl
  | cons x items ih => rw [List.map_cons, Comparator.rows, Comparator.rows, ih, h.keys_eq]

theorem seen_as_view (h : Standard α) :
    (∀ (x : α) (name : String), member x name = (view x).member name) ∧
      (∀ (x : α) (name : String) (args : List Literal),
        invoke x name args = (view x).invoke name args) ∧
      (∀ (x : α) (p : Path), p.evaluate x = p.evaluate (view x)) ∧
      ∀ (cs : List (Binary64 ⊕ String)) (items : Array α),
        let c : Comparator α := .ofCriteria (.plain cs)
        let d : Comparator Value := .ofCriteria (.plain cs)
        (c.sort items).calls = (d.sort (items.map view)).calls ∧
          ((∃ e, (c.sort items).outcome = .error e ∧
              (d.sort (items.map view)).outcome = .error e) ∨
            ∃ order, IsShuffle order items.size ∧
              (c.sort items).outcome = .ok (applyPermutation order items) ∧
              (d.sort (items.map view)).outcome =
                .ok (applyPermutation order (items.map view))) := by
  refine ⟨h.member_eq, h.invoke_eq, h.evaluate_eq, fun cs items => ?_⟩
  intro c d
  have hr : c.rows items.toList = d.rows (items.map view).toList := by
    rw [Array.toList_map]
    exact h.rows_eq cs items.toList
  refine ⟨by rw [Comparator.calls_sort, Comparator.calls_sort, hr], ?_⟩
  cases ho : (c.rows items.toList).outcome with
  | error e =>
    exact .inl ⟨e, Comparator.sort_error_iff.mpr ho, Comparator.sort_error_iff.mpr (hr ▸ ho)⟩
  | ok rows =>
    have hn : rows.length = items.size := (Comparator.rows_ok.mp ho).length_eq.symm
    refine .inr ⟨(Comparator.orderOf rows).toArray, ?_, Comparator.sort_ok ho,
      Comparator.sort_ok (hr ▸ ho)⟩
    exact hn ▸ Comparator.isShuffle_orderOf rows

theorem seen_as_view_boxed :
    Standard (Boxed (List (Option Json))) ∧
      let x : Boxed (List (Option Json)) := ⟨[none, some (.object [("a", .string "xy")])]⟩
      (∀ name, member x name = (view x).member name) ∧
        (Path.parse "1.a.length").evaluate x = (Path.parse "1.a.length").evaluate (view x) ∧
          ((Path.parse "1.a.length").evaluate x).outcome = .ok (.number (.ofNat 2)) := by
  have h : Standard (Boxed (List (Option Json))) := .boxed (.list (.option .json))
  refine ⟨h, ?_⟩
  intro x
  exact ⟨h.seen_as_view.1 x, h.seen_as_view.2.2.1 x _, rfl⟩

end Inspect.Standard

end Collate

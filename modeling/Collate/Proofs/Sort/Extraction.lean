import Collate.Proofs.Sort.Comparator
import Mathlib.Data.List.ProdSigma

namespace Collate

namespace Slice

variable {α β γ : Type}

theorem run_ask (x : Traced SortError β) (s : Slice α) :
    (ask x).run.run s = (x.outcome, ⟨s.items, s.calls ++ x.calls⟩) := by
  unfold ask
  cases x.outcome <;> rfl

theorem run_bind (p : Program α β) (f : β → Program α γ) (s : Slice α) :
    (p >>= f).run.run s = match p.run.run s with
      | (.ok b, left) => (f b).run.run left
      | (.error e, left) => (.error e, left) := by
  change ExceptT.bindCont f (p.run.run s).1 (p.run.run s).2 = _
  rcases p.run.run s with ⟨b | e, left⟩ <;> rfl

theorem run_ask_bind_ok {x : Traced SortError β} {b : β} (h : x.outcome = .ok b)
    (f : β → Program α γ) (s : Slice α) :
    (ask x >>= f).run.run s = (f b).run.run ⟨s.items, s.calls ++ x.calls⟩ := by
  rw [run_bind, run_ask, h]

theorem run_ask_bind_error {x : Traced SortError β} {e : SortError} (h : x.outcome = .error e)
    (f : β → Program α γ) (s : Slice α) :
    (ask x >>= f).run.run s = (.error e, ⟨s.items, s.calls ++ x.calls⟩) := by
  rw [run_bind, run_ask, h]

theorem ask_pure (b : β) : (ask (pure b) : Program α β) = pure b := by
  refine ExceptT.ext (StateT.ext fun s => ?_)
  rw [run_ask, Traced.pure_eq, List.append_nil]
  rfl

theorem ask_bind (x : Traced SortError β) (f : β → Traced SortError γ) :
    (ask (x >>= f) : Program α γ) = ask x >>= fun b => ask (f b) := by
  refine ExceptT.ext (StateT.ext fun s => ?_)
  cases hx : x.outcome with
  | ok b => rw [run_ask_bind_ok hx, run_ask, run_ask, Traced.bind_ok hx, List.append_assoc]
  | error e => rw [run_ask_bind_error hx, run_ask, Traced.bind_error hx]

theorem mapM_ask (f : β → Traced SortError γ) (bs : List β) :
    (bs.mapM fun b => ask (f b) : Program α (List γ)) = ask (bs.mapM f) := by
  induction bs with
  | nil => rw [List.mapM_nil, List.mapM_nil, ask_pure]
  | cons b bs ih => simp only [List.mapM_cons, ih, ask_bind, ask_pure]

end Slice

namespace Comparator

open Traced

variable {α : Type} [Inspect α]

theorem keysBy_eq_mapM (a : α) (es : List (Evaluator α)) :
    keysBy a es = es.mapM fun e => (⟨·, e.inverted⟩) <$> e.extract a := by
  induction es with
  | nil => rfl
  | cons e es ih => rw [keysBy, List.mapM_cons, ih, bind_map_left]

theorem rows_eq_mapM (c : Comparator α) (items : List α) : c.rows items = items.mapM c.keys := by
  induction items with
  | nil => rfl
  | cons a items ih => rw [rows, List.mapM_cons, ih]

theorem calls_keys (c : Comparator α) (a : α) :
    (c.keys a).calls =
      (upToFailure (fun e => e.extract a) c.evaluators).flatMap fun e => (e.extract a).calls := by
  rw [keys, keysBy_eq_mapM, calls_mapM]
  simp only [calls_map]
  rw [upToFailure_congr fun e _ => succeeds_map]

theorem succeeds_keys {c : Comparator α} {a : α} :
    (c.keys a).Succeeds ↔ ∀ e ∈ c.evaluators, (e.extract a).Succeeds := by
  rw [keys, keysBy_eq_mapM, succeeds_mapM]
  simp only [succeeds_map]

theorem keys_error_iff {c : Comparator α} {a : α} {x : SortError} :
    (c.keys a).outcome = .error x ↔ ∃ e,
      IsFirstFailing (fun e : Evaluator α => e.extract a) c.evaluators e ∧ (e.extract a).outcome = .error x := by
  rw [keys, keysBy_eq_mapM, outcome_mapM_eq_error]
  simp only [IsFirstFailing, succeeds_map, outcome_map_eq_error]

def extraction (q : α × Evaluator α) : Traced SortError Value :=
  q.2.extract q.1

theorem calls_rows (c : Comparator α) (items : List α) :
    (c.rows items).calls =
      (upToFailure extraction (items ×ˢ c.evaluators)).flatMap fun q => (extraction q).calls := by
  rw [rows_eq_mapM, calls_mapM]
  induction items with
  | nil => rfl
  | cons a items ih =>
    have hs : (∀ q ∈ c.evaluators.map (Prod.mk a), (extraction q).Succeeds) ↔
        (c.keys a).Succeeds := by
      rw [succeeds_keys, List.forall_mem_map]
      rfl
    have hc : (c.keys a).calls = (upToFailure extraction (c.evaluators.map (Prod.mk a))).flatMap
        fun q => (extraction q).calls := by
      rw [calls_keys, upToFailure_map, List.flatMap_map]
      rfl
    rw [List.product_cons, upToFailure_append, upToFailure]
    by_cases hk : (c.keys a).Succeeds
    · rw [if_pos hk, if_pos (hs.mpr hk), List.flatMap_cons, List.flatMap_append, ih, hc,
        upToFailure_of_succeeds (hs.mpr hk)]
    · rw [if_neg hk, if_neg fun h => hk (hs.mp h), List.flatMap_cons, List.flatMap_nil,
        List.append_nil, hc]

theorem calls_sort (c : Comparator α) (items : Array α) :
    (c.sort items).calls = (c.rows items.toList).calls := by
  rw [sort, ← map_eq_pure_bind, calls_map]

theorem sort_error_iff {c : Comparator α} {items : Array α} {x : SortError} :
    (c.sort items).outcome = .error x ↔ (c.rows items.toList).outcome = .error x := by
  rw [sort, outcome_bind_eq_error]
  simp only [outcome_pure, reduceCtorEq, and_false, exists_false, or_false]

theorem run_sortInPlace (c : Comparator α) (s : Slice α) :
    c.sortInPlace.run.run s = match (c.sort s.items).outcome with
      | .ok sorted => (.ok (), ⟨sorted, s.calls ++ (c.sort s.items).calls⟩)
      | .error e => (.error e, ⟨s.items, s.calls ++ (c.sort s.items).calls⟩) := by
  have hask : c.sortInPlace.run.run s = (Slice.ask (c.rows s.items.toList) >>= fun rows =>
      (do unless isSortedBy Keys.le rows do
            modify fun s => { s with items := applyPermutation (orderOf rows).toArray s.items } :
        Slice.Program α Unit)).run.run s := by
    rw [rows_eq_mapM, ← Slice.mapM_ask]
    rfl
  rw [hask, calls_sort, sort]
  cases hr : (c.rows s.items.toList).outcome with
  | error e => rw [Slice.run_ask_bind_error hr, bind_error hr]
  | ok rows =>
    rw [Slice.run_ask_bind_ok hr, bind_ok hr, pure_eq, arrange]
    cases isSortedBy Keys.le rows <;> rfl

theorem of_run_sortInPlace {c : Comparator α} {s left : Slice α} {outcome : Except SortError Unit}
    (h : c.sortInPlace.run.run s = (outcome, left)) :
    left.calls = s.calls ++ (c.rows s.items.toList).calls ∧
      (∀ x, outcome = .error x ↔ (c.rows s.items.toList).outcome = .error x) ∧
      ∀ x, outcome = .error x → left.items = s.items := by
  rw [run_sortInPlace, calls_sort] at h
  simp only [← sort_error_iff]
  cases ho : (c.sort s.items).outcome with
  | ok sorted =>
    rw [ho] at h
    cases h
    exact ⟨rfl, fun x => ⟨nofun, nofun⟩, nofun⟩
  | error e =>
    rw [ho] at h
    cases h
    exact ⟨rfl, fun x => by simp only [Except.error.injEq], fun _ _ => rfl⟩

theorem sort_extracts_once (c : Comparator α) (s : Slice α) :
    let (outcome, left) := c.sortInPlace.run.run s
    left.calls = s.calls ++ (upToFailure extraction (s.items.toList ×ˢ c.evaluators)).flatMap
        (fun q => (extraction q).calls) ∧
      ((∃ x, outcome = .error x) ↔ ∃ a ∈ s.items, ∃ x, (c.keys a).outcome = .error x) ∧
      (∀ x, outcome = .error x ↔ ∃ a e,
        IsFirstFailing c.keys s.items.toList a ∧
          IsFirstFailing (fun e => e.extract a) c.evaluators e ∧
            (e.extract a).outcome = .error x) ∧
      ∀ x, outcome = .error x → left.items = s.items := by
  rcases h : c.sortInPlace.run.run s with ⟨outcome, left⟩
  obtain ⟨hc, he, hi⟩ := of_run_sortInPlace h
  refine ⟨?_, ?_, fun x => ?_, hi⟩
  · rw [hc, calls_rows]
  · simp only [he, rows_eq_mapM, ← not_succeeds_iff, succeeds_mapM]
    simp
  · rw [he, rows_eq_mapM, outcome_mapM_eq_error]
    simp only [keys_error_iff, exists_and_left]

-- The second criterion fails on the first item, so that the other item is not asked.
example :
    let item : Value := .object [("f", .method fun _ => .called "f" (.ok .null)),
      ("g", .method fun _ => .called "g" (.error (.invocation "g" "no")))]
    ((ofCriteria [.path "f()", .path "g()", .path "f()"]).sort #[item, item]).calls =
      ["f", "g"] := by
  cbv

end Comparator

end Collate

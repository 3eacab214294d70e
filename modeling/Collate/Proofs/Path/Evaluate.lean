import Collate.Path.Evaluate
import Collate.Proofs.Path.Grammar
import Collate.Proofs.Traced

namespace Collate

namespace Path

theorem walk_append (v : Value) (steps : List Step) (step : Step) (rest : List Step) :
    walk v (steps ++ step :: rest) = walk v steps >>= fun w =>
      if w.isMissing then pure .absent else step.apply w >>= fun u => walk u rest := by
  induction steps generalizing v with
  | nil =>
    rw [List.nil_append, walk, walk, pure_bind]
    cases hv : v.isMissing with
    | true => rfl
    | false => rw [if_neg Bool.false_ne_true, if_neg Bool.false_ne_true, hv]; rfl
  | cons s steps ih =>
    rw [List.cons_append, walk, walk]
    cases hv : v.isMissing with
    | true => rfl
    | false =>
      simp only [Bool.false_eq_true, if_false, bind_assoc]
      congr 1
      funext u
      exact ih u

theorem evaluate_append {α : Type} [Inspect α] {p q r : Path} (hp : p.steps ≠ [])
    (hq : q.steps ≠ []) (hr : r.steps = p.steps ++ q.steps) (item : α) :
    r.evaluate item = p.evaluate item >>= fun v =>
      if v.isMissing then pure .absent else q.evaluate v := by
  obtain ⟨s, steps, hp⟩ := List.exists_cons_of_ne_nil hp
  obtain ⟨s', rest, hq⟩ := List.exists_cons_of_ne_nil hq
  have hpq : r.steps = s :: (steps ++ s' :: rest) := by rw [hr, hp, hq, List.cons_append]
  simp only [evaluate, hpq, hp, hq, bind_assoc]
  congr 1
  funext v
  exact walk_append v steps s' rest

theorem walk_ne_null (v : Value) (steps : List Step) : (walk v steps).outcome ≠ .ok .null := by
  induction steps generalizing v with
  | nil => cases v <;> nofun
  | cons s steps ih =>
    rw [walk]
    split
    next => nofun
    next =>
      intro h
      obtain ⟨u, -, hu⟩ := Traced.outcome_bind_eq_ok.mp h
      exact ih u hu

theorem evaluate_ne_null {α : Type} [Inspect α] {p : Path} (hp : p.steps ≠ []) (item : α) :
    (p.evaluate item).outcome ≠ .ok .null := by
  obtain ⟨s, steps, hp⟩ := List.exists_cons_of_ne_nil hp
  simp only [evaluate, hp]
  intro h
  obtain ⟨v, -, hv⟩ := Traced.outcome_bind_eq_ok.mp h
  exact walk_ne_null v steps hv

theorem steps_ne_nil {text : String} (h : text ≠ "") : (parse text).steps ≠ [] := by
  rw [steps_eq_map h]
  exact fun hm => splitFrom_ne_nil _ _ (List.map_eq_nil_iff.mp hm)

end Path

theorem Decomposes.steps_append {segs : List Segment} {p q : String} (h : Decomposes segs p)
    (hq : q ≠ "") :
    (Path.parse (p ++ "." ++ q)).steps = (Path.parse p).steps ++ (Path.parse q).steps := by
  have hpq : (p ++ "." ++ q).toList = p.toList ++ '.' :: q.toList := by simp
  have hne : p ++ "." ++ q ≠ "" := by
    intro hn
    rw [hn] at hpq
    exact absurd hpq.symm (List.append_ne_nil_of_right_ne_nil _ (List.cons_ne_nil _ _))
  have hs : splitFrom .start (p.toList ++ '.' :: q.toList) =
      splitFrom .start p.toList ++ splitFrom .start q.toList := by
    rw [h.splitFrom_eq, h.2.2]
    exact splitFrom_intercalate_dot h.map_text_ne_nil h.forall_reads rfl q.toList
  rw [Path.steps_eq_map hne, Path.steps_eq_map h.ne_empty, Path.steps_eq_map hq, hpq, hs,
    List.map_append]

theorem Path.evaluate_parse_append {α : Type} [Inspect α] (item : α) {p q : String} (hp : p ≠ "")
    (hv : (parse p).hasInvalid = false) (hq : q ≠ "") :
    (parse (p ++ "." ++ q)).steps = (parse p).steps ++ (parse q).steps ∧
      ((parse (p ++ "." ++ q)).evaluate item = (parse p).evaluate item >>= fun v =>
        if v.isMissing then pure .absent else (parse q).evaluate v) ∧
      ∀ r : String, r ≠ "" → ((parse r).evaluate item).outcome ≠ .ok .null := by
  obtain ⟨segs, h⟩ := exists_decomposes hp hv
  have hs := h.steps_append hq
  exact ⟨hs, evaluate_append (steps_ne_nil hp) (steps_ne_nil hq) hs item,
    fun r hr => evaluate_ne_null (steps_ne_nil hr) item⟩

theorem Path.evaluate_parse_append_absent :
    ("name.last" ≠ "" ∧ (parse "name.last").hasInvalid = false ∧ "f(" ≠ "") ∧
      (parse "f(").hasInvalid = true ∧
        ((parse ("name.last" ++ "." ++ "f(")).evaluate
          (Value.object [("name", .null)])).outcome = .ok .absent := by
  have hp : "name.last" ≠ "" := by decide
  have hv : (parse "name.last").hasInvalid = false := by decide
  have hq : "f(" ≠ "" := by decide
  have ho : ((parse "name.last").evaluate (Value.object [("name", .null)])).outcome =
      .ok .absent := by rfl
  refine ⟨⟨hp, hv, hq⟩, by decide, ?_⟩
  rw [(evaluate_parse_append _ hp hv hq).2.1, Traced.bind_ok ho]
  rfl

end Collate

import Collate.Proofs.Sort.Key
import Collate.Proofs.Traced
import Collate.Sort.Comparator

namespace Collate.Comparator

variable {α : Type} [Inspect α]

theorem keysBy_cons_ok {a : α} {e : Evaluator α} {es : List (Evaluator α)} {ks : Keys} :
    (keysBy a (e :: es)).outcome = .ok ks ↔ ∃ v ls, (e.extract a).outcome = .ok v ∧
      (keysBy a es).outcome = .ok ls ∧ ks = ⟨v, e.inverted⟩ :: ls := by
  simp only [keysBy, Traced.outcome_bind_eq_ok, Traced.outcome_pure, Except.ok.injEq]
  constructor
  · rintro ⟨v, hv, ls, hls, rfl⟩
    exact ⟨v, ls, hv, hls, rfl⟩
  · rintro ⟨v, ls, hv, hls, rfl⟩
    exact ⟨v, hv, ls, hls, rfl⟩

theorem keysBy_cons_error {a : α} {e : Evaluator α} {es : List (Evaluator α)} {x : SortError} :
    (keysBy a (e :: es)).outcome = .error x ↔ (e.extract a).outcome = .error x ∨
      ∃ v, (e.extract a).outcome = .ok v ∧ (keysBy a es).outcome = .error x := by
  simp only [keysBy, Traced.outcome_bind_eq_error, Traced.outcome_pure, reduceCtorEq, and_false,
    exists_false, or_false]

theorem compareBy_cons (a b : α) (e : Evaluator α) (es : List (Evaluator α)) :
    compareBy a b (e :: es) = e.extract a >>= fun v => e.extract b >>= fun w =>
      if compareDirected v w e.inverted = .eq then compareBy a b es
      else pure (compareDirected v w e.inverted) := by
  rw [compareBy]
  congr 1
  funext v
  congr 1
  funext w
  cases compareDirected v w e.inverted <;> rfl

theorem compareBy_cons_ok {a b : α} {e : Evaluator α} {es : List (Evaluator α)} {o : Ordering} :
    (compareBy a b (e :: es)).outcome = .ok o ↔ ∃ v w p, (e.extract a).outcome = .ok v ∧
      (e.extract b).outcome = .ok w ∧
        (compareDirected v w e.inverted = .eq → (compareBy a b es).outcome = .ok p) ∧
          o = (compareDirected v w e.inverted).then p := by
  simp only [compareBy_cons, Traced.outcome_bind_eq_ok]
  constructor
  · rintro ⟨v, hv, w, hw, h⟩
    refine ⟨v, w, o, hv, hw, ?_⟩
    by_cases hd : compareDirected v w e.inverted = .eq
    · rw [if_pos hd] at h
      rw [hd]
      exact ⟨fun _ => h, rfl⟩
    · rw [if_neg hd] at h
      cases h
      -- The criterion has decided, so that any `p` would do.
      exact ⟨fun he => absurd he hd, Ordering.then_self.symm⟩
  · rintro ⟨v, w, p, hv, hw, h, rfl⟩
    refine ⟨v, hv, w, hw, ?_⟩
    by_cases hd : compareDirected v w e.inverted = .eq
    · rw [if_pos hd, h hd, hd, Ordering.eq_then]
    · rw [if_neg hd, Traced.outcome_pure]
      cases ho : compareDirected v w e.inverted with
      | eq => exact absurd ho hd
      | lt => rfl
      | gt => rfl

theorem compareBy_cons_error {a b : α} {e : Evaluator α} {es : List (Evaluator α)}
    {x : SortError} (h : (compareBy a b (e :: es)).outcome = .error x) :
    (e.extract a).outcome = .error x ∨ ∃ v, (e.extract a).outcome = .ok v ∧
      ((e.extract b).outcome = .error x ∨ ∃ w, (e.extract b).outcome = .ok w ∧
        (compareBy a b es).outcome = .error x) := by
  simp only [compareBy_cons, Traced.outcome_bind_eq_error] at h
  rcases h with h | ⟨v, hv, h | ⟨w, hw, h⟩⟩
  · exact .inl h
  · exact .inr ⟨v, hv, .inl h⟩
  · refine .inr ⟨v, hv, .inr ⟨w, hw, ?_⟩⟩
    by_cases hd : compareDirected v w e.inverted = .eq
    · rwa [if_pos hd] at h
    · rw [if_neg hd] at h
      cases h

theorem keysBy_directed {a : α} {es : List (Evaluator α)} {ks : Keys}
    (h : (keysBy a es).outcome = .ok ks) : Keys.Directed (es.map Evaluator.inverted) ks := by
  induction es generalizing ks with
  | nil => cases h; rfl
  | cons e es ih =>
    obtain ⟨v, ls, _, hls, rfl⟩ := keysBy_cons_ok.mp h
    simp only [Keys.Directed, List.map_cons]
    rw [ih hls]

theorem compareBy_of_keysBy {a b : α} {es : List (Evaluator α)} {ks ls : Keys}
    (ha : (keysBy a es).outcome = .ok ks) (hb : (keysBy b es).outcome = .ok ls) :
    (compareBy a b es).outcome = .ok (Keys.compare ks ls) := by
  induction es generalizing ks ls with
  | nil => cases ha; cases hb; rfl
  | cons e es ih =>
    obtain ⟨v, ks, hv, hks, rfl⟩ := keysBy_cons_ok.mp ha
    obtain ⟨w, ls, hw, hls, rfl⟩ := keysBy_cons_ok.mp hb
    exact compareBy_cons_ok.mpr ⟨v, w, Keys.compare ks ls, hv, hw, fun _ => ih hks hls, rfl⟩

theorem keysBy_error_of_compareBy {a b : α} {es : List (Evaluator α)} {x : SortError}
    (h : (compareBy a b es).outcome = .error x) :
    (keysBy a es).outcome = .error x ∨ (keysBy b es).outcome = .error x := by
  induction es with
  | nil => cases h
  | cons e es ih =>
    simp only [keysBy_cons_error]
    rcases compareBy_cons_error h with h | ⟨v, hv, h | ⟨w, hw, h⟩⟩
    · exact .inl (.inl h)
    · exact .inr (.inl h)
    · rcases ih h with h | h
      · exact .inl (.inr ⟨v, hv, h⟩)
      · exact .inr (.inr ⟨w, hw, h⟩)

theorem compare_refines_keys (c : Comparator α) (a b : α) :
    (∀ ks ls, (c.keys a).outcome = .ok ks → (c.keys b).outcome = .ok ls →
      (c.compare a b).outcome = .ok (Keys.compare ks ls) ∧
        ((ks == ls) = true ↔ (c.compare a b).outcome = .ok .eq) ∧
        Keys.compare? ks ls = some (Keys.compare ks ls) ∧
        Keys.equal? ks ls = some (ks == ls)) ∧
      ∀ x, (c.compare a b).outcome = .error x →
        (c.keys a).outcome = .error x ∨ (c.keys b).outcome = .error x := by
  refine ⟨fun ks ls ha hb => ?_, fun x h => keysBy_error_of_compareBy h⟩
  have hc : (c.compare a b).outcome = .ok (Keys.compare ks ls) := compareBy_of_keysBy ha hb
  have hl := (keysBy_directed ha).aligned (keysBy_directed hb)
  refine ⟨hc, ?_, Keys.compare?_of_aligned hl, Keys.equal?_of_aligned hl⟩
  rw [hc, Except.ok.injEq]
  exact Keys.beq_iff ks ls

theorem compareBy_swap {a b : α} {es : List (Evaluator α)} {o : Ordering}
    (h : (compareBy a b es).outcome = .ok o) : (compareBy b a es).outcome = .ok o.swap := by
  induction es generalizing o with
  | nil => cases h; rfl
  | cons e es ih =>
    obtain ⟨v, w, p, hv, hw, hp, rfl⟩ := compareBy_cons_ok.mp h
    have hs := (isTotalPreorder_compareDirected e.inverted).swap v w
    refine compareBy_cons_ok.mpr ⟨w, v, p.swap, hw, hv, ?_, ?_⟩
    · intro he
      rw [hs, Ordering.swap_eq_eq] at he
      exact ih (hp he)
    · rw [hs, Ordering.swap_then]

theorem compareBy_self {a : α} {es : List (Evaluator α)} {o : Ordering}
    (h : (compareBy a a es).outcome = .ok o) :
    o = .eq ∧ ∃ ks, (keysBy a es).outcome = .ok ks := by
  induction es generalizing o with
  | nil => cases h; exact ⟨rfl, [], rfl⟩
  | cons e es ih =>
    obtain ⟨v, w, p, hv, hw, hp, rfl⟩ := compareBy_cons_ok.mp h
    cases hv.symm.trans hw
    have hr := (isTotalPreorder_compareDirected e.inverted).refl v
    obtain ⟨rfl, ks, hks⟩ := ih (hp hr)
    refine ⟨?_, _, keysBy_cons_ok.mpr ⟨v, ks, hv, hks, rfl⟩⟩
    rw [hr, Ordering.eq_then]

theorem compareBy_chained {a b d : α} {es : List (Evaluator α)} {o o' : Ordering}
    (hab : (compareBy a b es).outcome = .ok o) (hbd : (compareBy b d es).outcome = .ok o')
    (ho : o.isLE) (ho' : o'.isLE) : (compareBy a d es).outcome = .ok (o.then o') := by
  induction es generalizing o o' with
  | nil => cases hab; cases hbd; rfl
  | cons e es ih =>
    obtain ⟨v, w, p, hv, hw, hp, rfl⟩ := compareBy_cons_ok.mp hab
    obtain ⟨w', u, p', hw', hu, hp', rfl⟩ := compareBy_cons_ok.mp hbd
    cases hw.symm.trans hw'
    have hc := compareDirected_chained v w u e.inverted
    have hvu := hc (Ordering.isLE_left_of_isLE_then ho) (Ordering.isLE_left_of_isLE_then ho')
    refine compareBy_cons_ok.mpr ⟨v, u, p.then p', hv, hu, ?_, ?_⟩
    -- The outer pair ties only where both inner ones do, so it asks for no key that they did not.
    · intro he
      rw [hvu, Ordering.then_eq_eq] at he
      rw [he.1, Ordering.eq_then] at ho
      rw [he.2, Ordering.eq_then] at ho'
      exact ih (hp he.1) (hp' he.2) ho ho'
    · exact (hc.then fun _ _ _ _ => rfl) ho ho' |>.symm

theorem compare_preorder_where_answered (c : Comparator α) (a b d : α) :
    (∀ o, (c.compare a b).outcome = .ok o ↔ (c.compare b a).outcome = .ok o.swap) ∧
      ((∃ o, (c.compare a a).outcome = .ok o) ↔ ∃ ks, (c.keys a).outcome = .ok ks) ∧
      (∀ o, (c.compare a a).outcome = .ok o → o = .eq) ∧
      ∀ o o', (c.compare a b).outcome = .ok o → (c.compare b d).outcome = .ok o' →
        o.isLE → o'.isLE → ∃ o'', (c.compare a d).outcome = .ok o'' ∧ o''.isLE ∧
          (o = .lt ∨ o' = .lt → o'' = .lt) := by
  refine ⟨fun o => ⟨compareBy_swap, fun h => ?_⟩, ⟨?_, ?_⟩, fun o h => (compareBy_self h).1, ?_⟩
  · have hs := compareBy_swap h
    rwa [Ordering.swap_swap] at hs
  · rintro ⟨o, h⟩
    exact (compareBy_self h).2
  · rintro ⟨ks, h⟩
    exact ⟨_, compareBy_of_keysBy h h⟩
  · intro o o' hab hbd ho ho'
    refine ⟨o.then o', compareBy_chained hab hbd ho ho', ?_, ?_⟩
    · cases o with
      | lt => rfl
      | eq => exact ho'
      | gt => cases ho
    · rintro (rfl | rfl)
      · rfl
      · cases o with
        | lt => rfl
        | eq => rfl
        | gt => cases ho

-- The first criterion decides, and the second one, which has no value for `[true]`, is not asked.
example :
    let c : Comparator (List Bool) :=
      .ofCriteria [.callable fun l => .bool l.isEmpty, .path "0.at(0)"]
    (c.compare [] [true]).outcome = .ok .gt ∧ (c.keys [true]).outcome.isOk = false := by
  constructor <;> cbv

end Collate.Comparator

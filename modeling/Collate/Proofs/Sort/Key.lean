import Collate.Proofs.Value.Order
import Collate.Sort.Key

namespace Collate

theorem compareDirected_false (v w : Value) : compareDirected v w false = v.compare w := by
  cases hv : v.isMissing with
  | true =>
    have hr := Value.rank_of_isMissing hv
    cases hw : w.isMissing with
    | true =>
      rw [Value.compare_of_rank_zero w hr, Value.rank_of_isMissing hw]
      simp only [compareDirected, hv, hw]
      rfl
    | false =>
      rw [Value.compare_of_rank_lt (hr ▸ Value.rank_pos hw)]
      simp only [compareDirected, hv, hw]
      rfl
  | false =>
    cases hw : w.isMissing with
    | true =>
      have hr := Value.rank_of_isMissing hw
      rw [Value.compare_of_rank_gt (hr ▸ Value.rank_pos hv)]
      simp only [compareDirected, hv, hw]
      rfl
    | false =>
      simp only [compareDirected, hv, hw]
      rfl

theorem compareDirected_true (v w : Value) : compareDirected v w true = (v.compare w).swap := by
  rw [← compareDirected_false]
  rfl

instance (inverted : Bool) : Std.TransCmp fun v w => compareDirected v w inverted := by
  cases inverted with
  | false =>
    simp only [compareDirected_false]
    exact inferInstanceAs (Std.TransCmp Value.compare)
  | true =>
    simp only [compareDirected_true, ← Value.compare_swap]
    exact @Std.TransCmp.opposite _ Value.compare _

theorem isTotalPreorder_compareDirected (inverted : Bool) :
    IsTotalPreorder fun v w => compareDirected v w inverted :=
  .of_transCmp _

theorem compareDirected_chained (v w u : Value) (inverted : Bool) :
    Chained (compareDirected v w inverted) (compareDirected w u inverted)
      (compareDirected v u inverted) :=
  .of_transCmp (fun v w => compareDirected v w inverted) v w u

theorem Value.isTotalPreorder_compare :
    IsTotalPreorder Value.compare ∧
      (∀ v w : Value, (v == w) = true ↔ v.compare w = .eq) ∧
      (∀ v w inverted, compareDirected v w inverted =
        if inverted then (v.compare w).swap else v.compare w) ∧
      ∀ inverted, IsTotalPreorder fun v w => compareDirected v w inverted := by
  refine ⟨.of_transCmp _, fun v w => decide_eq_true_iff, ?_, isTotalPreorder_compareDirected⟩
  intro v w inverted
  cases inverted with
  | false => exact compareDirected_false v w
  | true => exact compareDirected_true v w

namespace Key

theorem compare_swap {k l : Key} (h : k.inverted = l.inverted) :
    k.compare l = (l.compare k).swap := by
  simp only [Key.compare, ← h]
  exact (isTotalPreorder_compareDirected k.inverted).swap l.value k.value

theorem compare_chained {k l : Key} (h : k.inverted = l.inverted) (m : Key) :
    Chained (k.compare l) (l.compare m) (k.compare m) := by
  simp only [Key.compare, ← h]
  exact compareDirected_chained k.value l.value m.value k.inverted

def compare? (k l : Key) : Option Ordering :=
  if k.inverted = l.inverted then some (k.compare l) else none

end Key

namespace Keys

def Aligned (ks ls : Keys) : Prop :=
  ks.map Key.inverted = ls.map Key.inverted

theorem aligned_cons {k l : Key} {ks ls : Keys} :
    Aligned (k :: ks) (l :: ls) ↔ k.inverted = l.inverted ∧ Aligned ks ls := by
  simp only [Aligned, List.map_cons, List.cons.injEq]

theorem compare_swap {ks ls : Keys} (h : Aligned ks ls) :
    Keys.compare ks ls = (Keys.compare ls ks).swap := by
  induction ks generalizing ls with
  | nil => cases ls <;> rfl
  | cons k ks ih =>
    cases ls with
    | nil => rfl
    | cons l ls =>
      obtain ⟨hk, hks⟩ := aligned_cons.mp h
      simp only [Keys.compare, Ordering.swap_then]
      rw [Key.compare_swap hk, ih hks]

theorem compare_chained {ks ls : Keys} (h : Aligned ks ls) (ms : Keys) :
    Chained (Keys.compare ks ls) (Keys.compare ls ms) (Keys.compare ks ms) := by
  induction ks generalizing ls ms with
  | nil =>
    cases ls with
    | nil => exact fun _ _ => rfl
    | cons l ls => cases h
  | cons k ks ih =>
    cases ls with
    | nil => cases h
    | cons l ls =>
      obtain ⟨hk, hks⟩ := aligned_cons.mp h
      cases ms with
      | nil => intro _ h; cases h
      | cons m ms => exact (Key.compare_chained hk m).then fun _ _ => ih hks ms

def Directed (ds : List Bool) (ks : Keys) : Prop :=
  ks.map Key.inverted = ds

theorem Directed.aligned {ds : List Bool} {ks ls : Keys} (hk : Directed ds ks)
    (hl : Directed ds ls) : Aligned ks ls :=
  Eq.trans hk (Eq.symm hl)

theorem Directed.le_trans {ds : List Bool} (ks ls ms : Keys) (hk : Directed ds ks)
    (hl : Directed ds ls) (_ : Directed ds ms) (h : Keys.le ks ls) (h' : Keys.le ls ms) :
    Keys.le ks ms :=
  (compare_chained (hk.aligned hl) ms).isLE h h'

theorem Directed.le_total {ds : List Bool} (ks ls : Keys) (hk : Directed ds ks)
    (hl : Directed ds ls) : Keys.le ks ls || Keys.le ls ks := by
  unfold Keys.le
  rw [compare_swap (hk.aligned hl)]
  cases Keys.compare ls ks <;> rfl

theorem beq_iff (ks ls : Keys) : (ks == ls) = true ↔ Keys.compare ks ls = .eq := by
  induction ks generalizing ls with
  | nil => cases ls <;> simp [Keys.compare]
  | cons k ks ih =>
    cases ls with
    | nil => simp [Keys.compare]
    | cons l ls =>
      have hk : (k == l) = true ↔ k.compare l = .eq := decide_eq_true_iff
      rw [List.cons_beq_cons, Bool.and_eq_true, hk, ih]
      simp only [Keys.compare, Ordering.then_eq_eq]

def compare? : Keys → Keys → Option Ordering
  | [], [] => some .eq
  | [], _ :: _ => some .lt
  | _ :: _, [] => some .gt
  | k :: ks, l :: ls =>
    match k.compare? l with
    | some .eq => compare? ks ls
    | decided => decided

def equal? : Keys → Keys → Option Bool
  | [], [] => some true
  | k :: ks, l :: ls =>
    match k.compare? l with
    | some .eq => equal? ks ls
    | decided => decided.map fun _ => false
  | _, _ => some false

theorem compare?_of_aligned {ks ls : Keys} (h : Aligned ks ls) :
    compare? ks ls = some (Keys.compare ks ls) := by
  induction ks generalizing ls with
  | nil => cases ls <;> rfl
  | cons k ks ih =>
    cases ls with
    | nil => rfl
    | cons l ls =>
      obtain ⟨hk, hks⟩ := aligned_cons.mp h
      simp only [compare?, Keys.compare, Key.compare?, hk, if_true]
      cases k.compare l with
      | lt => rfl
      | eq => exact ih hks
      | gt => rfl

theorem equal?_of_aligned {ks ls : Keys} (h : Aligned ks ls) : equal? ks ls = some (ks == ls) := by
  induction ks generalizing ls with
  | nil => cases ls <;> rfl
  | cons k ks ih =>
    cases ls with
    | nil => rfl
    | cons l ls =>
      obtain ⟨hk, hks⟩ := aligned_cons.mp h
      have he : (k == l) = decide (k.compare l = .eq) := rfl
      simp only [equal?, Key.compare?, hk, if_true, List.cons_beq_cons, he]
      cases k.compare l with
      | lt => rfl
      | eq => exact ih hks
      | gt => rfl

theorem compare_append {ks ls : Keys} (h : Aligned ks ls) (ks' ls' : Keys) :
    Keys.compare (ks ++ ks') (ls ++ ls') = (Keys.compare ks ls).then (Keys.compare ks' ls') := by
  induction ks generalizing ls with
  | nil =>
    cases ls with
    | nil => rfl
    | cons l ls => cases h
  | cons k ks ih =>
    cases ls with
    | nil => cases h
    | cons l ls =>
      simp only [List.cons_append, Keys.compare, Ordering.then_assoc]
      rw [ih (aligned_cons.mp h).2]

theorem le_append {ks ls : Keys} (h : Aligned ks ls) (ks' ls' : Keys) :
    Keys.le (ks ++ ks') (ls ++ ls') = (Keys.le ks ls && (!Keys.le ls ks || Keys.le ks' ls')) := by
  unfold Keys.le
  rw [compare_append h, compare_swap (Eq.symm h)]
  cases Keys.compare ks ls <;> rfl

end Keys

end Collate

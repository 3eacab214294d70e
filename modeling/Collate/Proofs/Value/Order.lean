import Collate.Proofs.Preorder
import Collate.Value.Order

namespace Collate.Value

theorem sizeOf_entry_lt {e : String × Value} {es : List (String × Value)} (h : e ∈ es) :
    sizeOf e.2 < sizeOf es := by
  have hs := List.sizeOf_lt_of_mem h
  have he : sizeOf e = 1 + sizeOf e.1 + sizeOf e.2 := rfl
  omega

theorem ind {P : Value → Prop} (absent : P .absent) (null : P .null) (bool : ∀ b, P (.bool b))
    (number : ∀ x, P (.number x)) (string : ∀ s, P (.string s))
    (array : ∀ vs, (∀ v ∈ vs, P v) → P (.array vs))
    (object : ∀ es, (∀ e ∈ es, P e.2) → P (.object es)) (method : ∀ run, P (.method run)) :
    ∀ v, P v
  | .absent => absent
  | .null => null
  | .bool b => bool b
  | .number x => number x
  | .string s => string s
  | .array vs => array vs fun v hv =>
    have := List.sizeOf_lt_of_mem hv
    ind absent null bool number string array object method v
  | .object es => object es fun e he =>
    have := sizeOf_entry_lt he
    ind absent null bool number string array object method e.2
  | .method run => method run

instance : Std.TransOrd Binary64 :=
  inferInstanceAs (Std.TransCmp (compareLex (compareOn Binary64.tier)
    (compareOn Binary64.signedUnits)))

theorem compare_of_rank_ne {v w : Value} (h : v.rank ≠ w.rank) :
    v.compare w = Ord.compare v.rank w.rank := by
  cases v <;> cases w <;> first | rfl | exact absurd rfl h

theorem rank_of_isMissing {v : Value} (h : v.isMissing = true) : v.rank = 0 := by
  cases v <;> first | rfl | cases h

theorem rank_pos {v : Value} (h : v.isMissing = false) : 0 < v.rank := by
  cases v <;> first | exact Nat.zero_lt_succ _ | cases h

theorem compare_of_rank_zero {v : Value} (w : Value) (hv : v.rank = 0) :
    v.compare w = Ord.compare 0 w.rank := by
  cases v <;> first | (cases w <;> rfl) | cases hv

theorem compare_of_rank_lt {v w : Value} (h : v.rank < w.rank) : v.compare w = .lt := by
  rw [compare_of_rank_ne (by omega)]
  exact Nat.compare_eq_lt.mpr h

theorem compare_of_rank_gt {v w : Value} (h : w.rank < v.rank) : v.compare w = .gt := by
  rw [compare_of_rank_ne (by omega)]
  exact Nat.compare_eq_gt.mpr h

theorem rank_le_of_isLE {v w : Value} (h : (v.compare w).isLE) : v.rank ≤ w.rank := by
  apply Nat.le_of_not_lt
  intro hr
  rw [compare_of_rank_gt hr] at h
  cases h

theorem compareEntry_eq (e f : String × Value) :
    compareEntry e f = (Ord.compare e.1 f.1).then (e.2.compare f.2) := by
  obtain ⟨k, v⟩ := e
  obtain ⟨l, w⟩ := f
  rfl

theorem compareItems_swap {vs : List Value} (ih : ∀ v ∈ vs, ∀ w, v.compare w = (w.compare v).swap)
    (ws : List Value) : compareItems vs ws = (compareItems ws vs).swap := by
  induction vs generalizing ws with
  | nil => cases ws <;> rfl
  | cons v vs ihs =>
    cases ws with
    | nil => rfl
    | cons w ws =>
      simp only [compareItems, Ordering.swap_then]
      rw [ih v List.mem_cons_self, ihs (fun u hu => ih u (List.mem_cons_of_mem _ hu))]

theorem compareEntries_swap {es : List (String × Value)}
    (ih : ∀ e ∈ es, ∀ w, e.2.compare w = (w.compare e.2).swap) (fs : List (String × Value)) :
    compareEntries es fs = (compareEntries fs es).swap := by
  induction es generalizing fs with
  | nil => cases fs <;> rfl
  | cons e es ihs =>
    cases fs with
    | nil => rfl
    | cons f fs =>
      simp only [compareEntries, compareEntry_eq, Ordering.swap_then]
      rw [Std.OrientedOrd.eq_swap, ih e List.mem_cons_self,
        ihs (fun g hg => ih g (List.mem_cons_of_mem _ hg))]

theorem compare_swap (v w : Value) : v.compare w = (w.compare v).swap := by
  induction v using ind generalizing w with
  | absent => cases w <;> rfl
  | null => cases w <;> rfl
  | bool a =>
    cases w with
    | bool b => exact Std.OrientedOrd.eq_swap
    | _ => rfl
  | number x =>
    cases w with
    | number y => exact Std.OrientedOrd.eq_swap
    | _ => rfl
  | string s =>
    cases w with
    | string t => exact Std.OrientedOrd.eq_swap
    | _ => rfl
  | array vs ih =>
    cases w with
    | array ws => exact compareItems_swap ih ws
    | _ => rfl
  | object es ih =>
    cases w with
    | object fs => exact compareEntries_swap ih fs
    | _ => rfl
  | method run => cases w <;> rfl

theorem chained_of_rank {v w u : Value}
    (h : w.rank = v.rank → u.rank = v.rank → Chained (v.compare w) (w.compare u) (v.compare u)) :
    Chained (v.compare w) (w.compare u) (v.compare u) := by
  intro hvw hwu
  have hv := rank_le_of_isLE hvw
  have hw := rank_le_of_isLE hwu
  -- Where two kinds differ they decide, and only the comparisons inside of one kind are left.
  rcases Nat.lt_or_eq_of_le hv with hv | hv
  · rw [compare_of_rank_lt hv, compare_of_rank_lt (Nat.lt_of_lt_of_le hv hw)]
    rfl
  · rcases Nat.lt_or_eq_of_le hw with hw | hw
    · rw [compare_of_rank_lt hw, compare_of_rank_lt (hv ▸ hw)]
      rcases Ordering.isLE_iff_eq_lt_or_eq_eq.mp hvw with he | he <;> rw [he] <;> rfl
    · exact h hv.symm (hv.trans hw).symm hvw hwu

theorem compareItems_chained {vs : List Value}
    (ih : ∀ v ∈ vs, ∀ w u, Chained (v.compare w) (w.compare u) (v.compare u))
    (ws us : List Value) :
    Chained (compareItems vs ws) (compareItems ws us) (compareItems vs us) := by
  induction vs generalizing ws us with
  | nil => cases ws <;> cases us <;> intro h h' <;> first | rfl | cases h'
  | cons v vs ihs =>
    cases ws with
    | nil => intro h; cases h
    | cons w ws =>
      cases us with
      | nil => intro _ h; cases h
      | cons u us =>
        exact (ih v List.mem_cons_self w u).then fun _ _ =>
          ihs (fun x hx => ih x (List.mem_cons_of_mem _ hx)) ws us

theorem compareEntries_chained {es : List (String × Value)}
    (ih : ∀ e ∈ es, ∀ w u, Chained (e.2.compare w) (w.compare u) (e.2.compare u))
    (fs gs : List (String × Value)) :
    Chained (compareEntries es fs) (compareEntries fs gs) (compareEntries es gs) := by
  induction es generalizing fs gs with
  | nil => cases fs <;> cases gs <;> intro h h' <;> first | rfl | cases h'
  | cons e es ihs =>
    cases fs with
    | nil => intro h; cases h
    | cons f fs =>
      cases gs with
      | nil => intro _ h; cases h
      | cons g gs =>
        have hk := Chained.of_transCmp Ord.compare e.1 f.1 g.1
        have he : Chained (compareEntry e f) (compareEntry f g) (compareEntry e g) := by
          simp only [compareEntry_eq]
          exact hk.then fun _ _ => ih e List.mem_cons_self f.2 g.2
        exact he.then fun _ _ => ihs (fun x hx => ih x (List.mem_cons_of_mem _ hx)) fs gs

theorem compare_chained (v w u : Value) :
    Chained (v.compare w) (w.compare u) (v.compare u) := by
  induction v using ind generalizing w u with refine chained_of_rank fun hw hu => ?_
  | absent | null =>
    intro _ _
    rw [compare_of_rank_zero _ hw, compare_of_rank_zero _ rfl, compare_of_rank_zero _ rfl, hw, hu]
    rfl
  | bool a =>
    cases w <;> cases hw
    cases u <;> cases hu
    exact Chained.of_transCmp Ord.compare a _ _
  | number x =>
    cases w <;> cases hw
    cases u <;> cases hu
    exact Chained.of_transCmp Ord.compare x _ _
  | string s =>
    cases w <;> cases hw
    cases u <;> cases hu
    exact Chained.of_transCmp Ord.compare s _ _
  | array vs ih =>
    cases w <;> cases hw
    cases u <;> cases hu
    exact compareItems_chained ih _ _
  | object es ih =>
    cases w <;> cases hw
    cases u <;> cases hu
    exact compareEntries_chained ih _ _
  | method run =>
    cases w <;> cases hw
    cases u <;> cases hu
    exact fun _ _ => rfl

instance : Std.TransCmp Value.compare :=
  transCmp_of_chained compare_swap compare_chained

end Collate.Value

namespace Collate

structure IsTotalPreorder {α : Type} (cmp : α → α → Ordering) : Prop where
  refl : ∀ a, cmp a a = .eq
  swap : ∀ a b, cmp b a = (cmp a b).swap
  trans : ∀ a b c, (cmp a b).isLE → (cmp b c).isLE → (cmp a c).isLE
  strict : ∀ a b c, (cmp a b).isLE → (cmp b c).isLE → cmp a b = .lt ∨ cmp b c = .lt →
    cmp a c = .lt

theorem IsTotalPreorder.of_transCmp {α : Type} (cmp : α → α → Ordering) [Std.TransCmp cmp] :
    IsTotalPreorder cmp where
  refl _ := Std.ReflCmp.compare_self
  swap _ _ := Std.OrientedCmp.eq_swap
  trans _ _ _ h h' := Std.TransCmp.isLE_trans h h'
  strict a b c h h' hs := by
    rcases hs with hs | hs
    · exact Std.TransCmp.lt_of_lt_of_isLE hs h'
    · exact Std.TransCmp.lt_of_isLE_of_lt h hs

/-- How the ends of `a ≤ b ≤ c` compare: they tie when both pairs do, and are strictly in order as
soon as one pair is. In this form, unlike as two laws, transitivity carries over to lexicographic
comparisons one component at a time. -/
def Chained (ab bc ac : Ordering) : Prop :=
  ab.isLE → bc.isLE → ac = ab.then bc

theorem Chained.of_transCmp {α : Type} (cmp : α → α → Ordering) [Std.TransCmp cmp] (a b c : α) :
    Chained (cmp a b) (cmp b c) (cmp a c) := by
  intro hab hbc
  rcases Ordering.isLE_iff_eq_lt_or_eq_eq.mp hab with h | h
  · rw [h, Ordering.lt_then]
    exact Std.TransCmp.lt_of_lt_of_isLE h hbc
  · rw [h, Ordering.eq_then]
    exact Std.TransCmp.congr_left h

theorem Chained.then {ab bc ac ab' bc' ac' : Ordering} (h : Chained ab bc ac)
    (h' : ab = .eq → bc = .eq → Chained ab' bc' ac') :
    Chained (ab.then ab') (bc.then bc') (ac.then ac') := by
  intro hab hbc
  have hac := h (Ordering.isLE_left_of_isLE_then hab) (Ordering.isLE_left_of_isLE_then hbc)
  cases ab with
  | lt => rw [hac]; rfl
  | gt => cases hab
  | eq =>
    cases bc with
    | lt => rw [hac]; cases ab' <;> first | rfl | cases hab
    | gt => cases hbc
    | eq =>
      rw [hac]
      exact h' rfl rfl hab hbc

theorem Chained.isLE {ab bc ac : Ordering} (h : Chained ab bc ac) (hab : ab.isLE) (hbc : bc.isLE) :
    ac.isLE := by
  rw [h hab hbc]
  cases ab <;> first | exact hbc | exact hab

theorem transCmp_of_chained {α : Type} {cmp : α → α → Ordering}
    (swap : ∀ a b, cmp a b = (cmp b a).swap)
    (chained : ∀ a b c, Chained (cmp a b) (cmp b c) (cmp a c)) : Std.TransCmp cmp where
  eq_swap := swap _ _
  isLE_trans := (chained _ _ _).isLE

end Collate

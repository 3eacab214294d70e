import Collate.Sort.Permutation
import Mathlib.Data.Fintype.EquivFin
import Mathlib.Logic.Equiv.Defs

namespace Collate

variable {α : Type} {order : Array Nat} {xs : Array α}

def source (order : Array Nat) (q : Nat) : Nat :=
  order.getD q 0

theorem getD_eq_source {q d : Nat} (hq : q < order.size) : order.getD q d = source order q := by
  simp only [source, Array.getD_eq_getD_getElem?, Array.getElem?_eq_getElem hq, Option.getD_some]

structure IsShuffle (order : Array Nat) (n : Nat) : Prop where
  size : order.size = n
  lt : ∀ q < n, source order q < n
  inj : ∀ q < n, ∀ r < n, source order q = source order r → q = r

theorem IsShuffle.of_perm {n : Nat} (h : order.toList.Perm (List.range n)) :
    IsShuffle order n := by
  have hn : order.toList.length = n := h.length_eq.trans List.length_range
  have get (q : Nat) (hq : q < n) : order.toList[q]? = some (source order q) := by
    rw [← hn, Array.length_toList] at hq
    simp [source, Array.getD_eq_getD_getElem?, hq]
  refine ⟨by rw [← Array.length_toList, hn], fun q hq => ?_, fun q hq r hr he => ?_⟩
  · exact List.mem_range.mp (h.mem_iff.mp (List.mem_of_getElem? (get q hq)))
  · have hnd := h.nodup_iff.mpr List.nodup_range
    exact (List.getElem?_inj (hn ▸ hq) hnd).mp ((get q hq).trans (he ▸ (get r hr).symm))

theorem IsShuffle.exists_place {n : Nat} (h : IsShuffle order n) :
    ∃ place : Equiv.Perm (Fin n), ∀ i, source order (place i) = i := by
  let fetch (q : Fin n) : Fin n := ⟨source order q, h.lt q q.isLt⟩
  have hinj : Function.Injective fetch := by
    intro q r he
    exact Fin.ext (h.inj q q.isLt r r.isLt (Fin.ext_iff.mp he))
  let origin : Equiv.Perm (Fin n) :=
    Equiv.ofBijective fetch (Finite.injective_iff_bijective.mp hinj)
  exact ⟨origin.symm, fun i => Fin.ext_iff.mp (origin.apply_symm_apply i)⟩

theorem getElem?_swapIfInBounds {i j : Nat} (hi : i < xs.size) (hj : j < xs.size) (k : Nat) :
    (xs.swapIfInBounds i j)[k]? = if k = i then xs[j]? else if k = j then xs[i]? else xs[k]? := by
  rw [Array.swapIfInBounds_def, dif_pos hi, dif_pos hj, Array.getElem?_swap]
  grind

namespace Placement

def IsPlaced (p : Placement α) (q : Nat) : Prop :=
  p.placed[q]? = some true

theorem isPlaced_mark {p : Placement α} {pos : Nat} (hpos : pos < p.placed.size)
    (items : Array α) (q : Nat) :
    IsPlaced ⟨items, p.placed.setIfInBounds pos true⟩ q ↔ q = pos ∨ p.IsPlaced q := by
  unfold IsPlaced
  by_cases hq : pos = q
  · subst hq
    simp [hpos]
  · simp [Array.getElem?_setIfInBounds_ne hq, Ne.symm hq]

/-- Whole cycles are done: what is placed is final, and all else is where it was. -/
structure Settled (order : Array Nat) (xs : Array α) (p : Placement α) : Prop where
  size_items : p.items.size = xs.size
  size_placed : p.placed.size = xs.size
  final : ∀ q, p.IsPlaced q → p.items[q]? = xs[source order q]?
  untouched : ∀ q, ¬ p.IsPlaced q → p.items[q]? = xs[q]?
  closed : ∀ q < xs.size, p.IsPlaced (source order q) → p.IsPlaced q

/-- On the way along the cycle of `start`: the element that `start` had is held at `pos`, and only
`start` may be placed before the place that its element goes to. -/
structure Following (order : Array Nat) (xs : Array α) (start pos : Nat) (p : Placement α) :
    Prop where
  size_items : p.items.size = xs.size
  size_placed : p.placed.size = xs.size
  pos_lt : pos < xs.size
  free : ¬ p.IsPlaced pos
  begun : pos = start ∨ p.IsPlaced start
  held : p.items[pos]? = xs[start]?
  final : ∀ q, p.IsPlaced q → p.items[q]? = xs[source order q]?
  untouched : ∀ q, q ≠ pos → ¬ p.IsPlaced q → p.items[q]? = xs[q]?
  closed : ∀ q < xs.size, source order q = pos ∨ p.IsPlaced (source order q) →
    source order q = start ∨ p.IsPlaced q

theorem Settled.following {p : Placement α} {start : Nat} (h : Settled order xs p)
    (hs : start < xs.size) (hf : ¬ p.IsPlaced start) : Following order xs start start p where
  size_items := h.size_items
  size_placed := h.size_placed
  pos_lt := hs
  free := hf
  begun := .inl rfl
  held := h.untouched start hf
  final := h.final
  untouched q _ hq := h.untouched q hq
  closed q hq hp := hp.imp_right (h.closed q hq)

theorem Following.step {p : Placement α} {start pos : Nat} (ho : IsShuffle order xs.size)
    (h : Following order xs start pos p) (hs : source order pos ≠ start) :
    Following order xs start (source order pos)
      ⟨p.items.swapIfInBounds pos (source order pos), p.placed.setIfInBounds pos true⟩ := by
  have hpos := h.pos_lt
  have hsrc := ho.lt pos hpos
  have mark := isPlaced_mark (h.size_placed ▸ hpos) (p.items.swapIfInBounds pos (source order pos))
  have get := getElem?_swapIfInBounds (h.size_items ▸ hpos) (h.size_items ▸ hsrc)
  have hfree : ¬ (source order pos = pos ∨ p.IsPlaced (source order pos)) :=
    fun hp => (h.closed pos hpos hp).elim hs h.free
  rw [not_or] at hfree
  refine ⟨?_, ?_, hsrc, ?_, ?_, ?_, fun q hq => ?_, fun q hq hn => ?_, fun q hq hp => ?_⟩
  · simp only [Array.size_swapIfInBounds, h.size_items]
  · simp only [Array.size_setIfInBounds, h.size_placed]
  · rwa [mark, not_or]
  · right
    exact (mark start).mpr (h.begun.imp_left Eq.symm)
  · rw [get, if_neg hfree.1, if_pos rfl]
    exact h.held
  · rcases (mark q).mp hq with rfl | hq
    · rw [get, if_pos rfl]
      exact h.untouched _ hfree.1 hfree.2
    · have hq1 : q ≠ pos := fun he => h.free (he ▸ hq)
      have hq2 : q ≠ source order pos := fun he => hfree.2 (he ▸ hq)
      rw [get, if_neg hq1, if_neg hq2]
      exact h.final q hq
  · rw [mark, not_or] at hn
    rw [get, if_neg hn.1, if_neg hq]
    exact h.untouched q hn.1 hn.2
  · rw [mark]
    rcases hp with hp | hp
    · exact .inr (.inl (ho.inj q hq pos hpos hp))
    · exact (h.closed q hq ((mark _).mp hp)).imp_right .inr

theorem Following.finish {p : Placement α} {start pos : Nat} (ho : IsShuffle order xs.size)
    (h : Following order xs start pos p) (hs : source order pos = start) :
    Settled order xs ⟨p.items, p.placed.setIfInBounds pos true⟩ := by
  have hpos := h.pos_lt
  have mark := isPlaced_mark (h.size_placed ▸ hpos) p.items
  refine ⟨h.size_items, ?_, fun q hq => ?_, fun q hn => ?_, fun q hq hp => ?_⟩
  · simp only [Array.size_setIfInBounds, h.size_placed]
  · rcases (mark q).mp hq with rfl | hq
    · rw [hs]
      exact h.held
    · exact h.final q hq
  · rw [mark, not_or] at hn
    exact h.untouched q hn.1 hn.2
  · rw [mark]
    rcases h.closed q hq ((mark _).mp hp) with he | hq'
    · exact .inl (ho.inj q hq pos hpos (he.trans hs.symm))
    · exact .inr hq'

def free (p : Placement α) : Nat :=
  p.placed.count false

theorem free_mark {p : Placement α} {pos : Nat} (items : Array α) (hpos : pos < p.placed.size)
    (hf : ¬ p.IsPlaced pos) : free ⟨items, p.placed.setIfInBounds pos true⟩ + 1 = p.free := by
  have hv : p.placed[pos] = false := by
    rw [IsPlaced, Array.getElem?_eq_getElem hpos] at hf
    simpa using hf
  have hle : 0 < p.placed.count false := by
    rw [Array.count_pos_iff, ← hv]
    exact Array.getElem_mem hpos
  have hne : (if (true == false) = true then 1 else 0) = 0 := rfl
  simp only [free, Array.setIfInBounds_def, dif_pos hpos, Array.count_set, hv, beq_self_eq_true,
    if_true, hne]
  omega

theorem followCycle_settled {start : Nat} (ho : IsShuffle order xs.size) {fuel pos : Nat}
    {p : Placement α} (h : Following order xs start pos p) (hf : p.free ≤ fuel) :
    Settled order xs (followCycle order start fuel pos p) ∧
      (followCycle order start fuel pos p).IsPlaced start ∧
      ∀ q, p.IsPlaced q → (followCycle order start fuel pos p).IsPlaced q := by
  induction fuel generalizing pos p with
  | zero =>
    -- `pos` at least is free.
    have hm := free_mark p.items (h.size_placed ▸ h.pos_lt) h.free
    omega
  | succ fuel ih =>
    have hpos : pos < p.placed.size := h.size_placed ▸ h.pos_lt
    simp only [followCycle, getD_eq_source (ho.size ▸ h.pos_lt)]
    split
    next hs =>
      have mark := isPlaced_mark hpos p.items
      refine ⟨h.finish ho hs, ?_, fun q hq => (mark q).mpr (.inr hq)⟩
      exact (mark start).mpr (h.begun.imp_left Eq.symm)
    next hs =>
      have mark := isPlaced_mark hpos (p.items.swapIfInBounds pos (source order pos))
      have hm := free_mark (p.items.swapIfInBounds pos (source order pos)) hpos h.free
      obtain ⟨h1, h2, h3⟩ := ih (h.step ho hs) (by omega)
      exact ⟨h1, h2, fun q hq => h3 q ((mark q).mpr (.inr hq))⟩

theorem settle_settled {p : Placement α} {start : Nat} (ho : IsShuffle order xs.size)
    (h : Settled order xs p) (hs : start < xs.size) :
    Settled order xs (settle order p start) ∧ (settle order p start).IsPlaced start ∧
      ∀ q, p.IsPlaced q → (settle order p start).IsPlaced q := by
  have hp : start < p.placed.size := h.size_placed ▸ hs
  unfold settle
  rw [Array.getD_eq_getD_getElem?, Array.getElem?_eq_getElem hp, Option.getD_some]
  cases hv : p.placed[start] with
  | true =>
    have hd : p.IsPlaced start := by rw [IsPlaced, Array.getElem?_eq_getElem hp, hv]
    exact ⟨h, hd, fun _ hq => hq⟩
  | false =>
    have hd : ¬ p.IsPlaced start := by
      rw [IsPlaced, Array.getElem?_eq_getElem hp, hv]
      nofun
    apply followCycle_settled ho (h.following hs hd)
    rw [h.size_items, ← h.size_placed]
    exact Array.count_le_size

theorem foldl_settled {p : Placement α} (ho : IsShuffle order xs.size) (h : Settled order xs p)
    (starts : List Nat) (hs : ∀ start ∈ starts, start < xs.size) :
    Settled order xs (starts.foldl (settle order) p) ∧
      ∀ q, p.IsPlaced q ∨ q ∈ starts → (starts.foldl (settle order) p).IsPlaced q := by
  induction starts generalizing p with
  | nil => exact ⟨h, fun q hq => hq.resolve_right List.not_mem_nil⟩
  | cons start starts ih =>
    obtain ⟨h1, h2, h3⟩ := settle_settled ho h (hs start List.mem_cons_self)
    obtain ⟨h4, h5⟩ := ih h1 fun q hq => hs q (List.mem_cons_of_mem _ hq)
    refine ⟨h4, fun q hq => h5 q ?_⟩
    rcases hq with hq | hq
    · exact .inl (h3 q hq)
    · rcases List.mem_cons.mp hq with rfl | hq
      · exact .inl h2
      · exact .inr hq

end Placement

theorem start_settled (order : Array Nat) (xs : Array α) :
    Placement.Settled order xs ⟨xs, Array.replicate xs.size false⟩ := by
  have none (q : Nat) : ¬ Placement.IsPlaced ⟨xs, Array.replicate xs.size false⟩ q := by
    simp [Placement.IsPlaced, Array.getElem?_replicate]
  refine ⟨rfl, Array.size_replicate, ?_, fun _ _ => rfl, ?_⟩
  · exact fun q hq => absurd hq (none q)
  · exact fun q _ hq => absurd hq (none _)

theorem applyPermutation_settled (ho : IsShuffle order xs.size) :
    ∃ p, Placement.Settled order xs p ∧ (∀ q < xs.size, p.IsPlaced q) ∧
      applyPermutation order xs = p.items := by
  obtain ⟨h, hp⟩ := Placement.foldl_settled ho (start_settled order xs) (List.range xs.size)
    fun _ hq => List.mem_range.mp hq
  exact ⟨_, h, fun q hq => hp q (.inr (List.mem_range.mpr hq)), rfl⟩

theorem size_applyPermutation (ho : IsShuffle order xs.size) :
    (applyPermutation order xs).size = xs.size := by
  obtain ⟨p, h, _, he⟩ := applyPermutation_settled ho
  rw [he, h.size_items]

theorem getElem?_applyPermutation (ho : IsShuffle order xs.size) {q : Nat} (hq : q < xs.size) :
    (applyPermutation order xs)[q]? = xs[source order q]? := by
  obtain ⟨p, h, hp, he⟩ := applyPermutation_settled ho
  rw [he]
  exact h.final q (hp q hq)

theorem applyPermutation_range (xs : Array α) :
    applyPermutation (List.range xs.size).toArray xs = xs := by
  have ho : IsShuffle (List.range xs.size).toArray xs.size := .of_perm (.refl _)
  apply Array.ext_getElem?
  intro q
  by_cases hq : q < xs.size
  · have hs : source (List.range xs.size).toArray q = q := by
      simp [source, hq]
    rw [getElem?_applyPermutation ho hq, hs]
  · rw [Array.getElem?_eq_none (by rw [size_applyPermutation ho]; omega),
      Array.getElem?_eq_none (by omega)]

end Collate

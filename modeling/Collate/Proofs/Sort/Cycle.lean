import Collate.Proofs.Sort.Permutation

/-!
The two loops that put elements in place, taken turn by turn, with every index checked. Over a
permutation they come to an end after one turn for each place, and leave what `applyPermutation` does.
-/

namespace Collate

variable {α : Type} {order : Array Nat} {xs : Array α}

namespace Placement

/-- The loop along the cycle of `start`, entered at `pos`, ends at `q` after `n` turns. A turn is
taken only if each of its indices is in bounds. -/
inductive Follows (order : Array Nat) (start : Nat) :
    Nat → Placement α → Nat → Placement α → Prop
  | close {pos : Nat} {p : Placement α} (hp : pos < p.placed.size) (ho : pos < order.size)
      (hs : order[pos] < p.items.size) (he : order[pos] = start) :
      Follows order start pos p 1 ⟨p.items, p.placed.set pos true⟩
  | turn {pos n : Nat} {p q : Placement α} (hp : pos < p.placed.size) (ho : pos < order.size)
      (hs : order[pos] < p.items.size) (he : order[pos] ≠ start) (hi : pos < p.items.size)
      (hq : Follows order start order[pos]
        ⟨p.items.swap pos order[pos], p.placed.set pos true⟩ n q) :
      Follows order start pos p (n + 1) q

inductive Sweeps (order : Array Nat) : List Nat → Placement α → Nat → Placement α → Prop
  | done (p : Placement α) : Sweeps order [] p 0 p
  | skip {start n : Nat} {starts : List Nat} {p q : Placement α} (hp : start < p.placed.size)
      (hd : p.placed[start] = true) (hq : Sweeps order starts p n q) :
      Sweeps order (start :: starts) p n q
  | cycle {start m n : Nat} {starts : List Nat} {p q r : Placement α} (hp : start < p.placed.size)
      (hd : p.placed[start] = false) (hr : Follows order start start p m r)
      (hq : Sweeps order starts r n q) : Sweeps order (start :: starts) p (m + n) q

theorem Follows.unique {start pos m n : Nat} {p q r : Placement α}
    (h : Follows order start pos p m q) (h' : Follows order start pos p n r) : m = n ∧ q = r := by
  induction h generalizing n with
  | close _ _ _ he =>
    cases h' with
    | close => exact ⟨rfl, rfl⟩
    | turn _ _ _ hne => exact absurd he hne
  | turn _ _ _ hne _ _ ih =>
    cases h' with
    | close _ _ _ he => exact absurd he hne
    | turn _ _ _ _ _ hq =>
      obtain ⟨hn, hr⟩ := ih hq
      exact ⟨congrArg _ hn, hr⟩

theorem Sweeps.unique {starts : List Nat} {m n : Nat} {p q r : Placement α}
    (h : Sweeps order starts p m q) (h' : Sweeps order starts p n r) : m = n ∧ q = r := by
  induction h generalizing n with
  | done =>
    cases h'
    exact ⟨rfl, rfl⟩
  | skip _ hd _ ih =>
    cases h' with
    | skip _ _ hq => exact ih hq
    | cycle _ hd' => rw [hd] at hd'; cases hd'
  | cycle _ hd hr _ ih =>
    cases h' with
    | skip _ hd' => rw [hd] at hd'; cases hd'
    | cycle _ _ hr' hq =>
      obtain ⟨hm, rfl⟩ := hr.unique hr'
      obtain ⟨hn, he⟩ := ih hq
      exact ⟨by omega, he⟩

theorem follows_followCycle {start : Nat} (ho : IsShuffle order xs.size) {fuel pos : Nat}
    {p : Placement α} (h : Following order xs start pos p) (hf : p.free ≤ fuel) :
    ∃ n, Follows order start pos p n (followCycle order start fuel pos p) ∧
      n + (followCycle order start fuel pos p).free = p.free := by
  induction fuel generalizing pos p with
  | zero =>
    -- `pos` at least is free.
    have hm := free_mark p.items (h.size_placed ▸ h.pos_lt) h.free
    omega
  | succ fuel ih =>
    have hpos : pos < p.placed.size := h.size_placed ▸ h.pos_lt
    have hitem : pos < p.items.size := h.size_items ▸ h.pos_lt
    have horder : pos < order.size := ho.size ▸ h.pos_lt
    have hsource : source order pos = order[pos] := by
      simp [source, Array.getD_eq_getD_getElem?, horder]
    have hlt : order[pos] < p.items.size := by
      rw [← hsource, h.size_items]
      exact ho.lt pos h.pos_lt
    have hplaced : p.placed.setIfInBounds pos true = p.placed.set pos true := by
      rw [Array.setIfInBounds_def, dif_pos hpos]
    simp only [followCycle, getD_eq_source horder, hsource]
    split
    next hs =>
      have hm := free_mark p.items hpos h.free
      refine ⟨1, ?_, by omega⟩
      rw [hplaced]
      exact .close hpos horder hlt hs
    next hs =>
      have hm := free_mark (p.items.swapIfInBounds pos order[pos]) hpos h.free
      have hswap : p.items.swapIfInBounds pos order[pos] = p.items.swap pos order[pos] := by
        rw [Array.swapIfInBounds_def, dif_pos hitem, dif_pos hlt]
      have hstep := h.step ho (hsource ▸ hs)
      rw [hsource] at hstep
      obtain ⟨n, hn, hc⟩ := ih hstep (by omega)
      refine ⟨n + 1, .turn hpos horder hlt hs hitem ?_, by omega⟩
      rwa [← hplaced, ← hswap]

theorem sweeps_foldl {p : Placement α} (ho : IsShuffle order xs.size) (h : Settled order xs p)
    (starts : List Nat) (hs : ∀ start ∈ starts, start < xs.size) :
    ∃ n, Sweeps order starts p n (starts.foldl (settle order) p) ∧
      n + (starts.foldl (settle order) p).free = p.free := by
  induction starts generalizing p with
  | nil => exact ⟨0, .done p, Nat.zero_add _⟩
  | cons start starts ih =>
    obtain ⟨hstart, hs⟩ := List.forall_mem_cons.mp hs
    have hp : start < p.placed.size := h.size_placed ▸ hstart
    obtain ⟨n, hn, hf⟩ := ih (settle_settled ho h hstart).1 hs
    rw [List.foldl_cons]
    cases hd : p.placed[start] with
    | true =>
      have hk : settle order p start = p := by simp [settle, hp, hd]
      rw [hk] at hn hf ⊢
      exact ⟨n, .skip hp hd hn, hf⟩
    | false =>
      have hk : settle order p start = followCycle order start p.items.size start p := by
        simp [settle, hp, hd]
      have hfree : ¬ p.IsPlaced start := by simp [IsPlaced, hp, hd]
      have hle : p.free ≤ p.items.size := by
        rw [h.size_items, ← h.size_placed]
        exact Array.count_le_size
      obtain ⟨m, hm, hc⟩ := follows_followCycle ho (h.following hstart hfree) hle
      rw [← hk] at hm hc
      exact ⟨m + n, .cycle hp hd hm hn, by omega⟩

theorem free_eq_zero {p : Placement α} (h : ∀ q < p.placed.size, p.IsPlaced q) : p.free = 0 := by
  refine Array.count_eq_zero.mpr fun hm => ?_
  obtain ⟨q, hq, he⟩ := Array.mem_iff_getElem.mp hm
  have hp := h q hq
  rw [IsPlaced, Array.getElem?_eq_getElem hq, he] at hp
  cases hp

end Placement

theorem applyPermutation_sweeps (items : Array α) (order : Array Nat)
    (h : order.toList.Perm (List.range items.size)) :
    let start : Placement α := ⟨items, Array.replicate items.size false⟩
    (∃ p, Placement.Sweeps order (List.range items.size) start items.size p ∧
      applyPermutation order items = p.items ∧
      ∀ n q, Placement.Sweeps order (List.range items.size) start n q → n = items.size ∧ q = p) ∧
    (applyPermutation order items).size = items.size ∧
    ∀ pos < items.size, ∃ source, ∃ hs : source < items.size,
      order[pos]? = some source ∧ (applyPermutation order items)[pos]? = some items[source] := by
  intro start
  have ho : IsShuffle order items.size := .of_perm h
  have hr : ∀ q ∈ List.range items.size, q < items.size := fun _ hq => List.mem_range.mp hq
  obtain ⟨n, hn, hf⟩ := Placement.sweeps_foldl ho (start_settled order items) _ hr
  obtain ⟨hsettled, hplaced⟩ := Placement.foldl_settled ho (start_settled order items) _ hr
  have hfree : start.free = items.size := by simp [Placement.free, start]
  have hzero := Placement.free_eq_zero fun q hq =>
    hplaced q (.inr (List.mem_range.mpr (hsettled.size_placed ▸ hq)))
  have hsize : n = items.size := by rw [← hfree, ← hf, hzero, Nat.add_zero]
  rw [hsize] at hn
  refine ⟨⟨_, hn, rfl, fun m q hq => hq.unique hn⟩, size_applyPermutation ho, fun pos hpos => ?_⟩
  have hlt := ho.lt pos hpos
  refine ⟨source order pos, hlt, ?_, ?_⟩
  · have hb : pos < order.size := ho.size ▸ hpos
    simp [source, Array.getD_eq_getD_getElem?, hb]
  · rw [getElem?_applyPermutation ho hpos, Array.getElem?_eq_getElem hlt]

theorem applyPermutation_sweeps_two_cycles :
    let order := #[1, 0, 4, 2, 3]
    let items := #["a", "b", "c", "d", "e"]
    order.toList.Perm (List.range items.size) ∧
      ∃ p, Placement.Sweeps order (List.range 5) ⟨items, Array.replicate 5 false⟩ 5 p ∧
        p.items = #["b", "a", "e", "c", "d"] := by
  intro order items
  have h : order.toList.Perm (List.range items.size) := by decide
  have hv : applyPermutation order items = #["b", "a", "e", "c", "d"] := by cbv
  obtain ⟨⟨p, hp, he, -⟩, -⟩ := applyPermutation_sweeps items order h
  exact ⟨h, p, hp, he.symm.trans hv⟩

end Collate

import Collate.Proofs.Sort.Comparator
import Collate.Proofs.Sort.Permutation
import Mathlib.Data.List.Forall2

namespace Collate

variable {β : Type}

theorem eq_place_of_mem_zipIdx {l : List β} {p : (β × Nat) × Nat} (h : p ∈ l.zipIdx.zipIdx) :
    p.1.2 = p.2 := by
  have hp := List.mem_zipIdx_iff_getElem?.mp h
  rw [List.getElem?_zipIdx, Option.map_eq_some_iff] at hp
  obtain ⟨a, _, ha⟩ := hp
  rw [← ha, Nat.zero_add]

theorem pairwise_mergeSort_zipIdx (le : β → β → Bool) (trans : ∀ a b c, le a b → le b c → le a c)
    (total : ∀ a b, le a b || le b a) (l : List β) :
    (l.zipIdx.mergeSort fun r s => le r.1 s.1).Pairwise fun r s =>
      le r.1 s.1 ∧ (le s.1 r.1 → r.2 ≤ s.2) := by
  rw [← List.mergeSort_zipIdx, List.pairwise_map]
  have hs := List.pairwise_mergeSort
    (List.zipIdxLE_trans fun r s t : β × Nat => trans r.1 s.1 t.1)
    (List.zipIdxLE_total fun r s : β × Nat => total r.1 s.1) l.zipIdx.zipIdx
  refine hs.imp_of_mem ?_
  intro p q hp hq h
  have hp' := eq_place_of_mem_zipIdx (List.mem_mergeSort.mp hp)
  have hq' := eq_place_of_mem_zipIdx (List.mem_mergeSort.mp hq)
  rw [hp', hq']
  unfold List.zipIdxLE at h
  grind

theorem pairwise_mergeSort_zipIdx_of_mem {le : β → β → Bool} {P : β → Prop}
    (trans : ∀ a b c, P a → P b → P c → le a b → le b c → le a c)
    (total : ∀ a b, P a → P b → le a b || le b a) {l : List β} (hl : ∀ a ∈ l, P a) :
    (l.zipIdx.mergeSort fun r s => le r.1 s.1).Pairwise fun r s =>
      le r.1 s.1 ∧ (le s.1 r.1 → r.2 ≤ s.2) := by
  -- Elements with their proofs of `P` are sorted instead, where the laws hold throughout.
  let ps := l.attachWith P hl
  let unpack : { a // P a } × Nat → β × Nat := Prod.map Subtype.val id
  have hz : l.zipIdx = ps.zipIdx.map unpack := by
    rw [← List.zipIdx_map, List.attachWith_map_subtype_val]
  have hm : (ps.zipIdx.mergeSort fun r s => le r.1.1 s.1.1).map unpack =
      (ps.zipIdx.map unpack).mergeSort fun r s => le r.1 s.1 :=
    List.map_mergeSort fun _ _ _ _ => rfl
  rw [hz, ← hm, List.pairwise_map]
  exact pairwise_mergeSort_zipIdx (fun a b : { a // P a } => le a.1 b.1)
    (fun a b c => trans a.1 b.1 c.1 a.2 b.2 c.2) (fun a b => total a.1 b.1 a.2 b.2) ps

theorem pairwise_of_isSortedBy {le : β → β → Bool} {P : β → Prop}
    (trans : ∀ a b c, P a → P b → P c → le a b → le b c → le a c) {l : List β}
    (hl : ∀ a ∈ l, P a) (h : isSortedBy le l = true) : l.Pairwise fun a b => le a b := by
  induction l with
  | nil => exact .nil
  | cons a l ih =>
    cases l with
    | nil => exact List.pairwise_singleton _ _
    | cons b l =>
      simp only [isSortedBy, Bool.and_eq_true] at h
      have hp := ih (fun x hx => hl x (List.mem_cons_of_mem _ hx)) h.2
      refine List.pairwise_cons.mpr ⟨fun c hc => ?_, hp⟩
      rcases List.mem_cons.mp hc with rfl | hc
      · exact h.1
      · exact trans a b c (hl a (by simp)) (hl b (by simp)) (hl c (by simp [hc])) h.1
          ((List.pairwise_cons.mp hp).1 c hc)

namespace Comparator

variable {α : Type}

theorem orderOf_perm (rows : List Keys) : (orderOf rows).Perm (List.range rows.length) := by
  have hp := (List.mergeSort_perm rows.zipIdx fun r s => Keys.le r.1 s.1).map Prod.snd
  rwa [List.zipIdx_map_snd, ← List.range_eq_range'] at hp

theorem orderOf_of_isSortedBy {ds : List Bool} {rows : List Keys}
    (hr : ∀ ks ∈ rows, Keys.Directed ds ks) (hs : isSortedBy Keys.le rows = true) :
    orderOf rows = List.range rows.length := by
  have hp : rows.Pairwise fun ks ls => Keys.le ks ls :=
    pairwise_of_isSortedBy Keys.Directed.le_trans hr hs
  have hz : rows.zipIdx.Pairwise fun r s => Keys.le r.1 s.1 := by
    rw [← List.zipIdx_map_fst 0 rows, List.pairwise_map] at hp
    exact hp
  rw [orderOf, List.mergeSort_of_pairwise hz, List.zipIdx_map_snd, List.range_eq_range']

theorem arrange_eq_applyPermutation {ds : List Bool} {rows : List Keys} {items : Array α}
    (hn : rows.length = items.size) (hr : ∀ ks ∈ rows, Keys.Directed ds ks) :
    arrange items rows = applyPermutation (orderOf rows).toArray items := by
  unfold arrange
  split
  next hs => rw [orderOf_of_isSortedBy hr hs, hn, applyPermutation_range]
  next => rfl

theorem rows_ok [Inspect α] {c : Comparator α} {items : List α} {rs : List Keys} :
    (c.rows items).outcome = .ok rs ↔
      List.Forall₂ (fun a ks => (c.keys a).outcome = .ok ks) items rs := by
  induction items generalizing rs with
  | nil =>
    rw [List.forall₂_nil_left_iff, rows, Traced.outcome_pure, Except.ok.injEq]
    exact eq_comm
  | cons a items ih =>
    simp only [rows, Traced.outcome_bind_eq_ok, Traced.outcome_pure, Except.ok.injEq, ih,
      List.forall₂_cons_left_iff]
    constructor
    · rintro ⟨ks, hk, rs, hr, rfl⟩
      exact ⟨ks, rs, hk, hr, rfl⟩
    · rintro ⟨ks, rs, hk, hr, rfl⟩
      exact ⟨ks, hk, rs, hr, rfl⟩

theorem exists_rows [Inspect α] {c : Comparator α} {items : List α}
    (h : ∀ a ∈ items, ∃ ks, (c.keys a).outcome = .ok ks) :
    ∃ rs, (c.rows items).outcome = .ok rs := by
  induction items with
  | nil => exact ⟨[], rfl⟩
  | cons a items ih =>
    obtain ⟨ks, hk⟩ := h a List.mem_cons_self
    obtain ⟨rs, hr⟩ := ih fun b hb => h b (List.mem_cons_of_mem _ hb)
    exact ⟨ks :: rs, rows_ok.mpr (.cons hk (rows_ok.mp hr))⟩

theorem rows_directed [Inspect α] {c : Comparator α} {items : List α} {rs : List Keys}
    (h : (c.rows items).outcome = .ok rs) :
    ∀ ks ∈ rs, Keys.Directed (c.evaluators.map Evaluator.inverted) ks := by
  have hf := rows_ok.mp h
  clear h
  induction hf with
  | nil => nofun
  | cons hk _ ih =>
    intro ks hks
    rcases List.mem_cons.mp hks with rfl | hks
    · exact keysBy_directed hk
    · exact ih ks hks

theorem sort_ok [Inspect α] {c : Comparator α} {items : Array α} {rs : List Keys}
    (h : (c.rows items.toList).outcome = .ok rs) :
    (c.sort items).outcome = .ok (applyPermutation (orderOf rs).toArray items) := by
  have hn : rs.length = items.size := (rows_ok.mp h).length_eq.symm
  rw [← arrange_eq_applyPermutation hn (rows_directed h)]
  exact Traced.outcome_bind_eq_ok.mpr ⟨rs, h, rfl⟩

theorem isShuffle_orderOf (rows : List Keys) : IsShuffle (orderOf rows).toArray rows.length :=
  .of_perm (orderOf_perm rows)

theorem exists_row {rows : List Keys} {q : Nat} (hq : q < rows.length) :
    ∃ ks, (rows.zipIdx.mergeSort fun r s => Keys.le r.1 s.1)[q]? =
        some (ks, source (orderOf rows).toArray q) ∧
      rows[source (orderOf rows).toArray q]? = some ks := by
  have hl : q < (rows.zipIdx.mergeSort fun r s => Keys.le r.1 s.1).length := by
    rwa [List.length_mergeSort, List.length_zipIdx]
  have hg := List.getElem?_eq_getElem hl
  have hs : source (orderOf rows).toArray q =
      (rows.zipIdx.mergeSort fun r s => Keys.le r.1 s.1)[q].2 := by
    simp [source, orderOf, hg]
  have hm := List.mem_zipIdx_iff_getElem?.mp (List.mem_mergeSort.mp (List.getElem_mem hl))
  rw [← hs] at hm
  exact ⟨_, by rw [hg, hs], hm⟩

theorem le_of_place_lt {ds : List Bool} {rows : List Keys} {q r : Nat} {ks ls : Keys}
    (hr : ∀ ks ∈ rows, Keys.Directed ds ks) (hqr : q < r) (hl : r < rows.length)
    (hks : rows[source (orderOf rows).toArray q]? = some ks)
    (hls : rows[source (orderOf rows).toArray r]? = some ls) :
    Keys.le ks ls ∧ (Keys.le ls ks →
      source (orderOf rows).toArray q ≤ source (orderOf rows).toArray r) := by
  obtain ⟨ks', hq, hq'⟩ := exists_row (hqr.trans hl)
  obtain ⟨ls', hr', hr''⟩ := exists_row hl
  cases hks.symm.trans hq'
  cases hls.symm.trans hr''
  obtain ⟨hqn, hq⟩ := List.getElem?_eq_some_iff.mp hq
  obtain ⟨hrn, hr'⟩ := List.getElem?_eq_some_iff.mp hr'
  have hp := pairwise_mergeSort_zipIdx_of_mem Keys.Directed.le_trans Keys.Directed.le_total hr
  have h := List.pairwise_iff_getElem.mp hp q r hqn hrn hqr
  rwa [hq, hr'] at h

theorem place_lt_iff {ds : List Bool} {rows : List Keys} {q r : Nat} {ks ls : Keys}
    (hr : ∀ ks ∈ rows, Keys.Directed ds ks) (hq : q < rows.length) (hl : r < rows.length)
    (hks : rows[source (orderOf rows).toArray q]? = some ks)
    (hls : rows[source (orderOf rows).toArray r]? = some ls) (hne : q ≠ r) :
    q < r ↔ Keys.compare ks ls = .lt ∨ (ks == ls) = true ∧
      source (orderOf rows).toArray q < source (orderOf rows).toArray r := by
  have hs := Keys.compare_swap
    ((hr ls (List.mem_of_getElem? hls)).aligned (hr ks (List.mem_of_getElem? hks)))
  have hinj := (isShuffle_orderOf rows).inj q hq r hl
  have before := fun h => le_of_place_lt hr h hl hks hls
  have after := fun h => le_of_place_lt hr h hq hls hks
  rw [Keys.beq_iff]
  simp only [Keys.le, hs] at before after
  cases ho : Keys.compare ks ls with
  | lt =>
    have hn : ¬ r < q := by
      intro h
      have hle := (after h).1
      rw [ho] at hle
      cases hle
    simp only [true_or, iff_true]
    omega
  | gt =>
    have hn : ¬ q < r := by
      intro h
      have hle := (before h).1
      rw [ho] at hle
      cases hle
    simp only [reduceCtorEq, false_and, or_false, iff_false]
    exact hn
  | eq =>
    have hq' := fun h => (before h).2 (by rw [ho]; rfl)
    have hr' := fun h => (after h).2 (by rw [ho]; rfl)
    simp only [reduceCtorEq, false_or, true_and]
    omega

/-- What it is to have sorted stably: every item has one place, and of two items the one with the
smaller keys comes first, or the one that came first if their keys are equal. -/
def StableOrder [Inspect α] (c : Comparator α) (items sorted : Array α) : Prop :=
  sorted.size = items.size ∧ ∃ place : Equiv.Perm (Fin items.size),
    (∀ i, sorted[(place i : Nat)]? = some items[i]) ∧
      ∀ i j ks ls, (c.keys items[i]).outcome = .ok ks → (c.keys items[j]).outcome = .ok ls →
        i ≠ j → (place i < place j ↔
          Keys.compare ks ls = .lt ∨ (ks == ls) = true ∧ i < j)

theorem applyPermutation_stableOrder [Inspect α] {c : Comparator α} {items : Array α}
    {rows : List Keys} (h : (c.rows items.toList).outcome = .ok rows) :
    c.StableOrder items (applyPermutation (orderOf rows).toArray items) := by
  have hf := rows_ok.mp h
  have hn : rows.length = items.size := hf.length_eq.symm
  have ho : IsShuffle (orderOf rows).toArray items.size := hn ▸ isShuffle_orderOf rows
  have row (i : Fin items.size) (ks : Keys) (hk : (c.keys items[i]).outcome = .ok ks) :
      rows[(i : Nat)]? = some ks := by
    have hi : (i : Nat) < rows.length := by rw [hn]; exact i.isLt
    have hg := hf.get i.isLt hi
    rw [List.get_eq_getElem, Array.getElem_toList] at hg
    cases hk.symm.trans hg
    exact List.getElem?_eq_getElem hi
  obtain ⟨place, hp⟩ := ho.exists_place
  refine ⟨size_applyPermutation ho, place, fun i => ?_, fun i j ks ls hki hkj hij => ?_⟩
  · rw [getElem?_applyPermutation ho (place i).isLt, hp]
    exact Array.getElem?_eq_getElem i.isLt
  · have hne : (place i : Nat) ≠ place j := fun he => hij (place.injective (Fin.ext he))
    have hi := row i ks hki
    have hj := row j ls hkj
    rw [← hp i] at hi
    rw [← hp j] at hj
    have hlt := place_lt_iff (rows_directed h) (by omega) (by omega) hi hj hne
    rwa [hp, hp] at hlt

theorem sort_stable [Inspect α] (c : Comparator α) (items : Array α)
    (h : ∀ a ∈ items, ∃ ks, (c.keys a).outcome = .ok ks) :
    ∃ sorted rows, (c.sort items).outcome = .ok sorted ∧
      (c.rows items.toList).outcome = .ok rows ∧ c.StableOrder items sorted ∧
      (isSortedBy Keys.le rows = true → sorted = items) ∧
      sorted = applyPermutation (orderOf rows).toArray items := by
  obtain ⟨rows, hr⟩ := exists_rows fun a ha => h a (Array.mem_toList_iff.mp ha)
  have hs := sort_ok hr
  refine ⟨_, rows, hs, hr, applyPermutation_stableOrder hr, fun hsort => ?_, rfl⟩
  have hn : rows.length = items.size := (rows_ok.mp hr).length_eq.symm
  rw [← arrange_eq_applyPermutation hn (rows_directed hr), arrange, if_pos hsort]

theorem sort_stable_lists :
    let c : Comparator (List Bool) :=
      .ofCriteria [.callable fun l => .bool l.isEmpty, .signed (.finite true 1)]
    ∃ sorted rows, (c.sort #[[], [false], [true], [false]]).outcome = .ok sorted ∧
      (c.rows [[], [false], [true], [false]]).outcome = .ok rows ∧
      c.StableOrder #[[], [false], [true], [false]] sorted ∧
      (isSortedBy Keys.le rows = true → sorted = #[[], [false], [true], [false]]) ∧
      sorted = applyPermutation (orderOf rows).toArray #[[], [false], [true], [false]] :=
  sort_stable _ _ fun _ _ => ⟨_, rfl⟩

example :
    let c : Comparator (List Bool) :=
      .ofCriteria [.callable fun l => .bool l.isEmpty, .signed (.finite true 1)]
    (c.sort #[[], [false], [true], [false]]).outcome = .ok #[[true], [false], [false], []] := by
  cbv

end Comparator

end Collate

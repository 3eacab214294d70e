import Collate.Proofs.Sort.Extraction
import Collate.Proofs.Sort.Sorting

namespace Collate

section

variable {β : Type} {le le' : β → β → Bool} {R : β → β → Prop} {l : List β}

structure IsTotalLe (le : β → β → Bool) : Prop where
  trans : ∀ a b c, le a b → le b c → le a c
  total : ∀ a b, le a b || le b a

theorem IsTotalLe.on {γ : Type} (h : IsTotalLe le) (f : γ → β) :
    IsTotalLe fun a b => le (f a) (f b) :=
  ⟨fun _ _ _ => h.trans _ _ _, fun _ _ => h.total _ _⟩

theorem IsTotalLe.flip (h : IsTotalLe le) : IsTotalLe fun a b => le b a :=
  ⟨fun a b c hab hbc => h.trans c b a hbc hab, fun a b => h.total b a⟩

def Refined (le : β → β → Bool) (R : β → β → Prop) (a b : β) : Prop :=
  le a b ∧ (le b a → R a b)

theorem Refined.asymm (hR : ∀ a b, R a b → ¬ R b a) {a b : β} (hab : Refined le R a b) :
    ¬ Refined le R b a :=
  fun hba => hR a b (hab.2 hba.1) (hba.2 hab.1)

theorem map_fst_mergeSort (le : β → β → Bool) (rs : List (β × Nat)) :
    (rs.mergeSort fun r s => le r.1 s.1).map Prod.fst = (rs.map Prod.fst).mergeSort le :=
  List.map_mergeSort fun _ _ _ _ => rfl

theorem map_mergeSort_zipIdx {γ : Type} (f : γ → β) (le : β → β → Bool) (l : List γ) :
    (l.zipIdx.mergeSort fun r s => le (f r.1) (f s.1)).map (Prod.map f id) =
      (l.map f).zipIdx.mergeSort fun r s => le r.1 s.1 := by
  rw [List.zipIdx_map]
  exact List.map_mergeSort fun _ _ _ _ => rfl

theorem pairwise_zipIdx (l : List β) : l.zipIdx.Pairwise fun r s => r.2 < s.2 := by
  rw [← List.pairwise_map (R := (· < ·)), List.zipIdx_map_snd]
  exact List.pairwise_lt_range'

theorem IsTotalLe.pairwise_mergeSort (h : IsTotalLe le) (hl : l.Pairwise R) :
    (l.mergeSort le).Pairwise (Refined le R) := by
  have hm := map_fst_mergeSort le l.zipIdx
  rw [List.zipIdx_map_fst] at hm
  have hne : (l.zipIdx.mergeSort fun r s => le r.1 s.1).Pairwise fun r s => r.2 ≠ s.2 :=
    ((pairwise_zipIdx l).imp Nat.ne_of_lt).perm (List.mergeSort_perm _ _).symm Ne.symm
  rw [← hm, List.pairwise_map]
  refine ((pairwise_mergeSort_zipIdx le h.trans h.total l).and hne).imp_of_mem ?_
  intro r s hr hs hrs
  obtain ⟨hi, hr⟩ := List.getElem?_eq_some_iff.mp
    (List.mem_zipIdx_iff_getElem?.mp (List.mem_mergeSort.mp hr))
  obtain ⟨hj, hs⟩ := List.getElem?_eq_some_iff.mp
    (List.mem_zipIdx_iff_getElem?.mp (List.mem_mergeSort.mp hs))
  refine ⟨hrs.1.1, fun hsr => ?_⟩
  rw [← hr, ← hs]
  exact List.pairwise_iff_getElem.mp hl r.2 s.2 hi hj
    (Nat.lt_of_le_of_ne (hrs.1.2 hsr) hrs.2)

theorem IsTotalLe.eq_mergeSort (h : IsTotalLe le) {rs : List (β × Nat)} (hp : rs.Perm l.zipIdx)
    (hrs : rs.Pairwise (Refined (fun r s => le r.1 s.1) fun r s => r.2 < s.2)) :
    rs.map Prod.fst = l.mergeSort le := by
  have hs := (h.on Prod.fst).pairwise_mergeSort (pairwise_zipIdx l)
  have hr : rs = l.zipIdx.mergeSort fun r s => le r.1 s.1 := by
    refine List.Perm.eq_of_pairwise ?_ hrs hs (hp.trans (List.mergeSort_perm _ _).symm)
    intro r s _ _ hrs hsr
    exact absurd hsr (Refined.asymm (fun _ _ => Nat.lt_asymm) hrs)
  rw [hr, map_fst_mergeSort, List.zipIdx_map_fst]

theorem IsTotalLe.exists_place (h : IsTotalLe le) (l : List β) :
    ∃ place : Equiv.Perm (Fin l.length), (∀ i, (l.mergeSort le)[(place i : Nat)]? = some l[i]) ∧
      ∀ i j, place i < place j → le l[i] l[j] ∧ (le l[j] l[i] → i < j) := by
  let rs := l.zipIdx.mergeSort fun r s => le r.1 s.1
  have hlen : rs.length = l.length := by rw [List.length_mergeSort, List.length_zipIdx]
  have ho : IsShuffle (rs.map Prod.snd).toArray l.length := by
    apply IsShuffle.of_perm
    have hp := (List.mergeSort_perm l.zipIdx fun r s => le r.1 s.1).map Prod.snd
    rwa [List.zipIdx_map_snd, ← List.range_eq_range'] at hp
  obtain ⟨place, hplace⟩ := ho.exists_place
  have hrow (i : Fin l.length) : rs[(place i : Nat)]? = some (l[i], (i : Nat)) := by
    have hi : (place i : Nat) < rs.length := by omega
    have hs : rs[(place i : Nat)].2 = i := by
      have hq := hplace i
      simpa [source, List.getElem?_eq_getElem hi] using hq
    have hm := List.mem_zipIdx_iff_getElem?.mp (List.mem_mergeSort.mp (List.getElem_mem hi))
    rw [hs, List.getElem?_eq_getElem i.isLt] at hm
    rw [List.getElem?_eq_getElem hi]
    exact congrArg some (Prod.ext (Option.some.inj hm).symm hs)
  refine ⟨place, fun i => ?_, fun i j hij => ?_⟩
  · have hm := map_fst_mergeSort le l.zipIdx
    rw [List.zipIdx_map_fst] at hm
    rw [← hm, List.getElem?_map, hrow]
    rfl
  · obtain ⟨hi, hri⟩ := List.getElem?_eq_some_iff.mp (hrow i)
    obtain ⟨hj, hrj⟩ := List.getElem?_eq_some_iff.mp (hrow j)
    have hp : rs.Pairwise _ := pairwise_mergeSort_zipIdx le h.trans h.total l
    have hs := List.pairwise_iff_getElem.mp hp _ _ hi hj hij
    rw [hri, hrj] at hs
    refine ⟨hs.1, fun hji => Nat.lt_of_le_of_ne (hs.2 hji) fun he => ?_⟩
    rw [Fin.ext he] at hij
    exact absurd hij (lt_irrefl _)

def lexLe (le le' : β → β → Bool) (a b : β) : Bool :=
  le a b && (!le b a || le' a b)

theorem refined_refined (a b : β) :
    Refined le (Refined le' R) a b ↔ Refined (lexLe le le') R a b := by
  unfold Refined lexLe
  cases le a b <;> cases le b a <;> cases le' a b <;> simp

theorem IsTotalLe.lexLe (h : IsTotalLe le) (h' : IsTotalLe le') : IsTotalLe (lexLe le le') where
  trans a b c hab hbc := by
    have h1 := h.trans a b c
    have h2 := h.trans b c a
    have h3 := h.trans c a b
    have h4 := h'.trans a b c
    grind [Collate.lexLe]
  total a b := by
    have h1 := h.total a b
    have h2 := h'.total a b
    grind [Collate.lexLe]

theorem mergeSort_mergeSort (h : IsTotalLe le) (h' : IsTotalLe le') (l : List β) :
    (l.mergeSort le').mergeSort le = l.mergeSort (lexLe le le') := by
  have hs := (h.on Prod.fst).pairwise_mergeSort
    ((h'.on Prod.fst).pairwise_mergeSort (pairwise_zipIdx l))
  have hp := (List.mergeSort_perm (l.zipIdx.mergeSort fun r s => le' r.1 s.1)
    fun r s => le r.1 s.1).trans (List.mergeSort_perm _ _)
  rw [← (h.lexLe h').eq_mergeSort hp (hs.imp (refined_refined _ _).mp), map_fst_mergeSort,
    map_fst_mergeSort, List.zipIdx_map_fst]

theorem reverse_mergeSort_reverse (h : IsTotalLe le) (l : List β) :
    (l.reverse.mergeSort le).reverse = l.mergeSort fun a b => le b a := by
  have hs := (h.on Prod.fst).pairwise_mergeSort (R := fun r s => s.2 < r.2)
    (List.pairwise_reverse.mpr (pairwise_zipIdx l))
  have hp := (List.reverse_perm (l.zipIdx.reverse.mergeSort fun r s => le r.1 s.1)).trans
    ((List.mergeSort_perm _ _).trans (List.reverse_perm _))
  rw [← h.flip.eq_mergeSort hp (List.pairwise_reverse.mpr hs), List.map_reverse,
    map_fst_mergeSort, List.map_reverse, List.zipIdx_map_fst]

theorem mergeSort_congr (h : ∀ a ∈ l, ∀ b ∈ l, le a b = le' a b) :
    l.mergeSort le = l.mergeSort le' := by
  have hm := List.map_mergeSort (f := id) h
  rwa [List.map_id, List.map_id] at hm

end

namespace Comparator

open Traced

variable {α : Type} [Inspect α]

/-- The keys of an item. Where one cannot be extracted, none has a value. -/
def row (c : Comparator α) (a : α) : Keys :=
  match (c.keys a).outcome with
  | .ok ks => ks
  | .error _ => c.evaluators.map fun e => ⟨.absent, e.inverted⟩

def le (c : Comparator α) (a b : α) : Bool :=
  Keys.le (c.row a) (c.row b)

theorem row_eq {c : Comparator α} {a : α} {ks : Keys} (h : (c.keys a).outcome = .ok ks) :
    c.row a = ks := by
  rw [row, h]

theorem row_directed (c : Comparator α) (a : α) :
    Keys.Directed (c.evaluators.map Evaluator.inverted) (c.row a) := by
  cases h : (c.keys a).outcome with
  | ok ks => rw [row_eq h]; exact keysBy_directed h
  | error e => rw [row, h, Keys.Directed, List.map_map]; rfl

theorem isTotalLe_le (c : Comparator α) : IsTotalLe c.le where
  trans a b d := Keys.Directed.le_trans _ _ _ (c.row_directed a) (c.row_directed b)
    (c.row_directed d)
  total a b := Keys.Directed.le_total _ _ (c.row_directed a) (c.row_directed b)

theorem rows_eq_map_row {c : Comparator α} {items : List α}
    (h : ∀ a ∈ items, (c.keys a).Succeeds) : (c.rows items).outcome = .ok (items.map c.row) := by
  rw [rows_ok, List.forall₂_map_right_iff, List.forall₂_same]
  intro a ha
  obtain ⟨ks, hk⟩ := h a ha
  rw [hk, row_eq hk]

theorem sort_eq_mergeSort {c : Comparator α} {items : Array α}
    (h : ∀ a ∈ items, (c.keys a).Succeeds) :
    (c.sort items).outcome = .ok (items.toList.mergeSort c.le).toArray := by
  have hr := rows_eq_map_row fun a ha => h a (Array.mem_toList_iff.mp ha)
  have hn : (items.toList.map c.row).length = items.size := by
    rw [List.length_map, Array.length_toList]
  have ho : IsShuffle (orderOf (items.toList.map c.row)).toArray items.size :=
    hn ▸ isShuffle_orderOf _
  rw [sort_ok hr]
  refine congrArg Except.ok (Array.ext_getElem? fun q => ?_)
  by_cases hq : q < items.size
  · -- The item at `q` and the place that it comes from, before the items are forgotten.
    let placed := items.toList.zipIdx.mergeSort fun r s => c.le r.1 s.1
    have hrow : placed.map (Prod.map c.row id) =
        (items.toList.map c.row).zipIdx.mergeSort fun r s => Keys.le r.1 s.1 :=
      map_mergeSort_zipIdx c.row Keys.le items.toList
    have hitem : placed.map Prod.fst = items.toList.mergeSort c.le := by
      rw [map_fst_mergeSort, List.zipIdx_map_fst]
    obtain ⟨ks, hk, -⟩ := exists_row (hn ▸ hq)
    rw [← hrow, List.getElem?_map, Option.map_eq_some_iff] at hk
    obtain ⟨⟨a, i⟩, hp, he⟩ := hk
    have hi : i = source (orderOf (items.toList.map c.row)).toArray q := congrArg Prod.snd he
    have ha := List.mem_zipIdx_iff_getElem?.mp (List.mem_mergeSort.mp (List.mem_of_getElem? hp))
    rw [getElem?_applyPermutation ho hq, ← hi, ← Array.getElem?_toList, ha, List.getElem?_toArray,
      ← hitem, List.getElem?_map, hp]
    rfl
  · rw [Array.getElem?_eq_none (by rw [size_applyPermutation ho]; omega),
      Array.getElem?_eq_none (by simp; omega)]

theorem sort_of_refined {c : Comparator α} {items : Array α} {rs : List (α × Nat)}
    (h : ∀ a ∈ items, (c.keys a).Succeeds) (hp : rs.Perm items.toList.zipIdx)
    (hr : rs.Pairwise (Refined (fun r s => c.le r.1 s.1) fun r s => r.2 < s.2)) :
    (c.sort items).outcome = .ok (rs.map Prod.fst).toArray := by
  rw [sort_eq_mergeSort h, (isTotalLe_le c).eq_mergeSort hp hr]

theorem stableOrder_of_sort {c : Comparator α} {items sorted : Array α}
    (h : (c.sort items).outcome = .ok sorted) : c.StableOrder items sorted := by
  obtain ⟨rows, hr, -⟩ := outcome_bind_eq_ok.mp h
  rw [sort_ok hr] at h
  cases h
  exact applyPermutation_stableOrder hr

theorem exists_sort_error {c : Comparator α} {items : Array α} :
    (∃ e, (c.sort items).outcome = .error e) ↔ ∃ a ∈ items, ∃ e, (c.keys a).outcome = .error e := by
  simp only [sort_error_iff, ← not_succeeds_iff, rows_eq_mapM, succeeds_mapM, not_forall,
    exists_prop, Array.mem_toList_iff]

theorem keysBy_append {a : α} {es fs : List (Evaluator α)} {ks ls : Keys}
    (hk : (keysBy a es).outcome = .ok ks) (hl : (keysBy a fs).outcome = .ok ls) :
    (keysBy a (es ++ fs)).outcome = .ok (ks ++ ls) := by
  induction es generalizing ks with
  | nil => cases hk; exact hl
  | cons e es ih =>
    obtain ⟨v, ks, hv, hks, rfl⟩ := keysBy_cons_ok.mp hk
    exact keysBy_cons_ok.mpr ⟨v, ks ++ ls, hv, ih hks, rfl⟩

theorem succeeds_keys_ofCriteria {cs : Criteria α} {a : α} :
    ((ofCriteria cs).keys a).Succeeds ↔ ∀ c ∈ cs, (c.compile.extract a).Succeeds := by
  rw [succeeds_keys, ofCriteria, List.forall_mem_map]

theorem row_append {cs ds : Criteria α} {a : α} (hc : ((ofCriteria cs).keys a).Succeeds)
    (hd : ((ofCriteria ds).keys a).Succeeds) :
    (ofCriteria (cs ++ ds)).row a = (ofCriteria cs).row a ++ (ofCriteria ds).row a := by
  obtain ⟨ks, hk⟩ := hc
  obtain ⟨ls, hl⟩ := hd
  rw [row_eq hk, row_eq hl]
  apply row_eq
  rw [keys, ofCriteria, List.map_append]
  exact keysBy_append hk hl

theorem sort_append (cs ds : Criteria α) (items : Array α)
    (h : ∀ a ∈ items, ∀ c ∈ cs ++ ds, (c.compile.extract a).Succeeds) :
    ∃ once sorted, ((ofCriteria ds).sort items).outcome = .ok once ∧
      ((ofCriteria cs).sort once).outcome = .ok sorted ∧
        ((ofCriteria (cs ++ ds)).sort items).outcome = .ok sorted := by
  have hc (a : α) (ha : a ∈ items) : ((ofCriteria cs).keys a).Succeeds :=
    succeeds_keys_ofCriteria.mpr fun c hc => h a ha c (List.mem_append_left _ hc)
  have hd (a : α) (ha : a ∈ items) : ((ofCriteria ds).keys a).Succeeds :=
    succeeds_keys_ofCriteria.mpr fun c hc => h a ha c (List.mem_append_right _ hc)
  have hcd (a : α) (ha : a ∈ items) : ((ofCriteria (cs ++ ds)).keys a).Succeeds :=
    succeeds_keys_ofCriteria.mpr (h a ha)
  refine ⟨_, _, sort_eq_mergeSort hd, sort_eq_mergeSort fun a ha => hc a ?_, ?_⟩
  · rwa [List.mem_toArray, List.mem_mergeSort, Array.mem_toList_iff] at ha
  · rw [sort_eq_mergeSort hcd, mergeSort_mergeSort (isTotalLe_le _) (isTotalLe_le _)]
    refine congrArg (fun l => Except.ok (List.toArray l)) (mergeSort_congr fun a ha b hb => ?_)
    rw [Array.mem_toList_iff] at ha hb
    unfold le
    rw [row_append (hc a ha) (hd a ha), row_append (hc b hb) (hd b hb)]
    exact Keys.le_append ((row_directed _ a).aligned (row_directed _ b)) _ _

theorem sort_append_lists :
    let cs : Criteria (List Bool) := [.callable fun l => .bool l.isEmpty, .path "0"]
    let ds : Criteria (List Bool) := [.signed (.finite true 1)]
    let items : Array (List Bool) := #[[], [false], [true, false], [true], [false, false]]
    let once : Array (List Bool) := #[[true, false], [true], [false, false], [false], []]
    let sorted : Array (List Bool) := #[[false, false], [false], [true, false], [true], []]
    (∀ a ∈ items, ∀ c ∈ cs ++ ds, (c.compile.extract a).Succeeds) ∧
      ((ofCriteria ds).sort items).outcome = .ok once ∧
        ((ofCriteria cs).sort once).outcome = .ok sorted ∧
          ((ofCriteria (cs ++ ds)).sort items).outcome = .ok sorted := by
  intro cs ds items once sorted
  have h : ∀ a ∈ items, ∀ c ∈ cs ++ ds, (c.compile.extract a).Succeeds := by
    intro a _ c hc
    simp only [cs, ds, List.cons_append, List.nil_append, List.mem_cons, List.not_mem_nil,
      or_false] at hc
    rcases hc with rfl | rfl | rfl
    · exact ⟨_, rfl⟩
    · exact ⟨_, rfl⟩
    · exact ⟨_, rfl⟩
  have honce : ((ofCriteria ds).sort items).outcome = .ok once := by
    have hp : [([true, false], 2), ([true], 3), ([false, false], 4), ([false], 1), ([], 0)].Perm
      items.toList.zipIdx := by decide
    refine sort_of_refined (fun _ _ => ⟨_, rfl⟩) hp ?_
    unfold Refined
    decide +kernel
  have hsorted : ((ofCriteria cs).sort once).outcome = .ok sorted := by
    have hp : [([false, false], 2), ([false], 3), ([true, false], 0), ([true], 1), ([], 4)].Perm
      once.toList.zipIdx := by decide
    refine sort_of_refined (fun _ _ => ⟨_, rfl⟩) hp ?_
    unfold Refined
    decide +kernel
  obtain ⟨once', sorted', hd, hc, hcd⟩ := sort_append cs ds items h
  cases honce.symm.trans hd
  cases hsorted.symm.trans hc
  exact ⟨h, honce, hsorted, hcd⟩

end Comparator

end Collate

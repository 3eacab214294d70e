import Collate.Proofs.Sort.Stability
import Mathlib.Data.List.SplitBy

namespace Collate

section

variable {β γ : Type}

theorem map_splitBy (f : γ → β) (r : β → β → Bool) (l : List γ) :
    (l.map f).splitBy r = (l.splitBy fun a b => r (f a) (f b)).map (List.map f) := by
  refine List.splitBy_eq_iff.mpr ⟨?_, ?_, ?_, ?_⟩
  · rw [← List.map_flatten, List.flatten_splitBy]
  · intro h
    obtain ⟨g, hg, he⟩ := List.mem_map.mp h
    exact List.ne_nil_of_mem_splitBy hg (List.map_eq_nil_iff.mp he)
  · rw [List.forall_mem_map]
    exact fun g hg => (List.isChain_map f).mpr (List.isChain_of_mem_splitBy hg)
  · rw [List.isChain_map]
    refine (List.isChain_getLast_head_splitBy _ l).imp ?_
    rintro g h ⟨hg, hh, hr⟩
    refine ⟨mt List.map_eq_nil_iff.mp hg, mt List.map_eq_nil_iff.mp hh, ?_⟩
    rwa [List.getLast_map, List.head_map]

structure Grouped (cmp : β → β → Ordering) (groups : List (List β)) : Prop where
  nonempty : ∀ g ∈ groups, g ≠ []
  tied : ∀ g ∈ groups, ∀ a ∈ g, ∀ b ∈ g, cmp a b = .eq
  apart : groups.Pairwise fun g h => ∀ a ∈ g, ∀ b ∈ h, cmp a b = .lt

theorem grouped_splitBy (cmp : β → β → Ordering) [Std.TransCmp cmp] {l : List β}
    (hl : l.Pairwise fun a b => (cmp a b).isLE) :
    Grouped cmp (l.splitBy fun a b => cmp a b = .eq) := by
  let groups := l.splitBy fun a b => cmp a b = .eq
  have hne (g) (hg : g ∈ groups) : g ≠ [] := List.ne_nil_of_mem_splitBy hg
  have hsorted := hl
  rw [← List.flatten_splitBy (fun a b => cmp a b = .eq) l, List.pairwise_flatten] at hsorted
  obtain ⟨hinner, houter⟩ := hsorted
  refine ⟨hne, fun g hg a ha b hb => ?_, ?_⟩
  · have hc : g.IsChain fun a b => cmp a b = .eq :=
      (List.isChain_of_mem_splitBy hg).imp fun _ _ => of_decide_eq_true
    have : IsTrans β fun a b => cmp a b = .eq := ⟨fun _ _ _ => Std.TransCmp.eq_trans⟩
    have : Std.Symm fun a b => cmp a b = .eq := ⟨fun _ _ => Std.OrientedCmp.eq_symm⟩
    exact (List.isChain_iff_pairwise.mp hc).forall_of_forall
      (fun _ _ => Std.ReflCmp.compare_self) ha hb
  · -- Two groups side by side are apart where they meet, and so are all their elements.
    let Before (g h : List β) : Prop := h ≠ [] ∧ ∀ a ∈ g, ∀ b ∈ h, cmp a b = .lt
    have : IsTrans (List β) Before := by
      refine ⟨fun g h k hgh hhk => ⟨hhk.1, fun a ha b hb => ?_⟩⟩
      obtain ⟨d, hd⟩ := List.exists_mem_of_ne_nil h hgh.1
      exact Std.TransCmp.lt_trans (hgh.2 a ha d hd) (hhk.2 d hd b hb)
    have : Std.Refl fun a b => (cmp a b).isLE := ⟨fun _ => Std.ReflCmp.isLE_rfl⟩
    have hmeet := List.isChain_getLast_head_splitBy (fun a b => cmp a b = .eq) l
    have hchain : groups.IsChain Before := by
      refine List.isChain_iff_getElem.mpr fun i hi => ?_
      obtain ⟨hg, hh, hm⟩ := List.isChain_iff_getElem.mp hmeet i hi
      refine ⟨hh, fun a ha b hb => ?_⟩
      have hlast : (cmp a (groups[i].getLast hg)).isLE :=
        (hinner _ (List.getElem_mem _)).rel_getLast ha
      have hhead : (cmp (groups[i + 1].head hh) b).isLE :=
        (hinner _ (List.getElem_mem _)).rel_head hb
      have hlt : cmp (groups[i].getLast hg) (groups[i + 1].head hh) = .lt := by
        have hle := List.pairwise_iff_getElem.mp houter i (i + 1) (Nat.lt_of_succ_lt hi) hi
          (Nat.lt_succ_self i) _ (List.getLast_mem hg) _ (List.head_mem hh)
        have hne := of_decide_eq_false hm
        cases hc : cmp (groups[i].getLast hg) (groups[i + 1].head hh) with
        | lt => rfl
        | eq => exact absurd hc hne
        | gt => rw [hc] at hle; cases hle
      exact Std.TransCmp.lt_of_isLE_of_lt hlast (Std.TransCmp.lt_of_lt_of_isLE hlt hhead)
    exact (List.isChain_iff_pairwise.mp hchain).imp And.right

end

namespace Comparator

open Traced

variable {α : Type} [Inspect α]

instance (c : Comparator α) : Std.TransCmp fun a b => Keys.compare (c.row a) (c.row b) where
  eq_swap {a b} := Keys.compare_swap ((c.row_directed a).aligned (c.row_directed b))
  isLE_trans {a b d} := c.isTotalLe_le.trans a b d

theorem calls_group (c : Comparator α) (items : List α) :
    (c.group items).calls = (c.rows items).calls := by
  rw [group, ← map_eq_pure_bind, calls_map]

theorem group_eq_splitBy {c : Comparator α} {items : List α}
    (h : ∀ a ∈ items, (c.keys a).Succeeds) :
    (c.group items).outcome = .ok ((items.mergeSort c.le).splitBy
      fun a b => Keys.compare (c.row a) (c.row b) = .eq) := by
  refine outcome_bind_eq_ok.mpr ⟨_, rows_eq_map_row h, ?_⟩
  let rowed (a : α) : Keys × α := (c.row a, a)
  have hz : (items.map c.row).zip items = items.map rowed := by
    have hz : (items.map c.row).zip (items.map id) = items.map rowed := List.zip_map'
    rwa [List.map_id] at hz
  have hm : (items.map rowed).mergeSort (fun r s => Keys.le r.1 s.1) =
      (items.mergeSort c.le).map rowed :=
    (List.map_mergeSort (f := rowed) fun _ _ _ _ => rfl).symm
  have hs : groupRows (items.map rowed) = (items.mergeSort c.le).splitBy
      fun a b => Keys.compare (c.row a) (c.row b) = .eq := by
    rw [groupRows, hm, map_splitBy, List.map_map]
    refine (List.map_congr_left fun g _ => ?_).trans (List.map_id _)
    rw [Function.comp_apply, List.map_map]
    exact List.map_id g
  rw [hz, hs]
  rfl

/-- Grouping fails as sorting does, and the groups are the sorted items cut where keys differ. -/
theorem group_cuts_sort (c : Comparator α) (items : List α) :
    (c.group items).calls = (c.sort items.toArray).calls ∧
      ((∃ e, (c.group items).outcome = .error e ∧ (c.sort items.toArray).outcome = .error e) ∨
        ∃ groups, (c.group items).outcome = .ok groups ∧
          (c.sort items.toArray).outcome = .ok groups.flatten.toArray ∧
            Grouped (fun a b => Keys.compare (c.row a) (c.row b)) groups) := by
  refine ⟨by rw [calls_group, calls_sort], ?_⟩
  cases ho : (c.rows items).outcome with
  | error e => exact .inl ⟨e, outcome_bind_eq_error.mpr (.inl ho), sort_error_iff.mpr ho⟩
  | ok rows =>
    have h : ∀ a ∈ items, (c.keys a).Succeeds := by
      rw [← succeeds_mapM, ← rows_eq_mapM]
      exact ⟨rows, ho⟩
    refine .inr ⟨_, group_eq_splitBy h, ?_, ?_⟩
    · rw [List.flatten_splitBy, sort_eq_mergeSort fun a ha => h a (List.mem_toArray.mp ha)]
    · exact grouped_splitBy _ (List.pairwise_mergeSort c.isTotalLe_le.trans c.isTotalLe_le.total _)

end Comparator

end Collate

import Collate.Proofs.Inspect
import Collate.Proofs.Sort.Markers
import Collate.Proofs.Sort.Stability

namespace Collate

theorem compareDirected_not (v w : Value) (inverted : Bool) :
    compareDirected v w (!inverted) = (compareDirected v w inverted).swap := by
  cases inverted with
  | false => rw [Bool.not_false, compareDirected_true, compareDirected_false]
  | true => rw [Bool.not_true, compareDirected_true, compareDirected_false, Ordering.swap_swap]

def Key.opposite (k : Key) : Key :=
  ⟨k.value, !k.inverted⟩

theorem Keys.compare_map_opposite {ks ls : Keys} (h : Aligned ks ls) :
    Keys.compare (ks.map Key.opposite) (ls.map Key.opposite) = Keys.compare ls ks := by
  rw [compare_swap (Eq.symm h)]
  induction ks generalizing ls with
  | nil =>
    cases ls with
    | nil => rfl
    | cons l ls => cases h
  | cons k ks ih =>
    cases ls with
    | nil => cases h
    | cons l ls =>
      simp only [List.map_cons, Keys.compare, Ordering.swap_then, ih (aligned_cons.mp h).2]
      congr 1
      exact compareDirected_not _ _ _

variable {α : Type}

def Evaluator.opposite (e : Evaluator α) : Evaluator α :=
  ⟨e.source, !e.inverted⟩

def Comparator.opposite (c : Comparator α) : Comparator α :=
  ⟨c.evaluators.map Evaluator.opposite⟩

namespace Comparator

variable [Inspect α]

theorem keys_opposite (c : Comparator α) (a : α) :
    c.opposite.keys a = List.map Key.opposite <$> c.keys a := by
  unfold keys opposite
  induction c.evaluators with
  | nil => rfl
  | cons e es ih =>
    simp only [List.map_cons, keysBy, ih, map_eq_pure_bind, bind_assoc, pure_bind]
    rfl

theorem row_opposite {c : Comparator α} {a : α} (h : (c.keys a).Succeeds) :
    c.opposite.row a = (c.row a).map Key.opposite := by
  obtain ⟨ks, hk⟩ := h
  rw [row_eq hk]
  apply row_eq
  rw [keys_opposite, Traced.outcome_map, hk]
  rfl

theorem le_opposite {c : Comparator α} {a b : α} (ha : (c.keys a).Succeeds)
    (hb : (c.keys b).Succeeds) : c.opposite.le a b = c.le b a := by
  unfold le Keys.le
  rw [row_opposite ha, row_opposite hb,
    Keys.compare_map_opposite ((row_directed c a).aligned (row_directed c b))]

theorem sort_opposite {c : Comparator α} {items : Array α}
    (h : ∀ a ∈ items, (c.keys a).Succeeds) :
    ∃ sorted, (c.opposite.sort items).outcome = .ok sorted ∧
      (c.sort items.reverse).outcome = .ok sorted.reverse := by
  have ho (a : α) (ha : a ∈ items) : (c.opposite.keys a).Succeeds := by
    rw [keys_opposite, Traced.succeeds_map]
    exact h a ha
  have hm : items.toList.mergeSort c.opposite.le = (items.toList.reverse.mergeSort c.le).reverse := by
    rw [reverse_mergeSort_reverse (isTotalLe_le c)]
    refine mergeSort_congr fun a ha b hb => le_opposite (h a ?_) (h b ?_)
    · exact Array.mem_toList_iff.mp ha
    · exact Array.mem_toList_iff.mp hb
  refine ⟨_, sort_eq_mergeSort ho, ?_⟩
  rw [sort_eq_mergeSort fun a ha => h a (Array.mem_reverse.mp ha), hm, Array.toList_reverse,
    List.reverse_toArray, List.reverse_reverse]

def LacksWith (c : Comparator α) (a b : α) : Prop :=
  ∀ ks ls n k l, (c.keys a).outcome = .ok ks → (c.keys b).outcome = .ok ls →
    Keys.compare (ks.take n) (ls.take n) = .eq → ks[n]? = some k → ls[n]? = some l →
      k.isMissing → l.isMissing

end Comparator

namespace Keys

theorem compare_take_drop {ks ls : Keys} (h : Aligned ks ls) (n : Nat) :
    Keys.compare ks ls =
      (Keys.compare (ks.take n) (ls.take n)).then (Keys.compare (ks.drop n) (ls.drop n)) := by
  have ht : Aligned (ks.take n) (ls.take n) := by
    unfold Aligned at h ⊢
    rw [List.map_take, List.map_take, h]
  rw [← compare_append ht, List.take_append_drop, List.take_append_drop]

theorem isLE_of_le {ks ls : Keys} (h : Aligned ks ls) {n : Nat} {k l : Key} (hle : Keys.le ks ls)
    (ht : Keys.compare (ks.take n) (ls.take n) = .eq) (hk : ks[n]? = some k)
    (hl : ls[n]? = some l) : (k.compare l).isLE := by
  obtain ⟨hn, hk⟩ := List.getElem?_eq_some_iff.mp hk
  obtain ⟨hm, hl⟩ := List.getElem?_eq_some_iff.mp hl
  rw [Keys.le, compare_take_drop h n, ht, Ordering.eq_then, List.drop_eq_getElem_cons hn,
    List.drop_eq_getElem_cons hm, hk, hl] at hle
  exact Ordering.isLE_left_of_isLE_then hle

end Keys

theorem Key.isMissing_of_isLE {k l : Key} (h : (k.compare l).isLE) :
    if k.inverted then k.isMissing → l.isMissing else l.isMissing → k.isMissing := by
  unfold Key.compare compareDirected at h
  unfold Key.isMissing
  cases hi : k.inverted <;> cases hk : k.value.isMissing <;> cases hl : l.value.isMissing <;>
    simp_all

theorem Keys.Directed.inverted_of_getElem? {ds : List Bool} {ks : Keys} (h : Directed ds ks)
    {n : Nat} {k : Key} (hk : ks[n]? = some k) : k.inverted ∈ ds := by
  rw [← h]
  exact List.mem_map_of_mem (List.mem_of_getElem? hk)

namespace Comparator

variable [Inspect α]

theorem missing_of_le {c : Comparator α} {a b : α} (h : c.le a b) {ks ls : Keys} {n : Nat}
    {k l : Key} (hks : (c.keys a).outcome = .ok ks) (hls : (c.keys b).outcome = .ok ls)
    (ht : Keys.compare (ks.take n) (ls.take n) = .eq) (hk : ks[n]? = some k)
    (hl : ls[n]? = some l) :
    if k.inverted then k.isMissing → l.isMissing else l.isMissing → k.isMissing := by
  rw [le, row_eq hks, row_eq hls] at h
  exact Key.isMissing_of_isLE
    (Keys.isLE_of_le ((keysBy_directed hks).aligned (keysBy_directed hls)) h ht hk hl)

theorem lacksWith_of_le {c : Comparator α} (hc : ∀ e ∈ c.evaluators, e.inverted = true) {a b : α}
    (h : c.le a b) : c.LacksWith a b := by
  intro ks ls n k l hks hls ht hk hl
  have hd := (keysBy_directed hks).inverted_of_getElem? hk
  obtain ⟨e, he, hi⟩ := List.mem_map.mp hd
  have hm := missing_of_le h hks hls ht hk hl
  rwa [← hi, hc e he, if_pos rfl] at hm

theorem lacksWith_of_ge {c : Comparator α} (hc : ∀ e ∈ c.evaluators, e.inverted = false) {a b : α}
    (h : c.le a b) : c.LacksWith b a := by
  intro ls ks n l k hls hks ht hl hk
  have hd := (keysBy_directed hks).inverted_of_getElem? hk
  obtain ⟨e, he, hi⟩ := List.mem_map.mp hd
  have hs : Keys.Aligned (ks.take n) (ls.take n) := by
    unfold Keys.Aligned
    rw [List.map_take, List.map_take, keysBy_directed hks, keysBy_directed hls]
  rw [← Ordering.swap_eq_eq, ← Keys.compare_swap hs] at ht
  have hm := missing_of_le h hks hls ht hk hl
  rwa [← hi, hc e he, if_neg Bool.false_ne_true] at hm

end Comparator

namespace Criteria

def IsUpward : Binary64 ⊕ String → Prop
  | .inl x => compare Binary64.zero x = .lt ∧ x ≠ .nan
  | .inr expression => expression.toList.head? ≠ some '!' ∧ expression.toList.head? ≠ some '~'

def downward (mark : Char) : Binary64 ⊕ String → Binary64 ⊕ String
  | .inl x => .inl x.neg
  | .inr expression => .inr (String.ofList (mark :: expression.toList))

end Criteria

theorem Binary64.isNegative_of_pos {x : Binary64} (h : compare zero x = .lt) (hx : x ≠ nan) :
    x.isNegative = false ∧ x.neg.isNegative = true := by
  cases x with
  | nan => exact absurd rfl hx
  | infinite s =>
    cases s with
    | false => exact ⟨rfl, rfl⟩
    | true => cases h
  | finite s u =>
    have hs : (0 : Int) < signed s u := compare_lt_iff_lt.mp h
    cases s with
    | false =>
      have hu : u ≠ 0 := by
        simp only [signed, Bool.false_eq_true, if_false] at hs
        omega
      simp [isNegative, neg, hu]
    | true =>
      simp only [signed, if_true] at hs
      omega

variable {α : Type}

theorem Criteria.compile_downward {mark : Char} (hm : mark = '!' ∨ mark = '~')
    {c : Binary64 ⊕ String} (hc : IsUpward c) :
    ((Sum.elim .signed .path c : Criterion α).compile).inverted = false ∧
      (Sum.elim .signed .path (downward mark c) : Criterion α).compile =
        ((Sum.elim .signed .path c : Criterion α).compile).opposite := by
  cases c with
  | inl x =>
    obtain ⟨hx, hn⟩ := Binary64.isNegative_of_pos hc.1 hc.2
    simp only [downward, Sum.elim_inl, Criterion.compile, Evaluator.opposite, hx, hn, Bool.not_false,
      and_self]
  | inr expression =>
    simp only [downward, Sum.elim_inr, Criterion.compile, Evaluator.opposite, String.toList_ofList,
      Markers.ofExpression_unmarked hc, Markers.ofExpression_mark hm, Markers.ofUnmarked_true,
      Markers.inverted_ofUnmarked, Bool.not_false, and_self]

theorem Comparator.ofCriteria_downward {mark : Char} (hm : mark = '!' ∨ mark = '~')
    {cs : List (Binary64 ⊕ String)} (hcs : ∀ c ∈ cs, Criteria.IsUpward c) :
    (∀ e ∈ (ofCriteria (Criteria.plain cs) : Comparator α).evaluators, e.inverted = false) ∧
      (ofCriteria (Criteria.plain (cs.map (Criteria.downward mark))) : Comparator α) =
        (ofCriteria (Criteria.plain cs)).opposite := by
  unfold ofCriteria opposite Criteria.plain
  simp only [List.map_map, List.forall_mem_map, Comparator.mk.injEq, List.map_inj_left]
  exact ⟨fun c hc => (Criteria.compile_downward hm (hcs c hc)).1,
    fun c hc => (Criteria.compile_downward hm (hcs c hc)).2⟩

namespace Comparator

variable [Inspect α]

theorem sort_downward {mark : Char} (hm : mark = '!' ∨ mark = '~') (cs : List (Binary64 ⊕ String))
    (hcs : ∀ c ∈ cs, Criteria.IsUpward c) (items : Array α)
    (h : ∀ a ∈ items, ∀ c ∈ (Criteria.plain cs : Criteria α), (c.compile.extract a).Succeeds) :
    let up : Comparator α := .ofCriteria (.plain cs)
    let down : Comparator α := .ofCriteria (.plain (cs.map (Criteria.downward mark)))
    ∃ ascending descending, (up.sort items).outcome = .ok ascending ∧
      (down.sort items).outcome = .ok descending ∧
      (up.sort items.reverse).outcome = .ok descending.reverse ∧
      up.StableOrder items ascending ∧ down.StableOrder items descending ∧
      ascending.toList.Pairwise (fun a b => up.LacksWith b a) ∧
      descending.toList.Pairwise fun a b => down.LacksWith a b := by
  intro up down
  obtain ⟨hup, hdown⟩ : (∀ e ∈ up.evaluators, e.inverted = false) ∧ down = up.opposite :=
    ofCriteria_downward hm hcs
  have hd : ∀ e ∈ down.evaluators, e.inverted = true := by
    rw [hdown, opposite, List.forall_mem_map]
    intro e he
    rw [Evaluator.opposite, hup e he, Bool.not_false]
  have hk (a : α) (ha : a ∈ items) : (up.keys a).Succeeds := succeeds_keys_ofCriteria.mpr (h a ha)
  have hko (a : α) (ha : a ∈ items) : (down.keys a).Succeeds := by
    rw [hdown, keys_opposite, Traced.succeeds_map]
    exact hk a ha
  obtain ⟨descending, hs, hr⟩ := sort_opposite hk
  rw [← hdown] at hs
  refine ⟨_, descending, sort_eq_mergeSort hk, hs, hr, stableOrder_of_sort (sort_eq_mergeSort hk),
    stableOrder_of_sort hs, ?_, ?_⟩
  · exact (List.pairwise_mergeSort (isTotalLe_le up).trans (isTotalLe_le up).total _).imp
      (lacksWith_of_ge hup)
  · cases (sort_eq_mergeSort hko).symm.trans hs
    exact (List.pairwise_mergeSort (isTotalLe_le down).trans (isTotalLe_le down).total _).imp
      (lacksWith_of_le hd)

theorem sort_downward_lists :
    let cs : List (Binary64 ⊕ String) := [.inr "1", .inl (.finite false 1)]
    let items : Array (List (Option Bool)) := #[[some true, some true], [some false],
      [some false, some true], [none, none]]
    let up : Comparator (List (Option Bool)) := .ofCriteria (.plain cs)
    let down : Comparator (List (Option Bool)) :=
      .ofCriteria (.plain (cs.map (Criteria.downward '~')))
    (∀ c ∈ cs, Criteria.IsUpward c) ∧
      (∀ a ∈ items, ∀ c ∈ (Criteria.plain cs : Criteria (List (Option Bool))),
        (c.compile.extract a).Succeeds) ∧
      ∃ ascending descending, (up.sort items).outcome = .ok ascending ∧
        (down.sort items).outcome = .ok descending ∧
        (up.sort items.reverse).outcome = .ok descending.reverse ∧
        up.StableOrder items ascending ∧ down.StableOrder items descending ∧
        ascending.toList.Pairwise (fun a b => up.LacksWith b a) ∧
        descending.toList.Pairwise fun a b => down.LacksWith a b := by
  intro cs items up down
  have hcs : ∀ c ∈ cs, Criteria.IsUpward c := by
    simp only [cs, List.forall_mem_cons, List.not_mem_nil, false_implies, implies_true, and_true]
    exact ⟨⟨by decide, by decide⟩, by decide, by decide⟩
  have h : ∀ a ∈ items, ∀ c ∈ (Criteria.plain cs : Criteria (List (Option Bool))),
      (c.compile.extract a).Succeeds := by
    intro a _ c hc
    simp only [cs, Criteria.plain, List.map_cons, List.map_nil, List.mem_cons, List.not_mem_nil,
      or_false] at hc
    rcases hc with rfl | rfl
    · exact ⟨_, rfl⟩
    · exact ⟨_, rfl⟩
  exact ⟨hcs, h, sort_downward (.inr rfl) cs hcs items h⟩

-- Items without a second element are last, in the order they came in.
example :
    let c : Comparator (List (Option Bool)) := .ofCriteria [.path "~1"]
    (c.sort #[[none], [some true, some false], [some false, none], [none, some true]]).outcome =
      .ok #[[none, some true], [some true, some false], [none], [some false, none]] := by
  cbv

end Comparator

end Collate

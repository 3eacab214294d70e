import Collate.Proofs.Document
import Collate.Proofs.Json.Natural

namespace Collate

section

variable {α : Type} {cmp : α → α → Ordering}

theorem IsTotalPreorder.isTotalLe (h : IsTotalPreorder cmp) :
    IsTotalLe fun a b => (cmp a b).isLE where
  trans := h.trans
  total a b := by
    rw [h.swap b a]
    cases cmp b a <;> rfl

theorem IsTotalPreorder.antisymm (h : IsTotalPreorder cmp) {a b : α} (hab : (cmp a b).isLE)
    (hba : (cmp b a).isLE) : cmp a b = .eq := by
  rw [h.swap b a] at hab ⊢
  cases hc : cmp b a with
  | eq => rfl
  | lt => rw [hc] at hab; cases hab
  | gt => rw [hc] at hba; cases hba

end

namespace Config

def IsDirect (c : Config) (inverted : Bool) : Prop :=
  c.criteria = [] ∧ inverted = false ∨
    ∃ n : JsonNumber, c.criteria = [.number n] ∧ n.toBinary64.isNegative = inverted

def Leaves (c : Config) (document : Json) (items : List Json) : Prop :=
  (sortDocument c document).1 = .ok items.length ∧
    c.place?.bind (sortDocument c document).2.at? = some (.array items)

variable {c : Config} {document : Json} {inverted : Bool}

theorem IsDirect.exists_comparator (h : c.IsDirect inverted) :
    ∃ comparator, c.comparator = .ok comparator ∧
      ∀ v : Json, (comparator.keys v).outcome = .ok [⟨v.toValue, inverted⟩] := by
  rcases h with ⟨hc, rfl⟩ | ⟨n, hc, rfl⟩
  · have ho : c.comparator = .ok (.ofCriteria [.path ""]) := by
      unfold Config.comparator
      rw [hc]
      rfl
    exact ⟨_, ho, keys_natural ho hc⟩
  · refine ⟨.ofCriteria [.signed n.toBinary64], ?_, fun v => rfl⟩
    unfold Config.comparator
    rw [hc]
    rfl

def directLe (inverted : Bool) (v w : Json) : Bool :=
  (compareDirected v.toValue w.toValue inverted).isLE

theorem isTotalLe_directLe (inverted : Bool) : IsTotalLe (directLe inverted) :=
  (isTotalPreorder_compareDirected inverted).isTotalLe.on Json.toValue

theorem IsDirect.leaves (h : c.IsDirect inverted) {items : List Json}
    (ht : c.place?.bind document.at? = some (.array items)) :
    c.Leaves document (items.mergeSort (directLe inverted)) := by
  obtain ⟨comparator, hc, hk⟩ := h.exists_comparator
  obtain ⟨p, ha⟩ := exists_arrayAt.mpr ht
  have hle : comparator.le = directLe inverted := by
    funext v w
    unfold Comparator.le Keys.le directLe
    rw [Comparator.row_eq (hk v), Comparator.row_eq (hk w), Keys.compare, Keys.compare,
      Ordering.then_eq]
    rfl
  have hs : ∀ v ∈ items.toArray, (comparator.keys v).Succeeds := fun v _ => ⟨_, hk v⟩
  have hs := Comparator.sort_eq_mergeSort hs
  rw [hle] at hs
  have hw := (Json.sameBut_replaceAt (arrayAt_eq_ok.mp ha).2
    (.array (items.mergeSort (directLe inverted)))).symm.at?_eq
  unfold Leaves sortDocument
  simp only [hc, ha, Comparator.run_sortInPlace, hs]
  rw [place?_eq, (arrayAt_eq_ok.mp ha).1]
  exact ⟨rfl, hw⟩

end Config

section Canonical

variable {v w : Json} {xs ys : List Json}

theorem directLe_antisymm (hv : v.IsExact) (hw : w.IsExact)
    (hvw : Config.directLe false v w) (hwv : Config.directLe false w v) : v = w := by
  have he := (isTotalPreorder_compareDirected false).antisymm hvw hwv
  rw [compareDirected_false] at he
  exact Json.eq_of_compare hv hw he

theorem mergeSort_eq_of_perm (hp : xs.Perm ys) (hx : ∀ v ∈ xs, v.IsExact) :
    xs.mergeSort (Config.directLe false) = ys.mergeSort (Config.directLe false) := by
  have hle := Config.isTotalLe_directLe false
  have hs (zs : List Json) := List.pairwise_mergeSort hle.trans hle.total zs
  have hm := (List.mergeSort_perm xs (Config.directLe false)).trans
    (hp.trans (List.mergeSort_perm ys (Config.directLe false)).symm)
  apply List.Perm.eq_of_pairwise ?_ (hs xs) (hs ys) hm
  intro v w hv hw hvw hwv
  have hv := hx v (List.mem_mergeSort.mp hv)
  have hw := hx w (hp.mem_iff.mpr (List.mem_mergeSort.mp hw))
  exact directLe_antisymm hv hw hvw hwv

end Canonical

theorem sortDocument_canonical (c : Config) (hc : c.criteria = []) {d e : Json} {xs ys : List Json}
    (hd : c.place?.bind d.at? = some (.array xs)) (he : c.place?.bind e.at? = some (.array ys))
    (hp : xs.Perm ys) (hx : ∀ v ∈ xs, v.IsExact) :
    (∃ sorted, sorted.Perm xs ∧ c.Leaves d sorted ∧ c.Leaves e sorted) ∧
      ∀ v w : Json, v.IsExact → w.IsExact → (v.toValue.compare w.toValue = .eq ↔ v = w) := by
  have hi : c.IsDirect false := .inl ⟨hc, rfl⟩
  refine ⟨⟨_, List.mergeSort_perm xs _, hi.leaves hd, ?_⟩, ?_⟩
  · rw [mergeSort_eq_of_perm hp hx]
    exact hi.leaves he
  · intro v w hv hw
    constructor
    · exact Json.eq_of_compare hv hw
    · intro h
      rw [h]
      exact Std.ReflCmp.compare_self

theorem sortDocument_canonical_nested :
    let a : Json := .array [.number (.integer 3), .null]
    let b : Json := .object [("b", .array [.string "x", .bool true]), ("a", .null)]
    let c := Config.default
    (∃ sorted, sorted.Perm [a, b] ∧ c.Leaves (.array [a, b]) sorted ∧
        c.Leaves (.array [b, a]) sorted) ∧
      ∀ v w : Json, v.IsExact → w.IsExact → (v.toValue.compare w.toValue = .eq ↔ v = w) := by
  intro a b c
  have ha : a.IsExact := by
    refine .array fun v hv => ?_
    simp only [List.mem_cons, List.not_mem_nil, or_false] at hv
    rcases hv with rfl | rfl
    · exact .number (by decide)
    · exact .null
  have hb : b.IsExact := by
    refine .object fun e he => ?_
    simp only [List.mem_cons, List.not_mem_nil, or_false] at he
    rcases he with rfl | rfl
    · refine .array fun v hv => ?_
      simp only [List.mem_cons, List.not_mem_nil, or_false] at hv
      rcases hv with rfl | rfl
      · exact .string "x"
      · exact .bool true
    · exact .null
  refine sortDocument_canonical c rfl rfl rfl (.swap b a []) fun v hv => ?_
  simp only [List.mem_cons, List.not_mem_nil, or_false] at hv
  rcases hv with rfl | rfl
  · exact ha
  · exact hb

def Json.ofInt (n : Int) : Json :=
  .number (.integer n)

def FitsWord (n : Int) : Prop :=
  -2 ^ 63 ≤ n ∧ n < 2 ^ 64

/-- Two integers that cannot be told apart by their nearest number. They are beyond 53 bits, and not
far apart. -/
structure Blurred (a b : Int) : Prop where
  nearest : Binary64.ofInt a = Binary64.ofInt b
  large : 2 ^ 53 ≤ a.natAbs ∧ 2 ^ 53 ≤ b.natAbs
  close : (a - b).natAbs ≤ 2048

def InDirection (inverted : Bool) (a b : Int) : Prop :=
  if inverted then b ≤ a else a ≤ b

section Integers

open Config (directLe)

variable {ns : List Int} {a b : Int} {inverted : Bool}

theorem FitsWord.natAbs_lt (h : FitsWord a) : a.natAbs < 2 ^ 64 := by
  unfold FitsWord at h
  omega

theorem InDirection.total (h : ¬ InDirection inverted a b) :
    InDirection inverted b a ∧ (a < b ∨ b < a) := by
  unfold InDirection at h ⊢
  cases inverted with
  | false => simp only [Bool.false_eq_true, if_false] at h ⊢; omega
  | true => simp only [if_true] at h ⊢; omega

theorem directLe_of_inDirection (ha : FitsWord a) (hb : FitsWord b)
    (h : InDirection inverted a b) : directLe inverted (.ofInt a) (.ofInt b) := by
  have ha := Nat.le_of_lt ha.natAbs_lt
  have hb := Nat.le_of_lt hb.natAbs_lt
  unfold directLe
  cases inverted with
  | false =>
    rw [compareDirected_false]
    change (compare (Binary64.ofInt a) (Binary64.ofInt b)).isLE
    rw [Binary64.compare_ofInt ha hb, Int.isLE_compare]
    exact Binary64.signedUnits_mono ha hb h
  | true =>
    rw [compareDirected_true, ← Value.compare_swap]
    change (compare (Binary64.ofInt b) (Binary64.ofInt a)).isLE
    rw [Binary64.compare_ofInt hb ha, Int.isLE_compare]
    exact Binary64.signedUnits_mono hb ha h

theorem ofInt_eq_of_directLe (ha : FitsWord a) (hb : FitsWord b)
    (hab : directLe inverted (.ofInt a) (.ofInt b))
    (hba : directLe inverted (.ofInt b) (.ofInt a)) : Binary64.ofInt a = Binary64.ofInt b := by
  have he := (isTotalPreorder_compareDirected inverted).antisymm hab hba
  apply (Binary64.ofInt_inj_iff (Nat.le_of_lt ha.natAbs_lt) (Nat.le_of_lt hb.natAbs_lt)).mp
  cases inverted with
  | false => rwa [compareDirected_false] at he
  | true => rwa [compareDirected_true, Ordering.swap_eq_eq] at he

theorem directLe_of_ofInt_eq (h : Binary64.ofInt a = Binary64.ofInt b) :
    directLe inverted (.ofInt a) (.ofInt b) := by
  have hv : (Json.ofInt a).toValue = (Json.ofInt b).toValue := congrArg Value.number h
  have hr := (Config.isTotalLe_directLe inverted).total (.ofInt b) (.ofInt b)
  rw [Bool.or_self] at hr
  rw [directLe, hv]
  exact hr

theorem inDirection_or_blurred (ha : FitsWord a) (hb : FitsWord b)
    (hab : directLe inverted (.ofInt a) (.ofInt b)) : InDirection inverted a b ∨ Blurred a b := by
  rw [or_iff_not_imp_left]
  intro hn
  obtain ⟨hr, hne⟩ := InDirection.total hn
  have he := ofInt_eq_of_directLe ha hb hab (directLe_of_inDirection hb ha hr)
  rcases hne with hlt | hlt
  · obtain ⟨hla, hlb, hd⟩ := Binary64.far_of_ofInt_eq ha.natAbs_lt hb.natAbs_lt hlt he
    exact ⟨he, ⟨hla, hlb⟩, by omega⟩
  · obtain ⟨hlb, hla, hd⟩ := Binary64.far_of_ofInt_eq hb.natAbs_lt ha.natAbs_lt hlt he.symm
    exact ⟨he, ⟨hla, hlb⟩, by omega⟩

theorem eq_of_small (h : Binary64.ofInt a = Binary64.ofInt b) (ha : a.natAbs ≤ 2 ^ 53)
    (hb : b.natAbs ≤ 2 ^ 53) : a = b := by
  apply Binary64.eq_of_compare_ofInt ha hb
  rw [h]
  exact Std.ReflCmp.compare_self

/-- Every integer has one place. Two that stand against their order are blurred, and those that have
one nearest number stand as they came in. Without large integers the order is exact. -/
def OrderedUpToBlur (ns : List Int) (inverted : Bool) (sorted : List Int) : Prop :=
  (sorted.length = ns.length ∧ ∃ place : Equiv.Perm (Fin ns.length),
    (∀ i, sorted[(place i : Nat)]? = some ns[i]) ∧
      ∀ i j, place i < place j →
        (InDirection inverted ns[i] ns[j] ∨ Blurred ns[i] ns[j]) ∧
          (Binary64.ofInt ns[i] = Binary64.ofInt ns[j] → i < j)) ∧
    ((∀ n ∈ ns, n.natAbs ≤ 2 ^ 53) → sorted.Pairwise (InDirection inverted))

theorem inDirection_of_small (ha : FitsWord a) (hb : FitsWord b) (hsa : a.natAbs ≤ 2 ^ 53)
    (hsb : b.natAbs ≤ 2 ^ 53) (hab : directLe inverted (.ofInt a) (.ofInt b)) :
    InDirection inverted a b := by
  rcases inDirection_or_blurred ha hb hab with hd | hd
  · exact hd
  · rw [eq_of_small hd.nearest hsa hsb]
    unfold InDirection
    split <;> exact Int.le_refl b

theorem orderedUpToBlur_mergeSort (hn : ∀ n ∈ ns, FitsWord n) :
    OrderedUpToBlur ns inverted
      (ns.mergeSort fun a b => directLe inverted (.ofInt a) (.ofInt b)) := by
  have hle := (Config.isTotalLe_directLe inverted).on Json.ofInt
  obtain ⟨place, hplace, horder⟩ := hle.exists_place ns
  refine ⟨⟨List.length_mergeSort _, place, hplace, fun i j hij => ?_⟩, fun hsmall => ?_⟩
  · obtain ⟨hab, hba⟩ := horder i j hij
    refine ⟨?_, fun he => hba (directLe_of_ofInt_eq he.symm)⟩
    exact inDirection_or_blurred (hn _ (List.getElem_mem i.isLt)) (hn _ (List.getElem_mem j.isLt)) hab
  · apply (List.pairwise_mergeSort hle.trans hle.total ns).imp_of_mem
    intro a b ha hb hab
    have ha := List.mem_mergeSort.mp ha
    have hb := List.mem_mergeSort.mp hb
    exact inDirection_of_small (hn a ha) (hn b hb) (hsmall a ha) (hsmall b hb) hab

theorem Config.IsDirect.leaves_integers {c : Config} {document : Json} (h : c.IsDirect inverted)
    (hn : ∀ n ∈ ns, FitsWord n)
    (ht : c.place?.bind document.at? = some (.array (ns.map .ofInt))) :
    ∃ sorted, c.Leaves document (sorted.map .ofInt) ∧ sorted.Perm ns ∧
      OrderedUpToBlur ns inverted sorted := by
  have hm : (ns.mergeSort fun a b => directLe inverted (.ofInt a) (.ofInt b)).map Json.ofInt =
      (ns.map Json.ofInt).mergeSort (directLe inverted) :=
    List.map_mergeSort fun _ _ _ _ => rfl
  refine ⟨_, ?_, List.mergeSort_perm _ _, orderedUpToBlur_mergeSort hn⟩
  rw [hm]
  exact h.leaves ht

end Integers

theorem Config.isDirect_ofInt {c : Config} {k : Int} (h : c.criteria = [.ofInt k])
    (hk : k.natAbs ≤ 2 ^ 64) : c.IsDirect (k < 0) :=
  .inr ⟨_, h, Binary64.isNegative_ofInt hk⟩

theorem sortDocument_integers (c : Config) (document : Json) (ns : List Int)
    (hn : ∀ n ∈ ns, FitsWord n)
    (ht : c.place?.bind document.at? = some (.array (ns.map .ofInt))) :
    (c.criteria = [] ∨ c.criteria = [.ofInt 1] → ∃ sorted,
      c.Leaves document (sorted.map .ofInt) ∧ sorted.Perm ns ∧ OrderedUpToBlur ns false sorted) ∧
      (c.criteria = [.ofInt (-1)] → ∃ sorted,
        c.Leaves document (sorted.map .ofInt) ∧ sorted.Perm ns ∧
          OrderedUpToBlur ns true sorted) := by
  constructor
  · rintro (hc | hc)
    · exact Config.IsDirect.leaves_integers (.inl ⟨hc, rfl⟩) hn ht
    · exact (Config.isDirect_ofInt hc (by decide)).leaves_integers hn ht
  · intro hc
    exact (Config.isDirect_ofInt hc (by decide)).leaves_integers hn ht

theorem sortDocument_integers_beyond :
    let ns : List Int := [2 ^ 53 + 1, 2 ^ 53, 5]
    let c : Config := ⟨[.ofInt 1], none, false⟩
    let sorted : List Int := [5, 2 ^ 53 + 1, 2 ^ 53]
    (∀ n ∈ ns, FitsWord n) ∧ c.Leaves (.array (ns.map .ofInt)) (sorted.map .ofInt) ∧
      sorted.Perm ns ∧ OrderedUpToBlur ns false sorted := by
  intro ns c sorted
  have hn : ∀ n ∈ ns, FitsWord n := by unfold FitsWord; decide
  obtain ⟨left, hl, hp, ho⟩ := (sortDocument_integers c _ ns hn rfl).1 (.inr rfl)
  have hm : sorted = ns.mergeSort fun a b => Config.directLe false (.ofInt a) (.ofInt b) := by
    have hle := (Config.isTotalLe_directLe false).on Json.ofInt
    let rows : List (Int × Nat) := [(5, 2), (2 ^ 53 + 1, 0), (2 ^ 53, 1)]
    have hr : rows.Perm ns.zipIdx := by decide
    apply hle.eq_mergeSort hr
    unfold Refined
    decide +kernel
  have hd : c.IsDirect false := Config.isDirect_ofInt (k := 1) rfl (by decide)
  have hs : c.Leaves (.array (ns.map .ofInt)) (sorted.map .ofInt) := by
    rw [hm, List.map_mergeSort (s := Config.directLe false) fun _ _ _ _ => rfl]
    exact hd.leaves rfl
  have he : left.map Json.ofInt = sorted.map Json.ofInt :=
    Json.array.inj (Option.some.inj (hl.2.symm.trans hs.2))
  have hinj : Function.Injective Json.ofInt := fun _ _ h => by cases h; rfl
  rw [List.map_injective_iff.mpr hinj he] at hl hp ho
  exact ⟨hn, hl, hp, ho⟩

theorem sortDocument_blurs :
    let ns : List Int := [2 ^ 53 + 1, 2 ^ 53]
    let c : Config := ⟨[.ofInt 1], none, false⟩
    (∀ n ∈ ns, FitsWord n) ∧ c.Leaves (.array (ns.map .ofInt)) (ns.map .ofInt) ∧
      ¬ ns.Pairwise (· ≤ ·) := by
  intro ns c
  have hd : c.IsDirect false := Config.isDirect_ofInt (k := 1) rfl (by decide)
  have hl : c.Leaves (.array (ns.map .ofInt)) _ := hd.leaves rfl
  have hs : (ns.map Json.ofInt).Pairwise fun v w => Config.directLe false v w := by
    rw [List.pairwise_map]
    decide +kernel
  rw [List.mergeSort_of_pairwise hs] at hl
  exact ⟨by unfold FitsWord; decide, hl, by decide⟩

end Collate

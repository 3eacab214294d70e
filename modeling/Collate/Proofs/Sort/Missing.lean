import Collate.Proofs.Inspect
import Collate.Proofs.Sort.Stability
import Collate.Proofs.Value.Missing

namespace Collate

inductive PathError.Alike : PathError → PathError → Prop
  | malformed (fault : Malformed) : Alike (.malformed fault) (.malformed fault)
  | lookup (step : String) {e f : LookupError} (h : e.Alike f) :
    Alike (.lookup step e) (.lookup step f)

inductive SortError.Alike : SortError → SortError → Prop
  | unsupportedCriterion (kind : Json.Kind) :
    Alike (.unsupportedCriterion kind) (.unsupportedCriterion kind)
  | resolution (path : String) {e f : PathError} (h : e.Alike f) :
    Alike (.resolution path e) (.resolution path f)

namespace Value.Alike

theorem apply {v w : Value} (h : Alike v w) (step : Step) :
    Traced.Agree PathError.Alike Alike (step.apply v) (step.apply w) := by
  cases step with
  | member name => exact Traced.Agree.mapError ⟨rfl, h.member name⟩ fun _ _ => .lookup _
  | invoke name args => exact (h.invoke name args).mapError fun _ _ => .lookup _
  | invalid fault => exact .fail (.malformed fault)

theorem walk {v w : Value} (h : Alike v w) (steps : List Step) :
    Traced.Agree PathError.Alike Alike (Path.walk v steps) (Path.walk w steps) := by
  induction steps generalizing v w with
  | nil =>
    rw [Path.walk, Path.walk, h.isMissing_eq]
    split
    · exact .pure (refl _)
    · exact .pure h
  | cons step steps ih =>
    rw [Path.walk, Path.walk, h.isMissing_eq]
    split
    · exact .pure (refl _)
    · exact (h.apply step).bind fun _ _ => ih

theorem evaluate {v w : Value} (h : Alike v w) (p : Path) :
    Traced.Agree PathError.Alike Alike (p.evaluate v) (p.evaluate w) := by
  unfold Path.evaluate
  split
  · exact .pure h
  · exact (h.apply _).bind fun _ _ h => h.walk _

theorem extract {v w : Value} (h : Alike v w) (c : Binary64 ⊕ String) :
    Traced.Agree SortError.Alike Alike ((Sum.elim Criterion.signed .path c).compile.extract v)
      ((Sum.elim Criterion.signed .path c).compile.extract w) := by
  cases c with
  | inl x => exact .pure h
  | inr expression =>
    refine ((h.evaluate _).mapError fun _ _ => .resolution _).bind fun u u' hu => ?_
    split
    · rw [isPresent, isPresent, hu.isMissing_eq]
      exact .pure (refl _)
    · exact .pure hu

end Value.Alike

namespace Keys

def Alike (ks ls : Keys) : Prop :=
  List.Forall₂ (fun k l => k.inverted = l.inverted ∧ k.value.Alike l.value) ks ls

theorem compareDirected_congr {v v' w w' : Value} (h : v.Alike v') (h' : w.Alike w')
    (inverted : Bool) : compareDirected v w inverted = compareDirected v' w' inverted := by
  unfold compareDirected
  rw [h.isMissing_eq, h'.isMissing_eq, h.compare_congr h']

theorem Alike.compare_congr {ks ks' ls ls' : Keys} (h : Alike ks ks') (h' : Alike ls ls') :
    Keys.compare ks ls = Keys.compare ks' ls' := by
  induction h generalizing ls ls' with
  | nil => cases h' <;> rfl
  | @cons k k' _ _ hk _ ih =>
    cases h' with
    | nil => rfl
    | @cons l l' _ _ hl hls =>
      have hc : k.compare l = k'.compare l' := by
        rw [Key.compare, Key.compare, hk.1, compareDirected_congr hk.2 hl.2]
      rw [Keys.compare, Keys.compare, hc, ih hls]

end Keys

namespace Comparator

theorem keys_alike {v w : Value} (h : v.Alike w) (cs : List (Binary64 ⊕ String)) :
    Traced.Agree SortError.Alike Keys.Alike ((ofCriteria (Criteria.plain cs)).keys v)
      ((ofCriteria (Criteria.plain cs)).keys w) := by
  unfold keys ofCriteria Criteria.plain
  induction cs with
  | nil => exact .pure .nil
  | cons c cs ih =>
    refine (h.extract c).bind fun u u' hu => ih.bind fun ks ls hk => ?_
    exact .pure (.cons ⟨rfl, hu⟩ hk)

theorem rows_alike {vs ws : List Value} (h : List.Forall₂ Value.Alike vs ws)
    (cs : List (Binary64 ⊕ String)) :
    Traced.Agree SortError.Alike (List.Forall₂ Keys.Alike)
      ((ofCriteria (Criteria.plain cs)).rows vs) ((ofCriteria (Criteria.plain cs)).rows ws) := by
  induction h with
  | nil => exact .pure .nil
  | cons hv _ ih =>
    refine (keys_alike hv cs).bind fun ks ls hk => ih.bind fun rs rs' hr => ?_
    exact .pure (.cons hk hr)

theorem orderOf_of_map {β : Type} {f : β → Keys} {bs : List β} {rows : List Keys}
    (h : bs.map f = rows) :
    orderOf rows = (bs.zipIdx.mergeSort fun r s => Keys.le (f r.1) (f s.1)).map Prod.snd := by
  rw [orderOf, ← h, ← map_mergeSort_zipIdx f Keys.le bs, List.map_map]
  rfl

theorem orderOf_congr {rows rows' : List Keys} (h : List.Forall₂ Keys.Alike rows rows') :
    orderOf rows = orderOf rows' := by
  obtain ⟨hn, hz⟩ := List.forall₂_iff_zip.mp h
  rw [orderOf_of_map (List.map_fst_zip (Nat.le_of_eq hn)),
    orderOf_of_map (List.map_snd_zip (Nat.le_of_eq hn.symm)), mergeSort_congr]
  intro r hr s hs
  have hr := hz (List.mem_of_getElem? (List.mem_zipIdx_iff_getElem?.mp hr))
  have hs := hz (List.mem_of_getElem? (List.mem_zipIdx_iff_getElem?.mp hs))
  rw [Keys.le, Keys.le, hr.compare_congr hs]

theorem sort_alike {items others : Array Value}
    (h : List.Forall₂ Value.Alike items.toList others.toList) (cs : List (Binary64 ⊕ String)) :
    let c : Comparator Value := .ofCriteria (.plain cs)
    (∃ e f, (c.sort items).outcome = .error e ∧ (c.sort others).outcome = .error f ∧ e.Alike f) ∨
      ∃ order, IsShuffle order items.size ∧
        (c.sort items).outcome = .ok (applyPermutation order items) ∧
        (c.sort others).outcome = .ok (applyPermutation order others) := by
  intro c
  have hr := (rows_alike h cs).outcome
  cases hi : (c.rows items.toList).outcome with
  | error e =>
    cases ho : (c.rows others.toList).outcome with
    | error f =>
      rw [hi, ho] at hr
      cases hr with
      | error he => exact .inl ⟨e, f, sort_error_iff.mpr hi, sort_error_iff.mpr ho, he⟩
    | ok rows =>
      rw [hi, ho] at hr
      cases hr
  | ok rows =>
    cases ho : (c.rows others.toList).outcome with
    | error f =>
      rw [hi, ho] at hr
      cases hr
    | ok rows' =>
      rw [hi, ho] at hr
      cases hr with
      | ok hr =>
        have hn : rows.length = items.size := (rows_ok.mp hi).length_eq.symm
        refine .inr ⟨(orderOf rows).toArray, hn ▸ isShuffle_orderOf rows, sort_ok hi, ?_⟩
        rw [orderOf_congr hr]
        exact sort_ok ho

end Comparator

namespace Value

theorem null_absent_indistinguishable :
    (∀ v w : Value, v.Alike w → ∀ p : Path,
      Traced.Agree PathError.Alike Alike (p.evaluate v) (p.evaluate w)) ∧
    ∀ (cs : List (Binary64 ⊕ String)) (items others : Array Value),
      List.Forall₂ Alike items.toList others.toList →
        let c : Comparator Value := .ofCriteria (.plain cs)
        (∃ e f, (c.sort items).outcome = .error e ∧ (c.sort others).outcome = .error f ∧
            e.Alike f) ∨
          ∃ order, IsShuffle order items.size ∧
            (c.sort items).outcome = .ok (applyPermutation order items) ∧
            (c.sort others).outcome = .ok (applyPermutation order others) :=
  ⟨fun _ _ h => h.evaluate, fun cs _ _ h => Comparator.sort_alike h cs⟩

theorem null_absent_indistinguishable_nested :
    let u : Value := .object [("tags", .array [.string "y"])]
    let v : Value := .object [("tags", .array [.null, .string "x"])]
    let w : Value := .object [("tags", .array [.absent, .string "x"])]
    let c : Comparator Value := .ofCriteria (.plain [.inr "tags.join()", .inr "~tags"])
    let error (k : Kind) : SortError :=
      .resolution "tags.join()" (.lookup "tags" (.notInspectable "tags" k))
    v.Alike w ∧
      Traced.Agree PathError.Alike Alike ((Path.parse "tags.0.name").evaluate v)
        ((Path.parse "tags.0.name").evaluate w) ∧
      ((c.sort #[u, v]).outcome = .ok #[v, u] ∧ (c.sort #[u, w]).outcome = .ok #[w, u]) ∧
      (c.sort #[v, .null]).outcome = .error (error .null) ∧
        (c.sort #[w, .absent]).outcome = .error (error .absent) ∧
          (error .null).Alike (error .absent) := by
  intro u v w c error
  have hx : Alike (.string "x") (.string "x") := .string "x"
  have h : v.Alike w := .object rfl (.cons (.array (.cons (.missing rfl rfl) (.cons hx .nil))) .nil)
  have hc : c = ⟨[⟨.path ⟨"tags.join()", [.member "tags", .invoke "join" []]⟩ false, false⟩,
      ⟨.path ⟨"tags", [.member "tags"]⟩ false, true⟩]⟩ := by
    have hp : Path.parse "tags.join()" = ⟨"tags.join()", [.member "tags", .invoke "join" []]⟩ := by
      decide +kernel
    rw [← hp]
    rfl
  have hsort (x : Value) (hx : (c.keys x).Succeeds) (hxu : c.le x u) (hux : c.le u x = false) :
      (c.sort #[u, x]).outcome = .ok #[x, u] := by
    have hs : ∀ a ∈ #[u, x], (c.keys a).Succeeds := by
      have hu : (c.keys u).Succeeds := hc ▸ ⟨_, rfl⟩
      simp [hu, hx]
    have hp : [(x, 1), (u, 0)].Perm [(u, 0), (x, 1)] := .swap _ _ _
    refine Comparator.sort_of_refined hs hp ?_
    simp [Refined, hxu, hux]
  have huv : (c.sort #[u, v]).outcome = .ok #[v, u] :=
    hsort v (hc ▸ ⟨_, rfl⟩) (hc ▸ rfl) (hc ▸ rfl)
  have huw : (c.sort #[u, w]).outcome = .ok #[w, u] :=
    hsort w (hc ▸ ⟨_, rfl⟩) (hc ▸ rfl) (hc ▸ rfl)
  have hnull : (c.sort #[v, .null]).outcome = .error (error .null) := hc ▸ rfl
  have habsent : (c.sort #[w, .absent]).outcome = .error (error .absent) := hc ▸ rfl
  refine ⟨h, null_absent_indistinguishable.1 v w h _, ⟨huv, huw⟩, hnull, habsent, ?_⟩
  rcases null_absent_indistinguishable.2 [.inr "tags.join()", .inr "~tags"] #[v, .null] #[w, .absent]
    (.cons h (.cons (.missing rfl rfl) .nil)) with ⟨e, f, he, hf, ha⟩ | ⟨order, -, ho, -⟩
  · cases hnull.symm.trans he
    cases habsent.symm.trans hf
    exact ha
  · cases hnull.symm.trans ho

end Value

end Collate

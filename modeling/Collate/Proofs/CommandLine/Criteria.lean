import Collate.CommandLine.Run
import Collate.Proofs.Document

namespace Collate

inductive StandsFor {α : Type} (text : String) : Criterion α → Prop
  | signed {x : Binary64} (hx : Binary64.ofText? (trim text) = some x) (hf : x.isFinite) :
    StandsFor text (.signed x)
  | path (h : ∀ x, Binary64.ofText? (trim text) = some x → ¬ x.isFinite) :
    StandsFor text (.path text)

namespace StandsFor

variable {α : Type} {text : String} {texts : List String} {c d : Criterion α} {cs ds : Criteria α}

theorem unique (h : StandsFor text c) (h' : StandsFor text d) : c = d := by
  cases h with
  | signed hx hf =>
    cases h' with
    | signed hy _ => rw [Option.some.inj (hx.symm.trans hy)]
    | path hn => exact absurd hf (hn _ hx)
  | path hn =>
    cases h' with
    | signed hx hf => exact absurd hf (hn _ hx)
    | path => rfl

theorem unique_list (h : List.Forall₂ StandsFor texts cs) (h' : List.Forall₂ StandsFor texts ds) :
    cs = ds := by
  induction h generalizing ds with
  | nil =>
    cases h'
    rfl
  | cons hc _ ih =>
    cases h' with
    | cons hd h' => rw [hc.unique hd, ih h']

theorem exists_of_text (text : String) :
    ∃ c : Criterion α, StandsFor text c ∧ Criterion.ofJson (Config.criterionOfText text) = .ok c := by
  unfold Config.criterionOfText
  cases hx : Binary64.ofText? (trim text) with
  | none => exact ⟨_, .path fun x h => (by rw [hx] at h; cases h), rfl⟩
  | some x =>
    by_cases hf : x.isFinite
    · exact ⟨_, .signed hx hf, by simp only [hf, if_true]; rfl⟩
    · refine ⟨_, .path fun y h => ?_, by simp only [hf]; rfl⟩
      rw [Option.some.inj (hx.symm.trans h)] at hf
      exact hf

theorem exists_of_texts (texts : List String) :
    ∃ cs : Criteria α, List.Forall₂ StandsFor texts cs ∧
      Criteria.ofJson (.array (texts.map Config.criterionOfText)) = .ok cs := by
  induction texts with
  | nil => exact ⟨[], .nil, rfl⟩
  | cons text texts ih =>
    obtain ⟨c, hc, hr⟩ := exists_of_text (α := α) text
    obtain ⟨cs, hcs, hrs⟩ := ih
    refine ⟨c :: cs, .cons hc hcs, ?_⟩
    rw [Criteria.ofJson, mapM_eq_ok] at hrs ⊢
    exact .cons hr hrs

end StandsFor

structure Config.SortsBy (c : Config) (cs : Criteria Json) : Prop where
  comparator : ∃ comparator, c.comparator = .ok comparator ∧
    comparator.evaluators = cs.map Criterion.compile ∧
    ∀ items, comparator.sort items = sortBy items cs
  document : ∀ document p items, arrayAt document c.pointerText = .ok (p, items) →
    sortDocument c document = match (sortBy items.toArray cs).outcome with
      | .ok sorted => (.ok sorted.size, Json.replaceAt (.array sorted.toList) p document)
      | .error e => (.error (.sort e), document)

theorem Config.sortsBy_of_comparator {c : Config} {cs : Criteria Json}
    (hc : c.comparator = .ok (.ofCriteria cs)) : c.SortsBy cs where
  comparator := ⟨_, hc, rfl, fun _ => rfl⟩
  document document p items ha := by
    have h := attempt_sortDocument c document
    generalize sortDocument c document = attempt at h
    cases h with
    | criteria he => cases hc.symm.trans he
    | place _ he => cases ha.symm.trans he
    | keys hc' ha' hs =>
      cases hc.symm.trans hc'
      cases ha.symm.trans ha'
      rw [sortBy, hs]
    | sorted hc' ha' hs =>
      cases hc.symm.trans hc'
      cases ha.symm.trans ha'
      rw [sortBy, hs]

theorem Config.sortsBy_withCriteria (c : Config) {texts : List String} (hne : texts ≠ []) :
    ∃ cs, List.Forall₂ StandsFor texts cs ∧ (c.withCriteria texts).SortsBy cs := by
  obtain ⟨cs, hcs, hr⟩ := StandsFor.exists_of_texts (α := Json) texts
  refine ⟨cs, hcs, sortsBy_of_comparator ?_⟩
  have he : texts.isEmpty = false := List.isEmpty_eq_false_iff.mpr hne
  have hm : (texts.map criterionOfText).isEmpty = false := by rw [List.isEmpty_map, he]
  unfold Config.comparator Comparator.ofJson
  rw [withCriteria, he]
  simp only [Bool.false_eq_true, if_false, hm, hr]
  rfl

namespace CommandLine

theorem commandOf_by (texts : List String) (o : Options) :
    commandOf o (texts.flatMap fun text => ["--by", text]) =
      .run { o with criteria := o.criteria ++ texts } := by
  induction texts generalizing o with
  | nil => rw [List.append_nil]; rfl
  | cons text texts ih =>
    have hby : Argument.ofText "--by" = .valued .criterion none := by decide +kernel
    rw [List.flatMap_cons, List.cons_append, List.cons_append, List.nil_append, commandOf, hby]
    simp only [Valued.admits, decide_true, Bool.true_or, if_true, Options.with?]
    rw [ih, List.append_assoc]
    rfl

theorem criteria_of_arguments (c : Config) {texts : List String} (hne : texts ≠ []) :
    ∃ o cs, commandOf .empty (texts.flatMap fun text => ["--by", text]) = .run o ∧
      o.applyTo c = c.withCriteria texts ∧ (c.withCriteria texts).pointer = c.pointer ∧
      (c.withCriteria texts).pretty = c.pretty ∧ List.Forall₂ StandsFor texts cs ∧
      (∀ ds : Criteria Json, List.Forall₂ StandsFor texts ds → ds = cs) ∧
      (c.withCriteria texts).SortsBy cs := by
  obtain ⟨cs, hcs, hs⟩ := c.sortsBy_withCriteria hne
  have he : texts.isEmpty = false := List.isEmpty_eq_false_iff.mpr hne
  have hw : c.withCriteria texts = { c with criteria := texts.map Config.criterionOfText } := by
    rw [Config.withCriteria, he]
    rfl
  refine ⟨_, cs, commandOf_by texts .empty, ?_, by rw [hw], by rw [hw], hcs,
    fun ds hds => StandsFor.unique_list hds hcs, hs⟩
  rw [Options.applyTo]
  simp only [Options.empty, List.nil_append, hw, Bool.or_false]
  rfl

theorem criteria_of_arguments_mixed :
    let c : Config := ⟨[.null], some "/items", true⟩
    let texts := [" -2\t", " name", "NaN"]
    let cs : Criteria Json := [.signed (.ofInt (-2)), .path " name", .path "NaN"]
    texts ≠ [] ∧ (c.withCriteria texts).SortsBy cs := by
  intro c texts cs
  have hne : texts ≠ [] := by decide
  obtain ⟨_, _, _, _, _, _, _, hu, hs⟩ := criteria_of_arguments c hne
  have hnum : Binary64.ofText? (trim " -2\t") = some (.ofInt (-2)) := by decide +kernel
  have hname : Binary64.ofText? (trim " name") = none := by decide +kernel
  have hnan : Binary64.ofText? (trim "NaN") = some .nan := by decide +kernel
  have hcs : List.Forall₂ StandsFor texts cs := by
    refine .cons (.signed hnum (by decide +kernel)) (.cons (.path ?_) (.cons (.path ?_) .nil))
    · intro x hx
      cases hname.symm.trans hx
    · intro x hx
      cases hnan.symm.trans hx
      decide
  rw [hu cs hcs]
  exact ⟨hne, hs⟩

end CommandLine
end Collate

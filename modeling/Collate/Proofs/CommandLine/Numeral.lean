import Collate.Proofs.CommandLine.Criteria
import Collate.Proofs.Number.Numeral

namespace Collate

open Binary64 (overflow underflow)

section

variable {α : Type} {n : Numeral} {text : String}

theorem StandsFor.signed_numeral (hn : trim text = n.text) (h : |n.value| < overflow) :
    StandsFor text (.signed n.toBinary64 : Criterion α) :=
  .signed (hn ▸ n.ofText?_text) (n.isFinite_toBinary64.mpr h)

theorem StandsFor.path_numeral (hn : trim text = n.text) (h : overflow ≤ |n.value|) :
    StandsFor text (.path text : Criterion α) := by
  refine .path fun x hx hf => ?_
  rw [hn, n.ofText?_text] at hx
  obtain rfl := Option.some.inj hx
  exact (n.isFinite_toBinary64.mp hf).not_ge h

theorem Config.criterionOfText_numeral (hn : trim text = n.text) :
    criterionOfText text =
      if |n.value| < overflow then .number (.real n.toBinary64) else .string text := by
  unfold criterionOfText
  rw [hn, n.ofText?_text]
  simp only [n.isFinite_toBinary64]

end

namespace Config

theorem criterion_of_text (c : Config) {texts : List String} {k : Nat} {text : String}
    (hk : texts[k]? = some text) : ∃ comparator d,
      (c.withCriteria texts).comparator = .ok comparator ∧ StandsFor text d ∧
        (c.withCriteria texts).criteria[k]? = some (criterionOfText text) ∧
        comparator.evaluators[k]? = some d.compile := by
  have hne : texts ≠ [] := by
    rintro rfl
    cases hk
  obtain ⟨cs, hcs, ⟨comparator, hc, hev, -⟩, -⟩ := c.sortsBy_withCriteria hne
  obtain ⟨hlt, rfl⟩ := List.getElem?_eq_some_iff.mp hk
  obtain ⟨hlen, hget⟩ := List.forall₂_iff_get.mp hcs
  have hlt' : k < cs.length := hlen ▸ hlt
  have he : texts.isEmpty = false := List.isEmpty_eq_false_iff.mpr hne
  refine ⟨comparator, cs[k], hc, hget k hlt hlt', ?_, ?_⟩
  · rw [withCriteria, he]
    simp only [Bool.false_eq_true, if_false, List.getElem?_map, hk, Option.map_some]
  · rw [hev, List.getElem?_map, List.getElem?_eq_getElem hlt', Option.map_some]

theorem direction_of_numeral (c : Config) {texts : List String} {k : Nat} {text : String}
    {n : Numeral} (hk : texts[k]? = some text) (hn : trim text = n.text) :
    ∃ comparator, (c.withCriteria texts).comparator = .ok comparator ∧
      (|n.value| < overflow →
        (c.withCriteria texts).criteria[k]? = some (.number (.real n.toBinary64)) ∧
        comparator.evaluators[k]? = some ⟨.identity, decide (n.value < -underflow)⟩) ∧
      (overflow ≤ |n.value| →
        (c.withCriteria texts).criteria[k]? = some (.string text) ∧
        comparator.evaluators[k]? = some (Criterion.path text).compile) := by
  obtain ⟨comparator, d, hc, hd, hj, he⟩ := c.criterion_of_text hk
  rw [criterionOfText_numeral hn] at hj
  refine ⟨comparator, hc, fun h => ?_, fun h => ?_⟩
  · rw [hd.unique (.signed_numeral hn h), Criterion.compile, n.isNegative_toBinary64] at he
    rw [if_pos h] at hj
    exact ⟨hj, he⟩
  · rw [hd.unique (.path_numeral hn h)] at he
    rw [if_neg h.not_gt] at hj
    exact ⟨hj, he⟩

theorem direction_of_numeral_trimmed :
    let c : Config := ⟨[.null], some "/items", true⟩
    let texts := ["name", " -1e3\t", "1e400 "]
    (∃ comparator, (c.withCriteria texts).comparator = .ok comparator ∧
      comparator.evaluators[1]? = some ⟨.identity, true⟩) ∧
    ∃ comparator, (c.withCriteria texts).comparator = .ok comparator ∧
      comparator.evaluators[2]? = some (Criterion.path "1e400 ").compile := by
  intro c texts
  constructor
  · have hk : texts[1]? = some " -1e3\t" := rfl
    obtain ⟨comparator, hc, hs, -⟩ :=
      c.direction_of_numeral (n := .powerOfTen .minus .none 3) hk (by decide +kernel)
    have hm : (Numeral.powerOfTen .minus .none 3).magnitude = 1000 := by
      rw [Numeral.magnitude_powerOfTen]
      decide +kernel
    have hv : (Numeral.powerOfTen .minus .none 3).value = -1000 := by
      rw [← hm]
      rfl
    have hlt : |(Numeral.powerOfTen .minus .none 3).value| < overflow := by
      rw [Numeral.abs_value, hm]
      decide +kernel
    have hneg : (Numeral.powerOfTen .minus .none 3).value < -underflow := by
      rw [hv]
      decide +kernel
    rw [decide_eq_true hneg] at hs
    exact ⟨comparator, hc, (hs hlt).2⟩
  · have hk : texts[2]? = some "1e400 " := rfl
    obtain ⟨comparator, hc, -, hp⟩ :=
      c.direction_of_numeral (n := .powerOfTen .none .none 400) hk (by decide +kernel)
    have hle : overflow ≤ |(Numeral.powerOfTen .none .none 400).value| := by
      rw [Numeral.abs_value, Numeral.magnitude_powerOfTen]
      decide +kernel
    exact ⟨comparator, hc, (hp hle).2⟩

theorem direction_of_numeral_extremes :
    ∃ great small : Numeral, great.text = "1e400" ∧ small.text = "-1e-400" ∧ small.value < 0 ∧
      ∃ comparator, (default.withCriteria ["1e400", "-1e-400"]).comparator = .ok comparator ∧
        comparator.evaluators = [(Criterion.path "1e400").compile, ⟨.identity, false⟩] := by
  refine ⟨.powerOfTen .none .none 400, .powerOfTen .minus .minus 400, by decide +kernel,
    by decide +kernel, ?_, ?_⟩
  · have hv : (Numeral.powerOfTen .minus .minus 400).value =
        -(Numeral.powerOfTen .minus .minus 400).magnitude := rfl
    rw [hv, Numeral.magnitude_powerOfTen, neg_lt_zero]
    exact zpow_pos (by decide) _
  · have hgreat : Binary64.ofText? (trim "1e400") = some (.infinite false) := by decide +kernel
    have hsmall : Binary64.ofText? (trim "-1e-400") = some (.finite true 0) := by decide +kernel
    have hne : ["1e400", "-1e-400"] ≠ [] := by decide
    obtain ⟨cs, hcs, ⟨comparator, hc, he, -⟩, -⟩ := default.sortsBy_withCriteria hne
    refine ⟨comparator, hc, he.trans ?_⟩
    have hd : List.Forall₂ StandsFor ["1e400", "-1e-400"]
        [.path "1e400", (.signed (.finite true 0) : Criterion Json)] := by
      refine .cons (.path fun x hx => ?_) (.cons (.signed hsmall rfl) .nil)
      cases hgreat.symm.trans hx
      nofun
    rw [StandsFor.unique_list hcs hd]
    rfl

end Config
end Collate

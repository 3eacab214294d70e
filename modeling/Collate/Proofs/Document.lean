import Collate.Document
import Collate.Proofs.Json.Pointer
import Collate.Proofs.Sort.Stability

namespace Collate

namespace Config

def place? (c : Config) : Option Json.Pointer :=
  match c.pointer with
  | none => some []
  | some text => if text = "" then some [] else Json.pointer? text

theorem place?_eq (c : Config) : c.place? = Json.pointer? c.pointerText := by
  unfold place? pointerText
  cases c.pointer with
  | none => rfl
  | some text =>
    by_cases h : text = ""
    · rw [h]
      rfl
    · exact if_neg h

theorem keys_natural {c : Config} {comparator : Comparator Json}
    (hc : c.comparator = .ok comparator) (h : c.criteria = []) (v : Json) :
    (comparator.keys v).outcome = .ok [⟨v.toValue, false⟩] := by
  unfold Config.comparator at hc
  rw [h] at hc
  cases hc
  rfl

end Config

theorem Criterion.ofJson_eq_error {α : Type} {v : Json} :
    (∃ e, (ofJson v : Except SortError (Criterion α)) = .error e) ↔
      v.kind ≠ .number ∧ v.kind ≠ .string := by
  cases v <;> simp [ofJson, Json.kind]

theorem Config.comparator_eq_error {c : Config} :
    (∃ e, c.comparator = .error e) ↔ ∃ v ∈ c.criteria, v.kind ≠ .number ∧ v.kind ≠ .string := by
  unfold Config.comparator Comparator.ofJson
  cases hc : c.criteria with
  | nil => exact ⟨nofun, nofun⟩
  | cons v vs =>
    simp only [List.isEmpty_cons, Bool.false_eq_true, if_false, Criteria.ofJson,
      ← Criterion.ofJson_eq_error (α := Json), ← mapM_eq_error]
    cases (v :: vs).mapM Criterion.ofJson with
    | error e => simp [Except.map]
    | ok cs => simp [Except.map]

theorem arrayAt_eq_ok {document : Json} {text : String} {p : Json.Pointer} {items : List Json} :
    arrayAt document text = .ok (p, items) ↔
      Json.pointer? text = some p ∧ document.at? p = some (.array items) := by
  unfold arrayAt
  constructor
  · intro h
    split at h
    next => cases h
    next hp =>
      split at h
      next => cases h
      next ha => cases h; exact ⟨hp, ha⟩
      next => cases h
  · rintro ⟨hp, ha⟩
    simp only [hp, ha]

namespace Config

variable {c : Config} {document : Json}

theorem arrayAt_eq_error :
    (∃ e, arrayAt document c.pointerText = .error e) ↔ c.place?.bind document.at? = none ∨
      ∃ v, c.place?.bind document.at? = some v ∧ v.kind ≠ .array := by
  rw [place?_eq, arrayAt]
  cases Json.pointer? c.pointerText with
  | none => simp
  | some p =>
    cases hp : document.at? p with
    | none => simp [hp]
    | some v => cases v <;> simp [hp, Json.kind]

theorem exists_arrayAt {items : List Json} :
    (∃ p, arrayAt document c.pointerText = .ok (p, items)) ↔
      c.place?.bind document.at? = some (.array items) := by
  simp only [arrayAt_eq_ok, place?_eq, Option.bind_eq_some_iff]

end Config

inductive Attempt (c : Config) (document : Json) : Except DocumentError Nat × Json → Prop
  | criteria {e : SortError} (hc : c.comparator = .error e) :
      Attempt c document (.error (.criteria e), document)
  | place {comparator : Comparator Json} {e : DocumentError} (hc : c.comparator = .ok comparator)
      (ha : arrayAt document c.pointerText = .error e) : Attempt c document (.error e, document)
  | keys {comparator : Comparator Json} {p : Json.Pointer} {items : List Json} {e : SortError}
      (hc : c.comparator = .ok comparator) (ha : arrayAt document c.pointerText = .ok (p, items))
      (hs : (comparator.sort items.toArray).outcome = .error e) :
      Attempt c document (.error (.sort e), document)
  | sorted {comparator : Comparator Json} {p : Json.Pointer} {items : List Json}
      {sorted : Array Json} (hc : c.comparator = .ok comparator)
      (ha : arrayAt document c.pointerText = .ok (p, items))
      (hs : (comparator.sort items.toArray).outcome = .ok sorted) :
      Attempt c document (.ok sorted.size, Json.replaceAt (.array sorted.toList) p document)

theorem attempt_sortDocument (c : Config) (document : Json) :
    Attempt c document (sortDocument c document) := by
  unfold sortDocument
  split
  next e hc => exact .criteria hc
  next comparator hc =>
    split
    next e ha => exact .place hc ha
    next p items ha =>
      rw [Comparator.run_sortInPlace]
      cases hs : (comparator.sort items.toArray).outcome with
      | ok sorted => exact .sorted hc ha hs
      | error e =>
        -- The array is written back as it was.
        have hd := (Json.sameBut_replaceAt (arrayAt_eq_ok.mp ha).2 (.array items)).eq
        change Attempt c document (.error (.sort e), Json.replaceAt (.array items) p document)
        rw [← hd]
        exact .keys hc ha hs

namespace Attempt

variable {c : Config} {document left : Json}

theorem left_eq {e : DocumentError} (h : Attempt c document (.error e, left)) :
    left = document := by
  cases h with
  | criteria => rfl
  | place => rfl
  | keys => rfl

theorem exists_sorted {n : Nat} (h : Attempt c document (.ok n, left)) :
    ∃ comparator p, ∃ items sorted : Array Json, c.comparator = .ok comparator ∧
      c.place? = some p ∧ items.size = n ∧ comparator.StableOrder items sorted ∧
      Json.SameBut (.array items.toList) (.array sorted.toList) p document left := by
  cases h with
  | @sorted comparator p items sorted hc ha hs =>
    obtain ⟨hp, hd⟩ := arrayAt_eq_ok.mp ha
    have ho := Comparator.stableOrder_of_sort hs
    exact ⟨comparator, p, items.toArray, sorted, hc, c.place?_eq.trans hp, ho.1.symm, ho,
      Json.sameBut_replaceAt hd _⟩

theorem eq_error_iff {outcome : Except DocumentError Nat} (h : Attempt c document (outcome, left)) :
    (∃ e, outcome = .error e) ↔ (∃ e, c.comparator = .error e) ∨
      (∃ e, arrayAt document c.pointerText = .error e) ∨
      ∃ comparator items, c.comparator = .ok comparator ∧
        c.place?.bind document.at? = some (.array items) ∧
        ∃ a ∈ items, ∃ x, (comparator.keys a).outcome = .error x := by
  constructor
  · rintro ⟨e, rfl⟩
    cases h with
    | criteria hc => exact .inl ⟨_, hc⟩
    | place _ ha => exact .inr (.inl ⟨_, ha⟩)
    | @keys comparator p items _ hc ha hs =>
      have hk := Comparator.exists_sort_error.mp ⟨_, hs⟩
      simp only [List.mem_toArray] at hk
      exact .inr (.inr ⟨comparator, items, hc, Config.exists_arrayAt.mp ⟨p, ha⟩, hk⟩)
  · intro hf
    cases h with
    | criteria => exact ⟨_, rfl⟩
    | place => exact ⟨_, rfl⟩
    | keys => exact ⟨_, rfl⟩
    | sorted hc ha hs =>
      rcases hf with ⟨e, he⟩ | ⟨e, he⟩ | ⟨comparator, items, hc', ht, hk⟩
      · cases hc.symm.trans he
      · cases ha.symm.trans he
      · obtain ⟨p, ha'⟩ := Config.exists_arrayAt.mpr ht
        cases hc.symm.trans hc'
        cases ha.symm.trans ha'
        simp only [← List.mem_toArray] at hk
        obtain ⟨e, he⟩ := Comparator.exists_sort_error.mpr hk
        cases hs.symm.trans he

end Attempt

theorem sortDocument_frame (c : Config) (document : Json) :
    let (outcome, left) := sortDocument c document
    let target := c.place?.bind document.at?
    (∀ e, outcome = .error e → left = document) ∧
      (∀ n, outcome = .ok n → ∃ comparator p, ∃ items sorted : Array Json,
        c.comparator = .ok comparator ∧ c.place? = some p ∧ items.size = n ∧
        document.at? p = some (.array items.toList) ∧ left.at? p = some (.array sorted.toList) ∧
        comparator.StableOrder items sorted ∧
        (c.criteria = [] → ∀ v, (comparator.keys v).outcome = .ok [⟨v.toValue, false⟩]) ∧
        Json.SameBut (.array items.toList) (.array sorted.toList) p document left) ∧
      ((∃ e, outcome = .error e) ↔
        (∃ v ∈ c.criteria, v.kind ≠ .number ∧ v.kind ≠ .string) ∨ target = none ∨
        (∃ v, target = some v ∧ v.kind ≠ .array) ∨
        ∃ comparator items, c.comparator = .ok comparator ∧ target = some (.array items) ∧
          ∃ a ∈ items, ∃ x, (comparator.keys a).outcome = .error x) := by
  have h := attempt_sortDocument c document
  rcases hr : sortDocument c document with ⟨outcome, left⟩
  rw [hr] at h
  refine ⟨fun e he => ?_, fun n hn => ?_, ?_⟩
  · cases he
    exact h.left_eq
  · cases hn
    obtain ⟨comparator, p, items, sorted, hc, hp, hn, ho, hb⟩ := h.exists_sorted
    exact ⟨comparator, p, items, sorted, hc, hp, hn, hb.at?_eq, hb.symm.at?_eq, ho,
      Config.keys_natural hc, hb⟩
  · rw [h.eq_error_iff, Config.comparator_eq_error, Config.arrayAt_eq_error, or_assoc]

-- The first item has answered before the second one refuses.
example :
    let document : Json := .object [("a", .null), ("b", .array [.string "y", .null, .string "x"])]
    sortDocument ⟨[.string "length"], some "/b", false⟩ document =
      (.error (.sort (.resolution "length" (.lookup "length" (.notInspectable "length" .null)))),
        document) :=
  rfl

end Collate

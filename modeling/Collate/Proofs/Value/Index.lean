import Collate.Json.Inspect
import Mathlib.Algebra.Group.Int.Defs
import Mathlib.Algebra.Group.Nat.Defs
import Mathlib.Order.Basic

namespace Collate

def IsIndex (name : String) : Prop :=
  name ≠ "" ∧ ∀ c ∈ name.toList, c.isDigit

def placeOf (name : String) : Nat :=
  Nat.ofDigitChars 10 name.toList 0

section Words

variable {cs : List Char} {name : String} {k n : Nat} {i : Int} {w : Int64}

theorem digits?_of_digits (hne : cs ≠ []) (hd : ∀ c ∈ cs, c.isDigit) :
    digits? cs = some (Nat.ofDigitChars 10 cs 0) :=
  if_pos ⟨hne, List.all_eq_true.mpr hd⟩

theorem word?_of_digits (hne : cs ≠ []) (hd : ∀ c ∈ cs, c.isDigit) :
    word? cs = if Nat.ofDigitChars 10 cs 0 < UInt64.size
      then some (.ofNat (Nat.ofDigitChars 10 cs 0)) else none := by
  have hw : word? cs = (digits? cs).bind fun n =>
      if n < UInt64.size then some (.ofNat n) else none := by
    unfold word?
    split
    next r =>
      have hplus : ('+').isDigit := hd _ List.mem_cons_self
      cases hplus
    next => rfl
  rw [hw, digits?_of_digits hne hd]
  rfl

theorem IsIndex.memberIndex? (h : IsIndex name) :
    memberIndex? name =
      if placeOf name < UInt64.size then some (.ofNat (placeOf name)) else none := by
  have hne : name.toList ≠ [] := String.toList_eq_nil_iff.not.mpr h.1
  rw [Collate.memberIndex?, if_pos ⟨h.1, List.all_eq_true.mpr h.2⟩, word?_of_digits hne h.2]
  rfl

theorem memberIndex?_of_not_isIndex (h : ¬ IsIndex name) : memberIndex? name = none :=
  if_neg fun hi => h ⟨hi.1, List.all_eq_true.mp hi.2⟩

theorem Inspect.listIndex?_eq (name : String) : listIndex? name = memberIndex? name := by
  unfold listIndex? memberIndex?
  by_cases hd : name.toList.all Char.isDigit
  · by_cases hne : name = ""
    · rw [hne]
      rfl
    · rw [if_pos ⟨hne, hd⟩, hd]
      cases word? name.toList <;> rfl
  · rw [if_neg fun h => hd h.2, Bool.eq_false_iff.mpr hd]
    cases word? name.toList <;> rfl

theorem toNat_of_memberIndex? {v : UInt64} (h : memberIndex? name = some v) :
    IsIndex name ∧ v.toNat = placeOf name := by
  by_cases hi : IsIndex name
  · rw [hi.memberIndex?] at h
    split at h
    next hs =>
      cases h
      exact ⟨hi, UInt64.toNat_ofNat_of_lt' hs⟩
    next => cases h
  · rw [memberIndex?_of_not_isIndex hi] at h
    cases h

theorem IsIndex.getElem?_memberIndex? {β : Type} {xs : List β} (h : IsIndex name)
    (hx : xs.length < 2 ^ 63) :
    ((Collate.memberIndex? name).bind fun v => xs[v.toNat]?) = xs[placeOf name]? := by
  rw [h.memberIndex?]
  split
  next hs => rw [Option.bind_some, UInt64.toNat_ofNat_of_lt' hs]
  next hs =>
    have hle : xs.length ≤ placeOf name := by
      unfold UInt64.size at hs
      omega
    exact (List.getElem?_eq_none hle).symm

theorem isIndex_toString (k : Nat) : IsIndex (toString k) := by
  constructor
  · intro h
    have hl : (toString k).toList = [] := by rw [h]; rfl
    rw [Nat.toString_eq_repr, Nat.toList_repr] at hl
    exact Nat.toDigits_ne_nil hl
  · intro c hc
    rw [Nat.toString_eq_repr, Nat.toList_repr] at hc
    exact Nat.isDigit_of_mem_toDigits (by decide) (by decide) hc

theorem placeOf_toString (k : Nat) : placeOf (toString k) = k := by
  rw [placeOf, Nat.toString_eq_repr, Nat.toList_repr]
  exact Nat.ofDigitChars_toDigits (by decide) (by decide)

theorem toInt_ofIntClamp (i : Int) :
    (Int64.ofIntClamp i).toInt = max (-2 ^ 63) (min i (2 ^ 63 - 1)) := by
  have hmin : Int64.minValue.toInt = -2 ^ 63 := Int64.toInt_minValue
  have hmax : Int64.maxValue.toInt = 2 ^ 63 - 1 := Int64.toInt_maxValue
  unfold Int64.ofIntClamp
  split
  next hl =>
    split
    next hr =>
      rw [Int64.toInt_ofIntLE]
      omega
    next hr => omega
  next hl => omega

theorem toInt_length_add (hn : n < 2 ^ 63) (hw : w < 0) :
    (Int64.ofNat n + w).toInt = n + w.toInt := by
  have hl : -2 ^ 63 ≤ w.toInt := Int64.le_toInt w
  have hw : w.toInt < 0 := by
    rw [Int64.lt_iff_toInt_lt, Int64.toInt_zero] at hw
    exact hw
  rw [Int64.toInt_add, Int64.toInt_ofNat_of_lt hn]
  exact Int.bmod_eq_of_le (by omega) (by omega)

theorem atIndex?_eq {β : Type} (xs : List β) (w : Int64) :
    atIndex? xs w = if w.toInt < 0 then none else xs[w.toInt.toNat]? := by
  unfold atIndex?
  simp only [Int64.lt_iff_toInt_lt, Int64.toInt_zero]
  rfl

end Words

namespace Value

structure NamesByPlace (parts : List Value) (member : String → Except LookupError Value) : Prop where
  index : ∀ name, IsIndex name → member name = .ok (parts[placeOf name]?.getD .absent)
  other : ∀ name, ¬ IsIndex name → name ≠ "length" → member name = .ok .absent

theorem namesByPlace_map {β : Type} {xs : List β} {view : β → Value}
    {member : String → Except LookupError Value} (hx : xs.length < 2 ^ 63)
    (hm : ∀ name, name ≠ "length" → member name =
      .ok (((memberIndex? name).bind fun v => xs[v.toNat]?.map view).getD .absent)) :
    NamesByPlace (xs.map view) member where
  index name hi := by
    have hne : name ≠ "length" := by
      rintro rfl
      exact absurd (hi.2 'l' (by decide)) (by decide)
    have hb := congrArg (Option.map view) (hi.getElem?_memberIndex? hx)
    rw [Option.map_bind] at hb
    rw [hm name hne, List.getElem?_map]
    exact congrArg (fun o => Except.ok (Option.getD o .absent)) hb
  other name hi hne := by
    rw [hm name hne, memberIndex?_of_not_isIndex hi]
    rfl

variable {items : List Value} {s : String} {x : Binary64} {i : Int}

theorem namesByPlace_array (hn : items.length < 2 ^ 63) :
    NamesByPlace items (array items).member := by
  have hm : NamesByPlace (items.map id) (array items).member := by
    apply namesByPlace_map hn
    intro name hne
    rw [member, arrayMember, if_neg hne]
    cases memberIndex? name with
    | none => rfl
    | some v => rw [Option.bind_some, Option.map_id_fun, id_eq]
  rw [List.map_id] at hm
  exact hm

theorem namesByPlace_string (hn : s.toList.length < 2 ^ 63) :
    NamesByPlace (s.toList.map fun c => string (String.singleton c)) (string s).member := by
  apply namesByPlace_map hn
  intro name hne
  rw [member, stringMember, if_neg hne]
  cases memberIndex? name with
  | none => rfl
  | some v => rfl

theorem namesByPlace_list {α : Type} {view : α → Value} {xs : List α} (hn : xs.length < 2 ^ 63) :
    NamesByPlace (xs.map view) fun name => .ok (Inspect.listMember view xs name) := by
  apply namesByPlace_map hn
  intro name hne
  rw [Inspect.listMember, if_neg hne, Inspect.listIndex?_eq]

theorem integerArgument_eq (h : x.toInt? = some i) (method : String) :
    integerArgument method [.number x] 0 = .ok (some (.ofIntClamp i)) := by
  have hx : (Literal.number x).number?.bind Binary64.toInt? = some i := h
  unfold integerArgument
  simp only [List.getElem?_cons_zero, hx]

theorem invoke_at (h : x.toInt? = some i) :
    (array items).invoke "at" [.number x] = pure ((atIndex? items
      (if Int64.ofIntClamp i < 0 then .ofNat items.length + .ofIntClamp i
        else .ofIntClamp i)).getD absent) := by
  unfold invoke callArray
  simp only [integerArgument_eq h]
  rfl

theorem invoke_charAt (h : x.toInt? = some i) :
    (string s).invoke "charAt" [.number x] = pure (string
      (((atIndex? s.toList (.ofIntClamp i)).map String.singleton).getD "")) := by
  unfold invoke callString
  simp only [integerArgument_eq h]
  rfl

theorem invoke_at_forward (hn : items.length < 2 ^ 63) (h : x.toInt? = some i) (hi : 0 ≤ i) :
    (array items).invoke "at" [.number x] = pure (items[i.toNat]?.getD absent) := by
  have hw := toInt_ofIntClamp i
  have hneg : ¬ Int64.ofIntClamp i < 0 := by
    rw [Int64.lt_iff_toInt_lt, Int64.toInt_zero]
    omega
  have hget : items[(Int64.ofIntClamp i).toInt.toNat]? = items[i.toNat]? := by
    by_cases hlt : i < 2 ^ 63
    · have he : (Int64.ofIntClamp i).toInt = i := by omega
      rw [he]
    · rw [List.getElem?_eq_none (by omega), List.getElem?_eq_none (by omega)]
  rw [invoke_at h, if_neg hneg, atIndex?_eq, if_neg (by omega), hget]

theorem invoke_at_backward (hn : items.length < 2 ^ 63) (h : x.toInt? = some i) (hi : i < 0) :
    (array items).invoke "at" [.number x] = pure
      (if -(items.length : Int) ≤ i then items[(items.length + i).toNat]?.getD absent
        else absent) := by
  have hw := toInt_ofIntClamp i
  have hneg : Int64.ofIntClamp i < 0 := by
    rw [Int64.lt_iff_toInt_lt, Int64.toInt_zero]
    omega
  rw [invoke_at h, if_pos hneg, atIndex?_eq, toInt_length_add hn hneg]
  by_cases hle : -(items.length : Int) ≤ i
  · have he : (Int64.ofIntClamp i).toInt = i := by omega
    rw [he, if_pos hle, if_neg (by omega)]
  · rw [if_neg hle, if_pos (by omega)]
    rfl

theorem invoke_charAt_eq (hn : s.toList.length < 2 ^ 63) (h : x.toInt? = some i) :
    (string s).invoke "charAt" [.number x] = pure (string
      (if 0 ≤ i then ((s.toList[i.toNat]?).map String.singleton).getD "" else "")) := by
  have hw := toInt_ofIntClamp i
  rw [invoke_charAt h, atIndex?_eq]
  by_cases hi : 0 ≤ i
  · rw [if_pos hi, if_neg (by omega)]
    by_cases hlt : i < 2 ^ 63
    · have he : (Int64.ofIntClamp i).toInt = i := by omega
      rw [he]
    · rw [List.getElem?_eq_none (by omega), List.getElem?_eq_none (by omega)]
  · rw [if_neg hi, if_pos (by omega)]
    rfl

structure ArrayByPlace (items : List Value) : Prop where
  names : NamesByPlace items (array items).member
  forward : ∀ (x : Binary64) (i : Int), x.toInt? = some i → 0 ≤ i →
    (array items).invoke "at" [.number x] = .ofExcept ((array items).member (toString i.toNat))
  backward : ∀ (x : Binary64) (i : Int), x.toInt? = some i → -(items.length : Int) ≤ i → i < 0 →
    (array items).invoke "at" [.number x] = pure (items[(items.length + i).toNat]?.getD absent)
  before : ∀ (x : Binary64) (i : Int), x.toInt? = some i → i < -(items.length : Int) →
    (array items).invoke "at" [.number x] = pure absent

structure StringByPlace (s : String) : Prop where
  names : NamesByPlace (s.toList.map fun c => string (String.singleton c)) (string s).member
  inside : ∀ (x : Binary64) (i : Int), x.toInt? = some i → 0 ≤ i → i < s.toList.length →
    (string s).invoke "charAt" [.number x] = .ofExcept ((string s).member (toString i.toNat))
  outside : ∀ (x : Binary64) (i : Int), x.toInt? = some i → i < 0 ∨ s.toList.length ≤ i →
    (string s).invoke "charAt" [.number x] = pure (string "")

/-- Words of 64 bits hold all that is counted on the way to one of `n` parts. An argument beyond them
becomes the last integer that they hold. -/
structure WordsHold (n : Nat) : Prop where
  name : ∀ name v, memberIndex? name = some v ∨ Inspect.listIndex? name = some v →
    v.toNat = placeOf name
  argument : ∀ method (x : Binary64) (i : Int), x.toInt? = some i → ∃ w,
    integerArgument method [.number x] 0 = .ok (some w) ∧
      w.toInt = max (-2 ^ 63) (min i (2 ^ 63 - 1))
  length : (Int64.ofNat n).toInt = n
  fromEnd : ∀ w : Int64, w < 0 → (Int64.ofNat n + w).toInt = n + w.toInt

theorem arrayByPlace (hn : items.length < 2 ^ 63) : ArrayByPlace items where
  names := namesByPlace_array hn
  forward x i h hi := by
    rw [invoke_at_forward hn h hi, (namesByPlace_array hn).index _ (isIndex_toString _),
      placeOf_toString]
    rfl
  backward x i h hle hi := by rw [invoke_at_backward hn h hi, if_pos hle]
  before x i h hlt := by
    rw [invoke_at_backward hn h (by omega), if_neg (by omega)]

theorem stringByPlace (hn : s.toList.length < 2 ^ 63) : StringByPlace s where
  names := namesByPlace_string hn
  inside x i h hi hlt := by
    have hk : i.toNat < s.toList.length := by omega
    rw [invoke_charAt_eq hn h, if_pos hi, (namesByPlace_string hn).index _ (isIndex_toString _),
      placeOf_toString, List.getElem?_map, List.getElem?_eq_getElem hk]
    rfl
  outside x i h hi := by
    rw [invoke_charAt_eq hn h]
    rcases hi with hi | hi
    · rw [if_neg (by omega)]
    · have hk : s.toList.length ≤ i.toNat := by omega
      rw [List.getElem?_eq_none hk, Option.map_none, Option.getD_none, ite_self]

theorem wordsHold {n : Nat} (hn : n < 2 ^ 63) : WordsHold n where
  name name v h := by
    rw [Inspect.listIndex?_eq, or_self] at h
    exact (toNat_of_memberIndex? h).2
  argument method x i h := ⟨_, integerArgument_eq h method, toInt_ofIntClamp i⟩
  length := Int64.toInt_ofNat_of_lt hn
  fromEnd w hw := toInt_length_add hn hw

theorem accessed_by_place {n : Nat} (hn : n < 2 ^ 63) :
    WordsHold n ∧ (∀ items : List Value, items.length = n → ArrayByPlace items) ∧
      (∀ s : String, s.toList.length = n → StringByPlace s) ∧
      (∀ (α : Type) [Inspect α] (xs : List α), xs.length = n →
        NamesByPlace (xs.map Inspect.view) (Inspect.member xs)) ∧
      ∀ docs : List Json, docs.length = n →
        NamesByPlace (docs.map Json.toValue) (Inspect.member (Json.array docs)) := by
  refine ⟨wordsHold hn, ?_, ?_, ?_, ?_⟩
  · rintro items rfl
    exact arrayByPlace hn
  · rintro s rfl
    exact stringByPlace hn
  · rintro α _ xs rfl
    exact namesByPlace_list hn
  · rintro docs rfl
    exact namesByPlace_list hn

theorem accessed_by_place_pair :
    let items := [null, bool true]
    items.length < 2 ^ 63 ∧ (array items).member "000000000000000000001" = .ok (bool true) ∧
      (array items).member "18446744073709551617" = .ok absent ∧
      (array items).invoke "at" [.number (.ofInt (-2))] = pure null ∧
      (array items).invoke "at" [.number (.ofInt (-2 ^ 64))] = pure absent := by
  intro items
  have hn : items.length < 2 ^ 63 := by decide
  obtain ⟨_, ha, _⟩ := accessed_by_place hn
  have h := ha items rfl
  have hone : IsIndex "000000000000000000001" :=
    ⟨by decide, List.all_eq_true.mp (by decide +kernel)⟩
  have hround : IsIndex "18446744073709551617" :=
    ⟨by decide, List.all_eq_true.mp (by decide +kernel)⟩
  exact ⟨hn, h.names.index _ hone, h.names.index _ hround,
    h.backward _ (-2) (by decide +kernel) (by decide) (by decide),
    h.before _ (-2 ^ 64) (by decide +kernel) (by decide)⟩

end Value
end Collate

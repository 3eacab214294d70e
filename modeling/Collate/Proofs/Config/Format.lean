import Collate.Config.Loading
import Collate.Proofs.Toml.Header
import Mathlib.Data.List.DropRight
import Mathlib.Data.List.Forall2

/-!
Settings whose format is not known. A text of JSON is taken for that but for one kind: an array in an
array around one value is the header of an item in TOML.
-/

namespace Collate

namespace Json

variable {cs rest : List Char}

theorem readItems_eq_ok {fuel depth : Nat} {vs : List Json}
    (h : readItems fuel depth cs = .ok (vs, rest)) :
    skipSpace cs = ']' :: rest ∨ ∃ f v left more rest',
      readValue f depth (skipSpace cs) = .ok (v, left) ∧
        readListSeparator left = .ok (more, rest') ∧
        (more = false → vs = [v] ∧ rest' = rest) := by
  cases fuel with
  | zero => rw [readItems] at h; cases h
  | succ fuel =>
    rw [readItems] at h
    split at h
    next => cases h
    next hs =>
      cases h
      exact .inl hs
    next =>
      cases fuel with
      | zero => rw [readMoreItems] at h; cases h
      | succ fuel =>
        rw [readMoreItems] at h
        obtain ⟨⟨v, left⟩, hv, h⟩ := bind_eq_ok.mp h
        obtain ⟨⟨more, rest'⟩, hm, h⟩ := bind_eq_ok.mp h
        refine .inr ⟨fuel, v, left, more, rest', hv, hm, ?_⟩
        rintro rfl
        cases h
        exact ⟨rfl, rfl⟩

end Json

namespace Config

open Json (Passes)

variable {c : Config} {cs r rest : List Char}

theorem malformed_eq_ok {α : Type} {x : Json.Reading Json.Fault α} {a : α} :
    malformed x = .ok a ↔ x = .ok a :=
  mapError_eq_ok

theorem refuse_ne_ok {α : Type} {fuel : Nat} {expected : Shape} {a : α} :
    refuse fuel expected cs ≠ .ok a := by
  intro h
  unfold refuse at h
  split at h
  · cases h
  · cases h
  · obtain ⟨⟨v, r⟩, -, h⟩ := bind_eq_ok.mp h
    cases h

theorem readSetting_criteria {fuel depth : Nat} {b : Config}
    (h : readSetting fuel depth b .criteria cs = .ok (c, rest)) :
    ∃ r vs, Json.skipSpace cs = '[' :: r ∧ Json.readItems fuel (depth - 1) r = .ok (vs, rest) ∧
      c = { b with criteria := vs } := by
  unfold readSetting at h
  split at h
  next r _ hs =>
    obtain ⟨⟨vs, r'⟩, hi, h⟩ := map_eq_ok.mp h
    cases h
    exact ⟨r, vs, hs, malformed_eq_ok.mp hi, rfl⟩
  next => exact absurd h refuse_ne_ok
  all_goals contradiction

theorem readPositional_all {fuel depth : Nat}
    (h : readPositional fuel depth Setting.all default cs = .ok (c, rest)) :
    ∃ r vs left more rest', Json.skipSpace cs = '[' :: r ∧
      Json.readItems fuel (depth - 1) r = .ok (vs, left) ∧
      Json.readListSeparator left = .ok (more, rest') ∧
      (more = false → c = ⟨vs, none, false⟩ ∧ rest' = rest) := by
  unfold Setting.all readPositional at h
  obtain ⟨⟨c', left⟩, hc, h⟩ := bind_eq_ok.mp h
  obtain ⟨r, vs, hr, hi, rfl⟩ := readSetting_criteria hc
  dsimp only at h
  rw [if_neg nofun] at h
  obtain ⟨⟨more, rest'⟩, hm, h⟩ := bind_eq_ok.mp h
  refine ⟨r, vs, left, more, rest', hr, hi, malformed_eq_ok.mp hm, ?_⟩
  rintro rfl
  cases h
  exact ⟨rfl, rfl⟩

theorem readConfig_eq_ok (h : readConfig cs = .ok c) :
    (∃ r, Json.skipSpace cs = '\x7b' :: r) ∨
      (∃ r r', Json.skipSpace cs = '[' :: r ∧ Json.skipSpace r = ']' :: r') ∨
      ∃ r r' f d vs left more rest, Json.skipSpace cs = '[' :: r ∧ Json.skipSpace r = '[' :: r' ∧
        Json.readItems f d r' = .ok (vs, left) ∧
        Json.readListSeparator left = .ok (more, rest) ∧
        (more = false → c = ⟨vs, none, false⟩ ∧ Json.skipSpace rest = []) := by
  unfold readConfig at h
  dsimp only at h
  split at h
  next r hs => exact .inl ⟨r, hs⟩
  next r hs =>
    split at h
    next => cases h
    next r' hr => exact .inr (.inl ⟨r, r', hs, hr⟩)
    next =>
      obtain ⟨⟨c', rest⟩, hc, h⟩ := bind_eq_ok.mp h
      obtain ⟨_, he, h⟩ := bind_eq_ok.mp h
      cases h
      obtain ⟨r', vs, left, more, rest', hr, hi, hm, hf⟩ := readPositional_all hc
      rw [Json.skipSpace, Json.skipSpace, List.dropWhile_idempotent] at hr
      refine .inr (.inr ⟨r, r', _, _, vs, left, more, rest', hs, hr, hi, hm, ?_⟩)
      intro hmore
      obtain ⟨hv, rfl⟩ := hf hmore
      exact ⟨hv, Json.expectEnd_eq_ok.mp (malformed_eq_ok.mp he)⟩
  next =>
    obtain ⟨x, hx, -⟩ := bind_eq_ok.mp h
    exact absurd hx refuse_ne_ok

section Header

variable {text : String} {v : Json} {d : Config}

def IsHeader (cs : List Char) (v : Json) : Prop :=
  ∃ u r r' rest, Passes Json.isSpace cs ('[' :: '[' :: r) ∧ Passes Json.isSpace r (u ++ r') ∧
    Json.ScalarText v u ∧ Passes Json.isSpace r' (']' :: ']' :: rest) ∧
    Passes Json.isSpace rest []

def ofHeader : Json → Config
  | .string s => if s = Setting.criteria.name then ⟨[.object []], none, false⟩ else default
  | _ => default

theorem ofName?_startsBare {c : Char} {w : List Char} (hc : Json.startsBare c) :
    Setting.ofName? (String.ofList (c :: w)) = none := by
  rw [Setting.ofName?, List.find?_eq_none]
  intro x _ hx
  have hn := congrArg String.toList (of_decide_eq_true hx)
  rw [String.toList_ofList] at hn
  cases x <;> (cases hn; cases hc)

theorem withEntry?_of_ofName? {k : String} {t : Toml} (hk : Setting.ofName? k = none)
    (h : c.withEntry? k t = some d) : d = c := by
  unfold withEntry? at h
  rw [hk] at h
  dsimp only at h
  split at h
  · cases h
    rfl
  · cases h

theorem withEntry?_item {s : String}
    (h : default.withEntry? s (.array [.table []]) = some d) : d = ofHeader (.string s) := by
  cases hs : Setting.ofName? s with
  | none =>
    rw [withEntry?_of_ofName? hs h, ofHeader, if_neg]
    rintro rfl
    cases hs
  | some x =>
    rw [Setting.ofName?] at hs
    have hx := List.find?_some hs
    obtain rfl := of_decide_eq_true hx
    cases x with
    | criteria => exact (Option.some.inj h).symm
    | pointer => cases h
    | pretty => cases h

theorem withEntry?_of_isItemEntry {keys : List Toml.Token} {path : List String} {k : String}
    {t : Toml} (hk : Toml.ValueKeys v keys) (hp : Toml.pathOf keys = .ok path)
    (he : Toml.IsItemEntry path (k, t)) (h : default.withEntry? k t = some d) : d = ofHeader v := by
  obtain ⟨keys', rfl, ht⟩ := he
  cases hk with
  | @bare _ c w ts hv hc =>
    obtain ⟨hk, -⟩ := Toml.pathOf_eq_cons hp
    obtain ⟨-, hk⟩ := Option.ite_none_right_eq_some.mp hk
    cases hk
    rw [withEntry?_of_ofName? (ofName?_startsBare hc) h]
    cases v with
    | string _ => cases hv
    | _ => rfl
  | string hu =>
    obtain ⟨hk, hks⟩ := Toml.pathOf_eq_cons hp
    have hk := Toml.key?_basic hu hk
    rw [String.ofList_toList] at hk
    subst hk
    cases hks
    rcases ht with ⟨-, rfl⟩ | ⟨hne, -⟩
    · exact withEntry?_item h
    · exact absurd rfl hne

theorem items_of_readKeys {f depth fuel : Nat} {vs : List Json} {left after : List Char}
    {keys : List Toml.Token} (hi : Json.readItems f depth r = .ok (vs, left))
    (hk : Toml.readKeys fuel (Toml.skipSpace r) = some (keys, ']' :: after)) :
    ∃ v u r', vs = [v] ∧ left = after ∧ Toml.ValueKeys v keys ∧ Json.ScalarText v u ∧
      Passes Json.isSpace r (u ++ r') ∧ Passes Json.isSpace r' (']' :: after) := by
  have hr := Json.passes_skipSpace r
  have hb {c : Char} {q : List Char} (hs : Json.skipSpace r = c :: q) (hne : c ≠ '#') :
      Toml.startsKey c :=
    Toml.startsKey_of_passes (Toml.solid_cons (Json.isSpace_of_skipSpace hs) hne) (hs ▸ hr) hk
  rcases Json.readItems_eq_ok hi with hs | ⟨f, v, r', more, rest, hv, hm, hmore⟩
  · cases hb hs (by decide)
  · have hv := Json.readValue_eq_ok hv
    rw [Json.skipSpace, Json.skipSpace, List.dropWhile_idempotent] at hv
    rcases hv with ⟨u, hu, hvu⟩ | ⟨hs, -⟩ | ⟨hs, -⟩
    · have hru : Passes Json.isSpace r (u ++ r') := hu ▸ hr
      have hr' := Json.passes_skipSpace r'
      rcases Json.readListSeparator_eq_ok hm with ⟨hs, rfl⟩ | ⟨q, hs, -, -⟩
      · rw [hs] at hr'
        obtain ⟨hvk, -, rfl⟩ := Toml.readKeys_scalarText hvu (.inr rfl) hru hr' hk
        obtain ⟨rfl, rfl⟩ := hmore rfl
        exact ⟨v, u, r', rfl, rfl, hvk, hvu, hru, hr'⟩
      · rw [hs] at hr'
        obtain ⟨-, hc, -⟩ := Toml.readKeys_scalarText hvu (.inl rfl) hru hr' hk
        cases hc
    · obtain ⟨q, hq⟩ := List.head?_eq_some_iff.mp hs
      cases hb hq (by decide)
    · obtain ⟨q, hq⟩ := List.head?_eq_some_iff.mp hs
      cases hb hq (by decide)

theorem isHeader_of_ofTomlText (hc : readConfig text.toList = .ok c)
    (hd : ofTomlText text = .ok d) :
    ∃ v, IsHeader text.toList v ∧ c = ⟨[v], none, false⟩ ∧ d = ofHeader v := by
  obtain ⟨entries, hp, he⟩ := bind_eq_ok.mp hd
  have ht := Json.passes_skipSpace text.toList
  rcases readConfig_eq_ok hc with ⟨r, hs⟩ | ⟨r, r', hs, hr⟩ |
    ⟨r, r', f, depth, vs, left, more, rest, hs, hr, hi, hm, hmore⟩
  · rw [hs] at ht
    obtain ⟨hb, -⟩ := Toml.parse_bracket (.inr rfl) ht hp
    cases hb
  · rw [hs] at ht
    obtain ⟨rfl, fuel, keys, rest, hk, -⟩ :=
      Toml.parse_header (.inr rfl) ht (hr ▸ Json.passes_skipSpace r) hp
    cases hr
  · rw [hs] at ht
    obtain ⟨rfl, fuel, keys, after, hk, hone⟩ :=
      Toml.parse_header (.inl rfl) ht (hr ▸ Json.passes_skipSpace r) hp
    obtain ⟨v, u, q, rfl, rfl, hvk, hvu, hru, hq⟩ := items_of_readKeys hi hk
    have hrest : rest = after ∧ more = false := by
      rcases Json.readListSeparator_eq_ok hm with ⟨hs, rfl⟩ | ⟨q, hs, -, -⟩
      · cases hs
        exact ⟨rfl, rfl⟩
      · cases hs
    obtain ⟨rfl, rfl⟩ := hrest
    obtain ⟨rfl, hend⟩ := hmore rfl
    have hend : Passes Json.isSpace rest [] := hend ▸ Json.passes_skipSpace rest
    obtain ⟨path, ⟨k, t⟩, hpath, rfl, hkt⟩ := hone hend
    refine ⟨v, ⟨u, r', q, rest, ht, hru, hvu, hq, hend⟩, rfl, ?_⟩
    obtain ⟨d', he, hd'⟩ := Option.bind_eq_some_iff.mp (Toml.required_eq_ok.mp he)
    cases hd'
    exact withEntry?_of_isItemEntry hvk hpath hkt he

theorem ofText_of_ofTomlText {origin : String} (h : ofTomlText text = .ok d) :
    ofText text origin = .ok d := by
  unfold ofText
  rw [h]

theorem ofFile_of_extension? {h : Host Id} {path : String} (ht : (h.readText path).run = .ok text)
    (he : extension? path ∉ [some "json", some "toml", some "tml"]) :
    (ofFile h path).run = ofText text path := by
  have hf : (ofFile h path).run = ofFileText path text := by
    have ht : h.readText path = .ok text := ht
    unfold ofFile
    rw [ht]
    rfl
  simp only [List.mem_cons, List.not_mem_nil, or_false, not_or] at he
  rw [hf]
  unfold ofFileText
  split
  next hx => exact absurd hx he.1
  next hx => exact absurd hx he.2.1
  next hx => exact absurd hx he.2.2
  next => rfl

/-- A text that is settings in JSON is read as those where its format is not known, unless it is a
header and TOML can be read: it has then no settings, or one empty criterion. -/
theorem ofText_of_ofJson (hj : ofJson text = .ok c) :
    ∃ d, (∀ origin, ofText text origin = .ok d) ∧
      (∀ (h : Host Id) (path : String), (h.readText path).run = .ok text →
        extension? path ∉ [some "json", some "toml", some "tml"] →
          (ofFile h path).run = .ok d) ∧
      ((∃ fault, ofTomlText text = .error fault) ∧ d = c ∨
        ofTomlText text = .ok d ∧ ∃ v, IsHeader text.toList v ∧ c = ⟨[v], none, false⟩ ∧
          d = ofHeader v) := by
  have hj := mapError_eq_ok.mp hj
  have hc : readConfig text.toList = .ok c := mapError_eq_ok.mp hj
  cases ht : ofTomlText text with
  | ok d =>
    refine ⟨d, fun _ => ofText_of_ofTomlText ht, ?_, .inr ⟨rfl, isHeader_of_ofTomlText hc ht⟩⟩
    intro h path hr he
    rw [ofFile_of_extension? hr he, ofText_of_ofTomlText ht]
  | error fault =>
    have ho (origin : String) : ofText text origin = .ok c := by
      unfold ofText
      rw [ht, hj]
      rfl
    refine ⟨c, ho, ?_, .inl ⟨⟨fault, rfl⟩, rfl⟩⟩
    intro h path hr he
    rw [ofFile_of_extension? hr he, ho]

theorem ofText_of_ofJson_object :
    let text := "\x7b\"criteria\": [\"id\"]\x7d"
    let c : Config := ⟨[.string "id"], none, false⟩
    ofJson text = .ok c ∧ ofText text "inline" = .ok c := by
  intro text c
  have hkey : Json.readString 62 "criteria\": [\"id\"]\x7d".toList =
      .ok (String.ofList "criteria".toList, [':', ' ', '[', '"', 'i', 'd', '"', ']', '\x7d']) := by
    rfl
  have hitems : Json.readItems 62 125 ['"', 'i', 'd', '"', ']', '\x7d'] =
      .ok ([.string (String.ofList "id".toList)], ['\x7d']) := by rfl
  have hname : Setting.ofName? "criteria" = some .criteria := by decide
  rw [String.ofList_toList] at hkey hitems
  simp only [String.reduceToList] at hkey
  have hj : ofJson text = .ok c := by
    simp [text, c, ofJson, ofJsonText, readConfig, Json.fuelFor, Json.depthLimit, Json.skipSpace,
      Json.isSpace, readMembers, hkey, hname, Json.readColon, readSetting, hitems,
      Json.readObjectSeparator, Json.expectEnd, malformed, Except.mapError, bind, Except.bind, pure,
      Except.pure, Except.map, Config.default]
  refine ⟨hj, ?_⟩
  obtain ⟨d, ho, -, ⟨-, rfl⟩ | ⟨ht, -⟩⟩ := ofText_of_ofJson hj
  · exact ho "inline"
  · have hf : (ofTomlText text).isOk = false := by decide +kernel
    rw [ht] at hf
    cases hf

theorem ofText_header :
    ¬ ∀ (text origin : String) (c : Config), ofJson text = .ok c → ofText text origin = .ok c := by
  intro h
  have hitems : Json.readItems 24 125 ['"', 'a', '"', ']', ']'] =
      .ok ([.string (String.ofList ['a'])], [']']) := by rfl
  have hj : ofJson "[[\"a\"]]" = .ok ⟨[.string (String.ofList ['a'])], none, false⟩ := by
    simp [ofJson, ofJsonText, readConfig, Json.fuelFor, Json.depthLimit, Json.skipSpace,
      Json.isSpace, readPositional, Setting.all, readSetting, hitems, Json.readListSeparator,
      Json.expectEnd, malformed, Except.mapError, bind, Except.bind, pure, Except.pure, Except.map,
      Config.default]
  have ht : ofTomlText "[[\"a\"]]" = .ok default := by rfl
  have he := (ofText_of_ofTomlText ht).symm.trans (h _ "inline" _ hj)
  cases he

end Header

end Config

end Collate

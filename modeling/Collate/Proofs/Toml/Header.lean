import Collate.Proofs.Toml.Key

namespace Collate.Toml

open Json (Passes)

section Statements

variable {c : Char} {cs q r rest : List Char} {fuel : Nat} {s : Statement} {ss : List Statement}

theorem readStatements_eq_some (h : readStatements fuel cs = some ss) :
    skipTrivia fuel cs = [] ∧ ss = [] ∨ ∃ f s rest rest' ss',
      readStatement f (skipTrivia fuel cs) = some (s, rest) ∧ readLineEnd rest = some rest' ∧
        readStatements f rest' = some ss' ∧ ss = s :: ss' := by
  cases fuel with
  | zero => cases h
  | succ f =>
    unfold readStatements at h
    split at h
    next hn =>
      cases h
      exact .inl ⟨hn, rfl⟩
    next =>
      obtain ⟨⟨s, rest⟩, hs, h⟩ := Option.bind_eq_some_iff.mp h
      obtain ⟨rest', hr, h⟩ := Option.bind_eq_some_iff.mp h
      obtain ⟨ss', hss, h⟩ := Option.bind_eq_some_iff.mp h
      cases h
      exact .inr ⟨f, s, rest, rest', ss', hs, hr, hss, rfl⟩

theorem not_readStatement_of_isSpace (hc : Json.isSpace c) :
    readStatement fuel (c :: cs) = none := by
  rw [Option.eq_none_iff_forall_ne_some]
  intro x hx
  obtain ⟨d, r, hd, hs⟩ := head_of_readStatement hx
  cases hd
  rw [startsKey_of_isSpace hc] at hs
  rcases hs with rfl | hs
  · cases hc
  · cases hs

theorem readStatements_blank (h : Passes Json.isSpace cs []) (hs : readStatements fuel cs = some ss) :
    ss = [] := by
  have ht : Passes Json.isSpace (skipTrivia fuel cs) [] := passes_skipTrivia solid_nil h
  rcases readStatements_eq_some hs with ⟨-, hn⟩ | ⟨f, s, rest, rest', ss', hr, -⟩
  · exact hn
  · obtain ⟨d, r, hd, -⟩ := head_of_readStatement hr
    rw [hd] at ht hr
    rcases head_of_passes ht with ⟨hsp, -⟩ | hn
    · rw [not_readStatement_of_isSpace hsp] at hr
      cases hr
    · cases hn

theorem readStatements_bracket (hc : c = '[' ∨ c = '\x7b') (h : Passes Json.isSpace cs (c :: r))
    (hs : readStatements fuel cs = some ss) :
    c = '[' ∧ ∃ f s rest rest' ss', readStatement f (c :: r) = some (s, rest) ∧
      readLineEnd rest = some rest' ∧ readStatements f rest' = some ss' ∧ ss = s :: ss' := by
  have hsolid : Solid (c :: r) := by
    rcases hc with rfl | rfl
    · exact solid_cons rfl (by decide)
    · exact solid_cons rfl (by decide)
  have ht : Passes Json.isSpace (skipTrivia fuel cs) (c :: r) := passes_skipTrivia hsolid h
  rcases readStatements_eq_some hs with ⟨hn, -⟩ | ⟨f, s, rest, rest', ss', hr, hl, hss, rfl⟩
  · rw [hn] at ht
    obtain ⟨u, hu, -⟩ := ht
    cases u <;> cases hu
  · obtain ⟨d, r', hd, hs⟩ := head_of_readStatement hr
    rw [hd] at ht hr
    rcases head_of_passes ht with ⟨hsp, -⟩ | hn
    · rw [not_readStatement_of_isSpace hsp] at hr
      cases hr
    · cases hn
      refine ⟨?_, f, s, rest, rest', ss', hr, hl, hss, rfl⟩
      rcases hc with rfl | rfl
      · rfl
      · rcases hs with hs | hs <;> cases hs

theorem readStatement_item (h : readStatement fuel ('[' :: '[' :: r) = some (s, rest)) :
    ∃ keys, readKeys fuel (skipSpace r) = some (keys, ']' :: ']' :: rest) ∧ s = .item keys := by
  obtain ⟨⟨keys, left⟩, hk, h⟩ := Option.bind_eq_some_iff.mp h
  dsimp only at h
  split at h
  · cases h
    exact ⟨keys, hk, rfl⟩
  · cases h

theorem readStatement_table (hr : r.head? ≠ some '[')
    (h : readStatement fuel ('[' :: r) = some (s, rest)) :
    ∃ x, readKeys fuel (skipSpace r) = some x := by
  unfold readStatement at h
  split at h
  next hb =>
    cases hb
    exact absurd rfl hr
  next hb =>
    cases hb
    obtain ⟨x, hx, -⟩ := Option.bind_eq_some_iff.mp h
    exact ⟨x, hx⟩
  next hb => exact absurd rfl (hb _)

theorem skipSpace_eq {x : List Token × List Char} (hq : Solid q) (h : Passes Json.isSpace r q)
    (hk : readKeys fuel (skipSpace r) = some x) :
    skipSpace r = q ∧ ∃ c q', q = c :: q' ∧ startsKey c := by
  have hp := passes_skipSpace hq h
  obtain ⟨c, q', hc, hs⟩ := startsKey_of_readKeys hk
  rw [hc] at hp ⊢
  rcases head_of_passes hp with ⟨hsp, -⟩ | rfl
  · rw [startsKey_of_isSpace hsp] at hs
    cases hs
  · exact ⟨rfl, c, q', rfl, hs⟩

theorem startsKey_of_passes {x : List Token × List Char} (hc : Solid (c :: q))
    (h : Passes Json.isSpace r (c :: q)) (hk : readKeys fuel (skipSpace r) = some x) :
    startsKey c := by
  obtain ⟨-, d, q', hd, hs⟩ := skipSpace_eq hc h hk
  cases hd
  exact hs

theorem readKeys_scalarText {v : Json} {keys : List Token} {u left : List Char}
    (hu : Json.ScalarText v u) (hc : Stops c) (hr : Passes Json.isSpace r (u ++ rest))
    (hd : Passes Json.isSpace rest (c :: q))
    (h : readKeys fuel (skipSpace r) = some (keys, ']' :: left)) :
    ValueKeys v keys ∧ c = ']' ∧ q = left := by
  obtain ⟨hs, -⟩ := skipSpace_eq (solid_scalarText hu) hr h
  rw [hs] at h
  obtain ⟨hl, hk⟩ := valueKeys_of_scalarText hu hc hd h
  have hp := passes_skipSpace hc.solid hd
  rw [← hl] at hp
  rcases head_of_passes hp with ⟨hsp, -⟩ | he
  · cases hsp
  · cases he
    exact ⟨hk, rfl, rfl⟩

end Statements

section Drafts

variable {dotted : Bool} {f : Node → Option Node} {n m : Node} {path : List String}

def Node.IsTable (n : Node) : Prop :=
  ∃ implicit dotted entries, n = .table implicit dotted entries

theorem Node.isTable_descend (hf : ∀ n m, n.IsTable → f n = some m → m.IsTable) (hn : n.IsTable)
    (h : n.descend dotted f path = some m) : m.IsTable := by
  cases path with
  | nil => exact hf n m hn h
  | cons key keys =>
    obtain ⟨implicit, isDotted, entries, rfl⟩ := hn
    rw [Node.descend] at h
    obtain ⟨es, -, rfl⟩ := Option.map_eq_some_iff.mp h
    exact ⟨implicit, isDotted, es, rfl⟩

theorem Node.append?_empty (h : Node.empty.append? path .empty = some m) :
    ∃ key keys n, path = key :: keys ∧ m = .table false false [(key, n)] ∧
      (keys = [] ∧ n = .tables [.empty] ∨ keys ≠ [] ∧ n.IsTable) := by
  cases path with
  | nil => cases h
  | cons key keys =>
    cases keys with
    | nil =>
      cases h
      exact ⟨key, [], _, rfl, rfl, .inl ⟨rfl, rfl⟩⟩
    | cons key' keys =>
      unfold Node.append? at h
      rw [List.getLast?_cons_cons] at h
      split at h
      next => cases h
      next last _ =>
        rw [List.dropLast_cons_cons, Node.empty, Node.descend, Node.alter] at h
        obtain ⟨es, hes, rfl⟩ := Option.map_eq_some_iff.mp h
        obtain ⟨n, hn, rfl⟩ := Option.map_eq_some_iff.mp hes
        refine ⟨key, key' :: keys, n, rfl, rfl, .inr ⟨nofun, ?_⟩⟩
        apply Node.isTable_descend _ ⟨_, _, _, rfl⟩ hn
        rintro _ m ⟨implicit, isDotted, entries, rfl⟩ hm
        obtain ⟨es, -, rfl⟩ := Option.map_eq_some_iff.mp hm
        exact ⟨implicit, isDotted, es, rfl⟩

def IsItemEntry (path : List String) (e : String × Toml) : Prop :=
  ∃ keys, path = e.1 :: keys ∧
    (keys = [] ∧ e.2 = .array [.table []] ∨ keys ≠ [] ∧ ∃ es, e.2 = .table es)

theorem required_eq_ok {α : Type} {x : Option α} {a : α} : required x = .ok a ↔ x = some a := by
  cases x with
  | none => exact ⟨nofun, nofun⟩
  | some b => exact ⟨fun h => congrArg some (Except.ok.inj h), fun h => congrArg _ (Option.some.inj h)⟩

theorem pathOf_eq_cons {t : Token} {ts : List Token} {key : String} {keys : List String}
    (h : pathOf (t :: ts) = .ok (key :: keys)) : t.key? = some key ∧ pathOf ts = .ok keys := by
  have h := required_eq_ok.mp h
  rw [List.mapM_cons] at h
  obtain ⟨key', hk, h⟩ := Option.bind_eq_some_iff.mp h
  obtain ⟨keys', hks, h⟩ := Option.bind_eq_some_iff.mp h
  cases h
  exact ⟨hk, required_eq_ok.mpr hks⟩

theorem parse_eq_ok {text : String} {entries : List (String × Toml)}
    (hm : text.toList.head? ≠ some '\uFEFF') (h : parse text = .ok entries) :
    ∃ fuel ss d, ∃ n : Node, readStatements fuel text.toList = some ss ∧
      ss.foldlM Draft.step .start = .ok d ∧ d.close = .ok n ∧ n.toToml = .table entries := by
  obtain ⟨ss, hs, h⟩ := bind_eq_ok.mp h
  obtain ⟨d, hd, h⟩ := bind_eq_ok.mp h
  obtain ⟨n, hn, h⟩ := bind_eq_ok.mp h
  refine ⟨2 * text.toList.length + 2, ss, d, n, ?_, hd, hn, ?_⟩
  · split at hs
    next ht =>
      rw [ht] at hm
      exact absurd rfl hm
    next => exact required_eq_ok.mp hs
  · split at h
    next ht =>
      cases h
      exact ht
    next => cases h

theorem entry_of_item {keys : List Token} {d : Draft} {entries : List (String × Toml)}
    (hd : [Statement.item keys].foldlM Draft.step .start = .ok d) (hn : d.close = .ok n)
    (he : n.toToml = .table entries) :
    ∃ path e, pathOf keys = .ok path ∧ entries = [e] ∧ IsItemEntry path e := by
  obtain ⟨d', hs, hd⟩ := bind_eq_ok.mp hd
  cases hd
  obtain ⟨root, hr, hs⟩ := bind_eq_ok.mp hs
  cases hr
  obtain ⟨path, hp, hs⟩ := bind_eq_ok.mp hs
  cases hs
  obtain ⟨_, -, hn⟩ := bind_eq_ok.mp hn
  obtain ⟨key, keys', m, rfl, rfl, hm⟩ := Node.append?_empty (required_eq_ok.mp hn)
  cases he
  refine ⟨_, _, hp, rfl, keys', rfl, ?_⟩
  rcases hm with ⟨hk, rfl⟩ | ⟨hk, implicit, isDotted, es, rfl⟩
  · exact .inl ⟨hk, rfl⟩
  · exact .inr ⟨hk, _, rfl⟩

theorem parse_bracket {text : String} {c : Char} {r : List Char} {entries : List (String × Toml)}
    (hc : c = '[' ∨ c = '\x7b') (hm : Passes Json.isSpace text.toList (c :: r))
    (h : parse text = .ok entries) :
    c = '[' ∧ ∃ fuel f s rest rest' ss d, ∃ n : Node, readStatement fuel (c :: r) = some (s, rest) ∧
      readLineEnd rest = some rest' ∧ readStatements f rest' = some ss ∧
      (s :: ss).foldlM Draft.step .start = .ok d ∧ d.close = .ok n ∧
      n.toToml = .table entries := by
  have hmark : text.toList.head? ≠ some '\uFEFF' := by
    intro ht
    cases hcs : text.toList with
    | nil => rw [hcs] at ht; cases ht
    | cons c' cs =>
      rw [hcs] at hm ht
      cases ht
      rcases head_of_passes hm with ⟨hsp, -⟩ | he
      · cases hsp
      · cases he
        rcases hc with hc | hc <;> cases hc
  obtain ⟨fuel, ss, d, n, ht, hd, hn, he⟩ := parse_eq_ok hmark h
  obtain ⟨hb, f, s, rest, rest', ss', hs, hl, hss, rfl⟩ := readStatements_bracket hc hm ht
  exact ⟨hb, f, f, s, rest, rest', ss', d, n, hs, hl, hss, hd, hn, he⟩

/-- A document that begins as an array of arrays is the header of an item, and nothing else if only
white space is behind it. -/
theorem parse_header {text : String} {c : Char} {r q : List Char} {entries : List (String × Toml)}
    (hc : c = '[' ∨ c = ']') (hm : Passes Json.isSpace text.toList ('[' :: r))
    (hr : Passes Json.isSpace r (c :: q)) (h : parse text = .ok entries) :
    r = '[' :: q ∧ ∃ fuel keys rest,
      readKeys fuel (skipSpace q) = some (keys, ']' :: ']' :: rest) ∧
      (Passes Json.isSpace rest [] →
        ∃ path e, pathOf keys = .ok path ∧ entries = [e] ∧ IsItemEntry path e) := by
  obtain ⟨-, fuel, f, s, rest, rest', ss, d, n, hs, hl, hss, hd, hn, he⟩ :=
    parse_bracket (.inl rfl) hm h
  by_cases hb : r.head? = some '['
  · cases r with
    | nil => cases hb
    | cons b r =>
      cases hb
      rcases head_of_passes hr with ⟨hsp, -⟩ | hr
      · cases hsp
      · cases hr
        obtain ⟨keys, hk, rfl⟩ := readStatement_item hs
        refine ⟨rfl, fuel, keys, rest, hk, ?_⟩
        intro hrest
        obtain rfl := readStatements_blank (passes_readLineEnd hrest hl) hss
        exact entry_of_item hd hn he
  · obtain ⟨x, hx⟩ := readStatement_table hb hs
    rcases hc with rfl | rfl
    · cases startsKey_of_passes (solid_cons rfl (by decide)) hr hx
    · cases startsKey_of_passes (solid_cons rfl (by decide)) hr hx

end Drafts

end Collate.Toml

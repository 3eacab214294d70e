import Collate.Proofs.Path.Arguments
import Collate.Proofs.Path.Slices
import Mathlib.Data.List.Forall2

namespace Collate

inductive Segment
  | member (name : List Char)
  | call (name args : List Char)

namespace Segment

def text : Segment → List Char
  | member name => name
  | call name args => name ++ '(' :: args ++ [')']

def IsName (name : List Char) : Prop :=
  ∃ c cs, name = c :: cs ∧ (c.isAlpha ∨ c = '_' ∨ c = '$') ∧
    ∀ d ∈ cs, d.isAlphanum ∨ d = '_' ∨ d = '$'

inductive Denotes : Segment → Step → Prop
  | member {name : List Char} (hn : name ≠ []) (hs : ∀ c ∈ name, c ≠ '.' ∧ c ≠ '(' ∧ c ≠ ')') :
    Denotes (.member name) (.member (String.ofList name))
  | call {name args : List Char} {items : List Json} {literals : List Literal} (hn : IsName name)
    (hp : Json.parse (String.ofList ('[' :: args ++ [']'])) = .ok (.array items))
    (hl : List.Forall₂ Json.IsLiteral items literals) :
    Denotes (.call name args) (.invoke (String.ofList name) literals)

end Segment

def Decomposes (segs : List Segment) (path : String) : Prop :=
  segs ≠ [] ∧ (∀ g ∈ segs, ∃ step, g.Denotes step) ∧
    path.toList = ['.'].intercalate (segs.map Segment.text)

theorem isNameStart_iff {c : Char} : isNameStart c = true ↔ c.isAlpha ∨ c = '_' ∨ c = '$' := by
  simp [isNameStart, or_assoc]

theorem isNameChar_iff {c : Char} : isNameChar c = true ↔ c.isAlphanum ∨ c = '_' ∨ c = '$' := by
  simp only [isNameChar, isNameStart, Char.isAlphanum, Bool.or_eq_true, decide_eq_true_eq]
  tauto

theorem forall_isNameChar {name : List Char} (h : Segment.IsName name) :
    ∀ c ∈ name, isNameChar c = true := by
  obtain ⟨c, cs, rfl, hc, hcs⟩ := h
  refine List.forall_mem_cons.mpr ⟨?_, fun d hd => isNameChar_iff.mpr (hcs d hd)⟩
  rw [isNameChar, isNameStart_iff.mpr hc, Bool.true_or]

theorem splitCall?_text {name : List Char} (hn : Segment.IsName name) (args : List Char) :
    splitCall? (Segment.call name args).text = some (name, args) := by
  have hw := forall_isNameChar hn
  have hp : isNameChar '(' = false := by decide
  have htake : (Segment.call name args).text.takeWhile isNameChar = name := by
    rw [Segment.text, List.append_assoc, List.takeWhile_append_of_pos hw, List.cons_append,
      List.takeWhile_cons_of_neg (by simp [hp]), List.append_nil]
  have hdrop : (Segment.call name args).text.dropWhile isNameChar = '(' :: (args ++ [')']) := by
    rw [Segment.text, List.append_assoc, List.dropWhile_append_of_pos hw, List.cons_append,
      List.dropWhile_cons_of_neg (by simp [hp])]
  obtain ⟨c, cs, rfl, hc, -⟩ := hn
  unfold splitCall?
  rw [htake, hdrop]
  simp [isNameStart_iff.mpr hc]

theorem eq_text_of_splitCall? {cs name args : List Char} (h : splitCall? cs = some (name, args)) :
    Segment.IsName name ∧ cs = (Segment.call name args).text := by
  unfold splitCall? at h
  dsimp only at h
  split at h
  next c name' rest hn hr =>
    split at h
    next hc =>
      cases h
      have hcs := List.takeWhile_append_dropWhile (p := isNameChar) (l := cs)
      rw [hr] at hcs
      refine ⟨⟨c, name', hn, isNameStart_iff.mp hc.1, fun d hd => ?_⟩, ?_⟩
      · have hd : d ∈ cs.takeWhile isNameChar := hn ▸ List.mem_cons_of_mem c hd
        exact isNameChar_iff.mp (List.mem_takeWhile_imp hd)
      · have hl := List.dropLast_append_getLast? _ hc.2
        rw [Segment.text, List.append_assoc, List.cons_append, hl, hcs]
    next => cases h
  next => cases h

theorem parseArguments_eq_ok {args : List Char} {literals : List Literal} :
    parseArguments args = .ok literals ↔ ∃ items,
      Json.parse (String.ofList ('[' :: args ++ [']'])) = .ok (.array items) ∧
        List.Forall₂ Json.IsLiteral items literals := by
  have hi : Json.IsLiteral = fun v l => Literal.ofJson v = .ok l := by
    funext v l
    exact propext Json.ofJson_eq_ok.symm
  rw [hi]
  unfold parseArguments
  constructor
  · intro h
    split at h
    next => cases h
    next items hp => exact ⟨items, hp, mapM_eq_ok.mp (mapError_eq_ok.mp h)⟩
    next => cases h
  · rintro ⟨items, hp, hl⟩
    rw [hp]
    exact mapError_eq_ok.mpr (mapM_eq_ok.mpr hl)

theorem forall_isScalar {items : List Json} {literals : List Literal}
    (h : List.Forall₂ Json.IsLiteral items literals) :
    ∀ v ∈ items, v.IsScalar := by
  induction h with
  | nil => nofun
  | cons hv _ ih => exact List.forall_mem_cons.mpr ⟨⟨_, hv⟩, ih⟩

namespace Segment

variable {g h : Segment} {step : Step}

theorem paren_mem_call (name args : List Char) : '(' ∈ (call name args).text := by
  simp [text]

theorem Denotes.text_ne_nil (hg : g.Denotes step) : g.text ≠ [] := by
  cases hg with
  | member hn hs => exact hn
  | call hn hp hl => exact List.ne_nil_of_mem (paren_mem_call _ _)

theorem Denotes.ofSegment_text (hg : g.Denotes step) : Step.ofSegment g.text = step := by
  have hne := hg.text_ne_nil
  cases hg with
  | member hn hs =>
    rw [Step.ofSegment, if_neg hne, if_pos]
    · rfl
    · exact ⟨fun h => (hs _ h).2.1 rfl, fun h => (hs _ h).2.2 rfl⟩
  | @call name args items literals hn hp hl =>
    have ha := parseArguments_eq_ok.mpr ⟨items, hp, hl⟩
    rw [Step.ofSegment, if_neg hne, if_neg fun h => h.1 (paren_mem_call _ _)]
    simp only [splitCall?_text hn, ha]

theorem Denotes.reads (hg : g.Denotes step) : Scan.Reads .start g.text .start := by
  cases hg with
  | member hn hs =>
    refine .of_forall (fun c hc => ?_) fun c hc => ?_
    · simp [Scan.cuts, (hs c hc).1]
    · simp [Scan.next, Scan.start, (hs c hc).2.1, (hs c hc).2.2]
  | @call name args items literals hn hp hl =>
    have hname : Scan.Reads .start name .start := by
      have ne {c d : Char} (hc : c ∈ name) (hd : isNameChar d = false) : c ≠ d :=
        fun h => by rw [← h, forall_isNameChar hn c hc] at hd; cases hd
      refine .of_forall (fun c hc => ?_) fun c hc => ?_
      · simp [Scan.cuts, ne hc (d := '.') (by decide)]
      · simp [Scan.next, Scan.start, ne hc (d := '(') (by decide), ne hc (d := ')') (by decide)]
    have hargs : Scan.Reads .inCall args .inCall :=
      Json.reads_arguments hp (forall_isScalar hl)
    have hclose : Scan.Reads .inCall [')'] .start := .cons rfl (.nil _)
    have hopen : Scan.Reads .start ('(' :: (args ++ [')'])) .start :=
      .cons rfl (hargs.append hclose)
    rw [text, List.append_assoc]
    exact hname.append hopen

theorem ne_dot_of_reads {seg : List Char} {t : Scan} (hr : Scan.Reads .start seg t)
    (hl : '(' ∉ seg) (hp : ')' ∉ seg) : '.' ∉ seg := by
  induction seg with
  | nil => exact List.not_mem_nil
  | cons c seg ih =>
    cases hr with
    | cons hc hs =>
      simp only [List.mem_cons, not_or] at hl hp
      have hn : Scan.start.next c = .start := by
        simp [Scan.next, Scan.start, Ne.symm hl.1, Ne.symm hp.1]
      rw [hn] at hs
      intro hm
      rcases List.mem_cons.mp hm with rfl | hm
      · cases hc
      · exact ih hs hl.2 hp.2 hm

theorem exists_denotes {seg : List Char} {t : Scan} (hr : Scan.Reads .start seg t)
    (hv : (Step.ofSegment seg).isInvalid = false) : ∃ g step, Denotes g step ∧ g.text = seg := by
  unfold Step.ofSegment at hv
  split at hv
  next => cases hv
  next hne =>
    split at hv
    next hp =>
      have hd := ne_dot_of_reads hr hp.1 hp.2
      refine ⟨.member seg, _, .member hne fun c hc => ?_, rfl⟩
      exact ⟨fun h => hd (h ▸ hc), fun h => hp.1 (h ▸ hc), fun h => hp.2 (h ▸ hc)⟩
    next =>
      split at hv
      next => cases hv
      next name args hs =>
        split at hv
        next literals ha =>
          obtain ⟨hn, rfl⟩ := eq_text_of_splitCall? hs
          obtain ⟨items, hp, hl⟩ := parseArguments_eq_ok.mp ha
          exact ⟨.call name args, _, .call hn hp hl, rfl⟩
        next => cases hv

theorem eq_of_text_eq {step' : Step} (hg : g.Denotes step) (hh : h.Denotes step')
    (ht : g.text = h.text) : g = h := by
  have no_paren {name : List Char} (hs : ∀ c ∈ name, c ≠ '.' ∧ c ≠ '(' ∧ c ≠ ')') :
      '(' ∉ (member name).text :=
    fun hm => (hs _ hm).2.1 rfl
  cases hg with
  | member hn hs =>
    cases hh with
    | member => exact congrArg _ ht
    | call => exact absurd (ht ▸ paren_mem_call _ _) (no_paren hs)
  | @call name args _ _ hn =>
    cases hh with
    | member hn' hs => exact absurd (ht ▸ paren_mem_call _ _) (no_paren hs)
    | @call name' args' _ _ hn' =>
      have hc := splitCall?_text hn args
      rw [ht, splitCall?_text hn' args'] at hc
      cases hc
      rfl

end Segment

namespace Decomposes

variable {segs : List Segment} {path : String}

theorem forall_reads (h : Decomposes segs path) :
    ∀ text ∈ segs.map Segment.text, Scan.Reads .start text .start := by
  refine List.forall_mem_map.mpr fun g hg => ?_
  obtain ⟨step, hd⟩ := h.2.1 g hg
  exact hd.reads

theorem map_text_ne_nil (h : Decomposes segs path) : segs.map Segment.text ≠ [] :=
  fun hn => h.1 (List.map_eq_nil_iff.mp hn)

theorem splitFrom_eq (h : Decomposes segs path) :
    splitFrom .start path.toList = segs.map Segment.text := by
  rw [h.2.2]
  exact splitFrom_intercalate h.map_text_ne_nil h.forall_reads rfl

theorem ne_empty (h : Decomposes segs path) : path ≠ "" := by
  rintro rfl
  have hm : [] ∈ segs.map Segment.text := h.splitFrom_eq ▸ List.mem_singleton_self []
  obtain ⟨g, hg, ht⟩ := List.mem_map.mp hm
  obtain ⟨step, hd⟩ := h.2.1 g hg
  exact hd.text_ne_nil ht

theorem steps_eq (h : Decomposes segs path) :
    (Path.parse path).steps = segs.map fun g => Step.ofSegment g.text := by
  rw [Path.steps_eq_map h.ne_empty, h.splitFrom_eq, List.map_map]
  rfl

theorem denotes_steps (h : Decomposes segs path) :
    List.Forall₂ Segment.Denotes segs (Path.parse path).steps := by
  rw [h.steps_eq, List.forall₂_map_right_iff, List.forall₂_same]
  intro g hg
  obtain ⟨step, hd⟩ := h.2.1 g hg
  rwa [hd.ofSegment_text]

theorem hasInvalid (h : Decomposes segs path) : (Path.parse path).hasInvalid = false := by
  rw [Path.hasInvalid, h.steps_eq, List.any_map]
  refine List.any_eq_false.mpr fun g hg => ?_
  obtain ⟨step, hd⟩ := h.2.1 g hg
  rw [Function.comp_apply, hd.ofSegment_text]
  cases hd <;> nofun

theorem unique {segs' : List Segment} (h : Decomposes segs path) (h' : Decomposes segs' path) :
    segs' = segs := by
  have ht := h'.splitFrom_eq.symm.trans h.splitFrom_eq
  replace h := h.2.1
  replace h' := h'.2.1
  induction segs generalizing segs' with
  | nil => exact List.map_eq_nil_iff.mp ht
  | cons g segs ih =>
    cases segs' with
    | nil => cases ht
    | cons g' segs' =>
      obtain ⟨hg, ht⟩ := List.cons.inj ht
      obtain ⟨⟨step, hd⟩, h⟩ := List.forall_mem_cons.mp h
      obtain ⟨⟨step', hd'⟩, h'⟩ := List.forall_mem_cons.mp h'
      rw [Segment.eq_of_text_eq hd' hd hg, ih ht h h']

end Decomposes

theorem exists_denoting {cs : List Char}
    (hv : ∀ seg ∈ splitFrom .start cs, (Step.ofSegment seg).isInvalid = false) :
    ∃ segs : List Segment, segs.map Segment.text = splitFrom .start cs ∧
      ∀ g ∈ segs, ∃ step, g.Denotes step := by
  generalize h : splitFrom .start cs = texts at hv ⊢
  induction texts generalizing cs with
  | nil => exact ⟨[], rfl, nofun⟩
  | cons seg texts ih =>
    obtain ⟨hseg, htexts⟩ := List.forall_mem_cons.mp hv
    obtain ⟨t, ht, hrest⟩ := splitFrom_eq_cons h
    obtain ⟨g, step, hg, rfl⟩ := Segment.exists_denotes ht hseg
    obtain rfl := ht.unique hg.reads
    rcases hrest with ⟨-, rfl⟩ | ⟨rest, -, -, hr⟩
    · exact ⟨[g], rfl, List.forall_mem_singleton.mpr ⟨step, hg⟩⟩
    · obtain ⟨segs, hs, hd⟩ := ih hr htexts
      exact ⟨g :: segs, congrArg _ hs, List.forall_mem_cons.mpr ⟨⟨step, hg⟩, hd⟩⟩

theorem exists_decomposes {path : String} (hp : path ≠ "")
    (hv : (Path.parse path).hasInvalid = false) : ∃ segs, Decomposes segs path := by
  rw [Path.hasInvalid, Path.steps_eq_map hp, List.any_map] at hv
  have hv : ∀ seg ∈ splitFrom .start path.toList, (Step.ofSegment seg).isInvalid = false :=
    fun seg hseg => Bool.eq_false_iff.mpr (List.any_eq_false.mp hv seg hseg)
  obtain ⟨segs, hs, hd⟩ := exists_denoting hv
  refine ⟨segs, ?_, hd, ?_⟩
  · rintro rfl
    exact splitFrom_ne_nil _ _ hs.symm
  · rw [hs, intercalate_splitFrom]

theorem parse_accepts_grammar (path : String) :
    ((Path.parse path).hasInvalid = false ↔ path = "" ∨ ∃ segs, Decomposes segs path) ∧
      (path = "" → (Path.parse path).steps = []) ∧
      ∀ segs, Decomposes segs path →
        List.Forall₂ Segment.Denotes segs (Path.parse path).steps ∧
          ∀ segs', Decomposes segs' path → segs' = segs := by
  refine ⟨⟨fun hv => ?_, ?_⟩, ?_, fun segs h => ⟨h.denotes_steps, fun segs' h' => h.unique h'⟩⟩
  · by_cases hp : path = ""
    · exact .inl hp
    · exact .inr (exists_decomposes hp hv)
  · rintro (rfl | ⟨segs, h⟩)
    · rfl
    · exact h.hasInvalid
  · rintro rfl
    rfl

-- Dots, parentheses and escaped quotes inside of a string belong to the argument.
example : (Path.parse "f(\".)(\\\"\", null).a").steps =
    [.invoke "f" [.string ".)(\"", .null], .member "a"] := by
  cbv

end Collate

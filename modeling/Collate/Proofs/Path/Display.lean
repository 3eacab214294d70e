import Collate.Proofs.Json.Written
import Collate.Proofs.Number.Shortest
import Collate.Proofs.Path.Grammar

/-!
The steps of a path, displayed with dots between them, are read as the same steps. The arguments of a
call pass through three readers: that of documents, the one that finds the parentheses of a call, and
the scan that cuts a path.
-/

namespace Collate

open Binary64 (unitBits)

namespace Literal

/-- Null, a truth value, an integer up to `2 ^ 53` or a string of printable ASCII. -/
def IsPrintable : Literal → Prop
  | null => True
  | bool _ => True
  | number x => ∃ n ∈ x.toInt?, n.natAbs ≤ 2 ^ 53
  | string s => ∀ c ∈ s.toList, 32 ≤ c.toNat ∧ c.toNat ≤ 126

end Literal

theorem Binary64.exists_finite_of_toInt? {x : Binary64} {n : Int} (h : x.toInt? = some n) :
    ∃ negative, x = .finite negative (n.natAbs * 2 ^ unitBits) := by
  cases x with
  | finite negative u =>
    rw [toInt?, twoTo_eq] at h
    split at h
    next hu =>
      refine ⟨negative, ?_⟩
      have hn : n.natAbs = u / 2 ^ unitBits := by
        rw [← Option.some.inj h, signed]
        split
        · rw [Int.natAbs_neg, Int.natAbs_natCast]
        · rw [Int.natAbs_natCast]
      rw [hn, Nat.div_mul_cancel (Nat.dvd_of_mod_eq_zero hu)]
    next => cases h
  | infinite => cases h
  | nan => cases h

theorem Quoted.isPlain_of_ascii {c : Char} (hl : 32 ≤ c.toNat) (hh : c.toNat ≤ 126) :
    isPlain c := by
  rw [isPlain, if_pos (by omega)]
  exact decide_eq_true hl

theorem Literal.IsPrintable.exists_written {l : Literal} (h : l.IsPrintable) :
    ∃ v : Json, v.IsLiteral l ∧ Json.Written l.display.toList v := by
  cases l with
  | null => exact ⟨_, .null, Json.written_null⟩
  | bool b => exact ⟨_, .bool b, Json.written_bool b⟩
  | number x =>
    obtain ⟨n, hx, hn⟩ := h
    obtain ⟨negative, rfl⟩ := Binary64.exists_finite_of_toInt? hx
    obtain ⟨y, hy, hw⟩ := Json.exists_written_number hn negative
    refine ⟨.number y, ?_, ?_⟩
    · exact hy ▸ .number y
    · rw [display, Binary64.render_plain_integer hn]
      exact hw
  | string s =>
    exact ⟨_, .string s, Json.written_string fun c hc => Quoted.isPlain_of_ascii (h c hc).1 (h c hc).2⟩

theorem Literal.exists_written_list {ls : List Literal} (h : ∀ l ∈ ls, l.IsPrintable) :
    ∃ vs, List.Forall₂ Json.IsLiteral vs ls ∧
      List.Forall₂ Json.Written (ls.map fun l => l.display.toList) vs := by
  induction ls with
  | nil => exact ⟨[], .nil, .nil⟩
  | cons l ls ih =>
    obtain ⟨hl, hls⟩ := List.forall_mem_cons.mp h
    obtain ⟨v, hv, hw⟩ := hl.exists_written
    obtain ⟨vs, hvs, hws⟩ := ih hls
    exact ⟨v :: vs, .cons hv hvs, .cons hw hws⟩

def Step.args : Step → List Literal
  | invoke _ args => args
  | member _ | invalid _ => []

namespace Segment

theorem Denotes.exists_displayed {g : Segment} {step : Step} (hg : g.Denotes step)
    (ha : ∀ l ∈ step.args, l.IsPrintable) :
    ∃ h : Segment, h.Denotes step ∧ h.text = step.display.toList := by
  cases hg with
  | @member name hn hs => exact ⟨.member name, .member hn hs, String.toList_ofList.symm⟩
  | @call name args items literals hn hp hl =>
    obtain ⟨vs, hvs, hws⟩ := Literal.exists_written_list ha
    refine ⟨.call name _, .call hn (Json.parse_intercalate hws) hvs, ?_⟩
    have hjoin : (",".intercalate (literals.map Literal.display)).toList =
        [','].intercalate (literals.map fun l => l.display.toList) := by
      rw [String.toList_intercalate, List.map_map]
      rfl
    rw [Step.display, String.toList_append, String.toList_append, String.toList_append,
      String.toList_ofList, hjoin, List.append_assoc, List.append_assoc, text, List.append_assoc]
    rfl

end Segment

theorem exists_displayed {segs : List Segment} {steps : List Step}
    (h : List.Forall₂ Segment.Denotes segs steps)
    (ha : ∀ step ∈ steps, ∀ l ∈ step.args, l.IsPrintable) :
    ∃ shown : List Segment, List.Forall₂ Segment.Denotes shown steps ∧
      shown.map Segment.text = steps.map fun step => step.display.toList := by
  induction h with
  | nil => exact ⟨[], .nil, rfl⟩
  | cons hg _ ih =>
    obtain ⟨hstep, hsteps⟩ := List.forall_mem_cons.mp ha
    obtain ⟨g, hg, ht⟩ := hg.exists_displayed hstep
    obtain ⟨shown, hs, hts⟩ := ih hsteps
    exact ⟨g :: shown, .cons hg hs, congrArg₂ List.cons ht hts⟩

theorem exists_denotes_of_mem {segs : List Segment} {steps : List Step}
    (h : List.Forall₂ Segment.Denotes segs steps) : ∀ g ∈ segs, ∃ step, g.Denotes step := by
  induction h with
  | nil => nofun
  | cons hg _ ih => exact List.forall_mem_cons.mpr ⟨⟨_, hg⟩, ih⟩

theorem Path.steps_parse {segs : List Segment} {steps : List Step} {text : String}
    (h : List.Forall₂ Segment.Denotes segs steps) (hne : segs ≠ [])
    (ht : text.toList = ['.'].intercalate (segs.map Segment.text)) :
    (parse text).steps = steps := by
  have hd : Decomposes segs text := ⟨hne, exists_denotes_of_mem h, ht⟩
  rw [hd.steps_eq, ← List.forall₂_eq_eq_eq, List.forall₂_map_left_iff]
  exact h.imp fun _ _ hg => hg.ofSegment_text

/-- The path that the displayed steps spell need not be the path they come from, but it has the same
steps. -/
theorem Path.parse_display {text : String} (hne : text ≠ "")
    (hv : (parse text).hasInvalid = false)
    (ha : ∀ step ∈ (parse text).steps, ∀ l ∈ step.args, l.IsPrintable) :
    (parse (".".intercalate ((parse text).steps.map Step.display))).steps = (parse text).steps := by
  obtain ⟨segs, hd⟩ := exists_decomposes hne hv
  obtain ⟨shown, hs, ht⟩ := exists_displayed hd.denotes_steps ha
  apply Path.steps_parse hs
  · intro hn
    have hlen := hs.length_eq.trans hd.denotes_steps.length_eq.symm
    rw [hn] at hlen
    exact hd.1 (List.length_eq_zero_iff.mp hlen.symm)
  · rw [String.toList_intercalate, List.map_map, ht]
    rfl

-- Blanks are not displayed; quotes and backslashes are, behind a backslash.
theorem Path.parse_display_call :
    (parse "f( \"\\\".)\\\\(\", -9007199254740992 ).a").steps.map Step.display =
        ["f(\"\\\".)\\\\(\",-9007199254740992)", "a"] ∧
      (parse "f(\"\\\".)\\\\(\",-9007199254740992).a").steps =
        (parse "f( \"\\\".)\\\\(\", -9007199254740992 ).a").steps := by
  let args : List Literal := [.string "\".)\\(", .number (.ofInt (-2 ^ 53))]
  have hs : (parse "f( \"\\\".)\\\\(\", -9007199254740992 ).a").steps =
      [.invoke "f" args, .member "a"] := by
    decide +kernel
  have hd : (parse "f( \"\\\".)\\\\(\", -9007199254740992 ).a").steps.map Step.display =
      ["f(\"\\\".)\\\\(\",-9007199254740992)", "a"] := by
    rw [hs]
    decide +kernel
  have hstring : (Literal.string "\".)\\(").IsPrintable := by
    simp [Literal.IsPrintable]
  have hnumber : (Literal.number (.ofInt (-2 ^ 53))).IsPrintable :=
    ⟨-2 ^ 53, by decide +kernel, by decide⟩
  have ha : ∀ step ∈ [Step.invoke "f" args, .member "a"], ∀ l ∈ step.args, l.IsPrintable := by
    simp only [List.forall_mem_cons, Step.args, args]
    exact ⟨⟨hstring, hnumber, nofun⟩, nofun, nofun⟩
  have h : (parse (".".intercalate ["f(\"\\\".)\\\\(\",-9007199254740992)", "a"])).steps =
      (parse "f( \"\\\".)\\\\(\", -9007199254740992 ).a").steps := by
    rw [← hd]
    exact parse_display (by decide) (by decide +kernel) (hs ▸ ha)
  exact ⟨hd, h⟩

end Collate

import Collate.Path.Parser
import Collate.Proofs.Path.Split
import Mathlib.Data.String.Basic

namespace Collate

open String (utf8Len)

variable {text : String} {s : Splitting} {c : Char} {u current cs rest : List Char}

theorem slice_ofList (before current cs : List Char) :
    slice (.ofList (before ++ current ++ cs)) (utf8Len before) (utf8Len (before ++ current)) =
      .ofList current := by
  rw [String.utf8Len_append]
  exact String.extract_of_valid before current cs

def dotted (segs : List String) : List Char :=
  segs.flatMap fun seg => seg.toList ++ ['.']

theorem dotted_concat (segs : List String) (seg : List Char) :
    dotted (segs ++ [.ofList seg]) = dotted segs ++ seg ++ ['.'] := by
  simp [dotted]

theorem intercalate_concat (segs : List String) (seg : String) :
    ['.'].intercalate ((segs ++ [seg]).map String.toList) = dotted segs ++ seg.toList := by
  induction segs with
  | nil => exact List.intercalate_singleton
  | cons seg' segs ih =>
    rw [List.cons_append, List.map_cons, List.intercalate_cons_of_ne_nil (by simp), ih]
    simp only [dotted, List.flatMap_cons, List.append_assoc]

namespace Splitting

/-- What the loop knows when it has read the segments with their dots, and then `current`. -/
structure Holds (s : Splitting) (current : List Char) : Prop where
  start : s.start = utf8Len (dotted s.segments)
  split (cs : List Char) : splitFrom .start (dotted s.segments ++ current ++ cs) =
    s.segments.map String.toList ++ (splitFrom s.scan cs).modifyHead (current ++ ·)

namespace Holds

theorem initial : Holds ⟨.start, 0, []⟩ [] where
  start := rfl
  split _ := (congrFun List.modifyHead_id _).symm

theorem slice_eq (h : s.Holds current) (ht : text.toList = dotted s.segments ++ current ++ cs) :
    slice text s.start (utf8Len (dotted s.segments ++ current)) = .ofList current := by
  rw [← String.ofList_toList (s := text), ht, h.start]
  exact slice_ofList _ _ _

theorem cut (h : s.Holds current) (hc : s.scan.cuts '.' = true)
    (ht : text.toList = dotted s.segments ++ current ++ '.' :: cs) :
    s.step text (utf8Len (dotted s.segments ++ current)) '.' =
        ⟨s.scan, utf8Len (dotted s.segments ++ current ++ ['.']), s.segments ++ [.ofList current]⟩ ∧
      Holds ⟨s.scan, utf8Len (dotted s.segments ++ current ++ ['.']), s.segments ++ [.ofList current]⟩ [] := by
  have hl : utf8Len (dotted s.segments ++ current) + 1 = utf8Len (dotted s.segments ++ current ++ ['.']) := by
    rw [String.utf8Len_append (_ ++ _)]
    rfl
  refine ⟨?_, by rw [dotted_concat], fun cs => ?_⟩
  · rw [Splitting.step, if_pos hc, h.slice_eq ht, hl]
  · have hs := h.split ('.' :: cs)
    rw [splitFrom_dot hc, List.modifyHead_cons, List.append_nil] at hs
    have hi : (splitFrom s.scan cs).modifyHead ([] ++ ·) = splitFrom s.scan cs :=
      congrFun List.modifyHead_id _
    rw [dotted_concat, List.append_nil, List.append_assoc, List.singleton_append, hi]
    simpa using hs

theorem keep (h : s.Holds current) (hc : s.scan.cuts c = false) :
    Holds { s with scan := s.scan.next c } (current ++ [c]) where
  start := h.start
  split cs := by
    have hs := h.split (c :: cs)
    rw [splitFrom_cons hc, List.modifyHead_modifyHead] at hs
    have hf : (fun seg : List Char => current ++ [c] ++ seg) =
        (fun seg : List Char => current ++ seg) ∘ (c :: ·) := by
      funext seg
      exact List.append_assoc _ _ _
    rw [hf]
    simpa using hs

theorem step (h : s.Holds current) (ht : text.toList = dotted s.segments ++ current ++ c :: cs) :
    ∃ current', (s.step text (utf8Len (dotted s.segments ++ current)) c).Holds current' ∧
      dotted (s.step text (utf8Len (dotted s.segments ++ current)) c).segments ++ current' =
        dotted s.segments ++ current ++ [c] := by
  cases hc : s.scan.cuts c with
  | true =>
    obtain rfl := Scan.eq_dot_of_cuts hc
    obtain ⟨hs, hh⟩ := h.cut hc ht
    rw [hs]
    exact ⟨[], hh, by rw [dotted_concat, List.append_nil]⟩
  | false =>
    have hs : s.step text (utf8Len (dotted s.segments ++ current)) c = { s with scan := s.scan.next c } := by
      rw [Splitting.step, if_neg (Bool.eq_false_iff.mp hc)]
    rw [hs]
    exact ⟨current ++ [c], h.keep hc, (List.append_assoc _ _ _).symm⟩

theorem run (h : s.Holds current) (ht : text.toList = dotted s.segments ++ current ++ (cs ++ rest)) :
    ∃ current', (s.run text (utf8Len (dotted s.segments ++ current)) cs).Holds current' ∧
      dotted (s.run text (utf8Len (dotted s.segments ++ current)) cs).segments ++ current' =
        dotted s.segments ++ current ++ cs := by
  induction cs generalizing s current with
  | nil => exact ⟨current, h, (List.append_nil _).symm⟩
  | cons c cs ih =>
    obtain ⟨current', hh, hr⟩ := h.step ht
    have hl : utf8Len (dotted s.segments ++ current) + c.utf8Size =
        utf8Len (dotted s.segments ++ current ++ [c]) := by
      rw [String.utf8Len_append (_ ++ _)]
      exact congrArg _ (Nat.zero_add _).symm
    have hc : dotted s.segments ++ current ++ c :: cs = dotted s.segments ++ current ++ [c] ++ cs :=
      List.append_cons _ _ _
    rw [Splitting.run, hl, hc, ← hr]
    apply ih hh
    rw [hr, ht]
    exact List.append_cons _ _ _

theorem valid (h : s.Holds current) (ht : text.toList = dotted s.segments ++ current ++ cs) :
    (String.Pos.Raw.mk s.start).Valid text ∧
      s.start ≤ utf8Len (dotted s.segments ++ current) := by
  constructor
  · exact .intro ⟨dotted s.segments, current ++ cs, by rw [ht, List.append_assoc], h.start⟩
  · rw [h.start, String.utf8Len_append]
    exact Nat.le_add_right _ _

end Holds

abbrev after (text : String) (u : List Char) : Splitting :=
  run text ⟨.start, 0, []⟩ 0 u

theorem exists_holds (ht : text.toList = u ++ rest) :
    ∃ current, (after text u).Holds current ∧ dotted (after text u).segments ++ current = u :=
  Holds.initial.run ht

theorem valid_after (ht : text.toList = u ++ rest) :
    (String.Pos.Raw.mk (after text u).start).Valid text ∧
      (String.Pos.Raw.mk (utf8Len u)).Valid text ∧ (after text u).start ≤ utf8Len u := by
  obtain ⟨current, hh, hu⟩ := exists_holds ht
  obtain ⟨hv, hle⟩ := hh.valid (ht.trans (congrArg (· ++ rest) hu.symm))
  rw [hu] at hle
  exact ⟨hv, .intro ⟨u, rest, ht.symm, rfl⟩, hle⟩

end Splitting

theorem exists_splitSegments_eq (text : String) : ∃ (s : Splitting) (current : List Char),
    s.Holds current ∧ dotted s.segments ++ current = text.toList ∧
      splitSegments text = s.segments ++ [.ofList current] := by
  have ht : text.toList = text.toList ++ [] := (List.append_nil _).symm
  obtain ⟨current, hh, hr⟩ := Splitting.exists_holds ht
  refine ⟨_, current, hh, hr, ?_⟩
  have hs := hh.slice_eq (ht.trans (congrArg (· ++ []) hr.symm))
  rw [hr, String.utf8Len_toList] at hs
  rw [splitSegments, ← hs]

theorem intercalate_splitSegments (text : String) : ".".intercalate (splitSegments text) = text := by
  obtain ⟨s, current, -, hr, hs⟩ := exists_splitSegments_eq text
  have hc := intercalate_concat s.segments (.ofList current)
  rw [String.toList_ofList, hr] at hc
  rw [← String.toList_inj, String.toList_intercalate, hs]
  exact hc

theorem map_splitSegments (text : String) :
    (splitSegments text).map String.toList = splitFrom .start text.toList := by
  obtain ⟨s, current, hh, hr, hs⟩ := exists_splitSegments_eq text
  have hf := hh.split []
  rw [List.append_nil, hr, splitFrom, List.modifyHead_cons, List.append_nil] at hf
  rw [hf, hs, List.map_append, List.map_singleton, String.toList_ofList]

theorem intercalate_splitFrom (cs : List Char) : ['.'].intercalate (splitFrom .start cs) = cs := by
  have hs := congrArg String.toList (intercalate_splitSegments (.ofList cs))
  rw [String.toList_intercalate, map_splitSegments, String.toList_ofList] at hs
  rwa [String.toList_ofList] at hs

theorem Path.steps_eq_map (h : text ≠ "") :
    (parse text).steps = (splitFrom .start text.toList).map Step.ofSegment := by
  rw [← map_splitSegments, List.map_map]
  exact if_neg h

end Collate

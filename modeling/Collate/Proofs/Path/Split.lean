import Collate.Path.Split
import Mathlib.Data.List.TakeWhile

namespace Collate

namespace Scan

variable {s t r : Scan} {c : Char} {u v cs ds rest : List Char}

inductive Reads : Scan → List Char → Scan → Prop
  | nil (s : Scan) : Reads s [] s
  | cons {s t : Scan} {c : Char} {cs : List Char} (hc : s.cuts c = false)
      (hs : Reads (s.next c) cs t) : Reads s (c :: cs) t

namespace Reads

theorem append (h : Reads s u t) (h' : Reads t v r) : Reads s (u ++ v) r := by
  induction h with
  | nil s => exact h'
  | cons hc _ ih => exact .cons hc (ih h')

theorem unique (h : Reads s u t) (h' : Reads s u r) : t = r := by
  induction h with
  | nil s => cases h'; rfl
  | cons _ _ ih => cases h' with | cons _ hs => exact ih hs

theorem of_forall (hc : ∀ c ∈ u, s.cuts c = false) (hs : ∀ c ∈ u, s.next c = s) :
    Reads s u s := by
  induction u with
  | nil => exact .nil s
  | cons c u ih =>
    refine .cons (hc c List.mem_cons_self) ?_
    rw [hs c List.mem_cons_self]
    exact ih (fun d hd => hc d (List.mem_cons_of_mem _ hd))
      fun d hd => hs d (List.mem_cons_of_mem _ hd)

end Reads

def Spans (s t : Scan) (cs rest : List Char) : Prop :=
  ∃ u, cs = u ++ rest ∧ Reads s u t

namespace Spans

theorem refl (s : Scan) (cs : List Char) : Spans s s cs cs :=
  ⟨[], rfl, .nil s⟩

theorem trans (h : Spans s t cs ds) (h' : Spans t r ds rest) : Spans s r cs rest := by
  obtain ⟨u, rfl, hu⟩ := h
  obtain ⟨v, rfl, hv⟩ := h'
  exact ⟨u ++ v, (List.append_assoc u v rest).symm, hu.append hv⟩

theorem cons (hc : s.cuts c = false) (h : Spans (s.next c) t cs rest) :
    Spans s t (c :: cs) rest := by
  obtain ⟨u, rfl, hu⟩ := h
  exact ⟨c :: u, rfl, .cons hc hu⟩

end Spans

theorem eq_dot_of_cuts (h : s.cuts c = true) : c = '.' := by
  simp only [cuts, Bool.and_eq_true, decide_eq_true_eq] at h
  exact h.1.1

theorem next_dot (h : s.cuts '.' = true) : s.next '.' = s := by
  simp only [cuts, Bool.and_eq_true, Bool.not_eq_true'] at h
  simp [next, h.1.2]

end Scan

def splitFrom (s : Scan) : List Char → List (List Char)
  | [] => [[]]
  | c :: cs =>
    match splitFrom (s.next c) cs with
    | [] => [[c]]
    | seg :: segs => if s.cuts c then [] :: seg :: segs else (c :: seg) :: segs

variable {s t : Scan} {c : Char} {u cs : List Char}

theorem splitFrom_ne_nil (s : Scan) (cs : List Char) : splitFrom s cs ≠ [] := by
  cases cs with
  | nil => simp [splitFrom]
  | cons c cs =>
    rw [splitFrom]
    split
    · simp
    · split <;> simp

theorem splitFrom_dot (h : s.cuts '.' = true) (cs : List Char) :
    splitFrom s ('.' :: cs) = [] :: splitFrom s cs := by
  rw [splitFrom, Scan.next_dot h]
  split
  next hn => exact absurd hn (splitFrom_ne_nil s cs)
  next hs => rw [if_pos h, hs]

theorem splitFrom_cons (h : s.cuts c = false) (cs : List Char) :
    splitFrom s (c :: cs) = (splitFrom (s.next c) cs).modifyHead (c :: ·) := by
  rw [splitFrom]
  split
  next hn => exact absurd hn (splitFrom_ne_nil _ cs)
  next hs => rw [hs, h]; rfl

theorem splitFrom_append (h : Scan.Reads s u t) (cs : List Char) :
    splitFrom s (u ++ cs) = (splitFrom t cs).modifyHead (u ++ ·) := by
  induction h with
  | nil s => exact (congrFun List.modifyHead_id _).symm
  | cons hc _ ih =>
    rw [List.cons_append, splitFrom_cons hc, ih, List.modifyHead_modifyHead]
    rfl

theorem splitFrom_of_reads (h : Scan.Reads s u t) : splitFrom s u = [u] := by
  have ha := splitFrom_append h []
  rw [List.append_nil] at ha
  rw [ha, splitFrom, List.modifyHead_cons, List.append_nil]

theorem splitFrom_append_dot (h : Scan.Reads s u t) (hd : t.cuts '.' = true) (cs : List Char) :
    splitFrom s (u ++ '.' :: cs) = u :: splitFrom t cs := by
  rw [splitFrom_append h, splitFrom_dot hd, List.modifyHead_cons, List.append_nil]

theorem splitFrom_intercalate {segs : List (List Char)} (hn : segs ≠ [])
    (hs : ∀ seg ∈ segs, Scan.Reads s seg s) (hd : s.cuts '.' = true) :
    splitFrom s (['.'].intercalate segs) = segs := by
  induction segs with
  | nil => exact absurd rfl hn
  | cons seg segs ih =>
    obtain ⟨hseg, hs⟩ := List.forall_mem_cons.mp hs
    cases segs with
    | nil => rw [List.intercalate_singleton, splitFrom_of_reads hseg]
    | cons seg' segs =>
      rw [List.intercalate_cons_cons, List.append_assoc, List.singleton_append,
        splitFrom_append_dot hseg hd, ih (List.cons_ne_nil _ _) hs]

theorem splitFrom_intercalate_dot {segs : List (List Char)} (hn : segs ≠ [])
    (hs : ∀ seg ∈ segs, Scan.Reads s seg s) (hd : s.cuts '.' = true) (cs : List Char) :
    splitFrom s (['.'].intercalate segs ++ '.' :: cs) = segs ++ splitFrom s cs := by
  induction segs with
  | nil => exact absurd rfl hn
  | cons seg segs ih =>
    obtain ⟨hseg, hs⟩ := List.forall_mem_cons.mp hs
    cases segs with
    | nil => rw [List.intercalate_singleton, splitFrom_append_dot hseg hd]; rfl
    | cons seg' segs =>
      rw [List.intercalate_cons_cons, List.append_assoc, List.append_assoc, List.singleton_append,
        splitFrom_append_dot hseg hd, ih (List.cons_ne_nil _ _) hs]
      rfl

theorem splitFrom_eq_cons {seg : List Char} {segs : List (List Char)}
    (h : splitFrom s cs = seg :: segs) : ∃ t, Scan.Reads s seg t ∧
      (cs = seg ∧ segs = [] ∨ ∃ rest, cs = seg ++ '.' :: rest ∧ t.cuts '.' = true ∧
        splitFrom t rest = segs) := by
  induction cs generalizing s seg with
  | nil =>
    cases h
    exact ⟨s, .nil s, .inl ⟨rfl, rfl⟩⟩
  | cons c cs ih =>
    cases hc : s.cuts c with
    | true =>
      obtain rfl := Scan.eq_dot_of_cuts hc
      rw [splitFrom_dot hc] at h
      cases h
      exact ⟨s, .nil s, .inr ⟨cs, rfl, hc, rfl⟩⟩
    | false =>
      rw [splitFrom_cons hc] at h
      cases hs : splitFrom (s.next c) cs with
      | nil => exact absurd hs (splitFrom_ne_nil _ cs)
      | cons seg' segs' =>
        rw [hs] at h
        cases h
        obtain ⟨t, ht, hr⟩ := ih hs
        refine ⟨t, .cons hc ht, ?_⟩
        rcases hr with ⟨rfl, rfl⟩ | ⟨rest, rfl, hr⟩
        · exact .inl ⟨rfl, rfl⟩
        · exact .inr ⟨rest, rfl, hr⟩

end Collate

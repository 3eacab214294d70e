import Collate.Proofs.Sort.Group
import Collate.Session
import Mathlib.Data.List.Perm.Subperm

namespace Collate.Session

variable {s t : Session} {request : Request} {answer : Answer} {name : String}

def run (s : Session) (requests : List Request) : Session :=
  requests.foldl (fun s request => (s.step request).session) s

def Request.naming? : Request → Option String
  | .compile name _ | .copy _ name => some name
  | _ => none

inductive Effect (s : Session) (request : Request) : Answer → Session → Prop
  | kept (answer : Answer) : Effect s request answer s
  | edited (vs : List Value) {items : List Entry} (h : items.Subperm (s.items ++ (s.make vs).1)) :
    Effect s request .done { (s.make vs).2 with items := items }
  | named {answer : Answer} {name : String} {sorter : Sorter Entry}
    (h : request.naming? = some name) (ha : ∀ e, answer ≠ .failed e) (hu : answer ≠ .unknown) :
    Effect s request answer (s.withSorter name sorter)

theorem answerOf_session {α : Type} (s : Session) (x : Traced SortError α) (f : α → Answer) :
    (s.answerOf x f).session = s := by
  unfold answerOf
  split <;> rfl

theorem effect_answerOf {α : Type} (s : Session) (x : Traced SortError α) (f : α → Answer) :
    Effect s request (s.answerOf x f).answer (s.answerOf x f).session := by
  rw [answerOf_session]
  exact .kept _

theorem effect_rearranged {items : List Entry} (h : items.Subperm s.items) :
    Effect s request .done { s with items := items } := by
  refine .edited [] ?_
  rwa [make, List.zipIdx_nil, List.map_nil, List.append_nil]

theorem step_sort {sorter : Sorter Entry} (h : s.sorter? name = some sorter) :
    let sort := sorter.sort s.items.toArray
    (s.step (.sort name)).calls = sort.calls ∧
      ((∃ e, sort.outcome = .error e ∧ (s.step (.sort name)).answer = .failed e ∧
          (s.step (.sort name)).session = s) ∨
        ∃ sorted, sort.outcome = .ok sorted ∧ (s.step (.sort name)).answer = .done ∧
          (s.step (.sort name)).session = { s with items := sorted.toList }) := by
  intro sort
  have hr := sorter.comparator.run_sortInPlace ⟨s.items.toArray, []⟩
  rw [List.nil_append] at hr
  simp only [step]
  simp only [h]
  cases ho : (sorter.comparator.sort s.items.toArray).outcome with
  | error e =>
    rw [ho] at hr
    rw [hr]
    exact ⟨rfl, .inl ⟨e, ho, rfl, rfl⟩⟩
  | ok sorted =>
    rw [ho] at hr
    rw [hr]
    exact ⟨rfl, .inr ⟨sorted, ho, rfl, rfl⟩⟩

theorem perm_of_sort {sorter : Sorter Entry} {sorted : Array Entry}
    (h : (sorter.sort s.items.toArray).outcome = .ok sorted) : sorted.toList.Perm s.items := by
  have hs : ∀ e ∈ s.items.toArray, (sorter.comparator.keys e).Succeeds := by
    intro e he
    by_contra hf
    obtain ⟨x, hx⟩ := Comparator.exists_sort_error.mpr ⟨e, he, Traced.not_succeeds_iff.mp hf⟩
    cases h.symm.trans hx
  cases h.symm.trans (Comparator.sort_eq_mergeSort hs)
  exact List.mergeSort_perm _ _

theorem set_subperm {items : List Entry} {place : Nat} (h : place < items.length) (e : Entry) :
    (items.set place e).Subperm (items ++ [e]) := by
  have hp : (items.set place e).Perm (e :: items.eraseIdx place) := by
    rw [List.set_eq_take_append_cons_drop, if_pos h, List.eraseIdx_eq_take_drop_succ]
    exact List.perm_middle
  refine hp.subperm.trans (((List.eraseIdx_sublist _ _).cons_cons e).subperm.trans ?_)
  exact (List.perm_append_singleton e items).symm.subperm

theorem effect_step (s : Session) (request : Request) :
    Effect s request (s.step request).answer (s.step request).session := by
  cases request with
  | load vs => exact .edited vs (List.sublist_append_right _ _).subperm
  | push v => exact .edited [v] (List.Subperm.refl _)
  | set place v =>
    simp only [step]
    split
    next hp =>
      exact .edited [v] (set_subperm hp _)
    next => exact .kept _
  | remove place =>
    simp only [step]
    split
    next => exact effect_rearranged (List.eraseIdx_sublist _ _).subperm
    next => exact .kept _
  | reverse => exact effect_rearranged (List.reverse_perm _).subperm
  | compile name criteria =>
    cases criteria with
    | ok cs => exact .named rfl nofun nofun
    | error e => exact .kept _
  | copy source name =>
    simp only [step]
    split
    next => exact .named rfl nofun nofun
    next => exact .kept _
  | sort name =>
    cases hs : s.sorter? name with
    | none =>
      simp only [step]
      simp only [hs]
      exact .kept _
    | some sorter =>
      rcases (step_sort hs).2 with ⟨e, -, ha, hk⟩ | ⟨sorted, ho, ha, hk⟩
      · rw [ha, hk]
        exact .kept _
      · rw [ha, hk]
        exact effect_rearranged (perm_of_sort ho).subperm
  | sorted name =>
    simp only [step]
    split
    next => exact .kept _
    next => exact effect_answerOf s _ _
  | compare name i j =>
    simp only [step]
    split
    next => exact effect_answerOf s _ _
    next => exact .kept _
  | keys name i =>
    simp only [step]
    split
    next => exact effect_answerOf s _ _
    next => exact .kept _
  | group name =>
    simp only [step]
    split
    next => exact .kept _
    next => exact effect_answerOf s _ _

theorem step_of_failed (h : (∃ e, (s.step request).answer = .failed e) ∨
    (s.step request).answer = .unknown) : (s.step request).session = s := by
  have he := effect_step s request
  generalize (s.step request).answer = a at h he
  generalize (s.step request).session = t at he ⊢
  cases he with
  | kept => rfl
  | edited => simp at h
  | named _ ha hu => exact (h.elim (fun ⟨e, hf⟩ => ha e hf) hu).elim

structure Sound (s : Session) : Prop where
  nodup : (s.items.map Entry.id).Nodup
  given : ∀ e ∈ s.items, e.id < s.made

theorem sound_start : start.Sound := ⟨List.nodup_nil, nofun⟩

theorem ids_make (s : Session) (vs : List Value) :
    (s.make vs).1.map Entry.id = List.range' s.made vs.length := by
  calc (s.make vs).1.map Entry.id
      = (vs.zipIdx.map Prod.snd).map (s.made + ·) := by rw [make, List.map_map, List.map_map]; rfl
    _ = List.range' s.made vs.length := by rw [List.zipIdx_map_snd, List.map_add_range']; rfl

theorem Effect.sound (h : Effect s request answer t) (hs : s.Sound) : t.Sound := by
  cases h with
  | kept => exact hs
  | named => exact ⟨hs.nodup, hs.given⟩
  | @edited vs items h =>
    obtain ⟨l, hp, hl⟩ := h
    have hids : (s.items ++ (s.make vs).1).map Entry.id =
        s.items.map Entry.id ++ List.range' s.made vs.length := by
      rw [List.map_append, ids_make]
    have hnew : ((s.items ++ (s.make vs).1).map Entry.id).Nodup := by
      rw [hids, List.nodup_append]
      refine ⟨hs.nodup, List.nodup_range', fun i hi j hj => ?_⟩
      obtain ⟨e, he, rfl⟩ := List.mem_map.mp hi
      have := hs.given e he
      have := (List.mem_range'_1.mp hj).1
      omega
    refine ⟨(hp.map _).nodup_iff.mp (hnew.sublist (hl.map _)), fun e he => ?_⟩
    have hm := List.mem_map_of_mem (f := Entry.id) (hl.subset (hp.mem_iff.mpr he))
    rw [hids, List.mem_append] at hm
    change e.id < s.made + vs.length
    rcases hm with hm | hm
    · obtain ⟨d, hd, hid⟩ := List.mem_map.mp hm
      have := hs.given d hd
      omega
    · exact (List.mem_range'_1.mp hm).2

theorem Effect.mem (h : Effect s request answer t) :
    s.made ≤ t.made ∧ ∀ e ∈ t.items, e ∈ s.items ∨ s.made ≤ e.id := by
  cases h with
  | kept => exact ⟨Nat.le_refl _, fun _ => .inl⟩
  | named => exact ⟨Nat.le_refl _, fun _ => .inl⟩
  | @edited vs items h =>
    refine ⟨Nat.le_add_right _ _, fun e he => ?_⟩
    rcases List.mem_append.mp (h.subset he) with hm | hm
    · exact .inl hm
    · have hid := List.mem_map_of_mem (f := Entry.id) hm
      rw [ids_make] at hid
      exact .inr (List.mem_range'_1.mp hid).1

theorem Effect.sorter? (h : Effect s request answer t) (hn : request.naming? ≠ some name) :
    t.sorter? name = s.sorter? name := by
  cases h with
  | kept => rfl
  | edited => rfl
  | @named _ given sorter h =>
    have hne : given ≠ name := fun he => hn (he ▸ h)
    simp [Session.sorter?, withSorter, hne]

theorem run_sound (hs : s.Sound) (requests : List Request) : (s.run requests).Sound := by
  induction requests generalizing s with
  | nil => exact hs
  | cons request requests ih => exact ih ((effect_step s request).sound hs)

theorem run_mem (s : Session) (requests : List Request) :
    ∀ e ∈ (s.run requests).items, e ∈ s.items ∨ s.made ≤ e.id := by
  induction requests generalizing s with
  | nil => exact fun _ => .inl
  | cons request requests ih =>
    intro e he
    obtain ⟨hle, hm⟩ := (effect_step s request).mem
    exact (ih _ e he).elim (hm e) fun h => .inr (hle.trans h)

/-- A number stands for one entry for good. -/
theorem run_keeps_numbers (hs : s.Sound) (requests : List Request) {e d : Entry} (he : e ∈ s.items)
    (hd : d ∈ (s.run requests).items) (h : e.id = d.id) : e = d := by
  rcases run_mem s requests d hd with hm | hm
  · exact List.inj_on_of_nodup_map hs.nodup he hm h
  · have := hs.given e he
    omega

theorem run_sorter? {requests : List Request} (h : ∀ r ∈ requests, r.naming? ≠ some name) :
    (s.run requests).sorter? name = s.sorter? name := by
  induction requests generalizing s with
  | nil => rfl
  | cons request requests ih =>
    obtain ⟨hr, hrs⟩ := List.forall_mem_cons.mp h
    exact (ih hrs).trans ((effect_step s request).sorter? hr)

end Collate.Session

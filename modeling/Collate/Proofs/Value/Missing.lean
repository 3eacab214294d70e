import Collate.Proofs.Traced
import Collate.Proofs.Value.Order
import Collate.Value.Method

namespace Collate

def Kind.Alike (k l : Kind) : Prop :=
  k = l ∨ (k = .null ∨ k = .absent) ∧ (l = .null ∨ l = .absent)

namespace Value

/-- The same but for null and absent, which may stand for each other at any depth. -/
inductive Alike : Value → Value → Prop
  | missing {v w : Value} (hv : v.isMissing = true) (hw : w.isMissing = true) : Alike v w
  | bool (b : Bool) : Alike (.bool b) (.bool b)
  | number (x : Binary64) : Alike (.number x) (.number x)
  | string (s : String) : Alike (.string s) (.string s)
  | array {vs ws : List Value} (h : List.Forall₂ Alike vs ws) : Alike (.array vs) (.array ws)
  | object {es fs : List (String × Value)} (hk : es.map Prod.fst = fs.map Prod.fst)
      (h : List.Forall₂ Alike (es.map Prod.snd) (fs.map Prod.snd)) : Alike (.object es) (.object fs)
  | method (run : List Literal → Traced LookupError Value) : Alike (.method run) (.method run)

theorem isMissing_iff {v : Value} : v.isMissing = true ↔ v = .null ∨ v = .absent := by
  cases v <;> simp [isMissing]

namespace Alike

def Entries (es fs : List (String × Value)) : Prop :=
  List.Forall₂ (fun e f => e.1 = f.1 ∧ Alike e.2 f.2) es fs

theorem entries_of {es fs : List (String × Value)} (hk : es.map Prod.fst = fs.map Prod.fst)
    (h : List.Forall₂ Alike (es.map Prod.snd) (fs.map Prod.snd)) : Entries es fs := by
  induction es generalizing fs with
  | nil =>
    cases fs with
    | nil => exact .nil
    | cons f fs => cases h
  | cons e es ih =>
    cases fs with
    | nil => cases h
    | cons f fs =>
      rw [List.map_cons, List.map_cons, List.cons.injEq] at hk
      rw [List.map_cons, List.map_cons, List.forall₂_cons] at h
      exact .cons ⟨hk.1, h.1⟩ (ih hk.2 h.2)

theorem refl (v : Value) : Alike v v := by
  induction v using ind with
  | absent => exact .missing rfl rfl
  | null => exact .missing rfl rfl
  | bool b => exact .bool b
  | number x => exact .number x
  | string s => exact .string s
  | array vs ih => exact .array (List.forall₂_same.mpr ih)
  | object es ih => exact .object rfl (List.forall₂_same.mpr (List.forall_mem_map.mpr ih))
  | method run => exact .method run

theorem isMissing_eq {v w : Value} (h : Alike v w) : v.isMissing = w.isMissing := by
  cases h with
  | missing hv hw => rw [hv, hw]
  | _ => rfl

theorem kind_alike {v w : Value} (h : Alike v w) : Kind.Alike v.kind w.kind := by
  cases h with
  | missing hv hw =>
    right
    have hkind {u : Value} (hu : u.isMissing = true) : u.kind = .null ∨ u.kind = .absent :=
      (isMissing_iff.mp hu).imp (congrArg kind) (congrArg kind)
    exact ⟨hkind hv, hkind hw⟩
  | _ => exact .inl rfl

theorem compare_eq {v w : Value} (h : Alike v w) : v.compare w = .eq := by
  induction v using ind generalizing w with
  | array vs ih =>
    cases h with
    | missing hv _ => cases hv
    | @array _ ws h =>
      change compareItems vs ws = .eq
      induction h with
      | nil => rfl
      | cons hv _ ihs =>
        rw [compareItems, ih _ List.mem_cons_self hv, Ordering.eq_then]
        exact ihs fun u hu => ih u (List.mem_cons_of_mem _ hu)
  | object es ih =>
    cases h with
    | missing hv _ => cases hv
    | @object _ fs hk h =>
      change compareEntries es fs = .eq
      have he := entries_of hk h
      clear hk h
      induction he with
      | nil => rfl
      | cons he _ ihs =>
        rw [compareEntries, compareEntry_eq, he.1, Std.ReflOrd.compare_self, Ordering.eq_then,
          ih _ List.mem_cons_self he.2, Ordering.eq_then]
        exact ihs fun e he => ih e (List.mem_cons_of_mem _ he)
  | _ =>
    cases h with
    | missing hv hw => rw [compare_of_rank_zero _ (rank_of_isMissing hv), rank_of_isMissing hw]; rfl
    | _ => exact Std.ReflCmp.compare_self

theorem compare_congr {v v' w w' : Value} (h : Alike v v') (h' : Alike w w') :
    v.compare w = v'.compare w' :=
  (Std.TransCmp.congr_left h.compare_eq).trans (Std.TransCmp.congr_right h'.compare_eq)

theorem displayItems_eq {vs ws : List Value} (h : List.Forall₂ Alike vs ws)
    (ih : ∀ v ∈ vs, ∀ w, Alike v w → v.isMissing = false → v.display = w.display) :
    displayItems vs = displayItems ws := by
  induction h with
  | nil => rfl
  | @cons v w vs ws hv _ ihs =>
    rw [displayItems, displayItems, ihs fun u hu => ih u (List.mem_cons_of_mem _ hu),
      ← hv.isMissing_eq]
    cases hm : v.isMissing with
    | true => rfl
    | false => rw [ih v List.mem_cons_self w hv hm]

theorem display_eq {v w : Value} (h : Alike v w) (hv : v.isMissing = false) :
    v.display = w.display := by
  induction v using ind generalizing w with
  | array vs ih =>
    cases h with
    | missing hm _ => cases hm
    | array h => rw [display, display, displayItems_eq h fun v hv w => ih v hv]
  | _ =>
    cases h with
    | missing hm _ => rw [hv] at hm; cases hm
    | _ => rfl

theorem getD_getElem? {vs ws : List Value} (h : List.Forall₂ Alike vs ws) (i : Nat) :
    Alike (vs[i]?.getD .absent) (ws[i]?.getD .absent) := by
  induction h generalizing i with
  | nil => exact refl _
  | cons hv _ ih =>
    cases i with
    | zero => exact hv
    | succ i => exact ih i

theorem getD_atIndex? {vs ws : List Value} (h : List.Forall₂ Alike vs ws) (i : Int64) :
    Alike ((atIndex? vs i).getD .absent) ((atIndex? ws i).getD .absent) := by
  unfold atIndex?
  split
  next => exact refl _
  next => exact getD_getElem? h i.toNatClampNeg

theorem find?_alike {es fs : List (String × Value)} (h : Entries es fs) (name : String) :
    find? es name = none ∧ find? fs name = none ∨
      ∃ v w, find? es name = some v ∧ find? fs name = some w ∧ Alike v w := by
  induction h with
  | nil => exact .inl ⟨rfl, rfl⟩
  | @cons e f es fs he _ ih =>
    unfold find? at ih ⊢
    rw [List.find?_cons, List.find?_cons, he.1]
    by_cases hk : f.1 = name
    · simp only [hk, decide_true]
      exact .inr ⟨e.2, f.2, rfl, rfl, he.2⟩
    · simp only [hk, decide_false]
      exact ih

theorem arrayMember {vs ws : List Value} (h : List.Forall₂ Alike vs ws) (name : String) :
    Alike (arrayMember vs name) (arrayMember ws name) := by
  unfold Value.arrayMember
  rw [h.length_eq]
  split
  next => exact refl _
  next =>
    cases memberIndex? name with
    | none => exact refl _
    | some i => exact getD_getElem? h i.toNat

theorem any_beq_eq {vs ws : List Value} (h : List.Forall₂ Alike vs ws) (u : Value) :
    vs.any (· == u) = ws.any (· == u) := by
  induction h with
  | nil => rfl
  | @cons v w _ _ hv _ ih =>
    have hc : (v == u) = (w == u) := by
      change decide (v.compare u = .eq) = decide (w.compare u = .eq)
      rw [hv.compare_congr (refl u)]
    rw [List.any_cons, List.any_cons, hc, ih]

end Alike

end Value

inductive LookupError.Alike : LookupError → LookupError → Prop
  | notInspectable (member : String) {k l : Kind} (h : k.Alike l) :
    Alike (.notInspectable member k) (.notInspectable member l)
  | noSuchMethod (method : String) (k : Kind) : Alike (.noSuchMethod method k) (.noSuchMethod method k)
  | notCallable (member : String) {k l : Kind} (h : k.Alike l) :
    Alike (.notCallable member k) (.notCallable member l)
  | badArguments (method : String) (fault : ArgumentFault) :
    Alike (.badArguments method fault) (.badArguments method fault)
  | invocation (method reason : String) : Alike (.invocation method reason) (.invocation method reason)

theorem LookupError.Alike.refl (e : LookupError) : Alike e e := by
  cases e with
  | notInspectable member k => exact .notInspectable member (.inl rfl)
  | noSuchMethod method k => exact .noSuchMethod method k
  | notCallable member k => exact .notCallable member (.inl rfl)
  | badArguments method fault => exact .badArguments method fault
  | invocation method reason => exact .invocation method reason

namespace Value

abbrev AgreeOn (x y : Answer) : Prop :=
  Agree LookupError.Alike Alike x y

theorem AgreeOn.refl (x : Answer) : AgreeOn x x :=
  Agree.refl LookupError.Alike.refl Alike.refl x

theorem member_of_isMissing {v : Value} (h : v.isMissing = true) (name : String) :
    v.member name = .error (.notInspectable name v.kind) := by
  rcases isMissing_iff.mp h with rfl | rfl <;> rfl

theorem invoke_of_isMissing {v : Value} (h : v.isMissing = true) (name : String)
    (args : List Literal) : v.invoke name args = .fail (.notInspectable name v.kind) := by
  rcases isMissing_iff.mp h with rfl | rfl <;> rfl

theorem invoke_of_not_method {es : List (String × Value)} {name : String} {v : Value}
    (hv : find? es name = some v) (hm : ¬ ∃ run, v = .method run) (args : List Literal) :
    (object es).invoke name args = .fail (.notCallable name v.kind) := by
  simp only [invoke, hv]
  split
  next he => exact absurd ⟨_, Option.some.inj he⟩ hm
  next he => rw [Option.some.inj he]
  next he => cases he

namespace Alike

theorem member {v w : Value} (h : Alike v w) (name : String) :
    AgreeOn (v.member name) (w.member name) := by
  have hkind := h.kind_alike
  cases h with
  | missing hv hw =>
    rw [member_of_isMissing hv, member_of_isMissing hw]
    exact .error (.notInspectable name hkind)
  | array h => exact .ok (arrayMember h name)
  | object hk h =>
    refine .ok ?_
    rcases find?_alike (entries_of hk h) name with ⟨hv, hw⟩ | ⟨v, w, hv, hw, h⟩
    · rw [hv, hw]
      exact .refl _
    · rw [hv, hw]
      exact h
  | _ => exact .refl _

theorem callArray {vs ws : List Value} (h : List.Forall₂ Alike vs ws) (method : String)
    (args : List Literal) : AgreeOn (callArray vs method args) (callArray ws method args) := by
  unfold Value.callArray
  split
  · split
    · rw [any_beq_eq h]
      exact .refl _
    · exact .refl _
  · rw [displayItems_eq h fun v _ w => display_eq]
    exact .refl _
  · refine (Agree.refl LookupError.Alike.refl (R := Eq) (fun _ => rfl) _).bind fun _ _ _ => ?_
    refine (Agree.refl LookupError.Alike.refl (R := Eq) (fun _ => rfl) _).bind fun i j hij => ?_
    rw [hij, h.length_eq]
    exact .ok (getD_atIndex? h _)
  · exact .refl _

theorem invoke {v w : Value} (h : Alike v w) (name : String) (args : List Literal) :
    Traced.Agree LookupError.Alike Alike (v.invoke name args) (w.invoke name args) := by
  have hkind := h.kind_alike
  cases h with
  | missing hv hw =>
    rw [invoke_of_isMissing hv, invoke_of_isMissing hw]
    exact .fail (.notInspectable name hkind)
  | array h => exact .ofExcept (callArray h name args)
  | object hk h =>
    rcases find?_alike (entries_of hk h) name with ⟨hv, hw⟩ | ⟨v, w, hv, hw, h⟩
    · simp only [Value.invoke, hv, hw]
      exact .fail (.noSuchMethod name .object)
    · by_cases hm : ∃ run, v = .method run
      · obtain ⟨run, rfl⟩ := hm
        cases h with
        | missing hm _ => cases hm
        | method run =>
          simp only [Value.invoke, hv, hw]
          exact .refl LookupError.Alike.refl Alike.refl _
      · have hm' : ¬ ∃ run, w = .method run := by
          rintro ⟨run, rfl⟩
          cases h with
          | missing _ hm => cases hm
          | method run => exact hm ⟨run, rfl⟩
        rw [invoke_of_not_method hv hm, invoke_of_not_method hw hm']
        exact .fail (.notCallable name h.kind_alike)
  | _ => exact .refl LookupError.Alike.refl Alike.refl _

end Alike

end Value

end Collate

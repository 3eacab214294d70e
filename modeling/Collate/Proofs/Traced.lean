import Collate.Proofs.Except
import Collate.Traced

namespace Collate.Traced

variable {ε α β : Type}

theorem outcome_pure (a : α) : (pure a : Traced ε α).outcome = .ok a := rfl

theorem outcome_bind_eq_ok {x : Traced ε α} {f : α → Traced ε β} {b : β} :
    (x >>= f).outcome = .ok b ↔ ∃ a, x.outcome = .ok a ∧ (f a).outcome = .ok b := by
  cases hx : x.outcome with
  | ok a => simp only [bind_ok hx, Except.ok.injEq, exists_eq_left']
  | error e => simp only [bind_error hx, reduceCtorEq, false_and, exists_false]

theorem outcome_bind_eq_error {x : Traced ε α} {f : α → Traced ε β} {e : ε} :
    (x >>= f).outcome = .error e ↔
      x.outcome = .error e ∨ ∃ a, x.outcome = .ok a ∧ (f a).outcome = .error e := by
  cases hx : x.outcome with
  | ok a => simp only [bind_ok hx, Except.ok.injEq, exists_eq_left', reduceCtorEq, false_or]
  | error e' => simp only [bind_error hx, Except.error.injEq, reduceCtorEq, false_and, exists_false, or_false]

theorem calls_map (g : α → β) (x : Traced ε α) : (g <$> x).calls = x.calls := by
  rw [map_eq_pure_bind]
  cases hx : x.outcome with
  | ok a => rw [bind_ok hx]; exact List.append_nil _
  | error e => rw [bind_error hx]

theorem outcome_map (g : α → β) (x : Traced ε α) : (g <$> x).outcome = x.outcome.map g := by
  rw [map_eq_pure_bind]
  cases hx : x.outcome with
  | ok a => rw [bind_ok hx]; rfl
  | error e => rw [bind_error hx]; rfl

theorem outcome_map_eq_error {g : α → β} {x : Traced ε α} {e : ε} :
    (g <$> x).outcome = .error e ↔ x.outcome = .error e := by
  rw [outcome_map]
  cases x.outcome with
  | ok a => simp [Except.map]
  | error e' => simp [Except.map]

def Succeeds (x : Traced ε α) : Prop := ∃ a, x.outcome = .ok a

instance (x : Traced ε α) : Decidable x.Succeeds :=
  match h : x.outcome with
  | .ok a => isTrue ⟨a, h⟩
  | .error _ => isFalse fun ⟨_, ha⟩ => nomatch h.symm.trans ha

theorem not_succeeds_iff {x : Traced ε α} : ¬ x.Succeeds ↔ ∃ e, x.outcome = .error e := by
  unfold Succeeds
  cases x.outcome with
  | ok a => simp
  | error e => simp

theorem succeeds_map {g : α → β} {x : Traced ε α} : (g <$> x).Succeeds ↔ x.Succeeds := by
  unfold Succeeds
  rw [outcome_map]
  cases x.outcome with
  | ok a => simp [Except.map]
  | error e => simp [Except.map]

def upToFailure (f : β → Traced ε α) : List β → List β
  | [] => []
  | b :: bs => if (f b).Succeeds then b :: upToFailure f bs else [b]

theorem upToFailure_congr {γ : Type} {f : β → Traced ε α} {g : β → Traced ε γ} {bs : List β}
    (h : ∀ b ∈ bs, (f b).Succeeds ↔ (g b).Succeeds) : upToFailure f bs = upToFailure g bs := by
  induction bs with
  | nil => rfl
  | cons b bs ih =>
    have ih := ih fun d hd => h d (List.mem_cons_of_mem _ hd)
    simp only [upToFailure, h b List.mem_cons_self, ih]

theorem upToFailure_of_succeeds {f : β → Traced ε α} {bs : List β}
    (h : ∀ b ∈ bs, (f b).Succeeds) : upToFailure f bs = bs := by
  induction bs with
  | nil => rfl
  | cons b bs ih =>
    rw [upToFailure, if_pos (h b List.mem_cons_self),
      ih fun d hd => h d (List.mem_cons_of_mem _ hd)]

theorem upToFailure_map {γ : Type} (f : β → Traced ε α) (g : γ → β) (cs : List γ) :
    upToFailure f (cs.map g) = (upToFailure (fun c => f (g c)) cs).map g := by
  induction cs with
  | nil => rfl
  | cons c cs ih =>
    rw [List.map_cons, upToFailure, upToFailure, ih]
    split <;> rfl

theorem upToFailure_append (f : β → Traced ε α) (bs ds : List β) :
    upToFailure f (bs ++ ds) =
      if ∀ b ∈ bs, (f b).Succeeds then bs ++ upToFailure f ds else upToFailure f bs := by
  induction bs with
  | nil => rfl
  | cons b bs ih =>
    rw [List.cons_append, upToFailure, upToFailure, ih]
    have hc := List.forall_mem_cons (p := fun d => (f d).Succeeds) (a := b) (l := bs)
    by_cases hb : (f b).Succeeds
    · by_cases hbs : ∀ d ∈ bs, (f d).Succeeds
      · rw [if_pos hb, if_pos hbs, if_pos (hc.mpr ⟨hb, hbs⟩), List.cons_append]
      · rw [if_pos hb, if_neg hbs, if_neg fun h => hbs (hc.mp h).2, if_pos hb]
    · rw [if_neg hb, if_neg fun h => hb (hc.mp h).1, if_neg hb]

def IsFirstFailing (f : β → Traced ε α) (bs : List β) (b : β) : Prop :=
  ∃ before after, bs = before ++ b :: after ∧ (∀ d ∈ before, (f d).Succeeds) ∧ ¬ (f b).Succeeds

theorem isFirstFailing_cons {f : β → Traced ε α} {b d : β} {bs : List β} :
    IsFirstFailing f (b :: bs) d ↔
      d = b ∧ ¬ (f b).Succeeds ∨ (f b).Succeeds ∧ IsFirstFailing f bs d := by
  constructor
  · rintro ⟨before, after, hs, hb, hd⟩
    cases before with
    | nil => cases hs; exact .inl ⟨rfl, hd⟩
    | cons a before =>
      cases hs
      obtain ⟨ha, hb⟩ := List.forall_mem_cons.mp hb
      exact .inr ⟨ha, before, after, rfl, hb, hd⟩
  · rintro (⟨rfl, hd⟩ | ⟨hb, before, after, rfl, hs, hd⟩)
    · exact ⟨[], bs, rfl, nofun, hd⟩
    · exact ⟨b :: before, after, rfl, List.forall_mem_cons.mpr ⟨hb, hs⟩, hd⟩

theorem calls_mapM (f : β → Traced ε α) (bs : List β) :
    (bs.mapM f).calls = (upToFailure f bs).flatMap fun b => (f b).calls := by
  induction bs with
  | nil => rfl
  | cons b bs ih =>
    rw [List.mapM_cons, upToFailure]
    cases hb : (f b).outcome with
    | error e =>
      rw [bind_error hb, if_neg (not_succeeds_iff.mpr ⟨e, hb⟩)]
      exact (List.append_nil _).symm
    | ok a =>
      rw [bind_ok hb, if_pos ⟨a, hb⟩, List.flatMap_cons, ← map_eq_pure_bind, calls_map, ih]

theorem succeeds_mapM {f : β → Traced ε α} {bs : List β} :
    (bs.mapM f).Succeeds ↔ ∀ b ∈ bs, (f b).Succeeds := by
  induction bs with
  | nil => exact ⟨fun _ => nofun, fun _ => ⟨[], rfl⟩⟩
  | cons b bs ih =>
    rw [List.forall_mem_cons, ← ih, List.mapM_cons]
    simp only [Succeeds, outcome_bind_eq_ok, outcome_pure, Except.ok.injEq]
    constructor
    · rintro ⟨_, a, ha, as, has, rfl⟩
      exact ⟨⟨a, ha⟩, as, has⟩
    · rintro ⟨⟨a, ha⟩, as, has⟩
      exact ⟨a :: as, a, ha, as, has, rfl⟩

theorem outcome_mapM_eq_error {f : β → Traced ε α} {bs : List β} {e : ε} :
    (bs.mapM f).outcome = .error e ↔ ∃ b, IsFirstFailing f bs b ∧ (f b).outcome = .error e := by
  induction bs with
  | nil =>
    constructor
    · intro h
      cases h
    · rintro ⟨b, ⟨before, after, hs, -⟩, -⟩
      cases before <;> cases hs
  | cons b bs ih =>
    simp only [List.mapM_cons, outcome_bind_eq_error, outcome_pure, reduceCtorEq, and_false,
      exists_false, or_false, ih, isFirstFailing_cons]
    constructor
    · rintro (h | ⟨a, ha, d, hd, he⟩)
      · exact ⟨b, .inl ⟨rfl, not_succeeds_iff.mpr ⟨e, h⟩⟩, h⟩
      · exact ⟨d, .inr ⟨⟨a, ha⟩, hd⟩, he⟩
    · rintro ⟨d, ⟨rfl, -⟩ | ⟨⟨a, ha⟩, hd⟩, he⟩
      · exact .inl he
      · exact .inr ⟨a, ha, d, hd, he⟩

structure Agree {ε ε' α β : Type} (E : ε → ε' → Prop) (R : α → β → Prop) (x : Traced ε α)
    (y : Traced ε' β) : Prop where
  calls : x.calls = y.calls
  outcome : Collate.Agree E R x.outcome y.outcome

namespace Agree

variable {ε' γ δ : Type} {E : ε → ε' → Prop} {R : α → β → Prop}

theorem refl {E : ε → ε → Prop} {R : α → α → Prop} (hE : ∀ e, E e e) (hR : ∀ a, R a a)
    (x : Traced ε α) : Agree E R x x :=
  ⟨rfl, .refl hE hR x.outcome⟩

theorem pure {a : α} {b : β} (h : R a b) : Agree E R (Pure.pure a) (Pure.pure b) :=
  ⟨rfl, .ok h⟩

theorem ofExcept {x : Except ε α} {y : Except ε' β} (h : Collate.Agree E R x y) :
    Agree E R (.ofExcept x) (.ofExcept y) :=
  ⟨rfl, h⟩

theorem fail {e : ε} {e' : ε'} (h : E e e') : Agree E R (Traced.fail e) (Traced.fail e') :=
  ⟨rfl, .error h⟩

theorem bind {S : γ → δ → Prop} {x : Traced ε α} {y : Traced ε' β} {f : α → Traced ε γ}
    {g : β → Traced ε' δ} (h : Agree E R x y) (hf : ∀ a b, R a b → Agree E S (f a) (g b)) :
    Agree E S (x >>= f) (y >>= g) := by
  obtain ⟨calls, outcome⟩ := x
  obtain ⟨calls', outcome'⟩ := y
  obtain ⟨rfl, h⟩ := h
  cases h with
  | ok h =>
    obtain ⟨hc, ho⟩ := hf _ _ h
    rw [bind_ok rfl, bind_ok rfl, hc]
    exact ⟨rfl, ho⟩
  | error h =>
    rw [bind_error rfl, bind_error rfl]
    exact ⟨rfl, .error h⟩

theorem mapError {F : γ → δ → Prop} {x : Traced ε α} {y : Traced ε' β} {f : ε → γ} {g : ε' → δ}
    (h : Agree E R x y) (hf : ∀ e e', E e e' → F (f e) (g e')) :
    Agree F R (x.mapError f) (y.mapError g) :=
  ⟨h.calls, h.outcome.mapError hf⟩

end Agree

end Collate.Traced

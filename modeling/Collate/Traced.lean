namespace Collate

/-- A computation that may fail, with the names of the methods it called on the way. -/
structure Traced (ε α : Type) where
  calls : List String
  outcome : Except ε α

namespace Traced

variable {ε ε' α β : Type}

def ofExcept (x : Except ε α) : Traced ε α := ⟨[], x⟩

protected def pure (a : α) : Traced ε α := ⟨[], .ok a⟩

def fail (e : ε) : Traced ε α := ⟨[], .error e⟩

def called (name : String) (x : Except ε α) : Traced ε α := ⟨[name], x⟩

protected def bind (x : Traced ε α) (f : α → Traced ε β) : Traced ε β :=
  match x.outcome with
  | .ok a => ⟨x.calls ++ (f a).calls, (f a).outcome⟩
  | .error e => ⟨x.calls, .error e⟩

def mapError (f : ε → ε') (x : Traced ε α) : Traced ε' α := ⟨x.calls, x.outcome.mapError f⟩

instance : Monad (Traced ε) where
  pure := Traced.pure
  bind := Traced.bind

theorem pure_eq (a : α) : (pure a : Traced ε α) = ⟨[], .ok a⟩ := rfl

theorem bind_ok {x : Traced ε α} {f : α → Traced ε β} {a : α} (h : x.outcome = .ok a) :
    x >>= f = ⟨x.calls ++ (f a).calls, (f a).outcome⟩ := by
  simp only [bind, Traced.bind, h]

theorem bind_error {x : Traced ε α} {f : α → Traced ε β} {e : ε} (h : x.outcome = .error e) :
    x >>= f = ⟨x.calls, .error e⟩ := by
  simp only [bind, Traced.bind, h]

instance : LawfulMonad (Traced ε) := LawfulMonad.mk' (Traced ε)
  (by
    intro α x
    cases x with
    | mk calls outcome => cases outcome <;> simp [Functor.map, Traced.bind, Traced.pure])
  (by intro α β a f; simp [bind, pure, Traced.bind, Traced.pure])
  (by
    intro α β γ x f g
    cases hx : x.outcome with
    | error e => simp only [bind, Traced.bind, hx]
    | ok a => cases hy : (f a).outcome <;> simp [bind, Traced.bind, hx, hy])

end Traced

end Collate

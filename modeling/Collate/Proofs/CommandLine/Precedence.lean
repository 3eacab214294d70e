import Collate.CommandLine.Run
import Collate.Host.Snapshot
import Collate.Proofs.Config.Supply
import Collate.Proofs.EnvFile.Loading

namespace Collate

def IsFirst {α : Type} (l : List (Option α)) (a : α) : Prop :=
  ∃ before after, l = before ++ some a :: after ∧ ∀ x ∈ before, x = none

namespace IsFirst

variable {α : Type} {l : List (Option α)} {a b : α}

theorem head : IsFirst (some a :: l) a :=
  ⟨[], l, rfl, nofun⟩

theorem tail (h : IsFirst l a) : IsFirst (none :: l) a := by
  obtain ⟨before, after, hl, hn⟩ := h
  refine ⟨none :: before, after, by rw [hl]; rfl, ?_⟩
  intro x hx
  rcases List.mem_cons.mp hx with rfl | hx
  · rfl
  · exact hn x hx

theorem unique (ha : IsFirst l a) (hb : IsFirst l b) : a = b := by
  have hf {c : α} (hc : IsFirst l c) : l.findSome? id = some c := by
    obtain ⟨before, after, hl, hn⟩ := hc
    exact List.findSome?_eq_some_iff.mpr ⟨before, some c, after, hl, rfl, hn⟩
  exact Option.some.inj ((hf ha).symm.trans (hf hb))

end IsFirst

namespace Config

section

variable (h : Host Id) (bs : Bindings)

end

end Config

namespace CommandLine

open Config

variable (h : Host Id) (bs : Bindings)

theorem run_eq (o : Options) {found : Bool} (hl : (EnvFile.load h o.envFile).run.result = .ok found) :
    (run h o).run =
      match (loadConfig (h.withBindings (EnvFile.load h o.envFile).run.bindings) o.config).run with
      | .error e => .error (.config e)
      | .ok c => (readInput h o.input).run.bind fun text =>
        (sortText (o.applyTo c) text).mapError .document := by
  unfold run
  generalize EnvFile.load h o.envFile = loaded at hl ⊢
  obtain ⟨bs, result⟩ := loaded
  cases hl
  simp only [Id.run_bind]
  dsimp only [Id.run]
  cases (loadConfig (h.withBindings bs) o.config) with
  | error e => rfl
  | ok c =>
    cases readInput h o.input with
    | error e => rfl
    | ok text => rfl

end CommandLine

end Collate

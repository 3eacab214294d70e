import Collate.Proofs.CommandLine.Precedence

namespace Collate.CommandLine

variable {h : Host Id} {o : Options}

structure Sorts (h : Host Id) (o : Options) (settings : Config) (sorted : Json) : Prop where
  loads : ∃ found, (EnvFile.load h o.envFile).run.result = .ok found
  starts : ∃ c, settings = o.applyTo c ∧
    (loadConfig (h.withBindings (EnvFile.load h o.envFile).run.bindings) o.config).run = .ok c
  reads : ∃ text document count, (readInput h o.input).run = .ok text ∧
    Json.parse text = .ok document ∧ sortDocument settings document = (.ok count, sorted)

inductive Fails (h : Host Id) (o : Options) : RunError → Prop
  | envFile (hl : (EnvFile.load h o.envFile).run.result = .error .malformed) : Fails h o .envFile
  | unstorable {key value : String}
    (hl : (EnvFile.load h o.envFile).run.result = .error (.unstorable key value)) :
    Fails h o (.unstorable key value)
  | config {found : Bool} {e : ConfigError}
    (hl : (EnvFile.load h o.envFile).run.result = .ok found)
    (hc : (loadConfig (h.withBindings (EnvFile.load h o.envFile).run.bindings) o.config).run =
      .error e) : Fails h o (.config e)
  | input {found : Bool} {c : Config} {e : RunError}
    (hl : (EnvFile.load h o.envFile).run.result = .ok found)
    (hc : (loadConfig (h.withBindings (EnvFile.load h o.envFile).run.bindings) o.config).run =
      .ok c)
    (hi : (readInput h o.input).run = .error e) : Fails h o e
  | document {found : Bool} {c : Config} {text : String} {e : DocumentError}
    (hl : (EnvFile.load h o.envFile).run.result = .ok found)
    (hc : (loadConfig (h.withBindings (EnvFile.load h o.envFile).run.bindings) o.config).run =
      .ok c)
    (hi : (readInput h o.input).run = .ok text)
    (hs : sortText (o.applyTo c) text = .error e) : Fails h o (.document e)

theorem sortText_eq_ok {c : Config} {text output : String} :
    sortText c text = .ok output ↔ ∃ document count sorted, Json.parse text = .ok document ∧
      sortDocument c document = (.ok count, sorted) ∧ output = sorted.render c.pretty := by
  unfold sortText
  rw [bind_eq_ok]
  constructor
  · rintro ⟨document, hp, hs⟩
    split at hs
    next count sorted hd =>
      cases hs
      exact ⟨document, count, sorted, mapError_eq_ok.mp hp, hd, rfl⟩
    next => cases hs
  · rintro ⟨document, count, sorted, hp, hd, rfl⟩
    refine ⟨document, mapError_eq_ok.mpr hp, ?_⟩
    rw [hd]
    rfl

theorem run_of_error {f : EnvFile.LoadError}
    (hl : (EnvFile.load h o.envFile).run.result = .error f) :
    ∃ e, Fails h o e ∧ (run h o).run = .error e := by
  cases f with
  | malformed =>
    refine ⟨_, .envFile hl, ?_⟩
    unfold run
    generalize EnvFile.load h o.envFile = loaded at hl ⊢
    obtain ⟨bs, result⟩ := loaded
    cases hl
    rfl
  | unstorable key value =>
    refine ⟨_, .unstorable hl, ?_⟩
    unfold run
    generalize EnvFile.load h o.envFile = loaded at hl ⊢
    obtain ⟨bs, result⟩ := loaded
    cases hl
    rfl

theorem run_cases (h : Host Id) (o : Options) :
    (∃ settings sorted, Sorts h o settings sorted ∧
      (run h o).run = .ok (sorted.render settings.pretty)) ∨
      ∃ e, Fails h o e ∧ (run h o).run = .error e := by
  cases hl : (EnvFile.load h o.envFile).run.result with
  | error f => exact .inr (run_of_error hl)
  | ok found =>
    have hr := run_eq h o hl
    cases hc : (loadConfig (h.withBindings (EnvFile.load h o.envFile).run.bindings) o.config).run with
    | error e =>
      rw [hc] at hr
      exact .inr ⟨_, .config hl hc, hr⟩
    | ok c =>
      rw [hc] at hr
      cases hi : (readInput h o.input).run with
      | error e =>
        rw [hi] at hr
        exact .inr ⟨_, .input hl hc hi, hr⟩
      | ok text =>
        rw [hi] at hr
        cases hs : sortText (o.applyTo c) text with
        | error e =>
          refine .inr ⟨_, .document hl hc hi hs, hr.trans ?_⟩
          change (sortText (o.applyTo c) text).mapError RunError.document = _
          rw [hs]
          rfl
        | ok output =>
          obtain ⟨document, count, sorted, hp, hd, rfl⟩ := sortText_eq_ok.mp hs
          refine .inl ⟨_, sorted, ⟨⟨found, hl⟩, ⟨c, rfl, hc⟩, text, document, count, hi, hp, hd⟩, ?_⟩
          refine hr.trans ?_
          change (sortText (o.applyTo c) text).mapError RunError.document = _
          rw [hs]
          rfl

/-- What a command leaves behind. Nothing is written by one that fails. -/
inductive Leaves (h : Host Id) : Command → Result → Prop
  | help : Leaves h .help ⟨0, helpText, none⟩
  | version : Leaves h .version ⟨0, versionText, none⟩
  | misuse : Leaves h .misuse ⟨2, "", none⟩
  | sorted {o : Options} {settings : Config} {sorted : Json} (hs : Sorts h o settings sorted) :
    Leaves h (.run o) ⟨0, sorted.render settings.pretty ++ "\n", none⟩
  | failed {o : Options} {e : RunError} (hf : Fails h o e) :
    Leaves h (.run o) ⟨e.code, "", some e⟩

theorem execute_leaves (h : Host Id) (arguments : List String) :
    Leaves h (commandOf .empty arguments) (execute h arguments).run := by
  unfold execute
  cases commandOf .empty arguments with
  | help => exact .help
  | version => exact .version
  | misuse => exact .misuse
  | run o =>
    rw [Id.run_bind]
    rcases run_cases h o with ⟨settings, sorted, hs, hr⟩ | ⟨e, hf, hr⟩
    · rw [hr]
      exact .sorted hs
    · rw [hr]
      exact .failed hf

theorem RunError.code_eq (e : RunError) : e.code = 1 ∨ e.code = 101 := by
  cases e <;> simp [code]

theorem report_ne_empty {messages : List String} (h : messages ≠ []) : report messages ≠ "" := by
  intro he
  have hl := congrArg String.length he
  match messages with
  | [] => exact h rfl
  | [m] => simp [report] at hl
  | [m, c] => simp [report] at hl
  | m :: c :: d :: ms => simp [report] at hl

theorem RunError.chain_ne_nil (e : RunError) : e.chain ≠ [] := by
  cases e with
  | config e => cases e <;> exact List.cons_ne_nil _ _
  | document e => cases e <;> exact List.cons_ne_nil _ _
  | _ => exact List.cons_ne_nil _ _

theorem execute_writes_nothing (h : Host Id) (arguments : List String)
    (hc : (execute h arguments).run.code ≠ 0) :
    (execute h arguments).run.output = "" ∧ (execute h arguments).run.complaint ≠ "" := by
  have hl := execute_leaves h arguments
  generalize (execute h arguments).run = r at hl hc ⊢
  generalize commandOf .empty arguments = command at hl
  cases hl with
  | help | version | sorted => exact absurd rfl hc
  | misuse => exact ⟨rfl, by decide⟩
  | @failed o e hf =>
    refine ⟨rfl, ?_⟩
    unfold Result.complaint
    dsimp only
    split
    · exact report_ne_empty e.chain_ne_nil
    · intro he
      have hlen := congrArg String.length he
      simp at hlen

end Collate.CommandLine

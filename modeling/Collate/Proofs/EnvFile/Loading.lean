import Collate.EnvFile.Loading
import Collate.Host.Snapshot

/-!
An environment file counts up to its first line that is at fault or cannot be carried out, and what
was assigned before it stays. That a line is no text is told in the same way as that there is no file.
-/

namespace Collate

theorem Host.value?_run (h : Host Id) (name : String) :
    (h.value? name).run = (h.environment name).run.value? :=
  rfl

theorem Host.environment_withBindings (h : Host Id) (bs : Bindings) (name : String) :
    ((h.withBindings bs).environment name).run =
      match (h.value? name).run, bs.value? name with
      | none, some value => .text value
      | _, _ => (h.environment name).run := by
  rw [Host.value?_run]
  unfold Host.withBindings
  dsimp only
  rw [Id.run_bind]
  cases (h.environment name).run <;> cases bs.value? name <;> rfl

theorem Bindings.value?_eq_none {bs : Bindings} {name : String} :
    bs.value? name = none ↔ name ∉ bs.map Prod.fst := by
  simp only [Bindings.value?, Option.map_eq_none_iff, List.find?_eq_none, decide_eq_true_eq,
    List.mem_map, not_exists, not_and]

namespace EnvFile

abbrev Statement := Except Fault (Option Assignment)

def statements (bytes : ByteArray) : List Statement :=
  (logicalLines bytes).map (·.bind readLine)

section Lines

variable {buffer cs : List Char} {s : Scan} {lines : List (Option (List Char))} {bytes : ByteArray}

theorem unreadable_mem_joinLines :
    .error .unreadable ∈ joinLines buffer s lines ↔ none ∈ lines := by
  induction lines generalizing buffer s with
  | nil =>
    rw [joinLines]
    split <;> simp
  | cons line lines ih =>
    cases line with
    | none => simp [joinLines]
    | some line =>
      rw [joinLines]
      split
      · simp [ih]
      · split <;> simp [ih]

theorem readLine_ne_unreadable : readLine cs ≠ .error .unreadable := by
  unfold readLine
  split
  · nofun
  · nofun
  · split
    · nofun
    · split
      · nofun
      · nofun
      · split <;> nofun

theorem unreadable_mem_statements :
    .error .unreadable ∈ statements bytes ↔ none ∈ physicalLines bytes := by
  have hj : .error .unreadable ∈ logicalLines bytes ↔ none ∈ physicalLines bytes :=
    unreadable_mem_joinLines
  rw [← hj, statements, List.mem_map]
  constructor
  · rintro ⟨line, hl, he⟩
    cases line with
    | ok cs => exact absurd he readLine_ne_unreadable
    | error fault =>
      cases he
      exact hl
  · exact fun h => ⟨_, h, rfl⟩

end Lines

section Assigning

variable (h : Host Id)

def valueOf (bs : Bindings) (a : Assignment) : String :=
  (expand (h.withBindings bs) a.value).run

def Unstorable (bs : Bindings) (a : Assignment) : Prop :=
  ((h.withBindings bs).value? a.key).run = none ∧ '\x00' ∈ (valueOf h bs a).toList

inductive Carries : Bindings → List Statement → Bindings → Prop
  | nil (bs : Bindings) : Carries bs [] bs
  | blank {bs cs : Bindings} {ss : List Statement} (hs : Carries bs ss cs) :
    Carries bs (.ok none :: ss) cs
  | assignment {bs cs : Bindings} {a : Assignment} {ss : List Statement} (ha : ¬ Unstorable h bs a)
      (hs : Carries (bs ++ [(a.key, valueOf h bs a)]) ss cs) : Carries bs (.ok (some a) :: ss) cs

inductive Ends (bs : Bindings) : List Statement → Except LoadError Bool → Prop
  | whole : Ends bs [] (.ok true)
  | undecodable (after : List Statement) : Ends bs (.error .unreadable :: after) (.ok false)
  | malformed (after : List Statement) :
    Ends bs (.error .malformed :: after) (.error .malformed)
  | unstorable {a : Assignment} (ha : Unstorable h bs a) (after : List Statement) :
    Ends bs (.ok (some a) :: after) (.error (.unstorable a.key (valueOf h bs a)))

variable {h} {bs cs : Bindings} {ss : List Statement}

theorem Carries.names (hc : Carries h bs ss cs) (name : String) :
    name ∈ cs.map Prod.fst ↔
      name ∈ bs.map Prod.fst ∨ ∃ a, .ok (some a) ∈ ss ∧ a.key = name := by
  induction hc with
  | nil bs => simp
  | blank hs ih => simp [ih]
  | @assignment bs cs a ss ha hs ih =>
    rw [ih, List.map_append, List.mem_append, or_assoc]
    refine or_congr_right ?_
    simp only [List.map_cons, List.map_nil, List.mem_cons, List.not_mem_nil, or_false,
      Except.ok.injEq, Option.some.injEq, or_and_right, exists_or, exists_eq_left]
    rw [eq_comm]

theorem Ends.silent_iff {result : Except LoadError Bool} (he : Ends h bs ss result) :
    result = .ok false ↔ ∃ after, ss = .error .unreadable :: after := by
  cases he <;> simp

theorem applyLines_some {line : List Char} {a : Assignment} (hr : readLine line = .ok (some a))
    (bs : Bindings) (lines : List (Except Fault (List Char))) :
    (Unstorable h bs a ∧ (applyLines h bs (.ok line :: lines)).run =
        ⟨bs, some (.unstorable a.key (valueOf h bs a))⟩) ∨
      ¬ Unstorable h bs a ∧ (applyLines h bs (.ok line :: lines)).run =
        (applyLines h (bs ++ [(a.key, valueOf h bs a)]) lines).run := by
  have hl : (applyLines h bs (.ok line :: lines)).run =
      if ((h.withBindings bs).value? a.key).run.isNone ∧ '\x00' ∈ (valueOf h bs a).toList then
        ⟨bs, some (.unstorable a.key (valueOf h bs a))⟩
      else (applyLines h (bs ++ [(a.key, valueOf h bs a)]) lines).run := by
    rw [applyLines, hr]
    exact apply_ite Id.run _ _ _
  have hi : ((h.withBindings bs).value? a.key).run.isNone ∧ '\x00' ∈ (valueOf h bs a).toList ↔
      Unstorable h bs a :=
    and_congr_left' Option.isNone_iff_eq_none
  rw [hl]
  split
  next hu => exact .inl ⟨hi.mp hu, rfl⟩
  next hu => exact .inr ⟨mt hi.mpr hu, rfl⟩

theorem exists_carries (bs : Bindings) (lines : List (Except Fault (List Char))) :
    ∃ taken rest, lines.map (·.bind readLine) = taken ++ rest ∧
      Carries h bs taken (applyLines h bs lines).run.bindings ∧
        Ends h (applyLines h bs lines).run.bindings rest
          (applyLines h bs lines).run.toLoaded.result := by
  induction lines generalizing bs with
  | nil => exact ⟨[], [], rfl, .nil bs, .whole⟩
  | cons line lines ih =>
    cases line with
    | error fault =>
      refine ⟨[], _, rfl, .nil bs, ?_⟩
      cases fault with
      | unreadable => exact .undecodable _
      | malformed => exact .malformed _
    | ok cs =>
      have hb : (Except.ok cs : Except Fault (List Char)).bind readLine = readLine cs := rfl
      rw [List.map_cons, hb]
      cases hr : readLine cs with
      | error fault =>
        rw [applyLines, hr]
        refine ⟨[], _, rfl, .nil bs, ?_⟩
        cases fault with
        | unreadable => exact .undecodable _
        | malformed => exact .malformed _
      | ok found =>
        cases found with
        | none =>
          obtain ⟨taken, rest, hl, hc, he⟩ := ih bs
          rw [applyLines, hr]
          exact ⟨.ok none :: taken, rest, congrArg _ hl, hc.blank, he⟩
        | some a =>
          rcases applyLines_some hr bs lines with ⟨hu, hs⟩ | ⟨hu, hs⟩
          · rw [hs]
            exact ⟨[], _, rfl, .nil bs, .unstorable hu _⟩
          · obtain ⟨taken, rest, hl, hc, he⟩ := ih (bs ++ [(a.key, valueOf h bs a)])
            rw [hs]
            exact ⟨.ok (some a) :: taken, rest, congrArg _ hl, hc.assignment hu, he⟩

end Assigning

section Loading

variable (h : Host Id) (path : Option String)

/-- The file that loading opens: the one that is named, or else the first file among the usual places,
if it is known of all places before it that they hold none. -/
inductive Finds : Option String → String → Prop
  | named (path : String) : Finds (some path) path
  | usual {path : String} {before after : List String}
      (hp : h.envFilePlaces.run = before ++ path :: after)
      (hm : (h.metadata path).run = .ok true)
      (hb : ∀ p ∈ before, (h.metadata p).run = .ok false ∨ (h.metadata p).run = .error .missing) :
    Finds none path

/-- Of a file with these bytes the statements `taken` are carried out, and the first one of `rest` is
where loading ends. The variables that these assign are changed, unless they have a text already. -/
structure LoadedUpTo (bytes : ByteArray) (taken rest : List Statement) : Prop where
  split : statements bytes = taken ++ rest
  carried : Carries h [] taken (load h path).run.bindings
  ends : Ends h (load h path).run.bindings rest (load h path).run.result
  silent : (load h path).run.result = .ok false ↔ ∃ after, rest = .error .unreadable :: after
  undecodable : .error .unreadable ∈ statements bytes ↔ none ∈ physicalLines bytes
  changes (name : String) :
    ((h.withBindings (load h path).run.bindings).environment name).run ≠ (h.environment name).run ↔
      (h.value? name).run = none ∧ ∃ a, .ok (some a) ∈ taken ∧ a.key = name

variable {h} {path}

def passesOver (h : Host Id) (p : String) : Bool :=
  (h.metadata p).run matches .ok false | .error .missing

theorem passesOver_iff {p : String} :
    passesOver h p ↔ (h.metadata p).run = .ok false ∨ (h.metadata p).run = .error .missing := by
  unfold passesOver
  split <;> simp_all

theorem isFile_iff {p : String} : (h.isFile p).run ↔ (h.metadata p).run = .ok true := by
  unfold Host.isFile
  rw [Id.run_bind, Id.run_pure]
  split <;> simp_all

theorem findFile?_of_file {p : String} (hm : (h.metadata p).run = .ok true) (places : List String) :
    (findFile? h (p :: places)).run = some p := by
  rw [findFile?, Id.run_bind, hm]
  rfl

theorem findFile?_of_passesOver {p : String} (hp : passesOver h p) (places : List String) :
    (findFile? h (p :: places)).run = (findFile? h places).run := by
  rw [findFile?, Id.run_bind]
  rcases passesOver_iff.mp hp with hm | hm <;> rw [hm]

theorem findFile?_of_fault {p : String} (hm : (h.metadata p).run ≠ .ok true)
    (hp : ¬ passesOver h p) (places : List String) : (findFile? h (p :: places)).run = none := by
  rw [findFile?, Id.run_bind]
  split
  next ht => exact absurd ht hm
  next hf => exact absurd (passesOver_iff.mpr (.inl hf)) hp
  next he => exact absurd (passesOver_iff.mpr (.inr he)) hp
  next => rfl

theorem findFile?_eq (places : List String) : (findFile? h places).run =
    (places.find? fun p => !passesOver h p).filter fun p => (h.isFile p).run := by
  induction places with
  | nil => rfl
  | cons p places ih =>
    rw [List.find?_cons]
    by_cases hm : (h.metadata p).run = .ok true
    · have hp : passesOver h p = false := by rw [passesOver, hm]
      rw [findFile?_of_file hm, hp, Bool.not_false, Option.filter_some, if_pos (isFile_iff.mpr hm)]
    · by_cases hp : passesOver h p
      · rw [findFile?_of_passesOver hp, ih, hp, Bool.not_true]
      · rw [findFile?_of_fault hm hp, Bool.eq_false_iff.mpr hp, Bool.not_false, Option.filter_some,
          if_neg (mt isFile_iff.mp hm)]

def place? (h : Host Id) (path : Option String) : Option String :=
  match path with
  | some path => some path
  | none => (findFile? h h.envFilePlaces.run).run

theorem finds_iff {p : String} : Finds h path p ↔ place? h path = some p := by
  cases path with
  | some path =>
    constructor
    · rintro ⟨⟩
      rfl
    · rintro ⟨⟩
      exact .named p
  | none =>
    simp only [place?, findFile?_eq, Option.filter_eq_some_iff, List.find?_eq_some_iff_append,
      isFile_iff, Bool.not_not, passesOver_iff]
    constructor
    · intro hf
      cases hf with
      | usual hp hm hb =>
        have hn : (!passesOver h p) = true := by rw [passesOver, hm]; rfl
        exact ⟨⟨hn, _, _, hp, hb⟩, hm⟩
    · rintro ⟨⟨-, before, after, hp, hb⟩, hm⟩
      exact .usual hp hm hb

theorem load_eq (h : Host Id) (path : Option String) : (load h path).run =
    match place? h path with
    | none => ⟨[], .ok false⟩
    | some p =>
      match (h.readFile p).run with
      | .error _ => ⟨[], .ok false⟩
      | .ok bytes => (ofBytes h bytes).run.toLoaded := by
  have hread (p : String) : (load h (some p)).run =
      match (h.readFile p).run with
      | .error _ => ⟨[], .ok false⟩
      | .ok bytes => (ofBytes h bytes).run.toLoaded := by
    unfold load
    simp only [Id.run_bind, Id.run_pure]
    cases (h.readFile p) with
    | error => rfl
    | ok bytes => rfl
  cases path with
  | some path => exact hread path
  | none =>
    have hl : (load h none).run = match (findFile? h h.envFilePlaces.run).run with
        | none => ⟨[], .ok false⟩
        | some p => (load h (some p)).run := by
      unfold load
      simp only [Id.run_bind]
      cases (findFile? h h.envFilePlaces.run).run <;> rfl
    rw [hl, place?]
    cases (findFile? h h.envFilePlaces.run).run with
    | none => rfl
    | some p => exact hread p

theorem environment_withBindings_nil (h : Host Id) (name : String) :
    ((h.withBindings []).environment name).run = (h.environment name).run := by
  rw [Host.environment_withBindings]
  cases (h.value? name).run <;> rfl

theorem environment_changes_iff {bs : Bindings} {taken : List Statement}
    (hc : Carries h [] taken bs) (name : String) :
    ((h.withBindings bs).environment name).run ≠ (h.environment name).run ↔
      (h.value? name).run = none ∧ ∃ a, .ok (some a) ∈ taken ∧ a.key = name := by
  have hv : bs.value? name = none ↔ ¬ ∃ a, .ok (some a) ∈ taken ∧ a.key = name := by
    rw [Bindings.value?_eq_none, hc.names]
    simp
  rw [Host.environment_withBindings, Host.value?_run]
  cases he : (h.environment name).run with
  | text value => cases bs.value? name <;> simp [Variable.value?]
  | unset | undecodable =>
    cases hb : bs.value? name with
    | none => simpa [Variable.value?, hb] using hv
    | some value => simpa [Variable.value?, hb] using hv

theorem loadedUpTo {p : String} {bytes : ByteArray} (hp : Finds h path p)
    (hr : (h.readFile p).run = .ok bytes) : ∃ taken rest, LoadedUpTo h path bytes taken rest := by
  have hl := load_eq h path
  simp only [finds_iff.mp hp, hr] at hl
  obtain ⟨taken, rest, hs, hc, he⟩ := exists_carries (h := h) [] (logicalLines bytes)
  have hbs (o : Outcome) : o.toLoaded.bindings = o.bindings := by
    unfold Outcome.toLoaded
    split <;> rfl
  change Ends h (ofBytes h bytes).run.bindings rest (ofBytes h bytes).run.toLoaded.result at he
  change Carries h [] taken (ofBytes h bytes).run.bindings at hc
  rw [← hbs, ← hl] at hc he
  exact ⟨taken, rest, hs, hc, he, he.silent_iff, unreadable_mem_statements,
    environment_changes_iff hc⟩

theorem load_up_to_fault :
    (load h path).run.result = .ok false ∧
        (∀ p, Finds h path p → ∃ fault, (h.readFile p).run = .error fault) ∧
        (∀ name, ((h.withBindings (load h path).run.bindings).environment name).run =
          (h.environment name).run) ∨
      ∃ p bytes taken rest, Finds h path p ∧ (h.readFile p).run = .ok bytes ∧
        LoadedUpTo h path bytes taken rest := by
  have hl := load_eq h path
  cases hp : place? h path with
  | none =>
    simp only [hp] at hl
    rw [hl]
    refine .inl ⟨rfl, fun p hf => ?_, environment_withBindings_nil h⟩
    cases hp.symm.trans (finds_iff.mp hf)
  | some p =>
    cases hr : (h.readFile p).run with
    | error fault =>
      simp only [hp, hr] at hl
      rw [hl]
      refine .inl ⟨rfl, fun q hf => ?_, environment_withBindings_nil h⟩
      cases hp.symm.trans (finds_iff.mp hf)
      exact ⟨fault, hr⟩
    | ok bytes =>
      obtain ⟨taken, rest, hu⟩ := loadedUpTo (finds_iff.mpr hp) hr
      exact .inr ⟨p, bytes, taken, rest, finds_iff.mpr hp, hr, hu⟩

/-- The variable of the first line stays, though no file is said to be loaded. -/
theorem load_up_to_fault_silent :
    let bytes := "MULTISORT_CONFIG_JSON='\x7b\"pretty\":true\x7d'\n".toUTF8 ++ ⟨#[255, 10]⟩
    let machine : Snapshot := ⟨[([".env"], bytes)], [], .empty, []⟩
    Finds machine.host none ".env" ∧ (machine.host.readFile ".env").run = .ok bytes ∧
      (load machine.host none).run.result = .ok false ∧
      (machine.host.environment "MULTISORT_CONFIG_JSON").run = .unset ∧
      ((machine.host.withBindings (load machine.host none).run.bindings).environment
        "MULTISORT_CONFIG_JSON").run = .text "\x7b\"pretty\":true\x7d" := by
  refine ⟨finds_iff.mpr (by decide +kernel), rfl, rfl, by decide +kernel, by decide +kernel⟩

end Loading

end EnvFile

end Collate

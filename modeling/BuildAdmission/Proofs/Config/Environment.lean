import BuildAdmission.Config.SettingsFile
import BuildAdmission.Proofs.Budget
import BuildAdmission.Proofs.Files.Path
import BuildAdmission.Proofs.IdMap
import BuildAdmission.Proofs.Text.Numeral

namespace BuildAdmission

/-- A variable that holds a number, with the bound of its numbers and the field that it sets. -/
structure NumberVariable where
  key : String
  bound : Nat
  field : Config → Nat

namespace Environment

variable {env : Environment} {key : String} {base n m : Nat} {v : NumberVariable}
  {vs : List NumberVariable} {P : Except SetupError Config → Prop}

/-! ### What is loaded -/

/-- A variable that is set already wins over what is loaded. -/
def Keeps (load : Environment → Environment) : Prop :=
  ∀ (env : Environment) (key value : String), env.find? key = some value →
    (load env).find? key = some value

theorem keeps_addMissing (k value : String) : Keeps (addMissing · k value) := by
  intro env key held set
  show (env.addMissing k value).find? key = some held
  unfold addMissing
  split
  · exact set
  · next unset =>
    rw [IdMap.find?_insert, if_neg, set]
    rintro rfl
    simp [IdMap.contains, set] at unset

theorem keeps_addLines (lines : List (List Char)) : Keeps (addLines · lines) := by
  intro env key held set
  induction lines generalizing env with
  | nil => exact set
  | cons line rest ih =>
      show (addLines env (line :: rest)).find? key = some held
      rw [addLines]
      cases SettingsFile.readLine env.valueOf line with
      | blank => exact ih env set
      | setting k value => exact ih _ (keeps_addMissing k value env key held set)
      | malformed => exact set

/-! ### One variable -/

/-- If the variable is set it holds a number of its range. -/
def Fills (env : Environment) (v : NumberVariable) : Prop :=
  ∀ raw, env.find? v.key = some raw → ∃ n < v.bound, Denotes raw.toList n

/-- The number is the one that the variable holds, or the base if the variable is not set. -/
def Gives (env : Environment) (key : String) (base n : Nat) : Prop :=
  (env.find? key).elim (n = base) (Denotes ·.toList n)

theorem Gives.unique (h : env.Gives key base n) (h' : env.Gives key base m) : n = m := by
  unfold Gives at h h'
  cases held : env.find? key with
  | none =>
      rw [held] at h h'
      exact h.trans h'.symm
  | some raw =>
      rw [held] at h h'
      exact Denotes.unique h h'

/-- What becomes of a variable that is to hold a number. -/
theorem number?_cases (env : Environment) (bound : Nat) (key : String) :
    (env.find? key = none ∧ env.number? bound key = .ok none) ∨
    (∃ raw n, env.find? key = some raw ∧ n < bound ∧ Denotes raw.toList n ∧
      env.number? bound key = .ok (some n)) ∨
    ∃ raw fault, env.find? key = some raw ∧ (¬ ∃ n < bound, Denotes raw.toList n) ∧
      env.number? bound key =
        .error (.during (key ++ " has invalid value " ++ quoted raw) (.integer fault)) := by
  cases held : env.find? key with
  | none => exact .inl ⟨rfl, by rw [number?, held]⟩
  | some raw =>
      cases read : readNatBelow bound (trim raw.toList) with
      | ok n =>
          obtain ⟨denotes, below⟩ := readNatBelow_trim_iff.1 read
          refine .inr (.inl ⟨raw, n, rfl, below, denotes, ?_⟩)
          rw [number?, held]
          simp only [read]
      | error fault =>
          refine .inr (.inr ⟨raw, fault, rfl, ?_, ?_⟩)
          · rintro ⟨n, below, denotes⟩
            cases read.symm.trans (readNatBelow_trim_iff.2 ⟨denotes, below⟩)
          · rw [number?, held]
            simp only [read]

/-! ### Several variables, one after the other -/

/-- The variables are looked at in order. The first that holds no number of its range is at fault.
Otherwise the result is as `P` says. -/
def Scans (env : Environment) (vs : List NumberVariable) (result : Except SetupError Config)
    (P : Except SetupError Config → Prop) : Prop :=
  (∃ earlier v later raw fault, vs = earlier ++ v :: later ∧ (∀ w ∈ earlier, env.Fills w) ∧
    env.find? v.key = some raw ∧ (¬ ∃ n < v.bound, Denotes raw.toList n) ∧
    result = .error (.during (v.key ++ " has invalid value " ++ quoted raw) (.integer fault))) ∨
  (∀ v ∈ vs, env.Fills v) ∧ P result

theorem Scans.nil {result : Except SetupError Config} (h : P result) : env.Scans [] result P :=
  .inr ⟨nofun, h⟩

theorem Scans.cons {result : Except SetupError Config} (fills : env.Fills v)
    (h : env.Scans vs result P) : env.Scans (v :: vs) result P := by
  rcases h with ⟨earlier, w, later, raw, fault, rfl, filled, wrong⟩ | ⟨filled, final⟩
  · exact .inl ⟨v :: earlier, w, later, raw, fault, rfl,
      List.forall_mem_cons.2 ⟨fills, filled⟩, wrong⟩
  · exact .inr ⟨List.forall_mem_cons.2 ⟨fills, filled⟩, final⟩

theorem Scans.of_ok {c : Config} (h : env.Scans vs (.ok c) P) :
    (∀ v ∈ vs, env.Fills v) ∧ P (.ok c) := by
  rcases h with ⟨_, _, _, _, _, _, _, _, _, wrong⟩ | final
  · cases wrong
  · exact final

/-- A variable is read into a word, which holds every number of the range. -/
theorem scans_bind {ω : Type} {ofNat : Nat → ω} {toNat : ω → Nat}
    (exact : ∀ n < v.bound, toNat (ofNat n) = n) {next : Option ω → Except SetupError Config}
    (rest : ∀ x, (∀ base, env.Gives v.key (toNat base) (toNat (x.getD base))) →
      env.Scans vs (next x) P) :
    env.Scans (v :: vs) ((env.number? v.bound v.key).map (·.map ofNat) >>= next) P := by
  obtain ⟨unset, read⟩ | ⟨raw, n, held, below, denotes, read⟩ | ⟨raw, fault, held, wrong, read⟩ :=
    env.number?_cases v.bound v.key
  · rw [read]
    have fills : env.Fills v := fun raw held => by cases unset.symm.trans held
    refine .cons fills (rest none fun base => ?_)
    rw [Gives, unset]
    rfl
  · rw [read]
    have fills : env.Fills v := fun raw' held' => by
      cases held.symm.trans held'
      exact ⟨n, below, denotes⟩
    refine .cons fills (rest (some (ofNat n)) fun base => ?_)
    rw [Gives, held, Option.getD_some, exact n below]
    exact denotes
  · rw [read]
    exact .inl ⟨[], v, vs, raw, fault, rfl, nofun, held, wrong, rfl⟩

theorem scans_word {field : Config → Nat} {next : Option UInt64 → Except SetupError Config}
    (rest : ∀ x, (∀ base : UInt64, env.Gives key base.toNat (x.getD base).toNat) →
      env.Scans vs (next x) P) :
    env.Scans (⟨key, UInt64.size, field⟩ :: vs) (env.word? key >>= next) P :=
  scans_bind (fun _ below => UInt64.toNat_ofNat_of_lt' below) rest

theorem scans_shortWord {field : Config → Nat} {next : Option UInt32 → Except SetupError Config}
    (rest : ∀ x, (∀ base : UInt32, env.Gives key base.toNat (x.getD base).toNat) →
      env.Scans vs (next x) P) :
    env.Scans (⟨key, UInt32.size, field⟩ :: vs) (env.shortWord? key >>= next) P :=
  scans_bind (fun _ below => UInt32.toNat_ofNat_of_lt' below) rest

end Environment

namespace Config

variable {c d d' : Config} {env : Environment}

open Environment

/-- The variables that hold numbers, in the order in which they are looked at. -/
def numberVariables : List NumberVariable :=
  [⟨"ORCHESTRATOR_CONCURRENCY_LIMIT", UInt64.size, (·.concurrencyLimit.toNat)⟩,
    ⟨"ORCHESTRATOR_MAX_RETRIES", UInt32.size, (·.maxRetries.toNat)⟩,
    ⟨"ORCHESTRATOR_IDLE_TIMEOUT_SECS", UInt64.size, (·.idleTimeoutSecs.toNat)⟩,
    ⟨"ORCHESTRATOR_BUDGET_OPTIMAL", UInt64.size, (·.budget.optimal.toNat)⟩,
    ⟨"ORCHESTRATOR_BUDGET_WARNING", UInt64.size, (·.budget.warning.toNat)⟩,
    ⟨"ORCHESTRATOR_BUDGET_SPLIT_TRIGGER", UInt64.size, (·.budget.splitTrigger.toNat)⟩,
    ⟨"ORCHESTRATOR_BUDGET_EMERGENCY", UInt64.size, (·.budget.emergency.toNat)⟩,
    ⟨"ORCHESTRATOR_SAFETY_MARGIN", UInt64.size, (·.budget.safetyMargin.toNat)⟩,
    ⟨"ORCHESTRATOR_HARD_LIMIT", UInt64.size, (·.budget.hardLimit.toNat)⟩]

/-- The configuration `d` is `c` with the variables that are set in place of its fields. -/
structure Layered (c : Config) (env : Environment) (d : Config) : Prop where
  numbers : ∀ v ∈ numberVariables, env.Gives v.key (v.field c) (v.field d)
  storage : d.storage = (env.find? "ORCHESTRATOR_STATE_DIR").elim c.storage fun dir =>
    .file (FilePath.join dir "units.json") (FilePath.join dir "checkpoints")

theorem eq_of_fields (numbers : ∀ v ∈ numberVariables, v.field d = v.field d')
    (storage : d.storage = d'.storage) : d = d' := by
  simp only [numberVariables, List.forall_mem_cons, UInt64.toNat_inj, UInt32.toNat_inj] at numbers
  obtain ⟨_, _, _, ⟨_, _, _, _, _, _⟩, _⟩ := d
  obtain ⟨_, _, _, ⟨_, _, _, _, _, _⟩, _⟩ := d'
  simp_all

theorem Layered.unique (h : c.Layered env d) (h' : c.Layered env d') : d = d' :=
  eq_of_fields (fun v hv => (h.numbers v hv).unique (h'.numbers v hv))
    (h.storage.trans h'.storage.symm)

theorem check_ok (h : d.check = .ok ()) : d.limits.check = .ok () ∧
    d.budget.budget = .ok ⟨d.budget.thresholds, d.budget.safetyMargin, d.budget.hardLimit⟩ := by
  obtain ⟨⟨⟩, limits, h⟩ := Except.bind_eq_ok_iff.1 h
  obtain ⟨budget, accepted, _⟩ := Except.bind_eq_ok_iff.1 h
  refine ⟨limits, ?_⟩
  rw [BudgetSettings.budget] at accepted ⊢
  cases made : Budget.new d.budget.thresholds d.budget.safetyMargin d.budget.hardLimit with
  | error fault =>
      rw [made] at accepted
      cases accepted
  | ok budget =>
      obtain ⟨_, _, rfl⟩ := Budget.new_eq_ok_iff.1 made
      rfl

theorem check_cases (d : Config) :
    let result : Except SetupError Config := do
      SetupError.noting "validating environment configuration" d.check
      .ok d
    d.check = .ok () ∧ result = .ok d ∨ ∃ r, d.check = .error r ∧
      result = .error (.during "validating environment configuration" (.refusal r)) := by
  cases d.check with
  | ok => exact .inl ⟨rfl, rfl⟩
  | error r => exact .inr ⟨r, rfl, rfl⟩

theorem overriddenBy_scans (c : Config) (env : Environment) :
    env.Scans numberVariables (c.overriddenBy env) fun result => ∃ d, c.Layered env d ∧
      (d.check = .ok () ∧ result = .ok d ∨ ∃ r, d.check = .error r ∧
        result = .error (.during "validating environment configuration" (.refusal r))) := by
  unfold overriddenBy
  refine scans_word fun concurrency givesConcurrency => ?_
  refine scans_shortWord fun retries givesRetries => ?_
  refine scans_word fun idle givesIdle => ?_
  refine scans_word fun optimal givesOptimal => ?_
  refine scans_word fun warning givesWarning => ?_
  refine scans_word fun split givesSplit => ?_
  refine scans_word fun emergency givesEmergency => ?_
  refine scans_word fun margin givesMargin => ?_
  refine scans_word fun limit givesLimit => ?_
  refine .nil ⟨_, ⟨?_, ?_⟩, check_cases _⟩
  · simp only [numberVariables, List.forall_mem_cons]
    exact ⟨givesConcurrency _, givesRetries _, givesIdle _, givesOptimal _, givesWarning _,
      givesSplit _, givesEmergency _, givesMargin _, givesLimit _, nofun⟩
  · unfold stateStorage?
    cases env.find? "ORCHESTRATOR_STATE_DIR" <;> rfl

theorem layered_of_overriddenBy (h : c.overriddenBy env = .ok d) :
    c.Layered env d ∧ d.check = .ok () := by
  have scanned := c.overriddenBy_scans env
  rw [h] at scanned
  obtain ⟨_, d', layered, ⟨valid, accepted⟩ | ⟨_, _, refused⟩⟩ := scanned.of_ok
  · cases accepted
    exact ⟨layered, valid⟩
  · cases refused

/-- The first variable, of those that are set once a settings file is taken in, that holds no number
of its range is at fault. If there is none, the configuration is checked that has all of them in
place, whatever it was with only some of them. A variable that was set before the file was taken in
gives its field, and a configuration that is returned is one to work with. -/
theorem environment_overrides (c : Config) {load : Environment → Environment} (keeps : Keeps load)
    (env : Environment) :
    ((load env).Scans numberVariables (c.withEnvironment load env) fun result =>
      ∃ d, c.Layered (load env) d ∧ (∀ d', c.Layered (load env) d' → d' = d) ∧
        (d.check = .ok () ∧ result = .ok d ∨ ∃ r, d.check = .error r ∧
          result = .error (.during "validating environment configuration" (.refusal r)))) ∧
    (∀ dir, (load env).find? "ORCHESTRATOR_STATE_DIR" = some dir →
      (FilePath.join dir "units.json").steps = FilePath.steps dir ++ [.name "units.json"] ∧
      (FilePath.join dir "checkpoints").steps = FilePath.steps dir ++ [.name "checkpoints"]) ∧
    ∀ d, c.withEnvironment load env = .ok d →
      (∀ v ∈ numberVariables, ∀ raw, env.find? v.key = some raw → Denotes raw.toList (v.field d)) ∧
      (∀ dir, env.find? "ORCHESTRATOR_STATE_DIR" = some dir →
        d.storage = .file (FilePath.join dir "units.json") (FilePath.join dir "checkpoints")) ∧
      d.limits.check = .ok () ∧ d.budget.budget =
        .ok ⟨d.budget.thresholds, d.budget.safetyMargin, d.budget.hardLimit⟩ := by
  refine ⟨?_, fun dir _ => ?_, fun d given => ?_⟩
  · refine (c.overriddenBy_scans _).imp_right fun ⟨filled, d, layered, checked⟩ => ?_
    exact ⟨filled, d, layered, fun d' layered' => layered'.unique layered, checked⟩
  · have units : FilePath.steps "units.json" = [.name "units.json"] :=
      FilePath.steps_name (by decide) (by decide) (by decide) (by decide)
    have checkpoints : FilePath.steps "checkpoints" = [.name "checkpoints"] :=
      FilePath.steps_name (by decide) (by decide) (by decide) (by decide)
    rw [FilePath.steps_join, FilePath.steps_join, units, checkpoints]
    exact ⟨rfl, rfl⟩
  · obtain ⟨layered, valid⟩ := layered_of_overriddenBy given
    refine ⟨fun v hv raw set => ?_, fun dir set => ?_, check_ok valid⟩
    · have gives := layered.numbers v hv
      rwa [Gives, keeps env v.key raw set] at gives
    · rw [layered.storage, keeps env _ dir set]
      rfl

/-- What a file loads that has a limit and a number of retries. -/
def loadTwo (env : Environment) : Environment :=
  (env.addMissing "ORCHESTRATOR_HARD_LIMIT" "7").addMissing "ORCHESTRATOR_MAX_RETRIES" "5"

/-- The limit is set before the file is taken in. -/
theorem environment_overrides_loaded :
    let env : Environment := .ofList [("ORCHESTRATOR_HARD_LIMIT", " +250000 ")]
    Keeps loadTwo ∧ ∃ d, Config.standard.withEnvironment loadTwo env = .ok d ∧
      d.maxRetries = 5 ∧ Denotes " +250000 ".toList d.budget.hardLimit.toNat ∧
      d.limits.check = .ok () := by
  intro env
  have keeps : Keeps loadTwo := fun env key value set =>
    keeps_addMissing _ _ _ key value (keeps_addMissing _ _ env key value set)
  have set : env.addMissing "ORCHESTRATOR_HARD_LIMIT" "7" = env := if_pos (by decide +kernel)
  have missing : env.addMissing "ORCHESTRATOR_MAX_RETRIES" "5" = .ofList
      [("ORCHESTRATOR_HARD_LIMIT", " +250000 "), ("ORCHESTRATOR_MAX_RETRIES", "5")] :=
    if_neg (by decide +kernel)
  have retries : (Config.standard.overriddenBy (.ofList
      [("ORCHESTRATOR_HARD_LIMIT", " +250000 "), ("ORCHESTRATOR_MAX_RETRIES", "5")])).toOption.map
        (·.maxRetries) = some 5 := by
    decide +kernel
  rw [← missing, ← set, ← loadTwo] at retries
  obtain ⟨d, read, retries⟩ := Option.map_eq_some_iff.1 retries
  have given : Config.standard.withEnvironment loadTwo env = .ok d := by
    cases h : Config.standard.overriddenBy (loadTwo env) with
    | error =>
        rw [h] at read
        cases read
    | ok =>
        rw [h] at read
        cases read
        exact h
  obtain ⟨_, _, returned⟩ := environment_overrides .standard keeps env
  obtain ⟨numbers, _, limits, _⟩ := returned d given
  refine ⟨keeps, d, given, retries, ?_, limits⟩
  exact numbers ⟨"ORCHESTRATOR_HARD_LIMIT", UInt64.size, (·.budget.hardLimit.toNat)⟩
    (by simp [numberVariables]) _ (by decide +kernel)

/-- Each of the first three alone would be above the threshold that follows it. -/
example : ((Config.standard.overriddenBy (.ofList [("ORCHESTRATOR_BUDGET_OPTIMAL", "150000"),
    ("ORCHESTRATOR_BUDGET_WARNING", " +160000 "), ("ORCHESTRATOR_BUDGET_SPLIT_TRIGGER", "170000"),
    ("ORCHESTRATOR_BUDGET_EMERGENCY", "175000")])).toOption.map (·.budget.thresholds)) =
      some ⟨150000, 160000, 170000, 175000⟩ := by
  decide +kernel

end Config

/-- The reader of settings files is such a loader. -/
theorem SettingsFile.keeps_load (content : String) : Environment.Keeps (load content) :=
  Environment.keeps_addLines _

end BuildAdmission

import FaceVec.Settings

/-!
`loadConfig`: the settings that a start may have, what of them the other
modules take for `Config`, and what the report of a failed start tells.
-/

namespace FaceVec.Settings

open Validation Http

variable (formats : Formats)

abbrev Environment := List (String × String)

namespace Environment

variable (environment : Environment)

def get (name : String) : Option String :=
  (environment.reverse.find? (·.1 == name)).map (·.2)

/-- `process.env`. -/
def processEnv : Json := .object (environment.map fun entry => (entry.1, .string entry.2))

def lookup (name : String) : Option Json := (environment.get name).map .string

theorem field_processEnv :
    Json.field (environment.map fun entry => (entry.1, Json.string entry.2)) =
      environment.lookup := by
  funext name
  rw [Json.field, ← List.map_reverse, List.find?_map, Option.map_map, lookup, get, Option.map_map]
  rfl

def ofLookup (names : List String) (get : String → Option String) : Environment :=
  names.filterMap fun name => (get name).map (name, ·)

theorem lookup_ofLookup (names : List String) (get : String → Option String) (name : String)
    (member : name ∈ names) :
    (ofLookup names get).lookup name = (get name).map .string := by
  rw [← field_fieldsOf names (fun name => (get name).map .string) name member,
    ← field_processEnv, ofLookup, fieldsOf, List.map_filterMap]
  congr 2
  funext name
  cases get name <;> rfl

theorem get_absent (name : String) (absent : ∀ entry ∈ environment, entry.1 ≠ name) :
    environment.get name = none := by
  rw [get, List.find?_eq_none.mpr fun entry member => ?_, Option.map_none]
  simpa using absent entry (List.mem_reverse.mp member)

theorem ofLookup_absent (names : List String) (get : String → Option String) (name : String)
    (absent : name ∉ names) : (ofLookup names get).get name = none := by
  refine get_absent _ name fun entry member => ?_
  obtain ⟨own, among, made⟩ := List.mem_filterMap.mp member
  obtain ⟨value, _, rfl⟩ := Option.map_eq_some_iff.mp made
  rintro rfl
  exact absent among

end Environment

/-- What `safeParse` has to say of an environment. -/
def issuesOf (environment : Environment) : List Issue :=
  (envSchema formats (some environment.processEnv)).issues

def report (issues : List Issue) : String :=
  "Invalid environment configuration:\n" ++ "\n".intercalate (issues.map fun issue =>
    "  - " ++ fieldOf issue.path ++ ": " ++ issue.message)

def loadConfig (environment : Environment) : Except String AppConfig :=
  match (envSchema formats (some environment.processEnv)).accepted with
  | .ok config => .ok config
  | .error issues => .error (report issues)

theorem parse_environment (environment : Environment) :
    envSchema formats (some environment.processEnv) = (env formats).read environment.lookup := by
  rw [← environment.field_processEnv]
  rfl

theorem load_ok (environment : Environment) (config : AppConfig) :
    loadConfig formats environment = .ok config ↔
      (env formats).read environment.lookup = .done config [] := by
  rw [← parse_environment, ← Parsed.accepted_ok, loadConfig]
  cases (envSchema formats (some environment.processEnv)).accepted <;> simp

theorem load_error (environment : Environment) (text : String)
    (refused : loadConfig formats environment = .error text) :
    text = report (issuesOf formats environment) := by
  unfold loadConfig at refused
  cases verdict : (envSchema formats (some environment.processEnv)).accepted with
  | ok config =>
      rw [verdict] at refused
      cases refused
  | error issues =>
      rw [verdict] at refused
      rw [issuesOf, ← (Parsed.accepted_error _ _ verdict).1]
      exact (Except.error.inj refused).symm

theorem load_refused (environment : Environment) (some_ : issuesOf formats environment ≠ []) :
    loadConfig formats environment = .error (report (issuesOf formats environment)) := by
  cases verdict : loadConfig formats environment with
  | error text => rw [load_error formats environment text verdict]
  | ok config =>
      have read := (load_ok formats environment config).mp verdict
      rw [issuesOf, parse_environment, read] at some_
      exact absurd rfl some_

/-- The settings of a start are those that fit, and each of them is that of some start. -/
theorem load_iff (config : AppConfig) :
    (∃ environment, loadConfig formats environment = .ok config) ↔ Fits formats config := by
  obtain ⟨spell, lawful⟩ := env_spells formats
  constructor
  · rintro ⟨environment, loaded⟩
    exact lawful.sound _ config ((load_ok formats environment config).mp loaded)
  · intro fits
    refine ⟨.ofLookup (env formats).keys (spell config), (load_ok formats _ config).mpr ?_⟩
    rw [lawful.declared _ (fun name => (spell config name).map .string)
      fun name member => Environment.lookup_ofLookup _ _ name member]
    exact lawful.complete config fits

/-- What the other modules know of the settings. -/
def AppConfig.config (settings : AppConfig) : Config where
  JWT_ACCESS_TTL := settings.JWT_ACCESS_TTL
  JWT_REFRESH_TTL := settings.JWT_REFRESH_TTL
  OUTBOX_BATCH_SIZE := settings.OUTBOX_BATCH_SIZE.val
  OUTBOX_MAX_ATTEMPTS := settings.OUTBOX_MAX_ATTEMPTS
  IDEMPOTENCY_TTL_SECONDS := settings.IDEMPOTENCY_TTL_SECONDS
  FACE_TASK_PREFETCH := settings.FACE_TASK_PREFETCH
  FACE_TASK_MAX_ATTEMPTS := settings.FACE_TASK_MAX_ATTEMPTS
  isProduction := settings.isProduction
  batchBound := settings.OUTBOX_BATCH_SIZE.property

def numbers (config : Config) : List ℕ+ :=
  [config.JWT_ACCESS_TTL, config.JWT_REFRESH_TTL, config.OUTBOX_BATCH_SIZE,
    config.OUTBOX_MAX_ATTEMPTS, config.IDEMPOTENCY_TTL_SECONDS, config.FACE_TASK_PREFETCH,
    config.FACE_TASK_MAX_ATTEMPTS]

/-- Settings around those of a `Config`. -/
def around (url : String) (small : UpTo 100) (config : Config) : AppConfig where
  NODE_ENV := if config.isProduction then .production else .development
  LOG_LEVEL := .info
  PORT := small.val
  DATABASE_URL := url
  REDIS_URL := none
  RABBITMQ_URL := none
  AI_INFERENCE_URL := none
  AI_INFERENCE_TIMEOUT_MS := small.val
  MAX_UPLOAD_BYTES := small.val
  JWT_ACCESS_SECRET := "0123456789abcdef"
  JWT_REFRESH_SECRET := "0123456789abcdef"
  JWT_ACCESS_TTL := config.JWT_ACCESS_TTL
  JWT_REFRESH_TTL := config.JWT_REFRESH_TTL
  CORS_ORIGINS := []
  FACE_MATCH_THRESHOLD := ⟨0, le_rfl, zero_le_one⟩
  OUTBOX_POLL_INTERVAL_MS := small.val
  OUTBOX_BATCH_SIZE := ⟨config.OUTBOX_BATCH_SIZE, config.batchBound⟩
  OUTBOX_MAX_ATTEMPTS := config.OUTBOX_MAX_ATTEMPTS
  IDEMPOTENCY_TTL_SECONDS := config.IDEMPOTENCY_TTL_SECONDS
  RATE_LIMIT_GLOBAL := small.val
  RATE_LIMIT_AUTH := small.val
  AI_BREAKER_TIMEOUT_MS := small.val
  AI_BREAKER_ERROR_THRESHOLD := small
  AI_BREAKER_RESET_MS := small.val
  AI_BREAKER_VOLUME_THRESHOLD := small.val
  FACE_TASK_PREFETCH := config.FACE_TASK_PREFETCH
  FACE_TASK_MAX_ATTEMPTS := config.FACE_TASK_MAX_ATTEMPTS
  FACE_TASK_RETRY_DELAY_MS := small.val

theorem around_config (url : String) (small : UpTo 100) (config : Config) :
    (around url small config).config = config := by
  obtain ⟨_, _, _, _, _, _, _, production, _⟩ := config
  cases production <;> rfl

theorem one_counts : Counts formats 1 := formats.doubles.small 1 (by decide)

theorem secret_long : 16 ≤ Text.length "0123456789abcdef" := by decide

theorem around_fits (small : UpTo 100) (counts : Counts formats small.val) (config : Config)
    (spelled : ∀ n ∈ numbers config, Counts formats n) :
    Fits formats (around formats.local_ small config) where
  database := formats.url_local
  urls url member := by
    have unset : url = none := by simpa [around] using member
    rw [unset]
    exact nofun
  access := secret_long
  refresh := secret_long
  origins := nofun
  threshold := ⟨"", rfl⟩
  counts := by
    simp only [numbers, List.forall_mem_cons] at spelled
    simp [AppConfig.counts, around, counts, spelled]

/-- Every `Config` is that of a start as long as its numbers are numbers of the language, and
no start has another. -/
theorem config_iff (config : Config) :
    (∃ environment settings, loadConfig formats environment = .ok settings ∧
      settings.config = config) ↔ ∀ n ∈ numbers config, Counts formats n := by
  constructor
  · rintro ⟨environment, settings, loaded, rfl⟩
    have counts := ((load_iff formats settings).mp ⟨environment, loaded⟩).counts
    intro n member
    refine counts n ?_
    revert member
    simp only [numbers, AppConfig.config, AppConfig.counts, List.mem_cons, List.not_mem_nil,
      or_false]
    tauto
  · intro spelled
    have fits := around_fits formats ⟨1, one_le⟩ (one_counts formats) config spelled
    obtain ⟨environment, loaded⟩ := (load_iff formats _).mpr fits
    exact ⟨environment, _, loaded, around_config formats.local_ _ config⟩

def Named (issues : List Issue) (name : String) : Prop :=
  ∃ issue ∈ issues, issue.path.head? = some (.key name)

theorem issuesOf_read (environment : Environment) :
    issuesOf formats environment = ((env formats).read environment.lookup).issues :=
  congrArg Parsed.issues (parse_environment formats environment)

/-- No named variable is as it was in an environment that can start. -/
theorem named_changed (environment other : Environment) (config : AppConfig)
    (loaded : loadConfig formats other = .ok config) (name : String)
    (named : Named (issuesOf formats environment) name) :
    other.get name ≠ environment.get name := by
  obtain ⟨spell, lawful⟩ := env_spells formats
  obtain ⟨own, separate⟩ := lawful.separate
  intro same
  rw [issuesOf_read] at named
  obtain ⟨issue, reported, about⟩ := named
  obtain ⟨key, declared, rest, path⟩ := lawful.named _ issue reported
  obtain rfl : key = name := by
    rw [path] at about
    simpa using about
  have silent : ((env formats).read other.lookup).issues = [] := by
    rw [(load_ok formats other config).mp loaded]
    rfl
  refine separate.reported environment.lookup key declared ⟨issue, reported, about⟩
    other.lookup ?_ silent
  rw [Environment.lookup, same, Environment.lookup]

/-- Some environment that can start differs in named variables only: a start of the least
settings lends them its own. -/
theorem named_enough (environment : Environment) :
    ∃ other config, loadConfig formats other = .ok config ∧
      ∀ name, other.get name = environment.get name ∨
        Named (issuesOf formats environment) name := by
  classical
  obtain ⟨spell, lawful⟩ := env_spells formats
  obtain ⟨own, separate⟩ := lawful.separate
  let start := around formats.local_ ⟨1, one_le⟩ Config.least
  have one := one_counts formats
  have fits : Fits formats start :=
    around_fits formats ⟨1, one_le⟩ one Config.least (by simp [numbers, Config.least, one])
  -- Named variables are spelled as in that start, and the others stay as they are.
  let names := (env formats).keys ++ environment.map (·.1)
  let other := Environment.ofLookup names fun name =>
    if Named (issuesOf formats environment) name then spell start name else environment.get name
  have looked : ∀ name ∈ names, other.lookup name =
      (if Named (issuesOf formats environment) name then spell start name
        else environment.get name).map .string :=
    fun name member => Environment.lookup_ofLookup _ _ name member
  have silent : ((env formats).read other.lookup).issues = [] := by
    apply separate.repaired environment.lookup fun name => (spell start name).map .string
    · rw [lawful.complete start fits]
      rfl
    · intro name member
      rw [looked name (List.mem_append_left _ member), ← issuesOf_read]
      by_cases named : Named (issuesOf formats environment) name
      · left
        rw [if_pos named]
      · right
        rw [if_neg named]
        exact ⟨rfl, named⟩
  obtain ⟨config, loaded⟩ := Parsed.issues_nil _ silent
  refine ⟨other, config, (load_ok formats other config).mpr loaded, fun name => ?_⟩
  by_cases named : Named (issuesOf formats environment) name
  · exact Or.inr named
  · left
    by_cases member : name ∈ names
    · have same := looked name member
      rw [if_neg named] at same
      exact Option.map_injective (fun _ _ equal => Json.string.inj equal) same
    · have unset : environment.get name = none := by
        refine environment.get_absent name fun entry stands own => member ?_
        exact List.mem_append_right _ (List.mem_map.mpr ⟨entry, stands, own⟩)
      rw [unset]
      exact Environment.ofLookup_absent names _ name member

/-- A failed start reports exactly the variables to change: none that is named may stay as it
is, and changes to the named ones are enough. -/
theorem report_exact (environment : Environment) (text : String)
    (refused : loadConfig formats environment = .error text) :
    text = report (issuesOf formats environment) ∧
      (∀ other config, loadConfig formats other = .ok config →
        ∀ name, Named (issuesOf formats environment) name →
          other.get name ≠ environment.get name) ∧
      ∃ other config, loadConfig formats other = .ok config ∧
        ∀ name, other.get name = environment.get name ∨
          Named (issuesOf formats environment) name := by
  exact ⟨load_error formats environment text refused,
    fun other config loaded name named =>
      named_changed formats environment other config loaded name named,
    named_enough formats environment⟩

/-- Formats that know one URL and round nothing. -/
def plain : Formats where
  url := (· == "postgresql://db")
  local_ := "postgresql://db"
  url_local := by decide
  doubles := Http.plain.doubles

/-- A compose file with an empty port and no secret for refresh tokens. -/
def incomplete : Environment :=
  [("DATABASE_URL", "postgresql://db"), ("PORT", ""), ("JWT_ACCESS_SECRET", "0123456789abcdef")]

theorem report_exact_incomplete :
    report (issuesOf plain incomplete) = "Invalid environment configuration:\n" ++
        "  - PORT: Number must be greater than 0\n  - JWT_REFRESH_SECRET: Required" ∧
      ∃ other config, loadConfig plain other = .ok config ∧
        ∀ name, other.get name = incomplete.get name ∨ Named (issuesOf plain incomplete) name :=
  ⟨by decide +kernel,
    (report_exact plain incomplete _ (load_refused plain incomplete (by decide +kernel))).2.2⟩

end FaceVec.Settings

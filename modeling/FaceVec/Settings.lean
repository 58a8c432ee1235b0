import FaceVec.Config
import FaceVec.Http.Validate

/-!
`config/env.ts`: the environment of the process against `envSchema`, the
settings it leads to and the report of a start that fails.
-/

namespace FaceVec.Settings

open Validation Numerals
open Http (natural natural_cast encodeWhole_isSome)

/-- What `new URL` takes for one, some text among them; and the rounding of numbers. -/
structure Formats where
  url : String → Bool
  local_ : String
  url_local : url local_ = true
  doubles : Doubles

variable (formats : Formats)

section Values

def positive (value : JsNumber) : List Issue :=
  let holds : Bool :=
    match value with
    | .finite value => 0 < value
    | .infinite negative => !negative
    | .nan => false
  if holds then [] else [⟨[], "too_small", "Number must be greater than 0"⟩]

theorem number_done (checks : List (JsNumber → List Issue)) (input : Option Json)
    (value : JsNumber) :
    number formats.doubles checks input = .done value [] ↔
      coerced formats.doubles input = value ∧ value ≠ .nan ∧ checks.flatMap (· value) = [] := by
  unfold number
  split
  · next undefined_ =>
      rw [undefined_]
      constructor
      · intro done_
        cases done_
      · rintro ⟨rfl, defined, _⟩
        exact absurd rfl defined
  · next own defined =>
      constructor
      · intro done_
        obtain ⟨rfl, silent⟩ := Parsed.done.inj done_
        exact ⟨rfl, defined, silent⟩
      · rintro ⟨rfl, _, silent⟩
        rw [silent]

/-- Of whole numbers the positive ones are those from one on. -/
theorem positive_iff (value : JsNumber) (rest : List Issue) :
    int value ++ (positive value ++ rest) = [] ↔ int value ++ (atLeast 1 value ++ rest) = [] := by
  cases value with
  | nan => simp [int]
  | infinite negative => simp [int]
  | finite value =>
      by_cases whole : value.isInt = true
      · have form : (value.num : ℚ) = value :=
          Rat.coe_int_num_of_den_eq_one (by simpa [Rat.isInt] using whole)
        have same : 0 < value ↔ 1 ≤ value := by
          rw [← form]
          exact_mod_cast Int.lt_iff_add_one_le
        simp [int, whole, positive, atLeast, same]
      · simp [int, whole]

/-- `z.coerce.number().int().positive()`, up to a bound where there is one. -/
def whole (max : Option ℕ) : Schema JsNumber :=
  number formats.doubles ([int, positive] ++ max.toList.map atMost)

theorem whole_lawful (max : Option ℕ) :
    Lawful (whole formats max) (Whole formats.doubles max) encodeWhole := by
  have lawful := Validation.whole_lawful formats.doubles max
  have same : ∀ input value, whole formats max input = .done value [] ↔
      number formats.doubles ([int, atLeast 1] ++ max.toList.map atMost) input
        = .done value [] := by
    intro input value
    rw [whole, number_done, number_done]
    simp only [List.cons_append, List.nil_append, List.flatMap_cons, positive_iff]
  exact
    { sound := fun input value done_ => lawful.sound input value ((same _ _).mp done_)
      complete := fun value fitting => (same _ _).mpr (lawful.complete value fitting) }

def toPositive (value : JsNumber) : ℕ+ := (natural value).toPNat'

def ofPositive (n : ℕ+) : JsNumber := .finite (n : ℕ)

theorem toPositive_ofPositive (n : ℕ+) : toPositive (ofPositive n) = n := by
  rw [toPositive, ofPositive, natural_cast, PNat.coe_toPNat']

theorem ofPositive_toPositive (max : Option ℕ) (value : JsNumber)
    (fitting : Whole formats.doubles max value) : ofPositive (toPositive value) = value := by
  obtain ⟨n, rfl, above, _⟩ := fitting
  have read : ((toPositive (.finite n) : ℕ+) : ℕ) = n := by
    rw [toPositive, natural_cast, Nat.toPNat'_coe]
    exact if_pos above
  rw [ofPositive, read]

def count (fallback : ℕ) : Schema ℕ+ :=
  withDefault (.number (toString fallback)) (mapped toPositive (whole formats none))

theorem count_lawful (fallback : ℕ) :
    Lawful (count formats fallback) (fun n => formats.doubles.Has (n : ℕ))
      fun n => encodeWhole (ofPositive n) := by
  apply withDefault_lawful _ _ fun n => encodeWhole_isSome _
  refine (mapped_lawful toPositive ofPositive (whole_lawful formats none) ?_).of_iff ?_
  · intro value fitting
    rw [ofPositive_toPositive formats none value fitting]
    exact ⟨fitting, rfl⟩
  · intro n
    refine ⟨fun has => ⟨⟨n, rfl, n.pos, by simp, has⟩, toPositive_ofPositive n⟩, ?_⟩
    rintro ⟨⟨m, same, _, _, has⟩, _⟩
    have value : ((n : ℕ) : ℚ) = m := by simpa [ofPositive] using same
    rwa [value]

abbrev UpTo (max : ℕ) : Type := {n : ℕ+ // n ≤ max.toPNat'}

/-- The settings that are counts up to a bound, which has been checked. -/
def toBounded (max : ℕ) (value : JsNumber) : UpTo max :=
  ⟨min (toPositive value) max.toPNat', min_le_right _ _⟩

theorem upTo_coe (max : ℕ) (some_ : 0 < max) (n : ℕ+) : n ≤ max.toPNat' ↔ (n : ℕ) ≤ max := by
  rw [← PNat.coe_le_coe, Nat.toPNat'_coe, if_pos some_]

theorem bounded_lawful (max : ℕ) (some_ : 0 < max) (fallback : Json) {schema : Schema JsNumber}
    (lawful : Lawful schema (Whole formats.doubles (some max)) encodeWhole) :
    Lawful (withDefault fallback (mapped (toBounded max) schema))
      (fun n => formats.doubles.Has (n.val : ℕ)) fun n => encodeWhole (ofPositive n.val) := by
  have there : ∀ n : UpTo max, toBounded max (ofPositive n.val) = n := by
    rintro ⟨n, below⟩
    simp only [toBounded, toPositive_ofPositive, min_eq_left below]
  apply withDefault_lawful _ _ fun n => encodeWhole_isSome _
  refine (mapped_lawful (toBounded max) (fun n => ofPositive n.val) lawful ?_).of_iff ?_
  · intro value fitting
    have below : toPositive value ≤ max.toPNat' := by
      obtain ⟨n, rfl, above, limited, _⟩ := fitting
      rw [upTo_coe max some_, toPositive, natural_cast, Nat.toPNat'_coe]
      exact (if_pos above).trans_le (limited max rfl)
    have same : ofPositive (toBounded max value).val = value := by
      simp only [toBounded, min_eq_left below]
      exact ofPositive_toPositive formats (some max) value fitting
    rw [same]
    exact ⟨fitting, rfl⟩
  · intro n
    refine ⟨fun has => ⟨⟨n.val, rfl, n.val.pos, ?_, has⟩, there n⟩, ?_⟩
    · rintro bound ⟨rfl⟩
      exact (upTo_coe _ some_ _).mp n.property
    · rintro ⟨⟨m, same, _, _, has⟩, _⟩
      have value : ((n.val : ℕ) : ℚ) = m := by simpa [ofPositive] using same
      rwa [value]

abbrev Share := {q : ℚ // 0 ≤ q ∧ q ≤ 1}

def finitePart : JsNumber → ℚ
  | .finite value => value
  | _ => 0

def toShare (value : JsNumber) : Share :=
  ⟨max 0 (min 1 (finitePart value)), le_max_left _ _, max_le zero_le_one (min_le_left _ _)⟩

/-- `z.coerce.number().min(0).max(1)`. -/
def share (fallback : String) : Schema Share :=
  withDefault (.number fallback)
    (mapped toShare (number formats.doubles [atLeast 0, atMost 1]))

def Spelled (value : ℚ) : Prop := ∃ text, toNumber formats.doubles text = .finite value

theorem coerced_spelled (input : Option Json) (value : ℚ)
    (read : coerced formats.doubles input = .finite value) : Spelled formats value := by
  have zero : Spelled formats 0 := ⟨"", rfl⟩
  unfold coerced at read
  split at read
  · cases read
  · cases read
    exact zero
  · next truth =>
      cases truth
      · cases read
        exact zero
      · cases read
        refine ⟨(1 : ℕ).repr, ?_⟩
        rw [toNumber_repr]
        exact_mod_cast has_natural formats.doubles 1 (by decide)
  · next literal => exact ⟨literal, read⟩
  · next text => exact ⟨text, read⟩
  · cases read
    exact zero
  · next text => exact ⟨text, read⟩
  · cases read
  · cases read

theorem bounds_silent (value : ℚ) :
    [atLeast 0, atMost 1].flatMap (· (.finite value)) = [] ↔ 0 ≤ value ∧ value ≤ 1 := by
  by_cases low : 0 ≤ value <;> by_cases high : value ≤ 1 <;> simp [atLeast, atMost, low, high]

noncomputable def shareText (value : Share) : String := by
  classical
  exact if spelled : Spelled formats value.val then spelled.choose else ""

theorem toShare_finite (value : Share) : toShare (.finite value.val) = value := by
  obtain ⟨number, low, high⟩ := value
  simp only [toShare, finitePart, min_eq_right high, max_eq_right low]

theorem share_lawful (fallback : String) :
    Lawful (share formats fallback) (fun value => Spelled formats value.val)
      fun value => some (.string (shareText formats value)) := by
  apply withDefault_lawful _ _ fun _ => rfl
  exact
    { sound := by
        intro input value done_
        obtain ⟨own, inner, rfl⟩ := Parsed.map_done _ _ _ done_
        obtain ⟨read, _, silent⟩ := (number_done formats _ _ _).mp inner
        cases own with
        | nan => simp [atLeast] at silent
        | infinite negative => cases negative <;> simp [atLeast, atMost] at silent
        | finite number =>
            have bounds := (bounds_silent number).mp silent
            have same := toShare_finite ⟨number, bounds⟩
            rw [same]
            exact coerced_spelled formats _ _ read
      complete := by
        intro value spelled
        have read : toNumber formats.doubles (shareText formats value) = .finite value.val := by
          simp only [shareText, dif_pos spelled]
          exact spelled.choose_spec
        have inner := (number_done formats [atLeast 0, atMost 1]
          (some (.string (shareText formats value))) _).mpr
            ⟨read, by rintro ⟨⟩, (bounds_silent value.val).mpr value.property⟩
        simp only [mapped, inner, Parsed.map, toShare_finite] }

/-- `value.split(',').map(trim).filter(Boolean)`. -/
def csv (text : String) : List String :=
  (((text.toList.splitOn ',').map fun piece => Text.trim (String.ofList piece)).filter (· ≠ ""))

structure Entry (text : String) : Prop where
  trimmed : Text.trim text = text
  nonempty : text ≠ ""
  single : ',' ∉ text.toList

def joined (entries : List String) : String :=
  String.ofList ([','].intercalate (entries.map String.toList))

theorem splitOn_avoids (separator : Char) (text : List Char) :
    ∀ piece ∈ text.splitOn separator, separator ∉ piece := by
  induction text with
  | nil => simp
  | cons head rest ih =>
      rw [List.splitOn_cons_eq_if_modifyHead]
      split
      · intro piece member
        rcases List.mem_cons.mp member with rfl | later
        · exact List.not_mem_nil
        · exact ih piece later
      · next other =>
          cases own : rest.splitOn separator with
          | nil => exact absurd own (List.splitOn_ne_nil _ _)
          | cons first more =>
              rw [own] at ih
              intro piece member
              rcases List.mem_cons.mp member with rfl | later
              · intro inside
                rcases List.mem_cons.mp inside with rfl | among
                · simp at other
                · exact ih first List.mem_cons_self among
              · exact ih piece (List.mem_cons_of_mem _ later)

theorem trim_avoids (c : Char) (text : List Char) (avoids : c ∉ text) :
    c ∉ (Text.trim (String.ofList text)).toList := by
  intro inside
  simp only [Text.trim, Text.trimmed, String.toList_ofList] at inside
  have suffix := (List.rdropWhile_prefix _ _).subset inside
  exact avoids ((List.dropWhile_suffix _).subset suffix)

theorem csv_entries (text : String) : ∀ entry ∈ csv text, Entry entry := by
  intro entry member
  obtain ⟨listed, nonempty⟩ := List.mem_filter.mp member
  obtain ⟨piece, among, rfl⟩ := List.mem_map.mp listed
  exact ⟨Text.trim_trim _, by simpa using nonempty,
    trim_avoids ',' piece (splitOn_avoids ',' _ piece among)⟩

theorem csv_joined (entries : List String) (sound : ∀ entry ∈ entries, Entry entry) :
    csv (joined entries) = entries := by
  cases entries with
  | nil => decide
  | cons head rest =>
      have apart : ∀ piece ∈ (head :: rest).map String.toList, ',' ∉ piece := by
        intro piece member
        obtain ⟨entry, listed, rfl⟩ := List.mem_map.mp member
        exact (sound entry listed).single
      have split : (joined (head :: rest)).toList.splitOn ',' = (head :: rest).map String.toList := by
        rw [joined, String.toList_ofList, List.splitOn_intercalate ',' apart (by simp)]
      rw [csv, split, List.map_map]
      have kept : (head :: rest).map ((fun piece => Text.trim (String.ofList piece)) ∘ String.toList)
          = head :: rest := by
        conv_rhs => rw [← List.map_id (head :: rest)]
        refine List.map_congr_left fun entry listed => ?_
        simp [(sound entry listed).trimmed]
      rw [kept, List.filter_eq_self]
      intro entry listed
      simpa using (sound entry listed).nonempty

/-- `csv`, with the default it has. -/
def origins (fallback : String) : Schema (List String) :=
  withDefault (.string fallback) (mapped csv (string []))

theorem origins_lawful (fallback : String) :
    Lawful (origins fallback) (fun entries => ∀ entry ∈ entries, Entry entry)
      fun entries => some (.string (joined entries)) := by
  apply withDefault_lawful _ _ fun _ => rfl
  have plain : Lawful (string []) (fun _ => True) fun text => some (.string text) :=
    string_lawful [] _ (fun _ _ _ => trivial) fun _ _ => rfl
  refine (mapped_lawful csv joined plain fun text _ => ⟨trivial, ?_⟩).of_iff fun entries => ?_
  · exact csv_joined _ (csv_entries text)
  · constructor
    · exact fun sound => ⟨trivial, csv_joined entries sound⟩
    · rintro ⟨_, same⟩
      rw [← same]
      exact csv_entries _

end Values

section Texts

def urlText : Schema String := string [test formats.url "invalid_string" "Invalid url"]

def secret (name : String) : Schema String :=
  string [minLength 16 (name ++ " must be at least 16 characters")]

theorem urlText_lawful :
    Lawful (urlText formats) (fun text => formats.url text = true)
      fun text => some (.string text) := by
  apply string_lawful
  · intro text value passed
    rw [checkAll_test, checkAll_nil] at passed
    exact passed.2 ▸ passed.1
  · intro text known
    rw [checkAll_test, checkAll_nil]
    exact ⟨known, rfl⟩

theorem secret_lawful (name : String) :
    Lawful (secret name) (fun text => 16 ≤ Text.length text) fun text => some (.string text) := by
  apply string_lawful
  · intro text value passed
    rw [checkAll_minLength, checkAll_nil] at passed
    exact passed.2 ▸ passed.1
  · intro text long
    rw [checkAll_minLength, checkAll_nil]
    exact ⟨long, rfl⟩

inductive NodeEnv where
  | development | production | test
  deriving DecidableEq, Repr

inductive LogLevel where
  | fatal | error | warn | info | debug | trace | silent
  deriving DecidableEq, Repr

def nodeEnvs : List (String × NodeEnv) :=
  [("development", .development), ("production", .production), ("test", .test)]

def logLevels : List (String × LogLevel) :=
  [("fatal", .fatal), ("error", .error), ("warn", .warn), ("info", .info), ("debug", .debug),
    ("trace", .trace), ("silent", .silent)]

def NodeEnv.name : NodeEnv → String
  | development => "development"
  | production => "production"
  | test => "test"

def LogLevel.name : LogLevel → String
  | fatal => "fatal"
  | error => "error"
  | warn => "warn"
  | info => "info"
  | debug => "debug"
  | trace => "trace"
  | silent => "silent"

theorem nodeEnv_lawful :
    Lawful (withDefault (.string "development") (oneOf nodeEnvs)) (fun _ => True)
      fun value => some (.string value.name) :=
  withDefault_lawful _
    (oneOf_lawful nodeEnvs _ fun value => by cases value <;> exact ⟨_, rfl, rfl⟩) fun _ => rfl

theorem logLevel_lawful :
    Lawful (withDefault (.string "info") (oneOf logLevels)) (fun _ => True)
      fun value => some (.string value.name) :=
  withDefault_lawful _
    (oneOf_lawful logLevels _ fun value => by cases value <;> exact ⟨_, rfl, rfl⟩) fun _ => rfl

end Texts

section Schema

/-! `envSchema`, in its order. -/

structure Runtime where
  NODE_ENV : NodeEnv
  LOG_LEVEL : LogLevel
  PORT : ℕ+

structure Connections where
  DATABASE_URL : String
  REDIS_URL : Option String
  RABBITMQ_URL : Option String
  AI_INFERENCE_URL : Option String
  AI_INFERENCE_TIMEOUT_MS : ℕ+
  MAX_UPLOAD_BYTES : ℕ+

structure Security where
  JWT_ACCESS_SECRET : String
  JWT_REFRESH_SECRET : String
  JWT_ACCESS_TTL : ℕ+
  JWT_REFRESH_TTL : ℕ+
  CORS_ORIGINS : List String
  FACE_MATCH_THRESHOLD : Share

structure Tuning where
  OUTBOX_POLL_INTERVAL_MS : ℕ+
  OUTBOX_BATCH_SIZE : UpTo 500
  OUTBOX_MAX_ATTEMPTS : ℕ+
  IDEMPOTENCY_TTL_SECONDS : ℕ+
  RATE_LIMIT_GLOBAL : ℕ+
  RATE_LIMIT_AUTH : ℕ+

structure Breaker where
  AI_BREAKER_TIMEOUT_MS : ℕ+
  AI_BREAKER_ERROR_THRESHOLD : UpTo 100
  AI_BREAKER_RESET_MS : ℕ+
  AI_BREAKER_VOLUME_THRESHOLD : ℕ+

structure FaceTasks where
  FACE_TASK_PREFETCH : ℕ+
  FACE_TASK_MAX_ATTEMPTS : ℕ+
  FACE_TASK_RETRY_DELAY_MS : ℕ+

structure AppConfig extends Runtime, Connections, Security, Tuning, Breaker, FaceTasks

def AppConfig.isProduction (config : AppConfig) : Bool := config.NODE_ENV = .production

def runtimeShape : Shape (NodeEnv × LogLevel × ℕ+) :=
  (field "NODE_ENV" (withDefault (.string "development") (oneOf nodeEnvs))).both
    ((field "LOG_LEVEL" (withDefault (.string "info") (oneOf logLevels))).both
      (field "PORT" (count formats 8080)))

def runtime : Shape Runtime := (runtimeShape formats).mapped fun t => ⟨t.1, t.2.1, t.2.2⟩

def connectionsShape :
    Shape (String × Option String × Option String × Option String × ℕ+ × ℕ+) :=
  (field "DATABASE_URL" (urlText formats)).both
    ((field "REDIS_URL" (optional (urlText formats))).both
      ((field "RABBITMQ_URL" (optional (urlText formats))).both
        ((field "AI_INFERENCE_URL" (optional (urlText formats))).both
          ((field "AI_INFERENCE_TIMEOUT_MS" (count formats 8000)).both
            (field "MAX_UPLOAD_BYTES" (count formats (10 * 1024 * 1024)))))))

def connections : Shape Connections :=
  (connectionsShape formats).mapped fun t => ⟨t.1, t.2.1, t.2.2.1, t.2.2.2.1, t.2.2.2.2.1, t.2.2.2.2.2⟩

def securityShape : Shape (String × String × ℕ+ × ℕ+ × List String × Share) :=
  (field "JWT_ACCESS_SECRET" (secret "JWT_ACCESS_SECRET")).both
    ((field "JWT_REFRESH_SECRET" (secret "JWT_REFRESH_SECRET")).both
      ((field "JWT_ACCESS_TTL" (count formats 900)).both
        ((field "JWT_REFRESH_TTL" (count formats 1209600)).both
          ((field "CORS_ORIGINS" (origins "http://localhost:3000")).both
            (field "FACE_MATCH_THRESHOLD" (share formats "0.75"))))))

def security : Shape Security :=
  (securityShape formats).mapped fun t => ⟨t.1, t.2.1, t.2.2.1, t.2.2.2.1, t.2.2.2.2.1, t.2.2.2.2.2⟩

def tuningShape : Shape (ℕ+ × UpTo 500 × ℕ+ × ℕ+ × ℕ+ × ℕ+) :=
  (field "OUTBOX_POLL_INTERVAL_MS" (count formats 1000)).both
    ((field "OUTBOX_BATCH_SIZE" (withDefault (.number "50")
        (mapped (toBounded 500) (whole formats (some 500))))).both
      ((field "OUTBOX_MAX_ATTEMPTS" (count formats 10)).both
        ((field "IDEMPOTENCY_TTL_SECONDS" (count formats 86400)).both
          ((field "RATE_LIMIT_GLOBAL" (count formats 120)).both
            (field "RATE_LIMIT_AUTH" (count formats 10))))))

def tuning : Shape Tuning :=
  (tuningShape formats).mapped fun t => ⟨t.1, t.2.1, t.2.2.1, t.2.2.2.1, t.2.2.2.2.1, t.2.2.2.2.2⟩

def breakerShape : Shape (ℕ+ × UpTo 100 × ℕ+ × ℕ+) :=
  (field "AI_BREAKER_TIMEOUT_MS" (count formats 10000)).both
    ((field "AI_BREAKER_ERROR_THRESHOLD" (withDefault (.number "50")
        (mapped (toBounded 100) (number formats.doubles [int, atLeast 1, atMost 100])))).both
      ((field "AI_BREAKER_RESET_MS" (count formats 15000)).both
        (field "AI_BREAKER_VOLUME_THRESHOLD" (count formats 3))))

def breaker : Shape Breaker :=
  (breakerShape formats).mapped fun t => ⟨t.1, t.2.1, t.2.2.1, t.2.2.2⟩

def faceTasksShape : Shape (ℕ+ × ℕ+ × ℕ+) :=
  (field "FACE_TASK_PREFETCH" (count formats 4)).both
    ((field "FACE_TASK_MAX_ATTEMPTS" (count formats 5)).both
      (field "FACE_TASK_RETRY_DELAY_MS" (count formats 10000)))

def faceTasks : Shape FaceTasks := (faceTasksShape formats).mapped fun t => ⟨t.1, t.2.1, t.2.2⟩

def env : Shape AppConfig :=
  ((runtime formats).both ((connections formats).both ((security formats).both
    ((tuning formats).both ((breaker formats).both (faceTasks formats)))))).mapped
      fun t => ⟨t.1, t.2.1, t.2.2.1, t.2.2.2.1, t.2.2.2.2.1, t.2.2.2.2.2⟩

def envSchema : Schema AppConfig := object (env formats)

theorem runtime_keys : (runtime formats).keys = ["NODE_ENV", "LOG_LEVEL", "PORT"] := rfl

theorem connections_keys :
    (connections formats).keys = ["DATABASE_URL", "REDIS_URL", "RABBITMQ_URL",
      "AI_INFERENCE_URL", "AI_INFERENCE_TIMEOUT_MS", "MAX_UPLOAD_BYTES"] := rfl

theorem security_keys :
    (security formats).keys = ["JWT_ACCESS_SECRET", "JWT_REFRESH_SECRET", "JWT_ACCESS_TTL",
      "JWT_REFRESH_TTL", "CORS_ORIGINS", "FACE_MATCH_THRESHOLD"] := rfl

theorem tuning_keys :
    (tuning formats).keys = ["OUTBOX_POLL_INTERVAL_MS", "OUTBOX_BATCH_SIZE",
      "OUTBOX_MAX_ATTEMPTS", "IDEMPOTENCY_TTL_SECONDS", "RATE_LIMIT_GLOBAL",
      "RATE_LIMIT_AUTH"] := rfl

theorem breaker_keys :
    (breaker formats).keys = ["AI_BREAKER_TIMEOUT_MS", "AI_BREAKER_ERROR_THRESHOLD",
      "AI_BREAKER_RESET_MS", "AI_BREAKER_VOLUME_THRESHOLD"] := rfl

theorem faceTasks_keys :
    (faceTasks formats).keys = ["FACE_TASK_PREFETCH", "FACE_TASK_MAX_ATTEMPTS",
      "FACE_TASK_RETRY_DELAY_MS"] := rfl

end Schema

section Spelling

variable {α β : Type}

/-- A shape whose values an environment spells. -/
def Spells (shape : Shape α) (fits : α → Prop) : Prop :=
  ∃ spell : α → String → Option String,
    LawfulShape shape fits fun value key => (spell value key).map .string

theorem Spells.field (key : String) {schema : Schema α} {fits : α → Prop}
    (spell : α → Option String) (lawful : Lawful schema fits fun value => (spell value).map .string) :
    Spells (Validation.field key schema) fits :=
  ⟨fun value _ => spell value, field_lawful key lawful⟩

theorem Spells.both {one : Shape α} {other : Shape β} {fits : α → Prop} {fits' : β → Prop}
    (first : Spells one fits) (second : Spells other fits')
    (apart : ∀ key ∈ other.keys, key ∉ one.keys) :
    Spells (one.both other) fun value => fits value.1 ∧ fits' value.2 := by
  obtain ⟨spell, lawful⟩ := first
  obtain ⟨spell', lawful'⟩ := second
  refine ⟨fun value key => if key ∈ one.keys then spell value.1 key else spell' value.2 key, ?_⟩
  have same : (fun (value : α × β) key => (if key ∈ one.keys then spell value.1 key
      else spell' value.2 key).map Json.string) = encodeBoth one
        (fun value key => (spell value key).map .string)
        fun value key => (spell' value key).map .string := by
    funext value key
    unfold encodeBoth
    split <;> rfl
  rw [same]
  exact both_lawful lawful lawful' apart

theorem Spells.record {shape : Shape α} {fits : α → Prop} (spells : Spells shape fits)
    (change : α → β) (back : β → α) (there : ∀ value, back (change value) = value)
    (here : ∀ value, change (back value) = value) :
    Spells (shape.mapped change) fun value => fits (back value) := by
  obtain ⟨spell, lawful⟩ := spells
  refine ⟨fun value => spell (back value),
    (mappedShape_lawful change back lawful fun value fitting => ?_).of_iff fun value => ?_⟩
  · rw [there]
    exact ⟨fitting, rfl⟩
  · simp [here]

theorem Spells.of_iff {shape : Shape α} {fits other : α → Prop} (spells : Spells shape fits)
    (same : ∀ value, other value ↔ fits value) : Spells shape other := by
  obtain ⟨spell, lawful⟩ := spells
  exact ⟨spell, lawful.of_iff same⟩

end Spelling

section Reading

def Counts (n : ℕ+) : Prop := formats.doubles.Has ((n : ℕ) : ℚ)

/-- A URL, where there is one. -/
def Located (url : Option String) : Prop := ∀ text ∈ url, formats.url text = true

def digits (n : ℕ+) : String := (natural (ofPositive n)).repr

theorem count_spells (key : String) (fallback : ℕ) :
    Spells (field key (count formats fallback)) (Counts formats) :=
  .field key (fun n => some (digits n)) (count_lawful formats fallback)

theorem bounded_spells (key : String) (max : ℕ) (some_ : 0 < max) (fallback : Json) {schema : Schema JsNumber}
    (lawful : Lawful schema (Whole formats.doubles (some max)) encodeWhole) :
    Spells (field key (withDefault fallback (mapped (toBounded max) schema)))
      fun n => Counts formats n.val :=
  .field key (fun n => some (digits n.val)) (bounded_lawful formats max some_ fallback lawful)

theorem text_spells (key : String) {schema : Schema String} {fits : String → Prop}
    (lawful : Lawful schema fits fun text => some (.string text)) :
    Spells (field key schema) fits :=
  .field key some lawful

theorem located_spells (key : String) :
    Spells (field key (optional (urlText formats))) (Located formats) := by
  have lawful := optional_lawful (urlText_lawful formats) fun _ => rfl
  refine .field key (fun url => url) (lawful.encoded fun url => ?_)
  cases url <;> rfl

theorem runtime_spells : Spells (runtime formats) fun r => Counts formats r.PORT := by
  have fields : Spells (runtimeShape formats) _ :=
    (Spells.field _ (fun value => some value.name) nodeEnv_lawful).both
      ((Spells.field _ (fun value => some value.name) logLevel_lawful).both
        (count_spells formats _ 8080) (by simp [field]))
      (by simp [field, Shape.both])
  refine (fields.record _ (fun r => (r.NODE_ENV, r.LOG_LEVEL, r.PORT)) (fun _ => rfl)
    fun _ => rfl).of_iff fun r => ?_
  simp

theorem connections_spells :
    Spells (connections formats) fun r => formats.url r.DATABASE_URL = true ∧
      Located formats r.REDIS_URL ∧ Located formats r.RABBITMQ_URL ∧
      Located formats r.AI_INFERENCE_URL ∧ Counts formats r.AI_INFERENCE_TIMEOUT_MS ∧
      Counts formats r.MAX_UPLOAD_BYTES := by
  have fields : Spells (connectionsShape formats) _ :=
    (text_spells _ (urlText_lawful formats)).both
      ((located_spells formats _).both
        ((located_spells formats _).both
          ((located_spells formats _).both
            ((count_spells formats _ 8000).both (count_spells formats _ _) (by simp [field]))
            (by simp [field, Shape.both]))
          (by simp [field, Shape.both]))
        (by simp [field, Shape.both]))
      (by simp [field, Shape.both])
  exact fields.record _
    (fun r : Connections => (r.DATABASE_URL, r.REDIS_URL, r.RABBITMQ_URL, r.AI_INFERENCE_URL,
      r.AI_INFERENCE_TIMEOUT_MS, r.MAX_UPLOAD_BYTES)) (fun _ => rfl) fun _ => rfl

theorem security_spells :
    Spells (security formats) fun r => 16 ≤ Text.length r.JWT_ACCESS_SECRET ∧
      16 ≤ Text.length r.JWT_REFRESH_SECRET ∧ Counts formats r.JWT_ACCESS_TTL ∧
      Counts formats r.JWT_REFRESH_TTL ∧ (∀ entry ∈ r.CORS_ORIGINS, Entry entry) ∧
      Spelled formats r.FACE_MATCH_THRESHOLD.val := by
  have fields : Spells (securityShape formats) _ :=
    (text_spells _ (secret_lawful _)).both
      ((text_spells _ (secret_lawful _)).both
        ((count_spells formats _ 900).both
          ((count_spells formats _ 1209600).both
            ((Spells.field _ (fun entries => some (joined entries)) (origins_lawful _)).both
              (.field _ (fun value => some (shareText formats value)) (share_lawful formats _))
              (by simp [field]))
            (by simp [field, Shape.both]))
          (by simp [field, Shape.both]))
        (by simp [field, Shape.both]))
      (by simp [field, Shape.both])
  exact fields.record _
    (fun r : Security => (r.JWT_ACCESS_SECRET, r.JWT_REFRESH_SECRET, r.JWT_ACCESS_TTL,
      r.JWT_REFRESH_TTL, r.CORS_ORIGINS, r.FACE_MATCH_THRESHOLD)) (fun _ => rfl) fun _ => rfl

theorem tuning_spells :
    Spells (tuning formats) fun r => Counts formats r.OUTBOX_POLL_INTERVAL_MS ∧
      Counts formats r.OUTBOX_BATCH_SIZE.val ∧ Counts formats r.OUTBOX_MAX_ATTEMPTS ∧
      Counts formats r.IDEMPOTENCY_TTL_SECONDS ∧ Counts formats r.RATE_LIMIT_GLOBAL ∧
      Counts formats r.RATE_LIMIT_AUTH := by
  have fields : Spells (tuningShape formats) _ :=
    (count_spells formats _ 1000).both
      ((bounded_spells formats _ 500 (by decide) _ (whole_lawful formats (some 500))).both
        ((count_spells formats _ 10).both
          ((count_spells formats _ 86400).both
            ((count_spells formats _ 120).both (count_spells formats _ 10) (by simp [field]))
            (by simp [field, Shape.both]))
          (by simp [field, Shape.both]))
        (by simp [field, Shape.both]))
      (by simp [field, Shape.both])
  exact fields.record _
    (fun r : Tuning => (r.OUTBOX_POLL_INTERVAL_MS, r.OUTBOX_BATCH_SIZE, r.OUTBOX_MAX_ATTEMPTS,
      r.IDEMPOTENCY_TTL_SECONDS, r.RATE_LIMIT_GLOBAL, r.RATE_LIMIT_AUTH)) (fun _ => rfl)
    fun _ => rfl

theorem breaker_spells :
    Spells (breaker formats) fun r => Counts formats r.AI_BREAKER_TIMEOUT_MS ∧
      Counts formats r.AI_BREAKER_ERROR_THRESHOLD.val ∧ Counts formats r.AI_BREAKER_RESET_MS ∧
      Counts formats r.AI_BREAKER_VOLUME_THRESHOLD := by
  have percent := Validation.whole_lawful formats.doubles (some 100)
  have fields : Spells (breakerShape formats) _ :=
    (count_spells formats _ 10000).both
      ((bounded_spells formats _ 100 (by decide) _ percent).both
        ((count_spells formats _ 15000).both (count_spells formats _ 3) (by simp [field]))
        (by simp [field, Shape.both]))
      (by simp [field, Shape.both])
  exact fields.record _
    (fun r : Breaker => (r.AI_BREAKER_TIMEOUT_MS, r.AI_BREAKER_ERROR_THRESHOLD,
      r.AI_BREAKER_RESET_MS, r.AI_BREAKER_VOLUME_THRESHOLD)) (fun _ => rfl) fun _ => rfl

theorem faceTasks_spells :
    Spells (faceTasks formats) fun r => Counts formats r.FACE_TASK_PREFETCH ∧
      Counts formats r.FACE_TASK_MAX_ATTEMPTS ∧ Counts formats r.FACE_TASK_RETRY_DELAY_MS := by
  have fields : Spells (faceTasksShape formats) _ :=
    (count_spells formats _ 4).both
      ((count_spells formats _ 5).both (count_spells formats _ 10000) (by simp [field]))
      (by simp [field, Shape.both])
  exact fields.record _
    (fun r : FaceTasks => (r.FACE_TASK_PREFETCH, r.FACE_TASK_MAX_ATTEMPTS,
      r.FACE_TASK_RETRY_DELAY_MS)) (fun _ => rfl) fun _ => rfl

def AppConfig.counts (config : AppConfig) : List ℕ+ :=
  [config.PORT, config.AI_INFERENCE_TIMEOUT_MS, config.MAX_UPLOAD_BYTES, config.JWT_ACCESS_TTL,
    config.JWT_REFRESH_TTL, config.OUTBOX_POLL_INTERVAL_MS, config.OUTBOX_BATCH_SIZE,
    config.OUTBOX_MAX_ATTEMPTS, config.IDEMPOTENCY_TTL_SECONDS, config.RATE_LIMIT_GLOBAL,
    config.RATE_LIMIT_AUTH, config.AI_BREAKER_TIMEOUT_MS, config.AI_BREAKER_ERROR_THRESHOLD,
    config.AI_BREAKER_RESET_MS, config.AI_BREAKER_VOLUME_THRESHOLD, config.FACE_TASK_PREFETCH,
    config.FACE_TASK_MAX_ATTEMPTS, config.FACE_TASK_RETRY_DELAY_MS]

/-- The settings that some environment spells. -/
structure Fits (config : AppConfig) : Prop where
  database : formats.url config.DATABASE_URL = true
  urls : ∀ url ∈ [config.REDIS_URL, config.RABBITMQ_URL, config.AI_INFERENCE_URL],
    Located formats url
  access : 16 ≤ Text.length config.JWT_ACCESS_SECRET
  refresh : 16 ≤ Text.length config.JWT_REFRESH_SECRET
  origins : ∀ entry ∈ config.CORS_ORIGINS, Entry entry
  threshold : Spelled formats config.FACE_MATCH_THRESHOLD.val
  counts : ∀ n ∈ config.counts, Counts formats n

theorem env_spells : Spells (env formats) (Fits formats) := by
  have groups :=
    (runtime_spells formats).both
      ((connections_spells formats).both
        ((security_spells formats).both
          ((tuning_spells formats).both
            ((breaker_spells formats).both (faceTasks_spells formats)
              (by simp [breaker_keys, faceTasks_keys]))
            (by simp [Shape.both, tuning_keys, breaker_keys, faceTasks_keys]))
          (by simp [Shape.both, security_keys, tuning_keys, breaker_keys, faceTasks_keys]))
        (by simp [Shape.both, connections_keys, security_keys, tuning_keys, breaker_keys,
          faceTasks_keys]))
      (by simp [Shape.both, runtime_keys, connections_keys, security_keys, tuning_keys,
        breaker_keys, faceTasks_keys])
  refine (groups.record _
    (fun c : AppConfig => (c.toRuntime, c.toConnections, c.toSecurity, c.toTuning, c.toBreaker,
      c.toFaceTasks)) (fun _ => rfl) fun _ => rfl).of_iff fun config => ?_
  constructor
  · rintro ⟨database, urls, access, refresh, origins, threshold, counts⟩
    simp only [AppConfig.counts, List.forall_mem_cons] at urls counts
    tauto
  · rintro ⟨port, ⟨database, redis, rabbit, inference, timeout, upload⟩,
      ⟨access, refresh, accessTtl, refreshTtl, origins, threshold⟩,
      ⟨poll, batch, attempts, ttl, global, auth⟩, ⟨patience, percent, reset, volume⟩,
      prefetch, tries, delay⟩
    refine ⟨database, by simp [*], access, refresh, origins, threshold, ?_⟩
    simp [AppConfig.counts, *]

end Reading

end FaceVec.Settings

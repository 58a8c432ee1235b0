import FaceVec.Http.Dispatch

/-!
`app.ts` and `middleware/upload.ts`: what a request carries before the routers
see it. `express.json` stands in front of all of them, and multer reads the form
of a route that takes an image. What either of them refuses goes to the error
handler. The rate limiters, which may answer in their place, are left out.
-/

namespace FaceVec.Http

open Faces

/-- `'1mb'`. -/
def jsonLimit : ℕ := 1048576

/-- Where multer cuts a file off; one of just the limit may fall on either side. -/
structure Multer where
  exceeds : (limit size : ℕ) → Bool
  below : ∀ limit size, size < limit → exceeds limit size = false
  above : ∀ limit size, limit < size → exceeds limit size = true

inductive Content where
  /-- No body, or one of a type that nobody reads. -/
  | nothing
  /-- `application/json` in UTF-8, without its compression. -/
  | json (text : List Char)
  /-- `multipart/form-data`: its files under the names of their fields. -/
  | form (files : List (String × UploadedImage))

/-- A request under `/api/v1`, its path without a slash at the end. -/
structure Arriving where
  method : Method
  path : List String
  query : List (String × Json)
  content : Content

/-- Neither is an error that the handler knows: both become a 500. -/
def tooLarge : Failure := .other "request entity too large"

def malformed : Failure := .other "Unexpected token in JSON"

/-- `express.json({ limit: '1mb' })`, which takes objects and arrays only. -/
def expressJson : Content → Except Failure (Option Json)
  | .json text =>
      if jsonLimit < Json.byteLength text then .error tooLarge
      else if text = [] then .ok (some (.object []))
      else
        match (Json.skip text).head?, Json.parse text with
        | some first, some value =>
            if first = '\x7b' ∨ first = '[' then .ok (some value) else .error malformed
        | _, _ => .error malformed
  | _ => .ok none

variable (multer : Multer) (MAX_UPLOAD_BYTES : ℕ)

/-- `imageUpload.single('image')`. -/
def imageUpload : Content → Except Failure (Option UploadedImage)
  | .form ((field, file) :: rest) =>
      if field ≠ "image" then .error (.multer false "Unexpected field")
      else if (Text.after "image/" file.mimetype).isNone then
        .error (.http (badRequestError "Only image uploads are accepted"))
      else if multer.exceeds MAX_UPLOAD_BYTES file.buffer.length then
        .error (.multer true "File too large")
      else if rest ≠ [] then .error (.multer false "Too many files")
      else .ok (some file)
  | _ => .ok none

/-- What the application does with a request for its API. -/
def createApp (formats : Formats) (auth : Except Failure AuthContext) (request : Arriving) :
    Outcome :=
  match expressJson request.content with
  | .error failure => .denied failure
  | .ok body =>
      dispatch formats auth
        ⟨request.method, request.path, body, request.query,
          imageUpload multer MAX_UPLOAD_BYTES request.content⟩

section Images

/-- The images that pass for certain are smaller than the limit; none is larger. -/
theorem imageUpload_ok (content : Content) (file : UploadedImage)
    (passed : imageUpload multer MAX_UPLOAD_BYTES content = .ok (some file)) :
    content = .form [("image", file)] ∧ (Text.after "image/" file.mimetype).isSome ∧
      file.buffer.length ≤ MAX_UPLOAD_BYTES := by
  unfold imageUpload at passed
  split at passed
  · next field own rest =>
      split at passed
      · cases passed
      next named =>
      split at passed
      · cases passed
      next image =>
      split at passed
      · cases passed
      next small =>
      split at passed
      · cases passed
      next alone =>
      cases passed
      refine ⟨by rw [not_not.mp named, not_not.mp alone], ?_, ?_⟩
      · simpa [Option.isSome_iff_ne_none] using image
      · by_contra large
        exact small (multer.above _ _ (Nat.lt_of_not_le large))
  · cases passed

theorem imageUpload_pass (file : UploadedImage)
    (image : (Text.after "image/" file.mimetype).isSome)
    (small : file.buffer.length < MAX_UPLOAD_BYTES) :
    imageUpload multer MAX_UPLOAD_BYTES (.form [("image", file)]) = .ok (some file) := by
  have some_ : (Text.after "image/" file.mimetype).isNone = false := by
    rw [Option.isNone_eq_false_iff]
    exact image
  simp [imageUpload, some_, multer.below _ _ small]

end Images

section Bodies

/-- The text of an object within the limit is read as this object. -/
theorem expressJson_object (fields : List (String × Json))
    (numeric : (Json.object fields).Numeric)
    (small : Json.byteLength (Json.stringify (.object fields)) ≤ jsonLimit) :
    expressJson (.json (Json.stringify (.object fields))) = .ok (some (.object fields)) := by
  have front : ∃ rest, Json.stringify (.object fields) = '\x7b' :: rest := by
    match fields with
    | [] | (_, _) :: _ => exact ⟨_, by rw [Json.stringify]⟩
  obtain ⟨rest, front⟩ := front
  have read := Json.parse_stringify _ numeric
  rw [front] at read small ⊢
  simp [expressJson, Nat.not_lt.mpr small, read, Json.skip_cons '\x7b' rest (by decide)]

theorem expressJson_small (text : List Char) (body : Option Json)
    (passed : expressJson (.json text) = .ok body) : Json.byteLength text ≤ jsonLimit := by
  by_contra large
  simp [expressJson, Nat.lt_of_not_le large] at passed

variable (formats : Formats)

theorem rowBody_numeric (row : BulkImportRow) : (rowBody row).Numeric :=
  record_numeric _ (by simp [textOf_wordy, bind_wordy])

theorem rows_wordy (rows : List BulkImportRow) : Wordy (some (.array (rows.map rowBody))) := by
  rintro _ ⟨⟩
  induction rows with
  | nil => trivial
  | cons row rest ih => exact ⟨rowBody_numeric row, ih⟩

theorem orNull_wordy (value : Option String) : Wordy (Validation.orNull textOf value) := by
  cases value with
  | none =>
      rintro _ ⟨⟩
      trivial
  | some text => exact textOf_wordy text

theorem boolean_wordy (value : Option Bool) : Wordy (value.map .boolean) := by
  intro json member
  obtain ⟨own, _, rfl⟩ := Option.map_eq_some_iff.mp member
  trivial

theorem body_object (action : Action) (body : Json) (has : action.body formats = some body) :
    ∃ fields, body = .object fields ∧ body.Numeric := by
  have made : ∃ entries, body = record entries ∧ ∀ entry ∈ entries, Wordy entry.2 := by
    unfold Action.body at has
    split at has
    all_goals
      cases has
      try exact ⟨_, rfl, by
        simp [textOf_wordy, idOf_wordy, bind_wordy, rows_wordy, orNull_wordy, boolean_wordy]⟩
  obtain ⟨entries, rfl, each⟩ := made
  exact ⟨_, rfl, record_numeric entries each⟩

end Bodies

section Served

variable (formats : Formats) (auth : Except Failure AuthContext) (actor : Option AuthContext)
  (action : Action)

/-- An image that `imageUpload` may let through, and one that it does for certain. -/
structure Admissible (file : UploadedImage) : Prop where
  image : (Text.after "image/" file.mimetype).isSome
  bounded : file.buffer.length ≤ MAX_UPLOAD_BYTES

structure Sure (file : UploadedImage) : Prop extends Admissible MAX_UPLOAD_BYTES file where
  below : file.buffer.length < MAX_UPLOAD_BYTES

/-- What a handler is called with was within the limits. -/
def Action.within (content : Content) : Action → Prop
  | .api (.enrollFace _ file) =>
      content = .form [("image", file)] ∧ Admissible MAX_UPLOAD_BYTES file
  | .api (.identify _) =>
      ∃ file, content = .form [("image", file)] ∧ Admissible MAX_UPLOAD_BYTES file
  | _ => ∀ text, content = .json text → Json.byteLength text ≤ jsonLimit

/-- What a client sends for an action: its image as a form, its body as JSON, or nothing. -/
def Action.sentAs (content : Content) : Action → Prop
  | .api (.enrollFace _ file) => content = .form [("image", file)] ∧ Sure MAX_UPLOAD_BYTES file
  | .api (.identify _) => ∃ file, content = .form [("image", file)] ∧ Sure MAX_UPLOAD_BYTES file
  | action =>
      match action.body formats with
      | some body =>
          content = .json (Json.stringify body) ∧
            Json.byteLength (Json.stringify body) ≤ jsonLimit
      | none => content = .nothing

theorem sentAs_read (content : Content) (sent : action.sentAs MAX_UPLOAD_BYTES formats content) :
    expressJson content = .ok (action.body formats) ∧
      action.comesWith (imageUpload multer MAX_UPLOAD_BYTES content) := by
  unfold Action.sentAs at sent
  split at sent
  · next id file =>
      obtain ⟨rfl, sure⟩ := sent
      exact ⟨rfl, imageUpload_pass multer _ file sure.image sure.below⟩
  · next id =>
      obtain ⟨file, rfl, sure⟩ := sent
      exact ⟨rfl, file, imageUpload_pass multer _ file sure.image sure.below⟩
  · next imageless unasked =>
      have any : action.comesWith (imageUpload multer MAX_UPLOAD_BYTES content) := by
        unfold Action.comesWith
        split
        · next id file => exact absurd rfl (imageless id file)
        · next id => exact absurd rfl (unasked id)
        · trivial
      refine ⟨?_, any⟩
      cases has : action.body formats with
      | none =>
          rw [has] at sent
          rw [sent]
          rfl
      | some body =>
          rw [has] at sent
          obtain ⟨rfl, small⟩ := sent
          obtain ⟨fields, rfl, numeric⟩ := body_object formats action body has
          exact expressJson_object fields numeric small

theorem within_of_pictured (content : Content)
    (pictured : action.comesWith (imageUpload multer MAX_UPLOAD_BYTES content))
    (body : Option Json) (passed : expressJson content = .ok body) :
    action.within MAX_UPLOAD_BYTES content := by
  have admitted : ∀ file, imageUpload multer MAX_UPLOAD_BYTES content = .ok (some file) →
      content = .form [("image", file)] ∧ Admissible MAX_UPLOAD_BYTES file := by
    intro file uploaded
    obtain ⟨form, image, bounded⟩ := imageUpload_ok multer MAX_UPLOAD_BYTES content file uploaded
    exact ⟨form, image, bounded⟩
  unfold Action.comesWith at pictured
  split at pictured
  · next id file => exact admitted file pictured
  · next id =>
      obtain ⟨file, uploaded⟩ := pictured
      exact ⟨file, admitted file uploaded⟩
  · unfold Action.within
    split
    · next id file imageless unasked => exact absurd rfl (imageless id file)
    · next id imageless unasked => exact absurd rfl (unasked id)
    · rintro text rfl
      exact expressJson_small text body passed

/-- A handler is called for nothing but a well-formed action of a principal whom the gates of the
action let through, in a request within the limits; and every such action is reached by what a
client sends for it, where this is within the limits. -/
theorem actions_served :
    (∀ request, createApp multer MAX_UPLOAD_BYTES formats auth request = .handled actor action →
      WellFormed formats action ∧ Permitted auth actor action ∧
        action.within MAX_UPLOAD_BYTES request.content) ∧
      (WellFormed formats action → Permitted auth actor action →
        ∀ content, action.sentAs MAX_UPLOAD_BYTES formats content →
          ∃ method path query,
            createApp multer MAX_UPLOAD_BYTES formats auth ⟨method, path, query, content⟩ =
              .handled actor action) := by
  constructor
  · intro request handled
    unfold createApp at handled
    split at handled
    · cases handled
    · next body passed =>
        obtain ⟨fits, permitted⟩ := dispatch_permitted formats auth _ actor action handled
        have pictured := dispatch_pictured formats auth _ actor action handled
        exact ⟨fits, permitted, within_of_pictured multer _ action _ pictured body passed⟩
  · intro fits permitted content sent
    obtain ⟨read, image⟩ := sentAs_read multer MAX_UPLOAD_BYTES formats action content sent
    obtain ⟨method, path, query, handled⟩ :=
      dispatch_complete formats auth actor action fits permitted image
    exact ⟨method, path, query, by simpa only [createApp, read] using handled⟩

end Served

end FaceVec.Http

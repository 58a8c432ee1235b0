import FaceVec.Http.Requests

/-!
`middleware/validate.ts`: the parts of a request against the schemas of its
route, the body before the path and the path before the query, and what a 422
reports of the first part that is refused.
-/

namespace FaceVec.Http

open Validation Api

/-- An entry of the details of a `ValidationError`. -/
structure Detail where
  field : String
  message : String
  code : String
  deriving DecidableEq, Repr

def segmentText : Segment → String
  | .key name => name
  | .index position => toString position

/-- `issue.path.join('.') || '(root)'`. -/
def fieldOf (path : List Segment) : String :=
  let joined := ".".intercalate (path.map segmentText)
  if joined = "" then "(root)" else joined

def formatIssue (issue : Issue) : Detail := ⟨fieldOf issue.path, issue.message, issue.code⟩

/-- What the middleware is given, the path as it has been matched, and what the
upload of an image leads to. -/
structure Parts where
  body : Option Json
  params : List (String × String)
  query : List (String × Json)
  upload : Except Failure (Option Faces.UploadedImage)

def Parts.path (parts : Parts) : Json := .object (parts.params.map fun entry => (entry.1, .string entry.2))

variable {α β γ : Type}

/-- `parse`, what it throws as details. -/
def parse (schema : Schema α) (input : Option Json) : Except (List Detail) α :=
  match (schema input).accepted with
  | .ok value => .ok value
  | .error issues => .error (issues.map formatIssue)

/-- A part without a schema is not looked at. -/
def ignored : Schema Unit := fun _ => .done () []

def validate (body : Schema α) (params : Schema β) (query : Schema γ) (parts : Parts) :
    Except (List Detail) (α × β × γ) := do
  let body ← parse body parts.body
  let params ← parse params (some parts.path)
  let query ← parse query (some (.object parts.query))
  pure (body, params, query)

theorem ignored_admits : Admits ignored [] fun _ => True where
  lawful := ⟨fun _ => [], fun _ _ _ => trivial, fun _ _ => rfl⟩
  named _ _ reported := absurd reported List.not_mem_nil
  declared _ _ _ := rfl

theorem parse_ok (schema : Schema α) (input : Option Json) (value : α) :
    parse schema input = .ok value ↔ schema input = .done value [] := by
  rw [← Parsed.accepted_ok]
  unfold parse
  cases (schema input).accepted with
  | ok own => simp
  | error issues => simp

theorem parse_error (schema : Schema α) (input : Option Json) (details : List Detail)
    (refused : parse schema input = .error details) :
    details = (schema input).issues.map formatIssue ∧ details ≠ [] := by
  unfold parse at refused
  cases verdict : (schema input).accepted with
  | ok value =>
      rw [verdict] at refused
      cases refused
  | error issues =>
      rw [verdict] at refused
      obtain ⟨rfl, some_⟩ := Parsed.accepted_error _ _ verdict
      obtain rfl := Except.error.inj refused
      exact ⟨rfl, fun none_ => some_ (List.map_eq_nil_iff.mp none_)⟩

section Fields

/-- A detail about the part as a whole, or about one of its fields. -/
def About (keys : List String) (detail : Detail) : Prop :=
  detail.field = "(root)" ∨
    ∃ key ∈ keys, detail.field = key ∨ ∃ rest : String, detail.field = key ++ "." ++ rest

theorem intercalate_cons (separator head : String) (rest : List String) :
    separator.intercalate (head :: rest) = head ∨
      ∃ tail, separator.intercalate (head :: rest) = head ++ separator ++ tail := by
  cases rest with
  | nil => exact Or.inl (by simp [String.intercalate_singleton])
  | cons next more => exact Or.inr ⟨_, by rw [String.intercalate_cons_cons]⟩

theorem about_formatIssue (keys : List String) (issue : Issue)
    (named : issue.path = [] ∨ ∃ key ∈ keys, ∃ rest, issue.path = .key key :: rest) :
    About keys (formatIssue issue) := by
  rcases named with whole | ⟨key, member, rest, path⟩
  · left
    simp only [formatIssue, fieldOf, whole, List.map_nil]
    rfl
  · by_cases empty : ".".intercalate (issue.path.map segmentText) = ""
    · left
      simp only [formatIssue, fieldOf, empty, if_true]
    · right
      refine ⟨key, member, ?_⟩
      simp only [formatIssue, fieldOf, empty, if_false]
      rw [path]
      exact intercalate_cons "." key (rest.map segmentText)

theorem parse_about {schema : Schema α} {keys : List String} {fits : α → Prop}
    (admits : Admits schema keys fits) (input : Option Json) (details : List Detail)
    (refused : parse schema input = .error details) :
    details ≠ [] ∧ ∀ detail ∈ details, About keys detail := by
  obtain ⟨rfl, some_⟩ := parse_error schema input details refused
  refine ⟨some_, fun detail member => ?_⟩
  obtain ⟨issue, reported, rfl⟩ := List.mem_map.mp member
  exact about_formatIssue keys issue (admits.named input issue reported)

end Fields

theorem validate_ok (body : Schema α) (params : Schema β) (query : Schema γ) (parts : Parts)
    (value : α × β × γ) :
    validate body params query parts = .ok value ↔
      body parts.body = .done value.1 [] ∧ params (some parts.path) = .done value.2.1 [] ∧
        query (some (.object parts.query)) = .done value.2.2 [] := by
  simp only [← parse_ok, validate]
  cases parse body parts.body with
  | error details => simp [bind, Except.bind]
  | ok one =>
      cases parse params (some parts.path) with
      | error details => simp [bind, Except.bind]
      | ok two =>
          cases parse query (some (.object parts.query)) with
          | error details => simp [bind, Except.bind]
          | ok three => simp [bind, Except.bind, pure, Except.pure, Prod.ext_iff]

theorem validate_error (body : Schema α) (params : Schema β) (query : Schema γ) (parts : Parts)
    (details : List Detail) (refused : validate body params query parts = .error details) :
    parse body parts.body = .error details ∨
      ((∃ value, parse body parts.body = .ok value) ∧
        (parse params (some parts.path) = .error details ∨
          ((∃ value, parse params (some parts.path) = .ok value) ∧
            parse query (some (.object parts.query)) = .error details))) := by
  unfold validate at refused
  cases first : parse body parts.body with
  | error own =>
      rw [first] at refused
      exact Or.inl (congrArg _ (Except.error.inj refused))
  | ok one =>
      rw [first] at refused
      cases second : parse params (some parts.path) with
      | error own =>
          rw [second] at refused
          exact Or.inr ⟨⟨one, rfl⟩, Or.inl (congrArg _ (Except.error.inj refused))⟩
      | ok two =>
          rw [second] at refused
          cases third : parse query (some (.object parts.query)) with
          | error own =>
              rw [third] at refused
              exact Or.inr ⟨⟨one, rfl⟩, Or.inr ⟨⟨two, rfl⟩, congrArg _ (Except.error.inj refused)⟩⟩
          | ok three =>
              rw [third] at refused
              cases refused

/-- Parts that agree on the declared keys fare alike. -/
structure Agree (bodies queries : List String) (one other : Parts) : Prop where
  body : one.body = other.body ∨ ∃ fields fields', one.body = some (.object fields) ∧
    other.body = some (.object fields') ∧
      ∀ key ∈ bodies, Json.field fields key = Json.field fields' key
  params : one.params = other.params
  query : ∀ key ∈ queries, Json.field one.query key = Json.field other.query key

theorem validate_agree {body : Schema α} {query : Schema γ} {bodies queries : List String}
    {fits : α → Prop} {fits' : γ → Prop} (bodyAdmits : Admits body bodies fits)
    (params : Schema β) (queryAdmits : Admits query queries fits') (one other : Parts)
    (agree : Agree bodies queries one other) :
    validate body params query one = validate body params query other := by
  have bodies : parse body one.body = parse body other.body := by
    rcases agree.body with equal | ⟨fields, fields', first, second, same⟩
    · rw [equal]
    · rw [first, second, parse, parse, bodyAdmits.declared fields fields' same]
  have paths : one.path = other.path := by rw [Parts.path, Parts.path, agree.params]
  have queries : parse query (some (.object one.query)) = parse query (some (.object other.query)) := by
    rw [parse, parse, queryAdmits.declared _ _ agree.query]
  simp only [validate, bodies, paths, queries]

/-- A roster whose second row has no number, to a course. -/
def unnumbered : Parts where
  body := some (.object [("rows", .array [.object [("studentNumber", .string "S-1")],
    .object [("studentNumber", .string " ")]])])
  params := [("id", "-1")]
  query := []
  upload := .ok none

end FaceVec.Http

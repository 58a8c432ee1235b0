import Mathlib.Data.List.Basic

/-!
The error hierarchy of `errors/http-error.ts` and the part of
`http/middleware/error-handler.ts` that turns a thrown value into a response.
`Failure` is what a service can throw: an operational `HttpError`, a known
Prisma engine error, an AI client error, a multer error, or anything else.
-/

namespace FaceVec

structure HttpError where
  statusCode : Nat
  code : String
  message : String
  details : Option (List String)
  deriving DecidableEq, Repr

def badRequestError (message : String) (details : Option (List String) := none) : HttpError :=
  ⟨400, "bad_request", message, details⟩

def unauthorizedError (message : String := "Authentication required") : HttpError :=
  ⟨401, "unauthorized", message, none⟩

def forbiddenError (message : String := "Insufficient permissions") : HttpError :=
  ⟨403, "forbidden", message, none⟩

def notFoundError (message : String := "Resource not found") : HttpError :=
  ⟨404, "not_found", message, none⟩

def conflictError (message : String := "Resource conflict")
    (details : Option (List String) := none) : HttpError :=
  ⟨409, "conflict", message, details⟩

inductive PrismaCode where
  | P2002 | P2003 | P2025
  | other (code : String)
  deriving DecidableEq, Repr

inductive Failure where
  | http (error : HttpError)
  | prisma (code : PrismaCode) (target : Option (List String))
  | multer (limitFileSize : Bool) (message : String)
  | aiUnavailable (message : String)
  | aiBadResponse (message : String)
  /-- An error of the circuit breaker, known by its `code`. -/
  | breaker (code message : String)
  | other (message : String)
  deriving DecidableEq, Repr

def mapPrismaError (code : PrismaCode) (target : Option (List String)) : HttpError :=
  match code with
  | .P2002 => conflictError "A record with these values already exists" target
  | .P2025 => notFoundError "The requested record does not exist"
  | .P2003 => badRequestError "Related record does not exist or is still referenced"
  | .other _ => badRequestError "Database request could not be processed"

/-- The `{ error: { code, message, details? }, requestId }` body. -/
structure ErrorBody where
  code : String
  message : String
  details : Option (List String)
  requestId : String
  deriving DecidableEq, Repr

def toHttpError : Failure → Option HttpError
  | .http error => some error
  | .prisma code target => some (mapPrismaError code target)
  | .multer true _ => some ⟨413, "file_too_large", "Uploaded image exceeds the size limit", none⟩
  | .multer false message => some (badRequestError ("Upload error: " ++ message))
  | .aiUnavailable message => some ⟨503, "ai_unavailable", message, none⟩
  | .aiBadResponse message => some ⟨502, "ai_bad_response", message, none⟩
  | .breaker _ _ | .other _ => none

/-- `err instanceof Error ? err.message : String(err)`. The message of an engine
error is the engine's own; only its constant head stands here. -/
def Failure.text : Failure → String
  | .http error => error.message
  | .prisma _ _ => "Invalid prisma invocation"
  | .multer _ message | .aiUnavailable message | .aiBadResponse message
  | .breaker _ message | .other message => message

/-- `errorHandler`: the status code and the JSON body of the answer. -/
def errorHandler (isProduction : Bool) (requestId : String) (failure : Failure) :
    Nat × ErrorBody :=
  match toHttpError failure with
  | some error => (error.statusCode, ⟨error.code, error.message, error.details, requestId⟩)
  | none =>
      (500, ⟨"internal_error",
        if isProduction then "An internal error occurred" else failure.text, none, requestId⟩)

end FaceVec

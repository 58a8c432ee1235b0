import FaceVec.Users.Authority
import FaceVec.Web.Alone

/-!
The tab against the gateway: the tokens it is handed are for the account they
come with, so what the gateway acts for is the account that the page shows.
-/

namespace FaceVec.Web.Session

open Interleaving Auth Users

variable {K : Type}

/-- The account and the token of an answer, from the signature on. -/
def issued : Users.Call → Option (FaceVec.User × AccessTokenClaims)
  | .storing _ user claims _ | .answered (.tokens _ user claims _) => some (user, claims)
  | _ => none

section Gateway

variable (setting : Setting) (store : Store K)

end Gateway

section Tokens

variable (setting : Setting)

def subject (jwt : Jwt) (token : String) : Option Uuid := (jwt.payload token).bind (·.sub)

theorem subject_sign (jwt : Jwt) (claims : AccessTokenClaims) :
    subject jwt (jwt.sign claims) = some claims.userId := by
  rw [subject, jwt.verifies]
  rfl

end Tokens

/-- The administrator's page loads and asks for the accounts. -/
def visit : List (Event (Input (subject office.jwt)) (Change (Option Uuid))) :=
  [.act 0 .mount,
    .act 0 (.answer (.auth ⟨spelled.sign rootClaims, some 1, subject_sign spelled rootClaims⟩)),
    .act 1 (.fetch "/users")]

end FaceVec.Web.Session

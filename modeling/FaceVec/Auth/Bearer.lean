import FaceVec.Auth.AccessTokens
import FaceVec.Text

/-!
Bearer tokens as they arrive: `bearerToken` of `authenticate.ts`,
`verifyAccessToken` on any text, and the two questions that `resolveAuth` puts
to Redis. The signature scheme is a parameter.
-/

namespace FaceVec.Auth

open FaceVec (Text.after Text.trim)

variable {K : Type} [Field K] [LinearOrder K] [FloorRing K]

def bearerToken (header : Option String) : Option String :=
  match header.bind (Text.after "Bearer ") with
  | none => none
  | some rest => if Text.trim rest = "" then none else some (Text.trim rest)

/-- The claims of a verified JWT, each `none` where it is not of its type. -/
structure Payload where
  sub : Option Uuid
  role : Option Role
  jti : Option String
  iat : Option ℤ
  exp : Option ℤ

def AccessTokenClaims.payload (claims : AccessTokenClaims) : Payload :=
  ⟨some claims.userId, some claims.role, some claims.jti, some claims.issuedAt,
    some claims.expiresAt⟩

/-- `SignJWT` and `jwtVerify` under the access secret: `payload` is what the
signature, the issuer and the audience let through. -/
structure Jwt where
  sign : AccessTokenClaims → String
  payload : String → Option Payload
  verifies : ∀ claims, payload (sign claims) = some claims.payload

def Jwt.verifyAccessToken (jwt : Jwt) (token : String) (now : K) :
    Except Failure AccessTokenClaims :=
  match jwt.payload token with
  | none => .error (.http (unauthorizedError "Invalid or expired access token"))
  | some payload =>
      if payload.exp.any (· ≤ ⌊now⌋) then
        .error (.http (unauthorizedError "Invalid or expired access token"))
      else
        match payload with
        | ⟨some userId, some role, some jti, some issuedAt, some expiresAt⟩ =>
            .ok { userId, role, jti, issuedAt, expiresAt }
        | _ => .error (.http (unauthorizedError "Malformed access token"))

/-- Tokens of this service are verified as their claims are. -/
theorem Jwt.verifyAccessToken_sign (jwt : Jwt) (claims : AccessTokenClaims) (now : K) :
    jwt.verifyAccessToken (jwt.sign claims) now = Auth.verifyAccessToken claims now := by
  rw [Jwt.verifyAccessToken, jwt.verifies, Auth.verifyAccessToken]
  simp [AccessTokenClaims.payload]

/-- A token is let through with the claims it carries, before it expires. -/
theorem Jwt.verifyAccessToken_ok (jwt : Jwt) (token : String) (now : K)
    (claims : AccessTokenClaims) (verified : jwt.verifyAccessToken token now = .ok claims) :
    jwt.payload token = some claims.payload ∧ ⌊now⌋ < claims.expiresAt := by
  unfold Jwt.verifyAccessToken at verified
  split at verified
  · cases verified
  · next payload carried =>
      split at verified
      · cases verified
      · next alive =>
          split at verified
          · cases verified
            exact ⟨carried, by simpa using alive⟩
          · cases verified

/-- What a question to Redis meets. Where it is not ready the checks are skipped. -/
inductive Contact where
  | ready | unready
  | fails (failure : Failure)
  deriving DecidableEq, Repr

/-- `isAccessTokenRevoked`. -/
def askRevoked (redis : Revocations K) (contact : Contact) (jti : String) (now : K) :
    Except Failure Bool :=
  match contact with
  | .ready => .ok (isAccessTokenRevoked redis jti now)
  | .unready => .ok false
  | .fails failure => .error failure

/-- `userTokenCutoff`. -/
def askCutoff (redis : Revocations K) (contact : Contact) (userId : Uuid) (now : K) :
    Except Failure (Option ℤ) :=
  match contact with
  | .ready => .ok (userTokenCutoff redis userId now)
  | .unready => .ok none
  | .fails failure => .error failure

def AccessTokenClaims.context (claims : AccessTokenClaims) : AuthContext :=
  ⟨claims.userId, claims.role, claims.jti, claims.expiresAt⟩

/-- `resolveAuth` after its token was verified: the first question. -/
def denylistCheck (redis : Revocations K) (contact : Contact) (claims : AccessTokenClaims)
    (now : K) : Except Failure Unit :=
  match askRevoked redis contact claims.jti now with
  | .error failure => .error failure
  | .ok true => .error (.http (unauthorizedError "Token has been revoked"))
  | .ok false => .ok ()

/-- The second question of `resolveAuth`, and the principal it returns. -/
def cutoffCheck (redis : Revocations K) (contact : Contact) (claims : AccessTokenClaims)
    (now : K) : Except Failure AuthContext :=
  match askCutoff redis contact claims.userId now with
  | .error failure => .error failure
  | .ok cutoff =>
      if cutoff.any (claims.issuedAt < ·) then
        .error (.http (unauthorizedError "Session has been revoked"))
      else .ok claims.context

/-- With Redis ready and no time in between, the steps are `resolveAuth`. -/
theorem resolveAuth_steps (jwt : Jwt) (redis : Revocations K) (claims : AccessTokenClaims)
    (now : K) :
    (do let verified ← jwt.verifyAccessToken (jwt.sign claims) now
        denylistCheck redis .ready verified now
        cutoffCheck redis .ready verified now) = resolveAuth redis claims now := by
  rw [Jwt.verifyAccessToken_sign, resolveAuth]
  cases Auth.verifyAccessToken claims now with
  | error failure => rfl
  | ok verified =>
      simp only [bind, Except.bind, denylistCheck, askRevoked, cutoffCheck, askCutoff]
      cases isAccessTokenRevoked redis verified.jti now <;> rfl

omit [Field K] [FloorRing K] in
theorem cutoffCheck_ok (redis : Revocations K) (contact : Contact) (claims : AccessTokenClaims)
    (now : K) (auth : AuthContext) (passed : cutoffCheck redis contact claims now = .ok auth) :
    auth = claims.context := by
  unfold cutoffCheck at passed
  split at passed
  · cases passed
  · split at passed
    · cases passed
    · exact (Except.ok.inj passed).symm

section Spelled

/-- Tokens that spell their claims out, as an instance. -/
def spellNat (n : Nat) : List Char := List.replicate n '1' ++ ['.']

def readNat (text : List Char) : Nat × List Char :=
  ((text.takeWhile (· == '1')).length, (text.dropWhile (· == '1')).drop 1)

theorem readNat_spell (n : Nat) (rest : List Char) : readNat (spellNat n ++ rest) = (n, rest) := by
  induction n with
  | zero => rfl
  | succ n ih =>
      have next : spellNat (n + 1) ++ rest = '1' :: (spellNat n ++ rest) := by
        simp [spellNat, List.replicate_succ]
      rw [next]
      simp only [readNat, Prod.mk.injEq] at ih ⊢
      simpa using ih

def spellInt (i : ℤ) : List Char := spellNat (if i < 0 then 1 else 0) ++ spellNat i.natAbs

def readInt (text : List Char) : ℤ × List Char :=
  let sign := readNat text
  let value := readNat sign.2
  (if sign.1 = 0 then value.1 else -value.1, value.2)

theorem readInt_spell (i : ℤ) (rest : List Char) : readInt (spellInt i ++ rest) = (i, rest) := by
  unfold readInt spellInt
  rw [List.append_assoc, readNat_spell]
  dsimp only
  rw [readNat_spell]
  by_cases negative : i < 0
  · simp only [negative, if_true, Prod.mk.injEq, and_true]
    simp only [one_ne_zero, if_false]
    omega
  · simp only [negative, if_false, if_true, Prod.mk.injEq, and_true]
    omega

def Role.ordinal : Role → Nat
  | .PROFESSOR => 0
  | .ADMIN => 1
  | .STUDENT => 2

def Role.ofOrdinal : Nat → Role
  | 0 => .PROFESSOR
  | 1 => .ADMIN
  | _ => .STUDENT

def spelled : Jwt where
  sign claims :=
    String.ofList (spellNat claims.userId ++ (spellNat (Role.ordinal claims.role) ++
      (spellInt claims.issuedAt ++ (spellInt claims.expiresAt ++ claims.jti.toList))))
  payload token :=
    let userId := readNat token.toList
    let role := readNat userId.2
    let issuedAt := readInt role.2
    let expiresAt := readInt issuedAt.2
    some ⟨some userId.1, some (Role.ofOrdinal role.1), some (String.ofList expiresAt.2),
      some issuedAt.1, some expiresAt.1⟩
  verifies claims := by
    simp only [String.toList_ofList, readNat_spell, readInt_spell, String.ofList_toList]
    cases claims with
    | mk userId role jti issuedAt expiresAt => cases role <;> rfl

end Spelled

end FaceVec.Auth

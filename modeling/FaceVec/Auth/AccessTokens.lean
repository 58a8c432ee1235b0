import Mathlib.Algebra.Order.Floor.Ring
import Mathlib.Algebra.Order.Field.Basic
import Mathlib.Algebra.Order.Ring.Rat
import Mathlib.Data.Rat.Floor
import Mathlib.Tactic.Linarith
import FaceVec.Auth.Service

/-!
Access tokens and their revocation: `signAccessToken` and `verifyAccessToken`
of `token.service.ts`, the Redis entries of `token-revocation.ts`, and
`resolveAuth` of `authenticate.ts`. Instants are exact (`K` is the ordered
field of times in seconds); `iat`, `exp` and the cutoff are whole seconds. A
Redis key written with `EX n` is kept with the instant at which it vanishes.
-/

namespace FaceVec.Auth

variable {K : Type} [Field K] [LinearOrder K] [FloorRing K]

structure AccessTokenClaims where
  userId : Uuid
  role : Role
  jti : String
  issuedAt : ℤ
  expiresAt : ℤ
  deriving DecidableEq, Repr

def signAccessToken (config : Config) (input : AccessTokenInput) (jti : String) (now : K) :
    AccessTokenClaims :=
  { userId := input.userId
    role := input.role
    jti
    issuedAt := ⌊now⌋
    expiresAt := ⌊now⌋ + (config.JWT_ACCESS_TTL : ℕ) }

/-- The `revoke:jti:` and `revoke:user:` keys; a later write replaces an earlier one. -/
structure Revocations (K : Type) where
  jti : String → Option K
  user : Uuid → Option (ℤ × K)

/-- The instant at which a key set with `EX Math.max(1, Math.ceil(ttlSeconds))` vanishes. -/
def vanishesAt (ttlSeconds : ℤ) (now : K) : K := now + ((max 1 ttlSeconds : ℤ) : K)

def revokeAccessToken (redis : Revocations K) (jti : String) (ttlSeconds : ℤ) (now : K) :
    Revocations K :=
  { redis with jti := Function.update redis.jti jti (some (vanishesAt ttlSeconds now)) }

def isAccessTokenRevoked (redis : Revocations K) (jti : String) (now : K) : Bool :=
  match redis.jti jti with
  | none => false
  | some vanishes => decide (now < vanishes)

def revokeUserTokensBefore (redis : Revocations K) (userId : Uuid) (cutoffSeconds : ℤ)
    (ttlSeconds : ℤ) (now : K) : Revocations K :=
  { redis with
    user := Function.update redis.user userId (some (cutoffSeconds, vanishesAt ttlSeconds now)) }

def userTokenCutoff (redis : Revocations K) (userId : Uuid) (now : K) : Option ℤ :=
  match redis.user userId with
  | none => none
  | some (cutoff, vanishes) => if now < vanishes then some cutoff else none

/-- `verifyAccessToken` of a token this service signed. -/
def verifyAccessToken (claims : AccessTokenClaims) (now : K) : Except Failure AccessTokenClaims :=
  if claims.expiresAt ≤ ⌊now⌋ then
    .error (.http (unauthorizedError "Invalid or expired access token"))
  else .ok claims

def resolveAuth (redis : Revocations K) (token : AccessTokenClaims) (now : K) :
    Except Failure AuthContext :=
  match verifyAccessToken token now with
  | .error failure => .error failure
  | .ok claims =>
      if isAccessTokenRevoked redis claims.jti now then
        .error (.http (unauthorizedError "Token has been revoked"))
      -- Strictly earlier: a token of the cutoff's own second passes.
      else if (userTokenCutoff redis claims.userId now).any (claims.issuedAt < ·) then
        .error (.http (unauthorizedError "Session has been revoked"))
      else .ok ⟨claims.userId, claims.role, claims.jti, claims.expiresAt⟩

/-- What `logoutAll(auth.userId, auth.jti, auth.expiresAt)` writes to Redis. -/
def logoutAllRedis (config : Config) (redis : Revocations K) (auth : AuthContext) (now : K) :
    Revocations K :=
  -- The cutoff lives as long as a refresh token, not as long as an access token.
  let cut := revokeUserTokensBefore redis auth.userId ⌊now⌋ (config.JWT_REFRESH_TTL : ℕ) now
  let ttl := auth.expiresAt - ⌊now⌋
  if 0 < ttl then revokeAccessToken cut auth.jti ttl now else cut

def Rejected (redis : Revocations K) (token : AccessTokenClaims) (now : K) : Prop :=
  ∃ failure, resolveAuth redis token now = .error failure

def Denylisted (redis : Revocations K) (jti : String) (now : K) : Prop :=
  ∃ vanishes, redis.jti jti = some vanishes ∧ now < vanishes

def CutOff (redis : Revocations K) (userId : Uuid) (issuedAt : ℤ) (now : K) : Prop :=
  ∃ cutoff vanishes, redis.user userId = some (cutoff, vanishes) ∧ now < vanishes ∧
    issuedAt < cutoff

omit [FloorRing K] in
theorem isAccessTokenRevoked_iff (redis : Revocations K) (jti : String) (now : K) :
    isAccessTokenRevoked redis jti now = true ↔ Denylisted redis jti now := by
  unfold isAccessTokenRevoked Denylisted
  cases redis.jti jti <;> simp

omit [FloorRing K] in
theorem userTokenCutoff_any_iff (redis : Revocations K) (userId : Uuid) (issuedAt : ℤ) (now : K) :
    (userTokenCutoff redis userId now).any (issuedAt < ·) = true ↔
      CutOff redis userId issuedAt now := by
  unfold userTokenCutoff CutOff
  cases redis.user userId with
  | none => simp
  | some entry =>
      obtain ⟨cutoff, vanishes⟩ := entry
      by_cases alive : now < vanishes
      · simp [alive]
      · simp only [alive, if_false, Option.any_none, Bool.false_eq_true, false_iff]
        rintro ⟨_, _, same, before, _⟩
        simp only [Option.some.injEq, Prod.mk.injEq] at same
        rw [← same.2] at before
        exact alive before

/-- The three ways `resolveAuth` turns a signed token down. -/
theorem rejected_iff (redis : Revocations K) (token : AccessTokenClaims) (now : K) :
    Rejected redis token now ↔
      token.expiresAt ≤ ⌊now⌋ ∨ Denylisted redis token.jti now ∨
        CutOff redis token.userId token.issuedAt now := by
  rw [← isAccessTokenRevoked_iff, ← userTokenCutoff_any_iff]
  unfold Rejected resolveAuth verifyAccessToken
  by_cases expired : token.expiresAt ≤ ⌊now⌋
  · simp [expired]
  · simp only [expired, if_false, false_or]
    cases isAccessTokenRevoked redis token.jti now with
    | true => simp
    | false => cases (userTokenCutoff redis token.userId now).any (token.issuedAt < ·) <;> simp

section LogoutAll

variable (config : Config) (redis : Revocations K) (auth : AuthContext) (now : K)

theorem logoutAllRedis_user :
    (logoutAllRedis config redis auth now).user auth.userId =
      some (⌊now⌋, now + ((config.JWT_REFRESH_TTL : ℕ) : K)) := by
  have positive : (1 : ℤ) ≤ ((config.JWT_REFRESH_TTL : ℕ) : ℤ) := by
    exact_mod_cast config.JWT_REFRESH_TTL.pos
  have kept : vanishesAt ((config.JWT_REFRESH_TTL : ℕ) : ℤ) now =
      now + ((config.JWT_REFRESH_TTL : ℕ) : K) := by
    rw [vanishesAt, max_eq_right positive, Int.cast_natCast]
  simp only [logoutAllRedis]
  split <;> simp [revokeAccessToken, revokeUserTokensBefore, kept]

theorem logoutAllRedis_jti_other (jti : String) (other : jti ≠ auth.jti) :
    (logoutAllRedis config redis auth now).jti jti = redis.jti jti := by
  simp only [logoutAllRedis]
  split <;> simp [revokeAccessToken, revokeUserTokensBefore, other]

theorem logoutAllRedis_jti_presented (alive : ⌊now⌋ < auth.expiresAt) :
    (logoutAllRedis config redis auth now).jti auth.jti =
      some (now + ((auth.expiresAt - ⌊now⌋ : ℤ) : K)) := by
  have positive : 0 < auth.expiresAt - ⌊now⌋ := by omega
  have kept : vanishesAt (auth.expiresAt - ⌊now⌋) now =
      now + ((auth.expiresAt - ⌊now⌋ : ℤ) : K) := by
    rw [vanishesAt, max_eq_right (by omega)]
  simp only [logoutAllRedis, positive, if_true]
  simp [revokeAccessToken, kept]

end LogoutAll

/-- When a token is out of use from `now` on: expired, presented by the call
itself, denylisted until its expiry, or issued in an earlier second and
expiring no later than the cutoff entry. -/
def OutOfUse (config : Config) (redis : Revocations K) (auth : AuthContext)
    (token : AccessTokenClaims) (now : K) : Prop :=
  token.expiresAt ≤ ⌊now⌋ ∨ token.jti = auth.jti ∨
    (∃ vanishes, redis.jti token.jti = some vanishes ∧ (token.expiresAt : K) ≤ vanishes) ∨
    (token.issuedAt < ⌊now⌋ ∧ (token.expiresAt : K) ≤ now + ((config.JWT_REFRESH_TTL : ℕ) : K))

variable [IsStrictOrderedRing K]

theorem presented_denylisted (config : Config) (redis : Revocations K) (auth : AuthContext)
    (now later : K) (running : ⌊now⌋ < auth.expiresAt) (alive : later < auth.expiresAt) :
    Denylisted (logoutAllRedis config redis auth now) auth.jti later := by
  refine ⟨_, logoutAllRedis_jti_presented config redis auth now running, ?_⟩
  have floored : (⌊now⌋ : K) ≤ now := Int.floor_le now
  push_cast
  linarith

section OneToken

variable (config : Config) (redis : Revocations K) (auth : AuthContext)
  (token : AccessTokenClaims) (now : K)
  (unique : token.jti = auth.jti → token.expiresAt = auth.expiresAt)

include unique

theorem outOfUse_rejected (later : K) (owner : token.userId = auth.userId) (after : now < later)
    (outOfUse : OutOfUse config redis auth token now) :
    Rejected (logoutAllRedis config redis auth now) token later := by
  rw [rejected_iff]
  by_cases expired : token.expiresAt ≤ ⌊later⌋
  · exact Or.inl expired
  · have alive : later < token.expiresAt := by
      by_contra past
      exact expired (Int.le_floor.mpr (not_lt.mp past))
    have running : ⌊now⌋ < token.expiresAt := by
      have monotone : ⌊now⌋ ≤ ⌊later⌋ := Int.floor_mono after.le
      omega
    right
    by_cases presented : token.jti = auth.jti
    · left
      rw [unique presented] at running alive
      rw [presented]
      exact presented_denylisted config redis auth now later running alive
    · rcases outOfUse with late | same | ⟨vanishes, denied, outlives⟩ | ⟨earlier, outlives⟩
      · omega
      · exact absurd same presented
      · left
        refine ⟨vanishes, ?_, alive.trans_le outlives⟩
        rw [logoutAllRedis_jti_other config redis auth now token.jti presented, denied]
      · right
        rw [owner]
        exact ⟨_, _, logoutAllRedis_user config redis auth now, alive.trans_le outlives, earlier⟩

omit unique in
/-- Before its expiry a token that is still in use has a moment at which
nothing rejects it. -/
theorem accepted_of_inUse (owner : token.userId = auth.userId)
    (inUse : ¬ OutOfUse config redis auth token now) :
    ∃ later, now < later ∧ ¬ Rejected (logoutAllRedis config redis auth now) token later := by
  simp only [OutOfUse, not_or, not_exists, not_and, not_le] at inUse
  obtain ⟨running, other, undenied, uncut⟩ := inUse
  have unexpired : now < token.expiresAt := Int.floor_lt.mp running
  have cutEnds : ∃ ends : K, ends < token.expiresAt ∧
      (token.issuedAt < ⌊now⌋ → now + ((config.JWT_REFRESH_TTL : ℕ) : K) ≤ ends) := by
    by_cases earlier : token.issuedAt < ⌊now⌋
    · exact ⟨_, uncut earlier, fun _ => le_rfl⟩
    · exact ⟨now, unexpired, fun impossible => absurd impossible earlier⟩
  have denyEnds : ∃ ends : K, ends < token.expiresAt ∧
      ∀ vanishes, redis.jti token.jti = some vanishes → vanishes ≤ ends := by
    cases denied : redis.jti token.jti with
    | none => exact ⟨now, unexpired, by simp⟩
    | some vanishes =>
        refine ⟨vanishes, undenied vanishes denied, ?_⟩
        rintro _ ⟨rfl⟩
        exact le_rfl
  obtain ⟨cutEnd, cutBefore, cutBound⟩ := cutEnds
  obtain ⟨denyEnd, denyBefore, denyBound⟩ := denyEnds
  -- Any moment between the last entry that blocks the token and its expiry will do.
  obtain ⟨later, past, before⟩ :=
    exists_between (max_lt unexpired (max_lt cutBefore denyBefore))
  obtain ⟨after, pastCut, pastDeny⟩ : now < later ∧ cutEnd < later ∧ denyEnd < later := by
    simpa using past
  refine ⟨later, after, ?_⟩
  rw [rejected_iff]
  rintro (expired | ⟨vanishes, entry, blocked⟩ | ⟨cutoff, vanishes, entry, blocked, earlier⟩)
  · exact not_le.mpr before (Int.le_floor.mp expired)
  · rw [logoutAllRedis_jti_other config redis auth now token.jti other] at entry
    exact not_lt.mpr (denyBound vanishes entry) (pastDeny.trans blocked)
  · rw [owner, logoutAllRedis_user] at entry
    simp only [Option.some.injEq, Prod.mk.injEq] at entry
    obtain ⟨rfl, rfl⟩ := entry
    exact not_lt.mpr (cutBound earlier) (pastCut.trans blocked)

end OneToken

/-- `logoutAll` ends a signed token of the user for good exactly when the
token is out of use at that moment. -/
theorem logoutAll_ends_iff (config : Config) (redis : Revocations K) (input : AccessTokenInput)
    (jti : String) (auth : AuthContext) (signed now : K) (owner : auth.userId = input.userId)
    (unique : auth.jti = jti → auth.expiresAt = (signAccessToken config input jti signed).expiresAt) :
    (∀ later, now < later →
        Rejected (logoutAllRedis config redis auth now)
          (signAccessToken config input jti signed) later) ↔
      OutOfUse config redis auth (signAccessToken config input jti signed) now := by
  constructor
  · intro rejects
    by_contra inUse
    obtain ⟨later, after, accepted⟩ :=
      accepted_of_inUse config redis auth _ now owner.symm inUse
    exact accepted (rejects later after)
  · intro outOfUse later after
    exact outOfUse_rejected config redis auth _ now
      (fun same => (unique same.symm).symm) later owner.symm after outOfUse

def noRevocations : Revocations ℚ := ⟨fun _ => none, fun _ => none⟩

def phone : AuthContext := ⟨7, .PROFESSOR, "phone", 1000⟩

theorem logoutAll_ends_earlier_second :
    OutOfUse {} noRevocations phone (signAccessToken {} ⟨7, .PROFESSOR⟩ "laptop" (100 : ℚ)) 101 ∧
      ∀ later : ℚ, 101 < later →
        Rejected (logoutAllRedis {} noRevocations phone 101)
          (signAccessToken {} ⟨7, .PROFESSOR⟩ "laptop" (100 : ℚ)) later := by
  have outOfUse : OutOfUse {} noRevocations phone
      (signAccessToken {} ⟨7, .PROFESSOR⟩ "laptop" (100 : ℚ)) 101 := by
    refine Or.inr (Or.inr (Or.inr ⟨?_, ?_⟩))
    · simp [signAccessToken]
    · simp [signAccessToken]
      norm_num
  have ends := logoutAll_ends_iff {} noRevocations ⟨7, .PROFESSOR⟩ "laptop" phone 100 101 rfl
    (by decide)
  exact ⟨outOfUse, ends.mpr outOfUse⟩

/-- Another device's token signed earlier in the same second stays in use;
so does an older one once the cutoff entry has vanished before it expires. -/
theorem logoutAll_leaves_tokens :
    ¬ Rejected (logoutAllRedis {} noRevocations phone (1017 / 10))
      (signAccessToken {} ⟨7, .PROFESSOR⟩ "laptop" (1012 / 10 : ℚ)) (1018 / 10) ∧
    ¬ Rejected (logoutAllRedis { JWT_REFRESH_TTL := 60 } noRevocations phone 101)
      (signAccessToken { JWT_REFRESH_TTL := 60 } ⟨7, .PROFESSOR⟩ "laptop" (100 : ℚ)) 200 := by
  have sameSecond : resolveAuth (logoutAllRedis {} noRevocations phone (1017 / 10))
      (signAccessToken {} ⟨7, .PROFESSOR⟩ "laptop" (1012 / 10 : ℚ)) (1018 / 10) =
        .ok ⟨7, .PROFESSOR, "laptop", 1001⟩ := by decide +kernel
  have entryGone : resolveAuth (logoutAllRedis { JWT_REFRESH_TTL := 60 } noRevocations phone 101)
      (signAccessToken { JWT_REFRESH_TTL := 60 } ⟨7, .PROFESSOR⟩ "laptop" (100 : ℚ)) 200 =
        .ok ⟨7, .PROFESSOR, "laptop", 1000⟩ := by decide +kernel
  simp [Rejected, sameSecond, entryGone]

end FaceVec.Auth

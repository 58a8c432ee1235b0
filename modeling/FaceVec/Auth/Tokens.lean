import FaceVec.Config
import FaceVec.Errors
import FaceVec.Schema

/-!
Refresh tokens: the domain predicates of `domain/auth.ts`, the parts of
`auth/token.service.ts` they rest on, and the statements `auth.service.ts`
runs against the `refresh_tokens` table. `Accounts` carries what every write
of the service keeps: a replaced token is revoked and points to a stored one.
-/

namespace FaceVec.Auth

/-- A refresh token is usable only while unrevoked and unexpired. -/
def isRefreshTokenActive (token : RefreshToken) (now : Instant) : Bool :=
  token.revokedAt.isNone && decide (now < token.expiresAt)

def isReuseAttempt (token : RefreshToken) : Bool :=
  token.revokedAt.isSome && token.replacedById.isSome

def refreshTokenExpiry (config : Config) (now : Instant) : Instant :=
  now + config.JWT_REFRESH_TTL * 1000

/-- Code outside the repository: the HMAC, the password hash and the random
generator behind ids. -/
structure Crypto where
  hmac : String → String
  verify : String → String → Bool
  uuids : UuidSource

def Crypto.hashRefreshToken (crypto : Crypto) (raw : String) : String := crypto.hmac raw

def Crypto.verifyPassword (crypto : Crypto) (hash password : String) : Bool :=
  crypto.verify hash password

structure RequestContext where
  userAgent : Option String
  ip : Option String
  deriving DecidableEq, Repr

/-- Every link of a rotation chain leaves a revoked token and leads to a
stored one. -/
def Chained (tokens : Table RefreshToken.clash) : Prop :=
  ∀ token ∈ tokens, ∀ successor, token.replacedById = some successor →
    token.revokedAt ≠ none ∧ ∃ row ∈ tokens, row.id = successor

structure Accounts where
  users : Table User.clash
  refreshTokens : Table RefreshToken.clash
  chained : Chained refreshTokens

variable (accounts : Accounts)

def ids (tokens : Table RefreshToken.clash) : List Uuid := tokens.rows.map (·.id)

/-- The row `createRefreshToken` and the rotation insert. -/
def newToken (crypto : Crypto) (config : Config) (id userId : Uuid) (raw : String)
    (now : Instant) (context : RequestContext) : RefreshToken :=
  { id, userId
    tokenHash := crypto.hashRefreshToken raw
    expiresAt := refreshTokenExpiry config now
    revokedAt := none
    replacedById := none
    userAgent := context.userAgent
    ip := context.ip }

theorem token_eq_of_id (tokens : Table RefreshToken.clash) (a b : RefreshToken)
    (inA : a ∈ tokens) (inB : b ∈ tokens) (same : a.id = b.id) : a = b :=
  tokens.eq_of_clash a b inA inB (by simp [RefreshToken.clash, same])
    (by simp [RefreshToken.clash, same])

/-- `refreshToken.findUnique({ where: { tokenHash }, include: { user } })`. -/
def findToken (tokenHash : String) : Option (RefreshToken × User) := do
  let token ← accounts.refreshTokens.rows.find? (·.tokenHash == tokenHash)
  let user ← accounts.users.rows.find? (·.id == token.userId)
  pure (token, user)

theorem findToken_mem (tokenHash : String) (token : RefreshToken) (user : User)
    (found : findToken accounts tokenHash = some (token, user)) :
    token ∈ accounts.refreshTokens := by
  simp only [findToken, Option.bind_eq_bind, Option.bind_eq_some_iff] at found
  obtain ⟨first, stored, owner, _, pair⟩ := found
  have same : first = token := by simpa using congrArg (Option.map Prod.fst) pair
  exact same ▸ List.mem_of_find?_eq_some stored

def revoke (selected : RefreshToken → Bool) (now : Instant) (token : RefreshToken) :
    RefreshToken :=
  if selected token && token.revokedAt.isNone then { token with revokedAt := some now } else token

section Revoke

variable (selected : RefreshToken → Bool) (now : Instant) (token : RefreshToken)

@[simp] theorem revoke_id : (revoke selected now token).id = token.id := by
  unfold revoke; split <;> rfl

@[simp] theorem revoke_userId : (revoke selected now token).userId = token.userId := by
  unfold revoke; split <;> rfl

@[simp] theorem revoke_tokenHash : (revoke selected now token).tokenHash = token.tokenHash := by
  unfold revoke; split <;> rfl

@[simp] theorem revoke_replacedById :
    (revoke selected now token).replacedById = token.replacedById := by
  unfold revoke; split <;> rfl

theorem revoke_keeps_revoked (revoked : token.revokedAt ≠ none) :
    (revoke selected now token).revokedAt ≠ none := by
  unfold revoke
  split
  · simp
  · exact revoked

theorem revoke_selected (hit : selected token = true) :
    (revoke selected now token).revokedAt ≠ none := by
  cases state : token.revokedAt with
  | none => simp [revoke, hit, state]
  | some at_ => simp [revoke, state]

end Revoke

/-- `refreshToken.updateMany({ where: { …, revokedAt: null }, data: { revokedAt } })`. -/
def updateManyRevoke (selected : RefreshToken → Bool) (now : Instant) : Accounts where
  users := accounts.users
  refreshTokens := accounts.refreshTokens.modify (revoke selected now)
    (by intro a b; simp [RefreshToken.clash])
  chained := by
    intro token member successor link
    obtain ⟨old, oldMember, rfl⟩ := List.mem_map.mp member
    obtain ⟨revoked, row, rowMember, rowId⟩ :=
      accounts.chained old oldMember successor (by simpa using link)
    exact ⟨revoke_keeps_revoked selected now old revoked, revoke selected now row,
      List.mem_map.mpr ⟨row, rowMember, rfl⟩, by simpa using rowId⟩

/-- `refreshToken.create`; `none` is a P2002 on a unique index. -/
def createToken (row : RefreshToken) (unlinked : row.replacedById = none) : Option Accounts :=
  match inserted : accounts.refreshTokens.insert row with
  | none => none
  | some tokens => some
      { users := accounts.users
        refreshTokens := tokens
        chained := by
          intro token member successor link
          have grown := Table.mem_insert _ _ row inserted
          rcases (grown token).mp member with old | rfl
          · obtain ⟨revoked, target, targetMember, targetId⟩ :=
              accounts.chained token old successor link
            exact ⟨revoked, target, (grown target).mpr (Or.inl targetMember), targetId⟩
          · rw [unlinked] at link
            contradiction }

/-- What `refreshToken.update` writes to the presented row. -/
def replace (presented successor : Uuid) (now : Instant) (token : RefreshToken) : RefreshToken :=
  if token.id = presented then
    { token with revokedAt := some now, replacedById := some successor }
  else token

section Replace

variable (presented successor : Uuid) (now : Instant) (token : RefreshToken)

@[simp] theorem replace_id : (replace presented successor now token).id = token.id := by
  unfold replace; split <;> rfl

@[simp] theorem replace_userId :
    (replace presented successor now token).userId = token.userId := by
  unfold replace; split <;> rfl

theorem replace_other (other : token.id ≠ presented) :
    replace presented successor now token = token := if_neg other

theorem replace_presented (same : token.id = presented) :
    replace presented successor now token =
      { token with revokedAt := some now, replacedById := some successor } := if_pos same

end Replace

/-- The rotation transaction: create the successor, then mark the presented
row. The update has no condition on `revokedAt`. -/
def rotateToken (presented : Uuid) (row : RefreshToken) (unlinked : row.replacedById = none)
    (now : Instant) : Except PrismaCode Accounts :=
  match inserted : accounts.refreshTokens.insert row with
  | none => .error .P2002
  | some created =>
      if created.rows.any (·.id == presented) then
        match rewritten : created.rewrite (replace presented row.id now) with
        | none => .error .P2002
        | some tokens => .ok
            { users := accounts.users
              refreshTokens := tokens
              chained := by
                intro token member successor link
                have rows := Table.rewrite_eq_some _ _ _ rewritten
                have grown := Table.mem_insert _ _ row inserted
                have written : ∀ old ∈ created, replace presented row.id now old ∈ tokens := by
                  intro old oldMember
                  rw [Table.mem_rows, rows]
                  exact List.mem_map.mpr ⟨old, oldMember, rfl⟩
                rw [Table.mem_rows, rows] at member
                obtain ⟨old, oldMember, rfl⟩ := List.mem_map.mp member
                by_cases same : old.id = presented
                · rw [replace_presented _ _ _ _ same] at link ⊢
                  refine ⟨by simp, _, written row ((grown row).mpr (Or.inr rfl)), ?_⟩
                  simpa using link
                · rw [replace_other _ _ _ _ same] at link ⊢
                  rcases (grown old).mp oldMember with stored | rfl
                  · obtain ⟨revoked, target, targetMember, targetId⟩ :=
                      accounts.chained old stored successor link
                    exact ⟨revoked, _, written target ((grown target).mpr (Or.inl targetMember)),
                      by simpa using targetId⟩
                  · rw [unlinked] at link
                    contradiction }
      else .error .P2025

end FaceVec.Auth

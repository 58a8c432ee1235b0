import FaceVec.Auth.Tokens
import FaceVec.Interleaving

/-!
`auth.service.ts` as a machine: any number of concurrent `login`, `refresh`,
`logout` and `logoutAll` calls over one `refresh_tokens` table. A call takes
one atomic step for each statement or `$transaction` it runs; what it read
earlier is in its own state. `exchanges` and `covered` are histories that no
step reads: the rotations committed so far, and the tokens whose descendants
a returned revocation was asked to end.
-/

namespace FaceVec.Auth

open Interleaving

/-- The claims `signAccessToken` is asked to sign. -/
structure AccessTokenInput where
  userId : Uuid
  role : Role
  deriving DecidableEq, Repr

structure AuthResult where
  user : User
  accessToken : AccessTokenInput
  refreshToken : String
  deriving DecidableEq, Repr

def authResult (user : User) (refreshToken : String) : AuthResult :=
  ⟨user, ⟨user.id, user.role⟩, refreshToken⟩

inductive RefreshDecision where
  | reject (failure : Failure)
  | reuse (existing : RefreshToken)
  | rotate (existing : RefreshToken) (user : User)

/-- `refresh` up to its second database step. -/
def refreshCheck (crypto : Crypto) (accounts : Accounts) (now : Instant) (rawToken : String) :
    RefreshDecision :=
  match findToken accounts (crypto.hashRefreshToken rawToken) with
  | none => .reject (.http (unauthorizedError "Invalid refresh token"))
  | some (existing, user) =>
      if existing.revokedAt.isSome then .reuse existing
      else if existing.expiresAt ≤ now then
        .reject (.http (unauthorizedError "Refresh token expired"))
      else if !user.isActive then .reject (.http (forbiddenError "Account is disabled"))
      else .rotate existing user

/-- A token that was exchanged counts as reuse when it is presented again. -/
theorem refreshCheck_exchanged (crypto : Crypto) (accounts : Accounts) (now : Instant)
    (rawToken : String) (existing : RefreshToken) (user : User)
    (found : findToken accounts (crypto.hashRefreshToken rawToken) = some (existing, user))
    (exchanged : existing.replacedById ≠ none) :
    isReuseAttempt existing = true ∧
      refreshCheck crypto accounts now rawToken = .reuse existing := by
  obtain ⟨successor, linked⟩ := Option.ne_none_iff_exists'.mp exchanged
  have stored := findToken_mem accounts _ existing user found
  have revoked : existing.revokedAt ≠ none := (accounts.chained existing stored successor linked).1
  have revoked' : existing.revokedAt.isSome = true := Option.isSome_iff_ne_none.mpr revoked
  constructor
  · simp [isReuseAttempt, revoked', linked]
  · simp [refreshCheck, found, revoked']

theorem refreshCheck_rotate (crypto : Crypto) (accounts : Accounts) (now : Instant)
    (rawToken : String) (existing : RefreshToken) (user : User)
    (rotates : refreshCheck crypto accounts now rawToken = .rotate existing user) :
    findToken accounts (crypto.hashRefreshToken rawToken) = some (existing, user) := by
  unfold refreshCheck at rotates
  split at rotates
  · cases rotates
  · next found owner lookup =>
      split at rotates
      · cases rotates
      · split at rotates
        · cases rotates
        · split at rotates
          · cases rotates
          · cases rotates
            exact lookup

theorem refreshCheck_reuse (crypto : Crypto) (accounts : Accounts) (now : Instant)
    (rawToken : String) (existing : RefreshToken)
    (reuse : refreshCheck crypto accounts now rawToken = .reuse existing) :
    ∃ user, findToken accounts (crypto.hashRefreshToken rawToken) = some (existing, user) ∧
      existing.revokedAt.isSome = true := by
  unfold refreshCheck at reuse
  split at reuse
  · cases reuse
  · next found owner lookup =>
      split at reuse
      · next revoked =>
          cases reuse
          exact ⟨owner, lookup, revoked⟩
      · split at reuse
        · cases reuse
        · split at reuse <;> cases reuse

/-- `login` up to its insert. -/
def loginCheck (crypto : Crypto) (accounts : Accounts) (email password : String) :
    Except Failure User :=
  match accounts.users.rows.find? (·.email == email) with
  | none => .error (.http (unauthorizedError "Invalid email or password"))
  | some user =>
      if !crypto.verifyPassword user.passwordHash password then
        .error (.http (unauthorizedError "Invalid email or password"))
      else if !user.isActive then .error (.http (forbiddenError "Account is disabled"))
      else .ok user

structure Store where
  accounts : Accounts
  clock : Instant
  exchanges : List (Uuid × Uuid)
  covered : List Uuid

inductive Call where
  | idle
  | creating (user : User) (context : RequestContext)
  | rotating (existing : RefreshToken) (user : User) (now : Instant) (context : RequestContext)
  | revoking (userId : Uuid) (now : Instant) (existed : List Uuid)
  | loggingOut (tokenHash : String) (target : Option Uuid)
  | loggingOutAll (userId : Uuid) (existed : List Uuid)
  | issued (presented : Option Uuid) (result : AuthResult)
  | loggedOut
  | failed (failure : Failure)

inductive Input where
  | login (email password : String) (context : RequestContext)
  | refresh (rawToken : String) (context : RequestContext)
  | logout (refreshToken : Option String)
  | logoutAll (userId : Uuid)
  /-- The next database step, with the random values it draws. -/
  | proceed (draw : Nat) (newRaw : String)

inductive Change where
  | tick (milliseconds : Nat)

def tokensOf (accounts : Accounts) (userId : Uuid) : List Uuid :=
  (accounts.refreshTokens.rows.filter (·.userId == userId)).map (·.id)

/-- The token a `logout` presents, when it is active as the call starts. -/
def activeTarget (store : Store) (tokenHash : String) : Option Uuid :=
  ((store.accounts.refreshTokens.rows.find? (·.tokenHash == tokenHash)).filter
    (isRefreshTokenActive · store.clock)).map (·.id)

variable (crypto : Crypto) (config : Config)

def firstStep (store : Store) : Input → Call
  | .login email password context =>
      match loginCheck crypto store.accounts email password with
      | .error failure => .failed failure
      | .ok user => .creating user context
  | .refresh rawToken context =>
      match refreshCheck crypto store.accounts store.clock rawToken with
      | .reject failure => .failed failure
      | .reuse existing =>
          .revoking existing.userId store.clock (tokensOf store.accounts existing.userId)
      | .rotate existing user => .rotating existing user store.clock context
  | .logout none => .loggedOut
  | .logout (some raw) =>
      .loggingOut (crypto.hashRefreshToken raw)
        (activeTarget store (crypto.hashRefreshToken raw))
  | .logoutAll userId => .loggingOutAll userId (tokensOf store.accounts userId)
  | .proceed _ _ => .idle

def exec (input : Input) (store : Store) (call : Call) : Store × Call :=
  match call, input with
  | .idle, input => (store, firstStep crypto store input)
  | .creating user context, .proceed draw newRaw =>
      let id := crypto.uuids.generate draw (ids store.accounts.refreshTokens)
      let row := newToken crypto config id user.id newRaw store.clock context
      match createToken store.accounts row rfl with
      | none => (store, .failed (.prisma .P2002 none))
      | some accounts => ({ store with accounts }, .issued none (authResult user newRaw))
  | .rotating existing user now context, .proceed draw newRaw =>
      let id := crypto.uuids.generate draw (ids store.accounts.refreshTokens)
      let row := newToken crypto config id existing.userId newRaw now context
      match rotateToken store.accounts existing.id row rfl now with
      | .error code => (store, .failed (.prisma code none))
      | .ok accounts =>
          -- The presented row is rewritten whatever has become of it since it was read.
          ({ store with accounts, exchanges := store.exchanges ++ [(existing.id, id)] },
            .issued (some existing.id) (authResult user newRaw))
  | .revoking userId now existed, .proceed _ _ =>
      ({ store with
          accounts := updateManyRevoke store.accounts (·.userId == userId) now
          covered := store.covered ++ existed },
        .failed (.http (unauthorizedError "Refresh token has been revoked")))
  -- The `updateMany` sees the rows of this moment; a successor may come later.
  | .loggingOut tokenHash target, .proceed _ _ =>
      ({ store with
          accounts := updateManyRevoke store.accounts (·.tokenHash == tokenHash) store.clock
          covered := store.covered ++ target.toList },
        .loggedOut)
  | .loggingOutAll userId existed, .proceed _ _ =>
      ({ store with
          accounts := updateManyRevoke store.accounts (·.userId == userId) store.clock
          covered := store.covered ++ existed },
        .loggedOut)
  | call, _ => (store, call)

/-- Everything one step of a call can do to the stored tokens. -/
inductive Effect (store : Store) (call : Call) (input : Input) : Store → Call → Prop where
  | quiet (next : Call) (same : ∀ presented result,
      next = .issued (some presented) result → call = next) :
      Effect store call input store next
  | created (accounts : Accounts) (row : RefreshToken) (result : AuthResult)
      (fresh : row.id ∉ ids store.accounts.refreshTokens)
      (active : row.revokedAt = none) (unlinked : row.replacedById = none)
      (rows : accounts.refreshTokens.rows = store.accounts.refreshTokens.rows ++ [row]) :
      Effect store call input { store with accounts } (.issued none result)
  | rotated (existing : RefreshToken) (user : User) (now : Instant) (context : RequestContext)
      (waiting : call = .rotating existing user now context)
      (proceeds : ∃ draw newRaw, input = .proceed draw newRaw)
      (accounts : Accounts) (row : RefreshToken) (result : AuthResult)
      (fresh : row.id ∉ ids store.accounts.refreshTokens)
      (owner : row.userId = existing.userId)
      (active : row.revokedAt = none) (unlinked : row.replacedById = none)
      (found : ∃ token ∈ store.accounts.refreshTokens.rows ++ [row], token.id = existing.id)
      (rows : accounts.refreshTokens.rows =
        (store.accounts.refreshTokens.rows ++ [row]).map (replace existing.id row.id now)) :
      Effect store call input
        { store with accounts, exchanges := store.exchanges ++ [(existing.id, row.id)] }
        (.issued (some existing.id) result)
  | revoked (selected : RefreshToken → Bool) (now : Instant) (extra : List Uuid) (next : Call)
      (unissued : ∀ presented result, next ≠ .issued (some presented) result)
      (proceeds : ∃ draw newRaw, input = .proceed draw newRaw)
      (aimed : (∃ userId, selected = (·.userId == userId) ∧
          ((∃ started, call = .revoking userId started extra) ∨
            call = .loggingOutAll userId extra)) ∨
        ∃ tokenHash target, selected = (·.tokenHash == tokenHash) ∧
          call = .loggingOut tokenHash target ∧ extra = target.toList) :
      Effect store call input
        { store with
          accounts := updateManyRevoke store.accounts selected now
          covered := store.covered ++ extra } next

theorem firstStep_unissued (store : Store) (input : Input) (presented : Option Uuid)
    (result : AuthResult) : firstStep crypto store input ≠ .issued presented result := by
  cases input with
  | login email password context =>
      simp only [firstStep]
      split <;> simp
  | refresh rawToken context =>
      simp only [firstStep]
      split <;> simp
  | logout refreshToken => cases refreshToken <;> simp [firstStep]
  | logoutAll userId => simp [firstStep]
  | proceed draw newRaw => simp [firstStep]

theorem createToken_rows (accounts next : Accounts) (row : RefreshToken)
    (unlinked : row.replacedById = none)
    (created : createToken accounts row unlinked = some next) :
    next.refreshTokens.rows = accounts.refreshTokens.rows ++ [row] := by
  unfold createToken at created
  split at created
  · contradiction
  · next tokens inserted =>
      rw [← Option.some.inj created]
      exact Table.insert_eq_some _ _ _ inserted

theorem rotateToken_rows (accounts next : Accounts) (presented : Uuid) (row : RefreshToken)
    (unlinked : row.replacedById = none) (now : Instant)
    (rotated : rotateToken accounts presented row unlinked now = .ok next) :
    (∃ token ∈ accounts.refreshTokens.rows ++ [row], token.id = presented) ∧
      next.refreshTokens.rows =
        (accounts.refreshTokens.rows ++ [row]).map (replace presented row.id now) := by
  unfold rotateToken at rotated
  split at rotated
  · contradiction
  · next created inserted =>
      have createdRows := Table.insert_eq_some _ _ _ inserted
      split at rotated
      · next found =>
          split at rotated
          · contradiction
          · next tokens rewritten =>
              rw [← Except.ok.inj rotated, ← createdRows]
              exact ⟨by simpa using found, Table.rewrite_eq_some _ _ _ rewritten⟩
      · contradiction

theorem exec_effect (input : Input) (store : Store) (call : Call) :
    Effect store call input (exec crypto config input store call).1
      (exec crypto config input store call).2 := by
  unfold exec
  split
  · exact .quiet _ fun presented result issued =>
      absurd issued (firstStep_unissued crypto store _ _ _)
  · next user context draw newRaw =>
      dsimp only
      split
      · exact .quiet _ (by simp)
      · next accounts created =>
          exact .created accounts _ _ (crypto.uuids.fresh _ _) rfl rfl
            (createToken_rows _ _ _ _ created)
  · next existing user now context draw newRaw =>
      dsimp only
      split
      · exact .quiet _ (by simp)
      · next accounts rotated =>
          obtain ⟨found, rows⟩ := rotateToken_rows _ _ _ _ _ _ rotated
          exact .rotated existing user now context rfl ⟨draw, newRaw, rfl⟩ accounts
            (newToken crypto config _ existing.userId newRaw now context) _
            (crypto.uuids.fresh _ _) rfl rfl rfl found rows
  · next userId now existed draw newRaw =>
      exact .revoked _ _ _ _ (by simp) ⟨draw, newRaw, rfl⟩
        (Or.inl ⟨userId, rfl, Or.inl ⟨now, rfl⟩⟩)
  · next tokenHash target draw newRaw =>
      exact .revoked _ _ _ _ (by simp) ⟨draw, newRaw, rfl⟩
        (Or.inr ⟨tokenHash, target, rfl, rfl, rfl⟩)
  · next userId existed draw newRaw =>
      exact .revoked _ _ _ _ (by simp) ⟨draw, newRaw, rfl⟩
        (Or.inl ⟨userId, rfl, Or.inr rfl⟩)
  · exact .quiet _ fun _ _ _ => rfl

def machine : Machine Store Call Input Change where
  exec := exec crypto config
  ambient | .tick milliseconds, store => { store with clock := store.clock + milliseconds }

def storedLinks (tokens : Table RefreshToken.clash) : List (Uuid × Uuid) :=
  tokens.rows.filterMap fun token => token.replacedById.map (token.id, ·)

/-- Stored tokens as the service writes them: a token and its successor belong
to one user. -/
structure StoredAccounts extends Accounts where
  sameUser : ∀ token ∈ refreshTokens, ∀ row ∈ refreshTokens,
    token.replacedById = some row.id → row.userId = token.userId

def start (stored : StoredAccounts) (clock : Instant) : System Store Call :=
  ⟨⟨stored.toAccounts, clock, storedLinks stored.refreshTokens, []⟩, fun _ => .idle⟩

/-- `presented` was exchanged for `successor`. -/
def Exchanged (store : Store) (presented successor : Uuid) : Prop :=
  (presented, successor) ∈ store.exchanges

/-- The stored token `id` is unrevoked and unexpired. -/
def Active (store : Store) (id : Uuid) : Prop :=
  ∃ token ∈ store.accounts.refreshTokens, token.id = id ∧
    isRefreshTokenActive token store.clock = true

end FaceVec.Auth

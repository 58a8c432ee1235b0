import FaceVec.Api.Server
import FaceVec.Traces
import FaceVec.Users.Accounts

/-!
The auth and the users router as a machine: any number of concurrent requests
over the accounts and Redis. A request takes one atomic step for each statement,
question to Redis and signature; what it read before is in its own state.
Requests of other routers go as far as their gates. `signed` and `grants` are
histories that no step reads.
-/

namespace FaceVec.Users

open Interleaving Auth Api

variable {K : Type}

/-- `Date.now() / 1000`. -/
def seconds (now : Instant) : ℚ := now / 1000

structure RegisterInput where
  email : String
  password : String
  displayName : String

structure CreateUserInput where
  email : String
  password : String
  displayName : String
  role : Role

structure UpdateUserInput where
  displayName : Option String := none
  role : Option Role := none
  isActive : Option Bool := none
  password : Option String := none

/-- The routes behind `authenticate`; those of other routers by their gates. -/
inductive Request where
  | listUsers (query : ListUsersQuery)
  | getUser (id : Uuid)
  | createUser (input : CreateUserInput)
  | updateUser (id : Uuid) (input : UpdateUserInput)
  | deleteUser (id : Uuid)
  | me
  | logoutAll
  | elsewhere (gates : List Capability)

def Request.gates : Request → List Capability
  | .listUsers _ | .getUser _ | .createUser _ | .updateUser _ _ | .deleteUser _ => [.MANAGE_USERS]
  | .me | .logoutAll => []
  | .elsewhere gates => gates

/-- The catch of the request's handler. -/
def Request.failed : Request → Failure → Failure
  | .createUser _ => createFailed
  | .updateUser _ _ => updateFailed
  | .deleteUser _ => deleteFailed
  | _ => id

/-- Why a bearer token is checked: `authenticate`, or the `optionalAuthenticate`
of a logout with its cookie. -/
inductive Purpose where
  | required (request : Request)
  | optional (cookie : Option String)

inductive Answer where
  | user (status : Nat) (user : UserDto)
  | users (page : Paginated UserDto)
  | tokens (status : Nat) (user : User) (accessToken : AccessTokenClaims) (refreshToken : String)
  | empty
  /-- The request went on to the handler of another router. -/
  | handed (auth : AuthContext)

inductive Call where
  | idle
  | denylisting (claims : AccessTokenClaims) (purpose : Purpose)
  | cutting (claims : AccessTokenClaims) (purpose : Purpose)
  | acting (auth : AuthContext) (request : Request)
  | cuttingOff (auth : AuthContext) (cutoff : ℤ)
  | leaving (cookie : Option String) (auth : Option AuthContext)
  | denying (jti : String) (ttl : ℤ)
  | registering (input : RegisterInput) (context : RequestContext)
  | signing (status : Nat) (user : User) (context : RequestContext)
  | storing (status : Nat) (user : User) (claims : AccessTokenClaims) (context : RequestContext)
  | revoking (userId : Uuid) (now : Instant)
  | rotating (existing : RefreshToken) (user : User) (now : Instant) (context : RequestContext)
  | exchanged (user : User) (refreshToken : String)
  | answered (answer : Answer)
  | failed (failure : Failure)

inductive Input where
  | request (header : Option String) (request : Request)
  | logout (header cookie : Option String)
  | register (input : RegisterInput) (context : RequestContext)
  | login (email password : String) (context : RequestContext)
  | refresh (cookie : Option String) (context : RequestContext)
  | ask (contact : Contact)
  /-- The next statement or signature, with the random values it draws. -/
  | proceed (draw : Nat) (text : String)
  /-- The next statement fails and changes nothing. -/
  | fail (failure : Failure)

inductive Change (K : Type) where
  | tick (milliseconds : Nat)
  /-- The other handlers and consumers change the other tables. -/
  | database (db : Database K)

/-- An account whose role a request of `actor` has set. -/
structure Grant where
  actor : Uuid
  target : Uuid
  role : Role
  deriving DecidableEq, Repr

structure Store (K : Type) where
  directory : Directory K
  redis : Revocations ℚ
  clock : Instant
  signed : List AccessTokenClaims
  grants : List Grant

/-- What lies outside the repository, and the settings. -/
structure Setting where
  crypto : Crypto
  /-- `hashPassword` under the salt it draws. -/
  hash : Nat → String → String
  verifies : ∀ salt password, crypto.verify (hash salt password) password = true
  jwt : Jwt
  config : Config
  contains : Contains

variable (setting : Setting)

section Authentication

variable (store : Store K)

def missingBearer : Failure := .http (unauthorizedError "Missing bearer token")

/-- `authenticate` throws; `optionalAuthenticate` goes on without a principal. -/
def turnedAway (failure : Failure) : Purpose → Call
  | .required _ => .failed failure
  | .optional cookie => .leaving cookie none

def authenticate (header : Option String) (purpose : Purpose) : Call :=
  match bearerToken header with
  | none => turnedAway missingBearer purpose
  | some token =>
      match setting.jwt.verifyAccessToken token (seconds store.clock) with
      | .error failure => turnedAway failure purpose
      | .ok claims => .denylisting claims purpose

def denylist (claims : AccessTokenClaims) (purpose : Purpose) (contact : Contact) : Call :=
  match denylistCheck store.redis contact claims (seconds store.clock) with
  | .error failure => turnedAway failure purpose
  | .ok () => .cutting claims purpose

/-- `requireCapability`, once for each gate on the way. -/
def passGates (auth : AuthContext) (request : Request) : Call :=
  match request.gates.find? fun capability => !can auth.role capability with
  | some missing => .failed (forbidden missing)
  | none => .acting auth request

def cut (claims : AccessTokenClaims) (purpose : Purpose) (contact : Contact) : Call :=
  match cutoffCheck store.redis contact claims (seconds store.clock) with
  | .error failure => turnedAway failure purpose
  | .ok auth =>
      match purpose with
      | .required request => passGates auth request
      | .optional cookie => .leaving cookie (some auth)

def arrive : Input → Call
  | .request header request => authenticate setting store header (.required request)
  | .logout header cookie => authenticate setting store header (.optional cookie)
  | .register input context => .registering input context
  | .login email password context =>
      match loginCheck setting.crypto store.directory.accounts email password with
      | .error failure => .failed failure
      | .ok user => .signing 200 user context
  | .refresh cookie context =>
      match cookie.filter (· != "") with
      | none => .failed (.http (unauthorizedError "Missing refresh token"))
      | some rawToken =>
          match refreshCheck setting.crypto store.directory.accounts store.clock rawToken with
          | .reject failure => .failed failure
          | .reuse existing => .revoking existing.userId store.clock
          | .rotate existing user => .rotating existing user store.clock context
  | .fail failure => .failed failure
  | .ask _ | .proceed _ _ => .idle

end Authentication

section Handlers

variable (auth : AuthContext) (draw : Nat) (store : Store K)

def createUser (input : CreateUserInput) : Store K × Call :=
  match insertUser setting.crypto.uuids draw store.clock input.email
      (setting.hash draw input.password) input.displayName input.role store.directory with
  | .error failure => (store, .failed (createFailed failure))
  | .ok (user, directory) =>
      ({ store with directory, grants := store.grants ++ [⟨auth.userId, user.id, input.role⟩] },
        .answered (.user 201 (serializeUser directory.profiles user)))

def UpdateUserInput.data (input : UpdateUserInput) : UserUpdate :=
  ⟨input.displayName, input.role, input.isActive, input.password.map (setting.hash draw)⟩

def updateUser (id : Uuid) (input : UpdateUserInput) : Store K × Call :=
  match modifyUser store.clock id (input.data setting draw) store.directory with
  | .error failure => (store, .failed (updateFailed failure))
  | .ok (user, directory) =>
      ({ store with
          directory
          grants := store.grants ++ input.role.toList.map (⟨auth.userId, id, ·⟩) },
        .answered (.user 200 (serializeUser directory.profiles user)))

def deleteUser (id : Uuid) : Store K × Call :=
  match removeUser id store.directory with
  | .error failure => (store, .failed (deleteFailed failure))
  | .ok directory => ({ store with directory }, .answered .empty)

def getUser (id : Uuid) : Call :=
  match store.directory.findUser id with
  | none => .failed (.http (notFoundError "User not found"))
  | some user => .answered (.user 200 (serializeUser store.directory.profiles user))

def listUsers (query : ListUsersQuery) : Call :=
  let profiles := store.directory.profiles
  let selected := store.directory.users.rows.filter (query.selects setting.contains profiles)
  let page := pageOf query.page (fun row => (profiles row.id).createdAt) selected
  .answered (.users (paginatedResponse page (serializeUser profiles)))

/-- `meHandler`. -/
def me : Call :=
  match store.directory.findUser auth.userId with
  | none => .failed (.http unauthorizedError)
  | some user => .answered (.user 200 (serializeUser store.directory.profiles user))

def act : Request → Store K × Call
  | .listUsers query => (store, listUsers setting store query)
  | .getUser id => (store, getUser store id)
  | .createUser input => createUser setting auth draw store input
  | .updateUser id input => updateUser setting auth draw store id input
  | .deleteUser id => deleteUser store id
  | .me => (store, me auth store)
  | .logoutAll =>
      ({ store with
          directory := revokeTokens (·.userId == auth.userId) store.clock store.directory },
        .cuttingOff auth ⌊seconds store.clock⌋)
  | .elsewhere _ => (store, .answered (.handed auth))

end Handlers

section Tokens

variable (store : Store K)

def writeRedis (contact : Contact) (write : Revocations ℚ → Revocations ℚ) (next : Call) :
    Store K × Call :=
  match contact with
  | .ready => ({ store with redis := write store.redis }, next)
  | .unready => (store, next)
  | .fails failure => (store, .failed failure)

/-- The end of `logout` and of `logoutAll`. -/
def denyNext (jti : String) (ttl : ℤ) : Call :=
  if 0 < ttl then .denying jti ttl else .answered .empty

def leave (cookie : Option String) (auth : Option AuthContext) : Store K × Call :=
  let next : Call :=
    match auth with
    | none => .answered .empty
    | some auth => denyNext auth.jti (auth.expiresAt - ⌊seconds store.clock⌋)
  match cookie.filter (· != "") with
  | none => (store, next)
  | some raw =>
      let tokenHash := setting.crypto.hashRefreshToken raw
      ({ store with
          directory := revokeTokens (·.tokenHash == tokenHash) store.clock store.directory }, next)

def register (draw : Nat) (input : RegisterInput) (context : RequestContext) : Store K × Call :=
  match insertUser setting.crypto.uuids draw store.clock input.email
      (setting.hash draw input.password) input.displayName .STUDENT store.directory with
  | .error failure => (store, .failed (createFailed failure))
  | .ok (user, directory) => ({ store with directory }, .signing 201 user context)

def claimsOf (user : User) (jti : String) : AccessTokenClaims :=
  signAccessToken setting.config ⟨user.id, user.role⟩ jti (seconds store.clock)

/-- `createRefreshToken`. -/
def storeToken (draw : Nat) (raw : String) (status : Nat) (user : User)
    (claims : AccessTokenClaims) (context : RequestContext) : Store K × Call :=
  let id := setting.crypto.uuids.generate draw (ids store.directory.tokens)
  let row := newToken setting.crypto setting.config id user.id raw store.clock context
  match insertToken row rfl store.directory with
  | .error failure => (store, .failed failure)
  | .ok directory => ({ store with directory }, .answered (.tokens status user claims raw))

/-- The transaction of `refresh`; `now` was read with the presented token. -/
def exchange (draw : Nat) (raw : String) (existing : RefreshToken) (user : User) (now : Instant)
    (context : RequestContext) : Store K × Call :=
  let id := setting.crypto.uuids.generate draw (ids store.directory.tokens)
  let row := newToken setting.crypto setting.config id existing.userId raw now context
  match exchangeToken existing.id row rfl now store.directory with
  | .error failure => (store, .failed failure)
  | .ok directory => ({ store with directory }, .exchanged user raw)

end Tokens

/-- A call whose next step is a statement. -/
def Call.fails (failure : Failure) : Call → Call
  | .acting _ request => .failed (request.failed failure)
  | .registering _ _ => .failed (createFailed failure)
  | .leaving _ _ | .storing _ _ _ _ | .revoking _ _ | .rotating _ _ _ _ => .failed failure
  | call => call

def exec (input : Input) (store : Store K) (call : Call) : Store K × Call :=
  match call, input with
  | .idle, input => (store, arrive setting store input)
  | .denylisting claims purpose, .ask contact => (store, denylist store claims purpose contact)
  | .cutting claims purpose, .ask contact => (store, cut store claims purpose contact)
  | .acting auth request, .proceed draw _ => act setting auth draw store request
  | .cuttingOff auth cutoff, .ask contact =>
      writeRedis store contact
        (revokeUserTokensBefore · auth.userId cutoff (setting.config.JWT_REFRESH_TTL : ℕ)
          (seconds store.clock))
        (denyNext auth.jti (auth.expiresAt - cutoff))
  | .denying jti ttl, .ask contact =>
      writeRedis store contact (revokeAccessToken · jti ttl (seconds store.clock))
        (.answered .empty)
  | .leaving cookie auth, .proceed _ _ => leave setting store cookie auth
  | .registering input context, .proceed draw _ => register setting store draw input context
  | .signing status user context, .proceed _ jti =>
      let claims := claimsOf setting store user jti
      ({ store with signed := store.signed ++ [claims] }, .storing status user claims context)
  | .storing status user claims context, .proceed draw raw =>
      storeToken setting store draw raw status user claims context
  | .revoking userId now, .proceed _ _ =>
      ({ store with directory := revokeTokens (·.userId == userId) now store.directory },
        .failed (.http (unauthorizedError "Refresh token has been revoked")))
  | .rotating existing user now context, .proceed draw raw =>
      exchange setting store draw raw existing user now context
  | .exchanged user raw, .proceed _ jti =>
      let claims := claimsOf setting store user jti
      ({ store with signed := store.signed ++ [claims] },
        .answered (.tokens 200 user claims raw))
  | call, .fail failure => (store, call.fails failure)
  | call, _ => (store, call)

def machine : Machine (Store K) Call Input (Change K) where
  exec := exec setting
  ambient
    | .tick milliseconds, store => { store with clock := store.clock + milliseconds }
    | .database db, store => { store with directory := { store.directory with db } }

/-- Any stored accounts and revocations, and no access token signed so far. -/
def start (directory : Directory K) (redis : Revocations ℚ) (clock : Instant) :
    System (Store K) Call :=
  ⟨⟨directory, redis, clock, [], []⟩, fun _ => .idle⟩

/-- Nobody presents a signed token that this service has not signed. -/
def Unforged (system : System (Store K) Call) : Event Input (Change K) → Prop
  | .act _ (.request header _) | .act _ (.logout header _) =>
      ∀ token claims, bearerToken header = some token →
        setting.jwt.payload token = some (AccessTokenClaims.payload claims) →
        claims ∈ system.store.signed
  | _ => True

end FaceVec.Users

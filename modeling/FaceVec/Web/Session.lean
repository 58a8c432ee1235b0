import FaceVec.Interleaving

/-!
`lib/auth.tsx` and `request` of `lib/api.ts` in one tab: the account that the
page shows against the token that its requests carry. Every call of the API is
a process; an answer is whatever the server sends. `sent` is a history.
-/

namespace FaceVec.Web.Session

open Interleaving

inductive Status where
  | loading | authenticated | unauthenticated
  deriving DecidableEq, Repr

/-- The response comes with a token for the account it describes. -/
structure AuthResponse {User : Type} (owner : String → User) where
  accessToken : String
  user : User
  owned : owner accessToken = user

structure Tab (User : Type) where
  accessToken : Option String
  status : Status
  user : Option User
  /-- The bootstrap effects so far, and the one that has not been cleaned up. -/
  effects : Nat
  mounted : Option Nat
  /-- Whose refresh token the browser holds, for all its tabs. -/
  cookie : Option User
  /-- The bearer token of each request, and the account that was shown. -/
  sent : List (Option String × Option User)

inductive Call (User : Type) where
  | idle
  | bootstrapping (effect : Nat) (cookie : Option User)
  | loggingIn
  | loggingOut
  | requesting (path : String) (retry : Bool)
  /-- The refresh of a request that was answered with a 401. -/
  | renewing (path : String) (cookie : Option User)
  | ended

variable {User : Type} (owner : String → User)

inductive Answer where
  | auth (response : AuthResponse owner)
  /-- Any other success. -/
  | done
  | refused (status : Nat)
  | unreachable

inductive Input where
  | mount
  | login
  | logout
  | fetch (path : String)
  | answer (answer : Answer owner)

inductive Change (User : Type) where
  | cleanup
  /-- Another tab signs in or out. -/
  | elsewhere (cookie : Option User)

namespace Tab

variable (tab : Tab User)

/-- `headers.authorization`. -/
def send : Tab User :=
  { tab with sent := tab.sent ++ [(tab.accessToken.filter (· != ""), tab.user)] }

/-- `Set-Cookie`. -/
def receive (response : AuthResponse owner) : Tab User :=
  { tab with cookie := some response.user }

def signIn (response : AuthResponse owner) : Tab User :=
  { tab with
    accessToken := some response.accessToken
    user := some response.user
    status := .authenticated }

def signOut : Tab User :=
  { tab with accessToken := none, user := none, status := .unauthenticated }

end Tab

/-- The continuation of the first load's `api.refresh()`. -/
def bootstrapped (effect : Nat) (answer : Answer owner) (tab : Tab User) : Tab User :=
  match answer with
  | .auth response =>
      let tab := tab.receive owner response
      if tab.mounted = some effect then tab.signIn owner response else tab
  | _ => if tab.mounted = some effect then { tab with status := .unauthenticated } else tab

def loggedIn (answer : Answer owner) (tab : Tab User) : Tab User :=
  match answer with
  | .auth response => (tab.receive owner response).signIn owner response
  | _ => tab

/-- Whatever the answer, the page forgets the session; a success clears the cookie. -/
def loggedOut (answer : Answer owner) (tab : Tab User) : Tab User :=
  match answer with
  | .auth _ | .done => { tab.signOut with cookie := none }
  | _ => tab.signOut

def isAuth (path : String) : Bool := "/auth/".toList.isPrefixOf path.toList

def exec (input : Input owner) (tab : Tab User) (call : Call User) : Tab User × Call User :=
  match call, input with
  | .idle, .mount =>
      ({ tab.send with effects := tab.effects + 1, mounted := some tab.effects },
        .bootstrapping tab.effects tab.cookie)
  | .idle, .login => (tab.send, .loggingIn)
  | .idle, .logout => (tab.send, .loggingOut)
  | .idle, .fetch path => (tab.send, .requesting path true)
  | .bootstrapping effect _, .answer answer => (bootstrapped owner effect answer tab, .ended)
  | .loggingIn, .answer answer => (loggedIn owner answer tab, .ended)
  | .loggingOut, .answer answer => (loggedOut owner answer tab, .ended)
  | .requesting path retry, .answer (.refused 401) =>
      if retry && !isAuth path then (tab.send, .renewing path tab.cookie) else (tab, .ended)
  | .requesting _ _, .answer _ => (tab, .ended)
  | .renewing path _, .answer (.auth response) =>
      let tab := { tab.receive owner response with accessToken := some response.accessToken }
      (tab.send, .requesting path false)
  | .renewing _ _, .answer _ => (tab, .ended)
  | call, _ => (tab, call)

def machine : Machine (Tab User) (Call User) (Input owner) (Change User) where
  exec := exec owner
  ambient
    | .cleanup, tab => { tab with mounted := none }
    | .elsewhere cookie, tab => { tab with cookie }

def start (cookie : Option User) : System (Tab User) (Call User) :=
  ⟨⟨none, .loading, none, 0, none, cookie, []⟩, fun _ => .idle⟩

/-- The page shows the account that its token is for, and without a token none. -/
def Agrees (tab : Tab User) : Prop :=
  match tab.status with
  | .authenticated => ∃ token, tab.accessToken = some token ∧ tab.user = some (owner token)
  | _ => tab.accessToken = none ∧ tab.user = none

/-- No bootstrap fails after a login, and a renewed token is for the account shown. -/
def keeps (input : Input owner) (tab : Tab User) : Call User → Prop
  | .bootstrapping effect _ =>
      match input with
      | .answer (.auth _) => True
      | .answer _ => tab.mounted = some effect → tab.status ≠ .authenticated
      | _ => True
  | .renewing _ _ =>
      match input with
      | .answer (.auth response) => tab.user = some response.user
      | _ => True
  | _ => True

def Keeps (system : System (Tab User) (Call User)) : Event (Input owner) (Change User) → Prop
  | .act index input => keeps owner input system.store (system.procs index)
  | .env _ => True

section Steps

variable {tab : Tab User}

theorem agrees_signIn (response : AuthResponse owner) : Agrees owner (tab.signIn owner response) :=
  ⟨response.accessToken, rfl, congrArg some response.owned.symm⟩

theorem agrees_signOut (tab : Tab User) : Agrees owner tab.signOut := ⟨rfl, rfl⟩

/-- A tab that agrees may say it is signed out exactly if it was not signed in. -/
theorem agrees_forgotten (agrees : Agrees owner tab) :
    Agrees owner { tab with status := .unauthenticated } ↔ tab.status ≠ .authenticated := by
  unfold Agrees at agrees ⊢
  cases status : tab.status with
  | authenticated =>
      rw [status] at agrees
      obtain ⟨token, held, _⟩ := agrees
      simp [held]
  | loading =>
      rw [status] at agrees
      simpa using agrees
  | unauthenticated =>
      rw [status] at agrees
      simpa using agrees

/-- A token that is renewed must be for the account that is shown. -/
theorem agrees_renewed (agrees : Agrees owner tab) (response : AuthResponse owner) :
    Agrees owner { tab with accessToken := some response.accessToken } ↔
      tab.user = some response.user := by
  unfold Agrees at agrees ⊢
  cases status : tab.status with
  | authenticated => simp [response.owned]
  | loading =>
      rw [status] at agrees
      simp [agrees.2]
  | unauthenticated =>
      rw [status] at agrees
      simp [agrees.2]

end Steps

section Runs

end Runs

end FaceVec.Web.Session

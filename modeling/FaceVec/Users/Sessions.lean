import FaceVec.Users.Lapses

/-!
What outlives what: a refresh token every change of its account but the
deletion, and the credentials of an account every request but the
administrators' own.
-/

namespace FaceVec.Users

open Interleaving Auth Api

variable {K : Type} (setting : Setting)

section Tokens

/-- The requests whose next statement ends a session: its token is exchanged,
or a revocation or deletion reaches it. -/
def Call.ends (token : RefreshToken) : Call → Bool
  | .rotating existing _ _ _ => existing.id == token.id
  | .revoking userId _ => userId == token.userId
  | .acting auth .logoutAll => auth.userId == token.userId
  | .acting _ (.deleteUser id) => id == token.userId
  | .leaving (some raw) _ => setting.crypto.hashRefreshToken raw == token.tokenHash
  | _ => false

def ends (token : RefreshToken) (system : System (Store K) Call) : Event Input (Change K) → Bool
  | .act index (.proceed _ _) => (system.procs index).ends setting token
  | _ => false

structure Open (token : RefreshToken) (store : Store K) : Prop where
  stored : token ∈ store.directory.tokens
  unrevoked : token.revokedAt = none
  unlinked : token.replacedById = none

theorem revoke_spares (selected : RefreshToken → Bool) (now : Instant) (token : RefreshToken)
    (spared : selected token = false) : revoke selected now token = token := by
  simp [revoke, spared]

theorem open_step (token : RefreshToken) (system : System (Store K) Call)
    (event : Event Input (Change K)) (open_ : Open token system.store)
    (continues : ends setting token system event = false) :
    Open token ((machine setting).step system event).store := by
  refine ⟨?_, open_.unrevoked, open_.unlinked⟩
  have stored := open_.stored
  cases event with
  | env change => cases change <;> exact stored
  | act index input =>
      change token ∈ (exec setting input system.store (system.procs index)).1.directory.tokens
      have effect := exec_effect setting system.store input (system.procs index)
      revert effect
      generalize (exec setting input system.store (system.procs index)).1 = after
      intro effect
      cases effect with
      | none => exact stored
      | redis redis => exact stored
      | signed user jti carried => exact stored
      | revoked selected now proceeds aimed =>
          obtain ⟨draw, text, rfl⟩ := proceeds
          have spared : selected token = false := by
            rcases aimed with ⟨userId, rfl, revoking | ⟨auth, rfl, acting⟩⟩ |
              ⟨raw, auth, rfl, leaving⟩
            · have other : ¬ userId = token.userId := by
                simpa [ends, Call.ends, revoking] using continues
              simpa using Ne.symm other
            · have other : ¬ auth.userId = token.userId := by
                simpa [ends, Call.ends, acting] using continues
              simpa using Ne.symm other
            · have other : ¬ setting.crypto.hashRefreshToken raw = token.tokenHash := by
                simpa [ends, Call.ends, leaving] using continues
              simpa using Ne.symm other
          exact List.mem_map.mpr ⟨token, stored, revoke_spares selected now token spared⟩
      | stored directory row same rows =>
          rw [Table.mem_rows, rows]
          exact List.mem_append_left _ stored
      | exchanged directory existing row user now context rotating proceeds same rows =>
          obtain ⟨draw, text, rfl⟩ := proceeds
          have other : ¬ existing.id = token.id := by simpa [ends, Call.ends, rotating] using continues
          rw [Table.mem_rows, rows]
          exact List.mem_map.mpr ⟨token, List.mem_append_left _ stored,
            replace_other _ _ _ _ (Ne.symm other)⟩
      | registered directory user role rows tokens => exact tokens ▸ stored
      | created directory auth asked user acting role rows tokens => exact tokens ▸ stored
      | updated directory auth id changes draw acting proceeds rows tokens => exact tokens ▸ stored
      | deleted directory auth id acting proceeds users tokens =>
          obtain ⟨draw, text, rfl⟩ := proceeds
          have other : ¬ id = token.userId := by simpa [ends, Call.ends, acting] using continues
          exact tokens token stored (Ne.symm other) open_.unlinked

/-- The statement of `refresh` about a stored token, whatever has become of its account. -/
theorem refreshCheck_open (crypto : Crypto) (directory : Directory K) (now : Instant) (raw : String)
    (token : RefreshToken) (stored : token ∈ directory.tokens)
    (presented : token.tokenHash = crypto.hashRefreshToken raw) (unrevoked : token.revokedAt = none) :
    ∃ user ∈ directory.users, user.id = token.userId ∧
      refreshCheck crypto directory.accounts now raw =
        if token.expiresAt ≤ now then .reject (.http (unauthorizedError "Refresh token expired"))
        else if !user.isActive then .reject (.http (forbiddenError "Account is disabled"))
        else .rotate token user := by
  obtain ⟨user, member, own⟩ := directory.owned token stored
  have byHash : directory.accounts.refreshTokens.rows.find?
      (·.tokenHash == crypto.hashRefreshToken raw) = some token :=
    Table.find_single _ _ token (fun a b one other => by simp_all [RefreshToken.clash]) stored
      (by simp [presented])
  have byId : directory.accounts.users.rows.find? (·.id == token.userId) = some user :=
    own ▸ directory.findUser_of_mem user member
  refine ⟨user, member, own, ?_⟩
  simp [refreshCheck, findToken, byHash, byId, unrevoked]

/-- A session goes on while it is not ended: whatever else was done, new
passwords, roles and deactivations included, its token is exchanged at the end
if it has not expired and its account is active then. -/
theorem session_continues (system : System (Store K) Call) (events : List (Event Input (Change K)))
    (token : RefreshToken) (raw : String) (open_ : Open token system.store)
    (presented : token.tokenHash = setting.crypto.hashRefreshToken raw) (nonempty : raw ≠ "")
    (continues : (machine setting).Along (fun system event => ends setting token system event = false)
      system events)
    (context : RequestContext) :
    let store := ((machine setting).run system events).store
    ∃ user ∈ store.directory.users, user.id = token.userId ∧
      arrive setting store (.refresh (some raw) context) =
        if token.expiresAt ≤ store.clock then
          .failed (.http (unauthorizedError "Refresh token expired"))
        else if !user.isActive then .failed (.http (forbiddenError "Account is disabled"))
        else .rotating token user store.clock context := by
  have last : Open token ((machine setting).run system events).store :=
    along_invariant (machine setting) _ (fun system => Open token system.store)
      (open_step setting token) system events open_ continues
  obtain ⟨user, stored, own, outcome⟩ := refreshCheck_open setting.crypto
    ((machine setting).run system events).store.directory
    ((machine setting).run system events).store.clock raw token last.stored presented last.unrevoked
  refine ⟨user, stored, own, ?_⟩
  have kept : (some raw).filter (· != "") = some raw := by simp [nonempty]
  simp only [arrive, kept, outcome]
  by_cases expired : token.expiresAt ≤ ((machine setting).run system events).store.clock
  · simp only [expired, if_true]
  · by_cases disabled : (!user.isActive) = true
    · simp only [expired, disabled, if_true, if_false]
    · simp only [expired, disabled, if_false, Bool.false_eq_true]

def firstToken : RefreshToken := ⟨1, 1, "raw", 1000, none, none, none, none⟩

def loggedIn : System (Store ℚ) Call :=
  (machine office).run (start founded noRevocation 0)
    [.act 0 (.login "root@x" "secret" ⟨none, none⟩), .act 0 (.proceed 0 "j"),
      .act 0 (.proceed 0 "raw")]

def passwordChange : List (Event Input (Change ℚ)) :=
  [.act 1 (.request (some ("Bearer " ++ spelled.sign rootClaims))
      (.updateUser 1 { password := some "changed" })),
    .act 1 (.ask .ready), .act 1 (.ask .ready), .act 1 (.proceed 0 "")]

/-- The password is changed, and the session goes on. -/
theorem session_continues_password :
    arrive office ((machine office).run loggedIn passwordChange).store
        (.refresh (some "raw") ⟨none, none⟩) =
      .rotating firstToken { root with passwordHash := "changed" } 0 ⟨none, none⟩ := by
  obtain ⟨user, stored, own, outcome⟩ := session_continues office loggedIn passwordChange
    firstToken "raw" ⟨by decide +kernel, rfl, rfl⟩ rfl (by decide) (by decide +kernel) ⟨none, none⟩
  have others : ∀ user ∈ ((machine office).run loggedIn passwordChange).store.directory.users.rows,
      user.id = 1 → user = { root with passwordHash := "changed" } := by decide +kernel
  have clock : ((machine office).run loggedIn passwordChange).store.clock = 0 := by decide +kernel
  rw [others user stored own, clock] at outcome
  exact outcome

end Tokens

section Credentials

/-- The requests whose next statement rewrites or deletes the account. -/
def Call.rewrites (id : Uuid) : Call → Bool
  | .acting _ (.updateUser target _) | .acting _ (.deleteUser target) => target == id
  | _ => false

def rewrites (id : Uuid) (system : System (Store K) Call) : Event Input (Change K) → Bool
  | .act index (.proceed _ _) => (system.procs index).rewrites id
  | _ => false

theorem account_step (user : User) (system : System (Store K) Call)
    (event : Event Input (Change K)) (stored : user ∈ system.store.directory.users)
    (keeps : rewrites user.id system event = false) :
    user ∈ ((machine setting).step system event).store.directory.users := by
  cases event with
  | env change => cases change <;> exact stored
  | act index input =>
      change user ∈ (exec setting input system.store (system.procs index)).1.directory.users
      have effect := exec_effect setting system.store input (system.procs index)
      revert effect
      generalize (exec setting input system.store (system.procs index)).1 = after
      intro effect
      cases effect with
      | none => exact stored
      | redis redis => exact stored
      | signed other jti carried => exact stored
      | revoked selected now proceeds aimed => exact stored
      | stored directory row same rows => exact same ▸ stored
      | exchanged directory existing row other now context rotating proceeds same rows =>
          exact same ▸ stored
      | registered directory other role rows tokens =>
          rw [Table.mem_rows, rows]
          exact List.mem_append_left _ stored
      | created directory auth asked other acting role rows tokens =>
          rw [Table.mem_rows, rows]
          exact List.mem_append_left _ stored
      | updated directory auth id changes draw acting proceeds rows tokens =>
          obtain ⟨draw', text, rfl⟩ := proceeds
          have other : ¬ id = user.id := by simpa [rewrites, Call.rewrites, acting] using keeps
          rw [Table.mem_rows, rows]
          exact List.mem_map.mpr ⟨user, stored, if_neg (Ne.symm other)⟩
      | deleted directory auth id acting proceeds users tokens =>
          obtain ⟨draw, text, rfl⟩ := proceeds
          have other : ¬ id = user.id := by simpa [rewrites, Call.rewrites, acting] using keeps
          exact (users user).mpr ⟨stored, Ne.symm other⟩

/-- The answer of `login` to any e-mail address and password: one failure for
an unknown address and a wrong password alike. -/
def wrongCredentials : Failure := .http (unauthorizedError "Invalid email or password")

theorem loginCheck_stored (crypto : Crypto) (directory : Directory K) (user : User)
    (stored : user ∈ directory.users) (password : String) :
    loginCheck crypto directory.accounts user.email password =
      if crypto.verify user.passwordHash password then
        if user.isActive then .ok user else .error (.http (forbiddenError "Account is disabled"))
      else .error wrongCredentials := by
  have found : directory.accounts.users.rows.find? (·.email == user.email) = some user :=
    directory.findByEmail_of_mem user stored
  simp only [loginCheck, found, Crypto.verifyPassword]
  by_cases right : crypto.verify user.passwordHash password = true
  · by_cases active : user.isActive = true <;> simp [right, active]
  · simp [right, wrongCredentials]

/-- The step in which `register` commits the new account. -/
theorem register_commits (store : Store K) (draw : Nat) (input : RegisterInput)
    (context issued : RequestContext) (user : User) (status : Nat)
    (commits : (register setting store draw input context).2 = .signing status user issued) :
    user ∈ (register setting store draw input context).1.directory.users ∧
      user.email = input.email ∧ user.isActive = true ∧
      user.passwordHash = setting.hash draw input.password := by
  unfold register at commits ⊢
  split at commits
  · cases commits
  · next added directory inserted =>
      cases commits
      obtain ⟨⟨email, hashed, _, active⟩, rows, _⟩ := insertUser_ok _ _ _ _ _ _ _ _ _ _ inserted
      refine ⟨?_, email, active, hashed⟩
      rw [Table.mem_rows, rows]
      exact List.mem_append_right _ List.mem_cons_self

/-- argon2 verifies a hash for no password but the one it was made from. -/
def Binding : Prop :=
  ∀ salt own password, setting.crypto.verify (setting.hash salt own) password = true →
    password = own

/-- Whoever registers can log in with these credentials ever after, and with no
other password, until an administrator rewrites the account; others cannot
take the address. -/
theorem register_then_login (binding : Binding setting) (system : System (Store K) Call)
    (index draw : Nat) (text : String) (input : RegisterInput) (context issued : RequestContext)
    (status : Nat) (user : User) (registering : system.procs index = .registering input context)
    (commits : ((machine setting).step system (.act index (.proceed draw text))).procs index =
      .signing status user issued)
    (events : List (Event Input (Change K)))
    (keeps : (machine setting).Along (fun system event => rewrites user.id system event = false)
      ((machine setting).step system (.act index (.proceed draw text))) events)
    (later : RequestContext) :
    let store := ((machine setting).run system
      (.act index (.proceed draw text) :: events)).store
    user ∈ store.directory.users ∧ user.email = input.email ∧
      user.passwordHash = setting.hash draw input.password ∧
      arrive setting store (.login input.email input.password later) = .signing 200 user later ∧
      (∀ password, password ≠ input.password →
        arrive setting store (.login input.email password later) = .failed wrongCredentials) ∧
      ∀ other ∈ store.directory.users, other.email = input.email → other = user := by
  rw [step_self, registering] at commits
  obtain ⟨stored, email, active, hashed⟩ :=
    register_commits setting system.store draw input context issued user status commits
  have kept : user ∈ ((machine setting).run system
      (.act index (.proceed draw text) :: events)).store.directory.users := by
    refine along_invariant (machine setting) _
      (fun system => user ∈ system.store.directory.users) (account_step setting user) _ events ?_ keeps
    rw [step_store, registering]
    exact stored
  have outcome := loginCheck_stored setting.crypto _ user kept
  rw [email] at outcome
  refine ⟨kept, email, hashed, ?_, fun password different => ?_, fun other member same => ?_⟩
  · have verifies : setting.crypto.verify user.passwordHash input.password = true :=
      hashed ▸ setting.verifies draw input.password
    simp only [arrive, outcome, verifies, active, if_true]
  · have wrong : setting.crypto.verify user.passwordHash password = false := by
      rw [hashed, Bool.eq_false_iff]
      exact fun verified => different (binding _ _ _ verified)
    simp only [arrive, outcome, wrong, Bool.false_eq_true, if_false]
  · exact Table.eq_of_clash _ other user member kept (by simp [User.clash, same, email])
      (by simp [User.clash, same, email])

def signedUp : System (Store ℚ) Call :=
  (machine office).run (start founded noRevocation 0)
    [.act 1 (.register ⟨"s@x", "password", "S"⟩ ⟨none, none⟩)]

/-- Meanwhile the administrator logs in, and a second goes by. -/
def elsewhere : List (Event Input (Change ℚ)) :=
  [.act 0 (.login "root@x" "secret" ⟨none, none⟩), .act 0 (.proceed 0 "j"), .env (.tick 1000)]

theorem register_then_login_later :
    arrive office ((machine office).run signedUp (.act 1 (.proceed 0 "") :: elsewhere)).store
        (.login "s@x" "password" ⟨none, none⟩) =
      .signing 200 ⟨2, "s@x", "password", .STUDENT, true⟩ ⟨none, none⟩ ∧
    arrive office ((machine office).run signedUp (.act 1 (.proceed 0 "") :: elsewhere)).store
        (.login "s@x" "secret" ⟨none, none⟩) = .failed wrongCredentials ∧
    ∀ other ∈ ((machine office).run signedUp
        (.act 1 (.proceed 0 "") :: elsewhere)).store.directory.users,
      other.email = "s@x" → other = ⟨2, "s@x", "password", .STUDENT, true⟩ := by
  have binding : Binding office := fun salt own password verified => (eq_of_beq verified).symm
  obtain ⟨-, -, -, right, wrong, alone⟩ := register_then_login office binding signedUp 1 0 ""
    ⟨"s@x", "password", "S"⟩ ⟨none, none⟩ ⟨none, none⟩ 201 ⟨2, "s@x", "password", .STUDENT, true⟩
    (by rfl) (by rfl) elsewhere (by decide +kernel) ⟨none, none⟩
  exact ⟨right, wrong "secret" (by decide), alone⟩

end Credentials

end FaceVec.Users

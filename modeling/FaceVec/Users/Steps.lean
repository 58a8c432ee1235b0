import FaceVec.Users.Service

/-!
What one step of a request can do: to the accounts and the signed tokens, and
to what the request itself carries on.
-/

namespace FaceVec.Users

open Interleaving Auth Api

variable {K : Type} (setting : Setting)

/-- The user an access token is still to be signed for, as it was read. -/
def Call.carried : Call → Option User
  | .signing _ user _ | .rotating _ user _ _ | .exchanged user _ => some user
  | _ => none

/-- The verified claims that Redis is still to be asked about. -/
def Call.presented : Call → Option AccessTokenClaims
  | .denylisting claims _ | .cutting claims _ => some claims
  | _ => none

def Call.actor : Call → Option AuthContext
  | .acting auth _ | .cuttingOff auth _ | .answered (.handed auth) => some auth
  | .leaving _ auth => auth
  | _ => none

def Input.Proceeds (input : Input) : Prop := ∃ draw text, input = .proceed draw text

/-- Everything one step can do to the store. -/
inductive Effect (store : Store K) (call : Call) (input : Input) : Store K → Prop where
  | none : Effect store call input store
  | redis (redis : Revocations ℚ) : Effect store call input { store with redis }
  | signed (user : User) (jti : String) (carried : call.carried = some user) :
      Effect store call input
        { store with signed := store.signed ++ [claimsOf setting store user jti] }
  | revoked (selected : RefreshToken → Bool) (now : Instant) (proceeds : input.Proceeds)
      (aimed : (∃ userId, selected = (·.userId == userId) ∧
          (call = .revoking userId now ∨
            ∃ auth, auth.userId = userId ∧ call = .acting auth .logoutAll)) ∨
        ∃ raw auth, selected = (·.tokenHash == setting.crypto.hashRefreshToken raw) ∧
          call = .leaving (some raw) auth) :
      Effect store call input { store with directory := revokeTokens selected now store.directory }
  | stored (directory : Directory K) (row : RefreshToken)
      (same : directory.users = store.directory.users)
      (rows : directory.tokens.rows = store.directory.tokens.rows ++ [row]) :
      Effect store call input { store with directory }
  | exchanged (directory : Directory K) (existing row : RefreshToken) (user : User) (now : Instant)
      (context : RequestContext) (rotating : call = .rotating existing user now context)
      (proceeds : input.Proceeds) (same : directory.users = store.directory.users)
      (rows : directory.tokens.rows =
        (store.directory.tokens.rows ++ [row]).map (replace existing.id row.id now)) :
      Effect store call input { store with directory }
  | registered (directory : Directory K) (user : User) (role : user.role = .STUDENT)
      (rows : directory.users.rows = store.directory.users.rows ++ [user])
      (tokens : directory.tokens = store.directory.tokens) :
      Effect store call input { store with directory }
  | created (directory : Directory K) (auth : AuthContext) (asked : CreateUserInput) (user : User)
      (acting : call = .acting auth (.createUser asked)) (role : user.role = asked.role)
      (rows : directory.users.rows = store.directory.users.rows ++ [user])
      (tokens : directory.tokens = store.directory.tokens) :
      Effect store call input
        { store with directory, grants := store.grants ++ [⟨auth.userId, user.id, asked.role⟩] }
  | updated (directory : Directory K) (auth : AuthContext) (id : Uuid) (changes : UpdateUserInput)
      (draw : Nat) (acting : call = .acting auth (.updateUser id changes))
      (proceeds : input.Proceeds)
      (rows : directory.users.rows =
        store.directory.users.rows.map ((changes.data setting draw).applyTo id))
      (tokens : directory.tokens = store.directory.tokens) :
      Effect store call input
        { store with
          directory
          grants := store.grants ++ changes.role.toList.map (⟨auth.userId, id, ·⟩) }
  | deleted (directory : Directory K) (auth : AuthContext) (id : Uuid)
      (acting : call = .acting auth (.deleteUser id)) (proceeds : input.Proceeds)
      (users : ∀ user, user ∈ directory.users ↔ user ∈ store.directory.users ∧ user.id ≠ id)
      (tokens : ∀ token ∈ store.directory.tokens, token.userId ≠ id → token.replacedById = none →
        token ∈ directory.tokens) :
      Effect store call input { store with directory }

section Store

variable (store : Store K)

theorem act_effect (auth : AuthContext) (request : Request) (draw : Nat) (text : String) :
    Effect setting store (.acting auth request) (.proceed draw text)
      (act setting auth draw store request).1 := by
  have proceeds : (Input.proceed draw text).Proceeds := ⟨draw, text, rfl⟩
  cases request with
  | listUsers query => exact .none
  | getUser id => exact .none
  | createUser input =>
      simp only [act, createUser]
      split
      · exact .none
      · next user directory inserted =>
          obtain ⟨⟨_, _, role, _⟩, rows, tokens⟩ := insertUser_ok _ _ _ _ _ _ _ _ _ _ inserted
          exact .created directory auth input user rfl role rows tokens
  | updateUser id input =>
      simp only [act, updateUser]
      split
      · exact .none
      · next user directory modified =>
          obtain ⟨_, rows, tokens⟩ := modifyUser_ok _ _ _ _ _ _ modified
          exact .updated directory auth id input draw rfl proceeds rows tokens
  | deleteUser id =>
      simp only [act, deleteUser]
      split
      · exact .none
      · next directory removed =>
          obtain ⟨users, tokens⟩ := removeUser_ok _ _ _ removed
          exact .deleted directory auth id rfl proceeds users tokens
  | me => exact .none
  | logoutAll => exact .revoked _ _ proceeds (Or.inl ⟨_, rfl, Or.inr ⟨auth, rfl, rfl⟩⟩)
  | elsewhere gates => exact .none

theorem writeRedis_effect (call next : Call) (input : Input) (contact : Contact)
    (write : Revocations ℚ → Revocations ℚ) :
    Effect setting store call input (writeRedis store contact write next).1 := by
  cases contact with
  | ready => exact .redis _
  | unready => exact .none
  | fails failure => exact .none

theorem leave_effect (cookie : Option String) (auth : Option AuthContext) (input : Input)
    (proceeds : input.Proceeds) :
    Effect setting store (.leaving cookie auth) input (leave setting store cookie auth).1 := by
  unfold leave
  cases present : cookie.filter (· != "") with
  | none => exact .none
  | some raw =>
      obtain ⟨rfl, _⟩ := Option.filter_eq_some_iff.mp present
      exact .revoked _ _ proceeds (Or.inr ⟨raw, auth, rfl, rfl⟩)

theorem exec_effect (input : Input) (call : Call) :
    Effect setting store call input (exec setting input store call).1 := by
  unfold exec
  split
  · exact .none
  · exact .none
  · exact .none
  · next auth request draw text => exact act_effect setting store auth request draw text
  · exact writeRedis_effect setting store _ _ _ _ _
  · exact writeRedis_effect setting store _ _ _ _ _
  · exact leave_effect setting store _ _ _ ⟨_, _, rfl⟩
  · next input context draw _ =>
      unfold register
      split
      · exact .none
      · next user directory inserted =>
          obtain ⟨⟨_, _, role, _⟩, rows, tokens⟩ := insertUser_ok _ _ _ _ _ _ _ _ _ _ inserted
          exact .registered directory user role rows tokens
  · exact .signed _ _ rfl
  · next status user claims context draw raw =>
      simp only [storeToken]
      split
      · exact .none
      · next directory inserted =>
          obtain ⟨same, rows⟩ := insertToken_ok _ _ _ _ inserted
          exact .stored directory _ same rows
  · next userId now _ _ => exact .revoked _ _ ⟨_, _, rfl⟩ (Or.inl ⟨userId, rfl, Or.inl rfl⟩)
  · next existing user now context draw raw =>
      simp only [exchange]
      split
      · exact .none
      · next directory exchanged =>
          obtain ⟨same, rows⟩ := exchangeToken_ok _ _ _ _ _ _ exchanged
          exact .exchanged directory existing _ user now context rfl ⟨_, _, rfl⟩ same rows
  · exact .signed _ _ rfl
  · exact .none
  · exact .none

end Store

section Calls

def Input.header : Input → Option (Option String)
  | .request header _ | .logout header _ => some header
  | _ => none

/-- A request arrives whose token verifies. -/
def Verified (store : Store K) (input : Input) (claims : AccessTokenClaims) : Prop :=
  ∃ header token, input.header = some header ∧ bearerToken header = some token ∧
    setting.jwt.verifyAccessToken token (seconds store.clock) = .ok claims

/-- Where a request has what it carries on from. -/
structure Carries (store after : Store K) (input : Input) (call next : Call) : Prop where
  carried : ∀ user, next.carried = some user →
    call.carried = some user ∨ (user ∈ after.directory.users ∧ user.isActive = true)
  presented : ∀ claims, next.presented = some claims →
    call.presented = some claims ∨ (call = .idle ∧ Verified setting store input claims)
  actor : ∀ auth, next.actor = some auth →
    call.actor = some auth ∨ ∃ claims, call.presented = some claims ∧ auth = claims.context
  gated : ∀ auth request, next = .acting auth request →
    call = .acting auth request ∨ ∀ gate ∈ request.gates, can auth.role gate = true

variable {store after : Store K} {input : Input} {call next : Call}

theorem carries_same : Carries setting store after input call call :=
  ⟨fun _ same => Or.inl same, fun _ same => Or.inl same, fun _ same => Or.inl same,
    fun _ _ same => Or.inl same⟩

/-- A request that carries nothing on, or only the principal it had. -/
theorem carries_quiet (carried : next.carried = none) (presented : next.presented = none)
    (actor : ∀ auth, next.actor = some auth → call.actor = some auth)
    (done : ∀ auth request, next ≠ .acting auth request) :
    Carries setting store after input call next where
  carried user some := by rw [carried] at some; cases some
  presented claims some := by rw [presented] at some; cases some
  actor auth some := Or.inl (actor auth some)
  gated auth request acting := absurd acting (done auth request)

theorem carries_failed (failure : Failure) :
    Carries setting store after input call (.failed failure) :=
  carries_quiet setting rfl rfl (by simp [Call.actor]) (by simp)

theorem carries_turnedAway (failure : Failure) (purpose : Purpose) :
    Carries setting store after input call (turnedAway failure purpose) := by
  cases purpose with
  | required request => exact carries_failed setting failure
  | optional cookie =>
      exact carries_quiet setting rfl rfl (by simp [turnedAway, Call.actor]) (by simp [turnedAway])

theorem carries_user (user : User) (carried : next.carried = some user)
    (stored : user ∈ after.directory.users) (active : user.isActive = true)
    (presented : next.presented = none) (actor : next.actor = none) :
    Carries setting store after input call next where
  carried other same := by
    rw [carried] at same
    cases same
    exact Or.inr ⟨stored, active⟩
  presented claims some := by rw [presented] at some; cases some
  actor auth some := by rw [actor] at some; cases some
  gated auth request acting := by rw [acting] at actor; cases actor

theorem authenticate_carries (header : Option String) (purpose : Purpose)
    (arrives : input.header = some header) :
    Carries setting store after input .idle (authenticate setting store header purpose) := by
  unfold authenticate
  split
  · exact carries_turnedAway setting _ purpose
  · next token presented =>
      split
      · exact carries_turnedAway setting _ purpose
      · next claims verified =>
          refine ⟨by simp [Call.carried], ?_, by simp [Call.actor], by simp⟩
          rintro _ ⟨rfl⟩
          exact Or.inr ⟨rfl, header, token, arrives, presented, verified⟩

theorem denylist_carries (claims : AccessTokenClaims) (purpose : Purpose) (contact : Contact) :
    Carries setting store after input (.denylisting claims purpose)
      (denylist store claims purpose contact) := by
  unfold denylist
  split
  · exact carries_turnedAway setting _ purpose
  · exact ⟨by simp [Call.carried], fun _ same => Or.inl same, by simp [Call.actor], by simp⟩

theorem admit_gates (auth other : AuthContext) (request asked : Request)
    (admitted : passGates auth request = .acting other asked) :
    other = auth ∧ asked = request ∧ ∀ gate ∈ request.gates, can auth.role gate = true := by
  unfold passGates at admitted
  split at admitted
  · cases admitted
  · next open_ =>
      cases admitted
      refine ⟨rfl, rfl, ?_⟩
      simpa using open_

theorem admit_cases (auth : AuthContext) (request : Request) :
    (∃ failure, passGates auth request = .failed failure) ∨ passGates auth request = .acting auth request := by
  unfold passGates
  split
  · exact Or.inl ⟨_, rfl⟩
  · exact Or.inr rfl

theorem cut_carries (claims : AccessTokenClaims) (purpose : Purpose) (contact : Contact) :
    Carries setting store after input (.cutting claims purpose)
      (cut store claims purpose contact) := by
  unfold cut
  split
  · exact carries_turnedAway setting _ purpose
  · next auth passed =>
      have principal := cutoffCheck_ok _ _ _ _ _ passed
      cases purpose with
      | required request =>
          rcases admit_cases auth request with ⟨failure, refused⟩ | admitted
          · simp only [refused]
            exact carries_failed setting failure
          · have gates := (admit_gates auth auth request request admitted).2.2
            simp only [admitted]
            refine ⟨by simp [Call.carried], by simp [Call.presented], ?_, ?_⟩
            · rintro _ ⟨rfl⟩
              exact Or.inr ⟨claims, rfl, principal⟩
            · rintro _ _ ⟨rfl, rfl⟩
              exact Or.inr gates
      | optional cookie =>
          refine ⟨by simp [Call.carried], by simp [Call.presented], ?_, by simp⟩
          rintro _ ⟨rfl⟩
          exact Or.inr ⟨claims, rfl, principal⟩

theorem loginCheck_ok (crypto : Crypto) (accounts : Accounts) (email password : String)
    (user : User) (passed : loginCheck crypto accounts email password = .ok user) :
    user ∈ accounts.users ∧ user.isActive = true := by
  unfold loginCheck at passed
  split at passed
  · cases passed
  · next found =>
      split at passed
      · cases passed
      · split at passed
        · cases passed
        · next active =>
            cases passed
            exact ⟨List.mem_of_find?_eq_some found, by simpa using active⟩

theorem refreshCheck_active (crypto : Crypto) (accounts : Accounts) (now : Instant)
    (rawToken : String) (existing : RefreshToken) (user : User)
    (rotates : refreshCheck crypto accounts now rawToken = .rotate existing user) :
    user ∈ accounts.users ∧ user.isActive = true := by
  have found := refreshCheck_rotate crypto accounts now rawToken existing user rotates
  simp only [findToken, Option.bind_eq_bind, Option.bind_eq_some_iff] at found
  obtain ⟨token, _, owner, stored, pair⟩ := found
  obtain ⟨rfl, rfl⟩ : token = existing ∧ owner = user := by simpa using pair
  refine ⟨List.mem_of_find?_eq_some stored, ?_⟩
  unfold refreshCheck at rotates
  split at rotates
  · cases rotates
  · split at rotates
    · cases rotates
    · split at rotates
      · cases rotates
      · split at rotates
        · cases rotates
        · next active =>
            cases rotates
            simpa using active

theorem arrive_carries : Carries setting store store input .idle (arrive setting store input) := by
  cases input with
  | request header request => exact authenticate_carries setting header _ rfl
  | logout header cookie => exact authenticate_carries setting header _ rfl
  | register input context => exact carries_quiet setting rfl rfl (by simp [arrive, Call.actor]) (by simp [arrive])
  | login email password context =>
      simp only [arrive]
      split
      · exact carries_failed setting _
      · next user passed =>
          obtain ⟨stored, active⟩ := loginCheck_ok _ _ _ _ user passed
          exact carries_user setting user rfl stored active rfl rfl
  | refresh cookie context =>
      simp only [arrive]
      split
      · exact carries_failed setting _
      · split
        · exact carries_failed setting _
        · exact carries_quiet setting rfl rfl (by simp [Call.actor]) (by simp)
        · next existing user rotates =>
            obtain ⟨stored, active⟩ := refreshCheck_active _ _ _ _ existing user rotates
            exact carries_user setting user rfl stored active rfl rfl
  | ask contact => exact carries_same setting
  | proceed draw text => exact carries_same setting
  | fail failure => exact carries_failed setting failure

/-- Every answer but the one that hands the request over. -/
theorem carries_answered (answer : Answer) (kept : ∀ auth, answer ≠ .handed auth) :
    Carries setting store after input call (.answered answer) := by
  refine carries_quiet setting rfl rfl ?_ (by simp)
  intro auth same
  cases answer with
  | handed auth => exact absurd rfl (kept auth)
  | _ => cases same

theorem act_carries (auth : AuthContext) (request : Request) (draw : Nat) :
    Carries setting store after input (.acting auth request)
      (act setting auth draw store request).2 := by
  cases request with
  | listUsers query => exact carries_answered setting _ (by simp)
  | getUser id =>
      simp only [act, getUser]
      split
      · exact carries_failed setting _
      · exact carries_answered setting _ (by simp)
  | createUser input =>
      simp only [act, createUser]
      split
      · exact carries_failed setting _
      · exact carries_answered setting _ (by simp)
  | updateUser id input =>
      simp only [act, updateUser]
      split
      · exact carries_failed setting _
      · exact carries_answered setting _ (by simp)
  | deleteUser id =>
      simp only [act, deleteUser]
      split
      · exact carries_failed setting _
      · exact carries_answered setting _ (by simp)
  | me =>
      simp only [act, me]
      split
      · exact carries_failed setting _
      · exact carries_answered setting _ (by simp)
  | logoutAll => exact carries_quiet setting rfl rfl (fun _ same => same) (by simp [act])
  | elsewhere gates => exact carries_quiet setting rfl rfl (fun _ same => same) (by simp [act])

theorem denyNext_carries (jti : String) (ttl : ℤ) :
    Carries setting store after input call (denyNext jti ttl) := by
  unfold denyNext
  split
  · exact carries_quiet setting rfl rfl (by simp [Call.actor]) (by simp)
  · exact carries_answered setting _ (by simp)

theorem writeRedis_carries (contact : Contact) (write : Revocations ℚ → Revocations ℚ)
    (carries : Carries setting store after input call next) :
    Carries setting store after input call (writeRedis store contact write next).2 := by
  cases contact with
  | ready => exact carries
  | unready => exact carries
  | fails failure => exact carries_failed setting failure

theorem leave_carries (cookie : Option String) (auth : Option AuthContext) :
    Carries setting store after input call (leave setting store cookie auth).2 := by
  cases auth with
  | none =>
      have follows : (leave setting store cookie none).2 = .answered .empty := by
        unfold leave
        cases cookie.filter (· != "") <;> rfl
      rw [follows]
      exact carries_answered setting _ (by simp)
  | some auth =>
      have follows : (leave setting store cookie (some auth)).2 =
          denyNext auth.jti (auth.expiresAt - ⌊seconds store.clock⌋) := by
        unfold leave
        cases cookie.filter (· != "") <;> rfl
      rw [follows]
      exact denyNext_carries setting _ _

theorem register_carries (draw : Nat) (request : RegisterInput) (context : RequestContext) :
    Carries setting store (register setting store draw request context).1 input call
      (register setting store draw request context).2 := by
  unfold register
  split
  · exact carries_failed setting _
  · next user directory inserted =>
      obtain ⟨⟨_, _, _, active⟩, rows, _⟩ := insertUser_ok _ _ _ _ _ _ _ _ _ _ inserted
      have stored : user ∈ directory.users := by
        rw [Table.mem_rows, rows]
        exact List.mem_append_right _ List.mem_cons_self
      exact carries_user setting user rfl stored active rfl rfl

theorem fails_carries (failure : Failure) :
    Carries setting store after input call (call.fails failure) := by
  cases call with
  | acting auth request => exact carries_failed setting _
  | registering input context => exact carries_failed setting _
  | leaving cookie auth => exact carries_failed setting _
  | storing status user claims context => exact carries_failed setting _
  | revoking userId now => exact carries_failed setting _
  | rotating existing user now context => exact carries_failed setting _
  | _ => exact carries_same setting

theorem exec_carries (store : Store K) (input : Input) (call : Call) :
    Carries setting store (exec setting input store call).1 input call
      (exec setting input store call).2 := by
  unfold exec
  split
  · exact arrive_carries setting
  · exact denylist_carries setting _ _ _
  · exact cut_carries setting _ _ _
  · exact act_carries setting _ _ _
  · exact writeRedis_carries setting _ _ (denyNext_carries setting _ _)
  · exact writeRedis_carries setting _ _ (carries_answered setting _ (by simp))
  · exact leave_carries setting _ _
  · exact register_carries setting _ _ _
  · exact carries_quiet setting rfl rfl (by simp [Call.actor]) (by simp)
  · simp only [storeToken]
    split
    · exact carries_failed setting _
    · exact carries_answered setting _ (by simp)
  · exact carries_failed setting _
  · simp only [exchange]
    split
    · exact carries_failed setting _
    · exact ⟨fun _ same => Or.inl same, by simp [Call.presented], by simp [Call.actor], by simp⟩
  · exact carries_answered setting _ (by simp)
  · exact fails_carries setting _
  · exact carries_same setting

end Calls

end FaceVec.Users

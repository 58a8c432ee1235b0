import FaceVec.Auth.Rotation

/-!
One dashboard against the gateway: `request` of `apps/web/lib/api.ts` after a
401, for any number of API requests at once. A request sends the cookie that
the browser holds at that moment, and the answer of the gateway replaces it.
No request waits for the refresh of another one.
-/

namespace FaceVec.Auth

open Interleaving

inductive Request where
  /-- The 401 of the first try has arrived. -/
  | unauthorised
  | refreshing (raw : String)
  | serving (call : Call)
  | finished

structure Browser where
  gateway : Store
  cookie : String

inductive Turn where
  | send
  | receive (context : RequestContext)
  | proceed (draw : Nat) (newRaw : String)
  | respond

section Exec

variable (crypto : Crypto) (config : Config)

def serve (turn : Turn) (browser : Browser) (request : Request) : Browser × Request :=
  match request, turn with
  | .unauthorised, .send => (browser, .refreshing browser.cookie)
  | .refreshing raw, .receive context =>
      (browser, .serving (firstStep crypto browser.gateway (.refresh raw context)))
  | .serving call, .proceed draw newRaw =>
      let next := exec crypto config (.proceed draw newRaw) browser.gateway call
      ({ browser with gateway := next.1 }, .serving next.2)
  -- `Set-Cookie`; the retried request does not refresh again.
  | .serving (.issued _ result), .respond => ({ browser with cookie := result.refreshToken }, .finished)
  | .serving (.failed _), .respond => (browser, .finished)
  | request, _ => (browser, request)

def dashboard : Machine Browser Request Turn Change where
  exec := serve crypto config
  ambient
    | .tick milliseconds, browser =>
        { browser with
          gateway := { browser.gateway with clock := browser.gateway.clock + milliseconds } }

end Exec

def signedIn (stored : StoredAccounts) (clock : Instant) (cookie : String) :
    System Browser Request :=
  ⟨⟨(start stored clock).store, cookie⟩, fun _ => .unauthorised⟩

def inFlight : Request → Bool
  | .refreshing _ | .serving _ => true
  | _ => false

def presentedHash (crypto : Crypto) : Request → Option String
  | .refreshing raw => some (crypto.hashRefreshToken raw)
  | .serving (.rotating existing _ _ _) => some existing.tokenHash
  | _ => none

def issuedHash (crypto : Crypto) : Request → Option String
  | .serving (.issued _ result) => some (crypto.hashRefreshToken result.refreshToken)
  | _ => none

def Browser.tokens (browser : Browser) : List RefreshToken :=
  browser.gateway.accounts.refreshTokens.rows

def Fresh (browser : Browser) (hash : String) : Prop :=
  ∃ token ∈ browser.tokens, token.tokenHash = hash ∧
    isRefreshTokenActive token browser.gateway.clock = true

/-- The token is active or has been exchanged. -/
def Genuine (browser : Browser) (hash : String) : Prop :=
  ∃ token ∈ browser.tokens, token.tokenHash = hash ∧
    (isRefreshTokenActive token browser.gateway.clock = true ∨ token.replacedById ≠ none)

/-- A token the browser has, or one that is on its way to it or from it. -/
def Known (crypto : Crypto) (system : System Browser Request) (hash : String) : Prop :=
  hash = crypto.hashRefreshToken system.store.cookie ∨
    ∃ index, presentedHash crypto (system.procs index) = some hash ∨
      issuedHash crypto (system.procs index) = some hash

/-- The gateway looks at a refresh before another one has exchanged its token,
and no token of the browser expires while it is in use. -/
def Prompt (crypto : Crypto) (config : Config) (system : System Browser Request) :
    Event Turn Change → Prop
  | .act index (.receive _) =>
      match system.procs index with
      | .refreshing raw => ∀ token ∈ system.store.tokens,
          token.tokenHash = crypto.hashRefreshToken raw → token.replacedById = none
      | _ => True
  | .env (.tick milliseconds) =>
      (∀ token ∈ system.store.tokens, Known crypto system token.tokenHash →
        isRefreshTokenActive token system.store.gateway.clock = true →
          system.store.gateway.clock + milliseconds < token.expiresAt) ∧
        ∀ index existing user now context,
          system.procs index = .serving (.rotating existing user now context) →
            system.store.gateway.clock + milliseconds < refreshTokenExpiry config now
  | _ => True

/-- No refresh is taken for theft, nothing has been revoked, and when every
request has finished the token in the cookie is active. -/
structure Untroubled (crypto : Crypto) (system : System Browser Request) : Prop where
  unsuspected : ∀ index userId now existed,
    system.procs index ≠ .serving (.revoking userId now existed)
  unrevoked : system.store.gateway.covered = []
  settled : (∀ index, inFlight (system.procs index) = false) →
    Fresh system.store (crypto.hashRefreshToken system.store.cookie)

/-- What a refresh of the dashboard can be waiting for. -/
def Expected (config : Config) (browser : Browser) : Request → Prop
  | .serving (.rotating existing _ now _) =>
      (∃ token ∈ browser.tokens, token.id = existing.id ∧ token.tokenHash = existing.tokenHash) ∧
        browser.gateway.clock < refreshTokenExpiry config now
  | .serving (.issued _ _) | .serving (.failed _) => True
  | .serving _ => False
  | _ => True

structure Honest (crypto : Crypto) (config : Config) (system : System Browser Request) : Prop where
  unrevoked : system.store.gateway.covered = []
  expected : ∀ index, Expected config system.store (system.procs index)
  genuine : ∀ hash, Known crypto system hash → Genuine system.store hash
  backed : Fresh system.store (crypto.hashRefreshToken system.store.cookie) ∨
    ∃ index hash, issuedHash crypto (system.procs index) = some hash
  issued : ∀ index hash, issuedHash crypto (system.procs index) = some hash →
    Fresh system.store hash ∧ hash ≠ crypto.hashRefreshToken system.store.cookie ∧
      (∀ other, presentedHash crypto (system.procs other) ≠ some hash) ∧
      ∀ other, other ≠ index → issuedHash crypto (system.procs other) ≠ some hash

theorem honest_untroubled (crypto : Crypto) (config : Config) (system : System Browser Request)
    (valid : Honest crypto config system) : Untroubled crypto system := by
  refine ⟨fun index userId now existed suspected => ?_, valid.unrevoked, fun quiet => ?_⟩
  · have impossible := valid.expected index
    rw [suspected] at impossible
    exact impossible
  · rcases valid.backed with fresh | ⟨index, hash, issued⟩
    · exact fresh
    · have idle := quiet index
      unfold issuedHash at issued
      split at issued
      · next serving =>
          rw [serving] at idle
          cases idle
      · cases issued

/-- What a rotation that succeeds leaves: `row` in the place of `existing`. -/
structure Succeeded (crypto : Crypto) (config : Config) (before after : Browser)
    (existing : RefreshToken) (now : Instant) (newRaw : String) (row : RefreshToken) : Prop where
  rows : after.tokens = (before.tokens ++ [row]).map (replace existing.id row.id now)
  clock : after.gateway.clock = before.gateway.clock
  covered : after.gateway.covered = before.gateway.covered
  cookie : after.cookie = before.cookie
  fresh : ∀ token ∈ before.tokens, token.id ≠ row.id
  hash : row.tokenHash = crypto.hashRefreshToken newRaw
  active : row.revokedAt = none
  expires : row.expiresAt = refreshTokenExpiry config now

theorem replace_tokenHash (presented successor : Uuid) (now : Instant) (token : RefreshToken) :
    (replace presented successor now token).tokenHash = token.tokenHash := by
  unfold replace
  split <;> rfl

section Rotation

variable (crypto : Crypto) (config : Config)

theorem rotating_cases (browser : Browser) (existing : RefreshToken) (user : User) (now : Instant)
    (context : RequestContext) (draw : Nat) (newRaw : String) :
    (∃ failure, serve crypto config (.proceed draw newRaw) browser
        (.serving (.rotating existing user now context)) = (browser, .serving (.failed failure))) ∨
      ∃ row after, serve crypto config (.proceed draw newRaw) browser
          (.serving (.rotating existing user now context)) =
            (after, .serving (.issued (some existing.id) (authResult user newRaw))) ∧
        Succeeded crypto config browser after existing now newRaw row := by
  simp only [serve, exec]
  cases rotated : rotateToken browser.gateway.accounts existing.id
      (newToken crypto config (crypto.uuids.generate draw (ids browser.gateway.accounts.refreshTokens))
        existing.userId newRaw now context) rfl now with
  | error code => exact Or.inl ⟨_, rfl⟩
  | ok accounts =>
      obtain ⟨_, rows⟩ := rotateToken_rows _ _ _ _ _ _ rotated
      refine Or.inr ⟨_, _, rfl, rows, rfl, rfl, rfl, fun token stored same => ?_, rfl, rfl, rfl⟩
      exact crypto.uuids.fresh draw (ids browser.gateway.accounts.refreshTokens)
        (List.mem_map.mpr ⟨token, stored, same⟩)

variable {crypto config} {before after : Browser} {existing row : RefreshToken} {now : Instant}
  {newRaw : String}

theorem succeeded_genuine (succeeded : Succeeded crypto config before after existing now newRaw row)
    (hash : String) (genuine : Genuine before hash) : Genuine after hash := by
  obtain ⟨token, stored, hashed, usable⟩ := genuine
  refine ⟨replace existing.id row.id now token, ?_, (replace_tokenHash _ _ _ _).trans hashed, ?_⟩
  · rw [succeeded.rows]
    exact List.mem_map.mpr ⟨token, List.mem_append_left _ stored, rfl⟩
  · by_cases same : token.id = existing.id
    · rw [replace_presented _ _ _ _ same]
      exact Or.inr (Option.some_ne_none _)
    · rw [replace_other _ _ _ _ same, succeeded.clock]
      exact usable

theorem succeeded_fresh (succeeded : Succeeded crypto config before after existing now newRaw row)
    (hash : String) (other : ∀ token ∈ before.tokens, token.id = existing.id → token.tokenHash ≠ hash)
    (fresh : Fresh before hash) : Fresh after hash := by
  obtain ⟨token, stored, hashed, active⟩ := fresh
  have apart : token.id ≠ existing.id := fun same => other token stored same hashed
  refine ⟨token, ?_, hashed, by rwa [succeeded.clock]⟩
  rw [succeeded.rows]
  exact List.mem_map.mpr ⟨token, List.mem_append_left _ stored, replace_other _ _ _ _ apart⟩

theorem succeeded_new (succeeded : Succeeded crypto config before after existing now newRaw row)
    (known : ∃ token ∈ before.tokens, token.id = existing.id)
    (alive : before.gateway.clock < refreshTokenExpiry config now) :
    Fresh after (crypto.hashRefreshToken newRaw) := by
  obtain ⟨token, stored, same⟩ := known
  have apart : row.id ≠ existing.id := fun clash => succeeded.fresh token stored (same.trans clash.symm)
  refine ⟨row, ?_, succeeded.hash, ?_⟩
  · rw [succeeded.rows]
    exact List.mem_map.mpr ⟨row, List.mem_append_right _ (List.mem_singleton_self row),
      replace_other _ _ _ _ apart⟩
  · simp [isRefreshTokenActive, succeeded.active, succeeded.expires, succeeded.clock, alive]

/-- The other refreshes still wait for a row under the same id and hash. -/
theorem succeeded_expected (succeeded : Succeeded crypto config before after existing now newRaw row)
    (request : Request) (expected : Expected config before request) :
    Expected config after request := by
  unfold Expected at expected ⊢
  split at expected
  · obtain ⟨⟨version, member, versionId, versionHash⟩, later⟩ := expected
    refine ⟨⟨replace existing.id row.id now version, ?_, (replace_id _ _ _ _).trans versionId,
      (replace_tokenHash _ _ _ _).trans versionHash⟩, by rwa [succeeded.clock]⟩
    rw [succeeded.rows]
    exact List.mem_map.mpr ⟨version, List.mem_append_left _ member, rfl⟩
  · trivial
  · trivial
  · exact expected
  · trivial

/-- The hash of the new token is in no earlier row: the column is unique. -/
theorem succeeded_unused (succeeded : Succeeded crypto config before after existing now newRaw row)
    (hash : String) (genuine : Genuine before hash) : hash ≠ crypto.hashRefreshToken newRaw := by
  intro same
  obtain ⟨token, stored, hashed, _⟩ := genuine
  have member : ∀ version ∈ before.tokens ++ [row],
      replace existing.id row.id now version ∈ after.gateway.accounts.refreshTokens := by
    intro version inside
    have rows : after.gateway.accounts.refreshTokens.rows = _ := succeeded.rows
    rw [Table.mem_rows, rows]
    exact List.mem_map.mpr ⟨version, inside, rfl⟩
  have clash : (replace existing.id row.id now token).tokenHash =
      (replace existing.id row.id now row).tokenHash := by
    rw [replace_tokenHash, replace_tokenHash, hashed, succeeded.hash, same]
  have equal := after.gateway.accounts.refreshTokens.eq_of_clash _ _
    (member token (List.mem_append_left _ stored))
    (member row (List.mem_append_right _ (List.mem_singleton_self row)))
    (by simp [RefreshToken.clash, clash]) (by simp [RefreshToken.clash, clash])
  have ids := congrArg RefreshToken.id equal
  rw [replace_id, replace_id] at ids
  exact succeeded.fresh token stored ids

end Rotation

section Steps

variable {crypto : Crypto} {config : Config} {system : System Browser Request} {index : Nat}

/-- What a request shows after one of them has moved on to `next`. -/
theorem shown_cases (shows_ : Request → Option String) (procs : Nat → Request) (next : Request)
    (other : Nat) (hash : String)
    (shown : shows_ (Function.update procs index next other) = some hash) :
    (other = index ∧ shows_ next = some hash) ∨
      (other ≠ index ∧ shows_ (procs other) = some hash) :=
  update_cases procs index next (shows_ · = some hash) other shown

/-- A step that only moves its own request on, to nothing the browser did not have. -/
theorem moved_honest (valid : Honest crypto config system) (next : Request)
    (expected : Expected config system.store next)
    (presents : ∀ hash, presentedHash crypto next = some hash →
      presentedHash crypto (system.procs index) = some hash ∨
        hash = crypto.hashRefreshToken system.store.cookie)
    (issues : issuedHash crypto next = issuedHash crypto (system.procs index)) :
    Honest crypto config ⟨system.store, Function.update system.procs index next⟩ := by
  have issued : ∀ other, issuedHash crypto (Function.update system.procs index next other) =
      issuedHash crypto (system.procs other) := by
    intro other
    by_cases same : other = index
    · subst same
      rw [Function.update_self, issues]
    · rw [Function.update_of_ne same]
  have presented : ∀ other hash,
      presentedHash crypto (Function.update system.procs index next other) = some hash →
        presentedHash crypto (system.procs other) = some hash ∨
          hash = crypto.hashRefreshToken system.store.cookie := by
    intro other hash presents_
    rcases shown_cases _ _ _ _ _ presents_ with ⟨rfl, own⟩ | ⟨_, before⟩
    · exact presents hash own
    · exact Or.inl before
  constructor
  · exact valid.unrevoked
  · intro other
    by_cases same : other = index
    · subst same
      simpa using expected
    · simpa [Function.update_of_ne same] using valid.expected other
  · rintro hash (own | ⟨other, presents_ | carries⟩)
    · exact valid.genuine hash (Or.inl own)
    · rcases presented other hash presents_ with before | own
      · exact valid.genuine hash (Or.inr ⟨other, Or.inl before⟩)
      · exact valid.genuine hash (Or.inl own)
    · exact valid.genuine hash (Or.inr ⟨other, Or.inr (issued other ▸ carries)⟩)
  · rcases valid.backed with fresh | ⟨other, hash, carries⟩
    · exact Or.inl fresh
    · exact Or.inr ⟨other, hash, (issued other).trans carries⟩
  · intro other hash carries
    obtain ⟨fresh, unlike, unpresented, alone⟩ := valid.issued other hash (issued other ▸ carries)
    refine ⟨fresh, unlike, fun third presents_ => ?_, fun third different carries_ => ?_⟩
    · rcases presented third hash presents_ with before | own
      · exact unpresented third before
      · exact unlike own
    · exact alone third different (issued third ▸ carries_)

/-- The hash column is unique, so a lookup finds the row that is known to be stored. -/
theorem findToken_unique (accounts : Accounts) (hash : String) (existing : RefreshToken)
    (user : User) (token : RefreshToken) (found : findToken accounts hash = some (existing, user))
    (stored : token ∈ accounts.refreshTokens) (hashed : token.tokenHash = hash) :
    existing = token ∧ existing.tokenHash = hash := by
  have member := findToken_mem _ _ _ _ found
  have own : existing.tokenHash = hash := by
    simp only [findToken, Option.bind_eq_bind, Option.bind_eq_some_iff] at found
    obtain ⟨first, lookup, owner, _, pair⟩ := found
    have same : first = existing := by simpa using congrArg (Option.map Prod.fst) pair
    rw [← same]
    simpa using List.find?_some lookup
  refine ⟨accounts.refreshTokens.eq_of_clash _ _ member stored ?_ ?_, own⟩
  · simp [RefreshToken.clash, own, hashed]
  · simp [RefreshToken.clash, own, hashed]

/-- The gateway's first look at a token that has not been exchanged. -/
theorem received_honest (valid : Honest crypto config system) (raw : String)
    (context : RequestContext) (sent : system.procs index = .refreshing raw)
    (prompt : ∀ token ∈ system.store.tokens, token.tokenHash = crypto.hashRefreshToken raw →
      token.replacedById = none) :
    Honest crypto config ⟨system.store, Function.update system.procs index
      (.serving (firstStep crypto system.store.gateway (.refresh raw context)))⟩ := by
  have presented : presentedHash crypto (system.procs index) = some (crypto.hashRefreshToken raw) := by
    rw [sent]
    rfl
  have silent : issuedHash crypto (system.procs index) = none := by
    rw [sent]
    rfl
  obtain ⟨token, stored, hashed, usable⟩ := valid.genuine _ (Or.inr ⟨index, Or.inl presented⟩)
  have active := usable.resolve_right fun exchanged => exchanged (prompt token stored hashed)
  have activity : token.revokedAt = none ∧ system.store.gateway.clock < token.expiresAt := by
    simpa [isRefreshTokenActive] using active
  have only : ∀ existing user, findToken system.store.gateway.accounts
      (crypto.hashRefreshToken raw) = some (existing, user) →
      existing = token ∧ existing.tokenHash = crypto.hashRefreshToken raw :=
    fun existing user found => findToken_unique _ _ existing user token found stored hashed
  simp only [firstStep]
  cases checked : refreshCheck crypto system.store.gateway.accounts system.store.gateway.clock raw with
  | reject failure =>
      exact moved_honest valid _ trivial (fun hash presents => by cases presents) silent.symm
  | reuse existing =>
      obtain ⟨user, lookup, revoked⟩ := refreshCheck_reuse _ _ _ _ _ checked
      obtain ⟨rfl, _⟩ := only existing user lookup
      simp [activity.1] at revoked
  | rotate existing user =>
      have lookup := refreshCheck_rotate _ _ _ _ _ _ checked
      obtain ⟨rfl, own⟩ := only existing user lookup
      refine moved_honest valid _ ⟨⟨existing, stored, rfl, rfl⟩, ?_⟩ (fun hash presents => ?_)
        silent.symm
      · have lifetime : 0 < (config.JWT_REFRESH_TTL : Nat) * 1000 :=
          Nat.mul_pos config.JWT_REFRESH_TTL.pos (by decide)
        exact Nat.lt_add_of_pos_right lifetime
      · left
        rw [presented, ← own]
        exact presents

variable (crypto index) in
/-- A rotation that has succeeded issues its new token, and the others what they did. -/
theorem rotated_issues (procs : Nat → Request) (presented : Option Uuid) (user : User)
    (newRaw : String) (other : Nat) (hash : String)
    (carries : issuedHash crypto (Function.update procs index
      (.serving (.issued presented (authResult user newRaw))) other) = some hash) :
    (other = index ∧ hash = crypto.hashRefreshToken newRaw) ∨
      (other ≠ index ∧ issuedHash crypto (procs other) = some hash) :=
  (shown_cases _ _ _ _ _ carries).imp_left fun own => ⟨own.1, (Option.some.inj own.2).symm⟩

variable (crypto index) in
theorem rotated_presents (procs : Nat → Request) (presented : Option Uuid) (user : User)
    (newRaw : String) (other : Nat) (hash : String)
    (presents : presentedHash crypto (Function.update procs index
      (.serving (.issued presented (authResult user newRaw))) other) = some hash) :
    presentedHash crypto (procs other) = some hash := by
  rcases shown_cases _ _ _ _ _ presents with ⟨_, own⟩ | ⟨_, before⟩
  · cases own
  · exact before

/-- A rotation exchanges the presented token for one that nobody has seen. -/
theorem rotated_honest (valid : Honest crypto config system) (existing : RefreshToken)
    (user : User) (now : Instant) (context : RequestContext) (newRaw : String) (row : RefreshToken)
    (after : Browser) (waits : system.procs index = .serving (.rotating existing user now context))
    (succeeded : Succeeded crypto config system.store after existing now newRaw row) :
    Honest crypto config ⟨after, Function.update system.procs index
      (.serving (.issued (some existing.id) (authResult user newRaw)))⟩ := by
  have expected := valid.expected index
  rw [waits] at expected
  obtain ⟨⟨token, stored, sameId, sameHash⟩, alive⟩ := expected
  have presents : presentedHash crypto (system.procs index) = some existing.tokenHash := by
    rw [waits]
    rfl
  have silent : issuedHash crypto (system.procs index) = none := by
    rw [waits]
    rfl
  have unused : ∀ hash, Known crypto system hash → hash ≠ crypto.hashRefreshToken newRaw :=
    fun hash known => succeeded_unused succeeded hash (valid.genuine hash known)
  have keeps : ∀ hash, hash ≠ existing.tokenHash → Fresh system.store hash → Fresh after hash := by
    intro hash different fresh
    refine succeeded_fresh succeeded hash (fun other member same hashed => different ?_) fresh
    have equal := token_eq_of_id system.store.gateway.accounts.refreshTokens other token member stored
      (same.trans sameId.symm)
    rw [← hashed, equal, sameHash]
  have issued := rotated_issues crypto index system.procs (some existing.id) user newRaw
  have presented := rotated_presents crypto index system.procs (some existing.id) user newRaw
  have fresh := succeeded_new succeeded ⟨token, stored, sameId⟩ alive
  constructor
  · rw [succeeded.covered]
    exact valid.unrevoked
  · intro other
    by_cases same : other = index
    · subst same
      simp [Expected]
    · have before := succeeded_expected succeeded _ (valid.expected other)
      simpa only [Function.update_of_ne same] using before
  · rintro hash (own | ⟨other, presents_ | carries⟩)
    · rw [succeeded.cookie] at own
      exact succeeded_genuine succeeded hash (valid.genuine hash (Or.inl own))
    · exact succeeded_genuine succeeded hash
        (valid.genuine hash (Or.inr ⟨other, Or.inl (presented other hash presents_)⟩))
    · rcases issued other hash carries with ⟨_, rfl⟩ | ⟨_, before⟩
      · obtain ⟨new, member, hashed, active⟩ := fresh
        exact ⟨new, member, hashed, Or.inl active⟩
      · exact succeeded_genuine succeeded hash (valid.genuine hash (Or.inr ⟨other, Or.inr before⟩))
  · exact Or.inr ⟨index, crypto.hashRefreshToken newRaw, by simp [issuedHash, authResult]⟩
  -- The new hash is in no request and not in the cookie; the others keep theirs.
  · intro other hash carries
    rw [succeeded.cookie]
    rcases issued other hash carries with ⟨rfl, rfl⟩ | ⟨different, before⟩
    · refine ⟨fresh, fun own => unused _ (Or.inl rfl) own.symm, fun third presents_ => ?_,
        fun third apart carries_ => ?_⟩
      · exact unused _ (Or.inr ⟨third, Or.inl (presented third _ presents_)⟩) rfl
      · rcases issued third _ carries_ with ⟨same, _⟩ | ⟨_, before⟩
        · exact apart same
        · exact unused _ (Or.inr ⟨third, Or.inr before⟩) rfl
    · obtain ⟨before_, unlike, unpresented, alone⟩ := valid.issued other hash before
      refine ⟨keeps hash (fun same => unpresented index (same ▸ presents)) before_, unlike,
        fun third presents_ => unpresented third (presented third hash presents_),
        fun third apart carries_ => ?_⟩
      rcases issued third hash carries_ with ⟨_, same⟩ | ⟨_, before_⟩
      · exact unused hash (Or.inr ⟨other, Or.inr before⟩) same
      · exact alone third apart before_

/-- The answer of a rotation puts a token into the cookie that nobody presents. -/
theorem responded_honest (valid : Honest crypto config system) (presented : Option Uuid)
    (result : AuthResult) (answered : system.procs index = .serving (.issued presented result)) :
    Honest crypto config ⟨{ system.store with cookie := result.refreshToken },
      Function.update system.procs index .finished⟩ := by
  have carries : issuedHash crypto (system.procs index) =
      some (crypto.hashRefreshToken result.refreshToken) := by
    rw [answered]
    rfl
  obtain ⟨fresh, _, unpresented, alone⟩ := valid.issued index _ carries
  have issued : ∀ other hash, issuedHash crypto (Function.update system.procs index .finished other) =
      some hash → other ≠ index ∧ issuedHash crypto (system.procs other) = some hash := by
    intro other hash carries_
    rcases shown_cases _ _ _ _ _ carries_ with ⟨_, own⟩ | elsewhere
    · cases own
    · exact elsewhere
  have presents : ∀ other hash, presentedHash crypto (Function.update system.procs index .finished
      other) = some hash → presentedHash crypto (system.procs other) = some hash := by
    intro other hash presents_
    rcases shown_cases _ _ _ _ _ presents_ with ⟨_, own⟩ | ⟨_, before⟩
    · cases own
    · exact before
  constructor
  · exact valid.unrevoked
  · intro other
    by_cases same : other = index
    · subst same
      simp [Expected]
    · simpa [Function.update_of_ne same, Expected, Browser.tokens] using valid.expected other
  · rintro hash (own | ⟨other, presents_ | carries_⟩)
    · rw [own]
      exact valid.genuine _ (Or.inr ⟨index, Or.inr carries⟩)
    · exact valid.genuine hash (Or.inr ⟨other, Or.inl (presents other hash presents_)⟩)
    · exact valid.genuine hash (Or.inr ⟨other, Or.inr (issued other hash carries_).2⟩)
  · exact Or.inl fresh
  · intro other hash carries_
    obtain ⟨different, before⟩ := issued other hash carries_
    obtain ⟨fresh_, unlike, unpresented_, alone_⟩ := valid.issued other hash before
    refine ⟨fresh_, fun own => alone other different (own ▸ before),
      fun third presents_ => unpresented_ third (presents third hash presents_),
      fun third apart carries_ => alone_ third apart (issued third hash carries_).2⟩

theorem ticked_honest (valid : Honest crypto config system) (milliseconds : Nat)
    (prompt : Prompt crypto config system (.env (.tick milliseconds))) :
    Honest crypto config ((dashboard crypto config).step system (.env (.tick milliseconds))) := by
  obtain ⟨lasting, inTime⟩ := prompt
  have still : ∀ token ∈ system.store.tokens, Known crypto system token.tokenHash →
      isRefreshTokenActive token system.store.gateway.clock = true →
        isRefreshTokenActive token (system.store.gateway.clock + milliseconds) = true := by
    intro token stored known active
    have later := lasting token stored known active
    simp only [isRefreshTokenActive, Bool.and_eq_true, decide_eq_true_eq] at active ⊢
    exact ⟨active.1, later⟩
  have fresh : ∀ hash, Known crypto system hash → Fresh system.store hash →
      Fresh ((dashboard crypto config).step system (.env (.tick milliseconds))).store hash := by
    rintro hash known ⟨token, stored, rfl, active⟩
    exact ⟨token, stored, rfl, still token stored known active⟩
  constructor
  · exact valid.unrevoked
  · intro index
    have before := valid.expected index
    show Expected config _ (system.procs index)
    unfold Expected at before ⊢
    split at before
    · next existing user now context waits =>
        exact ⟨before.1, inTime index existing user now context waits⟩
    · trivial
    · trivial
    · exact before
    · trivial
  · intro hash known
    obtain ⟨token, stored, rfl, usable⟩ := valid.genuine hash known
    exact ⟨token, stored, rfl, usable.imp_left (still token stored known)⟩
  · exact valid.backed.imp_left (fresh _ (Or.inl rfl))
  · intro index hash carries
    obtain ⟨before, rest⟩ := valid.issued index hash carries
    exact ⟨fresh hash (Or.inr ⟨index, Or.inr carries⟩) before, rest⟩

end Steps

section Runs

variable (crypto : Crypto) (config : Config)

theorem step_honest (system : System Browser Request) (event : Event Turn Change)
    (valid : Honest crypto config system) (prompt : Prompt crypto config system event) :
    Honest crypto config ((dashboard crypto config).step system event) := by
  cases event with
  | env change =>
      obtain ⟨milliseconds⟩ := change
      exact ticked_honest valid milliseconds prompt
  | act index turn =>
      have stays : Honest crypto config
          ⟨system.store, Function.update system.procs index (system.procs index)⟩ :=
        moved_honest valid _ (valid.expected index) (fun _ presents => Or.inl presents) rfl
      simp only [Machine.step, dashboard]
      cases request : system.procs index with
      | unauthorised =>
          rw [request] at stays
          cases turn with
          | send =>
              refine moved_honest valid _ trivial (fun hash presents => ?_) (by rw [request]; rfl)
              exact Or.inr (Option.some.inj presents).symm
          | _ => exact stays
      | refreshing raw =>
          rw [request] at stays
          cases turn with
          | receive context =>
              simp only [Prompt, request] at prompt
              exact received_honest valid raw context request prompt
          | _ => exact stays
      | serving call =>
          have expected := valid.expected index
          rw [request] at expected stays
          cases call with
          | rotating existing user now context =>
              cases turn with
              | proceed draw newRaw =>
                  rcases rotating_cases crypto config system.store existing user now context draw
                    newRaw with ⟨failure, failed⟩ | ⟨row, after, served, succeeded⟩
                  · rw [failed]
                    exact moved_honest valid _ trivial (fun hash presents => by cases presents)
                      (by rw [request]; rfl)
                  · rw [served]
                    exact rotated_honest valid existing user now context newRaw row after request
                      succeeded
              | _ => exact stays
          | issued presented result =>
              cases turn with
              | respond => exact responded_honest valid presented result request
              | _ => exact stays
          | failed failure =>
              cases turn with
              | respond =>
                  exact moved_honest valid _ trivial (fun hash presents => by cases presents)
                    (by rw [request]; rfl)
              | _ => exact stays
          | _ => exact expected.elim
      | finished =>
          rw [request] at stays
          cases turn <;> exact stays

theorem signedIn_honest (stored : StoredAccounts) (clock : Instant) (cookie : String)
    (token : RefreshToken) (member : token ∈ stored.refreshTokens)
    (held : token.tokenHash = crypto.hashRefreshToken cookie)
    (active : isRefreshTokenActive token clock = true) :
    Honest crypto config (signedIn stored clock cookie) where
  unrevoked := rfl
  expected _ := trivial
  genuine := by
    rintro hash (rfl | ⟨index, presents | carries⟩)
    · exact ⟨token, member, held, Or.inl active⟩
    · cases presents
    · cases carries
  backed := Or.inl ⟨token, member, held, active⟩
  issued _ _ carries := by cases carries

/-- The refreshes of one dashboard never look like theft, as long as the gateway
sees no token that another of them has exchanged already. -/
theorem refresh_never_suspected (stored : StoredAccounts) (clock : Instant) (cookie : String)
    (token : RefreshToken) (member : token ∈ stored.refreshTokens)
    (held : token.tokenHash = crypto.hashRefreshToken cookie)
    (active : isRefreshTokenActive token clock = true) (events : List (Event Turn Change))
    (along : (dashboard crypto config).Along (Prompt crypto config) (signedIn stored clock cookie)
      events) :
    Untroubled crypto ((dashboard crypto config).run (signedIn stored clock cookie) events) :=
  honest_untroubled crypto config _
    (along_invariant (dashboard crypto config) (Prompt crypto config) (Honest crypto config)
      (step_honest crypto config) _ events
      (signedIn_honest crypto config stored clock cookie token member held active) along)

end Runs

def oneToken : StoredAccounts where
  users := .single professor
  refreshTokens := .single ⟨1, 7, "r1", 1000, none, none, none, none⟩
  chained := by
    intro token member successor linked
    obtain rfl := List.mem_singleton.mp member
    cases linked
  sameUser := by
    intro token member row _ linked
    obtain rfl := List.mem_singleton.mp member
    cases linked

/-- One request after the other refreshes. -/
def oneByOne : List (Event Turn Change) :=
  [.act 0 .send, .act 0 (.receive anyContext), .act 0 (.proceed 0 "r2"), .act 0 .respond,
    .act 1 .send, .act 1 (.receive anyContext), .act 1 (.proceed 0 "r3"), .act 1 .respond]

theorem oneByOne_prompt :
    (dashboard plainCrypto {}).Along (Prompt plainCrypto {}) (signedIn oneToken 0 "r1") oneByOne := by
  refine ⟨trivial, ?_, trivial, trivial, trivial, ?_, trivial, trivial, trivial⟩
  · change ∀ token ∈ Browser.tokens _, token.tokenHash = "r1" → token.replacedById = none
    decide
  · change ∀ token ∈ Browser.tokens _, token.tokenHash = "r2" → token.replacedById = none
    decide

theorem refresh_never_suspected_oneByOne :
    Untroubled plainCrypto ((dashboard plainCrypto {}).run (signedIn oneToken 0 "r1") oneByOne) :=
  refresh_never_suspected plainCrypto {} oneToken 0 "r1" ⟨1, 7, "r1", 1000, none, none, none, none⟩
    (List.mem_singleton.mpr rfl) rfl rfl oneByOne oneByOne_prompt

/-- Two requests of one page send the same cookie, and the second arrives after
the first was exchanged. -/
def sameCookie : List (Event Turn Change) :=
  [.act 0 .send, .act 1 .send, .act 0 (.receive anyContext), .act 0 (.proceed 0 "r2"),
    .act 1 (.receive anyContext), .act 1 (.proceed 0 ""), .act 0 .respond, .act 1 .respond]

/-- The second refresh counts as theft, and the token in the cookie is revoked. -/
theorem refresh_suspected :
    ¬ Untroubled plainCrypto
        ((dashboard plainCrypto {}).run (signedIn oneToken 0 "r1") (sameCookie.take 5)) ∧
      ¬ Untroubled plainCrypto
        ((dashboard plainCrypto {}).run (signedIn oneToken 0 "r1") sameCookie) := by
  constructor
  · intro untroubled
    exact untroubled.unsuspected 1 7 0 [1, 2] rfl
  · intro untroubled
    have unrevoked := untroubled.unrevoked
    revert unrevoked
    decide

end FaceVec.Auth

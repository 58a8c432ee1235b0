import FaceVec.Auth.Rotation

/-!
`refresh` alone, over every table of refresh tokens that the unique indexes and
the foreign keys allow. A revoked token is treated as stolen, whether it was
exchanged or not; `isReuseAttempt` asks for both.
-/

namespace FaceVec.Auth

open Interleaving

structure Sessions where
  users : Table User.clash
  refreshTokens : Table RefreshToken.clash

def Accounts.sessions (accounts : Accounts) : Sessions := ⟨accounts.users, accounts.refreshTokens⟩

/-- The transaction of `refresh`. -/
def rotate (tokens : Table RefreshToken.clash) (presented : Uuid) (row : RefreshToken)
    (now : Instant) : Except PrismaCode (Table RefreshToken.clash) :=
  match tokens.insert row with
  | none => .error .P2002
  | some created =>
      if created.rows.any (·.id == presented) then
        match created.rewrite (replace presented row.id now) with
        | none => .error .P2002
        | some rotated => .ok rotated
      else .error .P2025

/-- `refresh` from its call to its answer; `now` is the time it reads. -/
def refresh (crypto : Crypto) (config : Config) (sessions : Sessions) (now : Instant)
    (rawToken : String) (context : RequestContext) (draw : Nat) (newRaw : String) :
    Except Failure AuthResult × Table RefreshToken.clash :=
  let tokens := sessions.refreshTokens
  match tokens.rows.find? (·.tokenHash == crypto.hashRefreshToken rawToken) with
  | none => (.error (.http (unauthorizedError "Invalid refresh token")), tokens)
  | some existing =>
      match sessions.users.rows.find? (·.id == existing.userId) with
      -- The foreign key excludes this.
      | none => (.error (.http (unauthorizedError "Invalid refresh token")), tokens)
      | some user =>
          if existing.revokedAt.isSome then
            (.error (.http (unauthorizedError "Refresh token has been revoked")),
              tokens.modify (revoke (·.userId == existing.userId) now)
                (by intro a b; simp [RefreshToken.clash]))
          else if existing.expiresAt ≤ now then
            (.error (.http (unauthorizedError "Refresh token expired")), tokens)
          else if !user.isActive then
            (.error (.http (forbiddenError "Account is disabled")), tokens)
          else
            let id := crypto.uuids.generate draw (ids tokens)
            match rotate tokens existing.id
                (newToken crypto config id existing.userId newRaw now context) now with
            | .error code => (.error (.prisma code none), tokens)
            | .ok rotated => (.ok (authResult user newRaw), rotated)

section Machine

variable (crypto : Crypto) (config : Config)

theorem rotateToken_rotate (accounts : Accounts) (presented : Uuid) (row : RefreshToken)
    (unlinked : row.replacedById = none) (now : Instant) :
    rotate accounts.refreshTokens presented row now =
      (rotateToken accounts presented row unlinked now).map (·.refreshTokens) := by
  cases ran : rotateToken accounts presented row unlinked now with
  | error code =>
      unfold rotateToken at ran
      split at ran
      · next refused =>
          simp only [rotate, refused]
          exact congrArg Except.error (Except.error.inj ran)
      · next created inserted =>
          split at ran
          · next found =>
              split at ran
              · next refused =>
                  simp only [rotate, inserted, if_pos found, refused]
                  exact congrArg Except.error (Except.error.inj ran)
              · cases ran
          · next missing =>
              simp only [rotate, inserted, if_neg missing]
              exact congrArg Except.error (Except.error.inj ran)
  | ok next =>
      unfold rotateToken at ran
      split at ran
      · cases ran
      · next created inserted =>
          split at ran
          · next found =>
              split at ran
              · cases ran
              · next rotated rewritten =>
                  simp only [rotate, inserted, if_pos found, rewritten]
                  exact congrArg (fun done => Except.ok (Accounts.refreshTokens done)) (Except.ok.inj ran)
          · cases ran

/-- A `refresh` call that nothing interrupts is `refresh`. -/
theorem refresh_alone (store : Store) (rawToken : String) (context : RequestContext) (draw : Nat)
    (newRaw : String) :
    let ended := (machine crypto config).alone [.refresh rawToken context, .proceed draw newRaw]
      (store, .idle)
    let answer := refresh crypto config store.accounts.sessions store.clock rawToken context draw newRaw
    ended.1.accounts.refreshTokens = answer.2 ∧
      match answer.1 with
      | .error failure => ended.2 = .failed failure
      | .ok result => ∃ presented, ended.2 = .issued (some presented) result := by
  have begins : (machine crypto config).alone [.refresh rawToken context, .proceed draw newRaw]
      (store, .idle) =
        exec crypto config (.proceed draw newRaw) store
          (firstStep crypto store (.refresh rawToken context)) := rfl
  simp only [begins, firstStep, refreshCheck, findToken, refresh, Accounts.sessions]
  cases found : store.accounts.refreshTokens.rows.find?
      (·.tokenHash == crypto.hashRefreshToken rawToken) with
  | none => exact ⟨rfl, rfl⟩
  | some existing =>
      dsimp only [Option.bind_eq_bind, Option.bind_some]
      cases owned : store.accounts.users.rows.find? (·.id == existing.userId) with
      | none => exact ⟨rfl, rfl⟩
      | some user =>
          dsimp only [Option.bind_some, Option.pure_def]
          by_cases revoked : existing.revokedAt.isSome = true
          · simp only [if_pos revoked]
            exact ⟨rfl, rfl⟩
          by_cases expired : existing.expiresAt ≤ store.clock
          · simp only [if_neg revoked, if_pos expired]
            exact ⟨rfl, rfl⟩
          by_cases disabled : (!user.isActive) = true
          · simp only [if_neg revoked, if_neg expired, if_pos disabled]
            exact ⟨rfl, rfl⟩
          have same := rotateToken_rotate store.accounts existing.id
            (newToken crypto config (crypto.uuids.generate draw (ids store.accounts.refreshTokens))
              existing.userId newRaw store.clock context) rfl store.clock
          simp only [if_neg revoked, if_neg expired, if_neg disabled, exec]
          split
          · next code failed =>
              rw [failed] at same
              rw [same]
              exact ⟨rfl, rfl⟩
          · next accounts rotated =>
              rw [rotated] at same
              rw [same]
              exact ⟨rfl, existing.id, rfl⟩

end Machine

section Rules

variable (crypto : Crypto) (config : Config) (sessions : Sessions) (now : Instant)
  (rawToken : String) (context : RequestContext) (draw : Nat) (newRaw : String)

/-- The foreign keys of `refresh_tokens`. -/
structure Sessions.Referenced : Prop where
  owners : ∀ token ∈ sessions.refreshTokens, ∃ user ∈ sessions.users, user.id = token.userId
  successors : ∀ token ∈ sessions.refreshTokens, ∀ id, token.replacedById = some id →
    ∃ row ∈ sessions.refreshTokens, row.id = id

/-- The presented row is revoked and points to a new active row; nothing else changes. -/
def RotatesTo (before after : Table RefreshToken.clash) (existing : RefreshToken) (now : Instant) :
    Prop :=
  ∃ successor, after.rows = before.rows.map (replace existing.id successor.id now) ++ [successor] ∧
    successor.id ∉ ids before ∧ successor.userId = existing.userId ∧
    successor.replacedById = none ∧ isRefreshTokenActive successor now = true

theorem newToken_active (id userId : Uuid) :
    isRefreshTokenActive (newToken crypto config id userId newRaw now context) now = true := by
  have later : now < now + config.JWT_REFRESH_TTL * 1000 :=
    Nat.lt_add_of_pos_right (Nat.mul_pos config.JWT_REFRESH_TTL.pos (by decide))
  simp [isRefreshTokenActive, newToken, refreshTokenExpiry, later]

/-- Marking one row keeps the unique columns apart, if no row has the mark. -/
theorem replace_apart (presented successor : Uuid) (a b : RefreshToken)
    (unusedA : a.replacedById ≠ some successor) (unusedB : b.replacedById ≠ some successor)
    (apart : RefreshToken.clash a b = false) :
    RefreshToken.clash (replace presented successor now a) (replace presented successor now b) =
      false := by
  have otherA : sameValue a.replacedById (some successor) = false := by
    cases linked : a.replacedById with
    | none => rfl
    | some id => simpa [sameValue, linked] using unusedA
  have otherB : sameValue (some successor) b.replacedById = false := by
    cases linked : b.replacedById with
    | none => rfl
    | some id =>
        have different : successor ≠ id := fun same => unusedB (by rw [linked, same])
        simpa [sameValue] using different
  simp only [RefreshToken.clash, Bool.or_eq_false_iff] at apart ⊢
  by_cases isA : a.id = presented
  · have notB : b.id ≠ presented := by
      rintro rfl
      simp [isA] at apart
    rw [replace_presented _ _ _ _ isA, replace_other _ _ _ _ notB]
    exact ⟨apart.1, otherB⟩
  · rw [replace_other _ _ _ _ isA]
    by_cases isB : b.id = presented
    · rw [replace_presented _ _ _ _ isB]
      exact ⟨apart.1, otherA⟩
    · rw [replace_other _ _ _ _ isB]
      exact apart

/-- A rotation of a stored row goes through, if the new hash is new. -/
theorem rotate_some (tokens : Table RefreshToken.clash) (existing row : RefreshToken)
    (stored : existing ∈ tokens) (newId : row.id ∉ ids tokens) (unlinked : row.replacedById = none)
    (newHash : ∀ token ∈ tokens, token.tokenHash ≠ row.tokenHash)
    (successors : ∀ token ∈ tokens, ∀ id, token.replacedById = some id → id ∈ ids tokens) :
    ∃ after, rotate tokens existing.id row now = .ok after ∧
      after.rows = tokens.rows.map (replace existing.id row.id now) ++ [row] := by
  have apart : ∀ old ∈ tokens, RefreshToken.clash old row = false := by
    intro old member
    have otherId : old.id ≠ row.id := fun same => newId (List.mem_map.mpr ⟨old, member, same⟩)
    simp [RefreshToken.clash, otherId, newHash old member, unlinked, sameValue]
  obtain ⟨created, inserted⟩ := Table.insert_some tokens row apart
  have grown := Table.mem_insert tokens created row inserted
  have found : created.rows.any (·.id == existing.id) = true := by
    rw [List.any_eq_true]
    exact ⟨existing, (grown existing).mpr (Or.inl stored), by simp⟩
  -- No row points to the new one yet.
  have unused : ∀ token ∈ created, token.replacedById ≠ some row.id := by
    intro token member linked
    rcases (grown token).mp member with old | rfl
    · exact newId (successors token old row.id linked)
    · rw [unlinked] at linked
      contradiction
  obtain ⟨after, rewritten⟩ := Table.rewrite_some created (replace existing.id row.id now)
    fun a inA b inB => replace_apart now existing.id row.id a b (unused a inA) (unused b inB)
  refine ⟨after, ?_, ?_⟩
  · simp only [rotate, inserted, if_pos found, rewritten]
  · rw [Table.rewrite_eq_some _ _ _ rewritten, Table.insert_eq_some _ _ _ inserted, List.map_append,
      List.map_singleton, replace_other]
    intro same
    exact newId (List.mem_map.mpr ⟨existing, stored, same.symm⟩)

/-- `refresh` rotates an active token of an active user, revokes every
unrevoked token of the user if the presented one is revoked, rotated or not,
and otherwise changes nothing. -/
theorem refresh_rules (existing : RefreshToken) (user : User) (referenced : sessions.Referenced)
    (stored : existing ∈ sessions.refreshTokens)
    (presented : existing.tokenHash = crypto.hashRefreshToken rawToken)
    (account : user ∈ sessions.users) (owner : user.id = existing.userId)
    (newHash : ∀ token ∈ sessions.refreshTokens,
      token.tokenHash ≠ crypto.hashRefreshToken newRaw) :
    let answer := refresh crypto config sessions now rawToken context draw newRaw
    ((∃ result, answer.1 = .ok result) ↔
      isRefreshTokenActive existing now = true ∧ user.isActive = true) ∧
    ((∃ result, answer.1 = .ok result) → RotatesTo sessions.refreshTokens answer.2 existing now) ∧
    (existing.revokedAt.isSome →
      answer.2.rows = sessions.refreshTokens.rows.map (revoke (·.userId == existing.userId) now)) ∧
    (existing.revokedAt = none → (∃ failure, answer.1 = .error failure) →
      answer.2 = sessions.refreshTokens) := by
  have found : sessions.refreshTokens.rows.find?
      (·.tokenHash == crypto.hashRefreshToken rawToken) = some existing := by
    refine Table.find_single _ _ existing (fun a b first second => ?_) stored (by simp [presented])
    simp only [beq_iff_eq] at first second
    simp [RefreshToken.clash, first, second]
  have owned : sessions.users.rows.find? (·.id == existing.userId) = some user := by
    refine Table.find_single _ _ user (fun a b first second => ?_) account (by simp [owner])
    simp only [beq_iff_eq] at first second
    simp [User.clash, first, second]
  simp only [refresh, found, owned, isRefreshTokenActive]
  cases revoked : existing.revokedAt with
  | some time => exact ⟨by simp, by simp, fun _ => rfl, by simp⟩
  | none =>
      by_cases expired : existing.expiresAt ≤ now
      · simp [expired]
      cases active : user.isActive with
      | false => simp [expired]
      | true =>
          have newId := crypto.uuids.fresh draw (ids sessions.refreshTokens)
          obtain ⟨after, ran, rows⟩ := rotate_some now sessions.refreshTokens existing
            (newToken crypto config (crypto.uuids.generate draw (ids sessions.refreshTokens))
              existing.userId newRaw now context) stored newId rfl newHash
            (fun token member id linked => by
              obtain ⟨row, among, same⟩ := referenced.successors token member id linked
              exact List.mem_map.mpr ⟨row, among, same⟩)
          have rotates : RotatesTo sessions.refreshTokens after existing now :=
            ⟨_, rows, newId, rfl, rfl, newToken_active crypto config now context newRaw _ _⟩
          simp [expired, ran, rotates, Nat.lt_of_not_le expired]

end Rules

/-- A token revoked by `logout`, never exchanged. -/
def loggedOut : RefreshToken := ⟨1, 7, "r1", 1000, some 5, none, none, none⟩

/-- The token of another session of the user. -/
def elsewhere : RefreshToken := ⟨2, 7, "r2", 1000, none, none, none, none⟩

theorem twoTokens_apart : [loggedOut, elsewhere].Pairwise fun earlier later =>
    RefreshToken.clash earlier later = false := by decide

def twoSessions : Sessions where
  users := oneUser.users
  refreshTokens := ⟨[loggedOut, elsewhere], twoTokens_apart⟩

theorem twoSessions_referenced : twoSessions.Referenced where
  owners := by
    intro token member
    refine ⟨_, List.mem_cons_self, ?_⟩
    rcases List.mem_cons.mp member with rfl | member
    · rfl
    · rw [List.mem_singleton.mp member]
      rfl
  successors := by
    intro token member id linked
    rcases List.mem_cons.mp member with rfl | member
    · cases linked
    · rw [List.mem_singleton.mp member] at linked
      cases linked

/-- The token of the finished session ends the other session, too. -/
theorem refresh_revokes_unrotated : isReuseAttempt loggedOut = false ∧
    loggedOut.tokenHash = plainCrypto.hashRefreshToken "r1" ∧
    isRefreshTokenActive elsewhere 10 = true ∧
    (refresh plainCrypto .least twoSessions 10 "r1" anyContext 0 "r3").2.rows =
      [loggedOut, { elsewhere with revokedAt := some 10 }] :=
  ⟨rfl, rfl, rfl, rfl⟩

theorem refresh_rules_elsewhere :
    ∃ result, (refresh plainCrypto .least twoSessions 10 "r2" anyContext 0 "r3").1 = .ok result := by
  refine (refresh_rules plainCrypto .least twoSessions 10 "r2" anyContext 0 "r3" elsewhere _
    twoSessions_referenced ?_ rfl List.mem_cons_self rfl ?_).1.mpr ⟨rfl, rfl⟩
  · exact List.mem_cons_of_mem _ List.mem_cons_self
  · intro token member
    rcases List.mem_cons.mp member with rfl | member
    · decide
    · rw [List.mem_singleton.mp member]
      decide

end FaceVec.Auth

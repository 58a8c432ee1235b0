import FaceVec.Auth.Rotation

/-!
Completeness of session revocation. `logout`, `logoutAll` and the reaction to
reuse revoke the rows that exist when their update runs; a refresh that has
already passed its check inserts a successor afterwards. What holds is that a
returned revocation stays complete as long as no write acts on a row that
changed since its call looked at it.
-/

namespace FaceVec.Auth

open Interleaving

/-- No token obtained by exchanging a token that a returned revocation covers
is active. -/
def Complete (store : Store) : Prop :=
  ∀ root ∈ store.covered, ∀ id, Relation.TransGen (Exchanged store) root id → ¬ Active store id

/-- A rotation finds its row unrevoked, and a logout finds the token that was
active when it started not yet exchanged. -/
def FindsUnrevoked (system : System Store Call) : Event Input Change → Prop
  | .act index (.proceed _ _) =>
      match system.procs index with
      | .rotating existing _ _ _ => ∀ token ∈ system.store.accounts.refreshTokens.rows,
          token.id = existing.id → token.revokedAt = none
      | .loggingOut _ (some target) => ∀ token ∈ system.store.accounts.refreshTokens.rows,
          token.id = target → token.replacedById = none
      | _ => True
  | _ => True

instance : (system : System Store Call) → (event : Event Input Change) →
    Decidable (FindsUnrevoked system event)
  | system, .act index (.proceed _ _) =>
      match found : system.procs index with
      | .rotating existing _ _ _ =>
          decidable_of_iff (∀ token ∈ system.store.accounts.refreshTokens.rows,
            token.id = existing.id → token.revokedAt = none) (by simp only [FindsUnrevoked, found])
      | .loggingOut _ (some target) =>
          decidable_of_iff (∀ token ∈ system.store.accounts.refreshTokens.rows,
            token.id = target → token.replacedById = none) (by simp only [FindsUnrevoked, found])
      | .loggingOut _ none | .idle | .creating _ _ | .revoking _ _ _ | .loggingOutAll _ _
      | .issued _ _ | .loggedOut | .failed _ => .isTrue (by simp only [FindsUnrevoked, found])
  | _, .act _ (.login _ _ _) | _, .act _ (.refresh _ _) | _, .act _ (.logout _)
  | _, .act _ (.logoutAll _) | _, .env _ => .isTrue trivial

/-- The stored row `id` is revoked. -/
def Dead (store : Store) (id : Uuid) : Prop :=
  ∃ token ∈ store.accounts.refreshTokens, token.id = id ∧ token.revokedAt ≠ none

theorem dead_inactive (store : Store) (id : Uuid) (dead : Dead store id) : ¬ Active store id := by
  obtain ⟨token, member, rfl, revoked⟩ := dead
  rintro ⟨row, stored, same, active⟩
  rw [token_eq_of_id _ row token stored member same] at active
  simp only [isRefreshTokenActive, Bool.and_eq_true, Option.isNone_iff_eq_none] at active
  exact revoked active.1

/-- Rows are never dropped, never change hands and never come back. -/
def Kept (before after : Store) : Prop :=
  ∀ token ∈ before.accounts.refreshTokens, ∃ row ∈ after.accounts.refreshTokens,
    row.id = token.id ∧ row.userId = token.userId ∧ row.tokenHash = token.tokenHash ∧
      (token.revokedAt ≠ none → row.revokedAt ≠ none)

theorem kept_refl (store : Store) : Kept store store :=
  fun token member => ⟨token, member, rfl, rfl, rfl, id⟩

theorem kept_dead (before after : Store) (kept : Kept before after) (id : Uuid)
    (dead : Dead before id) : Dead after id := by
  obtain ⟨token, member, same, revoked⟩ := dead
  obtain ⟨row, stored, rowId, _, _, stays⟩ := kept token member
  exact ⟨row, stored, rowId.trans same, stays revoked⟩

theorem effect_kept (store after : Store) (call next : Call) (input : Input)
    (effect : Effect store call input after next) : Kept store after := by
  cases effect with
  | quiet => exact kept_refl store
  | created accounts row result fresh active unlinked rows =>
      intro token member
      exact ⟨token, by simpa [Table.mem_rows, rows] using Or.inl member, rfl, rfl, rfl, id⟩
  | rotated existing user now context waiting proceeds accounts row result fresh owner active
      unlinked found rows =>
      intro token member
      refine ⟨replace existing.id row.id now token, ?_, by simp, by simp, ?_, ?_⟩
      · rw [Table.mem_rows, rows]
        exact List.mem_map.mpr ⟨token, List.mem_append_left _ member, rfl⟩
      · unfold replace; split <;> rfl
      · unfold replace
        split
        · simp
        · exact id
  | revoked selected now =>
      intro token member
      exact ⟨revoke selected now token, List.mem_map.mpr ⟨token, member, rfl⟩, by simp, by simp,
        by simp, revoke_keeps_revoked selected now token⟩

/-- What a waiting call remembers is still about stored rows. -/
def Waiting (store : Store) : Call → Prop
  | .rotating existing _ _ _ => ∃ token ∈ store.accounts.refreshTokens,
      token.id = existing.id ∧ token.userId = existing.userId
  | .revoking userId _ existed | .loggingOutAll userId existed => ∀ id ∈ existed,
      ∃ token ∈ store.accounts.refreshTokens, token.id = id ∧ token.userId = userId
  | .loggingOut tokenHash target => ∀ id ∈ target,
      ∃ token ∈ store.accounts.refreshTokens, token.id = id ∧ token.tokenHash = tokenHash
  | _ => True

theorem waiting_kept (before after : Store) (kept : Kept before after) (call : Call)
    (waiting : Waiting before call) : Waiting after call := by
  have owned : ∀ id userId, (∃ token ∈ before.accounts.refreshTokens,
      token.id = id ∧ token.userId = userId) →
      ∃ token ∈ after.accounts.refreshTokens, token.id = id ∧ token.userId = userId := by
    rintro id userId ⟨token, member, same, owner⟩
    obtain ⟨row, stored, rowId, rowOwner, _⟩ := kept token member
    exact ⟨row, stored, rowId.trans same, rowOwner.trans owner⟩
  cases call with
  | rotating existing => exact owned _ _ waiting
  | revoking userId now existed => exact fun id member => owned id userId (waiting id member)
  | loggingOutAll userId existed => exact fun id member => owned id userId (waiting id member)
  | loggingOut tokenHash target =>
      intro id member
      obtain ⟨token, stored, same, hashed⟩ := waiting id member
      obtain ⟨row, rowStored, rowId, _, rowHash, _⟩ := kept token stored
      exact ⟨row, rowStored, rowId.trans same, rowHash.trans hashed⟩
  | _ => trivial

theorem tokensOf_owned (accounts : Accounts) (userId id : Uuid)
    (member : id ∈ tokensOf accounts userId) :
    ∃ token ∈ accounts.refreshTokens, token.id = id ∧ token.userId = userId := by
  obtain ⟨token, selected, same⟩ := List.mem_map.mp member
  obtain ⟨stored, owner⟩ := List.mem_filter.mp selected
  exact ⟨token, stored, same, by simpa using owner⟩

theorem firstStep_waiting (crypto : Crypto) (store : Store) (input : Input) :
    Waiting store (firstStep crypto store input) := by
  cases input with
  | login email password context =>
      simp only [firstStep]
      split <;> trivial
  | refresh rawToken context =>
      simp only [firstStep]
      split
      · trivial
      · exact fun id member => tokensOf_owned _ _ id member
      · next existing user rotates =>
          exact ⟨existing, findToken_mem _ _ _ _ (refreshCheck_rotate _ _ _ _ _ _ rotates), rfl, rfl⟩
  | logout refreshToken =>
      cases refreshToken with
      | none => trivial
      | some raw =>
          intro id member
          simp only [activeTarget, Option.mem_def, Option.map_eq_some_iff,
            Option.filter_eq_some_iff] at member
          obtain ⟨token, ⟨found, _⟩, same⟩ := member
          exact ⟨token, List.mem_of_find?_eq_some found, same,
            by simpa using List.find?_some found⟩
  | logoutAll userId => exact fun id member => tokensOf_owned _ _ id member
  | proceed draw newRaw => trivial

theorem exec_waiting (crypto : Crypto) (config : Config) (input : Input) (store : Store)
    (call : Call) (waiting : Waiting store call) :
    Waiting (exec crypto config input store call).1 (exec crypto config input store call).2 := by
  unfold exec
  split
  · exact firstStep_waiting crypto store input
  · dsimp only; split <;> trivial
  · dsimp only; split <;> trivial
  · trivial
  · trivial
  · trivial
  · exact waiting

/-- Exchanges stay within one user's stored tokens. -/
def SameOwner (store : Store) : Prop :=
  ∀ presented successor, Exchanged store presented successor →
    ∃ a ∈ store.accounts.refreshTokens, ∃ b ∈ store.accounts.refreshTokens,
      a.id = presented ∧ b.id = successor ∧ a.userId = b.userId

/-- The covered tokens lie in a set of revoked tokens that no exchange leaves. -/
def Sealed (store : Store) : Prop :=
  ∃ dead : Uuid → Prop, (∀ id ∈ store.covered, dead id) ∧ (∀ id, dead id → Dead store id) ∧
    ∀ presented successor, Exchanged store presented successor → dead presented → dead successor

theorem sealed_complete (store : Store) (closed : Sealed store) : Complete store := by
  obtain ⟨dead, covers, revoked, follows⟩ := closed
  intro root member id path
  have reached : dead id := by
    induction path with
    | single exchanged => exact follows _ _ exchanged (covers root member)
    | tail _ exchanged ih => exact follows _ _ exchanged ih
  exact dead_inactive store id (revoked id reached)

theorem effect_sameOwner (store after : Store) (call next : Call) (input : Input)
    (effect : Effect store call input after next) (waiting : Waiting store call)
    (valid : SameOwner store) : SameOwner after := by
  have kept := effect_kept store after call next input effect
  have carried : ∀ presented successor, Exchanged store presented successor →
      ∃ a ∈ after.accounts.refreshTokens, ∃ b ∈ after.accounts.refreshTokens,
        a.id = presented ∧ b.id = successor ∧ a.userId = b.userId := by
    intro presented successor exchanged
    obtain ⟨a, inA, b, inB, idA, idB, owner⟩ := valid presented successor exchanged
    obtain ⟨a', inA', idA', ownerA, _⟩ := kept a inA
    obtain ⟨b', inB', idB', ownerB, _⟩ := kept b inB
    exact ⟨a', inA', b', inB', idA'.trans idA, idB'.trans idB, by rw [ownerA, ownerB, owner]⟩
  cases effect with
  | quiet => exact carried
  | created => exact carried
  | revoked => exact carried
  | rotated existing user now context waits proceeds accounts row result fresh owner active
      unlinked found rows =>
      intro presented successor exchanged
      rcases List.mem_append.mp exchanged with old | new
      · exact carried presented successor old
      · obtain ⟨rfl, rfl⟩ : presented = existing.id ∧ successor = row.id := by simpa using new
        rw [waits] at waiting
        obtain ⟨token, member, same, owned⟩ := waiting
        obtain ⟨a, inA, idA, ownerA, _⟩ := kept token member
        refine ⟨a, inA, replace existing.id row.id now row, ?_, idA.trans same, by simp, ?_⟩
        · rw [Table.mem_rows, rows]
          exact List.mem_map.mpr ⟨row, by simp, rfl⟩
        · rw [ownerA, owned, replace_userId, owner]

/-- A revocation adds to the revoked set what follows its own exchanges. -/
theorem sealed_grows (store after : Store) (dead more : Uuid → Prop) (extra : List Uuid)
    (covered : after.covered = store.covered ++ extra) (exchanges : after.exchanges = store.exchanges)
    (covers : ∀ id ∈ store.covered, dead id)
    (follows : ∀ presented successor, Exchanged store presented successor → dead presented →
      dead successor)
    (stays : ∀ id, dead id → Dead after id) (aims : ∀ id ∈ extra, more id)
    (hits : ∀ id, more id → Dead after id)
    (continues : ∀ presented successor, Exchanged store presented successor → more presented →
      more successor) : Sealed after := by
  refine ⟨fun id => dead id ∨ more id, ?_, ?_, ?_⟩
  · intro id member
    rw [covered] at member
    rcases List.mem_append.mp member with old | new
    · exact Or.inl (covers id old)
    · exact Or.inr (aims id new)
  · rintro id (inside | added)
    · exact stays id inside
    · exact hits id added
  · intro presented successor exchanged inside
    rw [Exchanged, exchanges] at exchanged
    rcases inside with old | new
    · exact Or.inl (follows presented successor exchanged old)
    · exact Or.inr (continues presented successor exchanged new)

theorem effect_sealed (system : System Store Call) (index : Nat) (input : Input)
    (after : Store) (next : Call)
    (effect : Effect system.store (system.procs index) input after next)
    (meets : FindsUnrevoked system (.act index input))
    (waiting : Waiting system.store (system.procs index))
    (recorded : Recorded system.store) (owners : SameOwner system.store)
    (valid : Sealed system.store) : Sealed after := by
  have kept := effect_kept _ _ _ _ _ effect
  obtain ⟨dead, covers, revoked, follows⟩ := valid
  have stays : ∀ id, dead id → Dead after id :=
    fun id inside => kept_dead _ _ kept id (revoked id inside)
  cases effect with
  | quiet => exact ⟨dead, covers, revoked, follows⟩
  | created => exact ⟨dead, covers, stays, follows⟩
  | rotated existing user now context waits proceeds accounts row result fresh owner active
      unlinked found rows =>
      obtain ⟨draw, newRaw, rfl⟩ := proceeds
      simp only [FindsUnrevoked, waits] at meets
      refine ⟨dead, covers, stays, ?_⟩
      intro presented successor exchanged inside
      rcases List.mem_append.mp exchanged with old | new
      · exact follows presented successor old inside
      · obtain ⟨rfl, rfl⟩ : presented = existing.id ∧ successor = row.id := by simpa using new
        obtain ⟨token, member, same, gone⟩ := revoked _ inside
        exact absurd (meets token member same) gone
  | revoked selected now extra next unissued proceeds aimed =>
      obtain ⟨draw, newRaw, rfl⟩ := proceeds
      have hits : ∀ token ∈ system.store.accounts.refreshTokens, selected token = true →
          Dead { system.store with
            accounts := updateManyRevoke system.store.accounts selected now
            covered := system.store.covered ++ extra } token.id := by
        intro token member hit
        exact ⟨revoke selected now token, List.mem_map.mpr ⟨token, member, rfl⟩, by simp,
          revoke_selected selected now token hit⟩
      rcases aimed with ⟨userId, rfl, aim⟩ | ⟨tokenHash, target, rfl, aim, rfl⟩
      · -- Every token of the user joins the revoked set, descendants included.
        have owned : ∀ id ∈ extra, ∃ token ∈ system.store.accounts.refreshTokens,
            token.id = id ∧ token.userId = userId := by
          rcases aim with ⟨started, aim⟩ | aim <;> rw [aim] at waiting <;> exact waiting
        apply sealed_grows system.store _ dead
          (fun id => ∃ token ∈ system.store.accounts.refreshTokens,
            token.id = id ∧ token.userId = userId) extra
        · rfl
        · rfl
        · exact covers
        · exact follows
        · exact stays
        · exact owned
        · rintro id ⟨token, member, rfl, owner⟩
          exact hits token member (by simpa using owner)
        · rintro presented successor exchanged ⟨token, member, same, owner⟩
          obtain ⟨a, inA, b, inB, idA, idB, shared⟩ := owners presented successor exchanged
          have known := token_eq_of_id _ a token inA member (idA.trans same.symm)
          exact ⟨b, inB, idB, by rw [← shared, known, owner]⟩
      · -- The presented token was not exchanged before, and is revoked from here on.
        rw [aim] at waiting
        apply sealed_grows system.store _ dead (· ∈ target) target.toList
        · rfl
        · rfl
        · exact covers
        · exact follows
        · exact stays
        · exact fun id member => by simpa using member
        · intro id isTarget
          obtain ⟨token, member, rfl, hashed⟩ := waiting id isTarget
          exact hits token member (by simpa using hashed)
        · intro presented successor exchanged isTarget
          simp only [Option.mem_def] at isTarget
          simp only [FindsUnrevoked, aim, isTarget] at meets
          obtain ⟨token, member, same, replaced⟩ := recorded.linked _ _ exchanged
          exact absurd (meets token member same) replaced

/-- The invariant of runs whose writes find their rows as they were read. -/
structure Revoking (system : System Store Call) : Prop where
  recorded : Recorded system.store
  owners : SameOwner system.store
  sealed_ : Sealed system.store
  waiting : ∀ index, Waiting system.store (system.procs index)

theorem start_revoking (stored : StoredAccounts) (clock : Instant) :
    Revoking (start stored clock) where
  recorded := start_recorded stored clock
  owners := by
    intro presented successor exchanged
    obtain ⟨token, member, same, link⟩ := (storedLinks_mem _ _ _).mp exchanged
    obtain ⟨_, row, stored', rowId⟩ := stored.chained token member successor link
    exact ⟨token, member, row, stored', same, rowId,
      (stored.sameUser token member row stored' (by rw [link, rowId])).symm⟩
  sealed_ := ⟨fun _ => False, by simp [start], by simp, by simp⟩
  waiting := fun _ => trivial

theorem step_revoking (crypto : Crypto) (config : Config) (system : System Store Call)
    (event : Event Input Change) (valid : Revoking system)
    (meets : FindsUnrevoked system event) :
    Revoking ((machine crypto config).step system event) := by
  cases event with
  | act index input =>
      have effect := exec_effect crypto config input system.store (system.procs index)
      have kept := effect_kept _ _ _ _ _ effect
      refine ⟨effect_recorded _ _ _ _ _ effect valid.recorded,
        effect_sameOwner _ _ _ _ _ effect (valid.waiting index) valid.owners,
        effect_sealed system index input _ _ effect meets (valid.waiting index) valid.recorded
          valid.owners valid.sealed_, ?_⟩
      intro other
      by_cases same : other = index
      · subst other
        simpa [machine] using
          exec_waiting crypto config input system.store _ (valid.waiting index)
      · simpa [machine, same] using waiting_kept _ _ kept _ (valid.waiting other)
  | env change =>
      cases change with
      | tick => exact ⟨⟨valid.recorded.linked, valid.recorded.recorded⟩, valid.owners,
          valid.sealed_, fun index => waiting_kept _ _ (kept_refl system.store) _
            (valid.waiting index)⟩

/-- In every interleaving whose writes find their rows as they were read,
nothing a returned revocation covers comes back as an active successor. -/
theorem revocation_complete (crypto : Crypto) (config : Config) (stored : StoredAccounts)
    (clock : Instant) (events : List (Event Input Change))
    (along : (machine crypto config).Along FindsUnrevoked (start stored clock) events) :
    Complete ((machine crypto config).run (start stored clock) events).store :=
  sealed_complete _ (along_invariant _ FindsUnrevoked Revoking
    (step_revoking crypto config) _ events (start_revoking stored clock) along).sealed_

instance (store : Store) (id : Uuid) : Decidable (Active store id) :=
  inferInstanceAs (Decidable (∃ token ∈ store.accounts.refreshTokens.rows,
    token.id = id ∧ isRefreshTokenActive token store.clock = true))

theorem revocation_complete_sequential :
    Complete ((machine plainCrypto {}).run (start oneUser 0)
      (sequential ++ [.act 2 (.logoutAll 7), .act 2 (.proceed 0 "")])).store :=
  revocation_complete plainCrypto {} oneUser 0 _ (by decide)

/-- Log in, let call 1 read the token, revoke through call 2, then rotate. -/
def overtaken (revocation : Input) : List (Event Input Change) :=
  [.act 0 (.login "p@x" "pw" anyContext), .act 0 (.proceed 0 "r1"),
   .act 1 (.refresh "r1" anyContext), .act 2 revocation, .act 2 (.proceed 0 ""),
   .act 1 (.proceed 0 "r2")]

/-- Log in and rotate once, let call 2 read the successor, detect reuse of the
first token in call 3, then rotate the successor. -/
def overtakenReuse : List (Event Input Change) :=
  sequential ++ [.act 2 (.refresh "r2" anyContext), .act 3 (.refresh "r1" anyContext),
    .act 3 (.proceed 0 ""), .act 2 (.proceed 0 "r3")]

/-- A successor inserted after the revoking update stays active, be it a
logout, a logout of every session or the reaction to reuse. -/
theorem revocation_overtaken :
    ¬ Complete ((machine plainCrypto {}).run (start oneUser 0)
      (overtaken (.logout (some "r1")))).store ∧
    ¬ Complete ((machine plainCrypto {}).run (start oneUser 0)
      (overtaken (.logoutAll 7))).store ∧
    ¬ Complete ((machine plainCrypto {}).run (start oneUser 0) overtakenReuse).store := by
  refine ⟨fun complete => ?_, fun complete => ?_, fun complete => ?_⟩
  · exact complete 1 (by decide) 2
      (.single (show (1, 2) ∈ Store.exchanges _ by decide)) (by decide)
  · exact complete 1 (by decide) 2
      (.single (show (1, 2) ∈ Store.exchanges _ by decide)) (by decide)
  · exact complete 2 (by decide) 3
      (.single (show (2, 3) ∈ Store.exchanges _ by decide)) (by decide)

end FaceVec.Auth

import FaceVec.Api.Paging
import FaceVec.Auth.Bearer

/-!
The accounts of the platform: the statements that `users.service.ts` and
`auth.service.ts` run against `users` and `refresh_tokens`, with what the
schema does on a delete. A `Directory` carries the foreign key of the tokens:
each belongs to a stored user.
-/

namespace FaceVec.Users

open Auth Api

variable {K : Type}

structure Directory (K : Type) where
  accounts : Accounts
  profiles : Uuid → UserProfile
  /-- The other tables; some rows refer to users. -/
  db : Database K
  owned : ∀ token ∈ accounts.refreshTokens, ∃ user ∈ accounts.users, user.id = token.userId

theorem hasUser_iff (users : Table User.clash) (id : Uuid) :
    hasUser users id = true ↔ ∃ user ∈ users, user.id = id := by
  simp [hasUser, Table.mem_rows]

namespace Directory

variable (directory : Directory K)

def users : Table User.clash := directory.accounts.users

def tokens : Table RefreshToken.clash := directory.accounts.refreshTokens

def findUser (id : Uuid) : Option User := directory.users.rows.find? (·.id == id)

def findByEmail (email : String) : Option User := directory.users.rows.find? (·.email == email)

theorem findUser_some (id : Uuid) (user : User) (found : directory.findUser id = some user) :
    user ∈ directory.users ∧ user.id = id := by
  refine ⟨List.mem_of_find?_eq_some found, ?_⟩
  simpa using List.find?_some found

theorem findUser_of_mem (user : User) (stored : user ∈ directory.users) :
    directory.findUser user.id = some user :=
  directory.users.find_single _ user
    (fun a b one other => by simp_all [User.clash]) stored (beq_self_eq_true user.id)

theorem findByEmail_of_mem (user : User) (stored : user ∈ directory.users) :
    directory.findByEmail user.email = some user :=
  directory.users.find_single _ user
    (fun a b one other => by simp_all [User.clash]) stored (beq_self_eq_true user.email)

end Directory

section Rows

variable (uuids : UuidSource) (draw : Nat) (now : Instant)

/-- `user.create`, by `register` and by `createUser`. -/
def insertUser (email passwordHash displayName : String) (role : Role) (directory : Directory K) :
    Except Failure (User × Directory K) :=
  let id := uuids.generate draw (directory.users.rows.map (·.id))
  let row : User := ⟨id, email, passwordHash, role, true⟩
  match inserted : directory.users.insert row with
  | none => violation .P2002
  | some users => .ok (row,
      { directory with
        accounts := { directory.accounts with users }
        profiles := Function.update directory.profiles id ⟨displayName, now, now⟩
        owned := fun token stored =>
          let ⟨user, member, same⟩ := directory.owned token stored
          ⟨user, (Table.mem_insert _ _ row inserted user).mpr (Or.inl member), same⟩ })

/-- What `user.update` is given; an absent column stays as it is. -/
structure UserUpdate where
  displayName : Option String := none
  role : Option Role := none
  isActive : Option Bool := none
  passwordHash : Option String := none

def UserUpdate.apply (data : UserUpdate) (user : User) : User :=
  { user with
    role := data.role.getD user.role
    isActive := data.isActive.getD user.isActive
    passwordHash := data.passwordHash.getD user.passwordHash }

def UserUpdate.applyTo (data : UserUpdate) (id : Uuid) (user : User) : User :=
  if user.id = id then data.apply user else user

@[simp] theorem UserUpdate.applyTo_id (data : UserUpdate) (id : Uuid) (user : User) :
    (data.applyTo id user).id = user.id := by
  unfold applyTo; split <;> rfl

@[simp] theorem UserUpdate.applyTo_email (data : UserUpdate) (id : Uuid) (user : User) :
    (data.applyTo id user).email = user.email := by
  unfold applyTo; split <;> rfl

/-- `user.update({ where: { id }, data })`. -/
def modifyUser (id : Uuid) (data : UserUpdate) (directory : Directory K) :
    Except Failure (User × Directory K) :=
  match directory.findUser id with
  | none => violation .P2025
  | some user => .ok (data.apply user,
      { directory with
        accounts :=
          { directory.accounts with
            users := directory.users.modify (data.applyTo id) (by intro a b; simp [User.clash]) }
        profiles := Function.update directory.profiles id
          { directory.profiles id with
            displayName := data.displayName.getD (directory.profiles id).displayName
            updatedAt := now }
        owned := fun token stored =>
          let ⟨user, member, same⟩ := directory.owned token stored
          ⟨data.applyTo id user, List.mem_map.mpr ⟨user, member, rfl⟩, by simpa using same⟩ })

end Rows

section Deletion

/-- `replaced_by_id` under `onDelete: SetNull`. -/
def unlink (gone : List Uuid) (token : RefreshToken) : RefreshToken :=
  { token with replacedById := token.replacedById.filter fun successor => !gone.contains successor }

theorem sameValue_filter {α : Type} [DecidableEq α] (keeps : α → Bool) (a b : Option α)
    (apart : sameValue a b = false) : sameValue (a.filter keeps) (b.filter keeps) = false := by
  cases a with
  | none => rfl
  | some x =>
      cases b with
      | none => simp [sameValue]
      | some y =>
          simp only [sameValue] at apart
          simp only [Option.filter_some]
          split <;> split <;> simp [sameValue, apart]

theorem unlink_unlinked (gone : List Uuid) (token : RefreshToken)
    (unlinked : token.replacedById = none) : unlink gone token = token := by
  cases token
  cases unlinked
  rfl

theorem unlink_apart (gone : List Uuid) (a b : RefreshToken) (apart : a.clash b = false) :
    (unlink gone a).clash (unlink gone b) = false := by
  simp only [RefreshToken.clash, Bool.or_eq_false_iff] at apart ⊢
  exact ⟨apart.1, sameValue_filter _ _ _ apart.2⟩

/-- The user with its refresh tokens, which `onDelete: Cascade` takes along. -/
def removeAccount (id : Uuid) (accounts : Accounts) : Accounts where
  users := accounts.users.delete (·.id == id)
  refreshTokens :=
    (accounts.refreshTokens.delete (·.userId == id)).relax (unlink (tokensOf accounts id))
      (unlink_apart _)
  chained := by
    intro token member successor link
    obtain ⟨old, kept, rfl⟩ := (Table.mem_relax _ _ _ _).mp member
    obtain ⟨stored, _⟩ := (Table.mem_delete _ _ _).mp kept
    obtain ⟨linked, remains⟩ := Option.filter_eq_some_iff.mp link
    obtain ⟨revoked, row, rowStored, rowId⟩ := accounts.chained old stored successor linked
    refine ⟨revoked, unlink _ row, (Table.mem_relax _ _ _ _).mpr ⟨row, ?_, rfl⟩, rowId⟩
    refine (Table.mem_delete _ _ _).mpr ⟨rowStored, ?_⟩
    -- A successor of the deleted user would have been unlinked.
    by_contra owner
    have mine : successor ∈ tokensOf accounts id :=
      List.mem_map.mpr ⟨row, List.mem_filter.mpr ⟨rowStored, by simpa using owner⟩, rowId⟩
    simp [mine] at remains

/-- `students.user_id` under `onDelete: SetNull`. -/
def detach (id : Uuid) (student : Student) : Student :=
  { student with userId := student.userId.filter (· != id) }

theorem detach_apart (id : Uuid) (a b : Student) (apart : a.clash b = false) :
    (detach id a).clash (detach id b) = false := by
  simp only [Student.clash, Bool.or_eq_false_iff] at apart ⊢
  exact ⟨apart.1, sameValue_filter _ _ _ apart.2⟩

def restricts (db : Database K) (id : Uuid) : Bool :=
  db.courses.rows.any (·.professorId == id) || db.attendanceSessions.rows.any (·.createdById == id)

/-- `user.delete({ where: { id } })`. -/
def removeUser (id : Uuid) (directory : Directory K) : Except Failure (Directory K) :=
  if (directory.findUser id).isNone then violation .P2025
  else if restricts directory.db id then violation .P2003
  else .ok
    { directory with
      accounts := removeAccount id directory.accounts
      db := { directory.db with
        students := directory.db.students.relax (detach id) (detach_apart id) }
      owned := by
        intro token member
        obtain ⟨old, kept, rfl⟩ := (Table.mem_relax _ _ (unlink_apart _) _).mp member
        obtain ⟨stored, other⟩ := (Table.mem_delete _ _ _).mp kept
        obtain ⟨user, member, same⟩ := directory.owned old stored
        exact ⟨user, (Table.mem_delete _ _ _).mpr ⟨member, same ▸ other⟩, same⟩ }

end Deletion

section Tokens

/-- `refreshToken.updateMany({ where: { …, revokedAt: null }, data: { revokedAt } })`. -/
def revokeTokens (selected : RefreshToken → Bool) (now : Instant) (directory : Directory K) :
    Directory K :=
  { directory with
    accounts := updateManyRevoke directory.accounts selected now
    owned := by
      intro token member
      obtain ⟨old, stored, rfl⟩ := List.mem_map.mp member
      obtain ⟨user, member, same⟩ := directory.owned old stored
      exact ⟨user, member, same.trans (revoke_userId selected now old).symm⟩ }

/-- `refreshToken.create`, with its foreign key. -/
def insertToken (row : RefreshToken) (unlinked : row.replacedById = none)
    (directory : Directory K) : Except Failure (Directory K) :=
  if owner : hasUser directory.users row.userId then
    match created : createToken directory.accounts row unlinked with
    | none => violation .P2002
    | some accounts => .ok
        { directory with
          accounts := { accounts with users := directory.users }
          owned := by
            intro token member
            rw [Table.mem_rows, createToken_rows _ _ _ _ created] at member
            rcases List.mem_append.mp member with old | new
            · exact directory.owned token old
            · rw [List.mem_singleton.mp new]
              exact (hasUser_iff _ _).mp owner }
  else violation .P2003

/-- The transaction of `refresh`. -/
def exchangeToken (presented : Uuid) (row : RefreshToken) (unlinked : row.replacedById = none)
    (now : Instant) (directory : Directory K) : Except Failure (Directory K) :=
  if owner : hasUser directory.users row.userId then
    match rotated : rotateToken directory.accounts presented row unlinked now with
    | .error code => violation code
    | .ok accounts => .ok
        { directory with
          accounts := { accounts with users := directory.users }
          owned := by
            intro token member
            rw [Table.mem_rows, (rotateToken_rows _ _ _ _ _ _ rotated).2] at member
            obtain ⟨old, stored, rfl⟩ := List.mem_map.mp member
            rw [replace_userId]
            rcases List.mem_append.mp stored with earlier | new
            · exact directory.owned old earlier
            · rw [List.mem_singleton.mp new]
              exact (hasUser_iff _ _).mp owner }
  else violation .P2003

end Tokens

section Outcomes

variable (directory after : Directory K)

theorem insertUser_ok (uuids : UuidSource) (draw : Nat) (now : Instant)
    (email passwordHash displayName : String) (role : Role) (user : User)
    (inserted : insertUser uuids draw now email passwordHash displayName role directory =
      .ok (user, after)) :
    (user.email = email ∧ user.passwordHash = passwordHash ∧ user.role = role ∧
        user.isActive = true) ∧
      after.users.rows = directory.users.rows ++ [user] ∧ after.tokens = directory.tokens := by
  unfold insertUser at inserted
  dsimp only at inserted
  split at inserted
  · cases inserted
  · next users grown =>
      cases inserted
      exact ⟨⟨rfl, rfl, rfl, rfl⟩, Table.insert_eq_some _ _ _ grown, rfl⟩

theorem modifyUser_ok (now : Instant) (id : Uuid) (data : UserUpdate) (user : User)
    (modified : modifyUser now id data directory = .ok (user, after)) :
    (∃ old ∈ directory.users, old.id = id ∧ user = data.apply old) ∧
      after.users.rows = directory.users.rows.map (data.applyTo id) ∧
      after.tokens = directory.tokens := by
  unfold modifyUser at modified
  split at modified
  · cases modified
  · next old found =>
      cases modified
      obtain ⟨stored, same⟩ := directory.findUser_some id old found
      exact ⟨⟨old, stored, same, rfl⟩, rfl, rfl⟩

theorem removeUser_ok (id : Uuid) (removed : removeUser id directory = .ok after) :
    (∀ user, user ∈ after.users ↔ user ∈ directory.users ∧ user.id ≠ id) ∧
      (∀ token ∈ directory.tokens, token.userId ≠ id → token.replacedById = none →
        token ∈ after.tokens) := by
  unfold removeUser at removed
  split at removed
  · cases removed
  · split at removed
    · cases removed
    · cases removed
      constructor
      · intro user
        exact (Table.mem_delete _ _ _).trans (by simp [Directory.users])
      · intro token stored other unlinked
        exact (Table.mem_relax _ _ (unlink_apart _) _).mpr
          ⟨token, (Table.mem_delete _ _ _).mpr ⟨stored, by simpa using other⟩,
            unlink_unlinked _ token unlinked⟩

theorem insertToken_ok (row : RefreshToken) (unlinked : row.replacedById = none)
    (inserted : insertToken row unlinked directory = .ok after) :
    after.users = directory.users ∧ after.tokens.rows = directory.tokens.rows ++ [row] := by
  unfold insertToken at inserted
  split at inserted
  · split at inserted
    · cases inserted
    · next accounts created =>
        cases inserted
        exact ⟨rfl, createToken_rows _ accounts row unlinked created⟩
  · cases inserted

theorem exchangeToken_ok (presented : Uuid) (row : RefreshToken)
    (unlinked : row.replacedById = none) (now : Instant)
    (exchanged : exchangeToken presented row unlinked now directory = .ok after) :
    after.users = directory.users ∧
      after.tokens.rows = (directory.tokens.rows ++ [row]).map (replace presented row.id now) := by
  unfold exchangeToken at exchanged
  split at exchanged
  · split at exchanged
    · cases exchanged
    · next accounts rotated =>
        cases exchanged
        exact ⟨rfl, (rotateToken_rows _ accounts _ row unlinked _ rotated).2⟩
  · cases exchanged

end Outcomes

section Failures

/-- The catch blocks of `createUser`, `updateUser` and `deleteUser`; `register`
has that of `createUser`. -/
def createFailed : Failure → Failure
  | .prisma .P2002 _ => .http (conflictError "An account with this email already exists")
  | failure => failure

def updateFailed : Failure → Failure
  | .prisma .P2025 _ => .http (notFoundError "User not found")
  | .prisma .P2002 _ => .http (conflictError "An account with this email already exists")
  | failure => failure

def deleteFailed : Failure → Failure
  | .prisma .P2025 _ => .http (notFoundError "User not found")
  | failure => failure

end Failures

end FaceVec.Users

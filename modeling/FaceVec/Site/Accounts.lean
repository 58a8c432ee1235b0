import FaceVec.Site.Run

/-!
What a step of the auth and the users router can do to the stored rows, the
tokens apart: it adds an account, changes one, removes one, or none of these.
-/

namespace FaceVec.Site

open Users

variable {K : Type}

section Outcomes

variable (directory after : Directory K)

theorem insertUser_rows (uuids : UuidSource) (draw : Nat) (now : Instant)
    (email passwordHash displayName : String) (role : Role) (user : User)
    (inserted : insertUser uuids draw now email passwordHash displayName role directory =
      .ok (user, after)) :
    user.email = email ∧ (∀ other ∈ directory.users, other.id ≠ user.id) ∧
      after.users.rows = directory.users.rows ++ [user] ∧ after.db = directory.db ∧
        after.profiles = Function.update directory.profiles user.id ⟨displayName, now, now⟩ := by
  unfold insertUser at inserted
  dsimp only at inserted
  split at inserted
  · cases inserted
  · next users grown =>
      cases inserted
      refine ⟨rfl, fun other stored same => ?_, Table.insert_eq_some _ _ _ grown, rfl, rfl⟩
      exact uuids.fresh draw _ (List.mem_map.mpr ⟨other, stored, same⟩)

theorem modifyUser_rows (now : Instant) (id : Uuid) (data : UserUpdate) (user : User)
    (modified : modifyUser now id data directory = .ok (user, after)) :
    after.users.rows = directory.users.rows.map (data.applyTo id) ∧ after.db = directory.db ∧
      after.profiles = Function.update directory.profiles id
        { directory.profiles id with
          displayName := data.displayName.getD (directory.profiles id).displayName
          updatedAt := now } := by
  unfold modifyUser at modified
  split at modified
  · cases modified
  · cases modified
    exact ⟨rfl, rfl, rfl⟩

/-- Only a user whom no course and no session refers to is removed. -/
theorem removeUser_rows (id : Uuid) (removed : removeUser id directory = .ok after) :
    restricts directory.db id = false ∧ after.profiles = directory.profiles ∧
      after.users = directory.users.delete (·.id == id) ∧
        after.db = { directory.db with
          students := directory.db.students.relax (detach id) (detach_apart id) } := by
  unfold removeUser at removed
  split at removed
  · cases removed
  · split at removed
    · cases removed
    · next free =>
        cases removed
        exact ⟨Bool.eq_false_iff.mpr free, rfl, rfl, rfl⟩

theorem insertToken_rows (row : RefreshToken) (unlinked : row.replacedById = none)
    (inserted : insertToken row unlinked directory = .ok after) :
    after.users = directory.users ∧ after.profiles = directory.profiles ∧
      after.db = directory.db := by
  unfold insertToken at inserted
  split at inserted
  · split at inserted
    · cases inserted
    · cases inserted
      exact ⟨rfl, rfl, rfl⟩
  · cases inserted

theorem exchangeToken_rows (presented : Uuid) (row : RefreshToken)
    (unlinked : row.replacedById = none) (now : Instant)
    (exchanged : exchangeToken presented row unlinked now directory = .ok after) :
    after.users = directory.users ∧ after.profiles = directory.profiles ∧
      after.db = directory.db := by
  unfold exchangeToken at exchanged
  split at exchanged
  · split at exchanged
    · cases exchanged
    · cases exchanged
      exact ⟨rfl, rfl, rfl⟩
  · cases exchanged

end Outcomes

/-- The account that a call is about to add. -/
def Introduces (call : Users.Call) (email displayName : String) : Prop :=
  (∃ input context, call = .registering input context ∧ email = input.email ∧
      displayName = input.displayName) ∨
    ∃ auth input, call = .acting auth (.createUser input) ∧ email = input.email ∧
      displayName = input.displayName

/-- Everything a step can do to the accounts and the other tables. -/
inductive Revises (setting : Users.Setting) (call : Users.Call) (directory after : Directory K) : Prop where
  | none (users : after.users = directory.users) (profiles : after.profiles = directory.profiles)
      (db : after.db = directory.db)
  | added (draw : Nat) (now : Instant) (email passwordHash displayName : String) (role : Role)
      (user : User) (introduces : Introduces call email displayName)
      (inserted : insertUser setting.crypto.uuids draw now email passwordHash displayName role
        directory = .ok (user, after))
  | changed (now : Instant) (auth : AuthContext) (id : Uuid) (input : UpdateUserInput) (draw : Nat)
      (user : User) (acting : call = .acting auth (.updateUser id input))
      (modified : modifyUser now id (input.data setting draw) directory = .ok (user, after))
  | removed (id : Uuid) (gone : removeUser id directory = .ok after)

section Steps

variable (setting : Users.Setting) (store : Store K)

theorem act_revises (auth : AuthContext) (request : Request) (draw : Nat) :
    Revises setting (.acting auth request) store.directory
      (act setting auth draw store request).1.directory := by
  cases request with
  | createUser input =>
      simp only [act, createUser]
      split
      · exact .none rfl rfl rfl
      · next user directory inserted =>
          exact .added draw _ _ _ _ _ user (Or.inr ⟨auth, input, rfl, rfl, rfl⟩) inserted
  | updateUser id input =>
      simp only [act, updateUser]
      split
      · exact .none rfl rfl rfl
      · next user directory modified => exact .changed _ auth id input draw user rfl modified
  | deleteUser id =>
      simp only [act, deleteUser]
      split
      · exact .none rfl rfl rfl
      · next directory removed => exact .removed id removed
  | listUsers query => exact .none rfl rfl rfl
  | getUser id => exact .none rfl rfl rfl
  | me => exact .none rfl rfl rfl
  | logoutAll => exact .none rfl rfl rfl
  | elsewhere gates => exact .none rfl rfl rfl

theorem exec_revises (input : Input) (call : Users.Call) :
    Revises setting call store.directory (exec setting input store call).1.directory := by
  have contacted : ∀ contact write next,
      Revises setting call store.directory (writeRedis store contact write next).1.directory := by
    intro contact write next
    cases contact <;> exact .none rfl rfl rfl
  unfold exec
  split
  · exact .none rfl rfl rfl
  · exact .none rfl rfl rfl
  · exact .none rfl rfl rfl
  · next auth request draw text => exact act_revises setting store auth request draw
  · exact contacted _ _ _
  · exact contacted _ _ _
  · simp only [leave]
    split <;> exact .none rfl rfl rfl
  · next input context draw text =>
      simp only [register]
      split
      · exact .none rfl rfl rfl
      · next user directory inserted =>
          exact .added draw _ _ _ _ _ user (Or.inl ⟨input, context, rfl, rfl, rfl⟩) inserted
  · exact .none rfl rfl rfl
  · simp only [storeToken]
    split
    · exact .none rfl rfl rfl
    · next directory inserted =>
        obtain ⟨users, profiles, db⟩ := insertToken_rows _ _ _ _ inserted
        exact .none users profiles db
  · exact .none rfl rfl rfl
  · simp only [exchange]
    split
    · exact .none rfl rfl rfl
    · next directory exchanged =>
        obtain ⟨users, profiles, db⟩ := exchangeToken_rows _ _ _ _ _ _ exchanged
        exact .none users profiles db
  · exact .none rfl rfl rfl
  · exact .none rfl rfl rfl
  · exact .none rfl rfl rfl

end Steps

end FaceVec.Site

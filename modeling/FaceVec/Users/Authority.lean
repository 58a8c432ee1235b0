import FaceVec.Users.Steps

/-!
Where authority comes from and how long it lasts. A role other than STUDENT
goes back to an administrator of the start through requests that each acted as
one; and once an account has lost a role, no request that arrives a token's
life later is served with it.
-/

namespace FaceVec.Users

open Interleaving Auth Api

variable {K : Type} (setting : Setting)

section Roots

/-- What entitles an account to its role, among grants in the order in which they were made:
whoever grants is an administrator by then. -/
inductive Entitled (initial : Table User.clash) : List Grant → Uuid → Role → Prop where
  | initial (grants : List Grant) (user : User) (stored : user ∈ initial) :
      Entitled initial grants user.id user.role
  | student (grants : List Grant) (id : Uuid) : Entitled initial grants id .STUDENT
  | granted (before after : List Grant) (grant : Grant)
      (admin : Entitled initial before grant.actor .ADMIN) :
      Entitled initial (before ++ grant :: after) grant.target grant.role

variable {initial : Table User.clash}

theorem entitled_mono (grants more : List Grant) (id : Uuid) (role : Role)
    (entitled : Entitled initial grants id role) : Entitled initial (grants ++ more) id role := by
  cases entitled with
  | initial _ user stored => exact .initial _ user stored
  | student => exact .student _ id
  | granted before after grant admin =>
      rw [List.append_assoc, List.cons_append]
      exact .granted before (after ++ more) grant admin

/-- Each of the grants makes an administrator, who makes the next one. -/
def Promotes : Uuid → List Grant → Uuid → Prop
  | actor, [], last => actor = last
  | actor, grant :: rest, last =>
      grant.actor = actor ∧ grant.role = .ADMIN ∧ Promotes grant.target rest last

theorem promotes_concat (actor : Uuid) (chain : List Grant) (grant : Grant)
    (promotes : Promotes actor chain grant.actor) (admin : grant.role = .ADMIN) :
    Promotes actor (chain ++ [grant]) grant.target := by
  induction chain generalizing actor with
  | nil => exact ⟨promotes.symm, admin, rfl⟩
  | cons first rest ih => exact ⟨promotes.1, promotes.2.1, ih first.target promotes.2.2⟩

/-- The account was stored with its role at the start, or the last of a chain of
requests gave it, each by an administrator the one before had made. -/
def Traced (initial : Table User.clash) (grants : List Grant) (id : Uuid) (role : Role) : Prop :=
  (∃ user ∈ initial, user.id = id ∧ user.role = role) ∨
    ∃ root ∈ initial, root.role = .ADMIN ∧
      ∃ chain grant, (chain ++ [grant]).Sublist grants ∧ Promotes root.id chain grant.actor ∧
        grant.target = id ∧ grant.role = role

theorem entitled_traced (grants : List Grant) (id : Uuid) (role : Role)
    (entitled : Entitled initial grants id role) (elevated : role ≠ .STUDENT) :
    Traced initial grants id role := by
  induction entitled with
  | initial grants user stored => exact Or.inl ⟨user, stored, rfl, rfl⟩
  | student grants id => exact absurd rfl elevated
  | granted before after grant admin ih =>
      right
      have last : [grant].Sublist (grant :: after) := (List.nil_sublist after).cons_cons grant
      rcases ih (by decide) with ⟨root, stored, same, role⟩ |
        ⟨root, stored, role, chain, earlier, within, promotes, reached, promoted⟩
      · exact ⟨root, stored, role, [], grant, (List.nil_sublist before).append last, same, rfl, rfl⟩
      · refine ⟨root, stored, role, chain ++ [earlier], grant, within.append last, ?_, rfl, rfl⟩
        rw [← reached]
        exact promotes_concat root.id chain earlier promotes promoted

theorem manage_users_admin (role : Role) (allowed : can role .MANAGE_USERS = true) :
    role = .ADMIN := by
  cases role <;> first | rfl | contradiction

/-- What a request carries belongs to entitled accounts, and it acts behind its gates. -/
structure Backed (initial : Table User.clash) (grants : List Grant) (call : Call) : Prop where
  carried : ∀ user, call.carried = some user → Entitled initial grants user.id user.role
  presented : ∀ claims, call.presented = some claims →
    Entitled initial grants claims.userId claims.role
  actor : ∀ auth, call.actor = some auth → Entitled initial grants auth.userId auth.role
  gated : ∀ auth request, call = .acting auth request →
    ∀ gate ∈ request.gates, can auth.role gate = true

structure Rooted (initial : Table User.clash) (system : System (Store K) Call) : Prop where
  users : ∀ user ∈ system.store.directory.users,
    Entitled initial system.store.grants user.id user.role
  signed : ∀ claims ∈ system.store.signed,
    Entitled initial system.store.grants claims.userId claims.role
  calls : ∀ index, Backed initial system.store.grants (system.procs index)

theorem backed_mono (grants more : List Grant) (call : Call)
    (backed : Backed initial grants call) : Backed initial (grants ++ more) call where
  carried user same := entitled_mono _ _ _ _ (backed.carried user same)
  presented claims same := entitled_mono _ _ _ _ (backed.presented claims same)
  actor auth same := entitled_mono _ _ _ _ (backed.actor auth same)
  gated := backed.gated

/-- The request that creates or changes an account is one of an administrator. -/
theorem backed_admin (grants : List Grant) (auth : AuthContext) (request : Request)
    (backed : Backed initial grants (.acting auth request))
    (managing : Capability.MANAGE_USERS ∈ request.gates) :
    Entitled initial grants auth.userId .ADMIN := by
  have admin := manage_users_admin _ (backed.gated auth request rfl _ managing)
  exact admin ▸ backed.actor auth rfl

variable {store after : Store K} {call : Call} {input : Input}

/-- A step adds grants and keeps the accounts and the signed tokens entitled. -/
theorem effect_rooted (effect : Effect setting store call input after)
    (users : ∀ user ∈ store.directory.users, Entitled initial store.grants user.id user.role)
    (signed : ∀ claims ∈ store.signed, Entitled initial store.grants claims.userId claims.role)
    (backed : Backed initial store.grants call) :
    (∃ more, after.grants = store.grants ++ more) ∧
      (∀ user ∈ after.directory.users, Entitled initial after.grants user.id user.role) ∧
      (∀ claims ∈ after.signed, Entitled initial after.grants claims.userId claims.role) := by
  cases effect with
  | none => exact ⟨⟨[], (List.append_nil _).symm⟩, users, signed⟩
  | redis redis => exact ⟨⟨[], (List.append_nil _).symm⟩, users, signed⟩
  | signed user jti carried =>
      refine ⟨⟨[], (List.append_nil _).symm⟩, users, fun claims member => ?_⟩
      rcases List.mem_append.mp member with old | new
      · exact signed claims old
      · rw [List.mem_singleton.mp new]
        exact backed.carried user carried
  | revoked selected now proceeds aimed =>
      exact ⟨⟨[], (List.append_nil _).symm⟩, users, signed⟩
  | stored directory row same rows =>
      refine ⟨⟨[], (List.append_nil _).symm⟩, fun user member => users user ?_, signed⟩
      exact same ▸ member
  | exchanged directory existing row user now context rotating proceeds same rows =>
      refine ⟨⟨[], (List.append_nil _).symm⟩, fun user member => users user ?_, signed⟩
      exact same ▸ member
  | registered directory added role rows tokens =>
      refine ⟨⟨[], (List.append_nil _).symm⟩, fun user member => ?_, signed⟩
      rw [Table.mem_rows, rows] at member
      rcases List.mem_append.mp member with old | new
      · exact users user old
      · rw [List.mem_singleton.mp new, role]
        exact .student _ _
  | created directory auth asked added acting role rows tokens =>
      subst acting
      have admin := backed_admin _ auth _ backed List.mem_cons_self
      refine ⟨⟨_, rfl⟩, fun user member => ?_, fun claims member =>
        entitled_mono _ _ _ _ (signed claims member)⟩
      rw [Table.mem_rows, rows] at member
      rcases List.mem_append.mp member with old | new
      · exact entitled_mono _ _ _ _ (users user old)
      · rw [List.mem_singleton.mp new, role]
        exact .granted store.grants [] ⟨auth.userId, added.id, asked.role⟩ admin
  | updated directory auth id changes draw acting proceeds rows tokens =>
      subst acting
      have admin := backed_admin _ auth _ backed List.mem_cons_self
      refine ⟨⟨_, rfl⟩, fun user member => ?_, fun claims member =>
        entitled_mono _ _ _ _ (signed claims member)⟩
      rw [Table.mem_rows, rows] at member
      obtain ⟨old, stored, rfl⟩ := List.mem_map.mp member
      have before := entitled_mono store.grants
        (changes.role.toList.map (⟨auth.userId, id, ·⟩)) _ _ (users old stored)
      unfold UserUpdate.applyTo
      split
      · next same =>
          cases given : changes.role with
          | none => simpa [UserUpdate.apply, UpdateUserInput.data, given] using before
          | some role =>
              have granted : Entitled initial (store.grants ++ [⟨auth.userId, id, role⟩]) id role :=
                .granted store.grants [] ⟨auth.userId, id, role⟩ admin
              simpa [UserUpdate.apply, UpdateUserInput.data, given, same] using granted
      · exact before
  | deleted directory auth id acting proceeds remaining tokens =>
      exact ⟨⟨[], (List.append_nil _).symm⟩,
        fun user member => users user ((remaining user).mp member).1, signed⟩

theorem carries_backed (grants : List Grant) (next : Call)
    (carries : Carries setting store after input call next)
    (users : ∀ user ∈ after.directory.users, Entitled initial grants user.id user.role)
    (unforged : ∀ claims, Verified setting store input claims →
      Entitled initial grants claims.userId claims.role)
    (backed : Backed initial grants call) : Backed initial grants next where
  carried user same := by
    rcases carries.carried user same with before | ⟨stored, _⟩
    · exact backed.carried user before
    · exact users user stored
  presented claims same := by
    rcases carries.presented claims same with before | ⟨_, verified⟩
    · exact backed.presented claims before
    · exact unforged claims verified
  actor auth same := by
    rcases carries.actor auth same with before | ⟨claims, before, rfl⟩
    · exact backed.actor auth before
    · exact backed.presented claims before
  gated auth request acting := by
    rcases carries.gated auth request acting with before | gates
    · exact backed.gated auth request before
    · exact gates

theorem unforged_signed (system : System (Store K) Call) (index : Nat) (input : Input)
    (claims : AccessTokenClaims) (unforged : Unforged setting system (.act index input))
    (verified : Verified setting system.store input claims) : claims ∈ system.store.signed := by
  obtain ⟨header, token, arrives, presented, passed⟩ := verified
  have carried := (setting.jwt.verifyAccessToken_ok token _ claims passed).1
  cases input with
  | request own request =>
      cases arrives
      exact unforged token claims presented carried
  | logout own cookie =>
      cases arrives
      exact unforged token claims presented carried
  | _ => cases arrives

theorem rooted_step (system : System (Store K) Call) (event : Event Input (Change K))
    (rooted : Rooted initial system) (unforged : Unforged setting system event) :
    Rooted initial ((machine setting).step system event) := by
  cases event with
  | act index input =>
      obtain ⟨⟨more, grants⟩, users, signed⟩ := effect_rooted setting
        (exec_effect setting system.store input (system.procs index)) rooted.users rooted.signed
        (rooted.calls index)
      have grows : ∀ call, Backed initial system.store.grants call →
          Backed initial (exec setting input system.store (system.procs index)).1.grants call := by
        rw [grants]
        exact fun call => backed_mono _ _ call
      refine ⟨users, signed, fun other => ?_⟩
      rcases Decidable.em (other = index) with rfl | different
      · rw [step_self]
        refine carries_backed setting _ _ (exec_carries setting system.store input _) users ?_
          (grows _ (rooted.calls other))
        intro claims verified
        have earlier := rooted.signed claims
          (unforged_signed setting system other input claims unforged verified)
        rw [step_store]
        exact grants ▸ entitled_mono _ _ _ _ earlier
      · rw [step_other _ _ _ _ _ different]
        exact grows _ (rooted.calls other)
  | env change =>
      cases change with
      | tick milliseconds => exact ⟨rooted.users, rooted.signed, rooted.calls⟩
      | database db => exact ⟨rooted.users, rooted.signed, rooted.calls⟩

theorem rooted_start (directory : Directory K) (redis : Revocations ℚ) (clock : Instant) :
    Rooted directory.users (start directory redis clock) where
  users user stored := .initial _ user stored
  signed claims member := absurd member List.not_mem_nil
  calls index := ⟨by simp [start, Call.carried], by simp [start, Call.presented],
    by simp [start, Call.actor], by simp [start]⟩

/-- In every run, a stored account with a role other than STUDENT had it from the
start, or has it from a chain of requests that an administrator of the start began. -/
theorem roles_traced (directory : Directory K) (redis : Revocations ℚ) (clock : Instant)
    (events : List (Event Input (Change K)))
    (unforged : (machine setting).Along (Unforged setting) (start directory redis clock) events)
    (user : User)
    (stored : user ∈ ((machine setting).run (start directory redis clock) events).store.directory.users)
    (elevated : user.role ≠ .STUDENT) :
    Traced directory.users
      ((machine setting).run (start directory redis clock) events).store.grants user.id user.role := by
  have rooted := along_invariant (machine setting) (Unforged setting) (Rooted directory.users)
    (rooted_step setting) _ events (rooted_start directory redis clock) unforged
  exact entitled_traced _ _ _ (rooted.users user stored) elevated

end Roots

section Promotion

/-- An installation whose hash is the password itself. -/
def office : Setting where
  crypto := ⟨id, (· == ·), .counting⟩
  hash _ password := password
  verifies _ password := beq_self_eq_true password
  jwt := spelled
  config := { Config.least with JWT_ACCESS_TTL := Nat.succPNat 4 }
  contains _ _ := false

def emptyDatabase : Database ℚ :=
  ⟨.empty, .empty, .empty, .empty, .empty, .empty, .empty, .empty⟩

def root : User := ⟨1, "root@x", "secret", .ADMIN, true⟩

theorem chained_empty : Chained .empty := fun _ member => absurd member List.not_mem_nil

def founded : Directory ℚ where
  accounts := ⟨.single root, .empty, chained_empty⟩
  profiles _ := ⟨"", 0, 0⟩
  db := emptyDatabase
  owned _ member := absurd member List.not_mem_nil

def rootClaims : AccessTokenClaims := ⟨1, .ADMIN, "j", 0, 5⟩

/-- The administrator logs in, somebody registers, and is made an administrator. -/
def promotion : List (Event Input (Change ℚ)) :=
  [.act 0 (.login "root@x" "secret" ⟨none, none⟩), .act 0 (.proceed 0 "j"),
    .act 1 (.register ⟨"s@x", "password", "S"⟩ ⟨none, none⟩), .act 1 (.proceed 0 ""),
    .act 2 (.request (some ("Bearer " ++ spelled.sign rootClaims))
      (.updateUser 2 { role := some .ADMIN })),
    .act 2 (.ask .ready), .act 2 (.ask .ready), .act 2 (.proceed 0 "")]

def noRevocation : Revocations ℚ := ⟨fun _ => none, fun _ => none⟩

def promoted : System (Store ℚ) Call := (machine office).run (start founded noRevocation 0) promotion

def newAdmin : User := ⟨2, "s@x", "password", .ADMIN, true⟩

/-- A header carries the claims that were signed into its token. -/
theorem header_claims (signed claims : AccessTokenClaims) (header : Option String) (token : String)
    (arrives : bearerToken header = some (spelled.sign signed))
    (presented : bearerToken header = some token)
    (carried : spelled.payload token = some claims.payload) : claims = signed := by
  have sent : token = spelled.sign signed := Option.some.inj (presented.symm.trans arrives)
  rw [sent] at carried
  have both := carried.symm.trans (spelled.verifies signed)
  cases claims
  cases signed
  simpa [AccessTokenClaims.payload] using both

theorem promotion_unforged :
    (machine office).Along (Unforged office) (start founded noRevocation 0) promotion := by
  refine ⟨trivial, trivial, trivial, trivial, ?_, trivial, trivial, trivial, trivial⟩
  intro token claims presented carried
  rw [header_claims rootClaims claims _ token (by decide +kernel) presented carried]
  decide +kernel

theorem roles_traced_promotion :
    newAdmin ∈ promoted.store.directory.users ∧
      Traced founded.users promoted.store.grants 2 .ADMIN := by
  have stored : newAdmin ∈ promoted.store.directory.users := by decide +kernel
  exact ⟨stored, roles_traced office founded noRevocation 0 promotion promotion_unforged newAdmin
    stored (by decide)⟩

end Promotion

end FaceVec.Users

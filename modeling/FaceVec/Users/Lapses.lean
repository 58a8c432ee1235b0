import FaceVec.Users.Authority

/-!
Roles are read from the access token and not from the accounts. What a lost
role is still good for ends with the tokens that were signed while it was
held, or by requests that had read it before.
-/

namespace FaceVec.Users

open Interleaving Auth Api

variable {K : Type} (setting : Setting)

/-- The account is stored, active and with the role. -/
def Holds (store : Store K) (userId : Uuid) (role : Role) : Prop :=
  ∃ user ∈ store.directory.users, user.id = userId ∧ user.role = role ∧ user.isActive = true

/-- Some request has read the account with the role and is to sign a token for it. -/
def Pending (system : System (Store K) Call) (userId : Uuid) (role : Role) : Prop :=
  ∃ index user, (system.procs index).carried = some user ∧ user.id = userId ∧ user.role = role

/-- The moment, in seconds, from which a token signed now is expired. -/
def deadline (store : Store K) : ℤ := ⌊seconds store.clock⌋ + (setting.config.JWT_ACCESS_TTL : ℕ)

theorem seconds_mono (earlier later : Instant) (order : earlier ≤ later) :
    ⌊seconds earlier⌋ ≤ ⌊seconds later⌋ := by
  apply Int.floor_mono
  unfold seconds
  gcongr

/-- What one step can change of the clock and the signed tokens. -/
theorem effect_signed (store after : Store K) (call : Call) (input : Input)
    (effect : Effect setting store call input after) :
    after.clock = store.clock ∧
      (after.signed = store.signed ∨ ∃ user jti, call.carried = some user ∧
        after.signed = store.signed ++ [claimsOf setting store user jti]) := by
  cases effect with
  | signed user jti carried => exact ⟨rfl, Or.inr ⟨user, jti, carried, rfl⟩⟩
  | _ => exact ⟨rfl, Or.inl rfl⟩

theorem clock_step (system : System (Store K) Call) (event : Event Input (Change K)) :
    system.store.clock ≤ ((machine setting).step system event).store.clock := by
  cases event with
  | act index input =>
      rw [step_store]
      exact (effect_signed setting _ _ _ _ (exec_effect setting system.store input _)).1.ge
  | env change =>
      cases change with
      | tick milliseconds => exact Nat.le_add_right _ _
      | database db => exact le_rfl

/-- No signed token expires later than one that is signed now. -/
def Dated (store : Store K) : Prop :=
  ∀ claims ∈ store.signed, claims.expiresAt ≤ deadline setting store

theorem dated_step (system : System (Store K) Call) (event : Event Input (Change K))
    (dated : Dated setting system.store) :
    Dated setting ((machine setting).step system event).store := by
  have passes := seconds_mono _ _ (clock_step setting system event)
  intro claims member
  have old : claims ∈ system.store.signed →
      claims.expiresAt ≤ deadline setting ((machine setting).step system event).store := by
    intro earlier
    have before := dated claims earlier
    unfold deadline at before ⊢
    omega
  cases event with
  | act index input =>
      change claims ∈ (exec setting input system.store (system.procs index)).1.signed at member
      obtain ⟨_, same | ⟨user, jti, _, grown⟩⟩ :=
        effect_signed setting _ _ _ _ (exec_effect setting system.store input (system.procs index))
      · exact old (same ▸ member)
      · rw [grown] at member
        rcases List.mem_append.mp member with earlier | new
        · exact old earlier
        · rw [List.mem_singleton.mp new]
          unfold deadline
          simp only [claimsOf, signAccessToken]
          omega
  | env change =>
      cases change with
      | tick milliseconds => exact old member
      | database db => exact old member

section Lost

variable (userId : Uuid) (role : Role)

/-- No token for the lost role is about to be signed, and those there are expire in time. -/
structure Draining (limit : ℤ) (system : System (Store K) Call) : Prop where
  settled : ¬ Pending system userId role
  expires : ∀ claims ∈ system.store.signed, claims.userId = userId → claims.role = role →
    claims.expiresAt ≤ limit

theorem draining_step (limit : ℤ) (system : System (Store K) Call)
    (event : Event Input (Change K)) (draining : Draining userId role limit system)
    (lost : ¬ Holds ((machine setting).step system event).store userId role) :
    Draining userId role limit ((machine setting).step system event) := by
  cases event with
  | act index input =>
      rw [step_store] at lost
      constructor
      · rintro ⟨other, user, carried, same⟩
        rcases Decidable.em (other = index) with rfl | different
        · rw [step_self] at carried
          rcases (exec_carries setting system.store input _).carried user carried with
            before | ⟨stored, active⟩
          · exact draining.settled ⟨other, user, before, same⟩
          · exact lost ⟨user, stored, same.1, same.2, active⟩
        · rw [step_other _ _ _ _ _ different] at carried
          exact draining.settled ⟨other, user, carried, same⟩
      · intro claims member own held
        change claims ∈ (exec setting input system.store (system.procs index)).1.signed at member
        obtain ⟨_, unchanged | ⟨user, jti, carried, grown⟩⟩ := effect_signed setting _ _ _ _
          (exec_effect setting system.store input (system.procs index))
        · exact draining.expires claims (unchanged ▸ member) own held
        · rw [grown] at member
          rcases List.mem_append.mp member with earlier | new
          · exact draining.expires claims earlier own held
          · rw [List.mem_singleton.mp new] at own held
            exact absurd ⟨index, user, carried, own, held⟩ draining.settled
  | env change =>
      cases change with
      | tick milliseconds => exact ⟨draining.settled, draining.expires⟩
      | database db => exact ⟨draining.settled, draining.expires⟩

/-- The request does not act for the account in the lost role, nor is it about to. -/
structure Stripped (call : Call) : Prop where
  presented : ∀ claims, call.presented = some claims →
    ¬ (claims.userId = userId ∧ claims.role = role)
  actor : ∀ auth, call.actor = some auth → ¬ (auth.userId = userId ∧ auth.role = role)

theorem stripped_exec (store after : Store K) (input : Input) (call next : Call)
    (carries : Carries setting store after input call next)
    (refused : ∀ claims, Verified setting store input claims →
      ¬ (claims.userId = userId ∧ claims.role = role))
    (stripped : Stripped userId role call) : Stripped userId role next where
  presented claims same := by
    rcases carries.presented claims same with before | ⟨_, verified⟩
    · exact stripped.presented claims before
    · exact refused claims verified
  actor auth same := by
    rcases carries.actor auth same with before | ⟨claims, before, rfl⟩
    · exact stripped.actor auth before
    · exact stripped.presented claims before

/-- Past the limit, tokens for the lost role are turned away. -/
theorem expired_refused (limit : ℤ) (system : System (Store K) Call) (index : Nat) (input : Input)
    (draining : Draining userId role limit system) (late : limit ≤ ⌊seconds system.store.clock⌋)
    (unforged : Unforged setting system (.act index input)) (claims : AccessTokenClaims)
    (verified : Verified setting system.store input claims) :
    ¬ (claims.userId = userId ∧ claims.role = role) := by
  rintro ⟨own, held⟩
  have signed := unforged_signed setting system index input claims unforged verified
  have ends := draining.expires claims signed own held
  obtain ⟨_, token, _, _, passed⟩ := verified
  have alive := (setting.jwt.verifyAccessToken_ok token _ claims passed).2
  omega

/-- While nobody holds the role, tokens for it stay settled. -/
theorem run_draining (split : System (Store K) Call) (dated : Dated setting split.store)
    (settled : ¬ Pending split userId role) (events : List (Event Input (Change K)))
    (lost : ∀ state, (machine setting).Passes split events state →
      ¬ Holds state.store userId role) :
    Draining userId role (deadline setting split.store) ((machine setting).run split events) := by
  induction events using List.reverseRecOn with
  | nil => exact ⟨settled, fun claims member _ _ => dated claims member⟩
  | append_singleton events event ih =>
      have gone := lost _ (passes_end _ _ _)
      rw [run_snoc] at gone ⊢
      exact draining_step setting userId role _ _ event
        (ih fun state passes => lost state (passes_append _ _ _ _ _ passes)) gone

/-- Past the limit, a call that has yet to arrive stays stripped. -/
theorem run_stripped (limit : ℤ) (later : System (Store K) Call) (index : Nat)
    (late : limit ≤ ⌊seconds later.store.clock⌋) (idle : later.procs index = .idle)
    (events : List (Event Input (Change K)))
    (drained : ∀ before, before <+: events →
      Draining userId role limit ((machine setting).run later before))
    (unforged : (machine setting).Along (Unforged setting) later events) :
    limit ≤ ⌊seconds ((machine setting).run later events).store.clock⌋ ∧
      Stripped userId role (((machine setting).run later events).procs index) := by
  induction events using List.reverseRecOn with
  | nil =>
      refine ⟨late, ?_, ?_⟩
      · simp [Machine.run, idle, Call.presented]
      · simp [Machine.run, idle, Call.actor]
  | append_singleton events event ih =>
      obtain ⟨before, met⟩ := (along_snoc _ _ _ _ _).mp unforged
      have front : events <+: events ++ [event] := List.prefix_append _ _
      obtain ⟨past, bare⟩ := ih (fun earlier shorter => drained earlier (shorter.trans front)) before
      rw [run_snoc]
      refine ⟨past.trans (seconds_mono _ _ (clock_step setting _ event)), ?_⟩
      cases event with
      | env change => exact bare
      | act acting input =>
          rcases Decidable.em (index = acting) with rfl | different
          · rw [step_self]
            -- Whatever header arrives now, a token for the lost role has expired by its time.
            exact stripped_exec setting userId role _ _ input _ _
              (exec_carries setting _ input _)
              (expired_refused setting userId role _ _ index input (drained events front) past met)
              bare
          · rw [step_other _ _ _ _ _ different]
            exact bare

/-- Where the role was lost, the last requests that had read it are through, and
a token's life has gone by since, no request that has yet to arrive is served
with the role, whatever follows while it is not given back. -/
theorem authority_lapses (directory : Directory K) (redis : Revocations ℚ) (clock : Instant)
    (first second third : List (Event Input (Change K)))
    (settled : ¬ Pending ((machine setting).run (start directory redis clock) first) userId role)
    (lost : ∀ state, (machine setting).Passes
      ((machine setting).run (start directory redis clock) first) (second ++ third) state →
      ¬ Holds state.store userId role)
    (late : deadline setting ((machine setting).run (start directory redis clock) first).store ≤
      ⌊seconds ((machine setting).run (start directory redis clock)
        (first ++ second)).store.clock⌋)
    (unforged : (machine setting).Along (Unforged setting)
      ((machine setting).run (start directory redis clock) (first ++ second)) third)
    (index : Nat)
    (idle : ((machine setting).run (start directory redis clock) (first ++ second)).procs index =
      .idle)
    (auth : AuthContext)
    (acts : (((machine setting).run (start directory redis clock)
      (first ++ second ++ third)).procs index).actor = some auth) :
    ¬ (auth.userId = userId ∧ auth.role = role) := by
  have dated : Dated setting
      ((machine setting).run (start directory redis clock) first).store :=
    run_invariant (machine setting) (fun system => Dated setting system.store)
      (dated_step setting) _ first fun claims member => absurd member List.not_mem_nil
  rw [run_append] at idle late unforged
  rw [run_append, run_append] at acts
  revert settled lost late unforged idle acts dated
  generalize (machine setting).run (start directory redis clock) first = split
  intro settled lost late unforged idle acts dated
  have drained : ∀ before, before <+: third → Draining userId role (deadline setting split.store)
      ((machine setting).run ((machine setting).run split second) before) := by
    rintro before ⟨rest, rfl⟩
    rw [← run_append]
    refine run_draining setting userId role split dated settled (second ++ before)
      fun state passes => lost state ?_
    rw [← List.append_assoc]
    exact passes_append _ _ _ _ _ passes
  exact (run_stripped setting userId role _ _ index late idle third drained unforged).2.actor auth
    acts

end Lost

section Deactivation

instance (store : Store K) (userId : Uuid) (role : Role) : Decidable (Holds store userId role) :=
  inferInstanceAs (Decidable (∃ user ∈ store.directory.users.rows, _))

def shared : Directory ℚ where
  accounts := ⟨⟨[root, newAdmin], by decide⟩, .empty, chained_empty⟩
  profiles _ := ⟨"", 0, 0⟩
  db := emptyDatabase
  owned _ member := absurd member List.not_mem_nil

/-- Both log in, and the one deactivates the other. -/
def deactivation : List (Event Input (Change ℚ)) :=
  [.act 0 (.login "root@x" "secret" ⟨none, none⟩), .act 0 (.proceed 0 "j"),
    .act 1 (.login "s@x" "password" ⟨none, none⟩), .act 1 (.proceed 0 "k"),
    .act 2 (.request (some ("Bearer " ++ spelled.sign rootClaims))
      (.updateUser 2 { isActive := some false })),
    .act 2 (.ask .ready), .act 2 (.ask .ready), .act 2 (.proceed 0 "")]

def laterClaims : AccessTokenClaims := ⟨1, .ADMIN, "l", 5, 10⟩

/-- The one that is left logs in again and asks who it is. -/
def aftermath : List (Event Input (Change ℚ)) :=
  [.act 3 (.login "root@x" "secret" ⟨none, none⟩), .act 3 (.proceed 0 "l"),
    .act 4 (.request (some ("Bearer " ++ spelled.sign laterClaims)) .me),
    .act 4 (.ask .ready), .act 4 (.ask .ready)]

def fiveSeconds : List (Event Input (Change ℚ)) := [.env (.tick 5000)]

theorem aftermath_unforged :
    (machine office).Along (Unforged office)
      ((machine office).run (start shared noRevocation 0) (deactivation ++ fiveSeconds))
      aftermath := by
  refine ⟨trivial, trivial, ?_, trivial, trivial, trivial⟩
  intro token claims presented carried
  rw [header_claims laterClaims claims _ token (by decide +kernel) presented carried]
  decide +kernel

/-- The other's token was signed, and has lapsed with its account. -/
theorem authority_lapses_deactivation :
    (⟨2, .ADMIN, "k", 0, 5⟩ : AccessTokenClaims) ∈
        ((machine office).run (start shared noRevocation 0) deactivation).store.signed ∧
      ∀ auth, (((machine office).run (start shared noRevocation 0)
          (deactivation ++ fiveSeconds ++ aftermath)).procs 4).actor = some auth →
        ¬ (auth.userId = 2 ∧ auth.role = .ADMIN) := by
  refine ⟨by decide +kernel, fun auth acts => ?_⟩
  refine authority_lapses office 2 .ADMIN shared noRevocation 0 deactivation fiveSeconds aftermath
    ?_ ?_ (by decide +kernel) aftermath_unforged 4
    (run_absent _ _ _ 4 (by simp [deactivation, fiveSeconds])) auth acts
  · rintro ⟨index, user, carried, _⟩
    rcases Nat.lt_or_ge index 3 with acted | other
    · have none_ : ∀ acting < 3, (((machine office).run (start shared noRevocation 0)
          deactivation).procs acting).carried = none := by decide +kernel
      rw [none_ index acted] at carried
      cases carried
    · rw [run_absent _ _ _ index (by intro input; simp [deactivation]; omega)] at carried
      cases carried
  · exact passes_inits _ _ _ _ (by decide +kernel)

end Deactivation

end FaceVec.Users

import Mathlib.Data.List.Nodup
import FaceVec.Auth.Service

/-!
Single use of refresh tokens. The rotation transaction marks the presented
row without looking at it again, so two calls that read the same unrevoked
row both rotate it. What holds of the service is that rotation is single-use
as long as every rotation finds its row unreplaced when it runs.
-/

namespace FaceVec.Auth

open Interleaving

/-- Each token is exchanged by at most one call, for at most one successor,
and no family of tokens has two active members. -/
structure SingleUse (system : System Store Call) : Prop where
  successors : ∀ presented,
    (system.store.exchanges.filter (·.1 == presented)).length ≤ 1
  winners : ∀ i j presented first second,
    system.procs i = .issued (some presented) first →
      system.procs j = .issued (some presented) second → i = j
  families : ∀ root a b, Relation.ReflTransGen (Exchanged system.store) root a →
    Relation.ReflTransGen (Exchanged system.store) root b →
      Active system.store a → Active system.store b → a = b

/-- When a rotation runs, the row it was given has no successor yet. -/
def FindsUnreplaced (system : System Store Call) : Event Input Change → Prop
  | .act index (.proceed _ _) =>
      match system.procs index with
      | .rotating existing _ _ _ => ∀ token ∈ system.store.accounts.refreshTokens.rows,
          token.id = existing.id → token.replacedById = none
      | _ => True
  | _ => True

instance (system : System Store Call) (event : Event Input Change) :
    Decidable (FindsUnreplaced system event) := by
  unfold FindsUnreplaced
  split
  · split <;> infer_instance
  · infer_instance

/-- The history agrees with the links the stored rows record. -/
structure Recorded (store : Store) : Prop where
  linked : ∀ presented successor, (presented, successor) ∈ store.exchanges →
    ∃ token ∈ store.accounts.refreshTokens, token.id = presented ∧ token.replacedById ≠ none
  recorded : ∀ token ∈ store.accounts.refreshTokens, token.replacedById ≠ none →
    ∃ successor, (token.id, successor) ∈ store.exchanges

theorem storedLinks_mem (tokens : Table RefreshToken.clash) (presented successor : Uuid) :
    (presented, successor) ∈ storedLinks tokens ↔
      ∃ token ∈ tokens, token.id = presented ∧ token.replacedById = some successor := by
  simp only [storedLinks, List.mem_filterMap, Option.map_eq_some_iff, Prod.mk.injEq]
  constructor
  · rintro ⟨token, member, link, stored, rfl, rfl⟩
    exact ⟨token, member, rfl, stored⟩
  · rintro ⟨token, member, rfl, stored⟩
    exact ⟨token, member, successor, stored, rfl, rfl⟩

theorem start_recorded (stored : StoredAccounts) (clock : Instant) :
    Recorded (start stored clock).store := by
  constructor
  · intro presented successor exchanged
    obtain ⟨token, member, same, link⟩ := (storedLinks_mem _ _ _).mp exchanged
    exact ⟨token, member, same, by simp [link]⟩
  · intro token member replaced
    obtain ⟨successor, link⟩ := Option.ne_none_iff_exists'.mp replaced
    exact ⟨successor, (storedLinks_mem _ _ _).mpr ⟨token, member, rfl, link⟩⟩

theorem effect_recorded (store after : Store) (call next : Call) (input : Input)
    (effect : Effect store call input after next) (valid : Recorded store) : Recorded after := by
  cases effect with
  | quiet => exact valid
  | created accounts row result fresh active unlinked rows =>
      constructor
      · intro presented successor exchanged
        obtain ⟨token, member, facts⟩ := valid.linked presented successor exchanged
        exact ⟨token, by simpa [Table.mem_rows, rows] using Or.inl member, facts⟩
      · intro token member replaced
        have either : token ∈ store.accounts.refreshTokens ∨ token = row := by
          simpa [Table.mem_rows, rows] using member
        rcases either with old | rfl
        · exact valid.recorded token old replaced
        · exact absurd unlinked replaced
  | rotated existing user now context waiting proceeds accounts row result fresh owner active
      unlinked found rows =>
      have written : ∀ token ∈ store.accounts.refreshTokens.rows ++ [row],
          replace existing.id row.id now token ∈ accounts.refreshTokens := by
        intro token member
        rw [Table.mem_rows, rows]
        exact List.mem_map.mpr ⟨token, member, rfl⟩
      constructor
      -- An exchange on record is in its row: it was before, or has just been written.
      · intro presented successor exchanged
        rcases List.mem_append.mp exchanged with old | new
        · obtain ⟨token, member, same, replaced⟩ := valid.linked presented successor old
          refine ⟨_, written token (List.mem_append_left _ member), by simpa using same, ?_⟩
          unfold replace
          split
          · simp
          · exact replaced
        · obtain ⟨rfl, rfl⟩ : presented = existing.id ∧ successor = row.id := by simpa using new
          obtain ⟨token, member, same⟩ := found
          refine ⟨_, written token member, by simpa using same, ?_⟩
          simp [replace_presented _ _ _ _ same]
      · intro token member replaced
        rw [Table.mem_rows, rows] at member
        obtain ⟨old, oldMember, rfl⟩ := List.mem_map.mp member
        by_cases same : old.id = existing.id
        · exact ⟨row.id, by simp [same]⟩
        · rw [replace_other _ _ _ _ same] at replaced ⊢
          rcases List.mem_append.mp oldMember with stored | added
          · obtain ⟨successor, exchanged⟩ := valid.recorded old stored replaced
            exact ⟨successor, List.mem_append_left _ exchanged⟩
          · rw [List.mem_singleton.mp added] at replaced
            exact absurd unlinked replaced
  | revoked selected now =>
      constructor
      · intro presented successor exchanged
        obtain ⟨token, member, same, replaced⟩ := valid.linked presented successor exchanged
        exact ⟨revoke selected now token, List.mem_map.mpr ⟨token, member, rfl⟩,
          by simpa using same, by simpa using replaced⟩
      · intro token member replaced
        obtain ⟨old, oldMember, rfl⟩ := List.mem_map.mp member
        simpa using valid.recorded old oldMember (by simpa using replaced)

/-- The invariant of runs whose rotations all find their row unreplaced. -/
structure Rotated (system : System Store Call) : Prop where
  recorded : Recorded system.store
  once : (system.store.exchanges.map Prod.fst).Nodup
  logged : ∀ index presented result,
    system.procs index = .issued (some presented) result →
      presented ∈ system.store.exchanges.map Prod.fst
  winners : ∀ i j presented first second,
    system.procs i = .issued (some presented) first →
      system.procs j = .issued (some presented) second → i = j

theorem start_rotated (stored : StoredAccounts) (clock : Instant) :
    Rotated (start stored clock) where
  recorded := start_recorded stored clock
  once := by
    simp only [start, storedLinks, List.map_filterMap]
    refine List.Pairwise.filterMap _ ?_ stored.refreshTokens.unique
    intro a b apart p first q second
    simp only [Option.map_map, Option.map_eq_some_iff, Function.comp_apply] at first second
    obtain ⟨_, _, rfl⟩ := first
    obtain ⟨_, _, rfl⟩ := second
    intro same
    simp [RefreshToken.clash, same] at apart
  logged := by simp [start]
  winners := by simp [start]

/-- A call that rotates an unreplaced row is the first to exchange it. -/
theorem unreplaced_unexchanged (store : Store) (valid : Recorded store) (presented : Uuid)
    (unreplaced : ∀ token ∈ store.accounts.refreshTokens.rows,
      token.id = presented → token.replacedById = none) :
    presented ∉ store.exchanges.map Prod.fst := by
  intro exchanged
  obtain ⟨⟨_, successor⟩, member, rfl⟩ := List.mem_map.mp exchanged
  obtain ⟨token, stored, same, replaced⟩ := valid.linked _ _ member
  exact replaced (unreplaced token stored same)

/-- A step that exchanges nothing and issues nothing keeps the winners. -/
theorem settled_rotated (system : System Store Call) (index : Nat) (after : Store) (next : Call)
    (recorded : Recorded after) (same : after.exchanges = system.store.exchanges)
    (kept : ∀ presented result, next = .issued (some presented) result → system.procs index = next)
    (valid : Rotated system) : Rotated ⟨after, Function.update system.procs index next⟩ := by
  have before : ∀ i presented result,
      Function.update system.procs index next i = .issued (some presented) result →
        system.procs i = .issued (some presented) result := by
    intro i presented result issued
    rcases update_cases _ _ _ (· = Call.issued (some presented) result) _ issued with
      ⟨rfl, now⟩ | ⟨_, old⟩
    · rw [kept presented result now, now]
    · exact old
  refine ⟨recorded, by rw [same]; exact valid.once, ?_, ?_⟩
  · intro i presented result issued
    rw [same]
    exact valid.logged i presented result (before i presented result issued)
  · intro i j presented first second won also
    exact valid.winners i j presented first second (before _ _ _ won) (before _ _ _ also)

/-- A committed rotation adds a winner, the first one of its token. -/
theorem exchanged_rotated (system : System Store Call) (index : Nat) (after : Store)
    (presented successor : Uuid) (result : AuthResult) (recorded : Recorded after)
    (exchanges : after.exchanges = system.store.exchanges ++ [(presented, successor)])
    (first : presented ∉ system.store.exchanges.map Prod.fst) (valid : Rotated system) :
    Rotated ⟨after,
      Function.update system.procs index (.issued (some presented) result)⟩ := by
  have unissued : ∀ i other, system.procs i ≠ .issued (some presented) other :=
    fun i other issued => first (valid.logged i presented other issued)
  have winner : ∀ i token other,
      Function.update system.procs index (.issued (some presented) result) i =
        .issued (some token) other →
      (i = index ∧ token = presented) ∨ system.procs i = .issued (some token) other := by
    intro i token other issued
    rcases update_cases _ _ _ (· = Call.issued (some token) other) _ issued with
      ⟨rfl, now⟩ | ⟨_, old⟩
    · cases now
      exact Or.inl ⟨rfl, rfl⟩
    · exact Or.inr old
  refine ⟨recorded, ?_, ?_, ?_⟩
  · rw [exchanges]
    simpa [List.nodup_append] using ⟨valid.once, fun _ successor member same =>
      first (List.mem_map.mpr ⟨_, member, same⟩)⟩
  · intro i token other issued
    rw [exchanges, List.map_append]
    rcases winner i token other issued with ⟨_, rfl⟩ | old
    · simp
    · exact List.mem_append_left _ (valid.logged i token other old)
  · intro i j token one another won also
    rcases winner i token _ won with ⟨rfl, same⟩ | oldI <;>
      rcases winner j token _ also with ⟨rfl, _⟩ | oldJ
    · rfl
    · exact absurd (same ▸ oldJ) (unissued j _)
    · next same => exact absurd (same ▸ oldI) (unissued i _)
    · exact valid.winners i j token _ _ oldI oldJ

theorem effect_rotated (system : System Store Call) (index : Nat) (input : Input)
    (after : Store) (next : Call)
    (effect : Effect system.store (system.procs index) input after next)
    (meets : FindsUnreplaced system (.act index input)) (valid : Rotated system) :
    Rotated ⟨after, Function.update system.procs index next⟩ := by
  have recorded := effect_recorded _ _ _ _ _ effect valid.recorded
  cases effect with
  | quiet _ kept => exact settled_rotated system index _ _ recorded rfl kept valid
  | created => exact settled_rotated system index _ _ recorded rfl (by simp) valid
  | revoked _ _ _ _ unissued =>
      exact settled_rotated system index _ _ recorded rfl
        (fun presented result issued => absurd issued (unissued presented result)) valid
  | rotated existing user now context waiting proceeds =>
      obtain ⟨draw, newRaw, rfl⟩ := proceeds
      simp only [FindsUnreplaced, waiting] at meets
      exact exchanged_rotated system index _ existing.id _ _ recorded rfl
        (unreplaced_unexchanged system.store valid.recorded existing.id meets) valid

theorem exchanged_inactive (store : Store) (valid : Recorded store) (presented successor : Uuid)
    (exchanged : Exchanged store presented successor) : ¬ Active store presented := by
  rintro ⟨token, member, rfl, active⟩
  obtain ⟨row, stored, same, replaced⟩ := valid.linked _ _ exchanged
  obtain ⟨target, link⟩ := Option.ne_none_iff_exists'.mp replaced
  have revoked := (store.accounts.chained row stored target link).1
  rw [token_eq_of_id _ row token stored member same] at revoked
  simp only [isRefreshTokenActive, Bool.and_eq_true, Option.isNone_iff_eq_none] at active
  exact revoked active.1

theorem rotated_singleUse (system : System Store Call) (valid : Rotated system) :
    SingleUse system := by
  have functional : Relator.RightUnique (Exchanged system.store) := by
    intro presented first second one two
    exact congrArg Prod.snd (List.inj_on_of_nodup_map valid.once one two rfl)
  refine ⟨?_, valid.winners, ?_⟩
  · intro presented
    have unique := List.nodup_iff_count_le_one.mp valid.once presented
    rw [List.count, List.countP_map, List.countP_eq_length_filter] at unique
    exact unique
  · intro root a b toA toB activeA activeB
    -- The chain from `root` is linear, so one of the two tokens comes first.
    have first_inactive : ∀ x y, Relation.ReflTransGen (Exchanged system.store) x y →
        Active system.store x → x = y := by
      intro x y path active
      rcases path.cases_head with same | ⟨next, exchanged, _⟩
      · exact same
      · exact absurd active (exchanged_inactive _ valid.recorded x next exchanged)
    rcases Relation.ReflTransGen.total_of_right_unique functional toA toB with aToB | bToA
    · exact first_inactive a b aToB activeA
    · exact (first_inactive b a bToA activeB).symm

theorem step_rotated (crypto : Crypto) (config : Config) (system : System Store Call)
    (event : Event Input Change) (valid : Rotated system) (meets : FindsUnreplaced system event) :
    Rotated ((machine crypto config).step system event) := by
  cases event with
  | act index input =>
      exact effect_rotated system index input _ _
        (exec_effect crypto config input system.store (system.procs index)) meets valid
  | env change =>
      cases change with
      | tick => exact ⟨⟨valid.recorded.linked, valid.recorded.recorded⟩, valid.once,
          valid.logged, valid.winners⟩

/-- In every interleaving whose rotations find their row unreplaced, refresh
tokens are single-use. -/
theorem refresh_single_use (crypto : Crypto) (config : Config) (stored : StoredAccounts)
    (clock : Instant) (events : List (Event Input Change))
    (along : (machine crypto config).Along FindsUnreplaced (start stored clock) events) :
    SingleUse ((machine crypto config).run (start stored clock) events) :=
  rotated_singleUse _ (along_invariant _ FindsUnreplaced Rotated
    (step_rotated crypto config) _ events (start_rotated stored clock) along)

section Race

/-- Identity in place of the HMAC, plain comparison in place of the password hash. -/
def plainCrypto : Crypto where
  hmac := id
  verify hash password := hash == password
  uuids := .counting

def professor : User := ⟨7, "p@x", "pw", .PROFESSOR, true⟩

/-- One user and no refresh token yet. -/
def oneUser : StoredAccounts where
  users := ⟨[professor], by simp⟩
  refreshTokens := Table.empty
  chained := by intro token member; simp [Table.mem_rows] at member
  sameUser := by intro token member; simp [Table.mem_rows] at member

def anyContext : RequestContext := ⟨none, none⟩

/-- Log in, then present the new token and rotate it. -/
def sequential : List (Event Input Change) :=
  [.act 0 (.login "p@x" "pw" anyContext), .act 0 (.proceed 0 "r1"),
   .act 1 (.refresh "r1" anyContext), .act 1 (.proceed 0 "r2")]

/-- Two refreshes in a row, then the first token once more. -/
def successive : List (Event Input Change) :=
  sequential ++ [.act 2 (.refresh "r2" anyContext), .act 2 (.proceed 0 "r3"),
    .act 3 (.refresh "r1" anyContext), .act 3 (.proceed 0 "r4")]

/-- Log in, then let two calls read the token before either rotates it. -/
def race : List (Event Input Change) :=
  [.act 0 (.login "p@x" "pw" anyContext), .act 0 (.proceed 0 "r1"),
   .act 1 (.refresh "r1" anyContext), .act 2 (.refresh "r1" anyContext),
   .act 1 (.proceed 0 "r2"), .act 2 (.proceed 0 "r3")]

theorem refresh_single_use_sequential :
    let final := (machine plainCrypto {}).run (start oneUser 0) successive
    final.store.accounts.refreshTokens.rows.map (·.tokenHash) = ["r1", "r2", "r3"] ∧
      SingleUse final :=
  ⟨by decide, refresh_single_use plainCrypto {} oneUser 0 successive (by decide)⟩

theorem refresh_race_two_successors :
    ¬ SingleUse ((machine plainCrypto {}).run (start oneUser 0) race) := by
  intro single
  exact absurd (single.successors 1) (by decide)

end Race

end FaceVec.Auth

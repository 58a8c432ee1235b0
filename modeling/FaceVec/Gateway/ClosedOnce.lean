import FaceVec.Gateway.Closing

/-!
How often a session is closed. `closeSession` reads the status, and its update
asks for nothing but the id: of two calls that read an open session both
succeed, and the second one moves `endedAt`.
-/

namespace FaceVec.Gateway

open Interleaving Attendance Courses

variable {K : Type}

abbrev Outcome := Except Failure AttendanceSession

def alreadyClosed : Failure := .http (conflictError "Session is already closed")

/-- The session that the call closes with this step. -/
def asks : Call K → Input K → Option Uuid
  | .idle, .closeSession id _ => some id
  | .closing id, _ => some id
  | _, _ => none

/-- How a call that closes a session has ended. -/
def verdict : Call K → Option Outcome
  | .failed failure => some (.error failure)
  | .answered (.session session) => some (.ok session)
  | _ => none

/-- One call succeeded, and every other was told that the session is closed. -/
structure ClosedOnce (outcomes : List Outcome) : Prop where
  once : outcomes.countP Except.isOk = 1
  others : ∀ failure, .error failure ∈ outcomes → failure = alreadyClosed

/-- The calls that close the session have authorised actors and a database that answers. -/
def Smooth (id : Uuid) (system : State K) : Event (Input K) Change → Prop
  | .act index input =>
      match system.procs index, input with
      | .idle, .closeSession asked actor =>
          asked = id → ∃ session, getSessionForActor system.store.db id actor = .ok session
      | .closing asked, .transact fate => asked = id → Calm fate.chances ∧ fate.ending = .commits
      | .closing asked, .fail _ => asked ≠ id
      | _, _ => True
  | .env _ => True

/-- The step is the update of a call that closes the session. -/
def Updates (id : Uuid) (system : State K) : Event (Input K) Change → Prop
  | .act index (.transact _) =>
      match system.procs index with
      | .closing asked => asked = id
      | _ => False
  | _ => False

/-- An update finds the session open. -/
def Fresh (id : Uuid) (system : State K) (event : Event (Input K) Change) : Prop :=
  Updates id system event →
    ∃ session, findSession system.store.db id = some session ∧ session.status = .OPEN

section Steps

variable [Ring K] [LinearOrder K]
variable (uuids : UuidSource) (vision : Vision K) (threshold : K) (id : Uuid)

/-- How the step ends a call that closes the session. -/
def outcome (system : State K) : Event (Input K) Change → Option Outcome
  | .act index input =>
      if asks (system.procs index) input = some id then
        verdict (exec uuids vision threshold input system.store (system.procs index)).2
      else none
  | .env _ => none

/-- The step leaves an `endedAt` that is set. -/
def Steady (system : State K) (event : Event (Input K) Change) : Prop :=
  ∀ session ended, findSession system.store.db id = some session → session.endedAt = some ended →
    ∃ later, findSession ((machine uuids vision threshold).step system event).store.db id = some later ∧
      later.endedAt = some ended

/-- What a step may do to the session and to the calls that close it. -/
inductive Closing (system : State K) (event : Event (Input K) Change) (session : AttendanceSession) :
    Prop where
  | elsewhere
      (same : findSession ((machine uuids vision threshold).step system event).store.db id = some session)
      (ends : outcome uuids vision threshold id system event = none)
      (other : ¬ Updates id system event)
  | refused
      (same : findSession ((machine uuids vision threshold).step system event).store.db id = some session)
      (closed : session.status = .CLOSED)
      (ends : outcome uuids vision threshold id system event = some (.error alreadyClosed))
      (other : ¬ Updates id system event)
  | updated
      (written : findSession ((machine uuids vision threshold).step system event).store.db id =
        some (closeRow id system.store.clock session))
      (ends : outcome uuids vision threshold id system event =
        some (.ok (closeRow id system.store.clock session)))
      (updates : Updates id system event)

omit [Ring K] [LinearOrder K] in
theorem findSession_map (db after : Database K) (other : Uuid) (now : Instant)
    (rows : after.attendanceSessions.rows = db.attendanceSessions.rows.map (closeRow other now)) :
    findSession after id = (findSession db id).map (closeRow other now) := by
  unfold findSession
  rw [rows, List.find?_map]
  congr 2
  funext session
  simp [closeRow_id]

omit [Ring K] [LinearOrder K] in
theorem findSession_id (db : Database K) (session : AttendanceSession)
    (stored : findSession db id = some session) : session.id = id := by
  simpa using List.find?_some stored

theorem exec_elsewhere (store : Store K) (call : Call K) (input : Input K)
    (session : AttendanceSession) (stored : findSession store.db id = some session)
    (other : asks call input ≠ some id) :
    findSession (exec uuids vision threshold input store call).1.db id = some session := by
  rcases effect_sessions _ _ _ _ _ (exec_effect uuids store vision threshold input call) with
    same | ⟨asked, fate, rfl, rfl, _, _, rows⟩
  · unfold findSession
    rw [same]
    exact stored
  · have apart : session.id ≠ asked := by
      rw [findSession_id id store.db session stored]
      rintro rfl
      exact other rfl
    rw [findSession_map id store.db _ asked store.clock rows, stored]
    simp [closeRow, apart]

theorem exec_updates (store : Store K) (fate : Fate) (session : AttendanceSession)
    (stored : findSession store.db id = some session) (calm : Calm fate.chances)
    (ending : fate.ending = .commits) :
    findSession (exec uuids vision threshold (.transact fate) store (.closing id)).1.db id =
        some (closeRow id store.clock session) ∧
      (exec uuids vision threshold (.transact fate) store (.closing id)).2 =
        .answered (.session (closeRow id store.clock session)) := by
  have ran : closeUpdate id store.clock (store.db, fate.chances) = .ok (closeRow id store.clock session,
      { store.db with
        attendanceSessions := store.db.attendanceSessions.modify (closeRow id store.clock) (by
          intro a b
          simp [AttendanceSession.clash, closeRow_id]) }, fate.chances.tail) := by
    simp only [closeUpdate, statement, calm_faultOf fate.chances calm, stored]
  simp only [exec, transaction, ran, ending, finish, and_true]
  rw [findSession_map id store.db _ id store.clock rfl, stored]
  rfl

omit [Ring K] [LinearOrder K] in
theorem updates_asks (system : State K) (index : Nat) (input : Input K)
    (updates : Updates id system (.act index input)) : asks (system.procs index) input = some id := by
  cases input with
  | transact fate =>
      simp only [Updates] at updates
      split at updates
      · next asked closing => rw [closing, asks, updates]
      · exact updates.elim
  | _ => exact updates.elim

theorem closing_elsewhere (system : State K) (index : Nat) (input : Input K)
    (session : AttendanceSession) (stored : findSession system.store.db id = some session)
    (other : asks (system.procs index) input ≠ some id) :
    Closing uuids vision threshold id system (.act index input) session :=
  .elsewhere (exec_elsewhere uuids vision threshold id system.store _ input session stored other)
    (if_neg other) fun updates => other (updates_asks id system index input updates)

theorem closing_read (system : State K) (index : Nat) (actor : AuthContext)
    (session : AttendanceSession) (stored : findSession system.store.db id = some session)
    (idle : system.procs index = .idle)
    (authorised : ∃ session, getSessionForActor system.store.db id actor = .ok session) :
    Closing uuids vision threshold id system (.act index (.closeSession id actor)) session := by
  obtain ⟨found, passed⟩ := authorised
  obtain ⟨member, ofId, _⟩ := getSession_ok _ _ _ _ passed
  obtain rfl : found = session := session_eq_of_id _ found session member
    (List.mem_of_find?_eq_some stored) (ofId.trans (findSession_id id _ session stored).symm)
  have next : exec uuids vision threshold (.closeSession id actor) system.store .idle =
      (system.store, if found.status = .CLOSED then .failed alreadyClosed else .closing id) := by
    simp only [exec, firstStep, passed, alreadyClosed]
  have kept : findSession ((machine uuids vision threshold).step system
      (.act index (.closeSession id actor))).store.db id = some found := by
    simp only [Machine.step, machine, idle, next]
    exact stored
  by_cases closed : found.status = .CLOSED
  · refine .refused kept closed ?_ fun never => never
    simp only [outcome, idle, next, closed, if_true, asks, verdict]
  · refine .elsewhere kept ?_ fun never => never
    simp only [outcome, idle, next, closed, if_false, asks, if_true, verdict]

theorem closing_pending (system : State K) (index : Nat) (input : Input K)
    (session : AttendanceSession) (stored : findSession system.store.db id = some session)
    (pending : system.procs index = .closing id) (smooth : Smooth id system (.act index input)) :
    Closing uuids vision threshold id system (.act index input) session := by
  simp only [Smooth, pending] at smooth
  cases input with
  | transact fate =>
      obtain ⟨calm, ending⟩ := smooth rfl
      obtain ⟨written, next⟩ :=
        exec_updates uuids vision threshold id system.store fate session stored calm ending
      refine .updated ?_ ?_ ?_
      · simp only [Machine.step, machine, pending]
        exact written
      · simp only [outcome, pending, next, asks, if_true, verdict]
      · simp only [Updates, pending]
  | fail failure => exact absurd rfl smooth
  | _ =>
      refine .elsewhere ?_ ?_ fun never => never
      · simp only [Machine.step, machine, exec, pending]
        exact stored
      · simp only [outcome, exec, pending, asks, if_true, verdict]

theorem step_closing (system : State K) (event : Event (Input K) Change)
    (session : AttendanceSession) (stored : findSession system.store.db id = some session)
    (smooth : Smooth id system event) :
    Closing uuids vision threshold id system event session := by
  cases event with
  | env change => cases change with | tick => exact .elsewhere stored rfl fun never => never
  | act index input =>
      by_cases asked : asks (system.procs index) input = some id
      · cases call : system.procs index with
        | idle =>
            rw [call] at asked
            cases input with
            | closeSession other actor =>
                obtain rfl : other = id := Option.some.inj asked
                simp only [Smooth, call] at smooth
                exact closing_read uuids vision threshold other system index actor session stored call
                  (smooth trivial)
            | _ => cases asked
        | closing other =>
            rw [call] at asked
            obtain rfl : other = id := Option.some.inj asked
            exact closing_pending uuids vision threshold other system index input session stored call
              smooth
        | _ =>
            rw [call] at asked
            cases asked
      · exact closing_elsewhere uuids vision threshold id system index input session stored asked

/-- The session is open exactly as long as no call has ended. -/
structure Counted (system : State K) (outcomes : List Outcome) : Prop where
  session : ∃ session, findSession system.store.db id = some session ∧
    (session.status = .OPEN → session.endedAt = none ∧ outcomes = []) ∧
    (session.status = .CLOSED → 1 ≤ outcomes.countP Except.isOk)
  refusals : ∀ failure, .error failure ∈ outcomes → failure = alreadyClosed

theorem counted_step (system : State K) (event : Event (Input K) Change) (outcomes : List Outcome)
    (counted : Counted id system outcomes) (smooth : Smooth id system event) :
    Counted id ((machine uuids vision threshold).step system event)
      (outcomes ++ (outcome uuids vision threshold id system event).toList) := by
  obtain ⟨⟨session, stored, opened, closed⟩, refusals⟩ := counted
  cases step_closing uuids vision threshold id system event session stored smooth with
  | elsewhere same ends =>
      rw [ends, Option.toList_none, List.append_nil]
      exact ⟨⟨session, same, opened, closed⟩, refusals⟩
  | refused same isClosed ends =>
      rw [ends, Option.toList_some]
      refine ⟨⟨session, same, fun isOpen => ?_, fun _ => ?_⟩, fun failure member => ?_⟩
      · rw [isClosed] at isOpen
        cases isOpen
      · rw [List.countP_append]
        exact Nat.le_add_right_of_le (closed isClosed)
      · rcases List.mem_append.mp member with old | new
        · exact refusals failure old
        · cases List.mem_singleton.mp new
          rfl
  | updated written ends =>
      rw [ends, Option.toList_some]
      refine ⟨⟨_, written, fun isOpen => ?_, fun _ => ?_⟩, fun failure member => ?_⟩
      · simp [closeRow, findSession_id id _ session stored] at isOpen
      · simp [List.countP_append, Except.isOk, Except.toBool]
      · rcases List.mem_append.mp member with old | new
        · exact refusals failure old
        · cases List.mem_singleton.mp new

theorem once_step (system : State K) (event : Event (Input K) Change) (outcomes : List Outcome)
    (counted : Counted id system outcomes) (once : outcomes.countP Except.isOk ≤ 1)
    (smooth : Smooth id system event) (fresh : Fresh id system event) :
    (outcomes ++ (outcome uuids vision threshold id system event).toList).countP Except.isOk ≤ 1 := by
  obtain ⟨⟨session, stored, opened, _⟩, _⟩ := counted
  cases step_closing uuids vision threshold id system event session stored smooth with
  | elsewhere _ ends => simpa [ends] using once
  | refused _ _ ends => simpa [ends, Except.isOk, Except.toBool] using once
  | updated _ ends updates =>
      obtain ⟨found, same, isOpen⟩ := fresh updates
      obtain rfl := Option.some.inj (stored.symm.trans same)
      rw [ends, (opened isOpen).2]
      simp [Except.isOk, Except.toBool]

theorem step_steady (system : State K) (event : Event (Input K) Change) (outcomes : List Outcome)
    (counted : Counted id system outcomes) (smooth : Smooth id system event)
    (fresh : Fresh id system event) : Steady uuids vision threshold id system event := by
  obtain ⟨⟨session, stored, opened, _⟩, _⟩ := counted
  intro found ended same set
  obtain rfl := Option.some.inj (stored.symm.trans same)
  cases step_closing uuids vision threshold id system event session stored smooth with
  | elsewhere kept => exact ⟨session, kept, set⟩
  | refused kept => exact ⟨session, kept, set⟩
  | updated _ _ updates =>
      obtain ⟨found, same, isOpen⟩ := fresh updates
      obtain rfl := Option.some.inj (stored.symm.trans same)
      rw [(opened isOpen).1] at set
      cases set

/-- An update that finds the session closed is a second success. -/
theorem stale_update (system : State K) (event : Event (Input K) Change) (outcomes : List Outcome)
    (counted : Counted id system outcomes) (smooth : Smooth id system event)
    (stale : ¬ Fresh id system event) : 2 ≤ (outcomes ++
      (outcome uuids vision threshold id system event).toList).countP Except.isOk := by
  obtain ⟨⟨session, stored, _, closed⟩, _⟩ := counted
  obtain ⟨updates, unopened⟩ := Classical.not_imp.mp stale
  have isClosed : session.status = .CLOSED := by
    cases status : session.status with
    | OPEN => exact absurd ⟨session, stored, status⟩ unopened
    | CLOSED => rfl
  have earlier := closed isClosed
  cases step_closing uuids vision threshold id system event session stored smooth with
  | elsewhere _ _ other => exact absurd updates other
  | refused _ _ _ other => exact absurd updates other
  | updated _ ends =>
      rw [ends, Option.toList_some, List.countP_append]
      simpa [Except.isOk, Except.toBool] using earlier

end Steps

section Runs

variable [Ring K] [LinearOrder K]
variable (uuids : UuidSource) (vision : Vision K) (threshold : K) (id : Uuid)

/-- How the calls that close the session have ended, in order. -/
def outcomes (system : State K) (events : List (Event (Input K) Change)) : List Outcome :=
  (machine uuids vision threshold).observed (outcome uuids vision threshold id) system events

theorem counted_run (system : State K) (events : List (Event (Input K) Change))
    (counted : Counted id system [])
    (smooth : (machine uuids vision threshold).Along (Smooth id) system events) :
    Counted id ((machine uuids vision threshold).run system events)
      (outcomes uuids vision threshold id system events) :=
  observed_invariant (machine uuids vision threshold) (outcome uuids vision threshold id) (Smooth id)
    (Counted id)
    (fun system event notes counted smooth =>
      counted_step uuids vision threshold id system event notes counted smooth)
    system events [] counted smooth

theorem fresh_run (system : State K) (events : List (Event (Input K) Change))
    (counted : Counted id system [])
    (smooth : (machine uuids vision threshold).Along (Smooth id) system events)
    (fresh : (machine uuids vision threshold).Along (Fresh id) system events) :
    (outcomes uuids vision threshold id system events).countP Except.isOk ≤ 1 ∧
      (machine uuids vision threshold).Along (Steady uuids vision threshold id) system events := by
  have both := (along_and (machine uuids vision threshold) (Smooth id) (Fresh id) system events).mpr
    ⟨smooth, fresh⟩
  constructor
  · have kept := observed_invariant (machine uuids vision threshold)
      (outcome uuids vision threshold id)
      (fun system event => Smooth id system event ∧ Fresh id system event)
      (fun system notes => Counted id system notes ∧ notes.countP Except.isOk ≤ 1)
      (fun system event notes held met =>
        ⟨counted_step uuids vision threshold id system event notes held.1 met.1,
          once_step uuids vision threshold id system event notes held.1 held.2 met.1 met.2⟩)
      system events [] ⟨counted, Nat.zero_le _⟩ both
    exact kept.2
  · exact along_of_invariant (machine uuids vision threshold) _
      (fun system => ∃ notes, Counted id system notes)
      (fun system event held met => by
        obtain ⟨notes, counted⟩ := held
        exact ⟨_, counted_step uuids vision threshold id system event notes counted met.1⟩)
      _
      (fun system event held met => by
        obtain ⟨notes, counted⟩ := held
        exact step_steady uuids vision threshold id system event notes counted met.1 met.2)
      system events ⟨[], counted⟩ both

theorem stale_run (system : State K) (events : List (Event (Input K) Change))
    (counted : Counted id system [])
    (smooth : (machine uuids vision threshold).Along (Smooth id) system events)
    (stale : ¬ (machine uuids vision threshold).Along (Fresh id) system events) :
    2 ≤ (outcomes uuids vision threshold id system events).countP Except.isOk := by
  obtain ⟨before, event, rest, rfl, _, unmet⟩ := first_failure _ _ _ _ stale
  rw [along_append] at smooth
  have reached := counted_run uuids vision threshold id system before counted smooth.1
  have twice := stale_update uuids vision threshold id _ event _ reached smooth.2.1 unmet
  rw [outcomes, observed_append, Machine.observed, ← List.append_assoc, List.countP_append]
  exact Nat.le_add_right_of_le twice

/-- Of the calls that close an open session, however they interleave, one
succeeds, every other meets the conflict, and `endedAt` stays once it is set,
exactly if every update finds the session open. -/
theorem session_closed_once_iff (db : Database K) (clock : Instant) (session : AttendanceSession)
    (events : List (Event (Input K) Change)) (stored : findSession db id = some session)
    (isOpen : session.status = .OPEN) (running : session.endedAt = none)
    (smooth : (machine uuids vision threshold).Along (Smooth id) (begin db clock) events) :
    ((outcomes uuids vision threshold id (begin db clock) events ≠ [] →
        ClosedOnce (outcomes uuids vision threshold id (begin db clock) events)) ∧
      (machine uuids vision threshold).Along (Steady uuids vision threshold id) (begin db clock) events) ↔
      (machine uuids vision threshold).Along (Fresh id) (begin db clock) events := by
  have counted : Counted id (begin db clock : State K) [] := by
    refine ⟨⟨session, stored, fun _ => ⟨running, rfl⟩, fun closed => ?_⟩, ?_⟩
    · rw [isOpen] at closed
      cases closed
    · exact fun failure member => absurd member List.not_mem_nil
  constructor
  · rintro ⟨once, _⟩
    by_contra stale
    have twice := stale_run uuids vision threshold id _ events counted smooth stale
    have some_ : outcomes uuids vision threshold id (begin db clock) events ≠ [] := by
      intro none_
      simp [none_] at twice
    have single := (once some_).once
    omega
  · intro fresh
    obtain ⟨atMost, steady⟩ := fresh_run uuids vision threshold id _ events counted smooth fresh
    refine ⟨fun some_ => ?_, steady⟩
    obtain ⟨⟨later, _, opened, closed⟩, refusals⟩ :=
      counted_run uuids vision threshold id _ events counted smooth
    refine ⟨?_, refusals⟩
    cases status : later.status with
    | OPEN => exact absurd (opened status).2 some_
    | CLOSED => exact Nat.le_antisymm atMost (closed status)

end Runs

/-- Two calls close the session of the classroom, one after the other. -/
def twoCloses : List (Event (Input ℤ) Change) :=
  [.act 0 (.closeSession 3 teacher), .act 0 (.transact {}), .env (.tick 5),
    .act 1 (.closeSession 3 teacher)]

theorem closed_once_twoCloses :
    ((outcomes UuidSource.counting noVision 0 3 (begin classroom 0) twoCloses ≠ [] →
        ClosedOnce (outcomes UuidSource.counting noVision 0 3 (begin classroom 0) twoCloses)) ∧
      (machine UuidSource.counting noVision 0).Along (Steady UuidSource.counting noVision 0 3)
        (begin classroom 0) twoCloses) ↔
      (machine UuidSource.counting noVision 0).Along (Fresh 3) (begin classroom 0) twoCloses := by
  apply session_closed_once_iff UuidSource.counting noVision 0 3 classroom 0 ⟨3, 2, 7, .OPEN, none⟩
    twoCloses rfl rfl rfl
  exact ⟨fun _ => ⟨_, rfl⟩, fun _ => ⟨fun _ member => absurd member List.not_mem_nil, rfl⟩, trivial,
    fun _ => ⟨_, rfl⟩, trivial⟩

/-- Both calls read the open session before either of them writes. -/
def closeRace : List (Event (Input ℤ) Change) :=
  [.act 0 (.closeSession 3 teacher), .act 1 (.closeSession 3 teacher), .act 0 (.transact {}),
    .env (.tick 5), .act 1 (.transact {})]

theorem closed_twice :
    (machine UuidSource.counting noVision 0).Along (Smooth 3) (begin classroom 0) closeRace ∧
      outcomes UuidSource.counting noVision 0 3 (begin classroom 0) closeRace =
        [.ok ⟨3, 2, 7, .CLOSED, some 0⟩, .ok ⟨3, 2, 7, .CLOSED, some 5⟩] ∧
      ¬ (machine UuidSource.counting noVision 0).Along (Steady UuidSource.counting noVision 0 3)
        (begin classroom 0) closeRace := by
  refine ⟨?_, rfl, ?_⟩
  · exact ⟨fun _ => ⟨_, rfl⟩, fun _ => ⟨_, rfl⟩,
      fun _ => ⟨fun _ member => absurd member List.not_mem_nil, rfl⟩, trivial,
      fun _ => ⟨fun _ member => absurd member List.not_mem_nil, rfl⟩, trivial⟩
  · rintro ⟨_, _, _, _, steady, _⟩
    obtain ⟨later, stored, ended⟩ := steady ⟨3, 2, 7, .CLOSED, some 0⟩ 0 rfl rfl
    cases stored
    cases ended

end FaceVec.Gateway

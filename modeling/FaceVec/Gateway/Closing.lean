import Mathlib.Algebra.Ring.Int.Defs
import Mathlib.Order.Defs.LinearOrder
import Mathlib.Data.Int.Order.Basic
import FaceVec.Gateway

/-!
Closing a session. A recording call tests the status when it reads the
session, not in the transaction that writes; a close that commits in between
does not stop it. Without such a close nothing is recorded for a closed
session.
-/

namespace FaceVec.Gateway

open Interleaving Attendance Courses

variable {K : Type}

def Closed (db : Database K) (sessionId : Uuid) : Prop :=
  ∃ session ∈ db.attendanceSessions, session.id = sessionId ∧ session.status = .CLOSED

/-- `attendance.recorded` about a session. -/
def announces (sessionId : Uuid) (message : OutboxMessage (EventPayload K)) : Bool :=
  match message.payload with
  | .attendanceRecorded _ session _ _ _ _ _ _ =>
      message.eventType == EventType.AttendanceRecorded && session == sessionId
  | _ => false

/-- Between two states nothing is recorded for a session. -/
structure Unrecorded (before after : Database K) (sessionId : Uuid) : Prop where
  records : ∀ record : AttendanceRecord K, record.sessionId = sessionId →
    (record ∈ after.attendanceRecords ↔ record ∈ before.attendanceRecords)
  events : after.outboxMessages.rows.filter (announces sessionId) =
    before.outboxMessages.rows.filter (announces sessionId)

theorem unrecorded_same (before after : Database K) (sessionId : Uuid)
    (records : after.attendanceRecords = before.attendanceRecords)
    (outbox : after.outboxMessages = before.outboxMessages) :
    Unrecorded before after sessionId := by
  constructor
  · intro record _
    rw [records]
  · rw [outbox]

theorem unrecorded_announced (before middle after : Database K) (sessionId : Uuid)
    (aggregateType : String) (aggregateId : Uuid) (eventType : String) (payload : EventPayload K)
    (message : OutboxMessage (EventPayload K))
    (announced : Announced middle after aggregateType aggregateId eventType payload message)
    (records : middle.attendanceRecords = before.attendanceRecords)
    (outbox : middle.outboxMessages = before.outboxMessages)
    (silent : announces sessionId message = false) : Unrecorded before after sessionId := by
  constructor
  · intro record _
    rw [announced.frame, ← records]
  · rw [announced.appended, List.filter_append, outbox]
    simp [silent]

theorem recorded_other (db after : Database K) (session : AttendanceSession) (studentId : Uuid)
    (record : AttendanceRecord K) (recorded : Recorded db after session studentId record)
    (sessionId : Uuid) (other : session.id ≠ sessionId) : Unrecorded db after sessionId := by
  obtain ⟨middle, data, upserted, similarity, message, announced⟩ := recorded.upserted
  constructor
  · intro row ofSession
    have records : after.attendanceRecords = middle.attendanceRecords := by rw [announced.frame]
    rw [records, upserted.rows row]
    constructor
    · rintro (rfl | ⟨old, _⟩)
      · exact absurd (upserted.ofSession.symm.trans ofSession) other
      · exact old
    · intro old
      refine Or.inr ⟨old, fun same => other ?_⟩
      rw [← same.1, ofSession]
  · have silent : announces sessionId message = false := by
      simp [announces, announced.payload, other]
    have outbox : middle.outboxMessages = db.outboxMessages := by rw [upserted.frame]
    rw [announced.appended, List.filter_append, outbox]
    simp [silent]

/-- A close commits only while no recording call has the session found open. -/
def ClosesAlone (system : State K) : Event (Input K) Change → Prop
  | .act index (.transact fate) =>
      match system.procs index with
      | .closing id =>
          commits (closeUpdate id system.store.clock) fate.chances fate.ending system.store.db =
              true →
            ∀ other, inFlight (system.procs other) ≠ some id
      | _ => True
  | _ => True

/-- The session of every recording call in flight is open. -/
def InFlightOpen (system : State K) : Prop :=
  ∀ index sessionId, inFlight (system.procs index) = some sessionId →
    ∀ session ∈ system.store.db.attendanceSessions, session.id = sessionId → session.status = .OPEN

/-- The sessions after a step: as before, but for those a close closed. -/
theorem effect_sessions (store after : Store K) (call next : Call K) (input : Input K)
    (effect : Effect store call input after next) :
    after.db.attendanceSessions = store.db.attendanceSessions ∨
      ∃ id fate, call = .closing id ∧ input = .transact fate ∧ inFlight next = none ∧
        commits (closeUpdate id store.clock) fate.chances fate.ending store.db = true ∧
        after.db.attendanceSessions.rows =
          store.db.attendanceSessions.rows.map (closeRow id store.clock) := by
  cases effect with
  | quiet => exact Or.inl rfl
  | carried => exact Or.inl rfl
  | admitted => exact Or.inl rfl
  | recorded session studentId record after next waits done recorded =>
      obtain ⟨middle, data, upserted, similarity, message, announced⟩ := recorded.upserted
      left
      simp only [Store.settle]
      rw [announced.frame, upserted.frame]
  | linked courseId row student isNew middle after result next done resolved linked =>
      left
      simp only [Store.settle]
      cases linked with
      | already => rw [resolved.frame]
      | new enrollment message linked after absent ofCourse ofStudent course rest rows announced =>
          rw [announced.frame, rest, resolved.frame]
  | created courseId rows job after next done created =>
      obtain ⟨middle, message, frame, appended, announced⟩ := created.announced
      left
      simp only [Store.settle]
      rw [announced.frame, frame]
  | closed id fate after next waits asked committed done frame rows =>
      exact Or.inr ⟨id, fate, waits, asked, done, committed, rows⟩

/-- The session a call has in flight after its step was open before it. -/
theorem effect_inFlight (store after : Store K) (call next : Call K) (input : Input K)
    (effect : Effect store call input after next) (sessionId : Uuid)
    (flies : inFlight next = some sessionId) :
    inFlight call = some sessionId ∨
      ∃ session ∈ store.db.attendanceSessions, session.id = sessionId ∧ session.status = .OPEN := by
  cases effect with
  | carried next same => exact Or.inl (same ▸ flies)
  | admitted session next member isOpen starts =>
      rw [starts] at flies
      exact Or.inr ⟨session, member, Option.some.inj flies, isOpen⟩
  | quiet next none_ => simp [none_] at flies
  | recorded session studentId record after next waits none_ => simp [none_] at flies
  | linked courseId row student isNew middle after result next none_ => simp [none_] at flies
  | created courseId rows job after next none_ => simp [none_] at flies
  | closed id fate after next waits asked committed none_ => simp [none_] at flies

section Runs

variable [Ring K] [LinearOrder K]
variable (uuids : UuidSource) (vision : Vision K) (threshold : K)

/-- The step records nothing for a session that is already closed. -/
def Frozen (system : State K) (event : Event (Input K) Change) : Prop :=
  ∀ sessionId, Closed system.store.db sessionId →
    Unrecorded system.store.db ((machine uuids vision threshold).step system event).store.db
      sessionId

theorem step_inFlightOpen (system : State K) (event : Event (Input K) Change)
    (valid : InFlightOpen system) (alone : ClosesAlone system event) :
    InFlightOpen ((machine uuids vision threshold).step system event) := by
  cases event with
  | env change =>
      cases change with
      | tick => exact valid
  | act index input =>
      have effect := exec_effect uuids system.store vision threshold input (system.procs index)
      -- Whatever is in flight after the step had its session open before it.
      have before : ∀ other sessionId,
          inFlight (((machine uuids vision threshold).step system (.act index input)).procs other) =
            some sessionId →
          ∀ session ∈ system.store.db.attendanceSessions, session.id = sessionId →
            session.status = .OPEN := by
        intro other sessionId flies session member same
        by_cases acting : other = index
        · subst other
          have mine : inFlight (exec uuids vision threshold input system.store
              (system.procs index)).2 = some sessionId := by
            simpa [machine] using flies
          rcases effect_inFlight _ _ _ _ _ effect sessionId mine with old | ⟨open_, stored, is, isOpen⟩
          · exact valid index sessionId old session member same
          · rw [session_eq_of_id _ session open_ member stored (same.trans is.symm)]
            exact isOpen
        · exact valid other sessionId (by simpa [acting] using flies) session member same
      intro other sessionId flies session member same
      rcases effect_sessions _ _ _ _ _ effect with kept | ⟨id, fate, waits, rfl, done, committed, rows⟩
      · have stored : session ∈ system.store.db.attendanceSessions := by
          rw [← kept]
          exact member
        exact before other sessionId flies session stored same
      · have rowsOf : session ∈ system.store.db.attendanceSessions.rows.map
            (closeRow id system.store.clock) := by
          rw [← rows]
          exact member
        obtain ⟨old, stored, rfl⟩ := List.mem_map.mp rowsOf
        rw [closeRow_id] at same
        have apart : old.id ≠ id := by
          rintro rfl
          simp only [ClosesAlone, waits] at alone
          by_cases acting : other = index
          · subst other
            rw [step_self] at flies
            cases done.symm.trans flies
          · have flying : inFlight (system.procs other) = some sessionId := by
              simpa [acting] using flies
            exact alone committed other (same ▸ flying)
        rw [closeRow, if_neg apart]
        exact before other sessionId flies old stored same

theorem step_frozen (system : State K) (event : Event (Input K) Change)
    (valid : InFlightOpen system) : Frozen uuids vision threshold system event := by
  rintro sessionId ⟨closed, member, ofSession, isClosed⟩
  cases event with
  | env change =>
      cases change with
      | tick => exact unrecorded_same _ _ _ rfl rfl
  | act index input =>
      have effect := exec_effect uuids system.store vision threshold input (system.procs index)
      have stored : ((machine uuids vision threshold).step system (.act index input)).store =
          (exec uuids vision threshold input system.store (system.procs index)).1 := rfl
      rw [stored]
      generalize (exec uuids vision threshold input system.store (system.procs index)).1 = after at *
      generalize (exec uuids vision threshold input system.store (system.procs index)).2 = next at *
      cases effect with
      | quiet => exact unrecorded_same _ _ _ rfl rfl
      | carried => exact unrecorded_same _ _ _ rfl rfl
      | admitted => exact unrecorded_same _ _ _ rfl rfl
      | recorded session studentId record after next waits done recorded =>
          apply recorded_other _ _ session studentId record recorded
          rintro rfl
          -- The call would be in flight for a closed session.
          have isOpen := valid index session.id waits closed member ofSession
          rw [isClosed] at isOpen
          contradiction
      | linked courseId row student isNew middle after result next done resolved linked =>
          cases linked with
          | already =>
              exact unrecorded_same _ _ _ (by rw [resolved.frame]; rfl) (by rw [resolved.frame]; rfl)
          | new enrollment message linked after absent ofCourse ofStudent course rest rows announced =>
              exact unrecorded_announced _ _ _ _ _ _ _ _ message announced
                (by rw [rest, resolved.frame]) (by rw [rest, resolved.frame])
                (by simp [announces, announced.payload])
      | created courseId rows job after next done created =>
          obtain ⟨middle, message, frame, appended, announced⟩ := created.announced
          exact unrecorded_announced _ _ _ _ _ _ _ _ message announced (by rw [frame])
            (by rw [frame]) (by simp [announces, announced.payload])
      | closed id fate after next waits asked committed done frame rows =>
          exact unrecorded_same _ _ _ (by rw [frame]) (by rw [frame])

end Runs

/-- Any stored state, with no call in progress. -/
def begin (db : Database K) (clock : Instant) : State K :=
  ⟨⟨db, clock, [], [], []⟩, fun _ => .idle⟩

/-- In every run whose closes commit alone, no step records anything for a
session that has been closed. -/
theorem nothing_recorded_after_close [Ring K] [LinearOrder K] (uuids : UuidSource)
    (vision : Vision K) (threshold : K) (db : Database K) (clock : Instant)
    (events : List (Event (Input K) Change))
    (along : (machine uuids vision threshold).Along ClosesAlone (begin db clock) events) :
    (machine uuids vision threshold).Along (Frozen uuids vision threshold) (begin db clock) events := by
  apply along_of_invariant (machine uuids vision threshold) ClosesAlone InFlightOpen
    (fun system event valid alone => step_inFlightOpen uuids vision threshold system event valid alone)
    (Frozen uuids vision threshold)
    (fun system event valid _ => step_frozen uuids vision threshold system event valid) _ events ?_
    along
  intro index sessionId flies
  simp [begin, inFlight] at flies

/-- One open session of one course, and one student. -/
def classroom : Database ℤ where
  students := .single ⟨1, "s1", "Ada", none, none⟩
  faceEmbeddings := Table.empty
  courses := .single ⟨2, "C", "Course", 7⟩
  courseEnrollments := Table.empty
  importJobs := Table.empty
  attendanceSessions := .single ⟨3, 2, 7, .OPEN, none⟩
  attendanceRecords := Table.empty
  outboxMessages := Table.empty

def teacher : AuthContext := ⟨7, .PROFESSOR, "j", 1000⟩

def noVision : Vision ℤ := ⟨fun _ _ => .nan⟩

/-- Mark a student, close the session, and try to mark again. -/
def lesson : List (Event (Input ℤ) Change) :=
  [.act 0 (.markAttendance 3 ⟨1, .PRESENT⟩ teacher), .act 0 (.transact {}),
    .act 1 (.closeSession 3 teacher), .act 1 (.transact {}),
    .act 2 (.markAttendance 3 ⟨1, .LATE⟩ teacher), .act 2 (.transact {})]

theorem lesson_alone :
    (machine UuidSource.counting noVision 0).Along ClosesAlone (begin classroom 0) lesson := by
  refine ⟨trivial, trivial, trivial, fun _ other => ?_, trivial, trivial, trivial⟩
  match other with
  | 0 => decide
  | 1 => decide
  | _ + 2 => simp [inFlight, Machine.step, begin]

theorem nothing_recorded_after_lesson :
    (machine UuidSource.counting noVision 0).Along (Frozen UuidSource.counting noVision 0)
      (begin classroom 0) lesson :=
  nothing_recorded_after_close UuidSource.counting noVision 0 classroom 0 lesson lesson_alone

/-- Read the open session to mark a student, close it, then write the mark. -/
def lateMark : List (Event (Input ℤ) Change) :=
  [.act 0 (.markAttendance 3 ⟨1, .PRESENT⟩ teacher), .act 1 (.closeSession 3 teacher),
    .act 1 (.transact {}), .act 0 (.transact {})]

/-- The mark that read the session before the close is recorded after it. -/
theorem late_mark_recorded :
    ¬ (machine UuidSource.counting noVision 0).Along (Frozen UuidSource.counting noVision 0)
      (begin classroom 0) lateMark := by
  rintro ⟨_, _, _, frozen, _⟩
  have unrecorded := frozen 3 ⟨⟨3, 2, 7, .CLOSED, some 0⟩, by decide, rfl, rfl⟩
  have absent := (unrecorded.records ⟨1, 3, 1, .PRESENT, .MANUAL, none, 0⟩ rfl).mp (by decide)
  revert absent
  decide

end FaceVec.Gateway

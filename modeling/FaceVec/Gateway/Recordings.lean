import FaceVec.Gateway.Closing

/-!
What the recording calls write, exactly. The columns of a call are fixed before
its transaction begins; an update that names no similarity keeps the one that
is stored, and the event of a manual mark carries none.
-/

namespace FaceVec.Gateway

open Interleaving Attendance Courses

variable {K : Type}

/-- What a call is about to record: the session, the student and the columns. -/
def toRecord : Call K → Option (AttendanceSession × Uuid × RecordData K)
  | .marking session input => some (session, input.studentId, ⟨input.status, .MANUAL, none⟩)
  | .recording session best =>
      some (session, best.studentId, ⟨.PRESENT, .FACE, some best.similarity.column⟩)
  | _ => none

/-- The session a recording call goes on with. -/
def held : Call K → Option AttendanceSession
  | .marking session _ | .extracting session | .searching session _ | .recording session _ =>
      some session
  | _ => none

/-- The record and the similarity of an `attendance.recorded` event. -/
def similarityEvent (message : OutboxMessage (EventPayload K)) :
    Option (Uuid × Option (Option (Number K))) :=
  match message.payload with
  | .attendanceRecorded recordId _ _ _ _ _ similarity _ =>
      if message.eventType = EventType.AttendanceRecorded then some (recordId, similarity) else none
  | _ => none

def similarityEvents (db : Database K) : List (Uuid × Option (Option (Number K))) :=
  db.outboxMessages.rows.filterMap similarityEvent

/-- A recording transaction, with every column of its record and of its event. -/
structure Written (db after : Database K) (session : AttendanceSession) (studentId : Uuid)
    (data : RecordData K) (record : AttendanceRecord K) : Prop where
  upserted : ∃ middle message, Upserted db middle session.id studentId data record ∧
    Announced middle after "AttendanceSession" session.id EventType.AttendanceRecorded
      (.attendanceRecorded record.id session.id session.courseId studentId record.status
        record.method (data.similarity.map fun _ => record.similarity) record.capturedAt) message
  similarity : record.similarity =
    data.similarity.getD ((findRecord db session.id studentId).bind (·.similarity))

theorem upsertRecord_similarity (uuids : UuidSource) (now : Instant) (sessionId studentId : Uuid)
    (data : RecordData K) (db : Database K) :
    Triple (· = db) (upsertRecord uuids now sessionId studentId data) fun record _ =>
      record.similarity = data.similarity.getD ((findRecord db sessionId studentId).bind (·.similarity)) := by
  apply triple_statement
  rintro draw _ result after rfl ran
  split at ran
  · next record found =>
      obtain ⟨rfl, _⟩ := Prod.mk.inj (Except.ok.inj ran)
      simp [RecordData.overwrite, found]
  · next absent =>
      split at ran
      · cases ran
      · obtain ⟨rfl, _⟩ := create_ok _ _ _ _ _ _ ran
        simp [absent]

theorem recordAttendance_written (uuids : UuidSource) (now : Instant) (session : AttendanceSession)
    (studentId : Uuid) (data : RecordData K) (db : Database K) :
    Triple (· = db) (recordAttendance uuids now session studentId data)
      fun record after => Written db after session studentId data record := by
  intro start chances started result after rest ends
  obtain ⟨⟨record, middle, left⟩, written, ends⟩ := bind_ok _ _ _ _ ends
  obtain ⟨⟨message, final, last⟩, announced, ends⟩ := bind_ok _ _ _ _ ends
  obtain ⟨rfl, rfl, rfl⟩ := pure_ok _ _ _ _ _ _ ends
  have upserted := upsertRecord_spec uuids now session.id studentId data db start chances started
    _ _ _ written
  have similarity := upsertRecord_similarity uuids now session.id studentId data db start chances
    started _ _ _ written
  have announced := recordEvent_spec uuids now _ _ _ _ middle middle left rfl _ _ _ announced
  rw [upserted.ofStudent] at announced
  exact ⟨⟨middle, message, upserted, announced⟩, similarity⟩

section Written

variable (db after : Database K) (session : AttendanceSession) (studentId : Uuid)
  (data : RecordData K) (record : AttendanceRecord K)
  (written : Written db after session studentId data record)

include written

theorem written_rows (row : AttendanceRecord K) :
    row ∈ after.attendanceRecords ↔ row = record ∨
      (row ∈ db.attendanceRecords ∧ ¬ (row.sessionId = session.id ∧ row.studentId = studentId)) := by
  obtain ⟨middle, message, upserted, announced⟩ := written.upserted
  rw [announced.frame]
  exact upserted.rows row

theorem written_events :
    similarityEvents after =
      similarityEvents db ++ [(record.id, data.similarity.map fun _ => record.similarity)] := by
  obtain ⟨middle, message, upserted, announced⟩ := written.upserted
  have outbox : middle.outboxMessages = db.outboxMessages := by rw [upserted.frame]
  rw [similarityEvents, announced.appended, List.filterMap_append, outbox]
  simp [similarityEvents, similarityEvent, announced.payload, announced.eventType]

theorem written_frame :
    after = { db with
      attendanceRecords := after.attendanceRecords
      outboxMessages := after.outboxMessages } := by
  obtain ⟨middle, message, upserted, announced⟩ := written.upserted
  rw [announced.frame, upserted.frame]

end Written

/-- Nothing is recorded, and no enrollment and no session goes. -/
structure Still (db after : Database K) : Prop where
  records : after.attendanceRecords = db.attendanceRecords
  events : similarityEvents after = similarityEvents db
  enrollments : ∀ row ∈ db.courseEnrollments, row ∈ after.courseEnrollments
  sessions : ∀ session ∈ db.attendanceSessions, ∃ later ∈ after.attendanceSessions,
    later.id = session.id ∧ later.courseId = session.courseId

theorem still_refl (db : Database K) : Still db db :=
  ⟨rfl, rfl, fun _ stored => stored, fun session stored => ⟨session, stored, rfl, rfl⟩⟩

theorem still_same (db after : Database K) (records : after.attendanceRecords = db.attendanceRecords)
    (outbox : after.outboxMessages = db.outboxMessages)
    (enrollments : after.courseEnrollments = db.courseEnrollments)
    (sessions : after.attendanceSessions = db.attendanceSessions) : Still db after := by
  refine ⟨records, ?_, fun row stored => enrollments ▸ stored,
    fun session stored => ⟨session, sessions ▸ stored, rfl, rfl⟩⟩
  rw [similarityEvents, outbox, similarityEvents]

theorem still_announced (db middle after : Database K) (aggregateType : String) (aggregateId : Uuid)
    (eventType : String) (payload : EventPayload K) (message : OutboxMessage (EventPayload K))
    (still : Still db middle)
    (announced : Announced middle after aggregateType aggregateId eventType payload message)
    (silent : similarityEvent message = none) : Still db after := by
  have frame := announced.frame
  constructor
  · rw [frame]
    exact still.records
  · rw [similarityEvents, announced.appended, List.filterMap_append, List.filterMap_cons, silent]
    simpa [similarityEvents] using still.events
  · rw [frame]
    exact still.enrollments
  · rw [frame]
    exact still.sessions

/-- What one step of a call records. -/
inductive Recording (uuids : UuidSource) (store : Store K) (call : Call K) (input : Input K) :
    Store K → Call K → Prop where
  | nothing (after : Store K) (next : Call K) : Still store.db after.db → after.marks = store.marks →
      Recording uuids store call input after next
  | wrote (session : AttendanceSession) (studentId : Uuid) (data : RecordData K)
      (record : AttendanceRecord K) (after : Database K) (next : Call K) (fate : Fate) :
      toRecord call = some (session, studentId, data) → input = .transact fate →
      commits (recordAttendance uuids store.clock session studentId data) fate.chances fate.ending
        store.db = true →
      held next = none → Written store.db after session studentId data record →
      Recording uuids store call input (store.settle after [(session.id, studentId)] []) next

theorem finish_held {α : Type} (answer : α → Answer K) (result : Except Failure α) :
    held (finish answer result) = none := by
  cases result <;> rfl

section Effects

variable (uuids : UuidSource) (store : Store K)

theorem effect_nothing (call next : Call K) (input : Input K) (after : Store K)
    (effect : Effect store call input after next) (free : inFlight call = none) :
    Recording uuids store call input after next := by
  cases effect with
  | quiet => exact .nothing _ _ (still_refl store.db) rfl
  | carried => exact .nothing _ _ (still_refl store.db) rfl
  | admitted => exact .nothing _ _ (still_refl store.db) rfl
  | recorded session studentId record after next waits =>
      rw [free] at waits
      cases waits
  | linked courseId row student isNew middle after result next done resolved linked =>
      have resolving : Still store.db middle := by
        apply still_same <;> rw [resolved.frame]
      refine .nothing _ _ ?_ (List.append_nil _)
      cases linked with
      | already => exact resolving
      | new enrollment message linked after absent ofCourse ofStudent course rest rows announced =>
          apply still_announced _ linked _ _ _ _ _ message _ announced
          · simp [similarityEvent, announced.payload]
          · refine ⟨?_, ?_, fun row stored => ?_, ?_⟩
            · rw [rest]
              exact resolving.records
            · rw [rest]
              exact resolving.events
            · rw [Table.mem_rows, rows]
              exact List.mem_append_left _ (resolving.enrollments row stored)
            · rw [rest]
              exact resolving.sessions
  | created courseId rows job after next done created =>
      obtain ⟨middle, message, frame, appended, announced⟩ := created.announced
      refine .nothing _ _ ?_ (List.append_nil _)
      apply still_announced _ middle _ _ _ _ _ message _ announced
      · simp [similarityEvent, announced.payload]
      · apply still_same <;> rw [frame]
  | closed id fate after next waits asked committed done frame rows =>
      refine .nothing _ _ ?_ rfl
      rw [frame]
      refine ⟨rfl, rfl, fun row stored => stored, fun session stored => ?_⟩
      refine ⟨closeRow id store.clock session, ?_, closeRow_id id store.clock session, ?_⟩
      · rw [Table.mem_rows, rows]
        exact List.mem_map_of_mem stored
      · unfold closeRow
        split <;> rfl

theorem record_recording (call : Call K) (fate : Fate) (session : AttendanceSession) (studentId : Uuid)
    (data : RecordData K) (answers : Failure → Failure)
    (waits : toRecord call = some (session, studentId, data)) :
    Recording uuids store call (.transact fate)
      (record (recordAttendance uuids store.clock session studentId data) answers
        (session.id, studentId) fate store).1
      (record (recordAttendance uuids store.clock session studentId data) answers
        (session.id, studentId) fate store).2 := by
  simp only [record]
  split
  · next committed =>
      obtain ⟨record, written⟩ := transaction_committed _ _ _ _ _
        (recordAttendance_written uuids store.clock session studentId data store.db) committed
      exact .wrote session studentId data record _ _ fate waits rfl committed (finish_held _ _) written
  · next aborted =>
      rw [transaction_aborted _ _ _ _ (by simpa using aborted), settle_self]
      exact .nothing _ _ (still_refl store.db) rfl

variable [Ring K] [LinearOrder K] (vision : Vision K) (threshold : K)

theorem exec_recording (input : Input K) (call : Call K) :
    Recording uuids store call input (exec uuids vision threshold input store call).1
      (exec uuids vision threshold input store call).2 := by
  have same : ∀ next, Recording uuids store call input store next := fun next =>
    .nothing _ _ (still_refl store.db) rfl
  unfold exec
  split
  · exact effect_nothing uuids store _ _ _ _ (enroll_effect uuids store _ _ _ _ _) rfl
  · exact same _
  · exact record_recording uuids store _ _ _ _ _ _ rfl
  · split <;> exact same _
  · split
    · exact same _
    · split <;> exact same _
  · exact record_recording uuids store _ _ _ _ _ _ rfl
  · exact effect_nothing uuids store _ _ _ _ (close_effect store _ _) rfl
  · exact effect_nothing uuids store _ _ _ _ (enroll_effect uuids store _ _ _ _ _) rfl
  · exact effect_nothing uuids store _ _ _ _ (createJob_effect uuids store _ _ _ _ _ _) rfl
  · exact same _
  · exact same _
  · exact same _
  · exact same _

omit [Ring K] [LinearOrder K] in
theorem firstStep_held (input : Input K) (session : AttendanceSession)
    (holds : held (firstStep store input) = some session) :
    session ∈ store.db.attendanceSessions := by
  cases input with
  | markAttendance sessionId input actor =>
      simp only [firstStep] at holds
      split at holds
      · cases holds
      · next found passed =>
          cases holds
          exact (openSession_open _ _ _ _ _ passed).1
  | identifyAndRecord sessionId actor =>
      simp only [firstStep] at holds
      split at holds
      · cases holds
      · next found passed =>
          cases holds
          exact (openSession_open _ _ _ _ _ passed).1
  | closeSession id actor =>
      simp only [firstStep] at holds
      split at holds
      · cases holds
      · split at holds <;> cases holds
  | enrollStudent courseId input actor =>
      simp only [firstStep] at holds
      split at holds <;> cases holds
  | createBulkImportJob courseId rows actor =>
      simp only [firstStep] at holds
      split at holds <;> cases holds
  | _ => cases holds

theorem exec_held (input : Input K) (call : Call K) (session : AttendanceSession)
    (holds : held (exec uuids vision threshold input store call).2 = some session) :
    held call = some session ∨ session ∈ store.db.attendanceSessions := by
  unfold exec at holds
  split at holds
  · simp only [enroll, finish_held] at holds
    cases holds
  · exact Or.inr (firstStep_held store _ session holds)
  · simp only [record, finish_held] at holds
    cases holds
  · split at holds
    · cases holds
    · exact Or.inl holds
  · split at holds
    · exact Or.inl holds
    · split at holds
      · cases holds
      · exact Or.inl holds
  · simp only [record, finish_held] at holds
    cases holds
  · simp only [finish_held] at holds
    cases holds
  · simp only [enroll, finish_held] at holds
    cases holds
  · simp only [createJob, finish_held] at holds
    cases holds
  · cases holds
  · cases holds
  · cases holds
  · exact Or.inl holds

omit [Ring K] [LinearOrder K] in
theorem toRecord_held (call : Call K) (session : AttendanceSession) (studentId : Uuid)
    (data : RecordData K) (pending : toRecord call = some (session, studentId, data)) :
    held call = some session := by
  cases call <;> simp_all [toRecord, held]

/-- Where the student and the columns of a recording come from. -/
inductive Origin (store : Store K) (call : Call K) (input : Input K) (session : AttendanceSession)
    (studentId : Uuid) (data : RecordData K) : Prop where
  | kept : toRecord call = some (session, studentId, data) →
      Origin store call input session studentId data
  | marked (sessionId : Uuid) (request : MarkAttendanceInput) (actor : AuthContext) :
      call = .idle → input = .markAttendance sessionId request actor →
      openSessionForActor store.db sessionId actor
        "Cannot record attendance for a closed session" = .ok session →
      studentId = request.studentId → data.method = .MANUAL →
      Origin store call input session studentId data
  | recognised (embedding : List K) (chosen : Option Uuid) (best : NearestMatch K) :
      searchNearestInCourse vision store.db session.courseId embedding chosen = some (some best) →
      aboveThreshold threshold (some best) = some best → studentId = best.studentId →
      data = ⟨.PRESENT, .FACE, some best.similarity.column⟩ →
      Origin store call input session studentId data

omit [Ring K] [LinearOrder K] in
theorem finish_toRecord {α : Type} (answer : α → Answer K) (result : Except Failure α) :
    toRecord (finish answer result) = none := by
  cases result <;> rfl

theorem firstStep_origin (input : Input K) (session : AttendanceSession) (studentId : Uuid)
    (data : RecordData K)
    (pending : toRecord (firstStep store input) = some (session, studentId, data)) :
    Origin vision threshold store .idle input session studentId data := by
  cases input with
  | markAttendance sessionId request actor =>
      simp only [firstStep] at pending
      split at pending
      · cases pending
      · next found passed =>
          cases pending
          exact .marked sessionId request actor rfl rfl passed rfl rfl
  | identifyAndRecord sessionId actor =>
      simp only [firstStep] at pending
      split at pending <;> cases pending
  | closeSession id actor =>
      simp only [firstStep] at pending
      split at pending
      · cases pending
      · split at pending <;> cases pending
  | enrollStudent courseId input actor =>
      simp only [firstStep] at pending
      split at pending <;> cases pending
  | createBulkImportJob courseId rows actor =>
      simp only [firstStep] at pending
      split at pending <;> cases pending
  | _ => cases pending

theorem exec_origin (input : Input K) (call : Call K) (session : AttendanceSession) (studentId : Uuid)
    (data : RecordData K)
    (pending : toRecord (exec uuids vision threshold input store call).2 = some (session, studentId, data)) :
    Origin vision threshold store call input session studentId data := by
  unfold exec at pending
  split at pending
  · simp only [enroll, finish_toRecord] at pending
    cases pending
  · exact firstStep_origin store vision threshold _ session studentId data pending
  · simp only [record, finish_toRecord] at pending
    cases pending
  · split at pending <;> cases pending
  · next asked embedding chosen =>
      split at pending
      · cases pending
      · next best answered =>
          split at pending
          · cases pending
          · next nearest above =>
              cases pending
              obtain ⟨rfl, _⟩ := Option.filter_eq_some_iff.mp above
              exact .recognised embedding chosen nearest answered above rfl rfl
  · simp only [record, finish_toRecord] at pending
    cases pending
  · simp only [finish_toRecord] at pending
    cases pending
  · simp only [enroll, finish_toRecord] at pending
    cases pending
  · simp only [createJob, finish_toRecord] at pending
    cases pending
  · cases pending
  · cases pending
  · cases pending
  · exact .kept pending

end Effects

/-- The classroom with the student enrolled, and with a face. -/
def lectureHall : Database ℤ :=
  { classroom with
    faceEmbeddings := .single ⟨8, 1, [1], "model", none, none⟩
    courseEnrollments := .single ⟨9, 2, 1⟩ }

/-- Every face looks like every other. -/
def sameFace : Vision ℤ := ⟨fun _ _ => .real 0⟩

end FaceVec.Gateway

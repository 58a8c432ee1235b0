import FaceVec.Gateway

/-!
The outbox mirrors what committed: each recording transaction, each new link
and each import job has exactly one event, and the last event of a record
tells its current state.
-/

namespace FaceVec.Gateway

open Interleaving Attendance Courses

variable {K : Type}

/-- What an `attendance.recorded` event says about its record. -/
structure AttendanceEvent where
  recordId : Uuid
  studentId : Uuid
  status : AttendanceStatus
  method : AttendanceMethod
  capturedAt : Instant
  deriving DecidableEq, Repr

def attendanceEvent (sessionId studentId : Uuid) (message : OutboxMessage (EventPayload K)) :
    Option AttendanceEvent :=
  match message.payload with
  | .attendanceRecorded recordId session _ student status method _ capturedAt =>
      if message.eventType = EventType.AttendanceRecorded ∧ session = sessionId ∧
          student = studentId then
        some ⟨recordId, student, status, method, capturedAt⟩
      else none
  | _ => none

/-- The pair that a `course.student_enrolled` event is about. -/
def enrollmentEvent (message : OutboxMessage (EventPayload K)) : Option (Uuid × Uuid) :=
  match message.payload with
  | .courseStudentEnrolled _ courseId studentId =>
      if message.eventType = EventType.CourseStudentEnrolled then some (courseId, studentId) else none
  | _ => none

def attendanceEvents (db : Database K) (sessionId studentId : Uuid) : List AttendanceEvent :=
  db.outboxMessages.rows.filterMap (attendanceEvent sessionId studentId)

def enrollmentEvents (db : Database K) : List (Uuid × Uuid) :=
  db.outboxMessages.rows.filterMap enrollmentEvent

def eventOf (record : AttendanceRecord K) : AttendanceEvent :=
  ⟨record.id, record.studentId, record.status, record.method, record.capturedAt⟩

/-- The outbox and the tables of one committed state tell the same story. -/
structure Mirrored (store : Store K) : Prop where
  marks : ∀ sessionId studentId, (attendanceEvents store.db sessionId studentId).length =
    store.marks.count (sessionId, studentId)
  current : ∀ record ∈ store.db.attendanceRecords,
    (attendanceEvents store.db record.sessionId record.studentId).getLast? = some (eventOf record)
  links : enrollmentEvents store.db = store.links
  jobs : importEvents store.db = store.jobs
  jobRows : store.jobs.map (fun job => (job.1, job.2.1)) =
    store.db.importJobs.rows.map fun job => (job.id, job.courseId)

theorem events_announced (db after : Database K) (aggregateType : String) (aggregateId : Uuid)
    (eventType : String) (payload : EventPayload K) (message : OutboxMessage (EventPayload K))
    (announced : Announced db after aggregateType aggregateId eventType payload message) :
    (∀ sessionId studentId, attendanceEvents after sessionId studentId =
        attendanceEvents db sessionId studentId ++
          (attendanceEvent sessionId studentId message).toList) ∧
      enrollmentEvents after = enrollmentEvents db ++ (enrollmentEvent message).toList ∧
      importEvents after = importEvents db ++ (importEvent message).toList := by
  have single : ∀ {α : Type} (of : OutboxMessage (EventPayload K) → Option α),
      [message].filterMap of = (of message).toList := by
    intro α of
    cases hit : of message <;> simp [hit]
  refine ⟨fun sessionId studentId => ?_, ?_, ?_⟩
  · rw [attendanceEvents, announced.appended, List.filterMap_append, single, attendanceEvents]
  · rw [enrollmentEvents, announced.appended, List.filterMap_append, single, enrollmentEvents]
  · rw [importEvents, announced.appended, List.filterMap_append, single, importEvents]

theorem recorded_mirrored (store : Store K) (session : AttendanceSession) (studentId : Uuid)
    (record : AttendanceRecord K) (after : Database K) (valid : Mirrored store)
    (recorded : Recorded store.db after session studentId record) :
    Mirrored (store.settle after [(session.id, studentId)] []) := by
  obtain ⟨middle, data, upserted, similarity, message, announced⟩ := recorded.upserted
  obtain ⟨attendance, enrollments, imports⟩ := events_announced _ _ _ _ _ _ _ announced
  have outbox : middle.outboxMessages = store.db.outboxMessages := by rw [upserted.frame]
  have links : after.courseEnrollments = store.db.courseEnrollments := by
    rw [announced.frame, upserted.frame]
  have jobs : after.importJobs = store.db.importJobs := by rw [announced.frame, upserted.frame]
  have records : after.attendanceRecords = middle.attendanceRecords := by rw [announced.frame]
  -- The new event is about the pair that was recorded, and about no other.
  have event : ∀ s t, attendanceEvent s t message =
      if session.id = s ∧ studentId = t then some (eventOf record) else none := by
    intro s t
    simp [attendanceEvent, announced.payload, announced.eventType, eventOf, upserted.ofStudent]
  have grown : ∀ s t, attendanceEvents after s t = attendanceEvents store.db s t ++
      (if session.id = s ∧ studentId = t then [eventOf record] else []) := by
    intro s t
    rw [attendance, event, attendanceEvents, attendanceEvents, outbox]
    split <;> rfl
  constructor
  · intro s t
    simp only [Store.settle, grown, List.length_append, List.count_append, valid.marks]
    congr 1
    by_cases same : session.id = s ∧ studentId = t
    · simp [same]
    -- Neither the count of the pair nor its events change.
    · simp only [same, if_false, List.length_nil]
      rw [eq_comm, List.count_eq_zero]
      simpa [eq_comm] using same
  · intro row member
    simp only [Store.settle] at member ⊢
    rw [records] at member
    rcases (upserted.rows row).mp member with rfl | ⟨old, other⟩
    · rw [grown, if_pos ⟨upserted.ofSession.symm, upserted.ofStudent.symm⟩]
      simp
    · have apart : ¬ (session.id = row.sessionId ∧ studentId = row.studentId) :=
        fun same => other ⟨same.1.symm, same.2.symm⟩
      rw [grown, if_neg apart, List.append_nil]
      exact valid.current row old
  · have none_ : enrollmentEvent message = none := by
      simp [enrollmentEvent, announced.payload]
    simp only [Store.settle, newLinks_same _ _ links, List.append_nil]
    rw [enrollments, none_, ← valid.links, enrollmentEvents, enrollmentEvents, outbox]
    simp
  · have none_ : importEvent message = none := by
      simp [importEvent, announced.payload]
    simp only [Store.settle, newJobs_same _ _ jobs]
    rw [imports, none_, importEvents, outbox]
    simpa [importEvents] using valid.jobs
  · simp only [Store.settle, newJobs_same _ _ jobs, List.map_nil, List.append_nil]
    rw [valid.jobRows, jobs]

/-- A transaction that announces nothing about attendance keeps that part. -/
theorem attendance_kept (store : Store K) (after : Database K) (valid : Mirrored store)
    (records : after.attendanceRecords = store.db.attendanceRecords)
    (events : ∀ s t, attendanceEvents after s t = attendanceEvents store.db s t) :
    (∀ s t, (attendanceEvents after s t).length = store.marks.count (s, t)) ∧
      ∀ record ∈ after.attendanceRecords,
        (attendanceEvents after record.sessionId record.studentId).getLast? =
          some (eventOf record) := by
  constructor
  · intro s t
    rw [events, valid.marks]
  · intro record member
    rw [events]
    exact valid.current record (records ▸ member)

theorem quiet_mirrored (store : Store K) (after : Database K) (valid : Mirrored store)
    (records : after.attendanceRecords = store.db.attendanceRecords)
    (links : after.courseEnrollments = store.db.courseEnrollments)
    (jobs : after.importJobs = store.db.importJobs)
    (outbox : after.outboxMessages = store.db.outboxMessages) :
    Mirrored (store.settle after [] []) := by
  have kept := attendance_kept store after valid records
    (by intro s t; rw [attendanceEvents, outbox, attendanceEvents])
  constructor
  · simpa [Store.settle] using kept.1
  · exact kept.2
  · simpa [Store.settle, newLinks_same _ _ links, enrollmentEvents, outbox] using valid.links
  · simpa [Store.settle, newJobs_same _ _ jobs, importEvents, outbox] using valid.jobs
  · simpa [Store.settle, newJobs_same _ _ jobs, jobs] using valid.jobRows

theorem linked_mirrored (store : Store K) (courseId : Uuid) (input : ResolveInput)
    (student : Student) (isNew : Bool) (middle after : Database K) (result : ResolveResult)
    (valid : Mirrored store) (resolved : Resolved store.db middle input student isNew)
    (linked : Linked middle courseId student isNew result after) :
    Mirrored (store.settle after [] []) := by
  have frame := resolved.frame
  cases linked with
  | already enrollment found =>
      apply quiet_mirrored store middle valid <;> rw [frame]
  | new enrollment message linked after absent ofCourse ofStudent course rest rows announced =>
      obtain ⟨attendance, enrollments, imports⟩ := events_announced _ _ _ _ _ _ _ announced
      have outbox : linked.outboxMessages = store.db.outboxMessages := by rw [rest, frame]
      have before : middle.courseEnrollments = store.db.courseEnrollments := by rw [frame]
      have jobs : after.importJobs = store.db.importJobs := by rw [announced.frame, rest, frame]
      have records : after.attendanceRecords = store.db.attendanceRecords := by
        rw [announced.frame, rest, frame]
      -- One new row, and one event that names its pair.
      have added : newLinks store.db after = [(courseId, student.id)] := by
        have table : after.courseEnrollments = linked.courseEnrollments := by rw [announced.frame]
        rw [newLinks, table, Table.added_rows store.db.courseEnrollments linked.courseEnrollments
          enrollment (by simp [CourseEnrollment.clash]) (by rw [rows, before])]
        simp [ofCourse, ofStudent]
      have silent : ∀ s t, attendanceEvents after s t = attendanceEvents store.db s t := by
        intro s t
        rw [attendance]
        simp [attendanceEvent, announced.payload, attendanceEvents, outbox]
      obtain ⟨marks, current⟩ := attendance_kept store after valid records silent
      constructor
      · simpa [Store.settle] using marks
      · exact current
      · simp only [Store.settle, added, enrollments]
        have event : enrollmentEvent message = some (courseId, student.id) := by
          simp [enrollmentEvent, announced.payload, announced.eventType]
        rw [event, ← valid.links, enrollmentEvents, enrollmentEvents, outbox]
        rfl
      · have none_ : importEvent message = none := by simp [importEvent, announced.payload]
        simp only [Store.settle, newJobs_same _ _ jobs, imports, none_]
        simpa [importEvents, outbox] using valid.jobs
      · simpa [Store.settle, newJobs_same _ _ jobs, jobs] using valid.jobRows

theorem created_mirrored (store : Store K) (courseId : Uuid) (rows : List BulkImportRow)
    (job : ImportJob) (after : Database K) (valid : Mirrored store)
    (created : JobCreated store.db after courseId rows job) :
    Mirrored (store.settle after [] rows) := by
  obtain ⟨middle, message, frame, appended, announced⟩ := created.announced
  obtain ⟨attendance, enrollments, imports⟩ := events_announced _ _ _ _ _ _ _ announced
  have outbox : middle.outboxMessages = store.db.outboxMessages := by rw [frame]
  have links : after.courseEnrollments = store.db.courseEnrollments := by
    rw [announced.frame, frame]
  have records : after.attendanceRecords = store.db.attendanceRecords := by
    rw [announced.frame, frame]
  have table : after.importJobs = middle.importJobs := by rw [announced.frame]
  have added : newJobs store.db after = [(job.id, job.courseId)] := by
    rw [newJobs, table, Table.added_rows store.db.importJobs middle.importJobs job
      (by simp [ImportJob.clash]) appended]
    rfl
  have silent : ∀ s t, attendanceEvents after s t = attendanceEvents store.db s t := by
    intro s t
    rw [attendance]
    simp [attendanceEvent, announced.payload, attendanceEvents, outbox]
  obtain ⟨marks, current⟩ := attendance_kept store after valid records silent
  constructor
  · simpa [Store.settle] using marks
  · exact current
  · have none_ : enrollmentEvent message = none := by simp [enrollmentEvent, announced.payload]
    simp only [Store.settle, newLinks_same _ _ links, enrollments, none_]
    simpa [enrollmentEvents, outbox] using valid.links
  · have event : importEvent message = some (job.id, courseId, rows) := by
      simp [importEvent, announced.payload, announced.eventType]
    simp only [Store.settle, added, imports, event]
    rw [← valid.jobs, importEvents, importEvents, outbox]
    simp [created.course]
  · simp only [Store.settle, added, table, appended, List.map_append, valid.jobRows]
    rfl

theorem effect_mirrored (store after : Store K) (call next : Call K) (input : Input K)
    (effect : Effect store call input after next) (valid : Mirrored store) : Mirrored after := by
  cases effect with
  | quiet => exact valid
  | carried => exact valid
  | admitted => exact valid
  | recorded session studentId record after next waits done recorded =>
      exact recorded_mirrored store session studentId record after valid recorded
  | linked courseId row student isNew middle after result next done resolved linked =>
      exact linked_mirrored store courseId row student isNew middle after result valid resolved
        linked
  | created courseId rows job after next done created =>
      exact created_mirrored store courseId rows job after valid created
  | closed id fate after next waits asked committed done frame rows =>
      have kept := quiet_mirrored store after valid (by rw [frame]) (by rw [frame])
        (by rw [frame]) (by rw [frame])
      have same : store.settle after [] [] = { store with db := after } := by
        simp [Store.settle, newLinks_same store.db after (by rw [frame]),
          newJobs_same store.db after (by rw [frame])]
      exact same ▸ kept

theorem start_mirrored (db : Database K) (clock : Instant) :
    Mirrored (start db clock).store where
  marks _ _ := rfl
  current := by simp [start, Table.mem_rows]
  links := rfl
  jobs := rfl
  jobRows := rfl

section Runs

variable [Ring K] [LinearOrder K]
variable (uuids : UuidSource) (vision : Vision K) (threshold : K)

theorem step_mirrored (system : State K) (event : Event (Input K) Change)
    (valid : Mirrored system.store) :
    Mirrored ((machine uuids vision threshold).step system event).store := by
  cases event with
  | act index input =>
      exact effect_mirrored _ _ _ _ _
        (exec_effect uuids system.store vision threshold input (system.procs index)) valid
  | env change =>
      cases change with
      | tick => exact ⟨valid.marks, valid.current, valid.links, valid.jobs, valid.jobRows⟩

end Runs

/-- One event for each thing that committed, in every state of a run. -/
structure OutboxAtomicity (store : Store K) : Prop where
  attendance : ∀ sessionId studentId,
    (attendanceEvents store.db sessionId studentId).length = store.marks.count (sessionId, studentId)
  current : ∀ record ∈ store.db.attendanceRecords,
    (attendanceEvents store.db record.sessionId record.studentId).getLast? = some (eventOf record)
  enrolled : ∀ courseId studentId, (enrollmentEvents store.db).count (courseId, studentId) =
    store.links.count (courseId, studentId)
  /-- Every job ever created has one request, which carries its id and its rows. -/
  imports : importEvents store.db = store.jobs ∧ (store.jobs.map (·.1)).Nodup ∧
    ∀ job ∈ store.db.importJobs, ∃ rows, (job.id, job.courseId, rows) ∈ store.jobs
  oneRecord : ∀ a ∈ store.db.attendanceRecords, ∀ b ∈ store.db.attendanceRecords,
    a.sessionId = b.sessionId → a.studentId = b.studentId → a = b
  oneEnrollment : ∀ a ∈ store.db.courseEnrollments, ∀ b ∈ store.db.courseEnrollments,
    a.courseId = b.courseId → a.studentId = b.studentId → a = b

theorem mirrored_atomic (store : Store K) (valid : Mirrored store) : OutboxAtomicity store where
  attendance := valid.marks
  current := valid.current
  enrolled _ _ := by rw [valid.links]
  imports := by
    have ids : store.jobs.map (·.1) = store.db.importJobs.rows.map (·.id) := by
      simpa [Function.comp_def] using congrArg (List.map Prod.fst) valid.jobRows
    refine ⟨valid.jobs, ?_, fun job member => ?_⟩
    · rw [ids, List.Nodup, List.pairwise_map]
      exact store.db.importJobs.unique.imp fun {a b} apart same => by
        simp [ImportJob.clash, same] at apart
    · have logged : (job.id, job.courseId) ∈ store.jobs.map fun job => (job.1, job.2.1) := by
        rw [valid.jobRows]
        exact List.mem_map.mpr ⟨job, member, rfl⟩
      obtain ⟨⟨id, courseId, rows⟩, inside, same⟩ := List.mem_map.mp logged
      obtain ⟨rfl, rfl⟩ := Prod.mk.inj same
      exact ⟨rows, inside⟩
  oneRecord a inA b inB := record_eq_of_pair store.db.attendanceRecords a b inA inB
  oneEnrollment a inA b inB sameCourse sameStudent :=
    store.db.courseEnrollments.eq_of_clash a b inA inB
      (by simp [CourseEnrollment.clash, sameCourse, sameStudent])
      (by simp [CourseEnrollment.clash, sameCourse, sameStudent])

/-- Every interleaving of the writing calls, whatever fails and wherever it
does, leaves the outbox in step with the tables. -/
theorem outbox_atomic [Ring K] [LinearOrder K] (uuids : UuidSource) (vision : Vision K)
    (threshold : K) (db : Database K) (clock : Instant) (events : List (Event (Input K) Change)) :
    OutboxAtomicity ((machine uuids vision threshold).run (start db clock) events).store :=
  mirrored_atomic _ (run_invariant (machine uuids vision threshold)
    (fun system => Mirrored system.store) (step_mirrored uuids vision threshold) _ events
    (start_mirrored db clock))

end FaceVec.Gateway

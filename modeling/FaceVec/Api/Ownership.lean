import Mathlib.Algebra.Order.Ring.Int
import FaceVec.Api.Server

/-!
What a professor's requests leave of the courses of others. A handler writes
below a course only after the check that the course is the actor's; the
cascades of a deleted student alone reach the rosters and records of others.
-/

namespace FaceVec.Api

open Attendance Courses Faces

variable {K : Type}

/-- The course is one of the professor's. -/
def Owned (db : Database K) (professorId courseId : Uuid) : Prop :=
  ∃ course ∈ db.courses, course.id = courseId ∧ course.professorId = professorId

def OwnedSession (db : Database K) (professorId sessionId : Uuid) : Prop :=
  ∃ session ∈ db.attendanceSessions,
    session.id = sessionId ∧ Owned db professorId session.courseId

instance (db : Database K) (professorId courseId : Uuid) :
    Decidable (Owned db professorId courseId) :=
  inferInstanceAs (Decidable (∃ course ∈ db.courses.rows,
    course.id = courseId ∧ course.professorId = professorId))

instance (db : Database K) (professorId sessionId : Uuid) :
    Decidable (OwnedSession db professorId sessionId) :=
  inferInstanceAs (Decidable (∃ session ∈ db.attendanceSessions.rows,
    session.id = sessionId ∧ Owned db professorId session.courseId))

/-- The rows that belong to courses of others. -/
@[ext] structure Foreign (K : Type) where
  courses : Set Course
  courseEnrollments : Set CourseEnrollment
  importJobs : Set ImportJob
  attendanceSessions : Set AttendanceSession
  attendanceRecords : Set (AttendanceRecord K)

def foreign (db : Database K) (professorId : Uuid) : Foreign K where
  courses := { course | course ∈ db.courses ∧ course.professorId ≠ professorId }
  courseEnrollments :=
    { row | row ∈ db.courseEnrollments ∧ ¬ Owned db professorId row.courseId }
  importJobs := { job | job ∈ db.importJobs ∧ ¬ Owned db professorId job.courseId }
  attendanceSessions :=
    { session | session ∈ db.attendanceSessions ∧ ¬ Owned db professorId session.courseId }
  attendanceRecords :=
    { row | row ∈ db.attendanceRecords ∧ ¬ OwnedSession db professorId row.sessionId }

/-- The rows that the deletion of students leaves. -/
def Foreign.without (rows : Foreign K) (students : List Uuid) : Foreign K :=
  { rows with
    courseEnrollments := { row | row ∈ rows.courseEnrollments ∧ row.studentId ∉ students }
    attendanceRecords := { row | row ∈ rows.attendanceRecords ∧ row.studentId ∉ students } }

@[simp] theorem without_nil (rows : Foreign K) : rows.without [] = rows := by
  simp [Foreign.without]

theorem without_append (rows : Foreign K) (first second : List Uuid) :
    (rows.without first).without second = rows.without (first ++ second) := by
  ext row
  all_goals simp [Foreign.without, and_assoc]

section Tables

variable (db after : Database K) (professorId : Uuid)

theorem foreign_enrollments
    (frame : after = { db with courseEnrollments := after.courseEnrollments })
    (rows : ∀ row, ¬ Owned db professorId row.courseId →
      (row ∈ after.courseEnrollments ↔ row ∈ db.courseEnrollments)) :
    foreign after professorId = foreign db professorId := by
  rw [frame]
  ext row
  all_goals try rfl
  exact and_congr_left fun others => rows row others

theorem foreign_jobs (frame : after = { db with importJobs := after.importJobs })
    (rows : ∀ job, ¬ Owned db professorId job.courseId →
      (job ∈ after.importJobs ↔ job ∈ db.importJobs)) :
    foreign after professorId = foreign db professorId := by
  rw [frame]
  ext row
  all_goals try rfl
  exact and_congr_left fun others => rows row others

theorem foreign_records (frame : after = { db with attendanceRecords := after.attendanceRecords })
    (rows : ∀ row, ¬ OwnedSession db professorId row.sessionId →
      (row ∈ after.attendanceRecords ↔ row ∈ db.attendanceRecords)) :
    foreign after professorId = foreign db professorId := by
  rw [frame]
  ext row
  all_goals try rfl
  exact and_congr_left fun others => rows row others

theorem foreign_sessions
    (frame : after = { db with attendanceSessions := after.attendanceSessions })
    (rows : ∀ session, ¬ Owned db professorId session.courseId →
      (session ∈ after.attendanceSessions ↔ session ∈ db.attendanceSessions))
    (recorded : ∀ row ∈ db.attendanceRecords,
      (OwnedSession after professorId row.sessionId ↔ OwnedSession db professorId row.sessionId)) :
    foreign after professorId = foreign db professorId := by
  have owned : ∀ courseId, Owned after professorId courseId ↔ Owned db professorId courseId := by
    intro courseId
    rw [frame]
    rfl
  have records : after.attendanceRecords = db.attendanceRecords := by rw [frame]
  have courses : after.courses = db.courses := by rw [frame]
  have enrollments : after.courseEnrollments = db.courseEnrollments := by rw [frame]
  have jobs : after.importJobs = db.importJobs := by rw [frame]
  ext row
  · simp only [foreign, courses]
  · simp only [foreign, enrollments, owned]
  · simp only [foreign, jobs, owned]
  · simp only [foreign, owned]
    exact and_congr_left fun others => rows row others
  · simp only [foreign, records]
    exact and_congr_right fun stored => not_congr (recorded row stored)

/-- The courses change, but none comes or goes below the rows there are. -/
theorem foreign_courses (frame : after = { db with courses := after.courses })
    (rows : ∀ course, course.professorId ≠ professorId →
      (course ∈ after.courses ↔ course ∈ db.courses))
    (owned : ∀ courseId ∈ courseIds db,
      (Owned after professorId courseId ↔ Owned db professorId courseId)) :
    foreign after professorId = foreign db professorId := by
  have enrollments : after.courseEnrollments = db.courseEnrollments := by rw [frame]
  have jobs : after.importJobs = db.importJobs := by rw [frame]
  have sessions : after.attendanceSessions = db.attendanceSessions := by rw [frame]
  have records : after.attendanceRecords = db.attendanceRecords := by rw [frame]
  have ofSession : ∀ session ∈ db.attendanceSessions,
      (Owned after professorId session.courseId ↔ Owned db professorId session.courseId) :=
    fun session stored => owned _ (by
      simp only [courseIds, List.mem_append, List.mem_map]
      exact Or.inl (Or.inr ⟨session, stored, rfl⟩))
  ext row
  · exact and_congr_left fun others => rows row others
  · simp only [foreign, enrollments]
    refine and_congr_right fun stored => not_congr (owned _ ?_)
    simp only [courseIds, List.mem_append, List.mem_map]
    exact Or.inl (Or.inl (Or.inr ⟨row, stored, rfl⟩))
  · simp only [foreign, jobs]
    refine and_congr_right fun stored => not_congr (owned _ ?_)
    simp only [courseIds, List.mem_append, List.mem_map]
    exact Or.inr ⟨row, stored, rfl⟩
  · simp only [foreign, sessions]
    exact and_congr_right fun stored => not_congr (ofSession row stored)
  · simp only [foreign, records]
    refine and_congr_right fun stored => not_congr ?_
    simp only [OwnedSession, sessions]
    exact exists_congr fun session => and_congr_right fun inside => and_congr_right fun _ =>
      ofSession session inside

end Tables

section Writes

variable (db after : Database K) (professorId : Uuid)

theorem owned_created (course : Course) (fresh : course.id ∉ courseIds db)
    (rows : after.courses.rows = db.courses.rows ++ [course]) (courseId : Uuid)
    (used : courseId ∈ courseIds db) :
    Owned after professorId courseId ↔ Owned db professorId courseId := by
  have stored : ∀ other, other ∈ after.courses ↔ other ∈ db.courses ∨ other = course := by
    simp [Table.mem_rows, rows]
  constructor
  · rintro ⟨other, member, rfl, owner⟩
    rcases (stored other).mp member with old | rfl
    · exact ⟨other, old, rfl, owner⟩
    · exact absurd used fresh
  · rintro ⟨other, member, same, owner⟩
    exact ⟨other, (stored other).mpr (Or.inl member), same, owner⟩

theorem foreign_created (course : Course) (mine : course.professorId = professorId)
    (fresh : course.id ∉ courseIds db) (frame : after = { db with courses := after.courses })
    (rows : after.courses.rows = db.courses.rows ++ [course]) :
    foreign after professorId = foreign db professorId := by
  apply foreign_courses db after professorId frame
  · intro other others
    rw [Table.mem_rows, rows, List.mem_append, List.mem_singleton]
    refine or_iff_left ?_
    rintro rfl
    exact others mine
  · exact owned_created db after professorId course fresh rows

theorem overwriteCourse_keys (id : Uuid) (data : UpdateCourseInput)
    (unassigned : data.professorId = none) (course : Course) :
    (overwriteCourse id data course).id = course.id ∧
      (overwriteCourse id data course).professorId = course.professorId := by
  unfold overwriteCourse
  split
  · exact ⟨rfl, by simp [UpdateCourseInput.overwrite, unassigned]⟩
  · exact ⟨rfl, rfl⟩

theorem mem_overwritten (id : Uuid) (data : UpdateCourseInput)
    (rows : after.courses.rows = db.courses.rows.map (overwriteCourse id data)) (other : Course) :
    other ∈ after.courses ↔ ∃ course ∈ db.courses, overwriteCourse id data course = other := by
  rw [Table.mem_rows, rows, List.mem_map]
  rfl

theorem owned_updated (id : Uuid) (data : UpdateCourseInput) (unassigned : data.professorId = none)
    (rows : after.courses.rows = db.courses.rows.map (overwriteCourse id data)) (courseId : Uuid) :
    Owned after professorId courseId ↔ Owned db professorId courseId := by
  have stored := mem_overwritten db after id data rows
  have keys := overwriteCourse_keys id data unassigned
  constructor
  · rintro ⟨other, member, same, owner⟩
    obtain ⟨course, inside, rfl⟩ := (stored other).mp member
    exact ⟨course, inside, (keys course).1.symm.trans same, (keys course).2.symm.trans owner⟩
  · rintro ⟨course, inside, same, owner⟩
    exact ⟨_, (stored _).mpr ⟨course, inside, rfl⟩, (keys course).1.trans same,
      (keys course).2.trans owner⟩

theorem foreign_updated (id : Uuid) (data : UpdateCourseInput)
    (unassigned : data.professorId = none) (mine : Owned db professorId id)
    (frame : after = { db with courses := after.courses })
    (rows : after.courses.rows = db.courses.rows.map (overwriteCourse id data)) :
    foreign after professorId = foreign db professorId := by
  have stored := mem_overwritten db after id data rows
  have keys := overwriteCourse_keys id data unassigned
  -- The row with this id is the professor's, so no row of others is written.
  have untouched : ∀ course ∈ db.courses, course.professorId ≠ professorId →
      overwriteCourse id data course = course := by
    intro course member others
    refine if_neg fun same => others ?_
    obtain ⟨own, inside, sameId, owner⟩ := mine
    rwa [course_eq_of_id db.courses course own member inside (same.trans sameId.symm)]
  apply foreign_courses db after professorId frame
  · intro other others
    rw [stored]
    constructor
    · rintro ⟨course, member, rfl⟩
      rw [(keys course).2] at others
      rwa [untouched course member others]
    · exact fun member => ⟨other, member, untouched other member others⟩
  · exact fun courseId _ => owned_updated db after professorId id data unassigned rows courseId

theorem mem_delete_and {Row : Type} {clash : Row → Row → Bool} (table : Table clash)
    (gone : Row → Bool) (row : Row) (one other : Prop)
    (same : row ∈ table → ((gone row = false ∧ one) ↔ other)) :
    (row ∈ table.delete gone ∧ one) ↔ (row ∈ table ∧ other) := by
  rw [Table.mem_delete, and_assoc]
  exact and_congr_right same

theorem owned_deleted (id courseId : Uuid) :
    Owned (FaceVec.deleteCourse id db) professorId courseId ↔
      Owned db professorId courseId ∧ courseId ≠ id := by
  constructor
  · rintro ⟨course, member, rfl, owner⟩
    obtain ⟨stored, other⟩ := (Table.mem_delete _ _ _).mp member
    exact ⟨⟨course, stored, rfl, owner⟩, by simpa using other⟩
  · rintro ⟨⟨course, stored, rfl, owner⟩, other⟩
    exact ⟨course, (Table.mem_delete _ _ _).mpr ⟨stored, by simpa using other⟩, rfl, owner⟩

theorem mem_sessionsOf (id sessionId : Uuid) : sessionId ∈ sessionsOf db id ↔
    ∃ session ∈ db.attendanceSessions, session.courseId = id ∧ session.id = sessionId := by
  simp only [sessionsOf, List.mem_map, List.mem_filter, beq_iff_eq, and_assoc]
  rfl

theorem ownedSession_deleted (id sessionId : Uuid) :
    OwnedSession (FaceVec.deleteCourse id db) professorId sessionId ↔
      OwnedSession db professorId sessionId ∧ sessionId ∉ sessionsOf db id := by
  have owned := owned_deleted db professorId id
  have stored : ∀ session, session ∈ (FaceVec.deleteCourse id db).attendanceSessions ↔
      session ∈ db.attendanceSessions ∧ session.courseId ≠ id := by
    intro session
    exact (Table.mem_delete _ _ _).trans (and_congr_right fun _ => beq_eq_false_iff_ne)
  constructor
  · rintro ⟨session, member, rfl, own⟩
    obtain ⟨inside, apart⟩ := (stored session).mp member
    refine ⟨⟨session, inside, rfl, ((owned _).mp own).1⟩, fun deleted => apart ?_⟩
    obtain ⟨other, among, ofCourse, same⟩ := (mem_sessionsOf db id _).mp deleted
    rw [← session_eq_of_id _ other session among inside same]
    exact ofCourse
  · rintro ⟨⟨session, inside, rfl, own⟩, kept⟩
    have apart : session.courseId ≠ id := fun ofCourse =>
      kept ((mem_sessionsOf db id _).mpr ⟨session, inside, ofCourse, rfl⟩)
    exact ⟨session, (stored session).mpr ⟨inside, apart⟩, rfl, (owned _).mpr ⟨own, apart⟩⟩

theorem foreign_deleted (id : Uuid) (mine : Owned db professorId id) :
    foreign (FaceVec.deleteCourse id db) professorId = foreign db professorId := by
  have kept : ∀ courseId, ((courseId == id) = false ∧
      ¬ Owned (FaceVec.deleteCourse id db) professorId courseId) ↔
        ¬ Owned db professorId courseId := by
    intro courseId
    rw [owned_deleted, beq_eq_false_iff_ne]
    have apart : ¬ Owned db professorId courseId → courseId ≠ id := by
      rintro others rfl
      exact others mine
    tauto
  ext row
  · apply mem_delete_and
    intro stored
    refine and_iff_right_of_imp fun others => beq_eq_false_iff_ne.mpr fun same => others ?_
    obtain ⟨own, inside, sameId, owner⟩ := mine
    rwa [course_eq_of_id db.courses row own stored inside (same.trans sameId.symm)]
  · exact mem_delete_and _ _ _ _ _ fun _ => kept row.courseId
  · exact mem_delete_and _ _ _ _ _ fun _ => kept row.courseId
  · exact mem_delete_and _ _ _ _ _ fun _ => kept row.courseId
  · apply mem_delete_and
    intro _
    rw [ownedSession_deleted, List.contains_eq_mem, decide_eq_false_iff_not]
    have own : row.sessionId ∈ sessionsOf db id → OwnedSession db professorId row.sessionId := by
      intro deleted
      obtain ⟨session, inside, rfl, same⟩ := (mem_sessionsOf db id _).mp deleted
      exact ⟨session, inside, same, mine⟩
    tauto

/-- The deletion of a student reaches the rows of others, and no more of them
than the cascades. -/
theorem foreign_studentDeleted (id : Uuid) :
    foreign (FaceVec.deleteStudent id db) professorId = (foreign db professorId).without [id] := by
  ext row
  · rfl
  · simp only [Foreign.without, List.mem_singleton]
    change (row ∈ db.courseEnrollments.delete _ ∧ _) ↔ (row ∈ db.courseEnrollments ∧ _) ∧ _
    rw [Table.mem_delete, beq_eq_false_iff_ne]
    exact and_right_comm
  · rfl
  · rfl
  · simp only [Foreign.without, List.mem_singleton]
    change (row ∈ db.attendanceRecords.delete _ ∧ _) ↔ (row ∈ db.attendanceRecords ∧ _) ∧ _
    rw [Table.mem_delete, beq_eq_false_iff_ne]
    exact and_right_comm

theorem foreign_unenrolled (enrollment : CourseEnrollment) (stored : enrollment ∈ db.courseEnrollments)
    (mine : Owned db professorId enrollment.courseId) :
    foreign { db with courseEnrollments := db.courseEnrollments.delete (·.id == enrollment.id) }
      professorId = foreign db professorId := by
  apply foreign_enrollments _ _ _ rfl
  intro row others
  rw [Table.mem_delete]
  refine and_iff_left_of_imp fun member => beq_eq_false_iff_ne.mpr fun same => others ?_
  rwa [db.courseEnrollments.eq_of_clash row enrollment member stored
    (by simp [CourseEnrollment.clash, same]) (by simp [CourseEnrollment.clash, same])]

theorem owned_sessions (frame : after = { db with attendanceSessions := after.attendanceSessions })
    (courseId : Uuid) : Owned after professorId courseId ↔ Owned db professorId courseId := by
  rw [frame]
  rfl

theorem ownedSession_opened (session : AttendanceSession) (fresh : session.id ∉ sessionIds db)
    (frame : after = { db with attendanceSessions := after.attendanceSessions })
    (rows : after.attendanceSessions.rows = db.attendanceSessions.rows ++ [session])
    (row : AttendanceRecord K) (inside : row ∈ db.attendanceRecords) :
    OwnedSession after professorId row.sessionId ↔ OwnedSession db professorId row.sessionId := by
  have owned := owned_sessions db after professorId frame
  have stored : ∀ other, other ∈ after.attendanceSessions ↔
      other ∈ db.attendanceSessions ∨ other = session := by
    simp [Table.mem_rows, rows]
  constructor
  · rintro ⟨other, member, same, own⟩
    rcases (stored other).mp member with old | rfl
    · exact ⟨other, old, same, (owned _).mp own⟩
    · refine absurd ?_ fresh
      rw [same]
      exact List.mem_append_right _ (List.mem_map.mpr ⟨row, inside, rfl⟩)
  · rintro ⟨other, member, same, own⟩
    exact ⟨other, (stored other).mpr (Or.inl member), same, (owned _).mpr own⟩

theorem foreign_opened (session : AttendanceSession) (mine : Owned db professorId session.courseId)
    (fresh : session.id ∉ sessionIds db)
    (frame : after = { db with attendanceSessions := after.attendanceSessions })
    (rows : after.attendanceSessions.rows = db.attendanceSessions.rows ++ [session]) :
    foreign after professorId = foreign db professorId := by
  apply foreign_sessions db after professorId frame
  · intro other others
    rw [Table.mem_rows, rows, List.mem_append, List.mem_singleton]
    refine or_iff_left ?_
    rintro rfl
    exact others mine
  · exact ownedSession_opened db after professorId session fresh frame rows

theorem closeRow_courseId (id : Uuid) (now : Instant) (session : AttendanceSession) :
    (closeRow id now session).courseId = session.courseId := by
  unfold closeRow
  split <;> rfl

theorem mem_closed (id : Uuid) (now : Instant)
    (rows : after.attendanceSessions.rows = db.attendanceSessions.rows.map (closeRow id now))
    (other : AttendanceSession) : other ∈ after.attendanceSessions ↔
      ∃ old ∈ db.attendanceSessions, closeRow id now old = other := by
  rw [Table.mem_rows, rows, List.mem_map]
  rfl

theorem ownedSession_closed (id : Uuid) (now : Instant)
    (frame : after = { db with attendanceSessions := after.attendanceSessions })
    (rows : after.attendanceSessions.rows = db.attendanceSessions.rows.map (closeRow id now))
    (sessionId : Uuid) :
    OwnedSession after professorId sessionId ↔ OwnedSession db professorId sessionId := by
  have owned := owned_sessions db after professorId frame
  have stored := mem_closed db after id now rows
  constructor
  · rintro ⟨other, member, same, own⟩
    obtain ⟨old, earlier, rfl⟩ := (stored other).mp member
    rw [closeRow_courseId] at own
    exact ⟨old, earlier, (closeRow_id _ _ _).symm.trans same, (owned _).mp own⟩
  · rintro ⟨old, earlier, same, own⟩
    refine ⟨_, (stored _).mpr ⟨old, earlier, rfl⟩, (closeRow_id _ _ _).trans same, ?_⟩
    rw [closeRow_courseId]
    exact (owned _).mpr own

theorem foreign_closed (session : AttendanceSession) (now : Instant)
    (inside : session ∈ db.attendanceSessions) (mine : Owned db professorId session.courseId)
    (frame : after = { db with attendanceSessions := after.attendanceSessions })
    (rows : after.attendanceSessions.rows = db.attendanceSessions.rows.map (closeRow session.id now)) :
    foreign after professorId = foreign db professorId := by
  have stored := mem_closed db after session.id now rows
  have untouched : ∀ old ∈ db.attendanceSessions, ¬ Owned db professorId old.courseId →
      closeRow session.id now old = old := by
    intro old member others
    refine if_neg fun same => others ?_
    rwa [session_eq_of_id _ old session member inside same]
  apply foreign_sessions db after professorId frame
  · intro other others
    rw [stored]
    constructor
    · rintro ⟨old, member, rfl⟩
      rw [closeRow_courseId] at others
      rwa [untouched old member others]
    · exact fun member => ⟨other, member, untouched other member others⟩
  · exact fun row _ => ownedSession_closed db after professorId session.id now frame rows row.sessionId

theorem foreign_recorded (session : AttendanceSession) (studentId : Uuid)
    (record : AttendanceRecord K) (mine : OwnedSession db professorId session.id)
    (recorded : Recorded db after session studentId record) :
    foreign after professorId = foreign db professorId := by
  obtain ⟨middle, data, upserted, similarity, message, announced⟩ := recorded.upserted
  rw [announced.frame]
  apply foreign_records db middle professorId upserted.frame
  intro row others
  rw [upserted.rows row]
  constructor
  · rintro (rfl | ⟨old, _⟩)
    · exact absurd (upserted.ofSession ▸ mine) others
    · exact old
  · exact fun old => Or.inr ⟨old, fun same => others (same.1 ▸ mine)⟩

theorem foreign_linked (middle : Database K) (courseId : Uuid) (input : ResolveInput)
    (student : Student) (created : Bool) (result : ResolveResult)
    (mine : Owned db professorId courseId) (resolved : Resolved db middle input student created)
    (linked : Linked middle courseId student created result after) :
    foreign after professorId = foreign db professorId := by
  have roster : foreign middle professorId = foreign db professorId := by
    rw [resolved.frame]
    rfl
  cases linked with
  | already => exact roster
  | new enrollment message between _ absent ofCourse ofStudent course frame rows announced =>
      rw [announced.frame, ← roster]
      apply foreign_enrollments middle between professorId frame
      intro row others
      rw [Table.mem_rows, rows, List.mem_append, List.mem_singleton]
      refine or_iff_left ?_
      rintro rfl
      apply others
      rw [ofCourse, resolved.frame]
      exact mine

theorem foreign_jobCreated (courseId : Uuid) (rows : List BulkImportRow) (job : ImportJob)
    (mine : Owned db professorId courseId) (created : JobCreated db after courseId rows job) :
    foreign after professorId = foreign db professorId := by
  obtain ⟨middle, message, frame, appended, announced⟩ := created.announced
  rw [announced.frame]
  apply foreign_jobs db middle professorId frame
  intro other others
  rw [Table.mem_rows, appended, List.mem_append, List.mem_singleton]
  refine or_iff_left ?_
  rintro rfl
  exact others (created.course ▸ mine)

end Writes

/-- Of the rows of others only those of the students `gone` are gone. -/
def Spares (professorId : Uuid) (before after : Platform K) (gone : List Uuid) : Prop :=
  after.deleted = before.deleted ++ gone ∧
    foreign after.db professorId = (foreign before.db professorId).without gone

theorem spares_refl (professorId : Uuid) (platform : Platform K) :
    Spares professorId platform platform [] := by
  simp [Spares]

theorem spares_trans {professorId : Uuid} {first second third : Platform K}
    {gone later : List Uuid} (before : Spares professorId first second gone)
    (after : Spares professorId second third later) :
    Spares professorId first third (gone ++ later) := by
  refine ⟨?_, ?_⟩
  · rw [after.1, before.1, List.append_assoc]
  · rw [after.2, before.2, without_append]

section Handlers

variable (actor : AuthContext) (limited : actor.role ≠ .ADMIN) (met : Circumstances K)
  (platform : Platform K)

theorem read_ok {α : Type} (result : Except Failure α) (value : α)
    (read : met.read result = .ok value) : result = .ok value := by
  unfold Circumstances.read at read
  split at read
  · cases read
  · exact read

theorem provided_spares {α : Type} (professorId : Uuid) (check : Except Failure α)
    (next : α → Reply K × Platform K)
    (spares : ∀ value, check = .ok value → Spares professorId platform (next value).2 []) :
    Spares professorId platform (provided check platform next).2 [] := by
  unfold provided
  split
  · exact spares_refl professorId platform
  · exact spares _ rfl

theorem transact_db {α : Type} (body : Statement K α) (failed : Failure → Failure)
    (amend : Platform K → Platform K) (answer : Platform K → α → Reply K)
    (amends : ∀ after, (amend after).db = after.db) :
    (transact body failed amend answer met platform).2.db =
      (transaction body met.fate.chances met.fate.ending platform.db).2 := by
  unfold transact
  dsimp only
  split <;> split <;> simp [amends]

theorem transact_deleted {α : Type} (body : Statement K α) (failed : Failure → Failure)
    (amend : Platform K → Platform K) (answer : Platform K → α → Reply K) (gone : List Uuid)
    (amends : ∀ after, (amend after).deleted = after.deleted ++ gone) :
    (transact body failed amend answer met platform).2.deleted = platform.deleted ++
      if commits body met.fate.chances met.fate.ending platform.db then gone else [] := by
  unfold transact
  dsimp only
  split <;> split <;> simp [amends]

/-- A transaction that commits leaves what its body leaves, and any other nothing. -/
theorem transact_spares {α : Type} (professorId : Uuid) (body : Statement K α)
    (failed : Failure → Failure) (amend : Platform K → Platform K)
    (answer : Platform K → α → Reply K) (gone : List Uuid)
    (amends : ∀ after, (amend after).db = after.db ∧ (amend after).deleted = after.deleted ++ gone)
    (leaves : Triple (· = platform.db) body fun _ after =>
      foreign after professorId = (foreign platform.db professorId).without gone) :
    ∃ less, (less = [] ∨ less = gone) ∧
      Spares professorId platform (transact body failed amend answer met platform).2 less := by
  have db := transact_db met platform body failed amend answer fun after => (amends after).1
  have deleted :=
    transact_deleted met platform body failed amend answer gone fun after => (amends after).2
  cases committed : commits body met.fate.chances met.fate.ending platform.db with
  | false =>
      rw [committed] at deleted
      rw [transaction_aborted _ _ _ _ committed] at db
      exact ⟨[], Or.inl rfl, deleted, by rw [db, without_nil]⟩
  | true =>
      rw [committed] at deleted
      obtain ⟨_, left⟩ := transaction_committed _ _ _ _ _ leaves committed
      exact ⟨gone, Or.inr rfl, deleted, by rw [db, left]⟩

theorem transact_own {α : Type} (professorId : Uuid) (body : Statement K α)
    (failed : Failure → Failure) (amend : Platform K → Platform K)
    (answer : Platform K → α → Reply K)
    (amends : ∀ after, (amend after).db = after.db ∧ (amend after).deleted = after.deleted)
    (leaves : Triple (· = platform.db) body fun _ after =>
      foreign after professorId = foreign platform.db professorId) :
    Spares professorId platform (transact body failed amend answer met platform).2 [] := by
  obtain ⟨less, either, spares⟩ := transact_spares met platform professorId body failed amend answer []
    (fun after => ⟨(amends after).1, by simp [amends]⟩) (by simpa using leaves)
  rcases either with rfl | rfl <;> exact spares

theorem owned_course (limited : actor.role ≠ .ADMIN) (id : Uuid) (course : Course)
    (passed : met.read (getCourseForActor platform.db id actor) = .ok course) :
    Owned platform.db actor.userId id := by
  obtain ⟨stored, same, either⟩ := getCourse_ok platform.db id actor course (read_ok met _ _ passed)
  exact ⟨course, stored, same, either.resolve_left limited⟩

theorem owned_session (limited : actor.role ≠ .ADMIN) (id : Uuid) (session : AttendanceSession)
    (passed : getSessionForActor platform.db id actor = .ok session) :
    OwnedSession platform.db actor.userId id := by
  obtain ⟨stored, same, either⟩ := getSession_ok platform.db id actor session passed
  exact ⟨session, stored, same, either.resolve_left limited⟩

theorem owned_openSession (limited : actor.role ≠ .ADMIN) (id : Uuid) (refusal : String)
    (session : AttendanceSession)
    (passed : met.read (openSessionForActor platform.db id actor refusal) = .ok session) :
    OwnedSession platform.db actor.userId session.id := by
  obtain ⟨fetched, _⟩ := openSession_ok _ _ _ _ _ (read_ok met _ _ passed)
  obtain ⟨_, same, _⟩ := getSession_ok _ _ _ _ fetched
  exact same ▸ owned_session actor platform limited id session fetched

section Bodies

variable (db : Database K) (professorId : Uuid) (uuids : UuidSource) (users : Table User.clash)

theorem createCourseRow_foreign (code title : String) :
    Triple (· = db) (createCourseRow uuids users code title professorId) fun _ after =>
      foreign after professorId = foreign db professorId := by
  refine triple_imp _ _ (createCourseRow_spec uuids users db code title professorId) ?_
  rintro course after ⟨mine, fresh, frame, rows⟩
  exact foreign_created _ _ _ course mine fresh frame rows

theorem updateCourseRow_foreign (id : Uuid) (data : UpdateCourseInput)
    (unassigned : data.professorId = none) (mine : Owned db professorId id) :
    Triple (· = db) (updateCourseRow users id data) fun _ after =>
      foreign after professorId = foreign db professorId := by
  refine triple_imp _ _ (updateCourseRow_spec users db id data) ?_
  rintro _ after ⟨frame, rows⟩
  exact foreign_updated _ _ _ id data unassigned mine frame rows

theorem deleteCourseRow_foreign (id : Uuid) (mine : Owned db professorId id) :
    Triple (· = db) (deleteCourseRow id) fun _ after =>
      foreign after professorId = foreign db professorId := by
  refine triple_imp _ _ (deleteCourseRow_spec db id) ?_
  rintro _ after rfl
  exact foreign_deleted _ _ id mine

theorem resolveAndLinkStudent_foreign (now : Instant) (courseId : Uuid) (input : ResolveInput)
    (mine : Owned db professorId courseId) :
    Triple (· = db) (resolveAndLinkStudent uuids now courseId input) fun _ after =>
      foreign after professorId = foreign db professorId := by
  refine triple_imp _ _ (resolveAndLinkStudent_spec uuids now courseId input db) ?_
  rintro result after ⟨middle, student, created, resolved, linked⟩
  exact foreign_linked _ _ _ middle courseId input student created result mine resolved linked

theorem deleteEnrollmentRow_foreign (courseId studentId : Uuid)
    (mine : Owned db professorId courseId) :
    Triple (· = db) (deleteEnrollmentRow courseId studentId) fun _ after =>
      foreign after professorId = foreign db professorId := by
  refine triple_imp _ _ (deleteEnrollmentRow_spec db courseId studentId) ?_
  rintro _ after ⟨enrollment, stored, rfl, rfl⟩
  exact foreign_unenrolled _ _ enrollment stored mine

theorem createBulkImportJobTx_foreign (now : Instant) (courseId actorId : Uuid)
    (rows : List BulkImportRow) (mine : Owned db professorId courseId) :
    Triple (· = db) (createBulkImportJobTx uuids now courseId actorId rows) fun _ after =>
      foreign after professorId = foreign db professorId := by
  refine triple_imp _ _ (createBulkImportJobTx_spec uuids now courseId actorId rows db) ?_
  intro job after created
  exact foreign_jobCreated _ _ _ courseId rows job mine created

theorem createSessionRow_foreign (courseId createdById : Uuid)
    (mine : Owned db professorId courseId) :
    Triple (· = db) (createSessionRow uuids users courseId createdById) fun _ after =>
      foreign after professorId = foreign db professorId := by
  refine triple_imp _ _ (createSessionRow_spec uuids users courseId createdById db) ?_
  rintro session after ⟨rfl, fresh, frame, rows⟩
  exact foreign_opened _ _ _ session mine fresh frame rows

theorem closeUpdate_foreign (id : Uuid) (now : Instant) (mine : OwnedSession db professorId id) :
    Triple (· = db) (closeUpdate id now) fun _ after =>
      foreign after professorId = foreign db professorId := by
  refine triple_imp _ _ (closeUpdate_spec id now db) ?_
  rintro _ after ⟨frame, rows⟩
  obtain ⟨session, stored, rfl, own⟩ := mine
  exact foreign_closed _ _ _ session now stored own frame rows

theorem recordAttendance_foreign (now : Instant) (session : AttendanceSession) (studentId : Uuid)
    (data : RecordData K) (mine : OwnedSession db professorId session.id) :
    Triple (· = db) (recordAttendance uuids now session studentId data) fun _ after =>
      foreign after professorId = foreign db professorId := by
  refine triple_imp _ _ (recordAttendance_spec uuids now session studentId data db) ?_
  intro record after recorded
  exact foreign_recorded _ _ _ session studentId record mine recorded

end Bodies

section Courses

variable (uuids : UuidSource)

theorem createCourse_spares (limited : actor.role ≠ .ADMIN) (input : CreateCourseInput) :
    Spares actor.userId platform (createCourse uuids actor input met platform).2 [] := by
  unfold createCourse
  dsimp only
  rw [if_neg limited]
  apply transact_own met platform
  · exact fun _ => ⟨rfl, rfl⟩
  · exact createCourseRow_foreign platform.db actor.userId uuids _ _ _

theorem updateCourse_spares (limited : actor.role ≠ .ADMIN) (id : Uuid)
    (input : UpdateCourseInput) :
    Spares actor.userId platform (updateCourse actor id input met platform).2 [] := by
  apply provided_spares
  intro course passed
  rw [if_neg limited]
  apply transact_own met platform
  · exact fun _ => ⟨rfl, rfl⟩
  · exact updateCourseRow_foreign platform.db actor.userId _ id _ rfl
      (owned_course actor met platform limited id course passed)

theorem deleteCourse_spares (limited : actor.role ≠ .ADMIN) (id : Uuid) :
    Spares actor.userId platform (deleteCourse actor id met platform).2 [] := by
  apply provided_spares
  intro course passed
  apply transact_own met platform
  · exact fun _ => ⟨rfl, rfl⟩
  · exact deleteCourseRow_foreign platform.db actor.userId id
      (owned_course actor met platform limited id course passed)

theorem enrollStudent_spares (limited : actor.role ≠ .ADMIN) (courseId : Uuid)
    (input : ResolveInput) :
    Spares actor.userId platform (enrollStudent uuids actor courseId input met platform).2 [] := by
  apply provided_spares
  intro course passed
  apply transact_own met platform
  · exact fun _ => ⟨rfl, rfl⟩
  · exact resolveAndLinkStudent_foreign platform.db actor.userId uuids met.now courseId input
      (owned_course actor met platform limited courseId course passed)

theorem unenrollStudent_spares (limited : actor.role ≠ .ADMIN) (courseId studentId : Uuid) :
    Spares actor.userId platform (unenrollStudent actor courseId studentId met platform).2 [] := by
  apply provided_spares
  intro course passed
  apply transact_own met platform
  · exact fun _ => ⟨rfl, rfl⟩
  · exact deleteEnrollmentRow_foreign platform.db actor.userId courseId studentId
      (owned_course actor met platform limited courseId course passed)

theorem bulkEnroll_spares (limited : actor.role ≠ .ADMIN) (courseId : Uuid)
    (rows : List BulkImportRow) :
    Spares actor.userId platform (bulkEnroll uuids actor courseId rows met platform).2 [] := by
  apply provided_spares
  intro course passed
  apply transact_own met platform
  · exact fun _ => ⟨rfl, rfl⟩
  · exact createBulkImportJobTx_foreign platform.db actor.userId uuids met.now courseId _ rows
      (owned_course actor met platform limited courseId course passed)

end Courses

section Sessions

variable (uuids : UuidSource)

theorem openSession_spares (limited : actor.role ≠ .ADMIN) (courseId : Uuid) :
    Spares actor.userId platform (openSession uuids actor courseId met platform).2 [] := by
  apply provided_spares
  intro course passed
  apply transact_own met platform
  · exact fun _ => ⟨rfl, rfl⟩
  · exact createSessionRow_foreign platform.db actor.userId uuids _ courseId _
      (owned_course actor met platform limited courseId course passed)

theorem closeSession_spares (limited : actor.role ≠ .ADMIN) (id : Uuid) :
    Spares actor.userId platform (closeSession actor id met platform).2 [] := by
  apply provided_spares
  intro session passed
  split
  · exact spares_refl _ _
  · apply transact_own met platform
    · exact fun _ => ⟨rfl, rfl⟩
    · exact closeUpdate_foreign platform.db actor.userId id met.now
        (owned_session actor platform limited id session (read_ok met _ _ passed))

theorem markAttendance_spares (limited : actor.role ≠ .ADMIN) (sessionId : Uuid)
    (input : MarkAttendanceInput) :
    Spares actor.userId platform (markAttendance uuids actor sessionId input met platform).2 [] := by
  apply provided_spares
  intro session passed
  apply transact_own met platform
  · exact fun _ => ⟨rfl, rfl⟩
  · exact recordAttendance_foreign platform.db actor.userId uuids met.now session _ _
      (owned_openSession actor met platform limited _ _ session passed)

theorem identify_spares [Ring K] [LinearOrder K] (vision : Vision K) (threshold : K)
    (limited : actor.role ≠ .ADMIN) (sessionId : Uuid) :
    Spares actor.userId platform
      (identify uuids actor vision threshold sessionId met platform).2 [] := by
  apply provided_spares
  intro session passed
  apply provided_spares
  intro embedding _
  dsimp only
  split
  · exact spares_refl _ _
  · apply transact_own met platform
    · exact fun _ => ⟨rfl, rfl⟩
    · exact recordAttendance_foreign platform.db actor.userId uuids met.now session _ _
        (owned_openSession actor met platform limited _ _ session passed)

end Sessions

section Students

variable (uuids : UuidSource)

theorem foreign_roster (db after : Database K) (professorId : Uuid)
    (frame : after = { db with
      students := after.students, faceEmbeddings := after.faceEmbeddings }) :
    foreign after professorId = foreign db professorId := by
  rw [frame]
  rfl

theorem createStudent_spares (input : CreateStudentInput) :
    Spares actor.userId platform (Api.createStudent uuids input met platform).2 [] := by
  apply transact_own met platform
  · exact fun _ => ⟨rfl, rfl⟩
  · refine triple_imp _ _ (createStudent_frame platform.db uuids _ _ _) fun _ after frame => ?_
    exact foreign_roster _ _ _ (by rw [frame])

theorem updateStudent_spares (id : Uuid) (input : UpdateStudentInput) :
    Spares actor.userId platform (updateStudent id input met platform).2 [] := by
  apply transact_own met platform
  · exact fun _ => ⟨rfl, rfl⟩
  · refine triple_imp _ _ (updateStudentRow_spec platform.db id input) fun _ after frame => ?_
    exact foreign_roster _ _ _ (by rw [frame])

/-- The one request that reaches rows of others: by the cascades of its student. -/
theorem deleteStudent_spares (id : Uuid) :
    ∃ gone, (gone = [] ∨ gone = [id]) ∧
      Spares actor.userId platform (deleteStudent id met platform).2 gone := by
  apply transact_spares met platform
  · exact fun _ => ⟨rfl, rfl⟩
  · refine triple_imp _ _ (deleteStudentRow_spec platform.db id) ?_
    rintro _ after rfl
    exact foreign_studentDeleted _ _ id

theorem enrollFace_spares (codec : Codec) (studentId : Uuid) (file : UploadedImage) :
    Spares actor.userId platform (enrollFace uuids codec studentId file met platform).2 [] := by
  apply provided_spares
  intro student _
  dsimp only
  split
  · exact spares_refl _ _
  · split
    · split
      · split
        · exact ⟨by simp, by simp⟩
        · exact spares_refl _ _
      · exact spares_refl _ _
    · apply provided_spares
      intro face _
      apply transact_own met platform
      · exact fun _ => ⟨rfl, rfl⟩
      · refine triple_imp _ _ (insertEmbedding_frame platform.db studentId uuids _ _ _)
          fun _ after frame => ?_
        exact foreign_roster _ _ _ (by rw [frame])

theorem removeFace_spares (studentId embeddingId : Uuid) :
    Spares actor.userId platform (removeFace studentId embeddingId met platform).2 [] := by
  apply provided_spares
  intro student _
  apply transact_own met platform
  · exact fun _ => ⟨rfl, rfl⟩
  · refine triple_imp _ _ (deleteEmbedding_spec platform.db studentId embeddingId)
      fun _ after frame => ?_
    exact foreign_roster _ _ _ (by rw [frame])

end Students

end Handlers

section Runs

variable [Ring K] [LinearOrder K] (setting : Setting K) (actor : AuthContext)

/-- What a request removes below the courses of others, it removes with a student. -/
theorem handle_spares (limited : actor.role ≠ .ADMIN) (request : Request) (met : Circumstances K)
    (platform : Platform K) :
    ∃ gone, Spares actor.userId platform (handle setting actor request met platform).2 gone ∧
      ∀ id ∈ gone, request = .deleteStudent id := by
  -- All but one of the requests remove nothing.
  have none_gone : ∀ done : Reply K × Platform K, Spares actor.userId platform done.2 [] →
      ∃ gone, Spares actor.userId platform done.2 gone ∧
        ∀ id ∈ gone, request = .deleteStudent id :=
    fun _ spares => ⟨[], spares, by simp⟩
  have reads : ∀ {α : Type} (check : Except Failure α) (next : α → Reply K × Platform K),
      (∀ value, (next value).2 = platform) →
        Spares actor.userId platform (provided check platform next).2 [] := by
    intro α check next same
    apply provided_spares
    intro value _
    rw [same]
    exact spares_refl _ _
  cases request with
  | deleteStudent id =>
      obtain ⟨gone, either, spares⟩ := deleteStudent_spares actor met platform id
      refine ⟨gone, spares, fun other member => ?_⟩
      rcases either with rfl | rfl
      · simp at member
      · rw [List.mem_singleton.mp member]
  | listCourses query => exact none_gone _ (spares_refl _ _)
  | createCourse input => exact none_gone _ (createCourse_spares actor met platform _ limited input)
  | getCourse id => exact none_gone _ (reads _ _ fun _ => rfl)
  | updateCourse id input => exact none_gone _ (updateCourse_spares actor met platform limited id input)
  | deleteCourse id => exact none_gone _ (deleteCourse_spares actor met platform limited id)
  | listEnrollments courseId query => exact none_gone _ (reads _ _ fun _ => rfl)
  | enrollStudent courseId input =>
      exact none_gone _ (enrollStudent_spares actor met platform _ limited courseId input)
  | bulkEnroll courseId rows =>
      exact none_gone _ (bulkEnroll_spares actor met platform _ limited courseId rows)
  | getImportJob courseId jobId =>
      refine none_gone _ (provided_spares platform _ _ _ fun _ _ => ?_)
      exact reads _ _ fun _ => rfl
  | unenrollStudent courseId studentId =>
      exact none_gone _ (unenrollStudent_spares actor met platform limited courseId studentId)
  | openSession courseId =>
      exact none_gone _ (openSession_spares actor met platform _ limited courseId)
  | listSessions courseId query => exact none_gone _ (reads _ _ fun _ => rfl)
  | getSession id => exact none_gone _ (reads _ _ fun _ => rfl)
  | closeSession id => exact none_gone _ (closeSession_spares actor met platform limited id)
  | markAttendance sessionId input =>
      exact none_gone _ (markAttendance_spares actor met platform _ limited sessionId input)
  | identify sessionId =>
      exact none_gone _ (identify_spares actor met platform _ _ _ limited sessionId)
  | listRecords sessionId query => exact none_gone _ (reads _ _ fun _ => rfl)
  | listStudents query => exact none_gone _ (spares_refl _ _)
  | createStudent input => exact none_gone _ (createStudent_spares actor met platform _ input)
  | getStudent id => exact none_gone _ (reads _ _ fun _ => rfl)
  | updateStudent id input => exact none_gone _ (updateStudent_spares actor met platform id input)
  | enrollFace studentId file =>
      exact none_gone _ (enrollFace_spares actor met platform _ _ studentId file)
  | listFaces studentId => exact none_gone _ (reads _ _ fun _ => rfl)
  | removeFace studentId embeddingId =>
      exact none_gone _ (removeFace_spares actor met platform studentId embeddingId)

theorem serve_spares (limited : actor.role ≠ .ADMIN) (request : Request) (met : Circumstances K)
    (platform : Platform K) :
    ∃ gone, Spares actor.userId platform (serve setting actor request met platform).2 gone ∧
      ∀ id ∈ gone, request = .deleteStudent id := by
  unfold serve
  dsimp only
  split
  · exact ⟨[], spares_refl _ _, by simp⟩
  · exact handle_spares setting actor limited request met platform

/-- No sequence of requests of a professor creates, changes or deletes a row of
a course of others, except that the enrollments and the records of the students
they deleted are gone. -/
theorem others_keep_rows (limited : actor.role ≠ .ADMIN)
    (requests : List (Request × Circumstances K)) (platform : Platform K) :
    ∃ gone, (serveAll setting actor requests platform).2.deleted = platform.deleted ++ gone ∧
      (∀ id ∈ gone, ∃ met, (Request.deleteStudent id, met) ∈ requests) ∧
      foreign (serveAll setting actor requests platform).2.db actor.userId =
        (foreign platform.db actor.userId).without gone := by
  induction requests generalizing platform with
  | nil => exact ⟨[], by simp [serveAll], by simp, by simp [serveAll]⟩
  | cons first rest ih =>
      obtain ⟨request, met⟩ := first
      obtain ⟨gone, before, asked⟩ := serve_spares setting actor limited request met platform
      obtain ⟨later, deleted, requested, left⟩ := ih (serve setting actor request met platform).2
      have whole := spares_trans before ⟨deleted, left⟩
      refine ⟨gone ++ later, whole.1, fun id member => ?_, whole.2⟩
      rcases List.mem_append.mp member with early | late
      · exact ⟨met, by simp [asked id early]⟩
      · obtain ⟨other, inside⟩ := requested id late
        exact ⟨other, List.mem_cons_of_mem _ inside⟩

end Runs

section Neighbours

/-- Professor 8 teaches student 1; professor 7 has no course. -/
def neighbours : Platform ℤ where
  db :=
    { students := .single ⟨1, "S-1", "Ada", none, none⟩
      faceEmbeddings := .empty
      courses := .single ⟨2, "CS-1", "Logic", 8⟩
      courseEnrollments := .single ⟨3, 2, 1⟩
      importJobs := .empty
      attendanceSessions := .empty
      attendanceRecords := .empty
      outboxMessages := .empty }
  users := .single ⟨7, "seven@school", "", .PROFESSOR, true⟩
  stamps :=
    { students := fun _ => ⟨0, 0⟩
      courses := fun _ => ⟨0, 0⟩
      importJobs := fun _ => ⟨0, 0⟩
      courseEnrollments := fun _ => 0
      faceEmbeddings := fun _ => 0
      attendanceSessions := fun _ => 0 }
  queued := []
  deleted := []

def school : Setting ℤ where
  config := .least
  uuids := UuidSource.counting
  codec := ⟨fun _ => "", fun _ => [], fun _ => ""⟩
  contains := fun text search => text == search
  vision := ⟨fun _ _ => .real 0⟩
  threshold := 0

def professor : AuthContext := ⟨7, .PROFESSOR, "jti", 1000⟩

def calmly : Circumstances ℤ := { now := 10, requestId := "r", extraction := .error (.other "unused") }

/-- Professor 7 deletes a student, opens a course and tries to rename the other's. -/
def visit : List (Request × Circumstances ℤ) :=
  [(.deleteStudent 1, calmly), (.createCourse { code := "CS-2", title := "Vision" }, calmly),
    (.updateCourse 2 { title := some "Taken" }, calmly)]

theorem others_keep_rows_visit :
    ∃ gone, (serveAll school professor visit neighbours).2.deleted = [] ++ gone ∧
      (∀ id ∈ gone, ∃ met, (Request.deleteStudent id, met) ∈ visit) ∧
      foreign (serveAll school professor visit neighbours).2.db 7 =
        (foreign neighbours.db 7).without gone :=
  others_keep_rows school professor (by decide) visit neighbours

/-- With the student, professor 7 deletes the enrollment in professor 8's course. -/
theorem professor_clears_roster :
    professor.role ≠ .ADMIN ∧
      (⟨3, 2, 1⟩ : CourseEnrollment) ∈ (foreign neighbours.db 7).courseEnrollments ∧
      (⟨3, 2, 1⟩ : CourseEnrollment) ∉
        (foreign (serveAll school professor [(.deleteStudent 1, calmly)] neighbours).2.db
          7).courseEnrollments := by
  refine ⟨by decide, ⟨by decide, ?_⟩, fun kept => ?_⟩
  · rintro ⟨course, member, _, owner⟩
    rw [List.mem_singleton.mp member] at owner
    contradiction
  · exact absurd kept.1 (by decide)

end Neighbours

end FaceVec.Api

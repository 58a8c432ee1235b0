import FaceVec.Api.Ownership

/-!
What a professor can see of the database: their own courses with the rows below
them, the roster, and of the courses of others the ids and codes in use. Each
write is a function of this view.
-/

namespace FaceVec.Api

open Attendance Courses

variable {K : Type}

/-- The rows of a professor's own courses, and what is known of the others.
The ids of import jobs are not part of it. -/
@[ext] structure View (K : Type) where
  students : Table Student.clash
  faceEmbeddings : Table (FaceEmbedding.clash (K := K))
  courses : List Course
  courseEnrollments : List CourseEnrollment
  importJobs : List ImportJob
  attendanceSessions : List AttendanceSession
  attendanceRecords : List (AttendanceRecord K)
  courseIds : Set Uuid
  codes : Set String
  sessionIds : Set Uuid

def keysOf {Row Key : Type} {clash : Row → Row → Bool} (table : Table clash) (key : Row → Key) :
    Set Key :=
  { value | ∃ row ∈ table, key row = value }

def view (db : Database K) (professorId : Uuid) : View K where
  students := db.students
  faceEmbeddings := db.faceEmbeddings
  courses := db.courses.rows.filter (·.professorId = professorId)
  courseEnrollments := db.courseEnrollments.rows.filter (Owned db professorId ·.courseId)
  importJobs := db.importJobs.rows.filter (Owned db professorId ·.courseId)
  attendanceSessions := db.attendanceSessions.rows.filter (Owned db professorId ·.courseId)
  attendanceRecords := db.attendanceRecords.rows.filter (OwnedSession db professorId ·.sessionId)
  courseIds := keysOf db.courses (·.id)
  codes := keysOf db.courses (·.code)
  sessionIds := keysOf db.attendanceSessions (·.id)

section Members

variable (db : Database K) (professorId : Uuid)

theorem mem_courses (course : Course) : course ∈ (view db professorId).courses ↔
    course ∈ db.courses ∧ course.professorId = professorId := by
  simp [view, Table.mem_rows]

theorem mem_courseEnrollments (row : CourseEnrollment) :
    row ∈ (view db professorId).courseEnrollments ↔
      row ∈ db.courseEnrollments ∧ Owned db professorId row.courseId := by
  simp [view, Table.mem_rows]

theorem mem_importJobs (job : ImportJob) : job ∈ (view db professorId).importJobs ↔
    job ∈ db.importJobs ∧ Owned db professorId job.courseId := by
  simp [view, Table.mem_rows]

theorem mem_sessions (session : AttendanceSession) :
    session ∈ (view db professorId).attendanceSessions ↔
      session ∈ db.attendanceSessions ∧ Owned db professorId session.courseId := by
  simp [view, Table.mem_rows]

theorem owned_view (courseId : Uuid) : Owned db professorId courseId ↔
    ∃ course ∈ (view db professorId).courses, course.id = courseId := by
  simp only [mem_courses, Owned]
  constructor
  · rintro ⟨course, stored, same, owner⟩
    exact ⟨course, ⟨stored, owner⟩, same⟩
  · rintro ⟨course, ⟨stored, owner⟩, same⟩
    exact ⟨course, stored, same, owner⟩

theorem ownedSession_view (sessionId : Uuid) : OwnedSession db professorId sessionId ↔
    ∃ session ∈ (view db professorId).attendanceSessions, session.id = sessionId := by
  simp only [mem_sessions, OwnedSession]
  constructor
  · rintro ⟨session, stored, same, own⟩
    exact ⟨session, ⟨stored, own⟩, same⟩
  · rintro ⟨session, ⟨stored, own⟩, same⟩
    exact ⟨session, stored, same, own⟩

end Members

section Keys

variable {Row Key : Type} {clash : Row → Row → Bool} (table after : Table clash) (key : Row → Key)

theorem keysOf_append (row : Row) (rows : after.rows = table.rows ++ [row]) :
    keysOf after key = insert (key row) (keysOf table key) := by
  ext value
  simp only [keysOf, Table.mem_rows, rows, List.mem_append, List.mem_singleton]
  constructor
  · rintro ⟨other, old | rfl, rfl⟩
    · exact Or.inr ⟨other, old, rfl⟩
    · exact Or.inl rfl
  · rintro (rfl | ⟨other, old, rfl⟩)
    · exact ⟨row, Or.inr rfl, rfl⟩
    · exact ⟨other, Or.inl old, rfl⟩

theorem keysOf_map (change : Row → Row) (keeps : ∀ row, key (change row) = key row)
    (rows : after.rows = table.rows.map change) : keysOf after key = keysOf table key := by
  ext value
  simp only [keysOf, Table.mem_rows, rows, List.mem_map]
  constructor
  · rintro ⟨_, ⟨row, old, rfl⟩, rfl⟩
    exact ⟨row, old, (keeps row).symm⟩
  · rintro ⟨row, old, rfl⟩
    exact ⟨change row, ⟨row, old, rfl⟩, keeps row⟩

theorem keysOf_delete (gone : Row → Bool)
    (keyed : ∀ a ∈ table, ∀ b ∈ table, key a = key b → a = b) :
    keysOf (table.delete gone) key =
      keysOf table key \ { value | ∃ row ∈ table, gone row = true ∧ key row = value } := by
  ext value
  constructor
  · rintro ⟨row, member, rfl⟩
    obtain ⟨stored, kept⟩ := (Table.mem_delete _ _ _).mp member
    refine ⟨⟨row, stored, rfl⟩, ?_⟩
    rintro ⟨other, inside, deleted, same⟩
    rw [keyed other inside row stored same, kept] at deleted
    contradiction
  · rintro ⟨⟨row, stored, rfl⟩, kept⟩
    refine ⟨row, (Table.mem_delete _ _ _).mpr ⟨stored, ?_⟩, rfl⟩
    rw [← Bool.not_eq_true]
    exact fun deleted => kept ⟨row, stored, deleted, rfl⟩

end Keys

section Finds

variable {Row : Type} (rows : List Row) (own wanted : Row → Bool)

theorem find_mine (implies : ∀ row ∈ rows, wanted row = true → own row = true) :
    rows.find? wanted = (rows.filter own).find? wanted := by
  rw [List.find?_filter]
  induction rows with
  | nil => rfl
  | cons row rest ih =>
      have later := ih fun other member => implies other (List.mem_cons_of_mem _ member)
      have first := implies row List.mem_cons_self
      cases found : wanted row with
      | true => simp [found, first found]
      | false => simp [found, later]

theorem filter_mine (implies : ∀ row, wanted row = true → own row = true) :
    rows.filter wanted = (rows.filter own).filter wanted := by
  rw [List.filter_filter]
  apply List.filter_congr
  intro row _
  cases found : wanted row with
  | true => simp [implies row found]
  | false => simp

/-- The rows below a parent of one's own are all one's own. -/
theorem filter_below (parent : Row → Uuid) (owned : Uuid → Prop) [DecidablePred owned] (id : Uuid)
    (mine : owned id) : rows.filter (parent · == id) =
      (rows.filter fun row => owned (parent row)).filter (parent · == id) := by
  apply filter_mine
  intro row wanted
  have same : parent row = id := by simpa using wanted
  simpa [same] using mine

end Finds

section Below

variable (db : Database K) (professorId : Uuid)

theorem enrollments_below (courseId : Uuid) (mine : Owned db professorId courseId) :
    db.courseEnrollments.rows.filter (·.courseId == courseId) =
      (view db professorId).courseEnrollments.filter (·.courseId == courseId) :=
  filter_below _ CourseEnrollment.courseId (Owned db professorId) courseId mine

theorem sessions_below (courseId : Uuid) (mine : Owned db professorId courseId) :
    db.attendanceSessions.rows.filter (·.courseId == courseId) =
      (view db professorId).attendanceSessions.filter (·.courseId == courseId) :=
  filter_below _ AttendanceSession.courseId (Owned db professorId) courseId mine

theorem records_below (sessionId : Uuid) (mine : OwnedSession db professorId sessionId) :
    db.attendanceRecords.rows.filter (·.sessionId == sessionId) =
      (view db professorId).attendanceRecords.filter (·.sessionId == sessionId) :=
  filter_below _ AttendanceRecord.sessionId (OwnedSession db professorId) sessionId mine

end Below

section Reads

variable {left right : Database K} {professorId : Uuid}
  (same : view left professorId = view right professorId)

include same

theorem owned_alike (courseId : Uuid) :
    Owned left professorId courseId ↔ Owned right professorId courseId := by
  rw [owned_view, owned_view, same]

theorem ownedSession_alike (sessionId : Uuid) :
    OwnedSession left professorId sessionId ↔ OwnedSession right professorId sessionId := by
  rw [ownedSession_view, ownedSession_view, same]

theorem findStudent_alike (id : Uuid) : findStudent left id = findStudent right id := by
  have students : left.students = right.students := congrArg View.students same
  rw [findStudent, findStudent, students]

theorem findStudentByNumber_alike (studentNumber : String) :
    findStudentByNumber left studentNumber = findStudentByNumber right studentNumber := by
  have students : left.students = right.students := congrArg View.students same
  rw [findStudentByNumber, findStudentByNumber, students]

theorem courseMissing_alike (id : Uuid) : (findCourse left id).isNone = (findCourse right id).isNone := by
  have ids : (∃ course ∈ left.courses, course.id = id) ↔ ∃ course ∈ right.courses, course.id = id :=
    Set.ext_iff.mp (congrArg View.courseIds same) id
  have missing : ∀ db : Database K,
      (findCourse db id).isNone = true ↔ ¬ ∃ course ∈ db.courses, course.id = id := by
    simp [findCourse, Table.mem_rows]
  rw [Bool.eq_iff_iff, missing, missing, ids]

theorem sessionMissing_alike (id : Uuid) :
    (findSession left id).isNone = (findSession right id).isNone := by
  have ids : (∃ session ∈ left.attendanceSessions, session.id = id) ↔
      ∃ session ∈ right.attendanceSessions, session.id = id :=
    Set.ext_iff.mp (congrArg View.sessionIds same) id
  have missing : ∀ db : Database K, (findSession db id).isNone = true ↔
      ¬ ∃ session ∈ db.attendanceSessions, session.id = id := by
    simp [findSession, Table.mem_rows]
  rw [Bool.eq_iff_iff, missing, missing, ids]

theorem findEnrollment_alike (courseId studentId : Uuid) (mine : Owned left professorId courseId) :
    findEnrollment left courseId studentId = findEnrollment right courseId studentId := by
  have own : ∀ db : Database K, Owned db professorId courseId →
      findEnrollment db courseId studentId = (view db professorId).courseEnrollments.find?
        fun row => row.courseId == courseId && row.studentId == studentId := by
    intro db mine
    apply find_mine
    intro row _ wanted
    obtain ⟨rfl, _⟩ : row.courseId = courseId ∧ row.studentId = studentId := by simpa using wanted
    simpa using mine
  rw [own left mine, own right ((owned_alike same courseId).mp mine), same]

theorem findRecord_alike (sessionId studentId : Uuid)
    (mine : OwnedSession left professorId sessionId) :
    findRecord left sessionId studentId = findRecord right sessionId studentId := by
  have own : ∀ db : Database K, OwnedSession db professorId sessionId →
      findRecord db sessionId studentId = (view db professorId).attendanceRecords.find?
        fun row => row.sessionId == sessionId && row.studentId == studentId := by
    intro db mine
    apply find_mine
    intro row _ wanted
    obtain ⟨rfl, _⟩ : row.sessionId = sessionId ∧ row.studentId = studentId := by
      simpa using wanted
    simpa using mine
  rw [own left mine, own right ((ownedSession_alike same sessionId).mp mine), same]

theorem findSession_alike (id : Uuid) (mine : OwnedSession left professorId id) :
    findSession left id = findSession right id := by
  have own : ∀ db : Database K, OwnedSession db professorId id →
      findSession db id = (view db professorId).attendanceSessions.find? (·.id == id) := by
    rintro db ⟨session, inside, rfl, ofCourse⟩
    apply find_mine
    intro row stored wanted
    have same : row.id = session.id := by simpa using wanted
    rw [session_eq_of_id _ row session stored inside same]
    simpa using ofCourse
  rw [own left mine, own right ((ownedSession_alike same id).mp mine), same]

theorem rosterFaces_alike (courseId : Uuid) (mine : Owned left professorId courseId) :
    rosterFaces left courseId = rosterFaces right courseId := by
  have faces : left.faceEmbeddings = right.faceEmbeddings := congrArg View.faceEmbeddings same
  unfold rosterFaces
  rw [faces]
  congr 1
  funext face
  rw [findStudent_alike same]
  cases findStudent right face.studentId with
  | none => rfl
  | some student =>
      dsimp only
      rw [findEnrollment_alike same courseId student.id mine]

theorem course_alike (course : Course) (stored : course ∈ left.courses)
    (mine : course.professorId = professorId) : course ∈ right.courses := by
  have inside := (mem_courses left professorId course).mpr ⟨stored, mine⟩
  rw [same] at inside
  exact ((mem_courses right professorId course).mp inside).1

end Reads

section Checks

variable (db : Database K) (actor : AuthContext) (limited : actor.role ≠ .ADMIN)

include limited

/-- The three answers to a professor who asks for a course. -/
theorem getCourse_eq (id : Uuid) :
    (∃ course ∈ (view db actor.userId).courses, course.id = id ∧
      getCourseForActor db id actor = .ok course) ∨
    (¬ Owned db actor.userId id ∧ getCourseForActor db id actor =
      if (findCourse db id).isNone then .error (.http (notFoundError "Course not found"))
      else .error (.http (forbiddenError "You do not have access to this course"))) := by
  unfold getCourseForActor
  cases lookup : findCourse db id with
  | none =>
      refine Or.inr ⟨?_, rfl⟩
      rintro ⟨course, stored, same, _⟩
      have absent := List.find?_eq_none.mp lookup course stored
      simp [same] at absent
  | some course =>
      have stored : course ∈ db.courses := List.mem_of_find?_eq_some lookup
      have same : course.id = id := by simpa using List.find?_some lookup
      by_cases mine : course.professorId = actor.userId
      · refine Or.inl ⟨course, (mem_courses _ _ _).mpr ⟨stored, mine⟩, same, ?_⟩
        simp [assertAccess, mine]
      · refine Or.inr ⟨?_, by simp [assertAccess, limited, mine]⟩
        rintro ⟨other, inside, sameId, owner⟩
        rw [course_eq_of_id db.courses other course inside stored (sameId.trans same.symm)] at owner
        exact mine owner

/-- The three answers to a professor who asks for a session. -/
theorem getSession_eq (id : Uuid) :
    (∃ session ∈ (view db actor.userId).attendanceSessions, session.id = id ∧
      getSessionForActor db id actor = .ok session) ∨
    (¬ OwnedSession db actor.userId id ∧ getSessionForActor db id actor =
      if (findSession db id).isNone then .error (.http (notFoundError "Session not found"))
      else .error (.http (forbiddenError "You do not have access to this session"))) := by
  unfold getSessionForActor
  cases lookup : findSession db id with
  | none =>
      refine Or.inr ⟨?_, rfl⟩
      rintro ⟨session, stored, same, _⟩
      have absent := List.find?_eq_none.mp lookup session stored
      simp [same] at absent
  | some session =>
      have stored : session ∈ db.attendanceSessions := List.mem_of_find?_eq_some lookup
      have same : session.id = id := by simpa using List.find?_some lookup
      have owner : (findCourse db session.courseId).map (·.professorId) = some actor.userId ↔
          Owned db actor.userId session.courseId := by
        rw [Option.map_eq_some_iff]
        constructor
        · rintro ⟨course, found, owner⟩
          exact ⟨course, List.mem_of_find?_eq_some found, by simpa using List.find?_some found, owner⟩
        · rintro ⟨course, inside, sameId, owner⟩
          cases found : findCourse db session.courseId with
          | none =>
              have absent := List.find?_eq_none.mp found course inside
              simp [sameId] at absent
          | some other =>
              have ofSession : other.id = session.courseId := by simpa using List.find?_some found
              rw [course_eq_of_id db.courses other course (List.mem_of_find?_eq_some found) inside
                (ofSession.trans sameId.symm)]
              exact ⟨course, rfl, owner⟩
      by_cases mine : Owned db actor.userId session.courseId
      · refine Or.inl ⟨session, (mem_sessions _ _ _).mpr ⟨stored, mine⟩, same, ?_⟩
        exact if_neg fun refused => refused.2 (owner.mpr mine)
      · refine Or.inr ⟨?_, if_pos ⟨limited, fun found => mine (owner.mp found)⟩⟩
        rintro ⟨other, inside, sameId, own⟩
        rw [session_eq_of_id _ other session inside stored (sameId.trans same.symm)] at own
        exact mine own

end Checks

section Alike

variable {left right : Database K} (actor : AuthContext) (limited : actor.role ≠ .ADMIN)
  (same : view left actor.userId = view right actor.userId)

include limited same

theorem getCourse_alike (id : Uuid) :
    getCourseForActor left id actor = getCourseForActor right id actor := by
  rcases getCourse_eq left actor limited id with ⟨course, inside, ofId, passed⟩ | ⟨apart, refused⟩
  · rcases getCourse_eq right actor limited id with ⟨other, inside', ofId', passed'⟩ | ⟨apart, _⟩
    · rw [← same] at inside'
      rw [passed, passed', course_eq_of_id left.courses course other
        ((mem_courses _ _ _).mp inside).1 ((mem_courses _ _ _).mp inside').1 (ofId.trans ofId'.symm)]
    · exact absurd ((owned_view _ _ id).mpr ⟨course, same ▸ inside, ofId⟩) apart
  · rcases getCourse_eq right actor limited id with ⟨other, inside, ofId, _⟩ | ⟨_, refused'⟩
    · exact absurd ((owned_view _ _ id).mpr ⟨other, same ▸ inside, ofId⟩) apart
    · rw [refused, refused', courseMissing_alike same]

theorem getSession_alike (id : Uuid) :
    getSessionForActor left id actor = getSessionForActor right id actor := by
  rcases getSession_eq left actor limited id with ⟨session, inside, ofId, passed⟩ | ⟨apart, refused⟩
  · rcases getSession_eq right actor limited id with ⟨other, inside', ofId', passed'⟩ | ⟨apart, _⟩
    · rw [← same] at inside'
      rw [passed, passed', session_eq_of_id left.attendanceSessions session other
        ((mem_sessions _ _ _).mp inside).1 ((mem_sessions _ _ _).mp inside').1
        (ofId.trans ofId'.symm)]
    · exact absurd ((ownedSession_view _ _ id).mpr ⟨session, same ▸ inside, ofId⟩) apart
  · rcases getSession_eq right actor limited id with ⟨other, inside, ofId, _⟩ | ⟨_, refused'⟩
    · exact absurd ((ownedSession_view _ _ id).mpr ⟨other, same ▸ inside, ofId⟩) apart
    · rw [refused, refused', sessionMissing_alike same]

theorem openSession_alike (id : Uuid) (refusal : String) :
    openSessionForActor left id actor refusal = openSessionForActor right id actor refusal := by
  unfold openSessionForActor
  rw [getSession_alike actor limited same]

end Alike

/-- A job of another course and a job that is not there answer alike. -/
theorem findJobOfCourse_eq (db : Database K) (professorId courseId jobId : Uuid)
    (mine : Owned db professorId courseId) :
    findJobOfCourse db courseId jobId =
      match (view db professorId).importJobs.find? fun job =>
        job.id == jobId && job.courseId == courseId with
      | some job => .ok job
      | none => .error (.http (notFoundError "Import job not found")) := by
  unfold findJobOfCourse
  have ofView : (view db professorId).importJobs.find?
      (fun job => job.id == jobId && job.courseId == courseId) =
      db.importJobs.rows.find? fun job => job.id == jobId && job.courseId == courseId := by
    refine (find_mine _ _ _ fun job _ wanted => ?_).symm
    obtain ⟨_, rfl⟩ : job.id = jobId ∧ job.courseId = courseId := by simpa using wanted
    simpa using mine
  rw [ofView]
  cases lookup : findImportJob db jobId with
  | none =>
      have absent : db.importJobs.rows.find?
          (fun job => job.id == jobId && job.courseId == courseId) = none := by
        rw [List.find?_eq_none]
        intro job stored
        have other := List.find?_eq_none.mp lookup job stored
        simp_all
      rw [absent]
  | some job =>
      have stored : job ∈ db.importJobs := List.mem_of_find?_eq_some lookup
      have ofId : job.id = jobId := by simpa using List.find?_some lookup
      cases found : db.importJobs.rows.find?
          (fun job => job.id == jobId && job.courseId == courseId) with
      | none =>
          have other := List.find?_eq_none.mp found job stored
          have apart : job.courseId ≠ courseId := by simpa [ofId] using other
          simp [apart]
      | some other =>
          obtain ⟨sameId, ofCourse⟩ : other.id = jobId ∧ other.courseId = courseId := by
            simpa using List.find?_some found
          obtain rfl := job_eq_of_id _ other job (List.mem_of_find?_eq_some found) stored
            (sameId.trans ofId.symm)
          simp [ofCourse]

theorem findJobOfCourse_alike {left right : Database K} {professorId : Uuid}
    (same : view left professorId = view right professorId) (courseId jobId : Uuid)
    (mine : Owned left professorId courseId) :
    findJobOfCourse left courseId jobId = findJobOfCourse right courseId jobId := by
  rw [findJobOfCourse_eq left professorId courseId jobId mine,
    findJobOfCourse_eq right professorId courseId jobId ((owned_alike same courseId).mp mine), same]

section Courses

variable (db after : Database K) (professorId : Uuid)

/-- Below the courses nothing changes unless a course comes or goes. -/
theorem view_courses (frame : after = { db with courses := after.courses })
    (owned : ∀ courseId ∈ courseIds db,
      (Owned after professorId courseId ↔ Owned db professorId courseId)) :
    view after professorId = { view db professorId with
      courses := (view after professorId).courses
      courseIds := (view after professorId).courseIds
      codes := (view after professorId).codes } := by
  have enrollments : after.courseEnrollments = db.courseEnrollments := by rw [frame]
  have jobs : after.importJobs = db.importJobs := by rw [frame]
  have sessions : after.attendanceSessions = db.attendanceSessions := by rw [frame]
  have records : after.attendanceRecords = db.attendanceRecords := by rw [frame]
  have ofSession : ∀ session ∈ db.attendanceSessions,
      (Owned after professorId session.courseId ↔ Owned db professorId session.courseId) :=
    fun session stored => owned _ (by
      simp only [courseIds, List.mem_append, List.mem_map]
      exact Or.inl (Or.inr ⟨session, stored, rfl⟩))
  refine View.ext (by rw [frame]; rfl) (by rw [frame]; rfl) rfl ?_ ?_ ?_ ?_ rfl rfl
    (by rw [frame]; rfl)
  · simp only [view, enrollments]
    refine List.filter_congr fun row stored => decide_eq_decide.mpr (owned _ ?_)
    simp only [courseIds, List.mem_append, List.mem_map]
    exact Or.inl (Or.inl (Or.inr ⟨row, stored, rfl⟩))
  · simp only [view, jobs]
    refine List.filter_congr fun job stored => decide_eq_decide.mpr (owned _ ?_)
    simp only [courseIds, List.mem_append, List.mem_map]
    exact Or.inr ⟨job, stored, rfl⟩
  · simp only [view, sessions]
    exact List.filter_congr fun session stored =>
      decide_eq_decide.mpr (ofSession session stored)
  · simp only [view, records]
    refine List.filter_congr fun row _ => decide_eq_decide.mpr ?_
    simp only [OwnedSession, sessions]
    exact exists_congr fun session => and_congr_right fun inside => and_congr_right fun _ =>
      ofSession session inside

theorem view_created (course : Course) (mine : course.professorId = professorId)
    (fresh : course.id ∉ courseIds db) (frame : after = { db with courses := after.courses })
    (rows : after.courses.rows = db.courses.rows ++ [course]) :
    view after professorId = { view db professorId with
      courses := (view db professorId).courses ++ [course]
      courseIds := insert course.id (view db professorId).courseIds
      codes := insert course.code (view db professorId).codes } := by
  rw [view_courses db after professorId frame (owned_created db after professorId course fresh rows)]
  refine View.ext rfl rfl ?_ rfl rfl rfl rfl ?_ ?_ rfl
  · simp [view, rows, mine]
  · exact keysOf_append _ _ _ course rows
  · exact keysOf_append _ _ _ course rows

theorem course_eq_of_code (courses : Table Course.clash) (a b : Course) (inA : a ∈ courses)
    (inB : b ∈ courses) (same : a.code = b.code) : a = b :=
  courses.eq_of_clash a b inA inB (by simp [Course.clash, same]) (by simp [Course.clash, same])

theorem view_updated (id : Uuid) (data : UpdateCourseInput) (unassigned : data.professorId = none)
    (course : Course) (stored : course ∈ db.courses) (ofId : course.id = id)
    (frame : after = { db with courses := after.courses })
    (rows : after.courses.rows = db.courses.rows.map (overwriteCourse id data)) :
    view after professorId = { view db professorId with
      courses := (view db professorId).courses.map (overwriteCourse id data)
      codes := insert (data.overwrite course).code
        ((view db professorId).codes \ {course.code}) } := by
  have keys := overwriteCourse_keys id data unassigned
  have members := mem_overwritten db after id data rows
  have untouched : ∀ other : Course, other ∈ db.courses → other ≠ course →
      overwriteCourse id data other = other := by
    intro other inside apart
    refine if_neg fun same => apart ?_
    exact course_eq_of_id db.courses other course inside stored (same.trans ofId.symm)
  have overwritten : overwriteCourse id data course = data.overwrite course := if_pos ofId
  rw [view_courses db after professorId frame fun courseId _ =>
    owned_updated db after professorId id data unassigned rows courseId]
  refine View.ext rfl rfl ?_ rfl rfl rfl rfl ?_ ?_ rfl
  · simp only [view, rows, List.filter_map]
    refine congrArg _ (List.filter_congr fun other _ => ?_)
    simp [keys]
  · exact keysOf_map _ _ _ _ (fun other => (keys other).1) rows
  · ext code
    simp only [view, Set.mem_insert_iff]
    constructor
    · rintro ⟨_, member, rfl⟩
      obtain ⟨other, inside, rfl⟩ := (members _).mp member
      by_cases same : other = course
      · rw [same, overwritten]
        exact Or.inl rfl
      · rw [untouched other inside same]
        exact Or.inr ⟨⟨other, inside, rfl⟩, fun shared => same
          (course_eq_of_code db.courses other course inside stored shared)⟩
    · rintro (rfl | ⟨⟨other, inside, rfl⟩, apart⟩)
      · exact ⟨_, (members _).mpr ⟨course, stored, overwritten⟩, rfl⟩
      · refine ⟨other, (members _).mpr ⟨other, inside, untouched other inside ?_⟩, rfl⟩
        rintro rfl
        exact apart rfl

theorem filter_delete {Row : Type} {clash : Row → Row → Bool} (table : Table clash)
    (gone own ownNow : Row → Bool)
    (same : ∀ row ∈ table, (!gone row && ownNow row) = (!gone row && own row)) :
    (table.delete gone).rows.filter ownNow = (table.rows.filter own).filter fun row => !gone row := by
  simp only [Table.delete, List.filter_filter]
  refine List.filter_congr fun row stored => ?_
  rw [Bool.and_comm, same row stored]

theorem keysOf_deleteCourse {κ : Type} (key : Course → κ)
    (keyed : ∀ a ∈ db.courses, ∀ b ∈ db.courses, key a = key b → a = b) (course : Course)
    (stored : course ∈ db.courses) :
    keysOf (db.courses.delete (·.id == course.id)) key = keysOf db.courses key \ {key course} := by
  rw [keysOf_delete _ _ _ keyed]
  refine congrArg _ (Set.ext fun value => ?_)
  constructor
  · rintro ⟨row, inside, same, rfl⟩
    rw [course_eq_of_id db.courses row course inside stored (by simpa using same)]
    rfl
  · rintro rfl
    exact ⟨course, stored, by simp, rfl⟩

theorem view_deleted (course : Course) (stored : course ∈ db.courses)
    (mine : course.professorId = professorId) :
    view (FaceVec.deleteCourse course.id db) professorId = { view db professorId with
      courses := (view db professorId).courses.filter fun other => !(other.id == course.id)
      courseEnrollments :=
        (view db professorId).courseEnrollments.filter fun row => !(row.courseId == course.id)
      importJobs := (view db professorId).importJobs.filter fun job => !(job.courseId == course.id)
      attendanceSessions :=
        (view db professorId).attendanceSessions.filter fun row => !(row.courseId == course.id)
      attendanceRecords := (view db professorId).attendanceRecords.filter fun row =>
        !(((view db professorId).attendanceSessions.filter (·.courseId == course.id)).map
          (·.id)).contains row.sessionId
      courseIds := (view db professorId).courseIds \ {course.id}
      codes := (view db professorId).codes \ {course.code}
      sessionIds := (view db professorId).sessionIds \
        { id | ∃ row ∈ (view db professorId).attendanceSessions,
          row.courseId = course.id ∧ row.id = id } } := by
  have own : Owned db professorId course.id := ⟨course, stored, rfl, mine⟩
  have owned := owned_deleted db professorId course.id
  have below : ∀ courseId, (!(courseId == course.id) &&
      decide (Owned (FaceVec.deleteCourse course.id db) professorId courseId)) =
        (!(courseId == course.id) && decide (Owned db professorId courseId)) := by
    intro courseId
    by_cases same : courseId = course.id <;> simp [owned, same]
  have sessions : sessionsOf db course.id =
      ((view db professorId).attendanceSessions.filter (·.courseId == course.id)).map (·.id) := by
    rw [sessionsOf, sessions_below db professorId course.id own]
  refine View.ext rfl rfl ?_ ?_ ?_ ?_ ?_ ?_ ?_ ?_
  · exact filter_delete _ _ _ _ fun _ _ => rfl
  · exact filter_delete _ _ _ _ fun row _ => below row.courseId
  · exact filter_delete _ _ _ _ fun row _ => below row.courseId
  · exact filter_delete _ _ _ _ fun row _ => below row.courseId
  -- A record goes with its session, whose course is the deleted one.
  · rw [← sessions]
    refine filter_delete _ _ _ _ fun row _ => ?_
    cases deleted : (sessionsOf db course.id).contains row.sessionId with
    | true => rfl
    | false =>
        refine congrArg _ (decide_eq_decide.mpr ?_)
        rw [ownedSession_deleted]
        exact and_iff_left (by simpa using deleted)
  · exact keysOf_deleteCourse db _ (fun a inA b inB => course_eq_of_id db.courses a b inA inB)
      course stored
  · exact keysOf_deleteCourse db _ (fun a inA b inB => course_eq_of_code db.courses a b inA inB)
      course stored
  · refine (keysOf_delete _ _ _ fun a inA b inB => session_eq_of_id _ a b inA inB).trans ?_
    refine congrArg _ (Set.ext fun id => exists_congr fun row => ?_)
    rw [mem_sessions, beq_iff_eq]
    constructor
    · rintro ⟨inside, ofCourse, same⟩
      exact ⟨⟨inside, by rwa [ofCourse]⟩, ofCourse, same⟩
    · rintro ⟨⟨inside, _⟩, ofCourse, same⟩
      exact ⟨inside, ofCourse, same⟩

end Courses

section Rows

variable (db after : Database K) (professorId : Uuid)

theorem view_rostered (frame : after = { db with students := after.students }) :
    view after professorId = { view db professorId with students := after.students } := by
  rw [frame]
  rfl

theorem view_enrolled (row : CourseEnrollment) (mine : Owned db professorId row.courseId)
    (frame : after = { db with courseEnrollments := after.courseEnrollments })
    (rows : after.courseEnrollments.rows = db.courseEnrollments.rows ++ [row]) :
    view after professorId = { view db professorId with
      courseEnrollments := (view db professorId).courseEnrollments ++ [row] } := by
  have appended : after.courseEnrollments.rows.filter (Owned db professorId ·.courseId) =
      (view db professorId).courseEnrollments ++ [row] := by
    simp [view, rows, mine]
  rw [← appended, frame]
  rfl

theorem view_unenrolled (gone : CourseEnrollment → Bool) :
    view { db with courseEnrollments := db.courseEnrollments.delete gone } professorId =
      { view db professorId with
        courseEnrollments :=
          (view db professorId).courseEnrollments.filter fun row => !gone row } := by
  refine View.ext rfl rfl rfl ?_ rfl rfl rfl rfl rfl rfl
  exact filter_delete _ _ _ _ fun _ _ => rfl

theorem view_jobCreated (job : ImportJob) (mine : Owned db professorId job.courseId)
    (frame : after = { db with importJobs := after.importJobs })
    (rows : after.importJobs.rows = db.importJobs.rows ++ [job]) :
    view after professorId = { view db professorId with
      importJobs := (view db professorId).importJobs ++ [job] } := by
  have appended : after.importJobs.rows.filter (Owned db professorId ·.courseId) =
      (view db professorId).importJobs ++ [job] := by
    simp [view, rows, mine]
  rw [← appended, frame]
  rfl

theorem view_opened (session : AttendanceSession) (mine : Owned db professorId session.courseId)
    (fresh : session.id ∉ sessionIds db)
    (frame : after = { db with attendanceSessions := after.attendanceSessions })
    (rows : after.attendanceSessions.rows = db.attendanceSessions.rows ++ [session]) :
    view after professorId = { view db professorId with
      attendanceSessions := (view db professorId).attendanceSessions ++ [session]
      sessionIds := insert session.id (view db professorId).sessionIds } := by
  have owned := owned_sessions db after professorId frame
  have records : after.attendanceRecords = db.attendanceRecords := by rw [frame]
  refine View.ext (by rw [frame]; rfl) (by rw [frame]; rfl) (by rw [frame]; rfl)
    (by rw [frame]; rfl) (by rw [frame]; rfl) ?_ ?_ (by rw [frame]; rfl) (by rw [frame]; rfl) ?_
  · simp [view, rows, owned, mine]
  · simp only [view, records]
    exact List.filter_congr fun row stored => decide_eq_decide.mpr
      (ownedSession_opened db after professorId session fresh frame rows row stored)
  · exact keysOf_append _ _ _ session rows

theorem view_closed (id : Uuid) (now : Instant)
    (frame : after = { db with attendanceSessions := after.attendanceSessions })
    (rows : after.attendanceSessions.rows = db.attendanceSessions.rows.map (closeRow id now)) :
    view after professorId = { view db professorId with
      attendanceSessions := (view db professorId).attendanceSessions.map (closeRow id now) } := by
  have owned := owned_sessions db after professorId frame
  have records : after.attendanceRecords = db.attendanceRecords := by rw [frame]
  refine View.ext (by rw [frame]; rfl) (by rw [frame]; rfl) (by rw [frame]; rfl)
    (by rw [frame]; rfl) (by rw [frame]; rfl) ?_ ?_ (by rw [frame]; rfl) (by rw [frame]; rfl) ?_
  · simp only [view, rows, List.filter_map]
    refine congrArg _ (List.filter_congr fun session _ => ?_)
    simp [owned, closeRow_courseId]
  · simp only [view, records]
    exact List.filter_congr fun row _ => decide_eq_decide.mpr
      (ownedSession_closed db after professorId id now frame rows row.sessionId)
  · exact keysOf_map _ _ _ _ (closeRow_id id now) rows

theorem view_overwritten (record : AttendanceRecord K) (data : RecordData K)
    (frame : after = { db with attendanceRecords := after.attendanceRecords })
    (rows : after.attendanceRecords.rows = db.attendanceRecords.rows.map (overwriteRecord record data)) :
    view after professorId = { view db professorId with
      attendanceRecords :=
        (view db professorId).attendanceRecords.map (overwriteRecord record data) } := by
  have written : after.attendanceRecords.rows.filter (OwnedSession db professorId ·.sessionId) =
      (view db professorId).attendanceRecords.map (overwriteRecord record data) := by
    simp only [view, rows, List.filter_map]
    refine congrArg _ (List.filter_congr fun row _ => ?_)
    simp [overwriteRecord_keys]
  rw [← written, frame]
  rfl

theorem view_recorded (record : AttendanceRecord K)
    (mine : OwnedSession db professorId record.sessionId)
    (frame : after = { db with attendanceRecords := after.attendanceRecords })
    (rows : after.attendanceRecords.rows = db.attendanceRecords.rows ++ [record]) :
    view after professorId = { view db professorId with
      attendanceRecords := (view db professorId).attendanceRecords ++ [record] } := by
  have appended : after.attendanceRecords.rows.filter (OwnedSession db professorId ·.sessionId) =
      (view db professorId).attendanceRecords ++ [record] := by
    simp [view, rows, mine]
  rw [← appended, frame]
  rfl

end Rows

end FaceVec.Api

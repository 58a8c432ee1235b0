import FaceVec.ForeignKeys
import FaceVec.Site.Accounts

/-!
Referential integrity of the whole platform: the ten foreign keys of the schema
hold in every state of every run, so that no answer about an enrollment or an
attendance record can lack its student.
-/

namespace FaceVec.Site

open Http Api Attendance Courses Faces

variable {K : Type}

/-- The foreign keys of `prisma/schema.prisma`; that of the refresh tokens is
part of the directory. -/
structure Referential (users : Table User.clash) (db : Database K) : Prop where
  professor : Refers (some ·.professorId) db.courses.rows (idsOf User.id users.rows)
  account : Refers Student.userId db.students.rows (idsOf User.id users.rows)
  enrolledIn : Refers (some ·.courseId) db.courseEnrollments.rows (idsOf Course.id db.courses.rows)
  enrolled : Refers (some ·.studentId) db.courseEnrollments.rows (idsOf Student.id db.students.rows)
  importedInto : Refers (some ·.courseId) db.importJobs.rows (idsOf Course.id db.courses.rows)
  held : Refers (some ·.courseId) db.attendanceSessions.rows (idsOf Course.id db.courses.rows)
  opened : Refers (some ·.createdById) db.attendanceSessions.rows (idsOf User.id users.rows)
  recordedIn : Refers (some ·.sessionId) db.attendanceRecords.rows
    (idsOf AttendanceSession.id db.attendanceSessions.rows)
  recorded : Refers (some ·.studentId) db.attendanceRecords.rows
    (idsOf Student.id db.students.rows)
  pictured : Refers (some ·.studentId) db.faceEmbeddings.rows (idsOf Student.id db.students.rows)

section Known

variable {db : Database K} {users : Table User.clash}

theorem known_user (id : Uuid) (known : hasUser users id = true) :
    ∀ own ∈ some id, own ∈ idsOf User.id users.rows := by
  rintro _ ⟨⟩
  exact (Users.hasUser_iff users id).mp known

theorem known_course (id : Uuid) (known : findCourse db id ≠ none) :
    ∀ own ∈ some id, own ∈ idsOf Course.id db.courses.rows := by
  rintro _ ⟨⟩
  obtain ⟨course, found⟩ := Option.ne_none_iff_exists'.mp known
  exact ⟨course, List.mem_of_find?_eq_some found, by simpa using List.find?_some found⟩

theorem known_student (id : Uuid) (known : findStudent db id ≠ none) :
    ∀ own ∈ some id, own ∈ idsOf Student.id db.students.rows := by
  rintro _ ⟨⟩
  obtain ⟨student, found⟩ := Option.ne_none_iff_exists'.mp known
  exact ⟨student, List.mem_of_find?_eq_some found, by simpa using List.find?_some found⟩

theorem known_session (id : Uuid) (known : findSession db id ≠ none) :
    ∀ own ∈ some id, own ∈ idsOf AttendanceSession.id db.attendanceSessions.rows := by
  rintro _ ⟨⟩
  obtain ⟨session, found⟩ := Option.ne_none_iff_exists'.mp known
  exact ⟨session, List.mem_of_find?_eq_some found, by simpa using List.find?_some found⟩

end Known

section Statements

variable (uuids : UuidSource) (users : Table User.clash)

theorem createCourse_refers (code title : String) (professorId : Uuid) :
    Keeps (Referential (K := K) users) (createCourseRow uuids users code title professorId) := by
  apply triple_statement
  intro draw db course after sound ran
  dsimp only at ran
  split at ran
  · cases ran
  · next created inserted =>
      split at ran
      · next known =>
          cases ran
          obtain ⟨rfl, rows, appended, rfl⟩ := create_ok _ _ _ _ _ _ inserted
          have grown := Table.insert_eq_some _ _ _ appended
          have more : idsOf Course.id db.courses.rows ⊆ idsOf Course.id rows.rows := by
            rw [grown]
            exact idsOf_append _ _ _
          exact { sound with
            professor := by
              simp only [grown]
              exact sound.professor.append _ (known_user professorId known)
            enrolledIn := sound.enrolledIn.grow _ more
            importedInto := sound.importedInto.grow _ more
            held := sound.held.grow _ more }
      · cases ran

theorem updateCourse_refers (id : Uuid) (data : UpdateCourseInput) :
    Keeps (Referential (K := K) users) (updateCourseRow users id data) := by
  have sameId : ∀ course, (overwriteCourse id data course).id = course.id := by
    intro course
    unfold overwriteCourse
    split <;> rfl
  apply triple_statement
  intro draw db course after sound ran
  split at ran
  · cases ran
  · split at ran
    · cases ran
    · next courses rewritten =>
        split at ran
        · next known =>
            cases ran
            have rows := Table.rewrite_eq_some _ _ _ rewritten
            have ids : idsOf Course.id courses.rows = idsOf Course.id db.courses.rows := by
              rw [rows, idsOf_map _ _ _ sameId]
            refine { sound with professor := ?_, enrolledIn := ?_, importedInto := ?_, held := ?_ }
            · simp only [rows]
              refine sound.professor.rewrite _ fun old _ own carried => ?_
              unfold overwriteCourse at carried
              split at carried
              · -- A new professor has been looked up.
                cases given : data.professorId with
                | none =>
                    simp only [UpdateCourseInput.overwrite, given] at carried
                    exact Or.inl carried
                | some professorId =>
                    simp only [UpdateCourseInput.overwrite, given, Option.getD_some] at carried
                    rw [given] at known
                    exact Or.inr (known_user professorId known own carried)
              · exact Or.inl carried
            · exact ids ▸ sound.enrolledIn
            · exact ids ▸ sound.importedInto
            · exact ids ▸ sound.held
        · cases ran

theorem deleteCourse_sound (id : Uuid) (db : Database K) (sound : Referential users db) :
    Referential users (FaceVec.deleteCourse id db) where
  professor := sound.professor.subset _ fun _ member => (List.mem_filter.mp member).1
  account := sound.account
  enrolledIn := sound.enrolledIn.cascade _ _ fun row _ course _ carried drops =>
    (congrArg (· == id) (Option.some.inj carried)).trans drops
  enrolled := sound.enrolled.subset _ fun _ member => (List.mem_filter.mp member).1
  importedInto := sound.importedInto.cascade _ _ fun row _ course _ carried drops =>
    (congrArg (· == id) (Option.some.inj carried)).trans drops
  held := sound.held.cascade _ _ fun row _ course _ carried drops =>
    (congrArg (· == id) (Option.some.inj carried)).trans drops
  opened := sound.opened.subset _ fun _ member => (List.mem_filter.mp member).1
  recordedIn := sound.recordedIn.cascade _ _ fun row _ session stored carried drops => by
    rw [Option.some.inj carried, List.contains_iff_mem]
    exact (mem_sessionsOf db id session.id).mpr ⟨session, stored, by simpa using drops, rfl⟩
  recorded := sound.recorded.subset _ fun _ member => (List.mem_filter.mp member).1
  pictured := sound.pictured

theorem deleteCourse_refers (id : Uuid) :
    Keeps (Referential (K := K) users) (deleteCourseRow id) := by
  apply triple_statement
  intro draw db result after sound ran
  split at ran
  · cases ran
    exact deleteCourse_sound users id db sound
  · cases ran

theorem createStudent_refers (studentNumber fullName : String) (email : Option String) :
    Keeps (Referential (K := K) users)
      (FaceVec.createStudent uuids studentNumber fullName email) := by
  apply triple_statement
  intro draw db student after sound ran
  obtain ⟨rfl, rows, appended, rfl⟩ := create_ok _ _ _ _ _ _ ran
  have grown := Table.insert_eq_some _ _ _ appended
  have more : idsOf Student.id db.students.rows ⊆ idsOf Student.id rows.rows := by
    rw [grown]
    exact idsOf_append _ _ _
  exact { sound with
    account := by
      simp only [grown]
      exact sound.account.append _ fun own carried => by cases carried
    enrolled := sound.enrolled.grow _ more
    recorded := sound.recorded.grow _ more
    pictured := sound.pictured.grow _ more }

theorem updateStudent_refers (id : Uuid) (data : UpdateStudentInput) :
    Keeps (Referential (K := K) users) (updateStudentRow id data) := by
  have keys : ∀ student, (overwriteStudent id data student).id = student.id ∧
      (overwriteStudent id data student).userId = student.userId := by
    intro student
    unfold overwriteStudent
    split <;> exact ⟨rfl, rfl⟩
  apply triple_statement
  intro draw db student after sound ran
  split at ran
  · cases ran
  · split at ran
    · cases ran
    · next students rewritten =>
        cases ran
        have rows := Table.rewrite_eq_some _ _ _ rewritten
        have ids : idsOf Student.id students.rows = idsOf Student.id db.students.rows := by
          rw [rows, idsOf_map _ _ _ fun student => (keys student).1]
        refine { sound with account := ?_, enrolled := ?_, recorded := ?_, pictured := ?_ }
        · simp only [rows]
          exact sound.account.rewrite _ fun old _ own carried => Or.inl ((keys old).2 ▸ carried)
        · exact ids ▸ sound.enrolled
        · exact ids ▸ sound.recorded
        · exact ids ▸ sound.pictured

/-- What belongs to a student goes with it, in whatever course it is. -/
theorem deleteStudent_sound (id : Uuid) (db : Database K) (sound : Referential users db) :
    Referential users (FaceVec.deleteStudent id db) where
  professor := sound.professor
  account := sound.account.subset _ fun _ member => (List.mem_filter.mp member).1
  enrolledIn := sound.enrolledIn.subset _ fun _ member => (List.mem_filter.mp member).1
  enrolled := sound.enrolled.cascade _ _ fun _ _ _ _ carried drops =>
    (congrArg (· == id) (Option.some.inj carried)).trans drops
  importedInto := sound.importedInto
  held := sound.held
  opened := sound.opened
  recordedIn := sound.recordedIn.subset _ fun _ member => (List.mem_filter.mp member).1
  recorded := sound.recorded.cascade _ _ fun _ _ _ _ carried drops =>
    (congrArg (· == id) (Option.some.inj carried)).trans drops
  pictured := sound.pictured.cascade _ _ fun _ _ _ _ carried drops =>
    (congrArg (· == id) (Option.some.inj carried)).trans drops

theorem deleteStudent_refers (id : Uuid) :
    Keeps (Referential (K := K) users) (deleteStudentRow id) := by
  apply triple_statement
  intro draw db result after sound ran
  split at ran
  · cases ran
    exact deleteStudent_sound users id db sound
  · cases ran

theorem createEnrollment_refers (courseId studentId : Uuid) :
    Keeps (Referential (K := K) users) (FaceVec.createEnrollment uuids courseId studentId) := by
  apply triple_statement
  intro draw db enrollment after sound ran
  dsimp only at ran
  split at ran
  · cases ran
  · next known =>
      simp only [Bool.or_eq_true, Option.isNone_iff_eq_none, not_or] at known
      obtain ⟨rfl, rows, appended, rfl⟩ := create_ok _ _ _ _ _ _ ran
      have grown := Table.insert_eq_some _ _ _ appended
      exact { sound with
        enrolledIn := by
          simp only [grown]
          exact sound.enrolledIn.append _ (known_course courseId known.1)
        enrolled := by
          simp only [grown]
          exact sound.enrolled.append _ (known_student studentId known.2) }

theorem deleteEnrollment_refers (courseId studentId : Uuid) :
    Keeps (Referential (K := K) users) (deleteEnrollmentRow courseId studentId) := by
  apply triple_statement
  intro draw db result after sound ran
  split at ran
  · cases ran
  · cases ran
    exact { sound with
      enrolledIn := sound.enrolledIn.subset _ fun _ member => (List.mem_filter.mp member).1
      enrolled := sound.enrolled.subset _ fun _ member => (List.mem_filter.mp member).1 }

theorem createImportJob_refers (courseId createdById : Uuid) (totalRows : Nat) :
    Keeps (Referential (K := K) users)
      (createImportJobRow uuids courseId createdById totalRows) := by
  apply triple_statement
  intro draw db job after sound ran
  dsimp only at ran
  split at ran
  · cases ran
  · next known =>
      rw [Option.isNone_iff_eq_none] at known
      obtain ⟨rfl, rows, appended, rfl⟩ := create_ok _ _ _ _ _ _ ran
      have grown := Table.insert_eq_some _ _ _ appended
      exact { sound with
        importedInto := by
          simp only [grown]
          exact sound.importedInto.append _ (known_course courseId known) }

theorem updateImportJob_refers (id : Uuid) (data : Import.JobData) :
    Keeps (Referential (K := K) users) (Import.updateImportJob id data) := by
  have sameCourse : ∀ job, (Import.writeJob id data job).courseId = job.courseId := by
    intro job
    unfold Import.writeJob
    split <;> rfl
  apply triple_statement
  intro draw db job after sound ran
  split at ran
  · cases ran
  · cases ran
    refine { sound with importedInto := sound.importedInto.rewrite _ fun old _ own carried => ?_ }
    rw [sameCourse] at carried
    exact Or.inl carried

theorem createSession_refers (courseId createdById : Uuid) :
    Keeps (Referential (K := K) users) (createSessionRow uuids users courseId createdById) := by
  apply triple_statement
  intro draw db session after sound ran
  dsimp only at ran
  split at ran
  · cases ran
  · next known =>
      simp only [Bool.or_eq_true, Option.isNone_iff_eq_none, Bool.not_eq_true', not_or,
        Bool.not_eq_false] at known
      obtain ⟨rfl, rows, appended, rfl⟩ := create_ok _ _ _ _ _ _ ran
      have grown := Table.insert_eq_some _ _ _ appended
      have more : idsOf AttendanceSession.id db.attendanceSessions.rows ⊆
          idsOf AttendanceSession.id rows.rows := by
        rw [grown]
        exact idsOf_append _ _ _
      exact { sound with
        held := by
          simp only [grown]
          exact sound.held.append _ (known_course courseId known.1)
        opened := by
          simp only [grown]
          exact sound.opened.append _ (known_user createdById known.2)
        recordedIn := sound.recordedIn.grow _ more }

theorem closeSession_refers (id : Uuid) (now : Instant) :
    Keeps (Referential (K := K) users) (closeUpdate id now) := by
  have keys : ∀ session, (closeRow id now session).courseId = session.courseId ∧
      (closeRow id now session).createdById = session.createdById := by
    intro session
    unfold closeRow
    split <;> exact ⟨rfl, rfl⟩
  apply triple_statement
  intro draw db session after sound ran
  split at ran
  · cases ran
  · cases ran
    refine { sound with held := ?_, opened := ?_, recordedIn := ?_ }
    · refine sound.held.rewrite _ fun old _ own carried => ?_
      rw [(keys old).1] at carried
      exact Or.inl carried
    · refine sound.opened.rewrite _ fun old _ own carried => ?_
      rw [(keys old).2] at carried
      exact Or.inl carried
    · have ids := idsOf_map AttendanceSession.id db.attendanceSessions.rows _ (closeRow_id id now)
      exact sound.recordedIn.grow _ ids.symm.subset

theorem upsertRecord_refers (now : Instant) (sessionId studentId : Uuid) (data : RecordData K) :
    Keeps (Referential users) (FaceVec.upsertRecord uuids now sessionId studentId data) := by
  apply triple_statement
  intro draw db record after sound ran
  split at ran
  · next target found =>
      cases ran
      have keys := overwriteRecord_keys target data
      refine { sound with recordedIn := ?_, recorded := ?_ }
      · refine sound.recordedIn.rewrite _ fun old _ own carried => ?_
        rw [(keys old).2.1] at carried
        exact Or.inl carried
      · refine sound.recorded.rewrite _ fun old _ own carried => ?_
        rw [(keys old).2.2.1] at carried
        exact Or.inl carried
  · dsimp only at ran
    split at ran
    · cases ran
    · next known =>
        simp only [Bool.or_eq_true, Option.isNone_iff_eq_none, not_or] at known
        obtain ⟨rfl, rows, appended, rfl⟩ := create_ok _ _ _ _ _ _ ran
        have grown := Table.insert_eq_some _ _ _ appended
        exact { sound with
          recordedIn := by
            simp only [grown]
            exact sound.recordedIn.append _ (known_session sessionId known.1)
          recorded := by
            simp only [grown]
            exact sound.recorded.append _ (known_student studentId known.2) }

theorem insertEmbedding_refers (studentId : Uuid) (face : DetectedFace K) (model hash : String) :
    Keeps (Referential users) (Faces.insertEmbedding uuids studentId face model hash) := by
  apply triple_statement
  intro draw db row after sound ran
  dsimp only at ran
  split at ran
  · cases ran
  · next known =>
      rw [Option.isNone_iff_eq_none] at known
      obtain ⟨rfl, rows, appended, rfl⟩ := create_ok _ _ _ _ _ _ ran
      have grown := Table.insert_eq_some _ _ _ appended
      exact { sound with
        pictured := by
          simp only [grown]
          exact sound.pictured.append _ (known_student studentId known) }

theorem deleteEmbedding_refers (studentId embeddingId : Uuid) :
    Keeps (Referential (K := K) users) (Api.deleteEmbedding studentId embeddingId) := by
  apply triple_statement
  intro draw db affected after sound ran
  cases ran
  exact { sound with
    pictured := sound.pictured.subset _ fun _ member => (List.mem_filter.mp member).1 }

theorem recordEvent_refers (now : Instant) (aggregateType : String) (aggregateId : Uuid)
    (eventType : String) (payload : EventPayload K) :
    Keeps (Referential users)
      (FaceVec.recordEvent uuids now aggregateType aggregateId eventType payload) := by
  apply triple_statement
  intro draw db message after sound ran
  obtain ⟨rfl, rows, appended, rfl⟩ := create_ok _ _ _ _ _ _ ran
  exact { sound with }

theorem elementary_refers (formats : Formats) (checked : Prop) (α : Type) (body : Statement K α)
    (own : Elementary formats checked uuids users α body) : Keeps (Referential users) body := by
  cases own with
  | createCourse code title professorId => exact createCourse_refers uuids users _ _ _
  | updateCourse id data => exact updateCourse_refers users id data
  | deleteCourse id => exact deleteCourse_refers users id
  | createStudent studentNumber fullName email => exact createStudent_refers uuids users _ _ _
  | updateStudent id data => exact updateStudent_refers users id data
  | deleteStudent id => exact deleteStudent_refers users id
  | createEnrollment courseId studentId => exact createEnrollment_refers uuids users _ _
  | deleteEnrollment courseId studentId => exact deleteEnrollment_refers users _ _
  | createImportJob courseId createdById totalRows => exact createImportJob_refers uuids users _ _ _
  | updateImportJob id data => exact updateImportJob_refers users id data
  | createSession courseId createdById => exact createSession_refers uuids users _ _
  | closeSession id now => exact closeSession_refers users id now
  | upsertRecord now sessionId studentId data => exact upsertRecord_refers uuids users _ _ _ _
  | insertEmbedding studentId face model hash => exact insertEmbedding_refers uuids users _ _ _ _
  | deleteEmbedding studentId embeddingId => exact deleteEmbedding_refers users _ _
  | recordEvent now aggregateType aggregateId eventType payload =>
      exact recordEvent_refers uuids users _ _ _ _ _

end Statements

section Accounts

open Users

variable (directory after : Directory K)

/-- A user is removed only where neither a course nor a session refers to it. -/
theorem removed_refers (id : Uuid) (removed : removeUser id directory = .ok after)
    (sound : Referential directory.users directory.db) : Referential after.users after.db := by
  obtain ⟨free, _, users, db⟩ := removeUser_rows directory after id removed
  rw [users, db]
  simp only [restricts, Bool.or_eq_false_iff, List.any_eq_false, beq_iff_eq] at free
  have stays : ∀ user : User, user.id ≠ id → (user.id == id) = false :=
    fun user other => beq_eq_false_iff_ne.mpr other
  have detached : Refers Student.userId (directory.db.students.rows.map (detach id))
      (idsOf User.id directory.users.rows) :=
    sound.account.rewrite _ fun student _ own carried =>
      Or.inl (Option.filter_eq_some_iff.mp carried).1
  have same : idsOf Student.id (directory.db.students.rows.map (detach id)) =
      idsOf Student.id directory.db.students.rows := idsOf_map _ _ _ fun _ => rfl
  exact { sound with
    professor := sound.professor.restrict _ fun course stored user _ carried =>
      stays user fun mine => free.1 course stored ((Option.some.inj carried).trans mine)
    account := detached.restrict _ fun student stored user _ carried => by
      obtain ⟨old, _, rfl⟩ := List.mem_map.mp stored
      exact stays user (by simpa using (Option.filter_eq_some_iff.mp carried).2)
    opened := sound.opened.restrict _ fun session stored user _ carried =>
      stays user fun mine => free.2 session stored ((Option.some.inj carried).trans mine)
    enrolled := sound.enrolled.grow _ same.symm.subset
    recorded := sound.recorded.grow _ same.symm.subset
    pictured := sound.pictured.grow _ same.symm.subset }

/-- The keys depend on which users there are, not on what else is known of them. -/
theorem users_refer {users more : Table User.clash} {db : Database K}
    (sound : Referential users db) (grows : idsOf User.id users.rows ⊆ idsOf User.id more.rows) :
    Referential more db :=
  { sound with
    professor := sound.professor.grow _ grows
    account := sound.account.grow _ grows
    opened := sound.opened.grow _ grows }

theorem revises_refers (setting : Users.Setting) (call : Users.Call)
    (revises : Revises setting call directory after)
    (sound : Referential directory.users directory.db) : Referential after.users after.db := by
  cases revises with
  | none users profiles db =>
      rw [users, db]
      exact sound
  | added draw now email passwordHash displayName role user introduces inserted =>
      obtain ⟨_, _, rows, db, _⟩ := insertUser_rows _ _ _ _ _ _ _ _ _ _ inserted
      rw [db]
      exact users_refer sound (rows ▸ idsOf_append _ _ _)
  | changed now auth id input draw user acting modified =>
      obtain ⟨rows, db, _⟩ := modifyUser_rows _ _ _ _ _ _ modified
      rw [db]
      exact users_refer sound (rows ▸ (idsOf_map _ _ _ (UserUpdate.applyTo_id _ id)).symm.subset)
  | removed id gone => exact removed_refers directory after id gone sound

end Accounts

section Runs

variable (setting : Setting K)

theorem step_refers (before after : Users.Store K) (step : Step setting before after)
    (sound : Referential before.directory.users before.directory.db) :
    Referential after.directory.users after.directory.db := by
  have programs : ∀ (α : Type) (body : Statement K α),
      Program setting.formats False setting.api.uuids before.directory.users body → ∀ fate : Fate,
        Referential before.directory.users
          (transaction body fate.chances fate.ending before.directory.db).2 :=
    fun α body program fate =>
      (program.keeps (elementary_refers _ _ setting.formats False)).transaction _ _ _ sound
  cases step with
  | api auth incoming actor request handled α body writes fate =>
      exact programs α body (writes_program False.elim writes) fate
  | account input call validated =>
      exact revises_refers _ _ _ call (exec_revises setting.users before input call) sound
  | importRow jobId courseId rows requested row listed now fate =>
      exact programs _ _ (resolveAndLinkStudent_program _ _ _ False.elim) fate
  | importJob id data fate => exact programs _ _ (.elementary _ _ (.updateImportJob id data)) fate
  | faceTask studentId result face usable hash fate =>
      exact programs _ _
        (.elementary _ _ (.insertEmbedding _ _ _ _ (usableFace_whole result face usable))) fate
  | relay id write relays => exact { sound with }
  | tick milliseconds => exact sound

/-- In every run of the platform, whatever requests, imports, face tasks and relays do at once and
however their transactions end, the foreign keys go on to hold. So whatever is answered about a
stored enrollment or record comes with its student. -/
theorem references_hold (start after : Users.Store K) (run : Run setting start after)
    (sound : Referential start.directory.users start.directory.db) :
    Referential after.directory.users after.directory.db ∧
      ∀ platform : Platform K, platform.db = after.directory.db →
        (∀ row ∈ platform.db.courseEnrollments,
          (serializeEnrollment platform row).student.isSome) ∧
        ∀ record ∈ platform.db.attendanceRecords,
          (serializeRecord platform record).student.isSome := by
  have holds : Referential after.directory.users after.directory.db := by
    induction run with
    | refl => exact sound
    | tail _ step ih => exact step_refers setting _ _ step ih
  refine ⟨holds, fun platform same => ?_⟩
  rw [← same] at holds
  have included : ∀ id ∈ idsOf Student.id platform.db.students.rows,
      (includeStudent platform id).isSome := by
    rintro _ ⟨student, stored, rfl⟩
    rw [includeStudent, Option.isSome_map, findStudent, List.find?_isSome]
    exact ⟨student, stored, beq_self_eq_true _⟩
  exact ⟨fun row stored => included _ (holds.enrolled row stored _ rfl),
    fun record stored => included _ (holds.recorded record stored _ rfl)⟩

end Runs

section Deletion

/-- A course with a roster and a session that has recorded somebody. -/
def busy : Database ℤ where
  students := .single ⟨1, "S-1", "Ada", none, none⟩
  faceEmbeddings := .empty
  courses := .single ⟨2, "CS-1", "Logic", 7⟩
  courseEnrollments := .single ⟨3, 2, 1⟩
  importJobs := .empty
  attendanceSessions := .single ⟨4, 2, 7, .OPEN, none⟩
  attendanceRecords := .single ⟨5, 4, 1, .PRESENT, .MANUAL, none, 0⟩
  outboxMessages := .empty

theorem busy_refers : Referential (staffed busy).directory.users busy := by
  constructor <;> rintro row member own carried <;> simp [busy, Table.single, Table.empty] at member
    <;> subst member <;> cases carried <;> exact ⟨_, List.mem_singleton.mpr rfl, rfl⟩

def deletion : Incoming := ⟨.DELETE, ["courses", printOnes 2], none, [], .ok none⟩

theorem references_hold_deletion :
    let after := run (deleteCourseRow 2) {} (staffed busy)
    after.directory.db.attendanceRecords.rows = [] ∧ after.directory.db.students.rows ≠ [] ∧
      Referential after.directory.users after.directory.db :=
  ⟨by decide, by decide, (references_hold town _ _
    (.single (.api _ (.ok professor) deletion professor (.deleteCourse 2) (by rfl) _ _
      (.deleteCourse 2) {})) busy_refers).1⟩

end Deletion

end FaceVec.Site

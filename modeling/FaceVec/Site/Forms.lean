import FaceVec.Site.Accounts

/-!
The form of what is stored. Every text in the tables is one that the schemas
let through, also where it came by way of a roster file, the outbox and the
bulk-import consumer, which validate nothing.
-/

namespace FaceVec.Site

open Http Api Attendance Courses Faces

variable {K : Type}

structure Forms (formats : Formats) (db : Database K) : Prop where
  courses : ∀ course ∈ db.courses.rows, Name 32 course.code ∧ Name 200 course.title
  students : ∀ student ∈ db.students.rows,
    CreateStudentFits formats ⟨student.studentNumber, student.fullName, student.email⟩
  jobs : ∀ job ∈ db.importJobs.rows, 1 ≤ job.totalRows ∧ job.totalRows ≤ 2000
  events : ∀ message ∈ db.outboxMessages.rows, EventFits formats message.payload
  faces : ∀ face ∈ db.faceEmbeddings.rows, face.embedding.length = EMBEDDING_DIMENSIONS

def Named (formats : Formats) (directory : Users.Directory K) : Prop :=
  ∀ user ∈ directory.users.rows,
    Mail formats user.email ∧ Name 120 (directory.profiles user.id).displayName

section Rows

variable {Row : Type} {fits : Row → Prop} {rows : List Row}

theorem fits_append (each : ∀ row ∈ rows, fits row) (row : Row) (own : fits row) :
    ∀ other ∈ rows ++ [row], fits other := by
  intro other member
  rcases List.mem_append.mp member with old | new
  · exact each other old
  · exact List.mem_singleton.mp new ▸ own

theorem fits_map (each : ∀ row ∈ rows, fits row) (change : Row → Row)
    (keeps : ∀ row, fits row → fits (change row)) : ∀ other ∈ rows.map change, fits other := by
  intro other member
  obtain ⟨row, stored, rfl⟩ := List.mem_map.mp member
  exact keeps row (each row stored)

theorem fits_delete {clash : Row → Row → Bool} {table : Table clash}
    (each : ∀ row ∈ table.rows, fits row) (gone : Row → Bool) :
    ∀ other ∈ (table.delete gone).rows, fits other :=
  fun other member => each other (List.mem_filter.mp member).1

theorem getD_fits {α : Type} {own : α → Prop} {given : Option α} {old : α} (fit : Given own given)
    (stored : own old) : own (given.getD old) := by
  cases given with
  | none => exact stored
  | some value => exact fit value rfl

end Rows

section Statements

variable (formats : Formats) (uuids : UuidSource) (users : Table User.clash)

theorem createCourse_forms (code title : String) (professorId : Uuid)
    (own : Name 32 code ∧ Name 200 title) :
    Keeps (Forms (K := K) formats) (createCourseRow uuids users code title professorId) := by
  apply triple_statement
  intro draw db course after sound ran
  dsimp only at ran
  split at ran
  · cases ran
  · next created inserted =>
      split at ran
      · cases ran
        obtain ⟨rfl, rows, appended, rfl⟩ := create_ok _ _ _ _ _ _ inserted
        have grown := Table.insert_eq_some _ _ _ appended
        exact { sound with courses := grown ▸ fits_append sound.courses _ own }
      · cases ran

theorem updateCourse_forms (id : Uuid) (data : UpdateCourseInput)
    (own : Given (Name 32) data.code ∧ Given (Name 200) data.title) :
    Keeps (Forms (K := K) formats) (updateCourseRow users id data) := by
  refine keeps_of_spec (fun db => updateCourseRow_spec users db id data) ?_
  rintro db course after sound ⟨frame, rows⟩
  rw [frame]
  refine { sound with courses := rows ▸ fits_map sound.courses _ fun old stored => ?_ }
  unfold overwriteCourse
  split
  · exact ⟨getD_fits own.1 stored.1, getD_fits own.2 stored.2⟩
  · exact stored

theorem deleteCourse_forms (id : Uuid) : Keeps (Forms (K := K) formats) (deleteCourseRow id) := by
  refine keeps_of_spec (fun db => deleteCourseRow_spec db id) ?_
  rintro db result after sound rfl
  exact { sound with
    courses := fits_delete sound.courses _
    jobs := fits_delete sound.jobs _ }

theorem createStudent_forms (studentNumber fullName : String) (email : Option String)
    (own : CreateStudentFits formats ⟨studentNumber, fullName, email⟩) :
    Keeps (Forms (K := K) formats) (FaceVec.createStudent uuids studentNumber fullName email) := by
  apply triple_statement
  intro draw db student after sound ran
  obtain ⟨rfl, rows, appended, rfl⟩ := create_ok _ _ _ _ _ _ ran
  have grown := Table.insert_eq_some _ _ _ appended
  exact { sound with students := grown ▸ fits_append sound.students _ own }

theorem updateStudent_forms (id : Uuid) (data : UpdateStudentInput)
    (own : UpdateStudentFits formats data) :
    Keeps (Forms (K := K) formats) (updateStudentRow id data) := by
  apply triple_statement
  intro draw db student after sound ran
  split at ran
  · cases ran
  · split at ran
    · cases ran
    · next students rewritten =>
        cases ran
        have rows := Table.rewrite_eq_some _ _ _ rewritten
        refine { sound with students := rows ▸ fits_map sound.students _ fun old stored => ?_ }
        unfold overwriteStudent
        split
        · exact ⟨getD_fits own.studentNumber stored.studentNumber,
            getD_fits own.fullName stored.fullName, getD_fits own.email stored.email⟩
        · exact stored

theorem deleteStudent_forms (id : Uuid) : Keeps (Forms (K := K) formats) (deleteStudentRow id) := by
  refine keeps_of_spec (fun db => deleteStudentRow_spec db id) ?_
  rintro db result after sound rfl
  exact { sound with
    students := fits_delete sound.students _
    faces := fits_delete sound.faces _ }

theorem createEnrollment_forms (courseId studentId : Uuid) :
    Keeps (Forms (K := K) formats) (FaceVec.createEnrollment uuids courseId studentId) := by
  refine keeps_of_spec (fun db => createEnrollment_spec uuids courseId studentId db) ?_
  rintro db enrollment after sound ⟨_, _, _, frame, _⟩
  rw [frame]
  exact { sound with }

theorem deleteEnrollment_forms (courseId studentId : Uuid) :
    Keeps (Forms (K := K) formats) (deleteEnrollmentRow courseId studentId) := by
  refine keeps_of_spec (fun db => deleteEnrollmentRow_spec db courseId studentId) ?_
  rintro db result after sound ⟨enrollment, _, _, rfl⟩
  exact { sound with }

theorem createImportJob_forms (courseId createdById : Uuid) (totalRows : Nat)
    (own : 1 ≤ totalRows ∧ totalRows ≤ 2000) :
    Keeps (Forms (K := K) formats) (createImportJobRow uuids courseId createdById totalRows) := by
  apply triple_statement
  intro draw db job after sound ran
  dsimp only at ran
  split at ran
  · cases ran
  · obtain ⟨rfl, rows, appended, rfl⟩ := create_ok _ _ _ _ _ _ ran
    have grown := Table.insert_eq_some _ _ _ appended
    exact { sound with jobs := grown ▸ fits_append sound.jobs _ own }

theorem updateImportJob_forms (id : Uuid) (data : Import.JobData) :
    Keeps (Forms (K := K) formats) (Import.updateImportJob id data) := by
  apply triple_statement
  intro draw db job after sound ran
  split at ran
  · cases ran
  · cases ran
    refine { sound with jobs := fits_map sound.jobs _ fun old stored => ?_ }
    unfold Import.writeJob
    split <;> exact stored

theorem createSession_forms (courseId createdById : Uuid) :
    Keeps (Forms (K := K) formats) (createSessionRow uuids users courseId createdById) := by
  refine keeps_of_spec (fun db => createSessionRow_spec uuids users courseId createdById db) ?_
  rintro db session after sound ⟨_, _, frame, _⟩
  rw [frame]
  exact { sound with }

theorem closeSession_forms (id : Uuid) (now : Instant) :
    Keeps (Forms (K := K) formats) (closeUpdate id now) := by
  refine keeps_of_spec (fun db => closeUpdate_spec id now db) ?_
  rintro db session after sound ⟨frame, _⟩
  rw [frame]
  exact { sound with }

theorem upsertRecord_forms (now : Instant) (sessionId studentId : Uuid) (data : RecordData K) :
    Keeps (Forms formats) (FaceVec.upsertRecord uuids now sessionId studentId data) := by
  refine keeps_of_spec (fun db => upsertRecord_spec uuids now sessionId studentId data db) ?_
  intro db record after sound upserted
  rw [upserted.frame]
  exact { sound with }

theorem insertEmbedding_forms (studentId : Uuid) (face : DetectedFace K) (model hash : String)
    (whole : face.embedding.length = EMBEDDING_DIMENSIONS) :
    Keeps (Forms formats) (Faces.insertEmbedding uuids studentId face model hash) := by
  apply triple_statement
  intro draw db row after sound ran
  dsimp only at ran
  split at ran
  · cases ran
  · obtain ⟨rfl, rows, appended, rfl⟩ := create_ok _ _ _ _ _ _ ran
    have grown := Table.insert_eq_some _ _ _ appended
    exact { sound with faces := grown ▸ fits_append sound.faces _ whole }

theorem deleteEmbedding_forms (studentId embeddingId : Uuid) :
    Keeps (Forms (K := K) formats) (Api.deleteEmbedding studentId embeddingId) := by
  apply triple_statement
  intro draw db affected after sound ran
  cases ran
  exact { sound with faces := fits_delete sound.faces _ }

theorem recordEvent_forms (now : Instant) (aggregateType : String) (aggregateId : Uuid)
    (eventType : String) (payload : EventPayload K) (own : EventFits formats payload) :
    Keeps (Forms formats)
      (FaceVec.recordEvent uuids now aggregateType aggregateId eventType payload) := by
  apply triple_statement
  intro draw db message after sound ran
  obtain ⟨rfl, rows, appended, rfl⟩ := create_ok _ _ _ _ _ _ ran
  have grown := Table.insert_eq_some _ _ _ appended
  exact { sound with events := grown ▸ fits_append sound.events _ own }

/-- Every writing statement whose values fit keeps the forms. -/
theorem elementary_forms (α : Type) (body : Statement K α)
    (own : Elementary formats True uuids users α body) : Keeps (Forms formats) body := by
  cases own with
  | createCourse code title professorId fits =>
      exact createCourse_forms formats uuids users _ _ _ (fits trivial)
  | updateCourse id data fits => exact updateCourse_forms formats users id data (fits trivial)
  | deleteCourse id => exact deleteCourse_forms formats id
  | createStudent studentNumber fullName email fits =>
      exact createStudent_forms formats uuids _ _ _ (fits trivial)
  | updateStudent id data fits => exact updateStudent_forms formats id data (fits trivial)
  | deleteStudent id => exact deleteStudent_forms formats id
  | createEnrollment courseId studentId => exact createEnrollment_forms formats uuids _ _
  | deleteEnrollment courseId studentId => exact deleteEnrollment_forms formats _ _
  | createImportJob courseId createdById totalRows fits =>
      exact createImportJob_forms formats uuids _ _ _ (fits trivial)
  | updateImportJob id data => exact updateImportJob_forms formats id data
  | createSession courseId createdById => exact createSession_forms formats uuids users _ _
  | closeSession id now => exact closeSession_forms formats id now
  | upsertRecord now sessionId studentId data => exact upsertRecord_forms formats uuids _ _ _ _
  | insertEmbedding studentId face model hash whole =>
      exact insertEmbedding_forms formats uuids _ _ _ _ whole
  | deleteEmbedding studentId embeddingId => exact deleteEmbedding_forms formats _ _
  | recordEvent now aggregateType aggregateId eventType payload fits =>
      exact recordEvent_forms formats uuids _ _ _ _ _ (fits trivial)

end Statements

section Accounts

open Users

variable (formats : Formats) (directory after : Directory K)

/-- The accounts of another table and the rest of the rows are none of an account's concern. -/
theorem removed_forms (id : Uuid) (removed : removeUser id directory = .ok after)
    (named : Named formats directory) (sound : Forms formats directory.db) :
    Named formats after ∧ Forms formats after.db := by
  obtain ⟨_, profiles, users, db⟩ := removeUser_rows directory after id removed
  rw [Named, users, profiles, db]
  exact ⟨fits_delete named _,
    { sound with students := fits_map sound.students _ fun _ stored => stored }⟩

theorem added_forms (uuids : UuidSource) (draw : Nat) (now : Instant)
    (email passwordHash displayName : String) (role : Role) (user : User)
    (inserted : insertUser uuids draw now email passwordHash displayName role directory =
      .ok (user, after))
    (mail : Mail formats email) (name : Name 120 displayName) (named : Named formats directory) :
    Named formats after := by
  obtain ⟨same, fresh, rows, _, profiles⟩ := insertUser_rows _ _ _ _ _ _ _ _ _ _ inserted
  intro other member
  rw [rows] at member
  rw [profiles]
  rcases List.mem_append.mp member with old | new
  · -- The id is new, so the others keep their profiles.
    rw [Function.update_of_ne (fresh other old)]
    exact named other old
  · rw [List.mem_singleton.mp new, Function.update_self, same]
    exact ⟨mail, name⟩

theorem changed_forms (now : Instant) (id : Uuid) (data : UserUpdate) (user : User)
    (modified : modifyUser now id data directory = .ok (user, after))
    (name : Given (Name 120) data.displayName) (named : Named formats directory) :
    Named formats after := by
  obtain ⟨rows, _, profiles⟩ := modifyUser_rows _ _ _ _ _ _ modified
  intro other member
  rw [rows] at member
  obtain ⟨old, stored, rfl⟩ := List.mem_map.mp member
  have fits := named old stored
  rw [profiles, UserUpdate.applyTo_id, UserUpdate.applyTo_email]
  refine ⟨fits.1, ?_⟩
  by_cases same : old.id = id
  · rw [same, Function.update_self]
    exact getD_fits name (same ▸ fits.2)
  · rw [Function.update_of_ne same]
    exact fits.2

variable (setting : Setting K) (call : Users.Call)

theorem introduced_fits (email displayName : String) (introduces : Introduces call email displayName)
    (validated : Validated setting call) :
    Mail setting.formats email ∧ Name 120 displayName := by
  rcases introduces with ⟨input, context, same, rfl, rfl⟩ | ⟨auth, input, same, rfl, rfl⟩
  · obtain ⟨_, _, _, handled⟩ := validated.1 input context same
    have fits := (dispatch_permitted _ _ _ _ _ handled).1
    exact ⟨fits.email, fits.displayName⟩
  · rcases validated.2 auth _ same with ⟨gates, other⟩ | ⟨_, _, handled⟩
    · cases other
    · have fits := (dispatch_permitted _ _ _ _ _ handled).1
      exact ⟨fits.email, fits.displayName⟩

theorem revises_forms (validated : Validated setting call)
    (revises : Revises setting.users call directory after) (named : Named setting.formats directory)
    (sound : Forms setting.formats directory.db) :
    Named setting.formats after ∧ Forms setting.formats after.db := by
  cases revises with
  | none users profiles db =>
      rw [Named, users, profiles, db]
      exact ⟨named, sound⟩
  | added draw now email passwordHash displayName role user introduces inserted =>
      obtain ⟨mail, name⟩ := introduced_fits setting call email displayName introduces validated
      obtain ⟨_, _, _, db, _⟩ := insertUser_rows _ _ _ _ _ _ _ _ _ _ inserted
      rw [db]
      exact ⟨added_forms _ _ _ _ _ _ _ _ _ _ _ inserted mail name named, sound⟩
  | changed now auth id input draw user acting modified =>
      obtain ⟨_, db, _⟩ := modifyUser_rows _ _ _ _ _ _ modified
      rw [db]
      refine ⟨changed_forms _ _ _ _ _ _ _ modified ?_ named, sound⟩
      rcases validated.2 auth _ acting with ⟨gates, other⟩ | ⟨_, _, handled⟩
      · cases other
      · have fits := (dispatch_permitted _ _ _ _ _ handled).1
        exact fits.displayName
  | removed id gone => exact removed_forms _ _ _ id gone named sound

end Accounts

section Runs

variable (setting : Setting K)

/-- The rows of a stored request are those that `bulkEnrollSchema` let through. -/
theorem requested_fits (db : Database K) (sound : Forms setting.formats db) (jobId courseId : Uuid)
    (rows : List BulkImportRow) (requested : (jobId, courseId, rows) ∈ importEvents db) :
    BulkEnrollFits setting.formats rows := by
  obtain ⟨message, stored, carried⟩ := List.mem_filterMap.mp requested
  have fits := sound.events message stored
  unfold importEvent at carried
  split at carried
  · next payload =>
      split at carried
      · cases carried
        rw [payload] at fits
        exact fits
      · cases carried
  · cases carried

theorem step_forms (before after : Users.Store K) (step : Step setting before after)
    (named : Named setting.formats before.directory)
    (sound : Forms setting.formats before.directory.db) :
    Named setting.formats after.directory ∧ Forms setting.formats after.directory.db := by
  have programs : ∀ (α : Type) (body : Statement K α),
      Program setting.formats True setting.api.uuids before.directory.users body → ∀ fate : Fate,
        Forms setting.formats
          (transaction body fate.chances fate.ending before.directory.db).2 :=
    fun α body program fate =>
      (program.keeps (elementary_forms setting.formats _ _)).transaction _ _ _ sound
  cases step with
  | api auth incoming actor request handled α body writes fate =>
      have fits := (dispatch_permitted _ _ _ _ _ handled).1
      exact ⟨named, programs α body (writes_program (fun _ => fits) writes) fate⟩
  | account input call validated =>
      exact revises_forms _ _ setting call validated (exec_revises setting.users before input call)
        named sound
  | importRow jobId courseId rows requested row listed now fate =>
      have fits := (requested_fits setting _ sound jobId courseId rows requested).each row listed
      exact ⟨named, programs _ _
        (resolveAndLinkStudent_program _ _ _ fun _ => BulkImportRowFits.roster fits) fate⟩
  | importJob id data fate =>
      exact ⟨named, programs _ _ (.elementary _ _ (.updateImportJob id data)) fate⟩
  | faceTask studentId result face usable hash fate =>
      exact ⟨named, programs _ _
        (.elementary _ _ (.insertEmbedding _ _ _ _ (usableFace_whole result face usable))) fate⟩
  | relay id write relays =>
      refine ⟨named, { sound with events := fits_map sound.events _ fun row stored => ?_ }⟩
      rw [(updateMessage_keeps relays id row).2]
      exact stored
  | tick milliseconds => exact ⟨named, sound⟩

/-- Whatever raw requests reach the platform and whatever its consumers make of them, every course,
student, account, import job and queued roster it stores is one that the schemas would let through,
and every stored face has all of its dimensions. -/
theorem forms_hold (start after : Users.Store K) (run : Run setting start after)
    (named : Named setting.formats start.directory)
    (sound : Forms setting.formats start.directory.db) :
    Named setting.formats after.directory ∧ Forms setting.formats after.directory.db := by
  induction run with
  | refl => exact ⟨named, sound⟩
  | tail _ step ih => exact step_forms setting _ _ step ih.1 ih.2

end Runs

section Creation

def bare : Database ℤ := ⟨.empty, .empty, .empty, .empty, .empty, .empty, .empty, .empty⟩

theorem bare_forms : Forms plain bare := by
  constructor <;> exact fun _ member => absurd member List.not_mem_nil

theorem staffed_named : Named plain (staffed bare).directory := by
  intro user member
  rw [List.mem_singleton.mp member]
  exact ⟨⟨⟨by decide, by decide⟩, by decide⟩, ⟨by decide, by decide, by decide⟩⟩

/-- The professor creates a course with a code that has spaces around it. -/
def creation : Incoming :=
  ⟨.POST, ["courses"],
    some (.object [("code", .string "  CS-1 "), ("title", .string "Logic")]), [], .ok none⟩

theorem forms_hold_creation :
    let after := run (createCourseRow town.api.uuids (staffed bare).directory.users "CS-1" "Logic" 7)
      {} (staffed bare)
    after.directory.db.courses.rows.map (·.code) = ["CS-1"] ∧ Forms plain after.directory.db :=
  ⟨by decide, (forms_hold town _ _
    (.single (.api _ (.ok professor) creation professor (.createCourse ⟨"CS-1", "Logic", none⟩)
      (by rfl) _ _ (.createCourse _ 7) {})) staffed_named bare_forms).2⟩

end Creation

end FaceVec.Site

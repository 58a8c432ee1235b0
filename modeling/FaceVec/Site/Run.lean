import Mathlib.Logic.Relation
import FaceVec.Api.Ownership
import FaceVec.Outbox.Relay
import FaceVec.Site.Statements
import FaceVec.Users.Authority

/-!
The whole gateway over its stored state: raw requests and what they commit, the
accounts, the bulk imports, the face tasks and the outbox relay. Every
transaction and every statement is a step of its own, so a request that has
read something may write after any number of steps of others.
-/

namespace FaceVec.Site

open Http Api Attendance Courses Faces

variable {K : Type}

structure Setting (K : Type) where
  formats : Formats
  api : Api.Setting K
  users : Users.Setting

section Requests

variable (uuids : UuidSource) (codec : Codec) (users : Table User.clash) (actor : AuthContext)

/-- The transactions a request may run, whatever it has read before. -/
inductive Writes : Api.Request → (α : Type) → Statement K α → Prop where
  | createCourse (input : CreateCourseInput) (professorId : Uuid) :
      Writes (.createCourse input) Course
        (createCourseRow uuids users input.code input.title professorId)
  | updateCourse (id : Uuid) (input : UpdateCourseInput) (professorId : Option Uuid) :
      Writes (.updateCourse id input) Course (updateCourseRow users id { input with professorId })
  | deleteCourse (id : Uuid) : Writes (.deleteCourse id) Unit (deleteCourseRow id)
  | enrollStudent (courseId : Uuid) (input : ResolveInput) (now : Instant) :
      Writes (.enrollStudent courseId input) ResolveResult
        (resolveAndLinkStudent uuids now courseId input)
  | bulkEnroll (courseId : Uuid) (rows : List BulkImportRow) (now : Instant) :
      Writes (.bulkEnroll courseId rows) ImportJob
        (createBulkImportJobTx uuids now courseId actor.userId rows)
  | unenrollStudent (courseId studentId : Uuid) :
      Writes (.unenrollStudent courseId studentId) Unit (deleteEnrollmentRow courseId studentId)
  | openSession (courseId : Uuid) :
      Writes (.openSession courseId) AttendanceSession
        (createSessionRow uuids users courseId actor.userId)
  | closeSession (id : Uuid) (now : Instant) :
      Writes (.closeSession id) AttendanceSession (closeUpdate id now)
  | markAttendance (sessionId : Uuid) (input : MarkAttendanceInput) (session : AttendanceSession)
      (now : Instant) :
      Writes (.markAttendance sessionId input) (AttendanceRecord K)
        (markAttendanceTx uuids now session input)
  | identify (sessionId : Uuid) (session : AttendanceSession) (best : NearestMatch K)
      (now : Instant) :
      Writes (.identify sessionId) (AttendanceRecord K) (identifyTx uuids now session best)
  | createStudent (input : CreateStudentInput) :
      Writes (.createStudent input) Student
        (FaceVec.createStudent uuids input.studentNumber input.fullName input.email)
  | updateStudent (id : Uuid) (input : UpdateStudentInput) :
      Writes (.updateStudent id input) Student (updateStudentRow id input)
  | deleteStudent (id : Uuid) : Writes (.deleteStudent id) Unit (deleteStudentRow id)
  | enrollFace (studentId : Uuid) (file : UploadedImage) (result : EmbeddingResult K)
      (face : DetectedFace K) (usable : usableFace result = .ok face) :
      Writes (.enrollFace studentId file) (FaceEmbedding K)
        (insertEmbedding uuids studentId face result.model (codec.sha256 file.buffer))
  | removeFace (studentId embeddingId : Uuid) :
      Writes (.removeFace studentId embeddingId) Nat (deleteEmbedding studentId embeddingId)

end Requests

section Serving

variable (uuids : UuidSource) (codec : Codec) (actor : AuthContext) (request : Api.Request)
  (met : Circumstances K) (platform : Platform K)

/-- The handler has run at most one transaction, and that is one of the request. -/
def WritesOnce (after : Platform K) : Prop :=
  after.db = platform.db ∨ ∃ (α : Type) (body : Statement K α),
    Writes uuids codec platform.users actor request α body ∧
      after.db = (transaction body met.fate.chances met.fate.ending platform.db).2

variable {uuids codec actor request met platform}

theorem provided_writes {α : Type} (check : Except Failure α) (next : α → Reply K × Platform K)
    (writes : ∀ value, check = .ok value →
      WritesOnce uuids codec actor request met platform (next value).2) :
    WritesOnce uuids codec actor request met platform (provided check platform next).2 := by
  unfold provided
  split
  · exact Or.inl rfl
  · exact writes _ rfl

theorem provided_reads {α : Type} (check : Except Failure α) (next : α → Reply K × Platform K)
    (same : ∀ value, (next value).2 = platform) :
    WritesOnce uuids codec actor request met platform (provided check platform next).2 :=
  provided_writes check next fun value _ => Or.inl (congrArg _ (same value))

theorem transact_writes {α : Type} (body : Statement K α) (failed : Failure → Failure)
    (amend : Platform K → Platform K) (answer : Platform K → α → Reply K)
    (own : Writes uuids codec platform.users actor request α body)
    (amends : ∀ after, (amend after).db = after.db) :
    WritesOnce uuids codec actor request met platform
      (transact body failed amend answer met platform).2 :=
  Or.inr ⟨α, body, own, transact_db met platform body failed amend answer amends⟩

end Serving

theorem identify_writes [Ring K] [LinearOrder K] (uuids : UuidSource) (codec : Codec)
    (actor : AuthContext) (vision : Vision K) (threshold : K) (sessionId : Uuid)
    (met : Circumstances K) (platform : Platform K) :
    WritesOnce uuids codec actor (.identify sessionId) met platform
      (identify uuids actor vision threshold sessionId met platform).2 := by
  refine provided_writes _ _ fun session _ => provided_writes _ _ fun embedding _ => ?_
  dsimp only
  split
  · exact Or.inl rfl
  · exact transact_writes _ _ _ _ (.identify _ _ _ _) fun _ => rfl

theorem enrollFace_writes (uuids : UuidSource) (codec : Codec) (actor : AuthContext)
    (studentId : Uuid) (file : UploadedImage) (met : Circumstances K) (platform : Platform K) :
    WritesOnce uuids codec actor (.enrollFace studentId file) met platform
      (enrollFace uuids codec studentId file met platform).2 := by
  refine provided_writes _ _ fun _ _ => ?_
  split
  · exact Or.inl rfl
  · split
    · -- The AI service failed: nothing but the queue changes.
      split
      · dsimp only
        split <;> exact Or.inl rfl
      · exact Or.inl rfl
    · next result _ =>
        exact provided_writes _ _ fun face usable =>
          transact_writes _ _ _ _ (.enrollFace studentId file result face usable) fun _ => rfl

/-- Serving a request from beginning to end is a read, or one of its transactions. -/
theorem handle_writes [Ring K] [LinearOrder K] (setting : Api.Setting K) (actor : AuthContext)
    (request : Api.Request) (met : Circumstances K) (platform : Platform K) :
    WritesOnce setting.uuids setting.codec actor request met platform
      (handle setting actor request met platform).2 := by
  cases request with
  | listCourses query => exact Or.inl rfl
  | createCourse input => exact transact_writes _ _ _ _ (.createCourse _ _) fun _ => rfl
  | getCourse id => exact provided_reads _ _ fun _ => rfl
  | updateCourse id input =>
      exact provided_writes _ _ fun _ _ => transact_writes _ _ _ _ (.updateCourse _ _ _) fun _ => rfl
  | deleteCourse id =>
      exact provided_writes _ _ fun _ _ => transact_writes _ _ _ _ (.deleteCourse _) fun _ => rfl
  | listEnrollments courseId query => exact provided_reads _ _ fun _ => rfl
  | enrollStudent courseId input =>
      exact provided_writes _ _ fun _ _ => transact_writes _ _ _ _ (.enrollStudent _ _ _) fun _ => rfl
  | bulkEnroll courseId rows =>
      exact provided_writes _ _ fun _ _ => transact_writes _ _ _ _ (.bulkEnroll _ _ _) fun _ => rfl
  | getImportJob courseId jobId =>
      exact provided_writes _ _ fun _ _ => provided_reads _ _ fun _ => rfl
  | unenrollStudent courseId studentId =>
      exact provided_writes _ _ fun _ _ => transact_writes _ _ _ _ (.unenrollStudent _ _) fun _ => rfl
  | openSession courseId =>
      exact provided_writes _ _ fun _ _ => transact_writes _ _ _ _ (.openSession _) fun _ => rfl
  | listSessions courseId query => exact provided_reads _ _ fun _ => rfl
  | getSession id => exact provided_reads _ _ fun _ => rfl
  | closeSession id =>
      refine provided_writes _ _ fun _ _ => ?_
      split
      · exact Or.inl rfl
      · exact transact_writes _ _ _ _ (.closeSession _ _) fun _ => rfl
  | markAttendance sessionId input =>
      exact provided_writes _ _ fun _ _ =>
        transact_writes _ _ _ _ (.markAttendance _ _ _ _) fun _ => rfl
  | identify sessionId => exact identify_writes _ _ _ _ _ _ _ _
  | listRecords sessionId query => exact provided_reads _ _ fun _ => rfl
  | listStudents query => exact Or.inl rfl
  | createStudent input => exact transact_writes _ _ _ _ (.createStudent _) fun _ => rfl
  | getStudent id => exact provided_reads _ _ fun _ => rfl
  | updateStudent id input => exact transact_writes _ _ _ _ (.updateStudent _ _) fun _ => rfl
  | deleteStudent id => exact transact_writes _ _ _ _ (.deleteStudent _) fun _ => rfl
  | enrollFace studentId file => exact enrollFace_writes _ _ _ _ _ _ _
  | listFaces studentId => exact provided_reads _ _ fun _ => rfl
  | removeFace studentId embeddingId =>
      exact provided_writes _ _ fun _ _ => transact_writes _ _ _ _ (.removeFace _ _) fun _ => rfl

theorem writes_program {formats : Formats} {checked : Prop} {uuids : UuidSource} {codec : Codec}
    {users : Table User.clash} {actor : AuthContext} {request : Api.Request} {α : Type}
    {body : Statement K α} (fits : checked → WellFormed formats (.api request))
    (writes : Writes uuids codec users actor request α body) :
    Program formats checked uuids users body := by
  cases writes with
  | createCourse input professorId =>
      exact .elementary _ _ (.createCourse _ _ _ fun check => ⟨(fits check).code, (fits check).title⟩)
  | updateCourse id input professorId =>
      exact .elementary _ _ (.updateCourse _ _ fun check => ⟨(fits check).code, (fits check).title⟩)
  | deleteCourse id => exact .elementary _ _ (.deleteCourse id)
  | enrollStudent courseId input now =>
      exact resolveAndLinkStudent_program now courseId input fun check =>
        EnrollStudentFits.roster (fits check)
  | bulkEnroll courseId rows now => exact createBulkImportJobTx_program now courseId _ rows fits
  | unenrollStudent courseId studentId => exact .elementary _ _ (.deleteEnrollment _ _)
  | openSession courseId => exact .elementary _ _ (.createSession _ _)
  | closeSession id now => exact .elementary _ _ (.closeSession _ _)
  | markAttendance sessionId input session now => exact recordAttendance_program now session _ _
  | identify sessionId session best now => exact recordAttendance_program now session _ _
  | createStudent input =>
      exact .elementary _ _ (.createStudent _ _ _ fits)
  | updateStudent id input => exact .elementary _ _ (.updateStudent _ _ fits)
  | deleteStudent id => exact .elementary _ _ (.deleteStudent id)
  | enrollFace studentId file result face usable =>
      exact .elementary _ _ (.insertEmbedding _ _ _ _ (usableFace_whole result face usable))
  | removeFace studentId embeddingId => exact .elementary _ _ (.deleteEmbedding _ _)

section Steps

/-- The relay's two updates of an outbox row. -/
inductive RelayWrite : (OutboxMessage (EventPayload K) → OutboxMessage (EventPayload K)) → Prop where
  | published (now : Instant) : RelayWrite (Outbox.markPublished now)
  | failed (maxAttempts : ℕ+) (now : Instant) (message : String) :
      RelayWrite (Outbox.recordFailure maxAttempts now message)

theorem RelayWrite.keeps {write : OutboxMessage (EventPayload K) → OutboxMessage (EventPayload K)}
    (relays : RelayWrite write) (row : OutboxMessage (EventPayload K)) :
    (write row).id = row.id ∧ (write row).payload = row.payload := by
  cases relays <;> exact ⟨rfl, rfl⟩

def updateMessage (id : Uuid)
    (write : OutboxMessage (EventPayload K) → OutboxMessage (EventPayload K))
    (row : OutboxMessage (EventPayload K)) : OutboxMessage (EventPayload K) :=
  if row.id = id then write row else row

theorem updateMessage_keeps {write : OutboxMessage (EventPayload K) → OutboxMessage (EventPayload K)}
    (relays : RelayWrite write) (id : Uuid) (row : OutboxMessage (EventPayload K)) :
    (updateMessage id write row).id = row.id ∧ (updateMessage id write row).payload = row.payload := by
  unfold updateMessage
  split
  · exact relays.keeps row
  · exact ⟨rfl, rfl⟩

def withDb (db : Database K) (store : Users.Store K) : Users.Store K :=
  { store with directory := { store.directory with db } }

/-- The state after a transaction over the tables other than the accounts'. -/
def run {α : Type} (body : Statement K α) (fate : Fate) (store : Users.Store K) : Users.Store K :=
  withDb (transaction body fate.chances fate.ending store.directory.db).2 store

variable (setting : Setting K)

/-- What a request of the auth and the users router carries has passed validation. -/
def Validated (call : Users.Call) : Prop :=
  (∀ input context, call = .registering input context →
    ∃ auth incoming actor, dispatch setting.formats auth incoming = .handled actor (.register input)) ∧
  ∀ actor request, call = .acting actor request →
    (∃ gates, request = .elsewhere gates) ∨
      ∃ auth incoming, dispatch setting.formats auth incoming = .handled (some actor) (.users request)

inductive Step : Users.Store K → Users.Store K → Prop where
  | api (store : Users.Store K) (auth : Except Failure AuthContext) (incoming : Incoming)
      (actor : AuthContext) (request : Api.Request)
      (handled : dispatch setting.formats auth incoming = .handled (some actor) (.api request))
      (α : Type) (body : Statement K α)
      (writes : Writes setting.api.uuids setting.api.codec store.directory.users actor request α body)
      (fate : Fate) : Step store (run body fate store)
  | account (store : Users.Store K) (input : Users.Input) (call : Users.Call)
      (validated : Validated setting call) : Step store (Users.exec setting.users input store call).1
  | importRow (store : Users.Store K) (jobId courseId : Uuid) (rows : List BulkImportRow)
      (requested : (jobId, courseId, rows) ∈ importEvents store.directory.db) (row : BulkImportRow)
      (listed : row ∈ rows) (now : Instant) (fate : Fate) :
      Step store
        (run (resolveAndLinkStudent setting.api.uuids now courseId (importInput row)) fate store)
  | importJob (store : Users.Store K) (id : Uuid) (data : Import.JobData) (fate : Fate) :
      Step store (run (Import.updateImportJob id data) fate store)
  | faceTask (store : Users.Store K) (studentId : Uuid) (result : EmbeddingResult K)
      (face : DetectedFace K) (usable : usableFace result = .ok face) (hash : String) (fate : Fate) :
      Step store (run (insertEmbedding setting.api.uuids studentId face result.model hash) fate store)
  | relay (store : Users.Store K) (id : Uuid)
      (write : OutboxMessage (EventPayload K) → OutboxMessage (EventPayload K))
      (relays : RelayWrite write) :
      Step store (withDb
        { store.directory.db with
          outboxMessages := store.directory.db.outboxMessages.modify (updateMessage id write) (by
            intro a b
            simp [OutboxMessage.clash, updateMessage_keeps relays]) } store)
  | tick (store : Users.Store K) (milliseconds : Nat) :
      Step store { store with clock := store.clock + milliseconds }

/-- Any number of steps, in any order. -/
abbrev Run : Users.Store K → Users.Store K → Prop := Relation.ReflTransGen (Step setting)

variable {setting}

/-- A request served from beginning to end leaves the store where a run may bring it. -/
theorem handle_run [Ring K] [LinearOrder K] {auth : Except Failure AuthContext}
    {incoming : Incoming} {actor : AuthContext} {request : Api.Request}
    (handled : dispatch setting.formats auth incoming = .handled (some actor) (.api request))
    (store : Users.Store K) (met : Circumstances K) (platform : Platform K)
    (sameDb : platform.db = store.directory.db)
    (sameUsers : platform.users = store.directory.users) :
    Run setting store (withDb (handle setting.api actor request met platform).2.db store) := by
  obtain same | ⟨α, body, writes, same⟩ := handle_writes setting.api actor request met platform
  · rw [same, sameDb]
    exact .refl
  · rw [same, sameDb]
    rw [sameUsers] at writes
    exact .single (.api store auth incoming actor request handled α body writes met.fate)

end Steps

section Town

def town : Setting ℤ := ⟨plain, school, Users.office⟩

theorem owned_empty (users : Table User.clash) :
    ∀ token ∈ (.empty : Table RefreshToken.clash), ∃ user ∈ users, user.id = token.userId :=
  fun _ member => absurd member List.not_mem_nil

def staffed (db : Database ℤ) : Users.Store ℤ where
  directory :=
    { accounts := ⟨.single ⟨7, "a@b", "", .PROFESSOR, true⟩, .empty, Users.chained_empty⟩
      profiles _ := ⟨"Ada", 0, 0⟩
      db
      owned := owned_empty _ }
  redis := Users.noRevocation
  clock := 0
  signed := []
  grants := []

end Town

end FaceVec.Site

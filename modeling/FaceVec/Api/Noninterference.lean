import FaceVec.Api.Alike

/-!
What a professor sees does not depend on the courses of others: two platforms
that agree on the professor's view answer every sequence of requests to the
course and attendance routes alike, and go on to agree.
-/

namespace FaceVec.Api

open Attendance Courses

variable {K : Type}

/-- Two platforms agree on what a professor sees, the time stamps included. -/
structure Agree (professorId : Uuid) (left right : Platform K) : Prop where
  same : view left.db professorId = view right.db professorId
  users : left.users = right.users
  students : ∀ student ∈ left.db.students,
    left.stamps.students student.id = right.stamps.students student.id
  courses : ∀ course ∈ (view left.db professorId).courses,
    left.stamps.courses course.id = right.stamps.courses course.id
  importJobs : ∀ job ∈ (view left.db professorId).importJobs,
    left.stamps.importJobs job.id = right.stamps.importJobs job.id
  courseEnrollments : ∀ row ∈ (view left.db professorId).courseEnrollments,
    left.stamps.courseEnrollments row.id = right.stamps.courseEnrollments row.id
  attendanceSessions : ∀ session ∈ (view left.db professorId).attendanceSessions,
    left.stamps.attendanceSessions session.id = right.stamps.attendanceSessions session.id

section Stamps

variable {Row : Type} {clash : Row → Row → Bool}

/-- The rows that are not among one's own stay, and stay so. -/
structure Kept (before after : Table clash) (mine mineNow : List Row) : Prop where
  inside : ∀ row ∈ mine, row ∈ before
  insideNow : ∀ row ∈ mineNow, row ∈ after
  others : ∀ row ∈ before, row ∉ mine → row ∈ after ∧ row ∉ mineNow

variable {before after other otherAfter : Table clash} {mine mineNow : List Row} (key : Row → Uuid)
  (keyed : ∀ a b, key a = key b → clash a b = true)

include keyed

/-- A row of one's own either was one's own, or has a new id. -/
theorem mine_before (kept : Kept before after mine mineNow) (row : Row) (own : row ∈ mineNow)
    (used : key row ∈ before.rows.map key) : ∃ old ∈ mine, key old = key row := by
  obtain ⟨old, member, same⟩ := List.mem_map.mp used
  by_contra apart
  obtain ⟨inside, foreigner⟩ := kept.others old member fun own => apart ⟨old, own, same⟩
  rw [after.eq_of_clash old row inside (kept.insideNow row own) (keyed _ _ same)
    (keyed _ _ same.symm)] at foreigner
  exact foreigner own

/-- New rows have one stamp, and the old ones keep theirs. -/
theorem stampNew_agrees {α : Type} (fresh : α) (stamps theirs : Uuid → α)
    (kept : Kept before after mine mineNow) (kept' : Kept other otherAfter mine mineNow)
    (agree : ∀ row ∈ mine, stamps (key row) = theirs (key row)) (row : Row) (own : row ∈ mineNow) :
    stampNew (before.rows.map key) fresh stamps (key row) =
      stampNew (other.rows.map key) fresh theirs (key row) := by
  unfold stampNew
  by_cases old : ∃ old ∈ mine, key old = key row
  · obtain ⟨old, member, same⟩ := old
    rw [if_pos (List.mem_map.mpr ⟨old, kept.inside old member, same⟩),
      if_pos (List.mem_map.mpr ⟨old, kept'.inside old member, same⟩), ← same, agree old member]
  · rw [if_neg fun used => old (mine_before key keyed kept row own used),
      if_neg fun used => old (mine_before key keyed kept' row own used)]

end Stamps

section Settling

variable {db after : Database K} {professorId : Uuid}
  (left : foreign after professorId = foreign db professorId)

include left

theorem kept_courses : Kept db.courses after.courses (view db professorId).courses
    (view after professorId).courses where
  inside course own := ((mem_courses _ _ _).mp own).1
  insideNow course own := ((mem_courses _ _ _).mp own).1
  others course stored foreigner := by
    rw [mem_courses] at foreigner ⊢
    obtain ⟨inside, others⟩ := (Set.ext_iff.mp (congrArg Foreign.courses left) course).mpr
      ⟨stored, fun own => foreigner ⟨stored, own⟩⟩
    exact ⟨inside, fun own => others own.2⟩

theorem kept_importJobs : Kept db.importJobs after.importJobs (view db professorId).importJobs
    (view after professorId).importJobs where
  inside job own := ((mem_importJobs _ _ _).mp own).1
  insideNow job own := ((mem_importJobs _ _ _).mp own).1
  others job stored foreigner := by
    rw [mem_importJobs] at foreigner ⊢
    obtain ⟨inside, others⟩ := (Set.ext_iff.mp (congrArg Foreign.importJobs left) job).mpr
      ⟨stored, fun own => foreigner ⟨stored, own⟩⟩
    exact ⟨inside, fun own => others own.2⟩

theorem kept_courseEnrollments : Kept db.courseEnrollments after.courseEnrollments
    (view db professorId).courseEnrollments (view after professorId).courseEnrollments where
  inside row own := ((mem_courseEnrollments _ _ _).mp own).1
  insideNow row own := ((mem_courseEnrollments _ _ _).mp own).1
  others row stored foreigner := by
    rw [mem_courseEnrollments] at foreigner ⊢
    obtain ⟨inside, others⟩ := (Set.ext_iff.mp (congrArg Foreign.courseEnrollments left) row).mpr
      ⟨stored, fun own => foreigner ⟨stored, own⟩⟩
    exact ⟨inside, fun own => others own.2⟩

theorem kept_sessions : Kept db.attendanceSessions after.attendanceSessions
    (view db professorId).attendanceSessions (view after professorId).attendanceSessions where
  inside session own := ((mem_sessions _ _ _).mp own).1
  insideNow session own := ((mem_sessions _ _ _).mp own).1
  others session stored foreigner := by
    rw [mem_sessions] at foreigner ⊢
    obtain ⟨inside, others⟩ := (Set.ext_iff.mp (congrArg Foreign.attendanceSessions left) session).mpr
      ⟨stored, fun own => foreigner ⟨stored, own⟩⟩
    exact ⟨inside, fun own => others own.2⟩

end Settling

/-- The platform after its database has gone on to `db`. -/
def Platform.settled (platform : Platform K) (now : Instant) (db : Database K) : Platform K :=
  { platform with db := db, stamps := platform.stamps.settle now platform.db }

section Agreement

variable {professorId : Uuid} {left right : Platform K} (agree : Agree professorId left right)

include agree

theorem settled_agrees (now : Instant) (first second : Database K)
    (same : view first professorId = view second professorId)
    (kept : foreign first professorId = foreign left.db professorId)
    (kept' : foreign second professorId = foreign right.db professorId) :
    Agree professorId (left.settled now first) (right.settled now second) where
  same := same
  users := agree.users
  students student _ := by
    have students : left.db.students = right.db.students := congrArg View.students agree.same
    change stampNew _ _ _ _ = stampNew _ _ _ _
    rw [students]
    unfold stampNew
    split
    · next used =>
        obtain ⟨old, member, sameId⟩ := List.mem_map.mp used
        rw [← sameId]
        exact agree.students old (students ▸ member)
    · rfl
  courses := by
    have other := kept_courses kept'
    rw [← same, ← agree.same] at other
    exact stampNew_agrees (·.id) (by simp_all [Course.clash]) _ _ _ (kept_courses kept) other
      agree.courses
  importJobs := by
    have other := kept_importJobs kept'
    rw [← same, ← agree.same] at other
    exact stampNew_agrees (·.id) (by simp_all [ImportJob.clash]) _ _ _ (kept_importJobs kept) other
      agree.importJobs
  courseEnrollments := by
    have other := kept_courseEnrollments kept'
    rw [← same, ← agree.same] at other
    exact stampNew_agrees (·.id) (by simp_all [CourseEnrollment.clash]) _ _ _
      (kept_courseEnrollments kept) other agree.courseEnrollments
  attendanceSessions := by
    have other := kept_sessions kept'
    rw [← same, ← agree.same] at other
    exact stampNew_agrees (·.id) (by simp_all [AttendanceSession.clash]) _ _ _ (kept_sessions kept)
      other agree.attendanceSessions

theorem serializeStudent_alike (student : Student) (stored : student ∈ left.db.students) :
    serializeStudent left student = serializeStudent right student := by
  simp only [serializeStudent, agree.students student stored]

theorem includeStudent_alike (studentId : Uuid) :
    includeStudent left studentId = includeStudent right studentId := by
  unfold includeStudent
  rw [← findStudent_alike agree.same]
  cases found : findStudent left.db studentId with
  | none => rfl
  | some student =>
      exact congrArg some (serializeStudent_alike agree student (List.mem_of_find?_eq_some found))

theorem serializeCourse_alike (course : Course) (own : course ∈ (view left.db professorId).courses) :
    serializeCourse left course = serializeCourse right course := by
  simp only [serializeCourse, agree.courses course own]

theorem serializeEnrollment_alike (row : CourseEnrollment)
    (own : row ∈ (view left.db professorId).courseEnrollments) :
    serializeEnrollment left row = serializeEnrollment right row := by
  simp only [serializeEnrollment, agree.courseEnrollments row own, includeStudent_alike agree]

theorem serializeImportJob_alike (job : ImportJob)
    (own : job ∈ (view left.db professorId).importJobs) :
    serializeImportJob left job = serializeImportJob right job := by
  simp only [serializeImportJob, agree.importJobs job own]

theorem serializeSession_alike (session : AttendanceSession)
    (own : session ∈ (view left.db professorId).attendanceSessions) :
    serializeSession left session = serializeSession right session := by
  simp only [serializeSession, agree.attendanceSessions session own]

theorem serializeRecord_alike (record : AttendanceRecord K) :
    serializeRecord left record = serializeRecord right record := by
  simp only [serializeRecord, includeStudent_alike agree]

end Agreement

section Pages

variable {Row Dto : Type} (stamp other : Row → Instant)

theorem newestFirst_alike (rows : List Row) (equal : ∀ row ∈ rows, stamp row = other row) :
    newestFirst stamp rows = newestFirst other rows := by
  have sorted := List.map_insertionSort (fun a b => stamp b ≤ stamp a)
    (fun a b => other b ≤ other a) id rows fun a inA b inB => by
      rw [equal a inA, equal b inB]
      rfl
  simpa [newestFirst] using sorted

theorem paginated_alike (query : Pagination) (rows : List Row) (map mapOther : Row → Dto)
    (equal : ∀ row ∈ rows, stamp row = other row) (shown : ∀ row ∈ rows, map row = mapOther row) :
    paginatedResponse (pageOf query stamp rows) map =
      paginatedResponse (pageOf query other rows) mapOther := by
  have items : (pageOf query stamp rows).items.map map =
      (pageOf query other rows).items.map mapOther := by
    simp only [pageOf, newestFirst_alike stamp other rows equal]
    refine List.map_congr_left fun row member => shown row ?_
    have inside := List.mem_of_mem_drop (List.mem_of_mem_take member)
    exact (List.mem_insertionSort _).mp inside
  simp only [paginatedResponse, items]
  rfl

end Pages

def Agrees (professorId : Uuid) (one other : Reply K × Platform K) : Prop :=
  one.1 = other.1 ∧ Agree professorId one.2 other.2

/-- What the statements of a request may draw. -/
def Circumstances.draws (met : Circumstances K) : List Nat := 0 :: met.fate.chances.map (·.draw)

theorem draws_permitted (met : Circumstances K) :
    Permitted (· ∈ met.draws) met.fate.chances :=
  ⟨List.mem_cons_self, fun _ member => List.mem_cons_of_mem _ (List.mem_map_of_mem member)⟩

section Handlers

variable {professorId : Uuid} {left right : Platform K} (agree : Agree professorId left right)

include agree

theorem provided_agrees {α : Type} {check other : Except Failure α}
    {next goes : α → Reply K × Platform K} (equal : check = other)
    (agrees : ∀ value, check = .ok value → Agrees professorId (next value) (goes value)) :
    Agrees professorId (provided check left next) (provided other right goes) := by
  subst equal
  unfold provided
  cases check with
  | error failure => exact ⟨rfl, agree⟩
  | ok value => exact agrees value rfl

theorem transact_agrees {α : Type} {body : Statement K α} {shown : α → View K → Prop}
    (failed : Failure → Failure) (amend : Platform K → Platform K)
    (answer : Platform K → α → Reply K) (met : Circumstances K)
    (twin : Coupled (· ∈ met.draws) (fun x y => x = left.db ∧ y = right.db) body body
      (Twin professorId shown))
    (kept : Triple (· = left.db) body fun _ after =>
      foreign after professorId = foreign left.db professorId)
    (kept' : Triple (· = right.db) body fun _ after =>
      foreign after professorId = foreign right.db professorId)
    (amends : ∀ x y, Agree professorId x y → Agree professorId (amend x) (amend y) ∧
      (amend x).db = x.db)
    (answers : ∀ value x y, Agree professorId x y → shown value (view x.db professorId) →
      answer x value = answer y value) :
    Agrees professorId (transact body failed amend answer met left)
      (transact body failed amend answer met right) := by
  have both := coupled_and body body left.db right.db twin kept kept'
  rcases transaction_coupled body body met.fate.chances met.fate.ending left.db right.db both
    (draws_permitted met) ⟨rfl, rfl⟩ with
    ⟨error, ran, ran', aborted, aborted'⟩ |
      ⟨a, _, x, y, ⟨⟨rfl, same, seen⟩, mine, mine'⟩, committed, committed', ends⟩
  · have settled := settled_agrees agree met.now left.db right.db agree.same rfl rfl
    unfold transact
    rw [ran, ran', aborted, aborted']
    exact ⟨rfl, settled⟩
  · have settled := settled_agrees agree met.now x y same mine mine'
    obtain ⟨amended, db⟩ := amends _ _ settled
    have answered := answers a _ _ amended (by rw [db]; exact seen)
    unfold transact
    rcases ends with ⟨ran, ran'⟩ | ⟨error, ran, ran'⟩
    · rw [ran, ran', committed, committed']
      exact ⟨answered, amended⟩
    · rw [ran, ran', committed, committed']
      exact ⟨rfl, amended⟩

end Handlers

/-- The ids that a request generates are the same in both databases. -/
def SameIds (uuids : UuidSource) (request : Request) (met : Circumstances K)
    (left right : Database K) : Prop :=
  match request with
  | .createCourse _ => SameDraws uuids (· ∈ met.draws) courseIds left right
  | .enrollStudent _ _ => SameDraws uuids (· ∈ met.draws) studentIds left right ∧
      SameDraws uuids (· ∈ met.draws) enrollmentIds left right
  | .bulkEnroll _ _ => SameDraws uuids (· ∈ met.draws) jobIds left right
  | .openSession _ => SameDraws uuids (· ∈ met.draws) sessionIds left right
  | .markAttendance _ _ | .identify _ => SameDraws uuids (· ∈ met.draws) recordIds left right
  | _ => True

section Requests

variable (uuids : UuidSource) (actor : AuthContext) (limited : actor.role ≠ .ADMIN)
  {left right : Platform K} (agree : Agree actor.userId left right) (met : Circumstances K)

include agree

theorem record_agrees (session : AttendanceSession) (studentId : Uuid) (data : RecordData K)
    (failed : Failure → Failure) (answer : Platform K → AttendanceRecord K → Reply K)
    (mine : OwnedSession left.db actor.userId session.id)
    (mine' : OwnedSession right.db actor.userId session.id)
    (drawn : SameDraws uuids (· ∈ met.draws) recordIds left.db right.db)
    (answers : ∀ record x y, Agree actor.userId x y → answer x record = answer y record) :
    Agrees actor.userId
      (transact (recordAttendance uuids met.now session studentId data) failed (fun after => after)
        answer met left)
      (transact (recordAttendance uuids met.now session studentId data) failed (fun after => after)
        answer met right) := by
  apply transact_agrees agree
  · exact recordAttendance_coupled uuids _ met.now session studentId data agree.same drawn mine
  · exact recordAttendance_foreign left.db actor.userId uuids met.now session studentId data mine
  · exact recordAttendance_foreign right.db actor.userId uuids met.now session studentId data mine'
  · exact fun x y agree => ⟨agree, rfl⟩
  · exact fun record x y agree _ => answers record x y agree


include limited

/-- A handler that first fetches the actor's course goes on with the same course. -/
theorem course_agrees (id : Uuid) {next goes : Course → Reply K × Platform K}
    (agrees : ∀ course ∈ (view left.db actor.userId).courses, course.id = id →
      Owned left.db actor.userId id → Owned right.db actor.userId id →
        Agrees actor.userId (next course) (goes course)) :
    Agrees actor.userId (provided (met.read (getCourseForActor left.db id actor)) left next)
      (provided (met.read (getCourseForActor right.db id actor)) right goes) := by
  apply provided_agrees agree
  · rw [getCourse_alike actor limited agree.same]
  · intro course passed
    obtain ⟨stored, ofId, either⟩ := getCourse_ok _ _ _ _ (read_ok met _ _ passed)
    have mine := owned_course actor met left limited id course passed
    exact agrees course ((mem_courses _ _ _).mpr ⟨stored, either.resolve_left limited⟩) ofId mine
      ((owned_alike agree.same id).mp mine)

theorem listCourses_agrees (contains : Contains) (query : ListCoursesQuery) :
    Agrees actor.userId (listCourses contains actor query met left)
      (listCourses contains actor query met right) := by
  have selected : ∀ db : Database K, db.courses.rows.filter (query.selects contains actor) =
      (view db actor.userId).courses.filter (query.selects contains actor) := by
    intro db
    refine filter_mine _ _ _ fun course wanted => ?_
    rw [ListCoursesQuery.selects, if_pos limited, Bool.and_eq_true] at wanted
    simpa using wanted.1
  refine ⟨congrArg (fun page => met.read (.ok (200, Body.courses page))) ?_, agree⟩
  rw [selected, selected, ← agree.same]
  apply paginated_alike
  · intro course member
    rw [agree.courses course (List.mem_of_mem_filter member)]
  · exact fun course member => serializeCourse_alike agree course (List.mem_of_mem_filter member)

theorem getCourse_agrees (id : Uuid) :
    Agrees actor.userId (getCourse actor id met left) (getCourse actor id met right) := by
  apply course_agrees actor limited agree met
  intro course own _ _ _
  exact ⟨by rw [serializeCourse_alike agree course own], agree⟩

theorem createCourse_agrees (input : CreateCourseInput)
    (drawn : SameDraws uuids (· ∈ met.draws) courseIds left.db right.db) :
    Agrees actor.userId (createCourse uuids actor input met left)
      (createCourse uuids actor input met right) := by
  unfold createCourse
  dsimp only
  rw [if_neg limited, ← agree.users]
  apply transact_agrees agree
  · exact createCourseRow_coupled uuids left.users _ _ _ agree.same drawn
  · exact createCourseRow_foreign left.db actor.userId uuids _ _ _
  · exact createCourseRow_foreign right.db actor.userId uuids _ _ _
  · exact fun x y agree => ⟨agree, rfl⟩
  · intro course x y agree own
    rw [serializeCourse_alike agree course own]

theorem updateCourse_agrees (id : Uuid) (input : UpdateCourseInput) :
    Agrees actor.userId (updateCourse actor id input met left)
      (updateCourse actor id input met right) := by
  apply course_agrees actor limited agree met
  intro _ _ _ mine mine'
  rw [if_neg limited, ← agree.users]
  apply transact_agrees agree
  · exact updateCourseRow_coupled left.users _ id _ rfl agree.same mine
  · exact updateCourseRow_foreign left.db actor.userId left.users id _ rfl mine
  · exact updateCourseRow_foreign right.db actor.userId left.users id _ rfl mine'
  · intro x y agree
    refine ⟨{ agree with courses := fun course own => ?_ }, rfl⟩
    simp only [touch, Function.update_apply]
    split
    · next same => rw [← same, agree.courses course own]
    · exact agree.courses course own
  · intro course x y agree own
    rw [serializeCourse_alike agree course own]

theorem deleteCourse_agrees (id : Uuid) :
    Agrees actor.userId (deleteCourse actor id met left) (deleteCourse actor id met right) := by
  apply course_agrees actor limited agree met
  intro _ _ _ mine mine'
  apply transact_agrees agree
  · exact deleteCourseRow_coupled _ id agree.same mine
  · exact deleteCourseRow_foreign left.db actor.userId id mine
  · exact deleteCourseRow_foreign right.db actor.userId id mine'
  · exact fun x y agree => ⟨agree, rfl⟩
  · exact fun _ _ _ _ _ => rfl

theorem listEnrollments_agrees (courseId : Uuid) (query : Pagination) :
    Agrees actor.userId (listEnrollments actor courseId query met left)
      (listEnrollments actor courseId query met right) := by
  apply course_agrees actor limited agree met
  intro _ _ _ mine mine'
  refine ⟨congrArg (fun page => (.ok (200, Body.enrollments page) : Reply K)) ?_, agree⟩
  rw [enrollments_below left.db _ _ mine, enrollments_below right.db _ _ mine', ← agree.same]
  apply paginated_alike
  · exact fun row member => agree.courseEnrollments row (List.mem_of_mem_filter member)
  · exact fun row member => serializeEnrollment_alike agree row (List.mem_of_mem_filter member)

theorem enrollStudent_agrees (courseId : Uuid) (input : ResolveInput)
    (drawn : SameDraws uuids (· ∈ met.draws) studentIds left.db right.db)
    (drawn' : SameDraws uuids (· ∈ met.draws) enrollmentIds left.db right.db) :
    Agrees actor.userId (enrollStudent uuids actor courseId input met left)
      (enrollStudent uuids actor courseId input met right) := by
  apply course_agrees actor limited agree met
  intro _ _ _ mine mine'
  apply transact_agrees agree
  · exact resolveAndLinkStudent_coupled uuids _ courseId met.now input ⟨agree.same, drawn', mine⟩
      drawn
  · exact resolveAndLinkStudent_foreign left.db actor.userId uuids met.now courseId input mine
  · exact resolveAndLinkStudent_foreign right.db actor.userId uuids met.now courseId input mine'
  · exact fun x y agree => ⟨agree, rfl⟩
  · intro result x y agree own
    rw [serializeEnrollment_alike agree result.enrollment own]

theorem unenrollStudent_agrees (courseId studentId : Uuid) :
    Agrees actor.userId (unenrollStudent actor courseId studentId met left)
      (unenrollStudent actor courseId studentId met right) := by
  apply course_agrees actor limited agree met
  intro _ _ _ mine mine'
  apply transact_agrees agree
  · exact deleteEnrollmentRow_coupled _ courseId studentId agree.same mine
  · exact deleteEnrollmentRow_foreign left.db actor.userId courseId studentId mine
  · exact deleteEnrollmentRow_foreign right.db actor.userId courseId studentId mine'
  · exact fun x y agree => ⟨agree, rfl⟩
  · exact fun _ _ _ _ _ => rfl

theorem bulkEnroll_agrees (courseId : Uuid) (rows : List BulkImportRow)
    (drawn : SameDraws uuids (· ∈ met.draws) jobIds left.db right.db) :
    Agrees actor.userId (bulkEnroll uuids actor courseId rows met left)
      (bulkEnroll uuids actor courseId rows met right) := by
  apply course_agrees actor limited agree met
  intro _ _ _ mine mine'
  apply transact_agrees agree
  · exact createBulkImportJobTx_coupled uuids _ met.now courseId actor.userId rows agree.same drawn
      mine
  · exact createBulkImportJobTx_foreign left.db actor.userId uuids met.now courseId _ rows mine
  · exact createBulkImportJobTx_foreign right.db actor.userId uuids met.now courseId _ rows mine'
  · exact fun x y agree => ⟨agree, rfl⟩
  · intro job x y agree own
    rw [serializeImportJob_alike agree job own]

theorem getImportJob_agrees (courseId jobId : Uuid) :
    Agrees actor.userId (getImportJob actor courseId jobId met left)
      (getImportJob actor courseId jobId met right) := by
  apply course_agrees actor limited agree met
  intro _ _ _ mine _
  apply provided_agrees agree
  · exact findJobOfCourse_alike agree.same courseId jobId mine
  · intro job found
    rw [serializeImportJob_alike agree job]
    · exact ⟨rfl, agree⟩
    · rw [findJobOfCourse_eq left.db actor.userId courseId jobId mine] at found
      split at found
      · next lookup =>
          obtain rfl := Except.ok.inj found
          exact List.mem_of_find?_eq_some lookup
      · cases found

theorem openSession_agrees (courseId : Uuid)
    (drawn : SameDraws uuids (· ∈ met.draws) sessionIds left.db right.db) :
    Agrees actor.userId (openSession uuids actor courseId met left)
      (openSession uuids actor courseId met right) := by
  apply course_agrees actor limited agree met
  intro _ _ _ mine mine'
  rw [← agree.users]
  apply transact_agrees agree
  · exact createSessionRow_coupled uuids left.users _ courseId actor.userId agree.same drawn mine
  · exact createSessionRow_foreign left.db actor.userId uuids left.users courseId _ mine
  · exact createSessionRow_foreign right.db actor.userId uuids left.users courseId _ mine'
  · exact fun x y agree => ⟨agree, rfl⟩
  · intro session x y agree own
    rw [serializeSession_alike agree session own]

theorem listSessions_agrees (courseId : Uuid) (query : Pagination) :
    Agrees actor.userId (listSessions actor courseId query met left)
      (listSessions actor courseId query met right) := by
  apply course_agrees actor limited agree met
  intro _ _ _ mine mine'
  refine ⟨congrArg (fun page => (.ok (200, Body.sessions page) : Reply K)) ?_, agree⟩
  rw [sessions_below left.db _ _ mine, sessions_below right.db _ _ mine', ← agree.same]
  apply paginated_alike
  · exact fun row member => agree.attendanceSessions row (List.mem_of_mem_filter member)
  · exact fun row member => serializeSession_alike agree row (List.mem_of_mem_filter member)

theorem session_agrees (id : Uuid) {next goes : AttendanceSession → Reply K × Platform K}
    (agrees : ∀ session ∈ (view left.db actor.userId).attendanceSessions, session.id = id →
      OwnedSession left.db actor.userId id → OwnedSession right.db actor.userId id →
        Agrees actor.userId (next session) (goes session)) :
    Agrees actor.userId (provided (met.read (getSessionForActor left.db id actor)) left next)
      (provided (met.read (getSessionForActor right.db id actor)) right goes) := by
  apply provided_agrees agree
  · rw [getSession_alike actor limited agree.same]
  · intro session passed
    obtain ⟨stored, ofId, either⟩ := getSession_ok _ _ _ _ (read_ok met _ _ passed)
    have mine := owned_session actor left limited id session (read_ok met _ _ passed)
    exact agrees session ((mem_sessions _ _ _).mpr ⟨stored, either.resolve_left limited⟩) ofId mine
      ((ownedSession_alike agree.same id).mp mine)

theorem getSession_agrees (id : Uuid) :
    Agrees actor.userId (getSession actor id met left) (getSession actor id met right) := by
  apply session_agrees actor limited agree met
  intro session own _ _ _
  exact ⟨by rw [serializeSession_alike agree session own], agree⟩

theorem closeSession_agrees (id : Uuid) :
    Agrees actor.userId (closeSession actor id met left) (closeSession actor id met right) := by
  apply session_agrees actor limited agree met
  intro session _ _ mine mine'
  split
  · exact ⟨rfl, agree⟩
  · apply transact_agrees agree
    · exact closeUpdate_coupled _ id met.now agree.same mine
    · exact closeUpdate_foreign left.db actor.userId id met.now mine
    · exact closeUpdate_foreign right.db actor.userId id met.now mine'
    · exact fun x y agree => ⟨agree, rfl⟩
    · intro closed x y agree own
      rw [serializeSession_alike agree closed own]

theorem listRecords_agrees (sessionId : Uuid) (query : Pagination) :
    Agrees actor.userId (listRecords actor sessionId query met left)
      (listRecords actor sessionId query met right) := by
  apply session_agrees actor limited agree met
  intro _ _ _ mine mine'
  refine ⟨congrArg (fun page => (.ok (200, Body.records page) : Reply K)) ?_, agree⟩
  rw [records_below left.db _ _ mine, records_below right.db _ _ mine', ← agree.same]
  apply paginated_alike
  · exact fun row _ => rfl
  · exact fun row _ => serializeRecord_alike agree row

theorem openSession_continues (id : Uuid) (refusal : String)
    {next goes : AttendanceSession → Reply K × Platform K}
    (agrees : ∀ session, OwnedSession left.db actor.userId session.id →
      OwnedSession right.db actor.userId session.id →
      Owned left.db actor.userId session.courseId → Agrees actor.userId (next session) (goes session)) :
    Agrees actor.userId
      (provided (met.read (openSessionForActor left.db id actor refusal)) left next)
      (provided (met.read (openSessionForActor right.db id actor refusal)) right goes) := by
  apply provided_agrees agree
  · rw [openSession_alike actor limited agree.same]
  · intro session passed
    obtain ⟨fetched, _⟩ := openSession_ok _ _ _ _ _ (read_ok met _ _ passed)
    obtain ⟨_, _, either⟩ := getSession_ok _ _ _ _ fetched
    have mine := owned_openSession actor met left limited id refusal session passed
    exact agrees session mine ((ownedSession_alike agree.same _).mp mine)
      (either.resolve_left limited)

theorem markAttendance_agrees (sessionId : Uuid) (input : MarkAttendanceInput)
    (drawn : SameDraws uuids (· ∈ met.draws) recordIds left.db right.db) :
    Agrees actor.userId (markAttendance uuids actor sessionId input met left)
      (markAttendance uuids actor sessionId input met right) := by
  apply openSession_continues actor limited agree met
  intro session mine mine' _
  apply record_agrees uuids actor agree met session _ _ _ _ mine mine' drawn
  intro record x y agree
  rw [serializeRecord_alike agree record]

theorem identify_agrees [Ring K] [LinearOrder K] (vision : Vision K) (threshold : K)
    (sessionId : Uuid) (drawn : SameDraws uuids (· ∈ met.draws) recordIds left.db right.db) :
    Agrees actor.userId (identify uuids actor vision threshold sessionId met left)
      (identify uuids actor vision threshold sessionId met right) := by
  apply openSession_continues actor limited agree met
  intro session mine mine' course
  apply provided_agrees agree rfl
  intro embedding _
  -- The search reads the roster of the course, which is the actor's own.
  have searched : searchBest vision left.db session.courseId embedding met.chosen =
      searchBest vision right.db session.courseId embedding met.chosen := by
    simp only [searchBest, searchNearestInCourse, nearestFace,
      rosterFaces_alike agree.same session.courseId course]
  dsimp only
  rw [searched]
  split
  · exact ⟨rfl, agree⟩
  · apply record_agrees uuids actor agree met session _ _ _ _ mine mine' drawn
    intro record x y agree
    rw [serializeRecord_alike agree record]

end Requests

/-- A request to a course, import, session or attendance route. -/
def Request.ofCourses : Request → Bool
  | .listStudents _ | .createStudent _ | .getStudent _ | .updateStudent _ _ | .deleteStudent _
  | .enrollFace _ _ | .listFaces _ | .removeFace _ _ => false
  | _ => true

section Serving

variable [Ring K] [LinearOrder K] (setting : Setting K) (actor : AuthContext)

theorem handle_agrees (limited : actor.role ≠ .ADMIN) (request : Request) (met : Circumstances K)
    (left right : Platform K) (agree : Agree actor.userId left right)
    (ofCourses : request.ofCourses = true)
    (sameIds : SameIds setting.uuids request met left.db right.db) :
    Agrees actor.userId (handle setting actor request met left)
      (handle setting actor request met right) := by
  cases request with
  | listCourses query => exact listCourses_agrees actor limited agree met _ query
  | createCourse input => exact createCourse_agrees _ actor limited agree met input sameIds
  | getCourse id => exact getCourse_agrees actor limited agree met id
  | updateCourse id input => exact updateCourse_agrees actor limited agree met id input
  | deleteCourse id => exact deleteCourse_agrees actor limited agree met id
  | listEnrollments courseId query => exact listEnrollments_agrees actor limited agree met courseId query
  | enrollStudent courseId input =>
      exact enrollStudent_agrees _ actor limited agree met courseId input sameIds.1 sameIds.2
  | bulkEnroll courseId rows => exact bulkEnroll_agrees _ actor limited agree met courseId rows sameIds
  | getImportJob courseId jobId => exact getImportJob_agrees actor limited agree met courseId jobId
  | unenrollStudent courseId studentId =>
      exact unenrollStudent_agrees actor limited agree met courseId studentId
  | openSession courseId => exact openSession_agrees _ actor limited agree met courseId sameIds
  | listSessions courseId query => exact listSessions_agrees actor limited agree met courseId query
  | getSession id => exact getSession_agrees actor limited agree met id
  | closeSession id => exact closeSession_agrees actor limited agree met id
  | markAttendance sessionId input =>
      exact markAttendance_agrees _ actor limited agree met sessionId input sameIds
  | identify sessionId => exact identify_agrees _ actor limited agree met _ _ sessionId sameIds
  | listRecords sessionId query => exact listRecords_agrees actor limited agree met sessionId query
  | listStudents _ | createStudent _ | getStudent _ | updateStudent _ _ | deleteStudent _
  | enrollFace _ _ | listFaces _ | removeFace _ _ => cases ofCourses

theorem serve_agrees (limited : actor.role ≠ .ADMIN) (request : Request) (met : Circumstances K)
    (left right : Platform K) (agree : Agree actor.userId left right)
    (ofCourses : request.ofCourses = true)
    (sameIds : SameIds setting.uuids request met left.db right.db) :
    (serve setting actor request met left).1 = (serve setting actor request met right).1 ∧
      Agree actor.userId (serve setting actor request met left).2
        (serve setting actor request met right).2 := by
  unfold serve
  dsimp only
  split
  · exact ⟨rfl, agree⟩
  · obtain ⟨reply, later⟩ :=
      handle_agrees setting actor limited request met left right agree ofCourses sameIds
    exact ⟨congrArg _ reply, later⟩

/-- In two runs of the same requests, each generates the same ids. -/
def SameIdsAlong : List (Request × Circumstances K) → Platform K → Platform K → Prop
  | [], _, _ => True
  | (request, met) :: rest, left, right =>
      SameIds setting.uuids request met left.db right.db ∧
        SameIdsAlong rest (serve setting actor request met left).2
          (serve setting actor request met right).2

/-- Two platforms that agree on what a professor sees give the same responses to
any requests of theirs to these routes, whatever the courses of others hold. -/
theorem responses_independent (limited : actor.role ≠ .ADMIN)
    (requests : List (Request × Circumstances K))
    (ofCourses : ∀ request ∈ requests, request.1.ofCourses = true) (left right : Platform K)
    (agree : Agree actor.userId left right)
    (sameIds : SameIdsAlong setting actor requests left right) :
    (serveAll setting actor requests left).1 = (serveAll setting actor requests right).1 := by
  induction requests generalizing left right with
  | nil => rfl
  | cons first rest ih =>
      obtain ⟨request, met⟩ := first
      obtain ⟨response, later⟩ := serve_agrees setting actor limited request met left right agree
        (ofCourses _ List.mem_cons_self) sameIds.1
      have rest := ih (fun other member => ofCourses other (List.mem_cons_of_mem _ member)) _ _ later
        sameIds.2
      simp only [serveAll, response, rest]

end Serving

section Neighbours

/-- The same school, where professor 8's course has another title and no one in it. -/
def renamed : Platform ℤ :=
  { neighbours with
    db := { neighbours.db with
      courses := .single ⟨2, "CS-1", "Ethics", 8⟩
      courseEnrollments := .empty } }

/-- Professor 7 looks at the course, tries its code, and opens a session of their own. -/
def lookAround : List (Request × Circumstances ℤ) :=
  [(.getCourse 2, calmly), (.createCourse { code := "CS-1", title := "Vision" }, calmly),
    (.createCourse { code := "CS-2", title := "Vision" }, calmly), (.openSession 3, calmly),
    (.getSession 1, calmly)]

theorem neighbours_agree : Agree 7 neighbours renamed where
  same := by
    refine View.ext rfl rfl rfl rfl rfl rfl rfl ?_ ?_ rfl
    · ext id
      simp [view, keysOf, Table.mem_rows, neighbours, renamed, Table.single]
    · ext code
      simp [view, keysOf, Table.mem_rows, neighbours, renamed, Table.single]
  users := rfl
  students _ _ := rfl
  courses _ _ := rfl
  importJobs _ _ := rfl
  courseEnrollments _ _ := rfl
  attendanceSessions _ _ := rfl

theorem neighbours_sameIds :
    SameIdsAlong school professor lookAround neighbours renamed :=
  ⟨trivial, fun _ _ => rfl, fun _ _ => rfl, fun _ _ => rfl, trivial, trivial⟩

theorem responses_independent_neighbours :
    (serveAll school professor lookAround neighbours).1 =
      (serveAll school professor lookAround renamed).1 :=
  responses_independent school professor (by decide) lookAround (by decide) neighbours renamed
    neighbours_agree neighbours_sameIds

end Neighbours

end FaceVec.Api

import FaceVec.Api.Attendance
import FaceVec.Api.Students
import FaceVec.Paging

/-!
The paginated listings of the gateway as a client reads them: page after page,
each by a query of its own. The database may return rows of one time stamp in
any order, and in another one for each query. `listUsers` is
`users.service.ts` with its serializer.
-/

namespace FaceVec.Api

open Attendance Courses FaceVec.Paging

variable {K : Type}

/-- The columns of `users` that only the listing of users reads. -/
structure UserProfile where
  displayName : String
  createdAt : Instant
  updatedAt : Instant

structure UserDto where
  id : Uuid
  email : String
  displayName : String
  role : Role
  isActive : Bool
  createdAt : Instant
  updatedAt : Instant
  deriving DecidableEq, Repr

structure ListUsersQuery where
  page : Pagination := {}
  role : Option Role := none
  search : Option String := none

/-- What a listing selects, how it sorts, and how it serializes. -/
structure Listing (Row Dto : Type) where
  rows : List Row
  stamp : Row → Instant
  serialize : Row → Dto
  distinct : (rows.map serialize).Nodup

/-- `findMany` with `skip` and `take`, in the order its query returns, and `count`. -/
def pageFrom {Row : Type} (query : Pagination) (rows ordered : List Row) : Page Row where
  items := (ordered.drop (((query.page : ℕ) - 1) * query.pageSize)).take query.pageSize
  total := rows.length
  page := query.page
  pageSize := query.pageSize

def Listing.response {Row Dto : Type} (listing : Listing Row Dto) (query : Pagination)
    (ordered : List Row) : Paginated Dto :=
  paginatedResponse (pageFrom query listing.rows ordered) listing.serialize

theorem newestFirst_arranges {Row : Type} (stamp : Row → Instant) (rows : List Row) :
    Arranges stamp rows (newestFirst stamp rows) := by
  have total : Std.Total fun a b : Row => stamp b ≤ stamp a := ⟨fun a b => Nat.le_total _ _⟩
  have transitive : IsTrans Row fun a b => stamp b ≤ stamp a :=
    ⟨fun _ _ _ first second => Nat.le_trans second first⟩
  exact ⟨List.perm_insertionSort _ rows, List.pairwise_insertionSort _ rows⟩

/-- Rows of one table have different bodies, where these tell a unique column. -/
theorem serialized_distinct {Row Dto : Type} {clash : Row → Row → Bool} (table : Table clash)
    (selects : Row → Bool) (serialize : Row → Dto)
    (keyed : ∀ a b, serialize a = serialize b → clash a b = true) :
    ((table.rows.filter selects).map serialize).Nodup := by
  apply List.pairwise_map.mpr
  refine (table.unique.filter selects).imp fun {a b} apart same => ?_
  rw [keyed a b same] at apart
  contradiction

section Listings

variable (platform : Platform K) (contains : Contains) (profiles : Uuid → UserProfile)

def serializeUser (user : User) : UserDto :=
  let profile := profiles user.id
  ⟨user.id, user.email, profile.displayName, user.role, user.isActive, profile.createdAt,
    profile.updatedAt⟩

/-- The `where` of `listUsers`. -/
def ListUsersQuery.selects (query : ListUsersQuery) (user : User) : Bool :=
  query.role.all (user.role == ·) && query.search.all fun search =>
    contains user.email search || contains (profiles user.id).displayName search

def coursesListing (actor : AuthContext) (query : ListCoursesQuery) : Listing Course CourseDto where
  rows := platform.db.courses.rows.filter (query.selects contains actor)
  stamp course := (platform.stamps.courses course.id).createdAt
  serialize := serializeCourse platform
  distinct := serialized_distinct _ _ _ fun a b same => by
    simp [Course.clash, show a.id = b.id from congrArg (·.id) same]

def enrollmentsListing (courseId : Uuid) : Listing CourseEnrollment EnrollmentDto where
  rows := platform.db.courseEnrollments.rows.filter (·.courseId == courseId)
  stamp row := platform.stamps.courseEnrollments row.id
  serialize := serializeEnrollment platform
  distinct := serialized_distinct _ _ _ fun a b same => by
    simp [CourseEnrollment.clash, show a.id = b.id from congrArg (·.id) same]

def sessionsListing (courseId : Uuid) : Listing AttendanceSession SessionDto where
  rows := platform.db.attendanceSessions.rows.filter (·.courseId == courseId)
  stamp row := platform.stamps.attendanceSessions row.id
  serialize := serializeSession platform
  distinct := serialized_distinct _ _ _ fun a b same => by
    simp [AttendanceSession.clash, show a.id = b.id from congrArg (·.id) same]

def recordsListing (sessionId : Uuid) : Listing (AttendanceRecord K) (AttendanceRecordDto K) where
  rows := platform.db.attendanceRecords.rows.filter (·.sessionId == sessionId)
  stamp row := row.capturedAt
  serialize := serializeRecord platform
  distinct := serialized_distinct _ _ _ fun a b same => by
    simp [AttendanceRecord.clash, show a.id = b.id from congrArg (·.id) same]

def studentsListing (query : ListStudentsQuery) : Listing Student StudentDto where
  rows := platform.db.students.rows.filter (query.selects contains)
  stamp row := (platform.stamps.students row.id).createdAt
  serialize := serializeStudent platform
  distinct := serialized_distinct _ _ _ fun a b same => by
    simp [Student.clash, show a.id = b.id from congrArg (·.id) same]

def usersListing (query : ListUsersQuery) : Listing User UserDto where
  rows := platform.users.rows.filter (query.selects contains profiles)
  stamp row := (profiles row.id).createdAt
  serialize := serializeUser profiles
  distinct := serialized_distinct _ _ _ fun a b same => by
    simp [User.clash, show a.id = b.id from congrArg (·.id) same]

def listUsers (query : ListUsersQuery) (met : Circumstances K) :
    Except Failure (Nat × Paginated UserDto) :=
  let selected := platform.users.rows.filter (query.selects contains profiles)
  let page := pageOf query.page (fun row => (profiles row.id).createdAt) selected
  met.read (.ok (200, paginatedResponse page (serializeUser profiles)))

end Listings

section Answers

variable (contains : Contains) (actor : AuthContext) (met : Circumstances K) (platform : Platform K)

/-- The page that a handler answers, where the query sorts stably. -/
def Listing.stable {Row Dto : Type} (listing : Listing Row Dto) (query : Pagination) :
    Paginated Dto :=
  listing.response query (newestFirst listing.stamp listing.rows)

theorem listCourses_answers (query : ListCoursesQuery) :
    listCourses contains actor query met platform =
      (met.read (.ok (200, .courses ((coursesListing platform contains actor query).stable
        query.page))), platform) := rfl

theorem listEnrollments_answers (courseId : Uuid) (query : Pagination) :
    listEnrollments actor courseId query met platform =
      provided (met.read (getCourseForActor platform.db courseId actor)) platform fun _ =>
        (.ok (200, .enrollments ((enrollmentsListing platform courseId).stable query)), platform) :=
  rfl

theorem listSessions_answers (courseId : Uuid) (query : Pagination) :
    listSessions actor courseId query met platform =
      provided (met.read (getCourseForActor platform.db courseId actor)) platform fun _ =>
        (.ok (200, .sessions ((sessionsListing platform courseId).stable query)), platform) := rfl

theorem listRecords_answers (sessionId : Uuid) (query : Pagination) :
    listRecords actor sessionId query met platform =
      provided (met.read (getSessionForActor platform.db sessionId actor)) platform fun _ =>
        (.ok (200, .records ((recordsListing platform sessionId).stable query)), platform) := rfl

theorem listStudents_answers (query : ListStudentsQuery) :
    listStudents contains query met platform =
      (met.read (.ok (200, .students ((studentsListing platform contains query).stable
        query.page))), platform) := rfl

theorem listUsers_answers (profiles : Uuid → UserProfile) (query : ListUsersQuery) :
    listUsers platform contains profiles query met =
      met.read (.ok (200, (usersListing platform contains profiles query).stable query.page)) := rfl

end Answers

section Pages

variable {Row Dto : Type} (listing : Listing Row Dto) (query : Pagination)

/-- Page after page, counted from zero, each in the order that its own query returns. -/
def Listing.pages (orders : Nat → List Row) (page : Nat) : Paginated Dto :=
  listing.response { query with page := page.succPNat } (orders page)

/-- An order for each query, which may put rows of one time stamp as it likes. -/
def Listing.Sorts (orders : Nat → List Row) : Prop :=
  ∀ page, Arranges listing.stamp listing.rows (orders page)

/-- Pages 1 to `meta.totalPages` make up the list. -/
structure Listing.Partitions (pages : Nat → Paginated Dto) : Prop where
  agreed : ∀ page, (pages page).totalPages = (pages 0).totalPages
  once : ((List.range (pages 0).totalPages).flatMap fun page => (pages page).data).Perm
    (listing.rows.map listing.serialize)
  full : ∀ page, page + 1 < (pages 0).totalPages → (pages page).data.length = query.pageSize
  later : ∀ page, (pages 0).totalPages ≤ page → (pages page).data = []

/-- No page begins among the rows of one time stamp. -/
def Listing.Untied : Prop := ∀ page, ¬ Splits listing.stamp listing.rows (page * query.pageSize)

theorem pages_data (orders : Nat → List Row) (page : Nat) :
    (listing.pages query orders page).data =
      (slice query.pageSize page (orders page)).map listing.serialize := by
  simp [Listing.pages, Listing.response, pageFrom, paginatedResponse, slice]

theorem pages_total (orders : Nat → List Row) (page : Nat) :
    (listing.pages query orders page).totalPages =
      max 1 ((listing.rows.length + query.pageSize - 1) / query.pageSize) := rfl

/-- There is a row behind exactly the pages before the last. -/
theorem lt_totalPages (total page : Nat) (size : ℕ+) :
    page + 1 < max 1 ((total + size - 1) / size) ↔ (page + 1) * size < total := by
  have positive := size.pos
  rw [lt_max_iff, Nat.lt_iff_add_one_le (n := (total + size - 1) / size),
    Nat.le_div_iff_mul_le positive, Nat.succ_mul (page + 1)]
  omega

theorem totalPages_enough (orders : Nat → List Row) :
    listing.rows.length ≤ (listing.pages query orders 0).totalPages * query.pageSize := by
  rw [pages_total]
  obtain ⟨last, count⟩ : ∃ last,
      max 1 ((listing.rows.length + query.pageSize - 1) / query.pageSize) = last + 1 :=
    Nat.exists_eq_add_one_of_ne_zero (by omega)
  have ended := (lt_totalPages listing.rows.length last query.pageSize).not.mp (by omega)
  rwa [not_lt, ← count] at ended

theorem pages_full (orders : Nat → List Row) (sorts : listing.Sorts orders) (page : Nat)
    (early : page + 1 < (listing.pages query orders 0).totalPages) :
    (listing.pages query orders page).data.length = query.pageSize := by
  have behind := (lt_totalPages _ _ _).mp (pages_total listing query orders 0 ▸ early)
  rw [Nat.succ_mul] at behind
  rw [pages_data, List.length_map, slice_length, arranged_length _ _ _ (sorts page)]
  omega

theorem pages_later (orders : Nat → List Row) (sorts : listing.Sorts orders) (page : Nat)
    (late : (listing.pages query orders 0).totalPages ≤ page) :
    (listing.pages query orders page).data = [] := by
  have all := (totalPages_enough listing query orders).trans (Nat.mul_le_mul_right _ late)
  rw [← List.length_eq_zero_iff, pages_data, List.length_map, slice_length,
    arranged_length _ _ _ (sorts page)]
  omega

theorem pages_partition (untied : listing.Untied query) (orders : Nat → List Row)
    (sorts : listing.Sorts orders) : listing.Partitions query (listing.pages query orders) where
  agreed _ := rfl
  once := by
    simp only [pages_data, ← List.map_flatMap]
    apply List.Perm.map
    have whole := (untied_iff listing.stamp listing.rows (orders 0) _ (sorts 0)).mpr untied
    exact pages_perm _ _ _ _ _ orders (sorts 0) sorts whole (totalPages_enough listing query orders)
  full := pages_full listing query orders sorts
  later := pages_later listing query orders sorts

/-- Cut from one order, the pages make up the list, whatever it is. -/
theorem pages_stable (ordered : List Row) (sorted : Arranges listing.stamp listing.rows ordered) :
    listing.Partitions query (listing.pages query fun _ => ordered) where
  agreed _ := rfl
  once := by
    have enough := totalPages_enough listing query fun _ => ordered
    rw [← arranged_length _ _ _ sorted] at enough
    simp only [pages_data, ← List.map_flatMap]
    rw [flatMap_slice, List.take_of_length_le enough]
    exact sorted.perm.map listing.serialize
  full := pages_full listing query _ fun _ => sorted
  later := pages_later listing query _ fun _ => sorted

/-- Among rows of one time stamp, a row may be answered on two pages. -/
theorem partition_untied
    (partitions : ∀ orders, listing.Sorts orders →
      listing.Partitions query (listing.pages query orders)) : listing.Untied query := by
  have sorted := newestFirst_arranges listing.stamp listing.rows
  apply (untied_iff listing.stamp listing.rows _ _ sorted).mp
  by_contra tied
  obtain ⟨page, row, orders, within, sorts, here, again⟩ :=
    tied_repeats listing.stamp listing.rows _ _ query.pageSize.pos sorted tied
  have made := partitions orders sorts
  have announced : page + 1 < (listing.pages query orders 0).totalPages :=
    (lt_totalPages _ _ _).mpr within
  -- All pages together answer no row twice, so no two of them share one.
  have apart := (List.nodup_flatMap.mp (made.once.nodup_iff.mpr listing.distinct)).2
  have disjoint := List.pairwise_iff_getElem.mp apart page (page + 1)
    (by rw [List.length_range]; omega) (by rwa [List.length_range]) page.lt_succ_self
  simp only [Function.onFun, List.getElem_range, pages_data] at disjoint
  exact disjoint (List.mem_map_of_mem here) (List.mem_map_of_mem again)

end Pages

/-- The paginated routes. Of a query, a listing does not depend on its page. -/
inductive ListingRequest where
  | courses (actor : AuthContext) (query : ListCoursesQuery)
  | enrollments (courseId : Uuid)
  | sessions (courseId : Uuid)
  | records (sessionId : Uuid)
  | students (query : ListStudentsQuery)
  | users (query : ListUsersQuery)

namespace ListingRequest

variable (K) in
abbrev Row : ListingRequest → Type
  | courses _ _ => Course
  | enrollments _ => CourseEnrollment
  | sessions _ => AttendanceSession
  | records _ => AttendanceRecord K
  | students _ => Student
  | users _ => User

variable (K) in
abbrev Dto : ListingRequest → Type
  | courses _ _ => CourseDto
  | enrollments _ => EnrollmentDto
  | sessions _ => SessionDto
  | records _ => AttendanceRecordDto K
  | students _ => StudentDto
  | users _ => UserDto

def listing (platform : Platform K) (contains : Contains) (profiles : Uuid → UserProfile) :
    (request : ListingRequest) → Listing (request.Row K) (request.Dto K)
  | courses actor query => coursesListing platform contains actor query
  | enrollments courseId => enrollmentsListing platform courseId
  | sessions courseId => sessionsListing platform courseId
  | records sessionId => recordsListing platform sessionId
  | students query => studentsListing platform contains query
  | users query => usersListing platform contains profiles query

end ListingRequest

/-- Whatever orders the queries return, the pages of a listing make it up: exactly if
no page begins among the rows of one time stamp. -/
theorem pages_partition_iff (platform : Platform K) (contains : Contains)
    (profiles : Uuid → UserProfile) (request : ListingRequest) (query : Pagination) :
    let listing := request.listing platform contains profiles
    (∀ orders, listing.Sorts orders → listing.Partitions query (listing.pages query orders)) ↔
      listing.Untied query :=
  ⟨partition_untied _ _, fun untied orders sorts => pages_partition _ _ untied orders sorts⟩

/-- Two students of one instant. -/
def twins : Platform ℤ where
  db :=
    { students := ⟨[⟨1, "S-1", "Ada", none, none⟩, ⟨2, "S-2", "Bob", none, none⟩], by decide⟩
      faceEmbeddings := .empty
      courses := .empty
      courseEnrollments := .empty
      importJobs := .empty
      attendanceSessions := .empty
      attendanceRecords := .empty
      outboxMessages := .empty }
  users := .empty
  stamps :=
    { students := fun _ => ⟨5, 5⟩
      courses := fun _ => ⟨5, 5⟩
      importJobs := fun _ => ⟨5, 5⟩
      courseEnrollments := fun _ => 5
      faceEmbeddings := fun _ => 5
      attendanceSessions := fun _ => 5 }
  queued := []
  deleted := []

/-- Page after page of one row, the second query sorting the other way around. -/
theorem twin_repeated :
    let listing := studentsListing twins (fun _ _ => true) {}
    let orders := fun page => if page = 0 then listing.rows else listing.rows.reverse
    let query : Pagination := { pageSize := 1 }
    listing.Sorts orders ∧ (listing.pages query orders 0).totalPages = 2 ∧
      (listing.pages query orders 0).data.map (·.id) = [1] ∧
      (listing.pages query orders 1).data.map (·.id) = [1] ∧
      ¬ listing.Partitions query (listing.pages query orders) := by
  refine ⟨fun page => ?_, by decide, by decide, by decide, fun made => ?_⟩
  · dsimp only
    split
    · exact ⟨List.Perm.refl _, by decide⟩
    · exact ⟨List.reverse_perm _, by decide⟩
  · have repeated := made.once.map (·.id)
    revert repeated
    decide

end FaceVec.Api

import FaceVec.Api.View
import FaceVec.Coupling

/-!
The bodies of the transactions, run side by side on databases of which a
professor has one view. They fail alike, or return the same and leave one view.
What an event is stored as may differ: no answer shows it.
-/

namespace FaceVec.Api

open Attendance Courses

variable {K : Type}

/-- Both runs return one value, which the one view they leave may show. -/
def Twin {α : Type} (professorId : Uuid) (shown : α → View K → Prop) (a b : α)
    (left right : Database K) : Prop :=
  a = b ∧ view left professorId = view right professorId ∧ shown a (view left professorId)

/-- The ids drawn next to the ones in use are the same in both databases. -/
def SameDraws (uuids : UuidSource) (allowed : Nat → Prop) (ids : Database K → List Uuid)
    (left right : Database K) : Prop :=
  ∀ draw, allowed draw → uuids.generate draw (ids left) = uuids.generate draw (ids right)

def enrollmentIds (db : Database K) : List Uuid := db.courseEnrollments.rows.map (·.id)

def jobIds (db : Database K) : List Uuid := db.importJobs.rows.map (·.id)

def recordIds (db : Database K) : List Uuid := db.attendanceRecords.rows.map (·.id)

theorem create_matched {Row : Type} {clash : Row → Row → Bool} (table : Database K → Table clash)
    (put : Table clash → Database K → Database K) (row : Row) (left right : Database K)
    (post : Row → Row → Database K → Database K → Prop)
    (clashes : (∃ old ∈ table left, clash old row = true) ↔
      ∃ old ∈ table right, clash old row = true)
    (stored : ∀ first second, first.rows = (table left).rows ++ [row] →
      second.rows = (table right).rows ++ [row] → post row row (put first left) (put second right)) :
    Matched (fun x y => post x.1 y.1 x.2 y.2) (create table put row left)
      (create table put row right) := by
  have refused : ∀ db, (table db).insert row = none ↔ ∃ old ∈ table db, clash old row = true := by
    intro db
    constructor
    · exact Table.insert_eq_none _ _
    · rintro ⟨old, member, clashing⟩
      cases inserted : (table db).insert row with
      | none => rfl
      | some next => simp [Table.fresh_of_insert _ _ _ inserted old member] at clashing
  have together := (refused left).trans (clashes.trans (refused right).symm)
  unfold create
  cases first : (table left).insert row with
  | none =>
      rw [together.mp first]
      exact .fails _
  | some rows =>
      cases second : (table right).insert row with
      | none => simp [together.mpr second] at first
      | some others =>
          exact .ends _ _ (stored rows others (Table.insert_eq_some _ _ _ first)
            (Table.insert_eq_some _ _ _ second))

section Bodies

variable {left right : Database K} {professorId : Uuid} (uuids : UuidSource)
  (users : Table User.clash) (allowed : Nat → Prop)

theorem course_clash (db : Database K) (row : Course) (fresh : row.id ∉ courseIds db) :
    (∃ old ∈ db.courses, Course.clash old row = true) ↔ row.code ∈ (view db professorId).codes := by
  constructor
  · rintro ⟨old, member, clashes⟩
    refine ⟨old, member, ?_⟩
    rcases Bool.or_eq_true _ _ ▸ clashes with sameId | sameCode
    · refine absurd ?_ fresh
      simp only [courseIds, List.mem_append, List.mem_map]
      exact Or.inl (Or.inl (Or.inl ⟨old, member, by simpa using sameId⟩))
    · simpa using sameCode
  · rintro ⟨old, member, same⟩
    exact ⟨old, member, by simp [Course.clash, same]⟩

theorem createCourseRow_coupled (code title : String)
    (same : view left professorId = view right professorId)
    (drawn : SameDraws uuids allowed courseIds left right) :
    Coupled allowed (fun x y => x = left ∧ y = right)
      (createCourseRow uuids users code title professorId)
      (createCourseRow uuids users code title professorId)
      (Twin professorId fun course seen => course ∈ seen.courses) := by
  apply coupled_statement
  rintro draw left right permitted ⟨rfl, rfl⟩
  have fresh := uuids.fresh draw (courseIds left)
  have fresh' := uuids.fresh draw (courseIds right)
  dsimp only
  rw [drawn draw permitted] at fresh ⊢
  generalize uuids.generate draw (courseIds right) = id at fresh fresh' ⊢
  have matched := create_matched (·.courses) (fun courses db => { db with courses })
    ⟨id, code, title, professorId⟩ left right
    (Twin professorId fun course seen => course ∈ seen.courses)
    (by rw [course_clash left _ fresh, course_clash right _ fresh', same])
    (by
      intro first second rows rows'
      have one := view_created left { left with courses := first } professorId
        ⟨id, code, title, professorId⟩ rfl fresh rfl rows
      have other := view_created right { right with courses := second } professorId
        ⟨id, code, title, professorId⟩ rfl fresh' rfl rows'
      refine ⟨rfl, ?_, ?_⟩
      · rw [one, other, same]
      · rw [one]
        exact List.mem_append_right _ (List.mem_singleton.mpr rfl))
  revert matched
  generalize create (·.courses) _ _ left = first
  generalize create (·.courses) _ _ right = second
  rintro (failure | ⟨x, y, twin⟩)
  · exact .fails failure
  · dsimp only
    split
    · exact .ends x y twin
    · exact .fails _

theorem overwritten_unique (db : Database K) (professorId id : Uuid) (data : UpdateCourseInput)
    (unassigned : data.professorId = none) (course : Course) (stored : course ∈ db.courses)
    (ofId : course.id = id) :
    (db.courses.rows.map (overwriteCourse id data)).Pairwise
        (fun earlier later => Course.clash earlier later = false) ↔
      (data.overwrite course).code = course.code ∨
        (data.overwrite course).code ∉ (view db professorId).codes := by
  have keys := overwriteCourse_keys id data unassigned
  have overwritten : overwriteCourse id data course = data.overwrite course := if_pos ofId
  constructor
  · intro sound
    by_contra! ⟨changed, other, inside, taken⟩
    let after : Table Course.clash := ⟨_, sound⟩
    have apart : other ≠ course := by
      rintro rfl
      exact changed taken.symm
    have ids : other.id ≠ course.id := fun same => apart
      (course_eq_of_id db.courses other course inside stored same)
    have kept : overwriteCourse id data other = other := if_neg fun same => ids (same.trans ofId.symm)
    have both := course_eq_of_code after (overwriteCourse id data course) other
      (List.mem_map.mpr ⟨course, stored, rfl⟩) (List.mem_map.mpr ⟨other, inside, kept⟩)
      (overwritten ▸ taken.symm)
    rw [← both, (keys course).1] at ids
    exact ids rfl
  · intro allowed
    have free : ∀ other ∈ db.courses, other.code ≠ course.code →
        other.code ≠ (data.overwrite course).code := by
      rintro other inside apart same
      rcases allowed with kept | absent
      · exact apart (same.trans kept)
      · exact absent ⟨other, inside, same⟩
    rw [List.pairwise_map]
    refine db.courses.unique.imp_of_mem fun {a b} inA inB apart => ?_
    simp only [Course.clash, Bool.or_eq_false_iff, beq_eq_false_iff_ne, keys] at apart ⊢
    refine ⟨apart.1, ?_⟩
    by_cases isA : a.id = id
    · obtain rfl := course_eq_of_id db.courses a course inA stored (isA.trans ofId.symm)
      have kept : overwriteCourse id data b = b := if_neg fun isB => apart.1 (isA.trans isB.symm)
      rw [overwritten, kept]
      exact (free b inB apart.2.symm).symm
    · have kept : overwriteCourse id data a = a := if_neg isA
      rw [kept]
      by_cases isB : b.id = id
      · obtain rfl := course_eq_of_id db.courses b course inB stored (isB.trans ofId.symm)
        rw [overwritten]
        exact free a inA apart.2
      · rw [overwriteCourse, if_neg isB]
        exact apart.2

/-- A course of the professor's own is found in both databases. -/
theorem findCourse_own (same : view left professorId = view right professorId) (id : Uuid)
    (mine : Owned left professorId id) :
    ∃ course, findCourse left id = some course ∧ findCourse right id = some course ∧
      course ∈ left.courses ∧ course ∈ right.courses ∧ course.id = id ∧
      course.professorId = professorId := by
  obtain ⟨course, stored, rfl, owner⟩ := mine
  have found : ∀ db : Database K, course ∈ db.courses → findCourse db course.id = some course := by
    intro db inside
    cases lookup : findCourse db course.id with
    | none =>
        have absent := List.find?_eq_none.mp lookup course inside
        simp at absent
    | some other =>
        rw [course_eq_of_id db.courses other course (List.mem_of_find?_eq_some lookup) inside
          (by simpa using List.find?_some lookup)]
  have stored' := course_alike same course stored owner
  exact ⟨course, found left stored, found right stored', stored, stored', rfl, owner⟩

theorem updateCourseRow_coupled (id : Uuid) (data : UpdateCourseInput)
    (unassigned : data.professorId = none)
    (same : view left professorId = view right professorId)
    (mine : Owned left professorId id) :
    Coupled allowed (fun x y => x = left ∧ y = right) (updateCourseRow users id data)
      (updateCourseRow users id data)
      (Twin professorId fun course seen => course ∈ seen.courses) := by
  apply coupled_statement
  rintro draw left right permitted ⟨rfl, rfl⟩
  obtain ⟨course, found, found', stored, stored', ofId, owner⟩ := findCourse_own same id mine
  have together := (overwritten_unique left professorId id data unassigned course stored ofId).trans
    (same ▸ (overwritten_unique right professorId id data unassigned course stored' ofId).symm)
  simp only [found, found', Table.rewrite]
  by_cases sound : (left.courses.rows.map (overwriteCourse id data)).Pairwise
      (fun earlier later => Course.clash earlier later = false)
  · have sound' := together.mp sound
    rw [dif_pos sound, dif_pos sound']
    dsimp only
    split
    · have one := view_updated left { left with courses := ⟨_, sound⟩ } professorId id data
        unassigned course stored ofId rfl rfl
      have other := view_updated right { right with courses := ⟨_, sound'⟩ } professorId id data
        unassigned course stored' ofId rfl rfl
      refine .ends _ _ ⟨rfl, ?_, ?_⟩
      · rw [one, other, same]
      · rw [one]
        exact List.mem_map.mpr ⟨course, (mem_courses _ _ _).mpr ⟨stored, owner⟩, if_pos ofId⟩
    · exact .fails _
  · rw [dif_neg sound, dif_neg fun sound' => sound (together.mpr sound')]
    exact .fails _

theorem deleteCourseRow_coupled (id : Uuid)
    (same : view left professorId = view right professorId) (mine : Owned left professorId id) :
    Coupled allowed (fun x y => x = left ∧ y = right) (deleteCourseRow id) (deleteCourseRow id)
      (Twin professorId fun _ _ => True) := by
  apply coupled_statement
  rintro draw left right permitted ⟨rfl, rfl⟩
  obtain ⟨course, found, found', stored, stored', rfl, owner⟩ := findCourse_own same id mine
  simp only [found, found', Option.isSome_some, if_true]
  refine .ends _ _ ⟨rfl, ?_, trivial⟩
  rw [view_deleted left professorId course stored owner,
    view_deleted right professorId course stored' owner, same]

section Enrolling

/-- An event is always stored; what is stored shows in no view. -/
theorem recordEvent_coupled (now : Instant) (aggregateType : String) (aggregateId : Uuid)
    (eventType : String) (payload : EventPayload K) {holds : Database K → Database K → Prop}
    (stays : ∀ x y first second, holds x y →
      holds { x with outboxMessages := first } { y with outboxMessages := second }) :
    Coupled allowed holds (recordEvent uuids now aggregateType aggregateId eventType payload)
      (recordEvent uuids now aggregateType aggregateId eventType payload)
      fun _ _ x y => holds x y := by
  apply coupled_statement
  intro draw x y permitted held
  have stored : ∀ db : Database K, ∃ message rows, create (·.outboxMessages)
      (fun outboxMessages db => { db with outboxMessages })
      { id := uuids.generate draw (db.outboxMessages.rows.map (·.id)), aggregateType, aggregateId,
        eventType, payload, availableAt := now, createdAt := now } db =
        .ok (message, { db with outboxMessages := rows }) := by
    intro db
    cases inserted : create (·.outboxMessages)
        (fun outboxMessages db => { db with outboxMessages })
        { id := uuids.generate draw (db.outboxMessages.rows.map (·.id)), aggregateType,
          aggregateId, eventType, payload, availableAt := now, createdAt := now } db with
    | error failure =>
        obtain ⟨old, member, clashes⟩ := create_error _ _ _ _ _ inserted
        have same : old.id = uuids.generate draw (db.outboxMessages.rows.map (·.id)) := by
          simpa [OutboxMessage.clash] using clashes
        exact absurd (List.mem_map.mpr ⟨old, member, same⟩) (uuids.fresh draw _)
    | ok created =>
        obtain ⟨message, after⟩ := created
        obtain ⟨rfl, rows, _, rfl⟩ := create_ok _ _ _ _ _ _ inserted
        exact ⟨_, rows, rfl⟩
  obtain ⟨message, rows, first⟩ := stored x
  obtain ⟨other, others, second⟩ := stored y
  dsimp only
  rw [first, second]
  exact .ends _ _ (stays x y rows others held)

/-- What enrolling relies on between its statements. -/
structure Enrollable (professorId courseId : Uuid) (left right : Database K) : Prop where
  same : view left professorId = view right professorId
  drawn : SameDraws uuids allowed enrollmentIds left right
  mine : Owned left professorId courseId

variable (courseId : Uuid)

theorem createNewStudent_coupled (studentNumber fullName : String) (email : Option String) :
    Coupled allowed (fun x y => Enrollable uuids allowed professorId courseId x y ∧
        SameDraws uuids allowed studentIds x y)
      (createNewStudent (K := K) uuids studentNumber fullName email)
      (createNewStudent uuids studentNumber fullName email)
      fun a b x y => a = b ∧ Enrollable uuids allowed professorId courseId x y := by
  refine coupled_tryCatch _ _ _ ?_ fun failure => coupled_throw _
  apply coupled_statement
  rintro draw x y permitted ⟨held, drawn⟩
  have students : x.students = y.students := congrArg View.students held.same
  dsimp only
  rw [drawn draw permitted]
  refine create_matched _ _ _ x y
    (fun a b x y => a = b ∧ Enrollable uuids allowed professorId courseId x y) (by rw [students]) ?_
  intro first second rows rows'
  obtain rfl : first = second := by
    cases first
    cases second
    congr 1
    exact rows.trans (students ▸ rows'.symm)
  refine ⟨rfl, ?_, held.drawn, held.mine⟩
  rw [view_rostered x { x with students := first } professorId rfl,
    view_rostered y { y with students := first } professorId rfl, held.same]

theorem resolveStudent_coupled (input : ResolveInput) :
    Coupled allowed (fun x y => Enrollable uuids allowed professorId courseId x y ∧
        SameDraws uuids allowed studentIds x y)
      (resolveStudent (K := K) uuids input) (resolveStudent uuids input)
      fun a b x y => a = b ∧ Enrollable uuids allowed professorId courseId x y := by
  unfold resolveStudent
  cases given : input.studentId with
  | some id =>
      apply coupled_then _ _ fun _ x y => Enrollable uuids allowed professorId courseId x y
      · exact coupled_query _ fun x y held => ⟨findStudent_alike held.1.same id, held.1⟩
      · intro found
        cases found with
        | none => exact coupled_throw _
        | some student => exact coupled_pure _ _ fun x y held => ⟨rfl, held⟩
  | none =>
      dsimp only
      split
      · exact coupled_throw _
      · apply coupled_then _ _ fun _ x y => Enrollable uuids allowed professorId courseId x y ∧
          SameDraws uuids allowed studentIds x y
        · exact coupled_query _ fun x y held => ⟨findStudentByNumber_alike held.1.same _, held⟩
        · intro found
          cases found with
          | some student => exact coupled_pure _ _ fun x y held => ⟨rfl, held.1⟩
          | none =>
              dsimp only
              split
              · exact coupled_throw _
              · refine coupled_then _ _ _ _ (createNewStudent_coupled uuids allowed courseId _ _ _) ?_
                exact fun student => coupled_pure _ _ fun x y held => ⟨rfl, held⟩

theorem enrollment_clash (db : Database K) (row : CourseEnrollment) (fresh : row.id ∉ enrollmentIds db) :
    (∃ old ∈ db.courseEnrollments, CourseEnrollment.clash old row = true) ↔
      (findEnrollment db row.courseId row.studentId).isSome = true := by
  rw [findEnrollment, List.find?_isSome]
  refine exists_congr fun old => and_congr_right fun member => ?_
  have apart : old.id ≠ row.id := fun same => fresh (List.mem_map.mpr ⟨old, member, same⟩)
  simp [CourseEnrollment.clash, apart]

theorem createEnrollment_coupled (studentId : Uuid) :
    Coupled allowed (Enrollable uuids allowed professorId courseId)
      (createEnrollment (K := K) uuids courseId studentId) (createEnrollment uuids courseId studentId)
      (Twin professorId fun row seen => row ∈ seen.courseEnrollments) := by
  apply coupled_statement
  intro draw x y permitted held
  have fresh := uuids.fresh draw (enrollmentIds x)
  have fresh' := uuids.fresh draw (enrollmentIds y)
  have mine' := (owned_alike held.same courseId).mp held.mine
  have together := held.drawn draw permitted
  simp only [enrollmentIds] at fresh fresh' together
  dsimp only
  rw [courseMissing_alike held.same, findStudent_alike held.same]
  split
  · exact .fails _
  · rw [together] at fresh ⊢
    apply create_matched
    · rw [enrollment_clash x _ fresh, enrollment_clash y _ fresh',
        findEnrollment_alike held.same courseId studentId held.mine]
    · intro first second rows rows'
      have one := view_enrolled x { x with courseEnrollments := first } professorId _ held.mine rfl rows
      have other := view_enrolled y { y with courseEnrollments := second } professorId _ mine' rfl rows'
      refine ⟨rfl, ?_, ?_⟩
      · rw [one, other, held.same]
      · rw [one]
        exact List.mem_append_right _ (List.mem_singleton.mpr rfl)

theorem linkStudent_coupled (now : Instant) (student : Student) (created : Bool) :
    Coupled allowed (Enrollable uuids allowed professorId courseId)
      (linkStudent (K := K) uuids now courseId student created)
      (linkStudent uuids now courseId student created)
      (Twin professorId fun result seen => result.enrollment ∈ seen.courseEnrollments) := by
  unfold linkStudent
  apply coupled_then _ _ fun found x y => Enrollable uuids allowed professorId courseId x y ∧
    found = findEnrollment x courseId student.id
  · exact coupled_query _ fun x y held =>
      ⟨findEnrollment_alike held.same courseId student.id held.mine, held, rfl⟩
  · intro found
    cases found with
    | some enrollment =>
        apply coupled_pure
        rintro x y ⟨held, found⟩
        refine ⟨rfl, held.same, (mem_courseEnrollments _ _ _).mpr ?_⟩
        obtain ⟨rfl, _⟩ : enrollment.courseId = courseId ∧ enrollment.studentId = student.id := by
          simpa using List.find?_some found.symm
        exact ⟨List.mem_of_find?_eq_some found.symm, held.mine⟩
    | none =>
        apply coupled_weaken _ _ _ (fun _ _ both => And.left both)
        apply coupled_then _ _ fun row x y => view x professorId = view y professorId ∧
          row ∈ (view x professorId).courseEnrollments
        · exact createEnrollment_coupled uuids allowed courseId student.id
        · intro enrollment
          refine coupled_bind _ _ _ _ _ _ (recordEvent_coupled uuids allowed now _ _ _ _ ?_) ?_
          · exact fun x y _ _ held => held
          · exact fun _ _ => coupled_pure _ _ fun x y held => ⟨rfl, held.1, held.2⟩

theorem resolveAndLinkStudent_coupled (now : Instant) (input : ResolveInput)
    (held : Enrollable uuids allowed professorId courseId left right)
    (drawn : SameDraws uuids allowed studentIds left right) :
    Coupled allowed (fun x y => x = left ∧ y = right)
      (resolveAndLinkStudent uuids now courseId input) (resolveAndLinkStudent uuids now courseId input)
      (Twin professorId fun result seen => result.enrollment ∈ seen.courseEnrollments) := by
  refine coupled_then _ _ (fun _ => Enrollable uuids allowed professorId courseId) _ ?_
    fun resolved => linkStudent_coupled uuids allowed courseId now resolved.1 resolved.2
  refine coupled_weaken _ _ _ ?_ (resolveStudent_coupled uuids allowed courseId input)
  rintro x y ⟨rfl, rfl⟩
  exact ⟨held, drawn⟩

end Enrolling

theorem deleteEnrollmentRow_coupled (courseId studentId : Uuid)
    (same : view left professorId = view right professorId)
    (mine : Owned left professorId courseId) :
    Coupled allowed (fun x y => x = left ∧ y = right) (deleteEnrollmentRow courseId studentId)
      (deleteEnrollmentRow courseId studentId) (Twin professorId fun _ _ => True) := by
  apply coupled_statement
  rintro draw left right permitted ⟨rfl, rfl⟩
  rw [findEnrollment_alike same courseId studentId mine]
  cases findEnrollment right courseId studentId with
  | none => exact .fails _
  | some enrollment =>
      refine .ends _ _ ⟨rfl, ?_, trivial⟩
      rw [view_unenrolled, view_unenrolled, same]

theorem createBulkImportJobTx_coupled (now : Instant) (courseId actorId : Uuid)
    (rows : List BulkImportRow) (same : view left professorId = view right professorId)
    (drawn : SameDraws uuids allowed jobIds left right) (mine : Owned left professorId courseId) :
    Coupled allowed (fun x y => x = left ∧ y = right)
      (createBulkImportJobTx uuids now courseId actorId rows)
      (createBulkImportJobTx uuids now courseId actorId rows)
      (Twin professorId fun job seen => job ∈ seen.importJobs) := by
  apply coupled_then _ _ fun job x y => view x professorId = view y professorId ∧
    job ∈ (view x professorId).importJobs
  · apply coupled_statement
    rintro draw left right permitted ⟨rfl, rfl⟩
    have mine' := (owned_alike same courseId).mp mine
    have fresh := uuids.fresh draw (jobIds left)
    have fresh' := uuids.fresh draw (jobIds right)
    have together := drawn draw permitted
    simp only [jobIds] at fresh fresh' together
    dsimp only
    rw [courseMissing_alike same]
    split
    · exact .fails _
    · rw [together] at fresh ⊢
      have free : ∀ (db : Database K) (job : ImportJob), job.id ∉ db.importJobs.rows.map (·.id) →
          ¬ ∃ old ∈ db.importJobs, ImportJob.clash old job = true := by
        rintro db job unused ⟨old, member, clashes⟩
        exact unused (List.mem_map.mpr ⟨old, member, by simpa [ImportJob.clash] using clashes⟩)
      refine create_matched _ _ _ left right (fun one other x y => one = other ∧
        view x professorId = view y professorId ∧ one ∈ (view x professorId).importJobs) ?_ ?_
      · exact iff_of_false (free left _ fresh) (free right _ fresh')
      · intro first second appended appended'
        have one := view_jobCreated left { left with importJobs := first } professorId _ mine rfl
          appended
        have other := view_jobCreated right { right with importJobs := second } professorId _ mine' rfl
          appended'
        refine ⟨rfl, ?_, ?_⟩
        · rw [one, other, same]
        · rw [one]
          exact List.mem_append_right _ (List.mem_singleton.mpr rfl)
  · intro job
    refine coupled_bind _ _ _ _ _ _ (recordEvent_coupled uuids allowed now _ _ _ _ ?_) ?_
    · exact fun x y _ _ held => held
    · exact fun _ _ => coupled_pure _ _ fun x y held => ⟨rfl, held.1, held.2⟩

theorem createSessionRow_coupled (courseId createdById : Uuid)
    (same : view left professorId = view right professorId)
    (drawn : SameDraws uuids allowed sessionIds left right) (mine : Owned left professorId courseId) :
    Coupled allowed (fun x y => x = left ∧ y = right)
      (createSessionRow uuids users courseId createdById)
      (createSessionRow uuids users courseId createdById)
      (Twin professorId fun session seen => session ∈ seen.attendanceSessions) := by
  apply coupled_statement
  rintro draw left right permitted ⟨rfl, rfl⟩
  have mine' := (owned_alike same courseId).mp mine
  have fresh := uuids.fresh draw (sessionIds left)
  have fresh' := uuids.fresh draw (sessionIds right)
  dsimp only
  rw [courseMissing_alike same]
  split
  · exact .fails _
  · rw [drawn draw permitted] at fresh ⊢
    have free : ∀ (db : Database K) (session : AttendanceSession), session.id ∉ sessionIds db →
        ¬ ∃ old ∈ db.attendanceSessions, AttendanceSession.clash old session = true := by
      rintro db session unused ⟨old, member, clashes⟩
      exact unused (List.mem_append_left _ (List.mem_map.mpr
        ⟨old, member, by simpa [AttendanceSession.clash] using clashes⟩))
    apply create_matched
    · exact iff_of_false (free left _ fresh) (free right _ fresh')
    · intro first second appended appended'
      have one := view_opened left { left with attendanceSessions := first } professorId _ mine fresh
        rfl appended
      have other := view_opened right { right with attendanceSessions := second } professorId _ mine'
        fresh' rfl appended'
      refine ⟨rfl, ?_, ?_⟩
      · rw [one, other, same]
      · rw [one]
        exact List.mem_append_right _ (List.mem_singleton.mpr rfl)

theorem closeUpdate_coupled (id : Uuid) (now : Instant)
    (same : view left professorId = view right professorId)
    (mine : OwnedSession left professorId id) :
    Coupled allowed (fun x y => x = left ∧ y = right) (closeUpdate id now) (closeUpdate id now)
      (Twin professorId fun session seen => session ∈ seen.attendanceSessions) := by
  apply coupled_statement
  rintro draw left right permitted ⟨rfl, rfl⟩
  rw [← findSession_alike same id mine]
  cases lookup : findSession left id with
  | none => exact .fails _
  | some session =>
      have stored : session ∈ left.attendanceSessions := List.mem_of_find?_eq_some lookup
      have ofId : session.id = id := by simpa using List.find?_some lookup
      obtain ⟨other, inside, sameId, ofCourse⟩ := mine
      obtain rfl := session_eq_of_id _ other session inside stored (sameId.trans ofId.symm)
      have closed := fun db after frame rows =>
        view_closed (K := K) db after professorId id now frame rows
      refine .ends _ _ ⟨rfl, (closed left _ rfl rfl).trans ?_, ?_⟩
      · rw [same]
        exact (closed right _ rfl rfl).symm
      · rw [closed left _ rfl rfl]
        exact List.mem_map_of_mem ((mem_sessions _ _ _).mpr ⟨stored, ofCourse⟩)

theorem record_clash (db : Database K) (row : AttendanceRecord K) (fresh : row.id ∉ recordIds db) :
    (∃ old ∈ db.attendanceRecords, AttendanceRecord.clash old row = true) ↔
      (findRecord db row.sessionId row.studentId).isSome = true := by
  rw [findRecord, List.find?_isSome]
  refine exists_congr fun old => and_congr_right fun member => ?_
  have apart : old.id ≠ row.id := fun same => fresh (List.mem_map.mpr ⟨old, member, same⟩)
  simp [AttendanceRecord.clash, apart]

theorem recordAttendance_coupled (now : Instant) (session : AttendanceSession) (studentId : Uuid)
    (data : RecordData K) (same : view left professorId = view right professorId)
    (drawn : SameDraws uuids allowed recordIds left right)
    (mine : OwnedSession left professorId session.id) :
    Coupled allowed (fun x y => x = left ∧ y = right)
      (recordAttendance uuids now session studentId data)
      (recordAttendance uuids now session studentId data) (Twin professorId fun _ _ => True) := by
  apply coupled_then _ _ fun _ x y => view x professorId = view y professorId
  · apply coupled_statement
    rintro draw left right permitted ⟨rfl, rfl⟩
    have mine' := (ownedSession_alike same session.id).mp mine
    have alike := findRecord_alike same session.id studentId mine
    have fresh := uuids.fresh draw (recordIds left)
    have fresh' := uuids.fresh draw (recordIds right)
    have together := drawn draw permitted
    simp only [recordIds] at fresh fresh' together
    dsimp only
    rw [← alike]
    cases lookup : findRecord left session.id studentId with
    | some record =>
        refine .ends _ _ ⟨rfl, (view_overwritten left _ professorId record data rfl rfl).trans ?_⟩
        rw [same]
        exact (view_overwritten right _ professorId record data rfl rfl).symm
    | none =>
        rw [lookup] at alike
        dsimp only
        rw [sessionMissing_alike same, findStudent_alike same]
        split
        · exact .fails _
        · rw [together] at fresh ⊢
          refine create_matched _ _ _ left right
            (fun one other x y => one = other ∧ view x professorId = view y professorId) ?_ ?_
          · rw [record_clash left _ fresh, record_clash right _ fresh', lookup, ← alike]
          · intro first second appended appended'
            refine ⟨rfl, ?_⟩
            rw [view_recorded left { left with attendanceRecords := first } professorId _ mine rfl
                appended,
              view_recorded right { right with attendanceRecords := second } professorId _ mine' rfl
                appended', same]
  · intro record
    refine coupled_bind _ _ _ _ _ _ (recordEvent_coupled uuids allowed now _ _ _ _ ?_) ?_
    · exact fun x y _ _ held => held
    · exact fun _ _ => coupled_pure _ _ fun x y held => ⟨rfl, held, trivial⟩

end Bodies

end FaceVec.Api

import FaceVec.Database

/-!
The write paths of `courses.service.ts` and `bulk-import.service.ts`:
`resolveAndLinkStudent`, shared by the enrol endpoint and the bulk-import
consumer, and the transaction of `createBulkImportJob`. Each body is followed
by what it has done when it ends.
-/

namespace FaceVec.Courses

variable {K : Type}

/-- The white space that `String.prototype.trim` removes. -/
def isTrimmed (c : Char) : Bool :=
  c ∈ ['\t', '\n', '\x0b', '\x0c', '\r', ' ', '\u00a0', '\u1680', '\u2028', '\u2029', '\u202f',
    '\u205f', '\u3000', '\ufeff'] || (0x2000 ≤ c.toNat && c.toNat ≤ 0x200a)

def trim (text : String) : String :=
  String.ofList ((text.toList.dropWhile isTrimmed).reverse.dropWhile isTrimmed).reverse

structure ResolveInput where
  studentId : Option Uuid
  studentNumber : Option String
  fullName : Option String
  email : Option String
  deriving DecidableEq, Repr

def importInput (row : BulkImportRow) : ResolveInput :=
  ⟨none, some row.studentNumber, row.fullName, row.email⟩

structure ResolveResult where
  enrollment : CourseEnrollment
  created : Bool
  alreadyEnrolled : Bool
  deriving DecidableEq, Repr

def assertAccess (course : Course) (actor : AuthContext) : Except Failure Unit :=
  if actor.role ≠ .ADMIN ∧ course.professorId ≠ actor.userId then
    .error (.http (forbiddenError "You do not have access to this course"))
  else .ok ()

def getCourseForActor (db : Database K) (id : Uuid) (actor : AuthContext) :
    Except Failure Course :=
  match findCourse db id with
  | none => .error (.http (notFoundError "Course not found"))
  | some course =>
      match assertAccess course actor with
      | .error failure => .error failure
      | .ok () => .ok course

theorem getCourse_ok (db : Database K) (id : Uuid) (actor : AuthContext) (course : Course)
    (passed : getCourseForActor db id actor = .ok course) :
    course ∈ db.courses ∧ course.id = id ∧
      (actor.role = .ADMIN ∨ course.professorId = actor.userId) := by
  unfold getCourseForActor at passed
  split at passed
  · cases passed
  · next stored lookup =>
      split at passed
      · cases passed
      · next permitted =>
          obtain rfl := Except.ok.inj passed
          refine ⟨List.mem_of_find?_eq_some lookup, by simpa using List.find?_some lookup, ?_⟩
          unfold assertAccess at permitted
          split at permitted
          · cases permitted
          · next allowed =>
              rw [not_and_or, not_ne_iff, not_ne_iff] at allowed
              exact allowed

/-- `input.x?.trim()`, with the empty string where it is absent. -/
def trimmed (field : Option String) : String := (field.map trim).getD ""

/-- `email?.trim() || null`. -/
def trimmedOrNull (field : Option String) : Option String :=
  if trimmed field = "" then none else some (trimmed field)

def emailTaken : Failure → Failure
  | .prisma .P2002 _ => .http (conflictError "A different student already uses this email")
  | failure => failure

theorem student_eq_of_number (students : Table Student.clash) (a b : Student) (inA : a ∈ students)
    (inB : b ∈ students) (same : a.studentNumber = b.studentNumber) : a = b :=
  students.eq_of_clash a b inA inB (by simp [Student.clash, same]) (by simp [Student.clash, same])

theorem student_eq_of_email (students : Table Student.clash) (a b : Student) (inA : a ∈ students)
    (inB : b ∈ students) (given : a.email.isSome) (same : a.email = b.email) : a = b := by
  obtain ⟨email, mailA⟩ := Option.isSome_iff_exists.mp given
  have mailB : b.email = some email := same.symm.trans mailA
  apply students.eq_of_clash a b inA inB <;> simp [Student.clash, sameValue, mailA, mailB]

theorem number_absent (db : Database K) (number : String)
    (absent : findStudentByNumber db number = none) (student : Student)
    (member : student ∈ db.students) : student.studentNumber ≠ number := by
  rw [findStudentByNumber, List.find?_eq_none] at absent
  simpa using absent student member

theorem enrollment_found (db : Database K) (courseId studentId : Uuid)
    (found : (findEnrollment db courseId studentId).isSome) :
    ∃ enrollment ∈ db.courseEnrollments, enrollment.courseId = courseId ∧
      enrollment.studentId = studentId := by
  obtain ⟨enrollment, found⟩ := Option.isSome_iff_exists.mp found
  exact ⟨enrollment, List.mem_of_find?_eq_some found, by simpa using List.find?_some found⟩

theorem found_enrollment (db : Database K) (enrollment : CourseEnrollment)
    (member : enrollment ∈ db.courseEnrollments) :
    (findEnrollment db enrollment.courseId enrollment.studentId).isSome := by
  rw [findEnrollment, List.find?_isSome]
  exact ⟨enrollment, member, by simp⟩

variable (uuids : UuidSource) (now : Instant)

/-- The number was just checked, so a unique violation is the e-mail's. -/
def createNewStudent (studentNumber fullName : String) (email : Option String) :
    Statement K Student :=
  tryCatch (createStudent uuids studentNumber fullName email) fun failure =>
    throw (emailTaken failure)

/-- Find the student, or create one; the flag says which. -/
def resolveStudent (input : ResolveInput) : Statement K (Student × Bool) :=
  match input.studentId with
  | some id => do
      match ← query (findStudent · id) with
      | none => throw (.http (notFoundError "Student not found"))
      | some student => pure (student, false)
  | none =>
      let studentNumber := trimmed input.studentNumber
      if studentNumber = "" then throw (.http (badRequestError "studentNumber is required"))
      else do
        match ← query (findStudentByNumber · studentNumber) with
        | some student => pure (student, false)
        | none =>
            let fullName := trimmed input.fullName
            if fullName = "" then
              throw (.http (badRequestError "fullName is required to create a new student"))
            else do
              let student ←
                createNewStudent uuids studentNumber fullName (trimmedOrNull input.email)
              pure (student, true)

/-- Link the student to the course, with an event for a new link. -/
def linkStudent (courseId : Uuid) (student : Student) (created : Bool) :
    Statement K ResolveResult := do
  match ← query (findEnrollment · courseId student.id) with
  -- Enrolling again records no event.
  | some enrollment => pure ⟨enrollment, created, true⟩
  | none => do
      let enrollment ← createEnrollment uuids courseId student.id
      let _ ← recordEvent uuids now "Course" courseId EventType.CourseStudentEnrolled
        (.courseStudentEnrolled enrollment.id courseId student.id)
      pure ⟨enrollment, created, false⟩

def resolveAndLinkStudent (courseId : Uuid) (input : ResolveInput) : Statement K ResolveResult := do
  let resolved ← resolveStudent uuids input
  linkStudent uuids now courseId resolved.1 resolved.2

/-- The body of `createBulkImportJob`'s transaction. -/
def createBulkImportJobTx (courseId actorId : Uuid) (rows : List BulkImportRow) :
    Statement K ImportJob := do
  let job ← createImportJobRow uuids courseId actorId rows.length
  let _ ← recordEvent uuids now "ImportJob" job.id EventType.CourseBulkImportRequested
    (.courseBulkImportRequested job.id courseId rows)
  pure job

/-- What `resolveStudent` leaves: at most one new student, and nothing else. -/
structure Resolved (db after : Database K) (input : ResolveInput) (student : Student)
    (created : Bool) : Prop where
  frame : after = { db with students := after.students }
  stored : student ∈ after.students
  number : input.studentId = none →
    trimmed input.studentNumber ≠ "" ∧ student.studentNumber = trimmed input.studentNumber
  found : created = false → after = db
  added : created = true → after.students.rows = db.students.rows ++ [student]
  named : created = true → trimmed input.fullName ≠ ""
  email : created = true → student.email = trimmedOrNull input.email
  unlinked : created = true → ∀ enrollment ∈ db.courseEnrollments, enrollment.studentId ≠ student.id

theorem createNewStudent_spec (studentNumber fullName : String) (email : Option String)
    (db : Database K) :
    Triple (· = db) (createNewStudent uuids studentNumber fullName email)
      fun student after => student.studentNumber = studentNumber ∧ student.email = email ∧
        (∀ enrollment ∈ db.courseEnrollments, enrollment.studentId ≠ student.id) ∧
        after = { db with students := after.students } ∧
        after.students.rows = db.students.rows ++ [student] := by
  refine triple_tryCatch _ _ ?_ fun _ => triple_throw _
  apply triple_statement
  rintro draw _ student after rfl ran
  obtain ⟨rfl, rows, inserted, rfl⟩ := create_ok _ _ _ _ _ _ ran
  refine ⟨rfl, rfl, fun enrollment member same => ?_, rfl, Table.insert_eq_some _ _ _ inserted⟩
  apply uuids.fresh draw
  exact List.mem_append_right _ (List.mem_map.mpr ⟨enrollment, member, same⟩)

theorem resolved_found (db : Database K) (input : ResolveInput) (student : Student)
    (stored : student ∈ db.students)
    (number : input.studentId = none →
      trimmed input.studentNumber ≠ "" ∧ student.studentNumber = trimmed input.studentNumber) :
    Resolved db db input student false :=
  ⟨rfl, stored, number, fun _ => rfl, by simp, by simp, by simp, by simp⟩

theorem resolveStudent_spec (input : ResolveInput) (db : Database K) :
    Triple (· = db) (resolveStudent uuids input)
      fun resolved after => Resolved db after input resolved.1 resolved.2 := by
  unfold resolveStudent
  cases given : input.studentId with
  | some id =>
      apply triple_bind _ _ (fun found after => found = findStudent db id ∧ after = db)
      · exact triple_query _ fun _ started => by rw [started]; exact ⟨rfl, rfl⟩
      · intro found
        cases found with
        | none => exact triple_throw _
        | some student =>
            apply triple_pure
            rintro _ ⟨found, rfl⟩
            exact resolved_found _ _ student (List.mem_of_find?_eq_some found.symm) (by simp [given])
  | none =>
      dsimp only
      split
      · exact triple_throw _
      · next numbered =>
          apply triple_bind _ _ (fun found after =>
            found = findStudentByNumber db (trimmed input.studentNumber) ∧ after = db)
          · exact triple_query _ fun _ started => by rw [started]; exact ⟨rfl, rfl⟩
          · intro found
            cases found with
            | some student =>
                apply triple_pure
                rintro _ ⟨found, rfl⟩
                have number : student.studentNumber = trimmed input.studentNumber := by
                  simpa using List.find?_some found.symm
                exact resolved_found _ _ student (List.mem_of_find?_eq_some found.symm)
                  fun _ => ⟨numbered, number⟩
            | none =>
                refine triple_weaken (· = db) _ (fun _ both => And.right both) ?_
                dsimp only
                split
                · exact triple_throw _
                · next named =>
                    refine triple_bind _ _ _ _ (createNewStudent_spec uuids _ _ _ db) fun student => ?_
                    apply triple_pure
                    rintro after ⟨number, email, unlinked, frame, added⟩
                    refine ⟨frame, ?_, fun _ => ⟨numbered, number⟩, by simp, fun _ => added,
                      fun _ => named, fun _ => email, fun _ => unlinked⟩
                    rw [Table.mem_rows, added]
                    exact List.mem_append_right _ (List.mem_singleton.mpr rfl)

def Announces (courseId : Uuid) (enrollment : CourseEnrollment)
    (message : OutboxMessage (EventPayload K)) : Prop :=
  message.eventType = EventType.CourseStudentEnrolled ∧
    message.payload = .courseStudentEnrolled enrollment.id courseId enrollment.studentId

/-- A new link comes with its event; an existing one with nothing. -/
inductive Linked (db : Database K) (courseId : Uuid) (student : Student) (created : Bool) :
    ResolveResult → Database K → Prop where
  | already (enrollment : CourseEnrollment) :
      findEnrollment db courseId student.id = some enrollment →
      Linked db courseId student created ⟨enrollment, created, true⟩ db
  | new (enrollment : CourseEnrollment) (message : OutboxMessage (EventPayload K))
      (middle after : Database K) :
      findEnrollment db courseId student.id = none →
      enrollment.courseId = courseId → enrollment.studentId = student.id →
      (findCourse db courseId).isSome →
      middle = { db with courseEnrollments := middle.courseEnrollments } →
      middle.courseEnrollments.rows = db.courseEnrollments.rows ++ [enrollment] →
      Announced middle after "Course" courseId EventType.CourseStudentEnrolled
        (.courseStudentEnrolled enrollment.id courseId student.id) message →
      Linked db courseId student created ⟨enrollment, created, false⟩ after

theorem createEnrollment_spec (courseId studentId : Uuid) (db : Database K) :
    Triple (· = db) (createEnrollment uuids courseId studentId)
      fun enrollment after => enrollment.courseId = courseId ∧ enrollment.studentId = studentId ∧
        (findCourse db courseId).isSome ∧
        after = { db with courseEnrollments := after.courseEnrollments } ∧
        after.courseEnrollments.rows = db.courseEnrollments.rows ++ [enrollment] := by
  apply triple_statement
  rintro draw _ enrollment after rfl ran
  split at ran
  · cases ran
  · next referenced =>
      obtain ⟨rfl, rows, inserted, rfl⟩ := create_ok _ _ _ _ _ _ ran
      refine ⟨rfl, rfl, ?_, rfl, Table.insert_eq_some _ _ _ inserted⟩
      simp only [Bool.or_eq_true, not_or, Bool.not_eq_true, Option.isNone_eq_false_iff] at referenced
      exact referenced.1

theorem linkStudent_spec (courseId : Uuid) (student : Student) (created : Bool)
    (db : Database K) :
    Triple (· = db) (linkStudent uuids now courseId student created)
      fun result after => Linked db courseId student created result after := by
  unfold linkStudent
  apply triple_bind _ _ (fun found after => found = findEnrollment db courseId student.id ∧ after = db)
  · exact triple_query _ fun _ started => by rw [started]; exact ⟨rfl, rfl⟩
  · intro found
    cases found with
    | some enrollment =>
        apply triple_pure
        rintro _ ⟨found, rfl⟩
        exact .already enrollment found.symm
    | none =>
        rintro start chances ⟨found, rfl⟩ result after rest ends
        obtain ⟨⟨enrollment, middle, left⟩, linked, ends⟩ := bind_ok _ _ _ _ ends
        obtain ⟨⟨message, final, last⟩, announced, ends⟩ := bind_ok _ _ _ _ ends
        obtain ⟨ofCourse, ofStudent, course, frame, rows⟩ :=
          createEnrollment_spec uuids courseId student.id start start chances rfl _ _ _ linked
        have event := recordEvent_spec uuids now _ _ _ _ middle middle left rfl _ _ _ announced
        obtain ⟨rfl, rfl, rfl⟩ := pure_ok _ _ _ _ _ _ ends
        exact .new enrollment message middle final found.symm ofCourse ofStudent course frame rows event

theorem resolveAndLinkStudent_spec (courseId : Uuid) (input : ResolveInput) (db : Database K) :
    Triple (· = db) (resolveAndLinkStudent uuids now courseId input)
      fun result after => ∃ middle student created, Resolved db middle input student created ∧
        Linked middle courseId student created result after := by
  rintro start chances rfl result after rest ends
  obtain ⟨⟨⟨student, created⟩, middle, left⟩, resolved, ends⟩ := bind_ok _ _ _ _ ends
  exact ⟨middle, student, created,
    resolveStudent_spec uuids input start start chances rfl _ _ _ resolved,
    linkStudent_spec uuids now courseId student created middle middle left rfl _ _ _ ends⟩

section Failures

variable (courseId : Uuid)

theorem createStudent_fails (db : Database K) (studentNumber fullName : String)
    (email : Option String) (absent : findStudentByNumber db studentNumber = none) :
    FailsOnly (· = db) (createStudent uuids studentNumber fullName email)
      (∃ other ∈ db.students, email.isSome ∧ other.email = email) := by
  apply failsOnly_statement
  rintro draw start failure rfl refused
  obtain ⟨old, member, clashes⟩ := create_error _ _ _ _ _ refused
  have otherNumber := number_absent start _ absent old member
  have otherId : old.id ≠ uuids.generate draw (studentIds start) := by
    intro same
    exact uuids.fresh draw _ (List.mem_append_left _ (List.mem_map.mpr ⟨old, member, same⟩))
  have sameEmail : sameValue old.email email = true := by
    cases userId : old.userId <;>
      simpa [Student.clash, otherNumber, otherId, sameValue, userId] using clashes
  refine ⟨old, member, ?_⟩
  cases mail : old.email <;> cases email <;> simp_all [sameValue]

theorem createNewStudent_fails (db : Database K) (studentNumber fullName : String)
    (email : Option String) (absent : findStudentByNumber db studentNumber = none) :
    FailsOnly (· = db) (createNewStudent uuids studentNumber fullName email)
      (∃ other ∈ db.students, email.isSome ∧ other.email = email) := by
  apply failsOnly_tryCatch
  · exact createStudent_fails uuids db studentNumber fullName email absent
  · intro why failure
    exact failsOnly_throw _ fun _ _ => why

theorem createEnrollment_fails (db : Database K) (student : Student)
    (stored : student ∈ db.students) (absent : findEnrollment db courseId student.id = none) :
    FailsOnly (· = db) (createEnrollment uuids courseId student.id)
      (findCourse db courseId = none) := by
  apply failsOnly_statement
  rintro draw db failure rfl refused
  split at refused
  · next dangling =>
      -- The student is there, so only the course can be missing.
      have known : (findStudent db student.id).isSome := by
        rw [findStudent, List.find?_isSome]
        exact ⟨student, stored, by simp⟩
      simpa [Option.isSome_iff_ne_none.mp known] using dangling
  · obtain ⟨old, member, clashes⟩ := create_error _ _ _ _ _ refused
    -- A clash would be an enrollment of the pair, and none was found.
    have otherId : old.id ≠ uuids.generate draw (db.courseEnrollments.rows.map (·.id)) := by
      intro same
      exact uuids.fresh draw _ (List.mem_map.mpr ⟨old, member, same⟩)
    have pair : old.courseId = courseId ∧ old.studentId = student.id := by
      simpa [CourseEnrollment.clash, otherId] using clashes
    have found := found_enrollment db old member
    rw [pair.1, pair.2, absent] at found
    contradiction

theorem linkStudent_fails (db : Database K) (student : Student) (created : Bool)
    (stored : student ∈ db.students) :
    FailsOnly (· = db) (linkStudent uuids now courseId student created)
      (findCourse db courseId = none) := by
  unfold linkStudent
  apply failsOnly_bind _ _ (fun found after => found = findEnrollment db courseId student.id ∧ after = db)
  · exact failsOnly_query _
  · exact triple_query _ fun _ started => by rw [started]; exact ⟨rfl, rfl⟩
  · intro found
    cases found with
    | some enrollment => exact failsOnly_pure _
    | none =>
        apply failsOnly_start
        rintro start ⟨absent, rfl⟩
        apply failsOnly_bind _ _ _ ?_ (createEnrollment_spec uuids courseId student.id start)
        · intro enrollment
          exact failsOnly_bind _ _ (fun _ _ => True) (recordEvent_fails uuids now _ _ _ _ _ _)
            (fun _ _ _ _ _ _ _ => trivial) fun message => failsOnly_pure _
        · exact createEnrollment_fails uuids courseId start student stored absent.symm

end Failures

/-- What the transaction of `createBulkImportJob` leaves. -/
structure JobCreated (db after : Database K) (courseId : Uuid) (rows : List BulkImportRow)
    (job : ImportJob) : Prop where
  pending : job.status = .PENDING
  course : job.courseId = courseId
  totalRows : job.totalRows = rows.length
  fresh : ∀ old ∈ db.importJobs, old.id ≠ job.id
  announced : ∃ middle message, middle = { db with importJobs := middle.importJobs } ∧
    middle.importJobs.rows = db.importJobs.rows ++ [job] ∧
    Announced middle after "ImportJob" job.id EventType.CourseBulkImportRequested
      (.courseBulkImportRequested job.id courseId rows) message

theorem createBulkImportJobTx_spec (courseId actorId : Uuid) (rows : List BulkImportRow)
    (db : Database K) :
    Triple (· = db) (createBulkImportJobTx uuids now courseId actorId rows)
      fun job after => JobCreated db after courseId rows job := by
  rintro start chances rfl job after rest ends
  obtain ⟨⟨created, middle, left⟩, inserted, ends⟩ := bind_ok _ _ _ _ ends
  obtain ⟨⟨message, final, last⟩, announced, ends⟩ := bind_ok _ _ _ _ ends
  obtain ⟨rfl, rfl, rfl⟩ := pure_ok _ _ _ _ _ _ ends
  have event := recordEvent_spec uuids now _ _ _ _ middle middle left rfl _ _ _ announced
  have row : Triple (· = start) (createImportJobRow uuids courseId actorId rows.length)
      fun job after => job.status = .PENDING ∧ job.courseId = courseId ∧
        job.totalRows = rows.length ∧
        (∀ old ∈ start.importJobs, old.id ≠ job.id) ∧
        after = { start with importJobs := after.importJobs } ∧
        after.importJobs.rows = start.importJobs.rows ++ [job] := by
    apply triple_statement
    rintro draw _ job after rfl ran
    split at ran
    · cases ran
    · obtain ⟨rfl, table, inserted, rfl⟩ := create_ok _ _ _ _ _ _ ran
      refine ⟨rfl, rfl, rfl, fun old member same => ?_, rfl, Table.insert_eq_some _ _ _ inserted⟩
      exact uuids.fresh draw _ (List.mem_map.mpr ⟨old, member, same⟩)
  obtain ⟨pending, course, total, fresh, frame, appended⟩ := row start chances rfl _ _ _ inserted
  exact ⟨pending, course, total, fresh, middle, message, frame, appended, event⟩

end FaceVec.Courses

import FaceVec.Courses.Enrollment

/-!
`resolveAndLinkStudent` alone in its transaction, for every input its type
allows: what it adds, and that doing it again adds nothing.
-/

namespace FaceVec.Courses

variable {K : Type}

/-- A `ResolveInput` as its callers may write it, with any text for an id. -/
structure ResolveInputText where
  studentId : Option String
  studentNumber : Option String
  fullName : Option String
  email : Option String
  deriving DecidableEq, Repr

/-- `if (input.studentId)`: the empty text gives no id. -/
def ResolveInputText.givenId (input : ResolveInputText) : Option String :=
  match input.studentId with
  | none => none
  | some text => if text = "" then none else some text

/-- The engine refuses a text that is no UUID. -/
def ResolveInputText.read (parse : String → Option Uuid) (input : ResolveInputText) :
    Except Failure ResolveInput :=
  match input.givenId with
  | none => .ok ⟨none, input.studentNumber, input.fullName, input.email⟩
  | some text =>
      match parse text with
      | none => .error (.prisma (.other "P2023") none)
      | some id => .ok ⟨some id, input.studentNumber, input.fullName, input.email⟩

def resolveAndLinkText (uuids : UuidSource) (parse : String → Option Uuid) (now : Instant)
    (courseId : Uuid) (input : ResolveInputText) : Statement K ResolveResult :=
  match input.read parse with
  | .error failure => throw failure
  | .ok read => resolveAndLinkStudent uuids now courseId read

/-- The student with the given id, or else with the trimmed number. -/
structure Wanted (input : ResolveInput) (student : Student) : Prop where
  byId : ∀ id, input.studentId = some id → student.id = id
  byNumber : input.studentId = none →
    trimmed input.studentNumber ≠ "" ∧ student.studentNumber = trimmed input.studentNumber

/-- At most one row joins each of three tables, and every other row stays. -/
structure Updated (db after : Database K) (courseId : Uuid) (input : ResolveInput)
    (result : ResolveResult) : Prop where
  frame : after = { db with
    students := after.students
    courseEnrollments := after.courseEnrollments
    outboxMessages := after.outboxMessages }
  enrolled : ∃ student ∈ after.students, Wanted input student ∧
    result.enrollment ∈ after.courseEnrollments ∧ result.enrollment.courseId = courseId ∧
    result.enrollment.studentId = student.id
  students : ∃ added : Option Student, after.students.rows = db.students.rows ++ added.toList ∧
    result.created = added.isSome
  links : ∃ added : Option (OutboxMessage (EventPayload K)),
    after.outboxMessages.rows = db.outboxMessages.rows ++ added.toList ∧
    after.courseEnrollments.rows = db.courseEnrollments.rows ++
      (added.map fun _ => result.enrollment).toList ∧
    (∀ message ∈ added, Announces courseId result.enrollment message) ∧
    result.alreadyEnrolled = added.isNone

section Updates

variable (uuids : UuidSource) (now : Instant) (courseId : Uuid) (input : ResolveInput)

theorem resolveStudent_wanted (db : Database K) :
    Triple (· = db) (resolveStudent uuids input)
      fun resolved _ => Wanted input resolved.1 := by
  rintro start chances rfl resolved after rest ends
  refine ⟨fun id given => ?_, fun absent =>
    (resolveStudent_spec uuids input start start chances rfl resolved after rest ends).number absent⟩
  simp only [resolveStudent, given] at ends
  obtain ⟨⟨found, middle, left⟩, looked, ends⟩ := bind_ok _ _ _ _ ends
  have read : Triple (· = start) (query (findStudent (K := K) · id) : Tx (Database K) Failure _)
      fun found _ => found = findStudent start id :=
    triple_query _ fun _ same => by rw [same]
  have lookup : found = findStudent start id := read start chances rfl _ _ _ looked
  cases found with
  | none => cases ends
  | some student =>
      obtain ⟨rfl, -⟩ := pure_ok _ _ _ _ _ _ ends
      simpa using List.find?_some lookup.symm

theorem linked_updated (db middle after : Database K) (student : Student) (created : Bool)
    (result : ResolveResult) (wanted : Wanted input student)
    (resolved : Resolved db middle input student created)
    (linked : Linked middle courseId student created result after) :
    Updated db after courseId input result := by
  have added : ∃ added : Option Student,
      middle.students.rows = db.students.rows ++ added.toList ∧ created = added.isSome := by
    cases created with
    | false => exact ⟨none, by simp [resolved.found rfl], rfl⟩
    | true => exact ⟨some student, resolved.added rfl, rfl⟩
  cases linked with
  | already enrollment found =>
      have pair : enrollment.courseId = courseId ∧ enrollment.studentId = student.id := by
        simpa using List.find?_some found
      refine ⟨?_, ⟨student, resolved.stored, wanted, List.mem_of_find?_eq_some found, pair⟩, added,
        none, ?_, ?_, by simp, rfl⟩
      · rw [resolved.frame]
      · rw [resolved.frame]
        simp
      · rw [resolved.frame]
        simp
  | new enrollment message joined after absent ofCourse ofStudent course frame appended announced =>
      have students : after.students = middle.students := by rw [announced.frame, frame]
      have enrollments : after.courseEnrollments.rows = db.courseEnrollments.rows ++ [enrollment] := by
        have same : middle.courseEnrollments = db.courseEnrollments := by rw [resolved.frame]
        rw [announced.frame, ← same]
        exact appended
      have messages : after.outboxMessages.rows = db.outboxMessages.rows ++ [message] := by
        have same : joined.outboxMessages = db.outboxMessages := by rw [frame, resolved.frame]
        rw [← same]
        exact announced.appended
      refine ⟨?_, ⟨student, by rw [students]; exact resolved.stored, wanted, ?_, ofCourse, ofStudent⟩,
        by rw [students]; exact added, some message, messages, enrollments, ?_, rfl⟩
      · rw [announced.frame, frame, resolved.frame]
      · rw [Table.mem_rows, enrollments]
        exact List.mem_append_right _ (List.mem_singleton.mpr rfl)
      · intro other same
        obtain rfl := Option.some.inj same
        exact ⟨announced.eventType, by rw [announced.payload, ofStudent]⟩

end Updates

section Again

variable (uuids : UuidSource) (now : Instant) (courseId : Uuid) (input : ResolveInput)
  (db : Database K) (student : Student) (chances : List (Chance Failure)) (calm : Calm chances)

include calm in
theorem resolveStudent_again (stored : student ∈ db.students) (wanted : Wanted input student) :
    resolveStudent uuids input (db, chances) = .ok ((student, false), db, chances.tail) := by
  unfold resolveStudent
  cases given : input.studentId with
  | some id =>
      have found : findStudent db id = some student := by
        refine Table.find_single _ _ student (fun a b first second => ?_) stored
          (by simp [wanted.byId id given])
        simp only [beq_iff_eq] at first second
        simp [Student.clash, first, second]
      have read := query_calm (findStudent · id) db chances calm
      rw [found] at read
      dsimp only
      rw [bind_of_ok _ _ _ _ read]
      rfl
  | none =>
      obtain ⟨nonempty, number⟩ := wanted.byNumber given
      have found : findStudentByNumber db (trimmed input.studentNumber) = some student := by
        refine Table.find_single _ _ student (fun a b first second => ?_) stored
          (by simp [number])
        simp only [beq_iff_eq] at first second
        simp [Student.clash, first, second]
      have read := query_calm
        (findStudentByNumber · (trimmed input.studentNumber)) db chances calm
      rw [found] at read
      simp only [if_neg nonempty]
      rw [bind_of_ok _ _ _ _ read]
      rfl

include calm in
theorem linkStudent_again (created : Bool) (enrollment : CourseEnrollment)
    (stored : enrollment ∈ db.courseEnrollments) (ofCourse : enrollment.courseId = courseId)
    (ofStudent : enrollment.studentId = student.id) :
    linkStudent uuids now courseId student created (db, chances) =
      .ok (⟨enrollment, created, true⟩, db, chances.tail) := by
  have found : findEnrollment db courseId student.id = some enrollment := by
    refine Table.find_single _ _ enrollment (fun a b first second => ?_) stored
      (by simp [ofCourse, ofStudent])
    simp only [Bool.and_eq_true, beq_iff_eq] at first second
    simp [CourseEnrollment.clash, first.1, first.2, second.1, second.2]
  have read := query_calm (findEnrollment · courseId student.id) db chances calm
  rw [found] at read
  rw [linkStudent, bind_of_ok _ _ _ _ read]
  rfl

end Again

section Transactions

variable (uuids : UuidSource) (parse : String → Option Uuid) (now : Instant) (courseId : Uuid)
  (input : ResolveInputText) (db : Database K) (chances : List (Chance Failure))

/-- A call that throws leaves the database alone. One that succeeds links the
wanted student by adding what is missing; done again, where nothing fails, it
finds the same link and adds nothing. -/
theorem resolveAndLink_idempotent :
    match resolveAndLinkText uuids parse now courseId input (db, chances) with
    | .error failure => ∀ ending,
        transaction (resolveAndLinkText uuids parse now courseId input) chances ending db =
          (.error failure, db)
    | .ok (result, after, _) =>
        transaction (resolveAndLinkText uuids parse now courseId input) chances .commits db =
          (.ok result, after) ∧
        (∃ read, input.read parse = .ok read ∧ Updated db after courseId read result) ∧
        ∀ later again, Calm again →
          transaction (resolveAndLinkText uuids parse later courseId input) again .commits after =
            (.ok ⟨result.enrollment, false, true⟩, after) := by
  cases ran : resolveAndLinkText uuids parse now courseId input (db, chances) with
  | error failure =>
      intro ending
      simp only [transaction, ran]
  | ok outcome =>
      obtain ⟨result, after, rest⟩ := outcome
      cases given : input.read parse with
      | error failure =>
          simp only [resolveAndLinkText, given] at ran
          cases ran
      | ok read =>
          have body : ∀ time, resolveAndLinkText (K := K) uuids parse time courseId input =
              resolveAndLinkStudent uuids time courseId read := by
            intro time
            simp only [resolveAndLinkText, given]
          rw [body] at ran
          obtain ⟨⟨⟨student, created⟩, middle, left⟩, first, second⟩ := bind_ok _ _ _ _ ran
          have wanted := resolveStudent_wanted uuids read db db chances rfl _ _ _ first
          have resolved := resolveStudent_spec uuids read db db chances rfl _ _ _ first
          have linked := linkStudent_spec uuids now courseId student created middle middle left rfl
            _ _ _ second
          have updated := linked_updated courseId read db middle after student created result wanted
            resolved linked
          refine ⟨?_, ⟨read, rfl, updated⟩, fun later again calm => ?_⟩
          · simp only [transaction, body, ran]
          · obtain ⟨known, stored, wantedToo, joined, ofCourse, ofStudent⟩ := updated.enrolled
            have found := resolveStudent_again uuids read after known again calm stored wantedToo
            have repeats := linkStudent_again uuids later courseId after known again.tail
              (calm_tail again calm) false result.enrollment joined ofCourse ofStudent
            simp only [transaction, body, resolveAndLinkStudent, bind_of_ok _ _ _ _ found, repeats]

end Transactions

end FaceVec.Courses

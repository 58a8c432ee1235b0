import FaceVec.Courses.Concurrency

/-!
What one statement does in a call of `resolveAndLinkStudent` that shares its
course and its student with others, as long as what the call did not find is
still absent when it inserts it. The comment at the insert of a student takes
that for granted; a call that loses the race blames the e-mail.
-/

namespace FaceVec.Courses

open Interleaving

variable {K : Type}

section Conditions

variable (base : Database K) (courseId : Uuid) (number : String)

inductive Names : ResolveInput → Prop where
  | byNumber (input : ResolveInput) : input.studentId = none →
      trimmed input.studentNumber = number → number ≠ "" → trimmed input.fullName ≠ "" →
      Names input
  | byId (input : ResolveInput) (student : Student) : student ∈ base.students →
      student.studentNumber = number → input.studentId = some student.id → Names input

/-- What the call is about to insert is not in `db`. -/
def Absent (db : Database K) (call : Call) : Prop :=
  match call.phase with
  | .creating => findStudentByNumber db (trimmed call.input.studentNumber) = none
  | .inserting student _ => findEnrollment db courseId student.id = none
  | _ => True

/-- Whoever inserts would still not find it. -/
def Unraced (system : State K) : Event Nat Empty → Prop
  | .act index _ => Absent courseId (visible index system.store) (system.procs index)
  | .env _ => True

/-- No open transaction has inserted it either. -/
def Unblocked (index : Nat) (system : State K) : Event Nat Empty → Prop
  | .act acting _ => acting = index → Absent courseId system.store.db (system.procs index)
  | .env _ => True

instance (db : Database K) (call : Call) : Decidable (Absent courseId db call) := by
  unfold Absent
  split <;> infer_instance

instance (system : State K) : ∀ event, Decidable (Unraced courseId system event)
  | .act _ _ => inferInstanceAs (Decidable (Absent _ _ _))
  | .env _ => inferInstanceAs (Decidable True)

end Conditions

/-- The failure of a call that was refused for the e-mail. -/
def emailConflict : Failure := .http (conflictError "A different student already uses this email")

/-- A student with another number who has the e-mail of the input. -/
def Owns (number : String) (db : Database K) (input : ResolveInput) (other : Student) : Prop :=
  other ∈ db.students ∧ other.studentNumber ≠ number ∧ (trimmedOrNull input.email).isSome ∧
    other.email = trimmedOrNull input.email

section Moves

variable (courseId : Uuid) (number : String)

def Named (db : Database K) (student : Student) : Prop :=
  student ∈ db.students ∧ student.studentNumber = number

def Enrolled (db : Database K) (student : Student) (enrollment : CourseEnrollment) : Prop :=
  enrollment ∈ db.courseEnrollments ∧ enrollment.courseId = courseId ∧
    enrollment.studentId = student.id

def Ended : Phase → Prop
  | .done _ => True
  | .failed _ => True
  | _ => False

/-- What one step of a call can do that nobody raced. -/
inductive Move (store : Store K) (call : Call) : Store K × Phase → Prop where
  | rests (phase : Phase) : call.phase = phase → Ended phase → Move store call (store, phase)
  | waits (phase : Phase) : call.phase = phase → ¬ Absent courseId store.db call →
      Move store call (store, phase)
  | found (student : Student) : call.phase = .ready → Named number store.db student →
      hidden call.index store (.student student.id) = false →
      Move store call (store, .linking student false)
  | missing : call.phase = .ready → call.input.studentId = none → Move store call (store, .creating)
  | refused (other : Student) : call.phase = .creating → Owns number store.db call.input other →
      Move store call (store, .failed emailConflict)
  | created (student : Student) (db : Database K) : call.phase = .creating →
      student.studentNumber = number →
      (∀ enrollment ∈ store.db.courseEnrollments, enrollment.studentId ≠ student.id) →
      db = { store.db with students := db.students } →
      db.students.rows = store.db.students.rows ++ [student] →
      Move store call (⟨db, store.opened ++ [(call.index, .student student.id)]⟩,
        .linking student true)
  | already (student : Student) (created : Bool) (enrollment : CourseEnrollment) :
      call.phase = .linking student created → Enrolled courseId store.db student enrollment →
      Move store call (store, .committing ⟨enrollment, created, true⟩)
  | unlinked (student : Student) (created : Bool) : call.phase = .linking student created →
      Move store call (store, .inserting student created)
  | linked (student : Student) (created : Bool) (enrollment : CourseEnrollment)
      (db : Database K) : call.phase = .inserting student created →
      enrollment.courseId = courseId → enrollment.studentId = student.id →
      db = { store.db with courseEnrollments := db.courseEnrollments } →
      db.courseEnrollments.rows = store.db.courseEnrollments.rows ++ [enrollment] →
      Move store call (⟨db, store.opened ++ [(call.index, .enrollment enrollment.id)]⟩,
        .recording student created enrollment)
  | announced (student : Student) (created : Bool) (enrollment : CourseEnrollment)
      (message : OutboxMessage (EventPayload K)) (db : Database K) :
      call.phase = .recording student created enrollment →
      Announced store.db db "Course" courseId EventType.CourseStudentEnrolled
        (.courseStudentEnrolled enrollment.id courseId student.id) message →
      Move store call (⟨db, store.opened ++ [(call.index, .message message.id)]⟩,
        .committing ⟨enrollment, created, false⟩)
  | committed (result : ResolveResult) : call.phase = .committing result →
      Move store call (commit call.index store, .done result)

/-- What a call may rely on between its statements. -/
def Stands (store : Store K) (call : Call) : Prop :=
  match call.phase with
  | .ready => True
  | .creating => call.input.studentId = none
  | .linking student _ | .inserting student _ =>
      Named number store.db student ∧ hidden call.index store (.student student.id) = false
  | .recording student _ enrollment =>
      Named number store.db student ∧ Enrolled courseId store.db student enrollment
  | .committing result | .done result => ∃ student, Named number store.db student ∧
      Enrolled courseId store.db student result.enrollment
  | .failed failure => failure = emailConflict ∧ ∃ other, Owns number store.db call.input other

/-- The rows of the start are all there, committed, and joined only by rows of the student. -/
structure Grounded (base : Database K) (store : Store K) : Prop where
  courses : store.db.courses = base.courses
  students : ∀ student ∈ base.students, student ∈ store.db.students
  enrollments : ∀ enrollment ∈ base.courseEnrollments, enrollment ∈ store.db.courseEnrollments
  joined : ∀ student ∈ store.db.students, student ∈ base.students ∨ student.studentNumber = number
  settled : ∀ owner id, (owner, .student id) ∈ store.opened →
    ∀ student ∈ base.students, student.id ≠ id
  stored : ∀ owner id, (owner, .student id) ∈ store.opened →
    ∃ student ∈ store.db.students, student.id = id

theorem grounded_seen (base : Database K) (store : Store K) (index : Nat)
    (grounded : Grounded number base store) (student : Student) (member : student ∈ base.students) :
    student ∈ (visible index store).students := by
  rw [mem_visible_students, hidden_eq_false]
  refine ⟨grounded.students student member, fun owner entry => ?_⟩
  exact absurd rfl (grounded.settled owner student.id entry student member)

end Moves

section Statements

variable (uuids : UuidSource) (now : Instant) (courseId : Uuid) (number : String)
  (base : Database K) (store : Store K) (call : Call) (draw : Nat)
  (grounded : Grounded number base store) (names : Names base number call.input)

include grounded names in
theorem ready_moves (begins : call.phase = .ready) : Move courseId number store call
    (proceed uuids now courseId draw store call.index call.input .ready) := by
  simp only [proceed]
  cases names with
  | byId student member numbered given =>
      have seen := grounded_seen number base store call.index grounded student member
      have known : (findStudent (visible call.index store) student.id).isSome := by
        rw [findStudent, List.find?_isSome]
        exact ⟨student, seen, by simp⟩
      obtain ⟨other, found⟩ := Option.isSome_iff_exists.mp known
      have stored : other ∈ (visible call.index store).students := List.mem_of_find?_eq_some found
      have sameId : other.id = student.id := by simpa using List.find?_some found
      have same : other = student :=
        Table.eq_of_clash _ _ _ stored seen (by simp [Student.clash, sameId])
          (by simp [Student.clash, sameId])
      subst same
      simp only [given, found]
      rw [mem_visible_students] at stored
      exact .found other begins ⟨stored.1, numbered⟩ stored.2
  | byNumber given numbered nonempty named =>
      simp only [given, numbered, if_neg nonempty, if_neg named]
      cases found : findStudentByNumber (visible call.index store) number with
      | none => exact .missing begins given
      | some student =>
          have stored : student ∈ (visible call.index store).students :=
            List.mem_of_find?_eq_some found
          have sameNumber : student.studentNumber = number := by simpa using List.find?_some found
          rw [mem_visible_students] at stored
          exact .found student begins ⟨stored.1, sameNumber⟩ stored.2

theorem createNewStudent_error (studentNumber fullName : String) (email : Option String)
    (db : Database K) (failure : Failure)
    (refused : createNewStudent uuids studentNumber fullName email (db, [⟨none, draw⟩]) =
      .error failure) : failure = emailConflict := by
  obtain ⟨violated, ran, handled⟩ := tryCatch_error _ _ _ _ refused
  have unique : violated = .prisma .P2002 none := by
    simp only [createStudent, statement, faultOf, create, List.head?_cons, Option.bind_some] at ran
    split at ran
    · next error failed =>
        split at failed
        · rw [← Except.error.inj failed] at ran
          exact (Except.error.inj ran).symm
        · cases failed
    · cases ran
  subst unique
  exact (Except.error.inj handled).symm

include grounded names in
theorem creating_moves (begins : call.phase = .creating) (numbered : call.input.studentId = none)
    (unraced : Absent courseId (visible call.index store) call)
    (idle : ∀ row, (call.index, row) ∉ store.opened) : Move courseId number store call
    (proceed uuids now courseId draw store call.index call.input .creating) := by
  have named : trimmed call.input.studentNumber = number := by
    cases names with
    | byNumber given same nonempty named => exact same
    | byId student member _ given =>
        rw [numbered] at given
        contradiction
  simp only [Absent, begins] at unraced
  simp only [proceed]
  cases ran : attempt (createNewStudent uuids (trimmed call.input.studentNumber)
      (trimmed call.input.fullName) (trimmedOrNull call.input.email)) draw call.index store with
  | fails failure =>
      obtain ⟨⟨other, member, given, same⟩, refused⟩ := attempt_fails _ _ _ _ _ _
        (createNewStudent_fails uuids _ _ _ _ unraced) ran
      obtain rfl := createNewStudent_error uuids draw _ _ _ _ _ refused
      have different := number_absent _ _ unraced other member
      rw [named] at different
      rw [mem_visible_students] at member
      rw [rollback_idle call.index store idle]
      exact .refused other begins ⟨member.1, different, given, same⟩
  | waits =>
      refine .waits _ begins fun absent => ?_
      simp only [Absent, begins] at absent
      obtain ⟨⟨other, member, given, same⟩, student, db, inserted⟩ := attempt_waits _ _ _ _ _ _
        (createNewStudent_fails uuids _ _ _ _ absent)
        (createNewStudent_spec uuids _ _ _ _) ran
      rcases grounded.joined other member with old | sameNumber
      · -- A committed owner of the e-mail is seen.
        have seen := grounded_seen number base store call.index grounded other old
        have apart := Table.apart_of_append _ _ _ inserted.2.2.2.2 other seen
        obtain ⟨email, mail⟩ := Option.isSome_iff_exists.mp given
        simp [Student.clash, sameValue, same, inserted.2.1, mail] at apart
      · exact number_absent _ _ absent other member (sameNumber.trans named.symm)
  | writes student db =>
      obtain ⟨sameNumber, _, unlinked, frame, added⟩ := attempt_writes _ _ _ _ _ _ _
        (createNewStudent_spec uuids _ _ _ _) ran
      exact .created student db begins (sameNumber.trans named) unlinked frame added

theorem linking_moves (student : Student) (created : Bool)
    (begins : call.phase = .linking student created) : Move courseId number store call
    (proceed uuids now courseId draw store call.index call.input (.linking student created)) := by
  simp only [proceed]
  cases found : findEnrollment (visible call.index store) courseId student.id with
  | none => exact .unlinked student created begins
  | some enrollment =>
      have member : enrollment ∈ (visible call.index store).courseEnrollments :=
        List.mem_of_find?_eq_some found
      have pair : enrollment.courseId = courseId ∧ enrollment.studentId = student.id := by
        simpa using List.find?_some found
      rw [mem_visible_enrollments] at member
      exact .already student created enrollment begins ⟨member.1, pair⟩

theorem inserting_moves (student : Student) (created : Bool)
    (begins : call.phase = .inserting student created)
    (course : (findCourse store.db courseId).isSome) (named : Named number store.db student)
    (seen : hidden call.index store (.student student.id) = false)
    (unraced : Absent courseId (visible call.index store) call) : Move courseId number store call
    (proceed uuids now courseId draw store call.index call.input (.inserting student created)) := by
  have stored : student ∈ (visible call.index store).students :=
    (mem_visible_students call.index store student).mpr ⟨named.1, seen⟩
  simp only [Absent, begins] at unraced
  simp only [proceed]
  cases ran : attempt (createEnrollment uuids courseId student.id) draw call.index store with
  | fails failure =>
      obtain ⟨missing, _⟩ := attempt_fails _ _ _ _ _ _
        (createEnrollment_fails uuids courseId _ student stored unraced) ran
      have known : findCourse store.db courseId = none := missing
      rw [known] at course
      contradiction
  | waits =>
      refine .waits _ begins fun absent => ?_
      simp only [Absent, begins] at absent
      obtain ⟨missing, _⟩ := attempt_waits _ _ _ _ _ _
        (createEnrollment_fails uuids courseId store.db student named.1 absent)
        (createEnrollment_spec uuids courseId student.id _) ran
      rw [missing] at course
      contradiction
  | writes enrollment db =>
      obtain ⟨ofCourse, ofStudent, _, frame, added⟩ := attempt_writes _ _ _ _ _ _ _
        (createEnrollment_spec uuids courseId student.id store.db) ran
      exact .linked student created enrollment db begins ofCourse ofStudent frame added

theorem recording_moves (student : Student) (created : Bool) (enrollment : CourseEnrollment)
    (begins : call.phase = .recording student created enrollment) : Move courseId number store call
    (proceed uuids now courseId draw store call.index call.input
      (.recording student created enrollment)) := by
  simp only [proceed]
  cases ran : attempt (recordEvent uuids now "Course" courseId EventType.CourseStudentEnrolled
      (.courseStudentEnrolled enrollment.id courseId student.id)) draw call.index store with
  | fails failure =>
      exact absurd (attempt_fails _ _ _ _ False _ (recordEvent_fails uuids now _ _ _ _ _ _) ran).1 id
  | waits =>
      exact absurd (attempt_waits _ _ _ _ False _ (recordEvent_fails uuids now _ _ _ _ _ _)
        (recordEvent_spec uuids now _ _ _ _ _) ran).1 id
  | writes message db =>
      exact .announced student created enrollment message db begins
        (attempt_writes _ _ _ _ _ _ _ (recordEvent_spec uuids now _ _ _ _ _) ran)

include grounded names in
theorem proceed_moves (course : (findCourse base courseId).isSome)
    (stands : Stands courseId number store call)
    (unraced : Absent courseId (visible call.index store) call)
    (idle : call.phase = .creating → ∀ row, (call.index, row) ∉ store.opened) :
    Move courseId number store call
      (proceed uuids now courseId draw store call.index call.input call.phase) := by
  unfold Stands at stands
  cases begins : call.phase with
  | ready => exact ready_moves uuids now courseId number base store call draw grounded names begins
  | creating =>
      rw [begins] at stands
      exact creating_moves uuids now courseId number base store call draw grounded names begins
        stands unraced (idle begins)
  | linking student created =>
      exact linking_moves uuids now courseId number store call draw student created begins
  | inserting student created =>
      rw [begins] at stands
      have known : (findCourse store.db courseId).isSome := by
        rw [findCourse, grounded.courses]
        exact course
      exact inserting_moves uuids now courseId number store call draw student created begins known
        stands.1 stands.2 unraced
  | recording student created enrollment =>
      exact recording_moves uuids now courseId number store call draw student created enrollment begins
  | committing result => exact .committed result begins
  | done result => exact .rests _ begins trivial
  | failed failure => exact .rests _ begins trivial

end Statements

section Effects

/-- Rows stay, a new student has the number, and only new students get hidden. -/
structure Extends (number : String) (before after : Store K) : Prop where
  courses : after.db.courses = before.db.courses
  students : ∀ student ∈ before.db.students, student ∈ after.db.students
  enrollments : ∀ enrollment ∈ before.db.courseEnrollments, enrollment ∈ after.db.courseEnrollments
  joined : ∀ student ∈ after.db.students,
    student ∈ before.db.students ∨ student.studentNumber = number
  opened : ∀ owner id, (owner, .student id) ∈ after.opened →
    (owner, .student id) ∈ before.opened ∨
      ((∀ student ∈ before.db.students, student.id ≠ id) ∧
        ∃ student ∈ after.db.students, student.id = id)

theorem extends_refl (number : String) (store : Store K) : Extends number store store :=
  ⟨rfl, fun _ => id, fun _ => id, fun _ => Or.inl, fun _ _ => Or.inl⟩

def linkOf : Phase → Option CourseEnrollment
  | .recording _ _ enrollment => some enrollment
  | .committing result | .done result =>
      if result.alreadyEnrolled then none else some result.enrollment
  | _ => none

def announcedOf : Phase → Option CourseEnrollment
  | .committing result | .done result =>
      if result.alreadyEnrolled then none else some result.enrollment
  | _ => none

/-- The phases in which a call may have rows of its own. -/
def Working : Phase → Prop
  | .linking _ _ | .inserting _ _ | .recording _ _ _ | .committing _ => True
  | _ => False

def rank : Phase → Nat
  | .ready => 6
  | .creating => 5
  | .linking _ _ => 4
  | .inserting _ _ => 3
  | .recording _ _ _ => 2
  | .committing _ => 1
  | .done _ | .failed _ => 0

variable (courseId : Uuid) (number : String) (store : Store K) (call : Call)
  (next : Store K × Phase) (moves : Move courseId number store call next)

theorem extends_stands (before after : Store K) (extended : Extends number before after)
    (stands : Stands courseId number before call) : Stands courseId number after call := by
  have named : ∀ student, Named number before.db student → Named number after.db student :=
    fun student held => ⟨extended.students student held.1, held.2⟩
  have enrolled : ∀ student enrollment, Enrolled courseId before.db student enrollment →
      Enrolled courseId after.db student enrollment :=
    fun student enrollment held => ⟨extended.enrollments enrollment held.1, held.2⟩
  have shown : ∀ student ∈ before.db.students,
      hidden call.index before (.student student.id) = false →
        hidden call.index after (.student student.id) = false := by
    intro student member seen
    rw [hidden_eq_false] at seen ⊢
    intro owner entry
    rcases extended.opened owner student.id entry with old | new
    · exact seen owner old
    · exact absurd rfl (new.1 student member)
  unfold Stands at stands ⊢
  split at stands
  · trivial
  · exact stands
  · exact ⟨named _ stands.1, shown _ stands.1.1 stands.2⟩
  · exact ⟨named _ stands.1, shown _ stands.1.1 stands.2⟩
  · exact ⟨named _ stands.1, enrolled _ _ stands.2⟩
  · obtain ⟨student, held, linked⟩ := stands
    exact ⟨student, named student held, enrolled student _ linked⟩
  · obtain ⟨student, held, linked⟩ := stands
    exact ⟨student, named student held, enrolled student _ linked⟩
  · obtain ⟨conflict, other, member, owned⟩ := stands
    exact ⟨conflict, other, extended.students other member, owned⟩

theorem extends_grounded (base : Database K) (before after : Store K)
    (extended : Extends number before after) (grounded : Grounded number base before) :
    Grounded number base after := by
  refine ⟨extended.courses.trans grounded.courses,
    fun student member => extended.students student (grounded.students student member),
    fun old member => extended.enrollments old (grounded.enrollments old member),
    fun student member => ?_, fun owner id entry student member => ?_, fun owner id entry => ?_⟩
  · rcases extended.joined student member with old | new
    · exact grounded.joined student old
    · exact Or.inr new
  · rcases extended.opened owner id entry with old | new
    · exact grounded.settled owner id old student member
    · exact new.1 student (grounded.students student member)
  · rcases extended.opened owner id entry with old | new
    · obtain ⟨student, member, same⟩ := grounded.stored owner id old
      exact ⟨student, extended.students student member, same⟩
    · exact new.2

include moves in
theorem move_extends : Extends number store next.1 := by
  cases moves with
  | created student db begins named unlinked frame added =>
      refine ⟨by rw [frame], fun old member => ?_, fun old member => by rw [frame]; exact member,
        fun old member => ?_, fun owner id entry => ?_⟩
      · rw [Table.mem_rows, added]
        exact List.mem_append_left _ member
      · rw [Table.mem_rows, added, List.mem_append, List.mem_singleton] at member
        rcases member with before | rfl
        · exact Or.inl before
        · exact Or.inr named
      · rcases List.mem_append.mp entry with before | new
        · exact Or.inl before
        · right
          obtain ⟨-, rfl⟩ : owner = call.index ∧ id = student.id := by simpa using new
          refine ⟨fun old member sameId => ?_, student, ?_, rfl⟩
          · have apart := Table.apart_of_append _ _ _ added old member
            simp [Student.clash, sameId] at apart
          · rw [Table.mem_rows, added]
            exact List.mem_append_right _ (List.mem_singleton.mpr rfl)
  | linked student created enrollment db begins ofCourse ofStudent frame added =>
      refine ⟨by rw [frame], fun old member => by rw [frame]; exact member, fun old member => ?_,
        fun old member => ?_, fun owner id entry => ?_⟩
      · rw [Table.mem_rows, added]
        exact List.mem_append_left _ member
      · rw [frame] at member
        exact Or.inl member
      · exact Or.inl (by simpa using entry)
  | announced student created enrollment message db begins announced =>
      refine ⟨by rw [announced.frame], fun old member => by rw [announced.frame]; exact member,
        fun old member => by rw [announced.frame]; exact member, fun old member => ?_,
        fun owner id entry => ?_⟩
      · rw [announced.frame] at member
        exact Or.inl member
      · exact Or.inl (by simpa using entry)
  | committed result begins =>
      refine ⟨rfl, fun _ => id, fun _ => id, fun _ => Or.inl, fun owner id entry => ?_⟩
      exact Or.inl ((mem_closed call.index store _).mp entry).1
  | _ => exact extends_refl number store

include moves in
/-- The acting call finds its own footing in the new store. -/
theorem move_stands (base : Database K) (grounded : Grounded number base store)
    (stands : Stands courseId number store call) :
    Stands courseId number next.1 { call with phase := next.2 } := by
  have extended := move_extends courseId number store call next moves
  cases moves with
  | rests phase begins ended =>
      subst begins
      exact stands
  | waits phase begins blocked =>
      subst begins
      exact stands
  | found student begins named seen => exact ⟨named, seen⟩
  | missing begins given => exact given
  | refused other begins owned => exact ⟨rfl, other, owned⟩
  | created student db begins named unlinked frame added =>
      refine ⟨⟨?_, named⟩, ?_⟩
      · rw [Table.mem_rows, added]
        exact List.mem_append_right _ (List.mem_singleton.mpr rfl)
      · rw [hidden_eq_false]
        intro owner entry
        rcases List.mem_append.mp entry with before | new
        · obtain ⟨old, member, sameId⟩ := grounded.stored owner student.id before
          have apart := Table.apart_of_append _ _ _ added old member
          simp [Student.clash, sameId] at apart
        · simpa using new
  | already student created enrollment begins enrolled =>
      simp only [Stands, begins] at stands
      exact ⟨student, stands.1, enrolled⟩
  | unlinked student created begins =>
      simp only [Stands, begins] at stands
      exact stands
  | linked student created enrollment db begins ofCourse ofStudent frame added =>
      simp only [Stands, begins] at stands
      refine ⟨⟨extended.students student stands.1.1, stands.1.2⟩, ?_, ofCourse, ofStudent⟩
      rw [Table.mem_rows, added]
      exact List.mem_append_right _ (List.mem_singleton.mpr rfl)
  | announced student created enrollment message db begins announced =>
      simp only [Stands, begins] at stands
      exact ⟨student, ⟨extended.students student stands.1.1, stands.1.2⟩,
        extended.enrollments enrollment stands.2.1, stands.2.2⟩
  | committed result begins =>
      simp only [Stands, begins] at stands
      exact stands

include moves in
theorem move_owners (working : ∀ row, (call.index, row) ∈ store.opened → Working call.phase)
    (owner : Nat) (row : Opened) (entry : (owner, row) ∈ next.1.opened) :
    (owner ≠ call.index ∧ (owner, row) ∈ store.opened) ∨ (owner = call.index ∧ Working next.2) := by
  have kept : (owner, row) ∈ store.opened → (Working call.phase → Working next.2) →
      (owner ≠ call.index ∧ (owner, row) ∈ store.opened) ∨
        (owner = call.index ∧ Working next.2) := by
    intro before stays
    by_cases same : owner = call.index
    · subst same
      exact Or.inr ⟨rfl, stays (working row before)⟩
    · exact Or.inl ⟨same, before⟩
  have grows : ∀ added, (owner, row) ∈ store.opened ++ [(call.index, added)] → Working next.2 →
      (owner ≠ call.index ∧ (owner, row) ∈ store.opened) ∨
        (owner = call.index ∧ Working next.2) := by
    intro added either works
    rcases List.mem_append.mp either with before | new
    · exact kept before fun _ => works
    · exact Or.inr ⟨congrArg Prod.fst (List.mem_singleton.mp new), works⟩
  cases moves with
  | rests phase begins ended => exact kept entry (begins ▸ id)
  | waits phase begins blocked => exact kept entry (begins ▸ id)
  | missing begins given => exact kept entry (begins ▸ False.elim)
  | refused other begins owned => exact kept entry (begins ▸ False.elim)
  | created student db => exact grows _ entry trivial
  | linked student created enrollment db => exact grows _ entry trivial
  | announced student created enrollment message db => exact grows _ entry trivial
  | committed result begins =>
      obtain ⟨before, different⟩ := (mem_closed call.index store _).mp entry
      exact Or.inl ⟨different, before⟩
  | _ => exact kept entry fun _ => trivial

/-- Some stored student with the number is enrolled. -/
def Paired (db : Database K) : Prop :=
  ∃ student enrollment, Named number db student ∧ Enrolled courseId db student enrollment

/-- A stored row of the student and the course is the only one. -/
theorem enrolled_unique (db : Database K) (one other : Student) (a b : CourseEnrollment)
    (namedOne : Named number db one) (namedOther : Named number db other)
    (first : Enrolled courseId db one a) (second : Enrolled courseId db other b) : a = b := by
  have same := student_eq_of_number _ one other namedOne.1 namedOther.1
    (namedOne.2.trans namedOther.2.symm)
  subst same
  apply Table.eq_of_clash _ a b first.1 second.1
  · simp [CourseEnrollment.clash, first.2.1, first.2.2, second.2.1, second.2.2]
  · simp [CourseEnrollment.clash, first.2.1, first.2.2, second.2.1, second.2.2]

include moves in
/-- Only an insert of the link makes the student enrolled, and only once. -/
theorem move_links (stands : Stands courseId number store call) :
    (linkOf next.2 = linkOf call.phase ∧
        (Paired courseId number next.1.db → Paired courseId number store.db)) ∨
      (linkOf call.phase = none ∧ (linkOf next.2).isSome ∧ ¬ Paired courseId number store.db) := by
  cases moves with
  | created student db begins named unlinked frame added =>
      left
      refine ⟨by rw [begins]; rfl, ?_⟩
      rintro ⟨other, enrollment, held, enrolled⟩
      have same : db.courseEnrollments = store.db.courseEnrollments := by rw [frame]
      have stored : enrollment ∈ store.db.courseEnrollments := same ▸ enrolled.1
      have member := held.1
      rw [Table.mem_rows, added, List.mem_append, List.mem_singleton] at member
      rcases member with before | rfl
      · exact ⟨other, enrollment, ⟨before, held.2⟩, stored, enrolled.2⟩
      · exact absurd enrolled.2.2 (unlinked enrollment stored)
  | linked student created enrollment db begins ofCourse ofStudent frame added =>
      right
      refine ⟨by rw [begins]; rfl, rfl, ?_⟩
      rintro ⟨other, old, held, enrolled⟩
      simp only [Stands, begins] at stands
      have same := student_eq_of_number _ other student held.1 stands.1.1
        (held.2.trans stands.1.2.symm)
      subst same
      have apart := Table.apart_of_append _ _ _ added old enrolled.1
      simp [CourseEnrollment.clash, ofCourse, ofStudent, enrolled.2.1, enrolled.2.2] at apart
  | announced student created enrollment message db begins announced =>
      left
      refine ⟨by rw [begins]; rfl, ?_⟩
      rintro ⟨other, old, held, enrolled⟩
      rw [announced.frame] at held enrolled
      exact ⟨other, old, held, enrolled⟩
  | rests phase begins ended => exact Or.inl ⟨by rw [begins], id⟩
  | waits phase begins blocked => exact Or.inl ⟨by rw [begins], id⟩
  | found student begins named seen => exact Or.inl ⟨by rw [begins]; rfl, id⟩
  | missing begins given => exact Or.inl ⟨by rw [begins]; rfl, id⟩
  | refused other begins owned => exact Or.inl ⟨by rw [begins]; rfl, id⟩
  | already student created enrollment begins enrolled => exact Or.inl ⟨by rw [begins]; rfl, id⟩
  | unlinked student created begins => exact Or.inl ⟨by rw [begins]; rfl, id⟩
  | committed result begins => exact Or.inl ⟨by rw [begins]; rfl, id⟩

include moves in
theorem move_announces (stands : Stands courseId number store call) :
    (announcedOf next.2 = announcedOf call.phase ∧
        next.1.db.outboxMessages = store.db.outboxMessages) ∨
      ∃ enrollment message, announcedOf call.phase = none ∧ linkOf call.phase = some enrollment ∧
        announcedOf next.2 = some enrollment ∧ Announces courseId enrollment message ∧
        next.1.db.outboxMessages.rows = store.db.outboxMessages.rows ++ [message] := by
  cases moves with
  | announced student created enrollment message db begins announced =>
      right
      simp only [Stands, begins] at stands
      refine ⟨enrollment, message, by rw [begins]; rfl, by rw [begins]; rfl, rfl,
        ⟨announced.eventType, ?_⟩, announced.appended⟩
      rw [announced.payload, stands.2.2.2]
  | created student db begins named unlinked frame added =>
      exact Or.inl ⟨by rw [begins]; rfl, by rw [frame]⟩
  | linked student created enrollment db begins ofCourse ofStudent frame added =>
      exact Or.inl ⟨by rw [begins]; rfl, by rw [frame]⟩
  | rests phase begins ended => exact Or.inl ⟨by rw [begins], rfl⟩
  | waits phase begins blocked => exact Or.inl ⟨by rw [begins], rfl⟩
  | found student begins named seen => exact Or.inl ⟨by rw [begins]; rfl, rfl⟩
  | missing begins given => exact Or.inl ⟨by rw [begins]; rfl, rfl⟩
  | refused other begins owned => exact Or.inl ⟨by rw [begins]; rfl, rfl⟩
  | already student created enrollment begins enrolled => exact Or.inl ⟨by rw [begins]; rfl, rfl⟩
  | unlinked student created begins => exact Or.inl ⟨by rw [begins]; rfl, rfl⟩
  | committed result begins => exact Or.inl ⟨by rw [begins]; rfl, rfl⟩

include moves in
theorem move_rank (free : Absent courseId store.db call) :
    Ended next.2 ∨ rank next.2 < rank call.phase := by
  cases moves with
  | rests phase begins ended => exact Or.inl ended
  | waits phase begins blocked => exact absurd free blocked
  | refused other begins owned => exact Or.inl trivial
  | committed result begins => exact Or.inl trivial
  | found student begins | missing begins | created student db begins
  | already student created enrollment begins | unlinked student created begins
  | linked student created enrollment db begins
  | announced student created enrollment message db begins =>
      right
      simp [begins, rank]

end Effects

end FaceVec.Courses

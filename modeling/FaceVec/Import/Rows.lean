import FaceVec.Import.Consumer

/-!
Roster rows done again. A row is settled once its transaction has nothing
left to do: its student is linked, or it cannot be resolved. A settled row
stays settled whatever rows follow, also when a later row creates the student
that an earlier one could not.
-/

namespace FaceVec.Import

open Courses

variable {K : Type}

inductive Settled (db : Database K) (courseId : Uuid) (row : BulkImportRow) : Prop where
  | linked (student : Student) : student ∈ db.students →
      student.studentNumber = trim row.studentNumber →
      (findEnrollment db courseId student.id).isSome → Settled db courseId row
  | unnumbered : trim row.studentNumber = "" → Settled db courseId row
  | unnamed : findStudentByNumber db (trim row.studentNumber) = none →
      trimmed row.fullName = "" → Settled db courseId row
  | taken (other : Student) : findStudentByNumber db (trim row.studentNumber) = none →
      other ∈ db.students → (trimmedOrNull row.email).isSome →
      other.email = trimmedOrNull row.email → Settled db courseId row
  | courseless : findCourse db courseId = none → Settled db courseId row

theorem resolved_keeps (db middle : Database K) (input : ResolveInput) (student : Student)
    (created : Bool) (resolved : Resolved db middle input student created) (known : Student)
    (member : known ∈ db.students) : known ∈ middle.students := by
  cases created with
  | false =>
      rw [resolved.found rfl]
      exact member
  | true =>
      rw [Table.mem_rows, resolved.added rfl]
      exact List.mem_append_left _ member

section Again

variable (db middle : Database K) (courseId : Uuid) (row : BulkImportRow) (student : Student)
  (created : Bool) (resolved : Resolved db middle (importInput row) student created)

include resolved in
/-- The student of a settled row is not created, and is linked already. -/
theorem settled_found (settled : Settled db courseId row) :
    (created = false ∧ (findEnrollment db courseId student.id).isSome) ∨
      findCourse db courseId = none := by
  have number := (resolved.number rfl).2
  cases settled with
  | linked known member same enrolled =>
      left
      have stored := resolved_keeps db middle _ student created resolved known member
      have sameStudent := student_eq_of_number _ known student stored resolved.stored
        (same.trans number.symm)
      subst sameStudent
      cases created with
      | false => exact ⟨rfl, enrolled⟩
      | true =>
          obtain ⟨enrollment, inDb, _, ofStudent⟩ := enrollment_found db courseId known.id enrolled
          -- A student created just now has no enrollment.
          exact absurd ofStudent (resolved.unlinked rfl enrollment inDb)
  | unnumbered numberless => exact absurd numberless (resolved.number rfl).1
  | unnamed absent nameless =>
      cases created with
      | false =>
          have inDb : student ∈ db.students := resolved.found rfl ▸ resolved.stored
          exact absurd number (number_absent db _ absent student inDb)
      | true => exact absurd nameless (resolved.named rfl)
  | taken other absent member given same =>
      cases created with
      | false =>
          have inDb : student ∈ db.students := resolved.found rfl ▸ resolved.stored
          exact absurd number (number_absent db _ absent student inDb)
      | true =>
          have stored := resolved_keeps db middle _ student true resolved other member
          have sameStudent := student_eq_of_email _ other student stored resolved.stored (same ▸ given)
            (same.trans (resolved.email rfl).symm)
          subst sameStudent
          -- The address leads to a student of another number, so the row fails again.
          exact absurd number (number_absent db _ absent other member)
  | courseless missing => exact Or.inr missing

end Again

section Transactions

variable (uuids : UuidSource) (now : Instant) (courseId : Uuid)

theorem settled_unchanged (db : Database K) (row : BulkImportRow)
    (settled : Settled db courseId row) :
    Triple (· = db) (resolveAndLinkStudent uuids now courseId (importInput row))
      fun _ after => after = db := by
  rintro start chances rfl result after rest ends
  obtain ⟨middle, student, created, resolved, linked⟩ :=
    resolveAndLinkStudent_spec uuids now courseId (importInput row) start start chances rfl _ _ _ ends
  rcases settled_found start middle courseId row student created resolved settled with
    ⟨found, enrolled⟩ | missing
  · have same := resolved.found found
    subst same
    cases linked with
    | already => rfl
    | new enrollment message linked after absent =>
        rw [absent] at enrolled
        contradiction
  · have courses : findCourse middle courseId = findCourse start courseId := by
      rw [resolved.frame]
      rfl
    have enrollments : middle.courseEnrollments = start.courseEnrollments := by rw [resolved.frame]
    cases linked with
    | already enrollment found =>
        cases created with
        | false => exact resolved.found rfl
        | true =>
            obtain ⟨enrollment, member, _, ofStudent⟩ :=
              enrollment_found after courseId student.id (by rw [found]; rfl)
            rw [enrollments] at member
            exact absurd ofStudent (resolved.unlinked rfl enrollment member)
    | new enrollment message linked after absent ofCourse ofStudent course =>
        rw [courses, missing] at course
        contradiction

theorem importRow_again (work : Work) (row : BulkImportRow) (rest : List BulkImportRow)
    (fate : Fate) (db : Database K) (settled : Settled db work.payload.courseId row) :
    (importRow uuids now work row rest fate db).2 = db := by
  simp only [importRow]
  cases committed : commits (resolveAndLinkStudent uuids now work.payload.courseId (importInput row))
      fate.chances fate.ending db with
  | false => exact transaction_aborted _ _ _ _ committed
  | true =>
      obtain ⟨result, same⟩ := transaction_committed _ _ _ _ _
        (settled_unchanged uuids now work.payload.courseId db row settled) committed
      exact same

end Transactions

section Failures

variable (uuids : UuidSource) (now : Instant) (courseId : Uuid)

theorem resolveStudent_fails (db : Database K) (row : BulkImportRow) :
    FailsOnly (· = db) (resolveStudent uuids (importInput row)) (Settled db courseId row) := by
  unfold resolveStudent importInput
  dsimp only
  split
  · next numberless => exact failsOnly_throw _ fun _ _ => .unnumbered numberless
  · apply failsOnly_bind _ _ (fun found after =>
      found = findStudentByNumber db (trim row.studentNumber) ∧ after = db)
    · exact failsOnly_query _
    · exact triple_query _ fun _ started => by rw [started]; exact ⟨rfl, rfl⟩
    · intro found
      cases found with
      | some student => exact failsOnly_pure _
      | none =>
          dsimp only
          split
          · next nameless =>
              exact failsOnly_throw _ fun _ absent => .unnamed absent.1.symm nameless
          · apply failsOnly_start
            rintro start ⟨absent, rfl⟩
            apply failsOnly_bind _ _ _ _ (createNewStudent_spec uuids _ _ _ start)
              (fun student => failsOnly_pure _)
            apply failsOnly_weaken _ _ _ (createNewStudent_fails uuids start _ _ _ absent.symm)
            rintro ⟨other, member, given, same⟩
            exact .taken other absent.symm member given same

/-- A row that meets no fault fails only where it is settled. -/
theorem resolveAndLinkStudent_fails (db : Database K) (row : BulkImportRow) :
    FailsOnly (· = db) (resolveAndLinkStudent uuids now courseId (importInput row))
      (Settled db courseId row) := by
  apply failsOnly_bind _ _ _ (resolveStudent_fails uuids courseId db row)
    (resolveStudent_spec uuids (importInput row) db)
  rintro ⟨student, created⟩
  apply failsOnly_start
  intro middle resolved
  apply failsOnly_weaken _ _ _
    (linkStudent_fails uuids now courseId middle student created resolved.stored)
  intro missing
  rw [resolved.frame] at missing
  exact .courseless missing

end Failures

/-- What a committed row leaves behind, for the rows before it. -/
structure Grown (db after : Database K) (courseId : Uuid) (student : Student) : Prop where
  courses : after.courses = db.courses
  students : after.students.rows = db.students.rows ∨
    after.students.rows = db.students.rows ++ [student]
  enrollments : ∀ enrollment ∈ db.courseEnrollments, enrollment ∈ after.courseEnrollments
  stored : student ∈ after.students
  linked : (findEnrollment after courseId student.id).isSome

theorem linked_grown (db middle after : Database K) (courseId : Uuid) (input : ResolveInput)
    (student : Student) (created : Bool) (result : ResolveResult)
    (resolved : Resolved db middle input student created)
    (linked : Linked middle courseId student created result after) :
    Grown db after courseId student := by
  have students : middle.students.rows = db.students.rows ∨
      middle.students.rows = db.students.rows ++ [student] := by
    cases created with
    | false => exact Or.inl (by rw [resolved.found rfl])
    | true => exact Or.inr (resolved.added rfl)
  have courses : middle.courses = db.courses := by rw [resolved.frame]
  have enrollments : middle.courseEnrollments = db.courseEnrollments := by rw [resolved.frame]
  cases linked with
  | already enrollment found =>
      exact ⟨courses, students, fun _ member => enrollments ▸ member, resolved.stored,
        by rw [found]; rfl⟩
  | new enrollment message joined after absent ofCourse ofStudent course frame appended announced =>
      have kept : after.courses = middle.courses ∧ after.students = middle.students ∧
          after.courseEnrollments.rows = middle.courseEnrollments.rows ++ [enrollment] := by
        rw [announced.frame, ← appended, frame]
        exact ⟨rfl, rfl, rfl⟩
      obtain ⟨sameCourses, sameStudents, added⟩ := kept
      refine ⟨sameCourses.trans courses, by rw [sameStudents]; exact students, fun old member => ?_,
        by rw [sameStudents]; exact resolved.stored, ?_⟩
      · rw [Table.mem_rows, added, enrollments]
        exact List.mem_append_left _ member
      · have member : enrollment ∈ after.courseEnrollments := by
          rw [Table.mem_rows, added]
          exact List.mem_append_right _ (List.mem_singleton.mpr rfl)
        have found := found_enrollment after enrollment member
        rwa [ofCourse, ofStudent] at found

section Growth

variable (db after : Database K) (courseId : Uuid) (student : Student)
  (grown : Grown db after courseId student)

include grown in
theorem grown_keeps (known : Student) (member : known ∈ db.students) : known ∈ after.students := by
  rw [Table.mem_rows]
  rcases grown.students with same | added
  · rw [same]
    exact member
  · rw [added]
    exact List.mem_append_left _ member

include grown in
/-- A number that was free stays free, or the row's student has it. -/
theorem grown_absent (number : String) (absent : findStudentByNumber db number = none) :
    findStudentByNumber after number = none ∨ student.studentNumber = number := by
  by_cases taken : student.studentNumber = number
  · exact Or.inr taken
  · left
    unfold findStudentByNumber at absent ⊢
    rcases grown.students with same | added
    · rw [same]
      exact absent
    · rw [added, List.find?_append, absent]
      simp [taken]

include grown in
theorem grown_settled (row : BulkImportRow) (settled : Settled db courseId row) :
    Settled after courseId row := by
  cases settled with
  | linked known member number enrolled =>
      obtain ⟨enrollment, stored, ofCourse, ofStudent⟩ := enrollment_found db courseId known.id enrolled
      have found := found_enrollment after enrollment (grown.enrollments enrollment stored)
      rw [ofCourse, ofStudent] at found
      exact .linked known (grown_keeps db after courseId student grown known member) number found
  | unnumbered numberless => exact .unnumbered numberless
  | unnamed absent nameless =>
      rcases grown_absent db after courseId student grown _ absent with free | number
      · exact .unnamed free nameless
      · exact .linked student grown.stored number grown.linked
  | taken other absent member given same =>
      rcases grown_absent db after courseId student grown _ absent with free | number
      · exact .taken other free (grown_keeps db after courseId student grown other member) given same
      · exact .linked student grown.stored number grown.linked
  | courseless missing =>
      apply Settled.courseless
      unfold findCourse at missing ⊢
      rw [grown.courses]
      exact missing

end Growth

section Rows

variable (uuids : UuidSource) (now : Instant) (work : Work) (row : BulkImportRow)
  (rest : List BulkImportRow) (fate : Fate) (db : Database K)

/-- A row transaction aborts, or links a student with the row's number. -/
theorem importRow_cases :
    (commits (resolveAndLinkStudent uuids now work.payload.courseId (importInput row))
          fate.chances fate.ending db = false ∧
        (importRow uuids now work row rest fate db).2 = db) ∨
      ∃ student, student.studentNumber = trim row.studentNumber ∧
        Grown db (importRow uuids now work row rest fate db).2 work.payload.courseId student := by
  simp only [importRow]
  cases committed : commits (resolveAndLinkStudent uuids now work.payload.courseId (importInput row))
      fate.chances fate.ending db with
  | false => exact Or.inl ⟨rfl, transaction_aborted _ _ _ _ committed⟩
  | true =>
      obtain ⟨result, middle, student, created, resolved, linked⟩ := transaction_committed _ _ _ _ _
        (resolveAndLinkStudent_spec uuids now work.payload.courseId (importInput row) db) committed
      exact Or.inr ⟨student, (resolved.number rfl).2,
        linked_grown db middle _ _ _ student created result resolved linked⟩

theorem importRow_keeps_settled (other : BulkImportRow)
    (settled : Settled db work.payload.courseId other) :
    Settled (importRow uuids now work row rest fate db).2 work.payload.courseId other := by
  rcases importRow_cases uuids now work row rest fate db with ⟨_, same⟩ | ⟨student, _, grown⟩
  · rw [same]
    exact settled
  · exact grown_settled db _ _ student grown other settled

theorem importRow_settles (calm : Calm fate.chances) (ends : fate.ending = .commits) :
    Settled (importRow uuids now work row rest fate db).2 work.payload.courseId row := by
  rcases importRow_cases uuids now work row rest fate db with ⟨aborted, same⟩ | ⟨student, number, grown⟩
  · rw [same]
    rw [ends] at aborted
    exact transaction_fails _ _ _ _
      (resolveAndLinkStudent_fails uuids now work.payload.courseId db row) calm aborted
  · exact .linked student grown.stored number grown.linked

end Rows

def withJobs (importJobs : Table ImportJob.clash) (db : Database K) : Database K :=
  { db with importJobs }

theorem withJobs_withJobs (first second : Table ImportJob.clash) (db : Database K) :
    withJobs first (withJobs second db) = withJobs first db := rfl

section Jobs

variable (jobs : Table ImportJob.clash) (uuids : UuidSource) (now : Instant)

theorem create_blind {Row : Type} {clash : Row → Row → Bool} (table : Database K → Table clash)
    (put : Table clash → Database K → Database K) (row : Row) (db : Database K)
    (reads : table (withJobs jobs db) = table db)
    (writes : ∀ rows, put rows (withJobs jobs db) = withJobs jobs (put rows db)) :
    create table put row (withJobs jobs db) =
      (create table put row db).map fun out => (out.1, withJobs jobs out.2) := by
  unfold create
  rw [reads]
  cases (table db).insert row with
  | none => rfl
  | some rows => exact congrArg (fun after => Except.ok (row, after)) (writes rows)

theorem resolveStudent_blind (input : ResolveInput) :
    Blind (withJobs jobs) (resolveStudent (K := K) uuids input) := by
  unfold resolveStudent
  cases input.studentId with
  | some id =>
      apply blind_bind
      · exact blind_query _ fun _ => rfl
      intro found
      cases found with
      | none => exact blind_throw _
      | some student => exact blind_pure _
  | none =>
      dsimp only
      split
      · exact blind_throw _
      · apply blind_bind
        · exact blind_query _ fun _ => rfl
        intro found
        cases found with
        | some student => exact blind_pure _
        | none =>
            dsimp only
            split
            · exact blind_throw _
            · apply blind_bind
              · apply blind_tryCatch
                · apply blind_statement
                  intro draw db
                  exact create_blind jobs _ _ _ db rfl fun _ => rfl
                · exact fun failure => blind_throw _
              · exact fun student => blind_pure _

theorem createEnrollment_blind (courseId studentId : Uuid) :
    Blind (withJobs jobs) (createEnrollment (K := K) uuids courseId studentId) := by
  apply blind_statement
  intro draw db
  rw [show findCourse (withJobs jobs db) courseId = findCourse db courseId from rfl,
    show findStudent (withJobs jobs db) studentId = findStudent db studentId from rfl]
  by_cases dangling : ((findCourse db courseId).isNone || (findStudent db studentId).isNone) = true
  · rw [if_pos dangling, if_pos dangling]
    rfl
  · rw [if_neg dangling, if_neg dangling]
    exact create_blind jobs _ _ _ db rfl fun _ => rfl

theorem linkStudent_blind (courseId : Uuid) (student : Student) (created : Bool) :
    Blind (withJobs jobs) (linkStudent (K := K) uuids now courseId student created) := by
  apply blind_bind
  · exact blind_query _ fun _ => rfl
  intro found
  cases found with
  | some enrollment => exact blind_pure _
  | none =>
      apply blind_bind
      · exact createEnrollment_blind jobs uuids courseId student.id
      · intro enrollment
        apply blind_bind
        · apply blind_statement
          intro draw db
          exact create_blind jobs _ _ _ db rfl fun _ => rfl
        · exact fun message => blind_pure _

theorem importRow_blind (work : Work) (row : BulkImportRow) (rest : List BulkImportRow)
    (fate : Fate) (db : Database K) :
    (importRow uuids now work row rest fate (withJobs jobs db)).2 =
      withJobs jobs (importRow uuids now work row rest fate db).2 := by
  have blind : Blind (withJobs jobs)
      (resolveAndLinkStudent (K := K) uuids now work.payload.courseId (importInput row)) :=
    blind_bind _ _ (resolveStudent_blind jobs uuids (importInput row))
      fun resolved => linkStudent_blind jobs uuids now work.payload.courseId resolved.1 resolved.2
  simp only [importRow, transaction_blind _ _ _ _ blind]

end Jobs

end FaceVec.Import

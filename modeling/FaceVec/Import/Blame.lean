import FaceVec.Faults
import FaceVec.Import.Accounting

/-!
Which rows a completed import reports as errors. The loop catches whatever the
transaction of a row throws, so a row that met a database failure stands in the
report beside the rows that can never be imported.
-/

namespace FaceVec.Import

open Interleaving Courses

variable {K : Type}

/-- The failures of a database that is away for a moment: an engine error that no
statement raises of itself, or an error from outside the engine. -/
def Outage : Failure → Prop
  | .prisma (.other _) _ | .other _ => True
  | _ => False

/-- The e-mail of a new student is another student's. -/
def taken (db : Database K) (row : BulkImportRow) : Bool :=
  db.students.rows.any fun other =>
    (trimmedOrNull row.email).isSome && other.email = trimmedOrNull row.email

/-- The domain error that `resolveAndLinkStudent` raises for a row in a state. -/
def domainError (db : Database K) (row : BulkImportRow) : Option HttpError :=
  if trim row.studentNumber = "" then some (badRequestError "studentNumber is required")
  else
    match findStudentByNumber db (trim row.studentNumber) with
    | some _ => none
    | none =>
        if trimmed row.fullName = "" then
          some (badRequestError "fullName is required to create a new student")
        else if taken db row then
          some (conflictError "A different student already uses this email")
        else none

/-- The statements that the transaction of a row gets to, if none of them fails. -/
def statements (db : Database K) (courseId : Uuid) (row : BulkImportRow) : Nat :=
  if trim row.studentNumber = "" then 0
  else
    match findStudentByNumber db (trim row.studentNumber) with
    | some student => if (findEnrollment db courseId student.id).isSome then 2 else 4
    | none => if trimmed row.fullName = "" then 1 else if taken db row then 2 else 5

/-- How a body ends that raises the domain error, or none. -/
def EndsWith {α : Type} (raised : Option HttpError) (out : Except Failure (α × Database K)) :
    Prop :=
  match raised with
  | some error => out = .error (.http error)
  | none => ∃ result after, out = .ok (result, after) ∧ True

section Rows

variable (uuids : UuidSource) (now : Instant) (courseId : Uuid) (db : Database K)
  (row : BulkImportRow)

theorem emailTaken_outage (failure : Failure) (outage : Outage failure) :
    emailTaken failure = failure := by
  unfold Outage at outage
  split at outage
  · rfl
  · rfl
  · exact outage.elim

theorem taken_iff : taken db row = true ↔ ∃ other ∈ db.students,
    (trimmedOrNull row.email).isSome ∧ other.email = trimmedOrNull row.email := by
  simp [taken, Table.mem_rows]

theorem createNewStudent_raises (studentNumber fullName : String) (clashes : taken db row = true) :
    Raises Outage db (createNewStudent uuids studentNumber fullName (trimmedOrNull row.email)) 1
      (.http (conflictError "A different student already uses this email")) := by
  have refuses : Raises Outage db
      (createStudent uuids studentNumber fullName (trimmedOrNull row.email)) 1 (.prisma .P2002 none) := by
    apply proceeds_statement
    intro draw
    obtain ⟨other, member, given, same⟩ := (taken_iff db row).mp clashes
    obtain ⟨email, mail⟩ := Option.isSome_iff_exists.mp given
    dsimp only [create]
    cases inserted : db.students.insert ⟨uuids.generate draw (studentIds db), studentNumber, fullName,
        trimmedOrNull row.email, none⟩ with
    | none => rfl
    | some next =>
        have apart := Table.fresh_of_insert _ _ _ inserted other member
        simp [Student.clash, sameValue, same, mail] at apart
  exact proceeds_rename _ emailTaken 1 _ _ refuses emailTaken_outage fun out raised => by
    rw [raised]
    rfl

theorem createNewStudent_finishes (studentNumber fullName : String)
    (absent : findStudentByNumber db studentNumber = none) (free : taken db row = false) :
    Finishes Outage db (createNewStudent uuids studentNumber fullName (trimmedOrNull row.email)) 1
      fun _ _ => True := by
  have runs : Finishes Outage db
      (createStudent uuids studentNumber fullName (trimmedOrNull row.email)) 1 fun _ _ => True := by
    refine finishes_statement _ _
      (createStudent_fails uuids db studentNumber fullName (trimmedOrNull row.email) absent) ?_
    intro clash
    rw [(taken_iff db row).mpr clash] at free
    contradiction
  refine proceeds_rename _ emailTaken 1 _ _ runs emailTaken_outage fun out finished => ?_
  obtain ⟨student, after, rfl, _⟩ := finished
  exact ⟨student, after, rfl, trivial⟩

/-- Linking a stored student to a stored course never fails of itself. -/
theorem linkStudent_proceeds (student : Student) (created : Bool) (stored : student ∈ db.students)
    (course : (findCourse db courseId).isSome) :
    Finishes Outage db (linkStudent uuids now courseId student created)
      (if (findEnrollment db courseId student.id).isSome then 1 else 3) fun _ _ => True := by
  cases found : findEnrollment db courseId student.id with
  | some enrollment =>
      refine proceeds_bind _ _ 1 0 (fun read after => read = some enrollment ∧ db = after) _
        (finishes_query _ ⟨found, rfl⟩) ?_
      rintro _ _ ⟨rfl, rfl⟩
      exact finishes_pure _ trivial
  | none =>
      refine proceeds_bind _ _ 1 2 (fun read after => read = none ∧ db = after) _
        (finishes_query _ ⟨found, rfl⟩) ?_
      rintro _ _ ⟨rfl, rfl⟩
      have enrolls : Finishes Outage db (createEnrollment uuids courseId student.id) 1
          fun _ _ => True := by
        refine finishes_statement _ _
          (createEnrollment_fails uuids courseId db student stored found) ?_
        intro missing
        rw [missing] at course
        contradiction
      refine proceeds_bind _ _ 1 1 _ _ enrolls fun enrollment between _ => ?_
      have records : Finishes Outage between (recordEvent uuids now "Course" courseId
          EventType.CourseStudentEnrolled
          (.courseStudentEnrolled enrollment.id courseId student.id)) 1 fun _ _ => True :=
        finishes_statement _ False
          (recordEvent_fails uuids now "Course" courseId EventType.CourseStudentEnrolled
            (.courseStudentEnrolled enrollment.id courseId student.id) (· = between) False) id
      exact proceeds_bind _ _ 1 0 _ _ records fun _ _ _ => finishes_pure _ trivial

theorem resolveStudent_numberless (numberless : trim row.studentNumber = "") :
    resolveStudent uuids (importInput row) =
      (throw (.http (badRequestError "studentNumber is required")) : Statement K (Student × Bool)) :=
  if_pos numberless

theorem resolveStudent_number (wanted : trim row.studentNumber ≠ "") :
    resolveStudent uuids (importInput row) = (do
      match ← query (findStudentByNumber · (trim row.studentNumber)) with
      | some student => pure (student, false)
      | none =>
          if trimmed row.fullName = "" then
            throw (.http (badRequestError "fullName is required to create a new student"))
          else do
            let student ← createNewStudent uuids (trim row.studentNumber) (trimmed row.fullName)
              (trimmedOrNull row.email)
            pure (student, true) : Statement K (Student × Bool)) :=
  if_neg wanted

theorem resolveStudent_finds (student : Student) (numbered : trim row.studentNumber ≠ "")
    (found : findStudentByNumber db (trim row.studentNumber) = some student) :
    Finishes Outage db (resolveStudent uuids (importInput row)) 1
      fun resolved after => resolved = (student, false) ∧ db = after := by
  rw [resolveStudent_number uuids row numbered]
  refine proceeds_bind _ _ 1 0 (fun read after => read = some student ∧ db = after) _
    (finishes_query _ ⟨found, rfl⟩) ?_
  rintro _ _ ⟨rfl, rfl⟩
  exact finishes_pure _ ⟨rfl, rfl⟩

theorem resolveStudent_unnamed (numbered : trim row.studentNumber ≠ "")
    (absent : findStudentByNumber db (trim row.studentNumber) = none)
    (nameless : trimmed row.fullName = "") :
    Raises Outage db (resolveStudent uuids (importInput row)) 1
      (.http (badRequestError "fullName is required to create a new student")) := by
  rw [resolveStudent_number uuids row numbered]
  refine proceeds_bind _ _ 1 0 (fun read after => read = none ∧ db = after) _
    (finishes_query _ ⟨absent, rfl⟩) ?_
  rintro _ _ ⟨rfl, rfl⟩
  dsimp only
  rw [if_pos nameless]
  exact raises_throw _

theorem resolveStudent_taken (numbered : trim row.studentNumber ≠ "")
    (absent : findStudentByNumber db (trim row.studentNumber) = none)
    (named : trimmed row.fullName ≠ "") (clashes : taken db row = true) :
    Raises Outage db (resolveStudent uuids (importInput row)) 2
      (.http (conflictError "A different student already uses this email")) := by
  rw [resolveStudent_number uuids row numbered]
  refine proceeds_bind _ _ 1 1 (fun read after => read = none ∧ db = after) _
    (finishes_query _ ⟨absent, rfl⟩) ?_
  rintro _ _ ⟨rfl, rfl⟩
  dsimp only
  rw [if_neg named]
  exact raises_bind _ _ _ _ (createNewStudent_raises uuids db row _ _ clashes)

theorem resolveStudent_creates (numbered : trim row.studentNumber ≠ "")
    (absent : findStudentByNumber db (trim row.studentNumber) = none)
    (named : trimmed row.fullName ≠ "") (free : taken db row = false) :
    Finishes Outage db (resolveStudent uuids (importInput row)) 2
      fun resolved _ => resolved.2 = true := by
  rw [resolveStudent_number uuids row numbered]
  refine proceeds_bind _ _ 1 1 (fun read after => read = none ∧ db = after) _
    (finishes_query _ ⟨absent, rfl⟩) ?_
  rintro _ _ ⟨rfl, rfl⟩
  dsimp only
  rw [if_neg named]
  exact proceeds_bind _ _ 1 0 _ _ (createNewStudent_finishes uuids db row _ _ absent free)
    fun _ _ _ => finishes_pure _ rfl

/-- The domain error of a row is what its transaction raises. -/
theorem resolveAndLinkStudent_proceeds (course : (findCourse db courseId).isSome) :
    Proceeds Outage db (resolveAndLinkStudent uuids now courseId (importInput row))
      (statements db courseId row) (EndsWith (domainError db row)) := by
  unfold statements domainError
  split
  · next numberless =>
      apply raises_bind
      rw [resolveStudent_numberless uuids row numberless]
      exact raises_throw _
  · next numbered =>
      cases found : findStudentByNumber db (trim row.studentNumber) with
      | some student =>
          have stored : student ∈ db.students := List.mem_of_find?_eq_some found
          dsimp only
          rw [show (if (findEnrollment db courseId student.id).isSome then 2 else 4) =
            1 + if (findEnrollment db courseId student.id).isSome then 1 else 3 by split <;> rfl]
          refine proceeds_bind _ _ _ _ _ _ (resolveStudent_finds uuids db row student numbered found) ?_
          rintro _ _ ⟨rfl, rfl⟩
          exact linkStudent_proceeds uuids now courseId db student false stored course
      | none =>
          dsimp only
          split
          · next nameless =>
              exact raises_bind _ _ _ _ (resolveStudent_unnamed uuids db row numbered found nameless)
          · next named =>
              split
              · next clashes =>
                  exact raises_bind _ _ _ _
                    (resolveStudent_taken uuids db row numbered found named clashes)
              · next free =>
                  refine proceeds_bind _ _ 2 3 _ _ (finishes_and _ _ _
                    (resolveStudent_creates uuids db row numbered found named (by simpa using free))
                    (resolveStudent_spec uuids (importInput row) db)) ?_
                  rintro ⟨student, created⟩ after ⟨rfl, resolved⟩
                  have unlinked : findEnrollment after courseId student.id = none := by
                    rw [resolved.frame, findEnrollment, List.find?_eq_none]
                    intro enrollment member
                    simp [resolved.unlinked rfl enrollment member]
                  have links := linkStudent_proceeds uuids now courseId after student true
                    resolved.stored (by rw [resolved.frame]; exact course)
                  rwa [unlinked] at links

end Rows

/-- The transaction of a row meets no database failure: no statement it gets to
fails, and its commit, if it gets there, is done and answered. -/
def Unhindered (courseId : Uuid) (attempt : Attempt K) : Prop :=
  (∀ chance ∈ attempt.fate.chances.take (statements attempt.db courseId attempt.row),
      chance.fault = none) ∧
    (domainError attempt.db attempt.row = none → attempt.fate.ending = .commits)

/-- A row that fails, fails with its domain error. -/
def Deserved (uuids : UuidSource) (courseId : Uuid) (attempt : Attempt K) : Prop :=
  ∀ failure, attempt.outcome uuids courseId = .error failure →
    ∃ error, failure = .http error ∧ domainError attempt.db attempt.row = some error

theorem deserved_iff (uuids : UuidSource) (courseId : Uuid) (attempt : Attempt K)
    (course : (findCourse attempt.db courseId).isSome)
    (only : Only Outage attempt.fate.chances) :
    Deserved uuids courseId attempt ↔ Unhindered courseId attempt := by
  have proceeds := resolveAndLinkStudent_proceeds uuids attempt.now courseId attempt.db attempt.row
    course
  rw [Unhindered, ← firstFault_eq_none, Deserved, Attempt.outcome]
  cases met : firstFault (statements attempt.db courseId attempt.row) attempt.fate.chances with
  | some fault =>
      -- An outage is no domain error.
      have outage := firstFault_may Outage _ _ only fault met
      rw [transaction_faulty _ _ _ attempt.fate.ending only _ fault proceeds met]
      constructor
      · intro deserved
        obtain ⟨error, rfl, _⟩ := deserved fault rfl
        exact outage.elim
      · rintro ⟨unmet, _⟩
        cases unmet
  | none =>
      cases raised : domainError attempt.db attempt.row with
      | some error =>
          rw [raised] at proceeds
          rw [transaction_raised _ _ _ attempt.fate.ending only (.http error) proceeds met]
          refine ⟨fun _ => ⟨rfl, nofun⟩, fun _ failure failed => ⟨error, ?_, rfl⟩⟩
          exact (Except.error.inj failed).symm
      | none =>
          rw [raised] at proceeds
          have answered := transaction_finished _ _ _ attempt.fate.ending only _ proceeds met
          constructor
          · intro deserved
            refine ⟨rfl, fun _ => answered.mp ?_⟩
            cases outcome : (transaction (resolveAndLinkStudent uuids attempt.now courseId
                (importInput attempt.row)) attempt.fate.chances attempt.fate.ending attempt.db).1 with
            | ok result => exact ⟨result, rfl⟩
            | error failure =>
                obtain ⟨_, _, same⟩ := deserved failure outcome
                cases same
          · rintro ⟨_, commits⟩ failure failed
            obtain ⟨result, ended⟩ := answered.mpr (commits rfl)
            rw [ended] at failed
            cases failed

/-- Every error of the report stands for a row whose import raised a domain error
in the state it ran in. -/
def Blames (uuids : UuidSource) (payload : Payload) (attempts : List (Attempt K))
    (report : List ImportRowResult) : Prop :=
  ∀ (position : Nat) (entry : ImportRowResult), report[position]? = some entry →
    entry.status = .error → ∃ (attempt : Attempt K) (error : HttpError),
      attempts[position]? = some attempt ∧
      payload.rows[position]? = some attempt.row ∧
      attempt.outcome uuids payload.courseId = .error (.http error) ∧
      domainError attempt.db attempt.row = some error ∧ entry.message = some error.message

theorem blames_iff (uuids : UuidSource) (payload : Payload) (attempts : List (Attempt K))
    (rows : attempts.map (·.row) = payload.rows) :
    Blames uuids payload attempts (entries uuids payload.courseId attempts) ↔
      ∀ attempt ∈ attempts, Deserved uuids payload.courseId attempt := by
  constructor
  · intro blames attempt member failure failed
    obtain ⟨position, found⟩ := List.mem_iff_getElem?.mp member
    have entry : (entries uuids payload.courseId attempts)[position]? =
        some (rowResult position attempt.row (.error failure)) := by
      rw [entries, List.getElem?_mapIdx, found, Option.map_some, failed]
    obtain ⟨other, error, same, _, raised, domain_, _⟩ := blames position _ entry rfl
    obtain rfl := Option.some.inj (found.symm.trans same)
    exact ⟨error, Except.error.inj (failed.symm.trans raised), domain_⟩
  · intro deserved position entry listed status
    rw [entries, List.getElem?_mapIdx] at listed
    obtain ⟨attempt, found, rfl⟩ := Option.map_eq_some_iff.mp listed
    cases outcome : attempt.outcome uuids payload.courseId with
    | ok result =>
        rw [outcome] at status
        simp only [rowResult, rowStatus] at status
        split at status
        · cases status
        · split at status <;> cases status
    | error failure =>
        obtain ⟨error, rfl, raised⟩ := deserved attempt (List.mem_of_getElem? found) failure outcome
        exact ⟨attempt, error, found, by rw [← rows, List.getElem?_map, found]; rfl, outcome,
          raised, rfl⟩

section Courses

variable (uuids : UuidSource)

theorem update_courses (id : Uuid) (data : JobData) (fate : Fate) (store : Store K)
    (continues : ImportJob → Handler) (fails : Failure → Handler) :
    (update id data fate store continues fails).1.db.courses = store.db.courses := by
  simp only [update]
  cases committed : commits (updateImportJob id data) fate.chances fate.ending store.db with
  | false => rw [transaction_aborted _ _ _ _ committed]
  | true =>
      obtain ⟨job, frame, _⟩ := transaction_committed _ _ _ _ _
        (updateImportJob_spec id data store.db) committed
      rw [frame]

theorem handle_courses (handler : Handler) (fate : Fate) (store : Store K) :
    (handle uuids handler fate store).1.db.courses = store.db.courses := by
  cases handler with
  | reading payload =>
      simp only [handle]
      split
      · rfl
      · split
        · rfl
        · split <;> rfl
  | resetting => exact update_courses _ _ fate store _ _
  | importing work =>
      cases waits : work.remaining with
      | nil =>
          obtain ⟨payload, done, remaining, counts, report⟩ := work
          obtain rfl : remaining = [] := waits
          rfl
      | cons row rest =>
          rw [handle_importing uuids work row rest fate store waits]
          rcases importRow_cases uuids store.clock work row rest fate store.db with
            ⟨_, same⟩ | ⟨student, _, grown⟩
          · rw [same]
          · exact grown.courses
  | persisting => exact update_courses _ _ fate store _ _
  | announcing work =>
      exact congrArg (·.courses) (broadcast_cases (progressEvent work) fate store _ _).1
  | completing => exact update_courses _ _ fate store _ _
  | announcingCompleted work =>
      exact congrArg (·.courses) (broadcast_cases (completedEvent work) fate store _ _).1
  | acking =>
      simp only [handle]
      split <;> rfl
  | failing => exact update_courses _ _ fate store _ _
  | announcingFailed payload processedRows =>
      exact congrArg (·.courses)
        (broadcast_cases (failedEvent payload processedRows) fate store _ _).1
  | _ => rfl

theorem step_courses (system : State K) (event : Event Input Change) :
    ((machine uuids).step system event).store.db.courses = system.store.db.courses := by
  cases event with
  | env change =>
      cases change with
      | tick milliseconds => rfl
      | request courseId actorId rows fate =>
          rcases request_cases uuids system.store courseId actorId rows fate with
            same | ⟨job, created⟩
          · exact congrArg (·.db.courses) same
          · obtain ⟨middle, message, frame, _, announced⟩ := created.announced
            change (ambient uuids (.request courseId actorId rows fate) system.store).db.courses = _
            rw [announced.frame, frame]
  | act index input =>
      change (exec uuids input system.store (system.procs index)).1.db.courses = _
      unfold exec
      split
      · split <;> rfl
      · rfl
      · rfl
      · exact handle_courses uuids _ _ _
      · rfl

theorem run_courses (system : State K) (events : List (Event Input Change)) :
    ((machine uuids).run system events).store.db.courses = system.store.db.courses :=
  run_invariant (machine uuids) (fun reached => reached.store.db.courses = system.store.db.courses)
    (fun reached event same => (step_courses uuids reached event).trans same) system events rfl

end Courses

/-- Only transient failures of the database come in between. -/
def Passing : Event Input Change → Prop
  | .act _ (.proceed fate) => Only Outage fate.chances
  | _ => True

theorem attempted_some (index : Nat) (system : State K) (event : Event Input Change)
    (attempt : Attempt K) (tried : attempted index system event = some attempt) :
    event = .act index (.proceed attempt.fate) ∧ attempt.db = system.store.db := by
  cases event with
  | env change => cases tried
  | act acting input =>
      simp only [attempted] at tried
      split at tried
      · next same =>
          unfold attemptOf at tried
          split at tried
          · split at tried
            · obtain rfl := Option.some.inj tried
              exact ⟨by rw [same], rfl⟩
            · cases tried
          · cases tried
      · cases tried

/-- The report of a completed import blames only rows that deserve it, exactly if
no row's transaction met a database failure. -/
theorem completed_import_blames_iff (uuids : UuidSource) (system : State K) (index : Nat)
    (payload : Payload) (begins : system.procs index = .resetting payload)
    (uncompleted : ∀ job, findImportJob system.store.db payload.jobId = some job →
      job.status ≠ .COMPLETED)
    (course : (findCourse system.store.db payload.courseId).isSome)
    (events : List (Event Input Change)) (passing : ∀ event ∈ events, Passing event)
    (apart : (machine uuids).Along (Apart index payload.jobId) system events) (job : ImportJob)
    (found : findImportJob ((machine uuids).run system events).store.db payload.jobId = some job)
    (completed : job.status = .COMPLETED) :
    ∃ report, job.report = some (.rows report) ∧
      (Blames uuids payload ((machine uuids).observed (attempted index) system events) report ↔
        ∀ attempt ∈ (machine uuids).observed (attempted index) system events,
          Unhindered payload.courseId attempt) := by
  have traced := run_traced uuids payload system index begins uncompleted events apart
  rcases tracked_settles uuids payload _ _ _ _ traced.tracked with open_ | ⟨counts, report, reported⟩
  · exact absurd completed (open_ job found)
  · refine ⟨report, reported.stored job found completed, ?_⟩
    rw [reported.entries, blames_iff uuids payload _ reported.rows]
    refine forall₂_congr fun attempt tried => ?_
    obtain ⟨before, event, rest, same, seen⟩ := mem_observed (machine uuids) _ system events attempt tried
    obtain ⟨rfl, sameDb⟩ := attempted_some index _ event attempt seen
    apply deserved_iff uuids payload.courseId attempt
    · rw [sameDb, findCourse, run_courses]
      exact course
    · exact passing (.act index (.proceed attempt.fate)) (by rw [same]; simp)

theorem completed_import_blames_iff_mixed :
    ∃ report, mixedJob.report = some (.rows report) ∧
      (Blames UuidSource.counting mixed ((machine UuidSource.counting).observed (attempted 0)
          mixedTaken (advance 0 6)) report ↔
        ∀ attempt ∈ (machine UuidSource.counting).observed (attempted 0) mixedTaken (advance 0 6),
          Unhindered 2 attempt) :=
  completed_import_blames_iff UuidSource.counting mixedTaken 0 mixed rfl (by decide) (by decide)
    (advance 0 6)
    (fun event member => by
      rw [List.eq_of_mem_replicate member]
      exact fun _ none_ => absurd none_ List.not_mem_nil)
    ⟨absurd rfl, absurd rfl, absurd rfl, absurd rfl, absurd rfl, absurd rfl, trivial⟩ mixedJob
    (by decide) rfl

/-- The connection is gone while the only row is imported, and back for the rest. -/
def hindered : List (Event Input Change) :=
  [.act 0 (.proceed {}), .act 0 (.proceed outage)] ++ advance 0 3

def rosterTaken : State ℤ :=
  (machine UuidSource.counting).run (begin freshTerm.db 0) (requestRoster ++ advance 0 1)

/-- A student who could have been created stands in the report as an error. -/
theorem outage_blamed :
    findImportJob ((machine UuidSource.counting).run rosterTaken hindered).store.db 1 =
        some ⟨1, 2, some 7, .COMPLETED, 1, 1,
          some (.rows [⟨1, "s1", .error, some "Connection is closed."⟩])⟩ ∧
      ¬ Blames UuidSource.counting ⟨1, 2, [⟨"s1", some "Ada", none⟩]⟩
          ((machine UuidSource.counting).observed (attempted 0) rosterTaken hindered)
          [⟨1, "s1", .error, some "Connection is closed."⟩] := by
  refine ⟨by decide, fun blames => ?_⟩
  obtain ⟨attempt, error, found, _, _, raised, _⟩ := blames 0 _ rfl rfl
  have recoverable : (((machine UuidSource.counting).observed (attempted 0) rosterTaken
      hindered)[0]?.bind fun attempt => domainError attempt.db attempt.row) = none := by decide
  rw [found, Option.bind_some, raised] at recoverable
  cases recoverable

end FaceVec.Import

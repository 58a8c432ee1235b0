import FaceVec.Courses.Enrollment
import FaceVec.Interleaving

/-!
`resolveAndLinkStudent` as any number of transactions that run statement by
statement over one database, READ COMMITTED: a statement sees the committed
rows and its own ones. The tables hold the rows of open transactions, too, as
the unique indexes do; `opened` says whose they are. An insert that collides
with a row it sees is refused, one that collides with the row of another open
transaction waits for its end.
-/

namespace FaceVec.Courses

open Interleaving

variable {K : Type}

inductive Opened where
  | student (id : Uuid)
  | enrollment (id : Uuid)
  | message (id : Uuid)
  deriving DecidableEq, Repr

structure Store (K : Type) where
  db : Database K
  opened : List (Nat × Opened)

inductive Phase where
  | ready
  | creating
  | linking (student : Student) (created : Bool)
  | inserting (student : Student) (created : Bool)
  | recording (student : Student) (created : Bool) (enrollment : CourseEnrollment)
  | committing (result : ResolveResult)
  | done (result : ResolveResult)
  | failed (failure : Failure)

structure Call where
  index : Nat
  input : ResolveInput
  phase : Phase

section Isolation

variable (index : Nat) (store : Store K)

def hidden (row : Opened) : Bool := store.opened.any fun entry => entry.1 != index && entry.2 == row

def mine (row : Opened) : Bool := store.opened.any fun entry => entry.1 == index && entry.2 == row

def Store.without (gone : Opened → Bool) : Database K :=
  { store.db with
    students := store.db.students.delete fun row => gone (.student row.id)
    courseEnrollments := store.db.courseEnrollments.delete fun row => gone (.enrollment row.id)
    outboxMessages := store.db.outboxMessages.delete fun row => gone (.message row.id) }

def visible : Database K := store.without (hidden index store)

def closed : List (Nat × Opened) := store.opened.filter fun entry => entry.1 != index

def commit : Store K := { store with opened := closed index store }

def rollback : Store K := ⟨store.without (mine index store), closed index store⟩

end Isolation

inductive Outcome (K α : Type) where
  | fails (failure : Failure)
  | waits
  | writes (row : α) (db : Database K)

/-- A statement that inserts: against what it sees, then against all rows. -/
def attempt {α : Type} (body : Statement K α) (draw index : Nat) (store : Store K) : Outcome K α :=
  match body (visible index store, [⟨none, draw⟩]) with
  | .error failure => .fails failure
  | .ok _ =>
      match body (store.db, [⟨none, draw⟩]) with
      | .error _ => .waits
      | .ok (row, db, _) => .writes row db

section Exec

variable (uuids : UuidSource) (now : Instant) (courseId : Uuid)

/-- The next statement of a call; `draw` is its random value. -/
def proceed (draw : Nat) (store : Store K) (index : Nat) (input : ResolveInput) :
    Phase → Store K × Phase
  | .ready =>
      match input.studentId with
      | some id =>
          match findStudent (visible index store) id with
          | none => (rollback index store, .failed (.http (notFoundError "Student not found")))
          | some student => (store, .linking student false)
      | none =>
          let studentNumber := trimmed input.studentNumber
          if studentNumber = "" then
            (rollback index store, .failed (.http (badRequestError "studentNumber is required")))
          else
            match findStudentByNumber (visible index store) studentNumber with
            | some student => (store, .linking student false)
            | none =>
                if trimmed input.fullName = "" then
                  (rollback index store, .failed (.http
                    (badRequestError "fullName is required to create a new student")))
                else (store, .creating)
  | .creating =>
      match attempt (createNewStudent uuids (trimmed input.studentNumber) (trimmed input.fullName)
          (trimmedOrNull input.email)) draw index store with
      | .fails failure => (rollback index store, .failed failure)
      | .waits => (store, .creating)
      | .writes student db =>
          (⟨db, store.opened ++ [(index, .student student.id)]⟩, .linking student true)
  | .linking student created =>
      match findEnrollment (visible index store) courseId student.id with
      | some enrollment => (store, .committing ⟨enrollment, created, true⟩)
      | none => (store, .inserting student created)
  | .inserting student created =>
      match attempt (createEnrollment uuids courseId student.id) draw index store with
      | .fails failure => (rollback index store, .failed failure)
      | .waits => (store, .inserting student created)
      | .writes enrollment db =>
          (⟨db, store.opened ++ [(index, .enrollment enrollment.id)]⟩,
            .recording student created enrollment)
  | .recording student created enrollment =>
      match attempt (recordEvent uuids now "Course" courseId EventType.CourseStudentEnrolled
          (.courseStudentEnrolled enrollment.id courseId student.id)) draw index store with
      | .fails failure => (rollback index store, .failed failure)
      | .waits => (store, .recording student created enrollment)
      | .writes message db =>
          (⟨db, store.opened ++ [(index, .message message.id)]⟩,
            .committing ⟨enrollment, created, false⟩)
  | .committing result => (commit index store, .done result)
  | phase => (store, phase)

/-- The transactions of one course; nothing else writes. -/
def calls : Machine (Store K) Call Nat Empty where
  exec draw store call :=
    let next := proceed uuids now courseId draw store call.index call.input call.phase
    (next.1, { call with phase := next.2 })
  ambient change := change.elim

end Exec

abbrev State (K : Type) := System (Store K) Call

/-- Committed rows only, and the calls with their inputs. -/
def opening (db : Database K) (inputs : Nat → ResolveInput) : State K :=
  ⟨⟨db, []⟩, fun index => ⟨index, inputs index, .ready⟩⟩

section Isolation

variable (index : Nat) (store : Store K)

theorem hidden_eq_false (row : Opened) : hidden index store row = false ↔
    ∀ owner, (owner, row) ∈ store.opened → owner = index := by
  simp only [hidden, List.any_eq_false, Bool.and_eq_true, bne_iff_ne, beq_iff_eq, not_and', Prod.forall]
  constructor
  · intro clear owner member
    exact not_not.mp (clear owner row member rfl)
  · rintro clear owner _ member rfl
    exact not_not.mpr (clear owner member)

theorem mem_visible_students (student : Student) : student ∈ (visible index store).students ↔
    student ∈ store.db.students ∧ hidden index store (.student student.id) = false :=
  Table.mem_delete _ _ _

theorem mem_visible_enrollments (enrollment : CourseEnrollment) :
    enrollment ∈ (visible index store).courseEnrollments ↔
      enrollment ∈ store.db.courseEnrollments ∧
        hidden index store (.enrollment enrollment.id) = false :=
  Table.mem_delete _ _ _

theorem mem_closed (entry : Nat × Opened) :
    entry ∈ closed index store ↔ entry ∈ store.opened ∧ entry.1 ≠ index := by
  simp [closed]

theorem delete_none {Row : Type} {clash : Row → Row → Bool} (table : Table clash)
    (gone : Row → Bool) (kept : ∀ row, gone row = false) : table.delete gone = table := by
  cases table
  simp [Table.delete, kept]

theorem rollback_idle (idle : ∀ row, (index, row) ∉ store.opened) :
    rollback index store = store := by
  have unowned : ∀ row, mine index store row = false := by
    intro row
    simp only [mine, List.any_eq_false, Bool.and_eq_true, beq_iff_eq, not_and, Prod.forall]
    rintro owner other member rfl rfl
    exact idle other member
  have kept : closed index store = store.opened := by
    rw [closed, List.filter_eq_self]
    rintro ⟨owner, row⟩ member
    refine bne_iff_ne.mpr ?_
    rintro rfl
    exact idle row member
  simp only [rollback, Store.without, unowned, kept, delete_none _ _ fun _ => rfl]

end Isolation

section Attempts

variable {α : Type} (body : Statement K α) (draw index : Nat) (store : Store K)

theorem calm_draw : Calm [(⟨none, draw⟩ : Chance Failure)] := by
  simp [Calm]

/-- A statement is refused for what its transaction sees. -/
theorem attempt_fails (why : Prop) (failure : Failure)
    (fails : FailsOnly (· = visible index store) body why)
    (failed : attempt body draw index store = .fails failure) :
    why ∧ body (visible index store, [⟨none, draw⟩]) = .error failure := by
  unfold attempt at failed
  split at failed
  · next error ran =>
      obtain rfl := Outcome.fails.inj failed
      exact ⟨failsOnly_error body fails _ _ _ (calm_draw draw) rfl ran, ran⟩
  · split at failed <;> cases failed

theorem attempt_writes (post : α → Database K → Prop) (row : α) (db : Database K)
    (holds : Triple (· = store.db) body post)
    (written : attempt body draw index store = .writes row db) : post row db := by
  unfold attempt at written
  split at written
  · cases written
  · split at written
    · cases written
    · next result after rest ran =>
        obtain ⟨rfl, rfl⟩ := Outcome.writes.inj written
        exact holds store.db _ rfl _ _ _ ran

/-- A statement waits for a row that its transaction does not see. -/
theorem attempt_waits (why : Prop) (post : α → Database K → Prop)
    (fails : FailsOnly (· = store.db) body why) (holds : Triple (· = visible index store) body post)
    (waits : attempt body draw index store = .waits) :
    why ∧ ∃ row db, post row db := by
  unfold attempt at waits
  split at waits
  · cases waits
  · next seen ran =>
      split at waits
      · next error refused =>
          exact ⟨failsOnly_error body fails _ _ _ (calm_draw draw) rfl refused, _, _,
            holds _ _ rfl _ _ _ ran⟩
      · cases waits

end Attempts

end FaceVec.Courses

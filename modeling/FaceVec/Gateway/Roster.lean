import FaceVec.Api.Courses
import FaceVec.Gateway.Recordings

/-!
Attendance and the course roster. A manual mark takes the student's id as the
client sends it, and a recognition joins the roster when it searches; nothing
looks at the enrollment again when the record is written.
-/

namespace FaceVec.Gateway

open Interleaving Attendance Courses

variable {K : Type}

/-- A call of the gateway, or one of `unenrollStudent`. -/
inductive Party (K : Type) where
  | gateway (call : Call K)
  | removing (courseId studentId : Uuid)
  | removed (result : Except Failure Unit)

inductive Action (K : Type) where
  | gateway (input : Input K)
  | unenrollStudent (courseId studentId : Uuid) (actor : AuthContext)
  | delete (fate : Fate)
  | fail (failure : Failure)

def Party.call : Party K → Call K
  | gateway call => call
  | _ => .idle

section Exec

variable [Ring K] [LinearOrder K]
variable (uuids : UuidSource) (vision : Vision K) (threshold : K)

def unenrolling (action : Action K) (store : Store K) (party : Party K) : Store K × Party K :=
  match party, action with
  | .gateway call, .gateway input =>
      let next := exec uuids vision threshold input store call
      (next.1, .gateway next.2)
  | .gateway .idle, .unenrollStudent courseId studentId actor =>
      match getCourseForActor store.db courseId actor with
      | .error failure => (store, .removed (.error failure))
      | .ok _ => (store, .removing courseId studentId)
  | .removing courseId studentId, .delete fate =>
      let run := transaction (Api.deleteEnrollmentRow courseId studentId) fate.chances fate.ending
        store.db
      ({ store with db := run.2 }, .removed (run.1.mapError Api.unenrollFailure))
  | .removing _ _, .fail failure => (store, .removed (.error failure))
  | party, _ => (store, party)

/-- The gateway's machine together with unenrolments. -/
def rosterMachine : Machine (Store K) (Party K) (Action K) Change where
  exec := unenrolling uuids vision threshold
  ambient := ambient

end Exec

abbrev Campus (K : Type) := System (Store K) (Party K)

def campus (db : Database K) (clock : Instant) : Campus K :=
  ⟨⟨db, clock, [], [], []⟩, fun _ => .gateway .idle⟩

def Enrolled (db : Database K) (courseId studentId : Uuid) : Prop :=
  ∃ row ∈ db.courseEnrollments, row.courseId = courseId ∧ row.studentId = studentId

/-- The student is enrolled in the course of the session. -/
def OnRoster (db : Database K) (sessionId studentId : Uuid) : Prop :=
  ∃ session ∈ db.attendanceSessions, session.id = sessionId ∧ Enrolled db session.courseId studentId

/-- The call will record the student in a session of the course. -/
def Pends (party : Party K) (courseId studentId : Uuid) : Prop :=
  ∃ session data, toRecord party.call = some (session, studentId, data) ∧ session.courseId = courseId

/-- Marks start for enrolled students, and nobody is unenrolled while a call is
about to record them. -/
def Orderly (system : Campus K) : Event (Action K) Change → Prop
  | .act index (.gateway (.markAttendance sessionId input actor)) =>
      match system.procs index with
      | .gateway .idle => ∀ session, openSessionForActor system.store.db sessionId actor
          "Cannot record attendance for a closed session" = .ok session →
            Enrolled system.store.db session.courseId input.studentId
      | _ => True
  | .act index (.delete fate) =>
      match system.procs index with
      | .removing courseId studentId =>
          commits (Api.deleteEnrollmentRow courseId studentId) fate.chances fate.ending
              system.store.db = true →
            ∀ other, ¬ Pends (system.procs other) courseId studentId
      | _ => True
  | _ => True

/-- What the step writes is about enrolled students: the transactions that
commit, and the records that are new or changed. -/
structure Refers (before after : Store K) : Prop where
  marks : ∀ pair ∈ after.marks.drop before.marks.length, OnRoster after.db pair.1 pair.2
  records : ∀ record ∈ after.db.attendanceRecords, record ∉ before.db.attendanceRecords →
    OnRoster after.db record.sessionId record.studentId

/-- A call in flight holds a stored session, and records an enrolled student. -/
structure Vouched (db : Database K) (call : Call K) : Prop where
  stored : ∀ session, held call = some session →
    ∃ row ∈ db.attendanceSessions, row.id = session.id ∧ row.courseId = session.courseId
  enrolled : ∀ session studentId data, toRecord call = some (session, studentId, data) →
    Enrolled db session.courseId studentId

section Facts

variable (db after : Database K) (courseId studentId : Uuid)

theorem enrolled_of_find (found : (findEnrollment db courseId studentId).isSome) :
    Enrolled db courseId studentId := by
  obtain ⟨row, found⟩ := Option.isSome_iff_exists.mp found
  have matched := List.find?_some found
  simp only [Bool.and_eq_true, beq_iff_eq] at matched
  exact ⟨row, List.mem_of_find?_eq_some found, matched⟩

theorem enrolled_still (still : Still db after) (enrolled : Enrolled db courseId studentId) :
    Enrolled after courseId studentId := by
  obtain ⟨row, stored, same⟩ := enrolled
  exact ⟨row, still.enrollments row stored, same⟩

theorem search_enrolled [Ring K] [LinearOrder K] (vision : Vision K) (embedding : List K)
    (chosen : Option Uuid) (best : NearestMatch K)
    (answered : searchNearestInCourse vision db courseId embedding chosen = some (some best)) :
    Enrolled db courseId best.studentId := by
  unfold searchNearestInCourse at answered
  cases chosen with
  | none =>
      simp only at answered
      split at answered <;> cases answered
  | some id =>
      simp only at answered
      split at answered
      · cases answered
      · next face student found =>
          split at answered
          · cases answered
            have member := List.mem_of_find?_eq_some found
            obtain ⟨row, _, joined⟩ := List.mem_filterMap.mp member
            split at joined
            · cases joined
            · split at joined
              · next enrolled =>
                  cases joined
                  exact enrolled_of_find db courseId _ enrolled
              · cases joined
          · cases answered

theorem deleteEnrollmentRow_enrolled :
    Triple (· = db) (Api.deleteEnrollmentRow courseId studentId) fun _ after =>
      after = { db with courseEnrollments := after.courseEnrollments } ∧
        ∀ otherCourse otherStudent, Enrolled db otherCourse otherStudent →
          Enrolled after otherCourse otherStudent ∨
            (otherCourse = courseId ∧ otherStudent = studentId) := by
  apply triple_statement
  rintro draw _ result after rfl ran
  split at ran
  · cases ran
  · next enrollment found =>
      cases ran
      refine ⟨rfl, ?_⟩
      rintro _ _ ⟨row, stored, rfl, rfl⟩
      by_cases same : row.id = enrollment.id
      · right
        have one : row = enrollment := Table.eq_of_clash _ row enrollment stored
          (List.mem_of_find?_eq_some found) (by simp [CourseEnrollment.clash, same])
          (by simp [CourseEnrollment.clash, same])
        have matched := List.find?_some found
        simpa [one] using matched
      · exact Or.inl ⟨row, (Table.mem_delete _ _ _).mpr ⟨stored, by simpa using same⟩, rfl, rfl⟩

end Facts

section Steps

variable [Ring K] [LinearOrder K]
variable (uuids : UuidSource) (vision : Vision K) (threshold : K)

/-- What one step does on the campus. -/
inductive Turn (store : Store K) (party : Party K) (action : Action K) : Store K → Party K → Prop where
  | gateway (call : Call K) (input : Input K) : party = .gateway call → action = .gateway input →
      Turn store party action (exec uuids vision threshold input store call).1
        (.gateway (exec uuids vision threshold input store call).2)
  | unenrolled (courseId studentId : Uuid) (fate : Fate) (after : Database K)
      (result : Except Failure Unit) : party = .removing courseId studentId →
      action = .delete fate →
      commits (Api.deleteEnrollmentRow courseId studentId) fate.chances fate.ending store.db = true →
      after = { store.db with courseEnrollments := after.courseEnrollments } →
      (∀ otherCourse otherStudent, Enrolled store.db otherCourse otherStudent →
        Enrolled after otherCourse otherStudent ∨
          (otherCourse = courseId ∧ otherStudent = studentId)) →
      Turn store party action { store with db := after } (.removed result)
  | quiet (next : Party K) : next.call = party.call ∨ next.call = .idle →
      Turn store party action store next

theorem unenrolling_turn (store : Store K) (party : Party K) (action : Action K) :
    Turn uuids vision threshold store party action
      (unenrolling uuids vision threshold action store party).1
      (unenrolling uuids vision threshold action store party).2 := by
  unfold unenrolling
  split
  · exact .gateway _ _ rfl rfl
  · split <;> exact .quiet _ (Or.inr rfl)
  · next courseId studentId fate =>
      cases committed : commits (Api.deleteEnrollmentRow courseId studentId) fate.chances fate.ending
          store.db with
      | true =>
          obtain ⟨result, frame, others⟩ := transaction_committed _ _ _ _ _
            (deleteEnrollmentRow_enrolled store.db courseId studentId) committed
          exact .unenrolled courseId studentId fate _ _ rfl rfl committed frame others
      | false =>
          dsimp only
          rw [transaction_aborted _ _ _ _ committed]
          exact .quiet _ (Or.inr rfl)
  · exact .quiet _ (Or.inr rfl)
  · exact .quiet _ (Or.inl rfl)

omit [Ring K] [LinearOrder K] in
/-- A record is written about the student and the session that its call was held for. -/
theorem recording_refers (store after : Store K) (call next : Call K) (input : Input K)
    (recording : Recording uuids store call input after next)
    (vouched : Vouched store.db call) : Refers store after := by
  cases recording with
  | nothing after next still marks =>
      refine ⟨fun pair fresh => ?_, fun record member fresh => ?_⟩
      · rw [marks, List.drop_length] at fresh
        cases fresh
      · rw [still.records] at member
        exact absurd member fresh
  | wrote session studentId data record db next fate pending _ _ _ written =>
      have refers : OnRoster db session.id studentId := by
        obtain ⟨row, member, ofId, ofCourse⟩ :=
          vouched.stored session (toRecord_held call session studentId data pending)
        have inCourse := vouched.enrolled session studentId data pending
        have frame := written_frame _ _ _ _ _ _ written
        refine ⟨row, by rw [frame]; exact member, ofId, ?_⟩
        rw [ofCourse, Enrolled, frame]
        exact inCourse
      refine ⟨fun pair fresh => ?_, fun row member fresh => ?_⟩
      · simp only [Store.settle, List.drop_left, List.mem_singleton] at fresh
        rw [fresh]
        exact refers
      · rcases (written_rows _ _ _ _ _ _ written row).mp member with rfl | ⟨old, _⟩
        · obtain ⟨middle, message, upserted, _⟩ := written.upserted
          rw [upserted.ofSession, upserted.ofStudent]
          exact refers
        · exact absurd old fresh

/-- No enrollment goes, and sessions stay in their courses. -/
structure Keeps (db after : Database K) : Prop where
  enrolled : ∀ courseId studentId, Enrolled db courseId studentId → Enrolled after courseId studentId
  sessions : ∀ session ∈ db.attendanceSessions, ∃ later ∈ after.attendanceSessions,
    later.id = session.id ∧ later.courseId = session.courseId

omit [Ring K] [LinearOrder K] in
theorem recording_keeps (store after : Store K) (call next : Call K) (input : Input K)
    (recording : Recording uuids store call input after next) : Keeps store.db after.db := by
  cases recording with
  | nothing after next still =>
      exact ⟨fun courseId studentId => enrolled_still store.db after.db courseId studentId still,
        still.sessions⟩
  | wrote session studentId data record db next fate _ _ _ _ written =>
      have frame := written_frame _ _ _ _ _ _ written
      refine ⟨fun courseId student enrolled => ?_, fun session stored => ?_⟩
      · simp only [Store.settle]
        rw [Enrolled, frame]
        exact enrolled
      · simp only [Store.settle]
        rw [frame]
        exact ⟨session, stored, rfl, rfl⟩

omit [Ring K] [LinearOrder K] in
theorem vouched_keeps (db after : Database K) (call : Call K) (keeps : Keeps db after)
    (vouched : Vouched db call) : Vouched after call := by
  constructor
  · intro session holds
    obtain ⟨row, stored, ofId, ofCourse⟩ := vouched.stored session holds
    obtain ⟨later, still, sameId, sameCourse⟩ := keeps.sessions row stored
    exact ⟨later, still, sameId.trans ofId, sameCourse.trans ofCourse⟩
  · exact fun session studentId data pending =>
      keeps.enrolled _ _ (vouched.enrolled session studentId data pending)

omit [Ring K] [LinearOrder K] in
theorem vouched_idle (db : Database K) : Vouched db .idle :=
  ⟨fun _ holds => (by cases holds), fun _ _ _ pending => (by cases pending)⟩

/-- A call stays vouched for, if it begins with an enrolled student. -/
theorem exec_vouched (store : Store K) (call : Call K) (input : Input K)
    (vouched : Vouched store.db call)
    (begins : ∀ sessionId request actor session, call = .idle →
      input = .markAttendance sessionId request actor →
      openSessionForActor store.db sessionId actor
        "Cannot record attendance for a closed session" = .ok session →
      Enrolled store.db session.courseId request.studentId) :
    Vouched store.db (exec uuids vision threshold input store call).2 := by
  constructor
  · intro session holds
    rcases exec_held uuids store vision threshold input call session holds with old | read
    · exact vouched.stored session old
    · exact ⟨session, read, rfl, rfl⟩
  · intro session studentId data pending
    cases exec_origin uuids store vision threshold input call session studentId data pending with
    | kept old => exact vouched.enrolled session studentId data old
    | marked sessionId request actor idle asked passed ofStudent =>
        rw [ofStudent]
        exact begins sessionId request actor session idle asked passed
    | recognised embedding chosen best answered _ ofStudent =>
        rw [ofStudent]
        exact search_enrolled store.db session.courseId vision embedding chosen best answered

omit [Ring K] [LinearOrder K] in
/-- Unenrolling a student leaves the calls vouched for that will not record them. -/
theorem unenrolled_vouched (before after : Database K) (party : Party K)
    (courseId studentId : Uuid) (frame : after.attendanceSessions = before.attendanceSessions)
    (others : ∀ otherCourse otherStudent, Enrolled before otherCourse otherStudent →
      Enrolled after otherCourse otherStudent ∨
        (otherCourse = courseId ∧ otherStudent = studentId))
    (elsewhere : ¬ Pends party courseId studentId) (vouched : Vouched before party.call) :
    Vouched after party.call := by
  constructor
  · intro session holds
    rw [frame]
    exact vouched.stored session holds
  · intro session student data pending
    have enrolled := vouched.enrolled session student data pending
    rcases others session.courseId student enrolled with kept | ⟨ofCourse, rfl⟩
    · exact kept
    · exact absurd ⟨session, data, pending, ofCourse⟩ elsewhere

def AllVouched (system : Campus K) : Prop :=
  ∀ index, Vouched system.store.db (system.procs index).call

variable (system : Campus K) (index : Nat) (action : Action K)

omit [Ring K] [LinearOrder K] in
/-- Where one party moves on, the others have to stay vouched for. -/
theorem allVouched_update (store : Store K) (next : Party K)
    (own : Vouched store.db next.call)
    (others : ∀ other, Vouched store.db (system.procs other).call) :
    AllVouched ⟨store, Function.update system.procs index next⟩ :=
  (Function.forall_update_iff system.procs fun _ party => Vouched store.db party.call).mpr
    ⟨own, fun other _ => others other⟩

theorem act_vouched (vouched : AllVouched system) (orderly : Orderly system (.act index action)) :
    AllVouched ((rosterMachine uuids vision threshold).step system (.act index action)) := by
  have turn := unenrolling_turn uuids vision threshold system.store (system.procs index) action
  simp only [Machine.step, rosterMachine]
  generalize (unenrolling uuids vision threshold action system.store (system.procs index)).1 = after at *
  generalize (unenrolling uuids vision threshold action system.store (system.procs index)).2 = next at *
  have own := vouched index
  cases turn with
  | gateway call input acting asked =>
      subst asked
      rw [acting] at own
      have keeps := recording_keeps uuids _ _ _ _ _
        (exec_recording uuids system.store vision threshold input call)
      apply allVouched_update
      · apply vouched_keeps system.store.db _ _ keeps
        apply exec_vouched uuids vision threshold system.store call input own
        rintro sessionId request actor session rfl rfl passed
        simp only [Orderly, acting] at orderly
        exact orderly session passed
      · exact fun other => vouched_keeps system.store.db _ _ keeps (vouched other)
  | unenrolled courseId studentId fate db result acting asked committed frame others =>
      subst asked
      simp only [Orderly, acting] at orderly
      apply allVouched_update
      · exact vouched_idle _
      · exact fun other => unenrolled_vouched _ _ _ courseId studentId (frame ▸ rfl) others
          (orderly committed other) (vouched other)
  | quiet next calls =>
      apply allVouched_update
      · rcases calls with kept | idle
        · rw [kept]
          exact own
        · rw [idle]
          exact vouched_idle _
      · exact vouched

theorem step_vouched (event : Event (Action K) Change) (vouched : AllVouched system)
    (orderly : Orderly system event) :
    AllVouched ((rosterMachine uuids vision threshold).step system event) := by
  cases event with
  | act index action => exact act_vouched uuids vision threshold system index action vouched orderly
  | env change => cases change with | tick => exact vouched

omit [Ring K] [LinearOrder K] in
theorem refers_same (before after : Store K) (marks : after.marks = before.marks)
    (records : after.db.attendanceRecords = before.db.attendanceRecords) : Refers before after := by
  refine ⟨fun pair fresh => ?_, fun record member fresh => ?_⟩
  · rw [marks, List.drop_length] at fresh
    cases fresh
  · rw [records] at member
    exact absurd member fresh

theorem step_refers (event : Event (Action K) Change) (vouched : AllVouched system) :
    Refers system.store ((rosterMachine uuids vision threshold).step system event).store := by
  cases event with
  | env change => cases change with | tick => exact refers_same _ _ rfl rfl
  | act index action =>
      have turn := unenrolling_turn uuids vision threshold system.store (system.procs index) action
      rw [step_store]
      simp only [rosterMachine]
      generalize (unenrolling uuids vision threshold action system.store (system.procs index)).1 = after at *
      generalize (unenrolling uuids vision threshold action system.store (system.procs index)).2 = next at *
      cases turn with
      | gateway call input acting asked =>
          have before := vouched index
          rw [acting] at before
          exact recording_refers uuids _ _ _ _ _
            (exec_recording uuids system.store vision threshold input call) before
      | unenrolled courseId studentId fate db result acting asked committed frame others =>
          exact refers_same _ _ rfl (by rw [frame])
      | quiet => exact refers_same _ _ rfl rfl

end Steps

/-- In every run in which marks start for enrolled students and nobody is
unenrolled while a call is about to record them, whatever is written is about
students who are enrolled when it commits. -/
theorem attendance_on_roster [Ring K] [LinearOrder K] (uuids : UuidSource) (vision : Vision K)
    (threshold : K) (db : Database K) (clock : Instant) (events : List (Event (Action K) Change))
    (orderly : (rosterMachine uuids vision threshold).Along Orderly (campus db clock) events) :
    (rosterMachine uuids vision threshold).Along (fun system event =>
      Refers system.store ((rosterMachine uuids vision threshold).step system event).store)
      (campus db clock) events :=
  along_of_invariant (rosterMachine uuids vision threshold) Orderly AllVouched
    (fun system event vouched orderly =>
      step_vouched uuids vision threshold system event vouched orderly)
    _ (fun system event vouched _ => step_refers uuids vision threshold system event vouched)
    (campus db clock) events (fun _ => vouched_idle db) orderly

def markStudent : List (Event (Action ℤ) Change) :=
  [.act 0 (.gateway (.markAttendance 3 ⟨1, .PRESENT⟩ teacher)), .act 0 (.gateway (.transact {}))]

def recogniseStudent : List (Event (Action ℤ) Change) :=
  [.act 1 (.gateway (.identifyAndRecord 3 teacher)), .act 1 (.gateway (.extract (.ok (some [1])))),
    .act 1 (.gateway (.search (some 8)))]

def unenrolStudent : List (Event (Action ℤ) Change) :=
  [.act 2 (.unenrollStudent 2 1 teacher), .act 2 (.delete {})]

def commitFace : List (Event (Action ℤ) Change) := [.act 1 (.gateway (.transact {}))]

theorem attendance_on_roster_lectureHall :
    (rosterMachine UuidSource.counting sameFace 0).Along (fun system event =>
      Refers system.store ((rosterMachine UuidSource.counting sameFace 0).step system event).store)
      (campus lectureHall 0) (markStudent ++ recogniseStudent ++ commitFace ++ unenrolStudent) := by
  apply attendance_on_roster UuidSource.counting sameFace 0 lectureHall 0
  refine ⟨fun session passed => ?_, trivial, trivial, trivial, trivial, trivial, trivial,
    fun _ other => ?_, trivial⟩
  · cases passed
    exact ⟨⟨9, 2, 1⟩, List.mem_singleton.mpr rfl, rfl, rfl⟩
  · rintro ⟨session, data, pending, _⟩
    match other with
    | 0 => cases pending
    | 1 => cases pending
    | 2 => cases pending
    | _ + 3 => cases pending

/-- A student who is not enrolled is marked, and a recognised one is unenrolled
between the search and the write. -/
theorem attendance_off_roster :
    ¬ (rosterMachine UuidSource.counting sameFace 0).Along (fun system event =>
        Refers system.store ((rosterMachine UuidSource.counting sameFace 0).step system event).store)
        (campus classroom 0) markStudent ∧
      ¬ (rosterMachine UuidSource.counting sameFace 0).Along (fun system event =>
        Refers system.store ((rosterMachine UuidSource.counting sameFace 0).step system event).store)
        (campus lectureHall 0) (recogniseStudent ++ unenrolStudent ++ commitFace) := by
  constructor
  · rintro ⟨_, refers, _⟩
    obtain ⟨session, _, _, row, enrolled, _⟩ := refers.marks (3, 1) (List.mem_singleton.mpr rfl)
    cases enrolled
  · rintro ⟨_, _, _, _, _, refers, _⟩
    obtain ⟨session, _, _, row, enrolled, _⟩ := refers.marks (3, 1) (List.mem_singleton.mpr rfl)
    cases enrolled

end FaceVec.Gateway

import FaceVec.Gateway.Recordings

/-!
Method and similarity of the stored records. A manual mark overwrites the
method and leaves the similarity that a recognition has stored; a recognition
whose similarity is NaN is below no threshold, and is stored without one.
-/

namespace FaceVec.Gateway

open Interleaving Attendance Courses

variable {K : Type}

/-- The similarity in the last event about the record; an absent one counts as null. -/
def lastSimilarity (events : List (Uuid × Option (Option (Number K)))) (recordId : Uuid) :
    Option (Option (Number K)) :=
  (events.filter fun event => event.1 == recordId).getLast?.map fun event => event.2.getD none

/-- Method and similarity of every record fit, and its last event says the same. -/
structure Consistent [LE K] (threshold : K) (db : Database K) : Prop where
  manual : ∀ record ∈ db.attendanceRecords, record.method = .MANUAL → record.similarity = none
  face : ∀ record ∈ db.attendanceRecords, record.method = .FACE →
    ∃ value, record.similarity = some (.real value) ∧ threshold ≤ value
  announced : ∀ record ∈ db.attendanceRecords,
    lastSimilarity (similarityEvents db) record.id = some record.similarity

/-- A mark that commits finds no similarity stored for its pair, and a
recognition that commits has a similarity. -/
def Clean (uuids : UuidSource) (system : State K) : Event (Input K) Change → Prop
  | .act index (.transact fate) =>
      match system.procs index with
      | .marking session input =>
          commits (markAttendanceTx uuids system.store.clock session input) fate.chances fate.ending
              system.store.db = true →
            (findRecord system.store.db session.id input.studentId).bind (·.similarity) = none
      | .recording session best =>
          commits (identifyTx uuids system.store.clock session best) fate.chances fate.ending
              system.store.db = true →
            best.similarity ≠ .nan
      | _ => True
  | _ => True

/-- What a call is about to record is not below the threshold. -/
def Above [LE K] (threshold : K) (call : Call K) : Prop :=
  ∀ session studentId data, toRecord call = some (session, studentId, data) →
    ∀ value, data.similarity = some (some (.real value)) → threshold ≤ value

theorem lastSimilarity_append (events : List (Uuid × Option (Option (Number K)))) (recordId other : Uuid)
    (similarity : Option (Option (Number K))) :
    lastSimilarity (events ++ [(recordId, similarity)]) other =
      if recordId = other then some (similarity.getD none) else lastSimilarity events other := by
  unfold lastSimilarity
  by_cases same : recordId = other <;> simp [List.filter_append, same]

section Steps

variable [Ring K] [LinearOrder K]
variable (uuids : UuidSource) (vision : Vision K) (threshold : K)

/-- The columns of a recording fit what is stored for its pair. -/
def Fits (db : Database K) (session : AttendanceSession) (studentId : Uuid) (data : RecordData K) :
    Prop :=
  match data.method with
  | .MANUAL => data.similarity = none ∧
      (findRecord db session.id studentId).bind (·.similarity) = none
  | .FACE => ∃ value, data.similarity = some (some (.real value)) ∧ threshold ≤ value

omit [Ring K] in
/-- What the event of a fitting recording says is what is stored: where it says
nothing, nothing is. -/
theorem fits_announced (db : Database K) (session : AttendanceSession) (studentId : Uuid)
    (data : RecordData K) (fits : Fits threshold db session studentId data) :
    let stored := data.similarity.getD ((findRecord db session.id studentId).bind (·.similarity))
    (data.similarity.map fun _ => stored).getD none = stored := by
  unfold Fits at fits
  cases kind : data.method with
  | MANUAL =>
      rw [kind] at fits
      rw [fits.1]
      exact fits.2.symm
  | FACE =>
      rw [kind] at fits
      obtain ⟨value, named, _⟩ := fits
      rw [named]
      rfl

omit [Ring K] in
theorem written_consistent (db after : Database K) (session : AttendanceSession) (studentId : Uuid)
    (data : RecordData K) (record : AttendanceRecord K)
    (written : Written db after session studentId data record)
    (fits : Fits threshold db session studentId data) (consistent : Consistent threshold db) :
    Consistent threshold after := by
  have rows := written_rows _ _ _ _ _ _ written
  have stored : record ∈ after.attendanceRecords := (rows record).mpr (Or.inl rfl)
  have announced := fits_announced threshold db session studentId data fits
  obtain ⟨middle, message, upserted, _⟩ := written.upserted
  have similarity := written.similarity
  unfold Fits at fits
  constructor
  · intro row member manual
    rcases (rows row).mp member with rfl | ⟨old, _⟩
    · rw [← upserted.method, manual] at fits
      rw [similarity, fits.1]
      exact fits.2
    · exact consistent.manual row old manual
  · intro row member face
    rcases (rows row).mp member with rfl | ⟨old, _⟩
    · rw [← upserted.method, face] at fits
      obtain ⟨value, given, above⟩ := fits
      exact ⟨value, by rw [similarity, given]; rfl, above⟩
    · exact consistent.face row old face
  · intro row member
    rw [written_events _ _ _ _ _ _ written, lastSimilarity_append]
    rcases (rows row).mp member with rfl | ⟨old, other⟩
    · rw [if_pos rfl, similarity]
      exact congrArg some announced
    · have different : record.id ≠ row.id := by
        intro same
        have one := record_eq_of_id _ record row stored member same
        exact other ⟨by rw [← one, upserted.ofSession], by rw [← one, upserted.ofStudent]⟩
      rw [if_neg different]
      exact consistent.announced row old

omit [Ring K] in
/-- A recording that does not fit leaves an inconsistent record. -/
theorem consistent_fits (db after : Database K) (session : AttendanceSession) (studentId : Uuid)
    (data : RecordData K) (record : AttendanceRecord K)
    (written : Written db after session studentId data record)
    (columns : (data.method = .MANUAL ∧ data.similarity = none) ∨
      (data.method = .FACE ∧ ∃ column, data.similarity = some column))
    (consistent : Consistent threshold after) : Fits threshold db session studentId data := by
  have stored : record ∈ after.attendanceRecords :=
    (written_rows _ _ _ _ _ _ written record).mpr (Or.inl rfl)
  have method : record.method = data.method := by
    obtain ⟨middle, message, upserted, _⟩ := written.upserted
    exact upserted.method
  have similarity := written.similarity
  unfold Fits
  rcases columns with ⟨manual, absent⟩ | ⟨face, given, named⟩
  · rw [manual]
    have none_ := consistent.manual record stored (method.trans manual)
    rw [similarity, absent] at none_
    exact ⟨absent, none_⟩
  · rw [face]
    obtain ⟨value, real, above⟩ := consistent.face record stored (method.trans face)
    rw [similarity, named, Option.getD_some] at real
    exact ⟨value, by rw [named, real], above⟩

omit [Ring K] [LinearOrder K] in
theorem toRecord_columns (call : Call K) (session : AttendanceSession) (studentId : Uuid)
    (data : RecordData K) (pending : toRecord call = some (session, studentId, data)) :
    (data.method = .MANUAL ∧ data.similarity = none) ∨
      (data.method = .FACE ∧ ∃ column, data.similarity = some column) := by
  cases call with
  | marking _ input =>
      cases pending
      exact Or.inl ⟨rfl, rfl⟩
  | recording _ best =>
      cases pending
      exact Or.inr ⟨rfl, best.similarity.column, rfl⟩
  | _ => cases pending

omit [Ring K] in
/-- Where the call is above the threshold, a clean commit is one that fits. -/
theorem clean_fits (system : State K) (index : Nat) (fate : Fate)
    (above : Above threshold (system.procs index)) :
    Clean uuids system (.act index (.transact fate)) ↔
      ∀ session studentId data, toRecord (system.procs index) = some (session, studentId, data) →
        commits (recordAttendance uuids system.store.clock session studentId data) fate.chances
          fate.ending system.store.db = true →
        Fits threshold system.store.db session studentId data := by
  cases call : system.procs index with
  | marking session input =>
      simp only [Clean, call]
      constructor
      · rintro clean _ _ _ pending committed
        cases pending
        exact ⟨rfl, clean committed⟩
      · intro fits committed
        exact (fits session input.studentId _ rfl committed).2
  | recording session best =>
      simp only [Clean, call]
      constructor
      · rintro clean _ _ _ pending committed
        cases pending
        cases similarity : best.similarity with
        | nan => exact absurd similarity (clean committed)
        | real value =>
            refine ⟨value, rfl, above session best.studentId ⟨.PRESENT, .FACE, some best.similarity.column⟩
              (by rw [call]; rfl) value (by rw [similarity]; rfl)⟩
      · intro fits committed isNan
        obtain ⟨value, real, _⟩ := fits session best.studentId _ rfl committed
        rw [isNan] at real
        cases real
  | _ =>
      simp only [Clean, call, toRecord, reduceCtorEq, false_implies, implies_true]

theorem commit_written (system : State K) (index : Nat) (fate : Fate) (session : AttendanceSession)
    (studentId : Uuid) (data : RecordData K)
    (pending : toRecord (system.procs index) = some (session, studentId, data))
    (committed : commits (recordAttendance uuids system.store.clock session studentId data) fate.chances
      fate.ending system.store.db = true) :
    ∃ record, Written system.store.db
      ((machine uuids vision threshold).step system (.act index (.transact fate))).store.db session
      studentId data record := by
  have written := transaction_committed _ _ _ _ _
    (recordAttendance_written uuids system.store.clock session studentId data system.store.db) committed
  rw [step_store]
  simp only [machine]
  cases call : system.procs index with
  | marking _ input =>
      rw [call] at pending
      cases pending
      exact written
  | recording _ best =>
      rw [call] at pending
      cases pending
      exact written
  | _ =>
      rw [call] at pending
      cases pending

omit [Ring K] in
theorem still_consistent (db after : Database K) (still : Still db after)
    (consistent : Consistent threshold db) : Consistent threshold after := by
  constructor
  · rw [still.records]
    exact consistent.manual
  · rw [still.records]
    exact consistent.face
  · rw [still.records, still.events]
    exact consistent.announced

theorem step_above (system : State K) (event : Event (Input K) Change)
    (above : ∀ index, Above threshold (system.procs index)) (index : Nat) :
    Above threshold (((machine uuids vision threshold).step system event).procs index) := by
  cases event with
  | env change => exact above index
  | act acting input =>
      by_cases same : index = acting
      · subst same
        rw [step_self]
        intro session studentId data pending value given
        cases exec_origin uuids system.store vision threshold input (system.procs index) session
            studentId data pending with
        | kept old => exact above index session studentId data old value given
        | marked sessionId request actor idle asked passed ofStudent manual =>
            rcases toRecord_columns _ session studentId data pending with ⟨_, absent⟩ | ⟨face, _⟩
            · rw [absent] at given
              cases given
            · rw [manual] at face
              cases face
        | recognised embedding chosen best answered passes ofStudent columns =>
            subst columns
            obtain ⟨_, notBelow⟩ := Option.filter_eq_some_iff.mp passes
            have similarity := Number.column_real _ value (Option.some.inj given)
            simpa [similarity, Number.lt] using notBelow
      · rw [step_other _ _ _ _ _ same]
        exact above index

theorem step_consistent_iff (system : State K) (event : Event (Input K) Change)
    (above : ∀ index, Above threshold (system.procs index))
    (consistent : Consistent threshold system.store.db) :
    Consistent threshold ((machine uuids vision threshold).step system event).store.db ↔
      Clean uuids system event := by
  cases event with
  | env change =>
      cases change with
      | tick => exact ⟨fun _ => trivial, fun _ => consistent⟩
  | act index input =>
      constructor
      · intro after
        cases input with
        | transact fate =>
            rw [clean_fits uuids threshold system index fate (above index)]
            intro session studentId data pending committed
            obtain ⟨record, written⟩ := commit_written uuids vision threshold system index fate session
              studentId data pending committed
            exact consistent_fits threshold _ _ session studentId data record written
              (toRecord_columns _ session studentId data pending) after
        | _ => trivial
      · intro clean
        have recording := exec_recording uuids system.store vision threshold input (system.procs index)
        rw [step_store]
        simp only [machine]
        generalize (exec uuids vision threshold input system.store (system.procs index)).1 = after at *
        cases recording with
        | nothing after next still => exact still_consistent threshold _ _ still consistent
        | wrote session studentId data record db next fate pending asked committed _ written =>
            subst asked
            have fits := (clean_fits uuids threshold system index fate (above index)).mp clean session
              studentId data pending committed
            exact written_consistent threshold _ _ session studentId data record written fits consistent

/-- In every run of a gateway that has recorded nothing yet, method, similarity
and last event of all records fit after every step, exactly if every mark that
commits finds no similarity stored for its pair and every recognition that
commits has one. -/
theorem similarities_consistent_iff (db : Database K) (clock : Instant)
    (events : List (Event (Input K) Change)) :
    (machine uuids vision threshold).Along (fun system event =>
        Consistent threshold ((machine uuids vision threshold).step system event).store.db)
        (start db clock) events ↔
      (machine uuids vision threshold).Along (Clean uuids) (start db clock) events := by
  apply along_iff_of_invariant (machine uuids vision threshold) _ _ fun system =>
    (∀ index, Above threshold (system.procs index)) ∧ Consistent threshold system.store.db
  · rintro system event ⟨above, consistent⟩
    exact step_consistent_iff uuids vision threshold system event above consistent
  · rintro system event ⟨above, consistent⟩ clean
    exact ⟨step_above uuids vision threshold system event above,
      (step_consistent_iff uuids vision threshold system event above consistent).mpr clean⟩
  · refine ⟨fun index session studentId data pending => (by cases pending), ?_⟩
    constructor
    · exact fun record member => absurd member List.not_mem_nil
    · exact fun record member => absurd member List.not_mem_nil
    · exact fun record member => absurd member List.not_mem_nil

end Steps

/-- A face is recognised, and the student is then marked late by hand. -/
def correction : List (Event (Input ℤ) Change) :=
  [.act 0 (.identifyAndRecord 3 teacher), .act 0 (.extract (.ok (some [1]))),
    .act 0 (.search (some 8)), .act 0 (.transact {}), .act 1 (.markAttendance 3 ⟨1, .LATE⟩ teacher),
    .act 1 (.transact {})]

/-- The manual record keeps the similarity of the face, which its event lacks;
and a face without a similarity is recorded. -/
theorem similarity_left :
    (∃ record ∈ ((machine UuidSource.counting sameFace 0).run (start lectureHall 0)
        correction).store.db.attendanceRecords,
      record.method = .MANUAL ∧ record.similarity = some (.real 1)) ∧
    ∃ record ∈ ((machine UuidSource.counting noVision 0).run (start lectureHall 0)
        (correction.take 4)).store.db.attendanceRecords,
      record.method = .FACE ∧ record.similarity = none :=
  ⟨⟨_, List.Mem.head _, rfl, rfl⟩, _, List.Mem.head _, rfl, rfl⟩

end FaceVec.Gateway

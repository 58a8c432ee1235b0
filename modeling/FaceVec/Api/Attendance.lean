import FaceVec.Api.Courses

/-!
The attendance routes: `attendance.controller.ts` over `attendance.service.ts`,
each request from its session read to its answer.
-/

namespace FaceVec.Api

open Attendance Courses

variable {K : Type}

def sessionIds (db : Database K) : List Uuid :=
  db.attendanceSessions.rows.map (·.id) ++ db.attendanceRecords.rows.map (·.sessionId)

def createSessionRow (uuids : UuidSource) (users : Table User.clash) (courseId createdById : Uuid) :
    Statement K AttendanceSession :=
  statement fun draw db =>
    let id := uuids.generate draw (sessionIds db)
    if (findCourse db courseId).isNone || !hasUser users createdById then violation .P2003
    else
      create (·.attendanceSessions) (fun attendanceSessions db => { db with attendanceSessions })
        ⟨id, courseId, createdById, .OPEN, none⟩ db

theorem createSessionRow_spec (uuids : UuidSource) (users : Table User.clash)
    (courseId createdById : Uuid) (db : Database K) :
    Triple (· = db) (createSessionRow uuids users courseId createdById) fun session after =>
      session.courseId = courseId ∧ session.id ∉ sessionIds db ∧
        after = { db with attendanceSessions := after.attendanceSessions } ∧
        after.attendanceSessions.rows = db.attendanceSessions.rows ++ [session] := by
  apply triple_statement
  rintro draw _ session after rfl ran
  dsimp only at ran
  split at ran
  · cases ran
  · obtain ⟨rfl, rows, inserted, rfl⟩ := create_ok _ _ _ _ _ _ ran
    exact ⟨rfl, uuids.fresh draw _, rfl, Table.insert_eq_some _ _ _ inserted⟩

section Services

variable (uuids : UuidSource) (actor : AuthContext)

def openSession (courseId : Uuid) : Handler K := fun met platform =>
  provided (met.read (getCourseForActor platform.db courseId actor)) platform fun _ =>
    commit (createSessionRow uuids platform.users courseId actor.userId)
      (fun after session => .ok (201, .session (serializeSession after session))) met platform

def listSessions (courseId : Uuid) (query : Pagination) : Handler K := fun met platform =>
  provided (met.read (getCourseForActor platform.db courseId actor)) platform fun _ =>
    let selected := platform.db.attendanceSessions.rows.filter (·.courseId == courseId)
    let page := pageOf query (fun row => platform.stamps.attendanceSessions row.id) selected
    (.ok (200, .sessions (paginatedResponse page (serializeSession platform))), platform)

def getSession (id : Uuid) : Handler K := fun met platform =>
  provided (met.read (getSessionForActor platform.db id actor)) platform fun session =>
    (.ok (200, .session (serializeSession platform session)), platform)

def closeSession (id : Uuid) : Handler K := fun met platform =>
  provided (met.read (getSessionForActor platform.db id actor)) platform fun session =>
    if session.status = .CLOSED then
      (.error (.http (conflictError "Session is already closed")), platform)
    else
      commit (closeUpdate id met.now)
        (fun after closed => .ok (200, .session (serializeSession after closed))) met platform

def markAttendance (sessionId : Uuid) (input : MarkAttendanceInput) : Handler K :=
  fun met platform =>
    provided (met.read (openSessionForActor platform.db sessionId actor
        "Cannot record attendance for a closed session")) platform fun session =>
      transact (markAttendanceTx uuids met.now session input) markFailure (fun after => after)
        (fun after record => .ok (201, .record (serializeRecord after record))) met platform

def listRecords (sessionId : Uuid) (query : Pagination) : Handler K := fun met platform =>
  provided (met.read (getSessionForActor platform.db sessionId actor)) platform fun _ =>
    let selected := platform.db.attendanceRecords.rows.filter (·.sessionId == sessionId)
    let page := pageOf query (fun row => row.capturedAt) selected
    (.ok (200, .records (paginatedResponse page (serializeRecord platform))), platform)

variable [Ring K] [LinearOrder K] (vision : Vision K) (threshold : K)

/-- The first face that no other one of the roster sorts before. -/
def nearestFace (db : Database K) (courseId : Uuid) (embedding : List K) : Option Uuid :=
  let faces := rosterFaces db courseId
  let distance := fun face : FaceEmbedding K => vision.cosineDistance face.embedding embedding
  (faces.find? fun face => faces.all fun other =>
    sortsBefore (distance face.1) (distance other.1)).map (·.1.id)

/-- The search of `identifyAndRecord`, which may choose among equally near faces. -/
def searchBest (db : Database K) (courseId : Uuid) (embedding : List K) (chosen : Option Uuid) :
    Option (NearestMatch K) :=
  match searchNearestInCourse vision db courseId embedding chosen with
  | some best => best
  | none =>
      (searchNearestInCourse vision db courseId embedding
        (nearestFace vision db courseId embedding)).join

def identify (sessionId : Uuid) : Handler K := fun met platform =>
  provided (met.read (openSessionForActor platform.db sessionId actor
      "Cannot identify for a closed session")) platform fun session =>
    let extraction := met.extraction.map fun result => result.primary.map (·.embedding)
    provided (primaryEmbedding extraction) platform fun embedding =>
      let best := searchBest vision platform.db session.courseId embedding met.chosen
      match aboveThreshold threshold best with
      | none =>
          (.ok (200, .identified false (best.map (·.similarity)) threshold none none), platform)
      | some nearest =>
          commit (identifyTx uuids met.now session nearest)
            (fun after record =>
              .ok (201, .identified true (some nearest.similarity) threshold
                (some (nearest.studentId, nearest.fullName, nearest.studentNumber))
                (some (serializeRecord after record)))) met platform

end Services

end FaceVec.Api

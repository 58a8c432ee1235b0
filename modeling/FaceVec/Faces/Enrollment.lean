import FaceVec.Attendance.Recording
import FaceVec.Config
import FaceVec.Messaging

/-!
The pieces of face enrollment: `modules/faces/face.repository.ts`, the checks
of `enrollFace`, the task of `messaging/face-tasks.ts`, and the retry rule of
`messaging/face-task-consumer.ts`. Base64 and SHA-256 are a parameter.
-/

namespace FaceVec.Faces

open Attendance

variable {K : Type}

def EMBEDDING_DIMENSIONS : Nat := 512

structure UploadedImage where
  buffer : List UInt8
  mimetype : String
  originalname : String
  deriving DecidableEq, Repr

structure DetectedFace (K : Type) where
  embedding : List K
  det_score : K

structure EmbeddingResult (K : Type) where
  model : String
  faceCount : Nat
  primary : Option (DetectedFace K)

/-- The base64 coding of `Buffer` and the hex SHA-256 of `createHash`. -/
structure Codec where
  toBase64 : List UInt8 → String
  fromBase64 : String → List UInt8
  sha256 : List UInt8 → String

structure EnrollmentTask where
  jobId : Uuid
  studentId : Uuid
  image : String
  mimetype : String
  filename : String
  deriving DecidableEq, Repr

def enrollmentTask (codec : Codec) (jobId studentId : Uuid) (file : UploadedImage) :
    EnrollmentTask :=
  ⟨jobId, studentId, codec.toBase64 file.buffer, file.mimetype, file.originalname⟩

/-- `face.enrollment.requested`. -/
def ENROLLMENT_REQUESTED : List String := ["face", "enrollment", "requested"]

def existsByHash (db : Database K) (studentId : Uuid) (hash : String) : Bool :=
  db.faceEmbeddings.rows.any fun face =>
    face.studentId == studentId && face.sourceImageHash == some hash

/-- A raw query that fails is a `P2010`, whatever the constraint. -/
def insertEmbedding (uuids : UuidSource) (studentId : Uuid) (face : DetectedFace K)
    (model hash : String) : Statement K (FaceEmbedding K) :=
  statement fun draw db =>
    let id := uuids.generate draw (db.faceEmbeddings.rows.map (·.id))
    if (findStudent db studentId).isNone then violation (.other "P2010")
    else
      create (·.faceEmbeddings) (fun faceEmbeddings db => { db with faceEmbeddings })
        ⟨id, studentId, face.embedding, model, some face.det_score, some hash⟩ db

theorem insertEmbedding_inserts (uuids : UuidSource) (studentId : Uuid) (face : DetectedFace K)
    (model hash : String) (db : Database K) :
    Triple (· = db) (insertEmbedding uuids studentId face model hash) fun row after =>
      (∃ id, row = ⟨id, studentId, face.embedding, model, some face.det_score, some hash⟩) ∧
        after.faceEmbeddings.rows = db.faceEmbeddings.rows ++ [row] := by
  apply triple_statement
  rintro draw _ row after rfl ran
  dsimp only at ran
  split at ran
  · cases ran
  · obtain ⟨rfl, rows, inserted, rfl⟩ := create_ok _ _ _ _ _ _ ran
    exact ⟨⟨_, rfl⟩, Table.insert_eq_some _ _ _ inserted⟩

/-- The checks of `enrollFace` on what the AI service found. -/
def usableFace (result : EmbeddingResult K) : Except Failure (DetectedFace K) :=
  match result.primary with
  | none => .error (.http ⟨422, "no_face_detected", "No face detected in the image", none⟩)
  | some face =>
      if face.embedding.length ≠ EMBEDDING_DIMENSIONS then
        .error (.http ⟨422, "bad_embedding", "Expected a 512-d embedding, received " ++
          toString face.embedding.length, none⟩)
      else .ok face

def unqueued : Failure :=
  .http ⟨503, "ai_unavailable",
    "Face inference is unavailable and the request could not be queued", none⟩

def alreadyEnrolled : Failure :=
  .http (conflictError "This image has already been enrolled for this student")

structure Headers where
  xAttempts : Option Nat := none
  xError : Option String := none
  deriving DecidableEq, Repr

structure TaskMessage where
  task : EnrollmentTask
  headers : Headers
  deriving DecidableEq, Repr

def TaskMessage.attempts (message : TaskMessage) : Nat := message.headers.xAttempts.getD 0

/-- Where a failed task goes, and with which headers. -/
def retried (config : Config) (message : TaskMessage) (failure : Failure) : Queue × TaskMessage :=
  let next := message.attempts + 1
  if config.FACE_TASK_MAX_ATTEMPTS ≤ next then
    (.FACE_TASKS_DEAD, ⟨message.task, { xAttempts := some next, xError := some failure.text }⟩)
  else (.FACE_TASKS_RETRY, ⟨message.task, { xAttempts := some next }⟩)

/-- The message of a task is stored in the main queue alone. -/
theorem publish_enrollment (task : EnrollmentTask) (broker : Broker Queue TaskMessage) :
    publish ENROLLMENT_REQUESTED ⟨task, {}⟩ broker = broker.push .FACE_TASKS ⟨task, {}⟩ := by
  have routed : routes ENROLLMENT_REQUESTED = [.FACE_TASKS] := by decide
  rw [publish, routed]
  rfl

/-- What the attempts of a message say about the queue it is in. -/
def InQueue (config : Config) : Queue → TaskMessage → Prop
  | .FACE_TASKS, message | .FACE_TASKS_RETRY, message =>
      message.attempts < config.FACE_TASK_MAX_ATTEMPTS
  | .FACE_TASKS_DEAD, message => message.attempts = config.FACE_TASK_MAX_ATTEMPTS
  | _, _ => False

/-- A task that failed is counted once more, and stays in the bounds of its queue. -/
theorem retried_spec (config : Config) (message : TaskMessage) (failure : Failure)
    (below : message.attempts < config.FACE_TASK_MAX_ATTEMPTS) :
    (retried config message failure).2.task = message.task ∧
      (retried config message failure).2.attempts = message.attempts + 1 ∧
      InQueue config (retried config message failure).1 (retried config message failure).2 := by
  unfold retried
  dsimp only
  split
  · next exhausted =>
      refine ⟨rfl, rfl, ?_⟩
      simp only [InQueue, TaskMessage.attempts, Option.getD_some] at below exhausted ⊢
      omega
  · next left_ =>
      refine ⟨rfl, rfl, ?_⟩
      simp only [InQueue, TaskMessage.attempts, Option.getD_some] at below left_ ⊢
      omega

end FaceVec.Faces

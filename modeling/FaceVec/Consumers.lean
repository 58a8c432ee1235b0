import FaceVec.Faces.Enrollment
import FaceVec.Import.Consumer
import FaceVec.Json

/-!
The `handle` methods of `face-task-consumer.ts`, `bulk-import-consumer.ts` and
`notifications-consumer.ts` on a body that need not be what its type says. The
services they call are whatever they are, and may fail at every call; only
`handle` itself has the channel.
-/

namespace FaceVec.Consumers

open Import (CHUNK_SIZE Counts rowStatus)
open Courses Faces

variable {World K : Type}

/-- Calls of services, one after the other. -/
abbrev Calls (World : Type) := ExceptT Failure (StateM World)

/-- An entry of the report; `studentNumber` is what the row had there. -/
structure RowReport where
  row : Nat
  studentNumber : Option Json
  status : ImportRowStatus
  message : Option String

inductive Report where
  | rows (entries : List RowReport)
  | error (message : String)

structure JobData where
  status : Option ImportJobStatus := none
  processedRows : Option Json := none
  report : Option Report := none

structure Progress where
  type : String
  jobId : Option Json
  courseId : Option Json
  status : String
  totalRows : Option Json
  processedRows : Option Json
  counts : Counts
  report : Option (List RowReport) := none

structure Services (World K : Type) where
  /-- `Buffer.from(value, 'base64')`. -/
  bufferFrom : Option Json → Except Failure (List UInt8)
  sha256 : List UInt8 → String
  extractViaBreaker : List UInt8 → Option Json → Option Json → Calls World (EmbeddingResult K)
  existsByHash : Option Json → String → Calls World Bool
  insertEmbedding : Option Json → DetectedFace K → String → String → Calls World Unit
  findImportJob : Option Json → Calls World (Option ImportJobStatus)
  /-- The `processedRows` of the updated job. -/
  updateImportJob : Option Json → JobData → Calls World (Option Json)
  resolveAndLinkStudent : Option Json → Option Json → Option Json → Option Json →
    Calls World ResolveResult
  publishImportProgress : Progress → Calls World Unit
  /-- Nobody waits for it. -/
  publishAttendance : Json → World → World

structure Message where
  /-- What `JSON.parse` makes of the content; `none` where it throws. -/
  body : Option Json
  routingKey : String
  /-- The `x-attempts` header. -/
  attempts : Nat

structure Outgoing where
  body : Option Json
  headers : Headers

abbrev Frames := List (Command Queue Outgoing)

abbrev Handling (World : Type) := ExceptT Failure (StateM (World × Frames))

def call {α : Type} (calls : Calls World α) : Handling World α := fun state =>
  let done := calls state.1
  (done.1, (done.2, state.2))

def emit (frame : Command Queue Outgoing) : Handling World Unit := fun state =>
  (.ok (), (state.1, state.2 ++ [frame]))

def ack : Handling World Unit := emit .ack

def read {α : Type} (result : Except Failure α) : Handling World α := fun state => (result, state)

section Handlers

variable (config : Config) (services : Services World K)

def evaluate {α : Type} (result : Except Failure α) : Calls World α := fun world => (result, world)

/-- `FaceTaskConsumer.process`. -/
def processTask (task : Json) : Calls World Unit := do
  let image ← evaluate (Json.get task "image")
  let image ← evaluate (services.bufferFrom image)
  let filename ← evaluate (Json.get task "filename")
  let mimetype ← evaluate (Json.get task "mimetype")
  let result ← services.extractViaBreaker image filename mimetype
  match result.primary with
  | none => pure ()
  | some face =>
      if face.embedding.length ≠ EMBEDDING_DIMENSIONS then pure ()
      else
        let hash := services.sha256 image
        let studentId ← evaluate (Json.get task "studentId")
        if ← services.existsByHash studentId hash then pure ()
        else services.insertEmbedding studentId face result.model hash

def handleFaceTask (message : Message) : Handling World Unit :=
  match message.body with
  | none => ack
  | some task =>
      tryCatch (do
          call (processTask services task)
          ack)
        fun failure => do
          let next := message.attempts + 1
          -- The log line reads `task.jobId`, on both branches before anything is sent.
          let _ ← read (Json.get task "jobId")
          if config.FACE_TASK_MAX_ATTEMPTS ≤ next then
            emit (.sendToQueue .FACE_TASKS_DEAD
              ⟨message.body, { xAttempts := some next, xError := some failure.text }⟩)
          else
            emit (.sendToQueue .FACE_TASKS_RETRY ⟨message.body, { xAttempts := some next }⟩)
          ack

def importRow (courseId : Option Json) (i : Nat) (row : Json) : Calls World RowReport :=
  tryCatch (do
      let studentNumber ← evaluate (Json.get row "studentNumber")
      let fullName ← evaluate (Json.get row "fullName")
      let email ← evaluate (Json.get row "email")
      let result ← services.resolveAndLinkStudent courseId studentNumber fullName email
      pure ⟨i + 1, studentNumber, rowStatus result, none⟩)
    fun failure => do
      -- The report reads the row once more.
      let studentNumber ← evaluate (Json.get row "studentNumber")
      pure ⟨i + 1, studentNumber, .error, some failure.text⟩

def importRows (jobId courseId total : Option Json) (size : Nat) :
    List Json → Nat → Counts → List RowReport → Calls World (Counts × List RowReport)
  | [], _, counts, report => pure (counts, report)
  | row :: rest, i, counts, report => do
      let entry ← importRow services courseId i row
      let counts := counts.add entry.status
      let report := report ++ [entry]
      let processed := i + 1
      if processed % CHUNK_SIZE = 0 ∨ processed = size then
        let written := some (.number (toString processed))
        let _ ← services.updateImportJob jobId { processedRows := written }
        services.publishImportProgress
          ⟨"import.progress", jobId, courseId, "PROCESSING", total, written, counts, none⟩
      importRows jobId courseId total size rest processed counts report

/-- `rows.entries()`. -/
def entries : Option Json → Except Failure (List Json)
  | some (.array items) => .ok items
  | _ => .error (.other "rows.entries is not a function")

/-- `BulkImportConsumer.process`. -/
def processImport (jobId courseId rows : Option Json) : Calls World Unit := do
  let total ← evaluate (Json.get rows "length")
  let _ ← services.updateImportJob jobId
    { status := some .PROCESSING, processedRows := some (.number "0") }
  let items ← evaluate (entries rows)
  let (counts, report) ← importRows services jobId courseId total items.length items 0 {} []
  let _ ← services.updateImportJob jobId
    { status := some .COMPLETED, processedRows := total, report := some (.rows report) }
  services.publishImportProgress
    ⟨"import.completed", jobId, courseId, "COMPLETED", total, total, counts, some report⟩

def markFailed (jobId courseId total : Option Json) (failure : Failure) : Calls World Unit := do
  let processedRows ← services.updateImportJob jobId
    { status := some .FAILED, report := some (.error failure.text) }
  services.publishImportProgress
    ⟨"import.failed", jobId, courseId, "FAILED", total, processedRows, {}, none⟩

def handleBulkImport (message : Message) : Handling World Unit :=
  match message.body with
  | none => ack
  | some payload => do
      -- The destructuring stands outside the `try`.
      let jobId ← read (Json.get payload "jobId")
      let courseId ← read (Json.get payload "courseId")
      let rows ← read (Json.get payload "rows")
      tryCatch (do
          match ← call (services.findImportJob jobId) with
          | none => ack
          | some status =>
              if status = .COMPLETED ∨ status = .FAILED then ack
              else
                call (processImport services jobId courseId rows)
                ack)
        fun failure => do
          -- The arguments of `markFailed` are read before its errors are caught.
          let total ← read (Json.get rows "length")
          tryCatch (call (markFailed services jobId courseId total failure)) fun _ => pure ()
          ack

def handleNotification (message : Message) : Handling World Unit := do
  tryCatch (
      if message.routingKey = EventType.AttendanceRecorded then
        match message.body with
        | none => read (.error (.other "invalid JSON"))
        | some payload => fun state =>
            (.ok (), (services.publishAttendance payload state.1, state.2))
      else pure ())
    fun _ => pure ()
  -- The `finally`.
  ack

inductive Consumer where
  | faceTask | bulkImport | notifications
  deriving DecidableEq, Repr

def handle (message : Message) : Consumer → Handling World Unit
  | .faceTask => handleFaceTask config services message
  | .bulkImport => handleBulkImport services message
  | .notifications => handleNotification services message

end Handlers

end FaceVec.Consumers

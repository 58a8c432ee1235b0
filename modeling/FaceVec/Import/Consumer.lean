import FaceVec.Courses.Enrollment
import FaceVec.Interleaving

/-!
`messaging/bulk-import-consumer.ts` as a machine: any number of deliveries of
the requests in the outbox, each handled step by step over one database. A
step is one database call, one row transaction, one broadcast or one ack, and
each of them may fail; a handler may stop for good anywhere.
-/

namespace FaceVec.Import

open Interleaving Courses

variable {K : Type}

/-- Rows handled between each progress write and broadcast. -/
def CHUNK_SIZE : Nat := 25

structure Counts where
  created : Nat := 0
  enrolled : Nat := 0
  already : Nat := 0
  failed : Nat := 0
  deriving DecidableEq, Repr

def Counts.add (counts : Counts) : ImportRowStatus → Counts
  | .created => { counts with created := counts.created + 1 }
  | .enrolled => { counts with enrolled := counts.enrolled + 1 }
  | .already => { counts with already := counts.already + 1 }
  | .error => { counts with failed := counts.failed + 1 }

/-- The `ImportProgressEvent` of `ws/broadcaster.ts`. -/
structure ImportProgressEvent where
  type : String
  jobId : Uuid
  courseId : Uuid
  status : String
  totalRows : Nat
  processedRows : Nat
  counts : Counts
  report : Option (List ImportRowResult) := none
  deriving DecidableEq, Repr

structure Payload where
  jobId : Uuid
  courseId : Uuid
  rows : List BulkImportRow
  deriving DecidableEq, Repr

/-- A run of `process` in the middle: rows done so far, and rows to do. -/
structure Work where
  payload : Payload
  handled : List BulkImportRow
  remaining : List BulkImportRow
  counts : Counts
  report : List ImportRowResult

def Work.start (payload : Payload) : Work := ⟨payload, [], payload.rows, {}, []⟩

def Work.processed (work : Work) : Nat := work.handled.length

def Work.total (work : Work) : Nat := work.payload.rows.length

inductive Handler where
  | idle
  | reading (payload : Payload)
  | resetting (payload : Payload)
  | importing (work : Work)
  | persisting (work : Work)
  | announcing (work : Work)
  | completing (work : Work)
  | announcingCompleted (work : Work)
  | acking (payload : Payload)
  | failing (payload : Payload) (error : String)
  | announcingFailed (payload : Payload) (processedRows : Nat)
  | acked
  | stopped

inductive Input where
  | deliver (position : Nat)
  | proceed (fate : Fate)
  | crash

/-- Time passes, or the gateway stores a job and its request. -/
inductive Change where
  | tick (milliseconds : Nat)
  | request (courseId actorId : Uuid) (rows : List BulkImportRow) (fate : Fate)

structure Store (K : Type) where
  db : Database K
  clock : Instant
  frames : List ImportProgressEvent

/-- `status === 'COMPLETED' || status === 'FAILED'`. -/
def finished (job : ImportJob) : Bool := job.status == .COMPLETED || job.status == .FAILED

structure JobData where
  status : Option ImportJobStatus := none
  processedRows : Option Nat := none
  report : Option ImportReport := none

def JobData.write (data : JobData) (job : ImportJob) : ImportJob :=
  { job with
    status := data.status.getD job.status
    processedRows := data.processedRows.getD job.processedRows
    report := data.report.or job.report }

def writeJob (id : Uuid) (data : JobData) (job : ImportJob) : ImportJob :=
  if job.id = id then data.write job else job

theorem writeJob_id (id : Uuid) (data : JobData) (job : ImportJob) :
    (writeJob id data job).id = job.id := by
  unfold writeJob
  split <;> rfl

def updateImportJob (id : Uuid) (data : JobData) : Statement K ImportJob :=
  statement fun _ db =>
    match findImportJob db id with
    | none => .error (.prisma .P2025 none)
    | some job =>
        .ok (data.write job,
          { db with
            importJobs := db.importJobs.modify (writeJob id data) (by
              intro a b
              simp [ImportJob.clash, writeJob_id]) })

def rowStatus (result : ResolveResult) : ImportRowStatus :=
  if result.created then .created else if result.alreadyEnrolled then .already else .enrolled

/-- The report entry of row `processed` (counted from zero). -/
def rowResult (processed : Nat) (row : BulkImportRow) : Except Failure ResolveResult → ImportRowResult
  | .ok result => ⟨processed + 1, row.studentNumber, rowStatus result, none⟩
  | .error failure => ⟨processed + 1, row.studentNumber, .error, some failure.text⟩

/-- After the loop's condition: the next row, or the end. -/
def loop (work : Work) : Handler :=
  match work.remaining with
  | [] => .completing work
  | _ :: _ => .importing work

def boundary (work : Work) : Handler :=
  if work.processed % CHUNK_SIZE = 0 ∨ work.processed = work.total then .persisting work
  else loop work

def progressEvent (work : Work) : ImportProgressEvent :=
  ⟨"import.progress", work.payload.jobId, work.payload.courseId, "PROCESSING", work.total,
    work.processed, work.counts, none⟩

def completedEvent (work : Work) : ImportProgressEvent :=
  ⟨"import.completed", work.payload.jobId, work.payload.courseId, "COMPLETED", work.total,
    work.total, work.counts, some work.report⟩

def failedEvent (payload : Payload) (processedRows : Nat) : ImportProgressEvent :=
  ⟨"import.failed", payload.jobId, payload.courseId, "FAILED", payload.rows.length,
    processedRows, {}, none⟩

def resetData : JobData := { status := some .PROCESSING, processedRows := some 0 }

def chunkData (work : Work) : JobData := { processedRows := some work.processed }

def completedData (work : Work) : JobData :=
  { status := some .COMPLETED, processedRows := some work.total, report := some (.rows work.report) }

def failedData (error : String) : JobData :=
  { status := some .FAILED, report := some (.error error) }

section Exec

variable (uuids : UuidSource)

/-- Run one row in its own transaction and put it into the report. -/
def importRow (now : Instant) (work : Work) (row : BulkImportRow) (rest : List BulkImportRow)
    (fate : Fate) (db : Database K) : Work × Database K :=
  let run := transaction (resolveAndLinkStudent uuids now work.payload.courseId (importInput row))
    fate.chances fate.ending db
  let result := rowResult work.processed row run.1
  ({ work with
      handled := work.handled ++ [row]
      remaining := rest
      -- A row that fails is counted and reported; the loop goes on.
      counts := work.counts.add result.status
      report := work.report ++ [result] },
    run.2)

/-- One update of the job row, and where its outcome leads. -/
def update (id : Uuid) (data : JobData) (fate : Fate) (store : Store K)
    (continues : ImportJob → Handler) (fails : Failure → Handler) : Store K × Handler :=
  let run := transaction (updateImportJob id data) fate.chances fate.ending store.db
  ({ store with db := run.2 },
    match run.1 with
    | .ok job => continues job
    | .error failure => fails failure)

def broadcast (event : ImportProgressEvent) (fate : Fate) (store : Store K)
    (next : Handler) (fails : Failure → Handler) : Store K × Handler :=
  match faultOf fate.chances with
  | some failure => (store, fails failure)
  | none => ({ store with frames := store.frames ++ [event] }, next)

/-- `handle`'s reaction to an error that leaves `process`. -/
def fail (payload : Payload) (failure : Failure) : Handler := .failing payload failure.text

def handle (handler : Handler) (fate : Fate) (store : Store K) : Store K × Handler :=
  match handler with
  | .reading payload =>
      match faultOf fate.chances with
      | some failure => (store, fail payload failure)
      | none =>
          match findImportJob store.db payload.jobId with
          | none => (store, .acking payload)
          | some job =>
              -- Idempotent on redelivery: a finished job is not processed again.
              if finished job then (store, .acking payload) else (store, .resetting payload)
  | .resetting payload =>
      update payload.jobId resetData fate store (fun _ => loop (Work.start payload)) (fail payload)
  | .importing ⟨payload, handled, row :: rest, counts, report⟩ =>
      let next := importRow uuids store.clock ⟨payload, handled, row :: rest, counts, report⟩ row rest
        fate store.db
      ({ store with db := next.2 }, boundary next.1)
  | .persisting work =>
      update work.payload.jobId (chunkData work) fate store (fun _ => .announcing work)
        (fail work.payload)
  | .announcing work => broadcast (progressEvent work) fate store (loop work) (fail work.payload)
  | .completing work =>
      update work.payload.jobId (completedData work) fate store (fun _ => .announcingCompleted work)
        (fail work.payload)
  | .announcingCompleted work =>
      broadcast (completedEvent work) fate store (.acking work.payload) (fail work.payload)
  | .acking payload =>
      -- On a closed channel `ack` throws, and it stands inside the `try`.
      match faultOf fate.chances with
      | some failure => (store, fail payload failure)
      | none => (store, .acked)
  | .failing payload error =>
      -- Whatever `markFailed` throws is logged, and the message acknowledged.
      update payload.jobId (failedData error) fate store
        (fun job => .announcingFailed payload job.processedRows) fun _ => .acked
  | .announcingFailed payload processedRows =>
      broadcast (failedEvent payload processedRows) fate store .acked fun _ => .acked
  | handler => (store, handler)

def exec (input : Input) (store : Store K) (handler : Handler) : Store K × Handler :=
  match handler, input with
  | .idle, .deliver position =>
      -- Any request may come, again and on any replica.
      match (importEvents store.db)[position]? with
      | none => (store, .idle)
      | some request => (store, .reading ⟨request.1, request.2.1, request.2.2⟩)
  | .idle, _ => (store, .idle)
  | _, .crash => (store, .stopped)
  | handler, .proceed fate => handle uuids handler fate store
  | handler, .deliver _ => (store, handler)

def ambient (change : Change) (store : Store K) : Store K :=
  match change with
  | .tick milliseconds => { store with clock := store.clock + milliseconds }
  | .request courseId actorId rows fate =>
      let body := createBulkImportJobTx uuids store.clock courseId actorId rows
      { store with db := (transaction body fate.chances fate.ending store.db).2 }

def machine : Machine (Store K) Handler Input Change where
  exec := exec uuids
  ambient := ambient uuids

end Exec

abbrev State (K : Type) := System (Store K) Handler

/-- Any stored state, with no handler running. -/
def begin (db : Database K) (clock : Instant) : State K := ⟨⟨db, clock, []⟩, fun _ => .idle⟩

end FaceVec.Import

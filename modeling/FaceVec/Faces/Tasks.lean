import FaceVec.Faces.Enrollment
import FaceVec.Interleaving

/-!
Face enrollment as a machine: any number of `enrollFace` requests and of
deliveries to the face-task consumer, on any number of channels, over one
database and one broker. A consumer that crashes is one whose channel is lost
and whose workers take no further step; a worker that outlives its channel
goes on, and what it sends is lost.
-/

namespace FaceVec.Faces

open Interleaving Attendance

variable {K : Type}

inductive Outcome where
  | stored | alreadyStored | discarded
  deriving DecidableEq, Repr

structure Store (K : Type) where
  db : Database K
  broker : Broker Queue TaskMessage
  /-- The job ids drawn so far. -/
  jobIds : List Uuid
  /-- How the consumer ended its deliveries. -/
  outcomes : List (EnrollmentTask × Outcome)

inductive Worker (K : Type) where
  | idle
  | gettingStudent (studentId : Uuid) (file : UploadedImage)
  | deduplicating (studentId : Uuid) (file : UploadedImage)
  | extracting (studentId : Uuid) (file : UploadedImage)
  | storing (studentId : Uuid) (file : UploadedImage) (face : DetectedFace K) (model : String)
      (faceCount : Nat)
  | publishing (task : EnrollmentTask)
  | confirming (task : EnrollmentTask)
  | enrolled (embedding : FaceEmbedding K) (faceCount : Nat)
  /-- Answered 202, with the job id of the task. -/
  | queued (task : EnrollmentTask)
  | failed (failure : Failure)
  | inferring (tag : Nat) (message : TaskMessage)
  | comparing (tag : Nat) (message : TaskMessage) (face : DetectedFace K) (model : String)
  | inserting (tag : Nat) (message : TaskMessage) (face : DetectedFace K) (model : String)
  | done

inductive Input (K : Type) where
  | enrollFace (studentId : Uuid) (file : UploadedImage)
  | deliver (position channel : Nat)
  | call (fate : Fate)
  | extract (extraction : Except Failure (EmbeddingResult K)) (draw : Nat)
  | brokerStores
  | brokerConfirms
  | confirmFails

/-- The broker handles a frame, a message expires, a channel is lost; and
anybody else writes the database. -/
inductive Change (K : Type) where
  | frame (tag : Nat)
  | expire (position : Nat)
  | lose (channel : Nat)
  | write (db : Database K)

section Exec

variable (config : Config) (uuids : UuidSource) (codec : Codec)

def read {α : Type} (fate : Fate) (value : α) : Except Failure α :=
  match faultOf fate.chances with
  | some failure => .error failure
  | none => .ok value

/-- `process` returned: acknowledge. -/
def finish (tag : Nat) (message : TaskMessage) (outcome : Outcome) (store : Store K) :
    Store K × Worker K :=
  ({ store with
      -- On a closed channel `ack` throws, and so does the `sendToQueue` of the catch.
      broker := store.broker.send tag [.ack]
      outcomes := store.outcomes ++ [(message.task, outcome)] }, .done)

/-- `process` threw: publish the task again, then acknowledge. -/
def sendBack (tag : Nat) (message : TaskMessage) (failure : Failure) (store : Store K) :
    Store K × Worker K :=
  let next := retried config message failure
  -- In this order: a crash between the two leaves two copies, never none.
  ({ store with broker := store.broker.send tag [.sendToQueue next.1 next.2, .ack] }, .done)

/-- `FaceTaskConsumer.process` and the reactions of `handle`. -/
def process (tag : Nat) (message : TaskMessage) (input : Input K) (store : Store K)
    (worker : Worker K) : Store K × Worker K :=
  let studentId := message.task.studentId
  let hash := codec.sha256 (codec.fromBase64 message.task.image)
  match worker, input with
  | .inferring _ _, .extract (.error failure) _ => sendBack config tag message failure store
  | .inferring _ _, .extract (.ok result) _ =>
      match result.primary with
      | none => finish tag message .discarded store
      | some face =>
          -- No usable face is terminal: the task is not tried again.
          if face.embedding.length ≠ EMBEDDING_DIMENSIONS then finish tag message .discarded store
          else (store, .comparing tag message face result.model)
  | .comparing _ _ face model, .call fate =>
      match read fate (existsByHash store.db studentId hash) with
      | .error failure => sendBack config tag message failure store
      | .ok true => finish tag message .alreadyStored store
      | .ok false => (store, .inserting tag message face model)
  | .inserting _ _ face model, .call fate =>
      let run := transaction (insertEmbedding uuids studentId face model hash) fate.chances
        fate.ending store.db
      match run.1 with
      | .error failure => sendBack config tag message failure { store with db := run.2 }
      | .ok _ => finish tag message .stored { store with db := run.2 }
  | worker, _ => (store, worker)

/-- `enrollFace`, up to its answer. -/
def request (input : Input K) (store : Store K) (worker : Worker K) : Store K × Worker K :=
  match worker, input with
  | .idle, .enrollFace studentId file => (store, .gettingStudent studentId file)
  | .gettingStudent studentId file, .call fate =>
      match read fate (findStudent store.db studentId) with
      | .error failure => (store, .failed failure)
      | .ok none => (store, .failed (.http (notFoundError "Student not found")))
      | .ok (some _) => (store, .deduplicating studentId file)
  | .deduplicating studentId file, .call fate =>
      match read fate (existsByHash store.db studentId (codec.sha256 file.buffer)) with
      | .error failure => (store, .failed failure)
      | .ok true => (store, .failed alreadyEnrolled)
      | .ok false => (store, .extracting studentId file)
  | .extracting studentId file, .extract (.error failure) draw =>
      -- The AI service is down: queue the image for the consumer.
      if isAiFailure failure then
        let jobId := uuids.generate draw store.jobIds
        ({ store with jobIds := store.jobIds ++ [jobId] },
          .publishing (enrollmentTask codec jobId studentId file))
      else (store, .failed failure)
  | .extracting studentId file, .extract (.ok result) _ =>
      match usableFace result with
      | .error failure => (store, .failed failure)
      | .ok face => (store, .storing studentId file face result.model result.faceCount)
  | .storing studentId file face model faceCount, .call fate =>
      let run := transaction
        (insertEmbedding uuids studentId face model (codec.sha256 file.buffer)) fate.chances
        fate.ending store.db
      match run.1 with
      | .error failure => ({ store with db := run.2 }, .failed failure)
      | .ok embedding => ({ store with db := run.2 }, .enrolled embedding faceCount)
  | .publishing task, .brokerStores =>
      ({ store with broker := publish ENROLLMENT_REQUESTED ⟨task, {}⟩ store.broker },
        .confirming task)
  | .confirming task, .brokerConfirms => (store, .queued task)
  -- Not confirmed, so not accepted, though the broker may have stored it.
  | .publishing _, .confirmFails | .confirming _, .confirmFails => (store, .failed unqueued)
  | worker, _ => (store, worker)

/-- A channel holds at most `FACE_TASK_PREFETCH` deliveries. -/
def hasCapacity (channel : Nat) (broker : Broker Queue TaskMessage) : Bool :=
  decide ((broker.unacked.countP fun delivery => decide (delivery.channel = channel)) <
    config.FACE_TASK_PREFETCH)

def exec (input : Input K) (store : Store K) (worker : Worker K) : Store K × Worker K :=
  match worker, input with
  | .idle, .deliver position channel =>
      if hasCapacity config channel store.broker then
        match store.broker.deliver .FACE_TASKS position channel with
        | none => (store, .idle)
        | some (delivery, broker) =>
            ({ store with broker }, .inferring delivery.tag delivery.message)
      else (store, .idle)
  | .inferring tag message, input => process config uuids codec tag message input store worker
  | .comparing tag message _ _, input => process config uuids codec tag message input store worker
  | .inserting tag message _ _, input => process config uuids codec tag message input store worker
  | worker, input => request uuids codec input store worker

def ambient (change : Change K) (store : Store K) : Store K :=
  match change with
  | .frame tag => { store with broker := store.broker.handleFrame tag }
  | .expire position => { store with broker := expireRetry position store.broker }
  | .lose channel => { store with broker := store.broker.lose channel }
  | .write db => { store with db }

def machine : Machine (Store K) (Worker K) (Input K) (Change K) where
  exec := exec config uuids codec
  ambient := ambient

end Exec

abbrev State (K : Type) := System (Store K) (Worker K)

def begin (db : Database K) : State K := ⟨⟨db, .empty, [], []⟩, fun _ => .idle⟩

/-- The delivery a worker of the consumer is busy with. -/
def working : Worker K → Option (Nat × TaskMessage)
  | .inferring tag message | .comparing tag message _ _ | .inserting tag message _ _ =>
      some (tag, message)
  | _ => none

/-- The task that a request is about to publish. -/
def announced : Worker K → Option EnrollmentTask
  | .publishing task => some task
  | _ => none

/-- The task of a request that the broker has stored. -/
def accepted : Worker K → Option EnrollmentTask
  | .confirming task | .queued task => some task
  | _ => none

/-- Everything one step of a worker can do to the broker and the tasks. -/
inductive Effect (config : Config) (store : Store K) (worker : Worker K) :
    Store K → Worker K → Prop where
  | quiet (after : Store K) (next : Worker K) : after.broker = store.broker →
      after.jobIds = store.jobIds → after.outcomes = store.outcomes →
      working next = none ∨ working next = working worker →
      announced next = none ∨ announced next = announced worker →
      accepted next = none ∨ accepted next = accepted worker → Effect config store worker after next
  | drew (task : EnrollmentTask) (after : Store K) : task.jobId ∉ store.jobIds →
      after.broker = store.broker → after.jobIds = store.jobIds ++ [task.jobId] →
      after.outcomes = store.outcomes → Effect config store worker after (.publishing task)
  | published (task : EnrollmentTask) (after : Store K) : worker = .publishing task →
      after.broker = store.broker.push .FACE_TASKS ⟨task, {}⟩ → after.jobIds = store.jobIds →
      after.outcomes = store.outcomes → Effect config store worker after (.confirming task)
  | delivered (position channel : Nat) (delivery : Delivery Queue TaskMessage) (after : Store K) :
      store.broker.deliver .FACE_TASKS position channel = some (delivery, after.broker) →
      after.jobIds = store.jobIds → after.outcomes = store.outcomes →
      Effect config store worker after (.inferring delivery.tag delivery.message)
  | finished (tag : Nat) (message : TaskMessage) (outcome : Outcome) (after : Store K) :
      working worker = some (tag, message) → after.broker = store.broker.send tag [.ack] →
      after.jobIds = store.jobIds → after.outcomes = store.outcomes ++ [(message.task, outcome)] →
      Effect config store worker after .done
  | sentBack (tag : Nat) (message : TaskMessage) (failure : Failure) (after : Store K) :
      working worker = some (tag, message) →
      after.broker = store.broker.send tag [.sendToQueue (retried config message failure).1
        (retried config message failure).2, .ack] →
      after.jobIds = store.jobIds → after.outcomes = store.outcomes →
      Effect config store worker after .done

section Effects

variable (config : Config) (uuids : UuidSource) (codec : Codec) (store : Store K)

theorem quiet_same (worker next : Worker K) (db : Database K)
    (busy : working next = none ∨ working next = working worker)
    (publishes : announced next = none ∨ announced next = announced worker)
    (stored : accepted next = none ∨ accepted next = accepted worker) :
    Effect config store worker { store with db } next :=
  .quiet _ _ rfl rfl rfl busy publishes stored

theorem process_effect (tag : Nat) (message : TaskMessage) (input : Input K) (worker : Worker K)
    (busy : working worker = some (tag, message)) :
    Effect config store worker (process config uuids codec tag message input store worker).1
      (process config uuids codec tag message input store worker).2 := by
  have ends : ∀ outcome db, Effect config store worker (finish tag message outcome { store with db }).1
      (finish tag message outcome { store with db }).2 :=
    fun outcome db => .finished tag message outcome _ busy rfl rfl rfl
  have fails : ∀ failure db, Effect config store worker
      (sendBack config tag message failure { store with db }).1
      (sendBack config tag message failure { store with db }).2 :=
    fun failure db => .sentBack tag message failure _ busy rfl rfl rfl
  have goesOn : ∀ next, working next = some (tag, message) → announced next = none →
      accepted next = none → Effect config store worker store next :=
    fun next same publishes stored => .quiet _ _ rfl rfl rfl (Or.inr (same.trans busy.symm))
      (Or.inl publishes) (Or.inl stored)
  unfold process
  dsimp only
  split
  · exact fails _ store.db
  · split
    · exact ends .discarded store.db
    · split
      · exact ends .discarded store.db
      · exact goesOn _ rfl rfl rfl
  · split
    · exact fails _ store.db
    · exact ends .alreadyStored store.db
    · exact goesOn _ rfl rfl rfl
  · split
    · exact fails _ _
    · exact ends .stored _
  · exact .quiet _ _ rfl rfl rfl (Or.inr rfl) (Or.inr rfl) (Or.inr rfl)

theorem request_effect (input : Input K) (worker : Worker K) :
    Effect config store worker (request uuids codec input store worker).1
      (request uuids codec input store worker).2 := by
  have quiet : ∀ next db, working next = none → announced next = none → accepted next = none →
      Effect config store worker { store with db } next :=
    fun next db busy publishes stored =>
      quiet_same config store worker next db (Or.inl busy) (Or.inl publishes) (Or.inl stored)
  unfold request
  split
  · exact quiet _ store.db rfl rfl rfl
  · split
    all_goals exact quiet _ store.db rfl rfl rfl
  · split
    all_goals exact quiet _ store.db rfl rfl rfl
  · split
    · exact .drew _ _ (uuids.fresh _ _) rfl rfl rfl
    · exact quiet _ store.db rfl rfl rfl
  · split
    all_goals exact quiet _ store.db rfl rfl rfl
  · dsimp only
    split
    all_goals exact quiet _ _ rfl rfl rfl
  · exact .published _ _ rfl (publish_enrollment _ _) rfl rfl
  · exact .quiet _ _ rfl rfl rfl (Or.inl rfl) (Or.inl rfl) (Or.inr rfl)
  · exact quiet _ store.db rfl rfl rfl
  · exact quiet _ store.db rfl rfl rfl
  · exact .quiet _ _ rfl rfl rfl (Or.inr rfl) (Or.inr rfl) (Or.inr rfl)

theorem exec_effect (input : Input K) (worker : Worker K) :
    Effect config store worker (exec config uuids codec input store worker).1
      (exec config uuids codec input store worker).2 := by
  unfold exec
  split
  · split
    · split
      · exact .quiet _ _ rfl rfl rfl (Or.inr rfl) (Or.inr rfl) (Or.inr rfl)
      · next delivery broker delivers => exact .delivered _ _ delivery _ delivers rfl rfl
    · exact .quiet _ _ rfl rfl rfl (Or.inr rfl) (Or.inr rfl) (Or.inr rfl)
  · exact process_effect config uuids codec store _ _ _ _ rfl
  · exact process_effect config uuids codec store _ _ _ _ rfl
  · exact process_effect config uuids codec store _ _ _ _ rfl
  · exact request_effect config uuids codec store input _

end Effects

end FaceVec.Faces

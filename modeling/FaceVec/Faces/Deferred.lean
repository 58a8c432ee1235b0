import FaceVec.Faces.Uniqueness

/-!
The two ways to enroll a face. A request whose AI call fails queues its image;
what the consumer makes of the task later is what the request itself would
have made of the image then.
-/

namespace FaceVec.Faces

open Interleaving Attendance

variable {K : Type}

/-- What the AI service says of an image, its filename and its type. -/
abbrev Answers (K : Type) := List UInt8 → String → String → Except Failure (EmbeddingResult K)

/-- A database call that meets no fault. -/
def drawing (draw : Nat) : Fate := { chances := [⟨none, draw⟩] }

section Paths

variable (codec : Codec) (answers : Answers K) (draw : Nat)

/-- `enrollFace` from its call to its answer. -/
def enrolling (studentId : Uuid) (file : UploadedImage) : List (Input K) :=
  [.enrollFace studentId file, .call (drawing draw), .call (drawing draw),
    .extract (answers file.buffer file.originalname file.mimetype) draw, .call (drawing draw)]

/-- One attempt of the consumer, from its AI call on. -/
def attempting (task : EnrollmentTask) : List (Input K) :=
  [.extract (answers (codec.fromBase64 task.image) task.filename task.mimetype) draw,
    .call (drawing draw), .call (drawing draw)]

variable (uuids : UuidSource)

def enrolledFace (db : Database K) (studentId : Uuid) (hash : String) (face : DetectedFace K)
    (model : String) : FaceEmbedding K :=
  ⟨uuids.generate draw (db.faceEmbeddings.rows.map (·.id)), studentId, face.embedding, model,
    some face.det_score, some hash⟩

/-- The rows that an enrollment adds, given what the AI service says: at most one. -/
def addedFaces (db : Database K) (studentId : Uuid) (hash : String) :
    Except Failure (EmbeddingResult K) → List (FaceEmbedding K)
  | .error _ => []
  | .ok result =>
      match usableFace result with
      | .error _ => []
      | .ok face =>
          if (findStudent db studentId).isNone || existsByHash db studentId hash then []
          else [enrolledFace draw uuids db studentId hash face result.model]

/-- Whatever the AI service says, nothing joins an unknown student or a known image. -/
theorem addedFaces_refused (db : Database K) (studentId : Uuid) (hash : String)
    (answer : Except Failure (EmbeddingResult K))
    (refused : ((findStudent db studentId).isNone || existsByHash db studentId hash) = true) :
    addedFaces draw uuids db studentId hash answer = [] := by
  unfold addedFaces
  split
  · rfl
  · split
    · rfl
    · rw [if_pos refused]

end Paths

/-- `added` joins the face embeddings, and nothing else changes. -/
structure Leaves (db after : Database K) (added : List (FaceEmbedding K)) : Prop where
  frame : after = { db with faceEmbeddings := after.faceEmbeddings }
  rows : after.faceEmbeddings.rows = db.faceEmbeddings.rows ++ added

theorem leaves_none (db : Database K) : Leaves db db [] := ⟨rfl, (List.append_nil _).symm⟩

section Inserts

variable (uuids : UuidSource) (studentId : Uuid) (face : DetectedFace K) (model hash : String)
  (draw : Nat) (db : Database K)

theorem insert_known (known : (findStudent db studentId).isNone = false) :
    ∃ after, transaction (insertEmbedding uuids studentId face model hash) (drawing draw).chances
        (drawing draw).ending db = (.ok (enrolledFace draw uuids db studentId hash face model), after) ∧
      Leaves db after [enrolledFace draw uuids db studentId hash face model] := by
  cases inserted : db.faceEmbeddings.insert (enrolledFace draw uuids db studentId hash face model) with
  | none =>
      obtain ⟨old, member, clashes⟩ := Table.insert_eq_none _ _ inserted
      have sameId : old.id = uuids.generate draw (db.faceEmbeddings.rows.map (·.id)) := by
        simpa [FaceEmbedding.clash, enrolledFace] using clashes
      exact absurd (List.mem_map.mpr ⟨old, member, sameId⟩) (uuids.fresh draw _)
  | some rows =>
      refine ⟨{ db with faceEmbeddings := rows }, ?_, rfl, Table.insert_eq_some _ _ _ inserted⟩
      rw [enrolledFace] at inserted
      simp only [transaction, insertEmbedding, statement, drawing, faultOf, drawOf, known, create,
        inserted, List.head?_cons, Option.bind_some, Option.map_some, Option.getD_some,
        Bool.false_eq_true, if_false]
      rfl

/-- An insert adds its row, unless the student is unknown. -/
theorem insert_leaves : Leaves db
    (transaction (insertEmbedding uuids studentId face model hash) (drawing draw).chances
      (drawing draw).ending db).2
    (if (findStudent db studentId).isNone then []
      else [enrolledFace draw uuids db studentId hash face model]) := by
  cases unknown : (findStudent db studentId).isNone with
  | false =>
      obtain ⟨after, ran, leaves⟩ := insert_known uuids studentId face model hash draw db unknown
      rw [ran]
      exact leaves
  | true =>
      have refused : transaction (insertEmbedding uuids studentId face model hash)
          (drawing draw).chances (drawing draw).ending db =
            (.error (.prisma (.other "P2010") none), db) := by
        simp [transaction, insertEmbedding, statement, drawing, faultOf, unknown, violation]
      rw [refused]
      exact leaves_none db

end Inserts

section Agreement

variable (config : Config) (uuids : UuidSource) (codec : Codec) (answers : Answers K)
  (store : Store K) (draw : Nat)

theorem inserting_db (tag : Nat) (message : TaskMessage) (face : DetectedFace K) (model : String)
    (fate : Fate) :
    (process config uuids codec tag message (.call fate) store
      (.inserting tag message face model)).1.db =
      (transaction (insertEmbedding uuids message.task.studentId face model
        (codec.sha256 (codec.fromBase64 message.task.image))) fate.chances fate.ending store.db).2 := by
  simp only [process]
  split
  · rfl
  · rfl

theorem storing_db (studentId : Uuid) (file : UploadedImage) (face : DetectedFace K)
    (model : String) (faceCount : Nat) (fate : Fate) :
    (request uuids codec (.call fate) store (.storing studentId file face model faceCount)).1.db =
      (transaction (insertEmbedding uuids studentId face model (codec.sha256 file.buffer))
        fate.chances fate.ending store.db).2 := by
  simp only [request]
  split
  · rfl
  · rfl

theorem machine_exec : (machine (K := K) config uuids codec).exec = exec config uuids codec := rfl

/-- What `usableFace` asks, as a fact about the answer of the AI. -/
theorem usableFace_ok (result : EmbeddingResult K) (face : DetectedFace K)
    (usable : usableFace result = .ok face) :
    result.primary = some face ∧ ¬ face.embedding.length ≠ EMBEDDING_DIMENSIONS := by
  unfold usableFace at usable
  cases primary : result.primary with
  | none => simp [primary] at usable
  | some found =>
      rw [primary] at usable
      by_cases sized : found.embedding.length ≠ EMBEDDING_DIMENSIONS
      · simp [sized] at usable
      · simp only [if_neg sized] at usable
        cases usable
        exact ⟨rfl, sized⟩

theorem usableFace_error (result : EmbeddingResult K) (failure : Failure)
    (unusable : usableFace result = .error failure) :
    result.primary = none ∨ ∃ face, result.primary = some face ∧
      face.embedding.length ≠ EMBEDDING_DIMENSIONS := by
  unfold usableFace at unusable
  cases primary : result.primary with
  | none => exact Or.inl rfl
  | some found =>
      rw [primary] at unusable
      by_cases sized : found.embedding.length ≠ EMBEDDING_DIMENSIONS
      · exact Or.inr ⟨found, rfl, sized⟩
      · simp only [if_neg sized] at unusable
        cases unusable

/-- The consumer and `enrollFace` ask the same of a face, each in its own words. -/
theorem inferring_usable (tag : Nat) (message : TaskMessage) (result : EmbeddingResult K)
    (face : DetectedFace K) (usable : usableFace result = .ok face) :
    exec config uuids codec (.extract (.ok result) draw) store (.inferring tag message) =
      (store, .comparing tag message face result.model) := by
  obtain ⟨primary, sized⟩ := usableFace_ok result face usable
  simp only [exec, process, primary, if_neg sized]

theorem inferring_unusable (tag : Nat) (message : TaskMessage) (result : EmbeddingResult K)
    (failure : Failure) (unusable : usableFace result = .error failure) :
    exec config uuids codec (.extract (.ok result) draw) store (.inferring tag message) =
      finish tag message .discarded store := by
  rcases usableFace_error result failure unusable with primary | ⟨face, primary, sized⟩
  · simp only [exec, process, primary]
  · simp only [exec, process, primary, if_pos sized]

theorem comparing_calm (tag : Nat) (message : TaskMessage) (face : DetectedFace K)
    (model : String) :
    exec config uuids codec (.call (drawing draw)) store (.comparing tag message face model) =
      if existsByHash store.db message.task.studentId
          (codec.sha256 (codec.fromBase64 message.task.image)) then
        finish tag message .alreadyStored store
      else (store, .inserting tag message face model) := by
  have heard : ∀ known : Bool, read (drawing draw) known = .ok known := fun _ => rfl
  simp only [exec, process, heard]
  cases existsByHash store.db message.task.studentId
    (codec.sha256 (codec.fromBase64 message.task.image)) with
  | false => rfl
  | true => rfl

theorem attempt_leaves (tag : Nat) (message : TaskMessage) :
    Leaves store.db
      ((machine config uuids codec).alone (attempting codec answers draw message.task)
        (store, .inferring tag message)).1.db
      (addedFaces draw uuids store.db message.task.studentId
        (codec.sha256 (codec.fromBase64 message.task.image))
        (answers (codec.fromBase64 message.task.image) message.task.filename
          message.task.mimetype)) := by
  unfold attempting
  cases answers (codec.fromBase64 message.task.image) message.task.filename
      message.task.mimetype with
  | error failure => exact leaves_none store.db
  | ok result =>
      rw [Machine.alone, addedFaces]
      cases usable : usableFace result with
      | error failure =>
          have ends := inferring_unusable config uuids codec store draw tag message result failure usable
          rw [machine_exec, ends]
          exact leaves_none store.db
      | ok face =>
          have goesOn := inferring_usable config uuids codec store draw tag message result face usable
          rw [machine_exec, goesOn,
            Machine.alone, machine_exec,
            comparing_calm]
          cases known : existsByHash store.db message.task.studentId
              (codec.sha256 (codec.fromBase64 message.task.image)) with
          | true =>
              rw [Bool.or_true]
              exact leaves_none store.db
          | false =>
              rw [Bool.or_false, if_neg Bool.false_ne_true]
              have inserted := insert_leaves uuids message.task.studentId face result.model
                (codec.sha256 (codec.fromBase64 message.task.image)) draw store.db
              rw [← inserting_db config uuids codec store tag] at inserted
              exact inserted

theorem gettingStudent_calm (studentId : Uuid) (file : UploadedImage) :
    exec config uuids codec (.call (drawing draw)) store (.gettingStudent studentId file) =
      if (findStudent store.db studentId).isNone then
        (store, .failed (.http (notFoundError "Student not found")))
      else (store, .deduplicating studentId file) := by
  have heard : ∀ found : Option Student, read (drawing draw) found = .ok found := fun _ => rfl
  simp only [exec, request, heard]
  cases findStudent store.db studentId with
  | none => rfl
  | some student => rfl

theorem deduplicating_calm (studentId : Uuid) (file : UploadedImage) :
    exec config uuids codec (.call (drawing draw)) store (.deduplicating studentId file) =
      if existsByHash store.db studentId (codec.sha256 file.buffer) then
        (store, .failed alreadyEnrolled)
      else (store, .extracting studentId file) := by
  have heard : ∀ known : Bool, read (drawing draw) known = .ok known := fun _ => rfl
  simp only [exec, request, heard]
  cases existsByHash store.db studentId (codec.sha256 file.buffer) with
  | false => rfl
  | true => rfl

/-- The fallback: the task of the request, under a new job id. -/
theorem extracting_fails (studentId : Uuid) (file : UploadedImage) (failure : Failure) :
    exec config uuids codec (.extract (.error failure) draw) store (.extracting studentId file) =
      if isAiFailure failure then
        ({ store with jobIds := store.jobIds ++ [uuids.generate draw store.jobIds] },
          .publishing (enrollmentTask codec (uuids.generate draw store.jobIds) studentId file))
      else (store, .failed failure) := rfl

/-- A request that has the image checked calls the AI service and stores what it finds. -/
theorem extracting_leaves (studentId : Uuid) (file : UploadedImage)
    (answer : Except Failure (EmbeddingResult K))
    (new : existsByHash store.db studentId (codec.sha256 file.buffer) = false) :
    Leaves store.db
      ((machine config uuids codec).alone [.extract answer draw, .call (drawing draw)]
        (store, .extracting studentId file)).1.db
      (addedFaces draw uuids store.db studentId (codec.sha256 file.buffer) answer) := by
  cases answer with
  | error failure =>
      rw [Machine.alone, machine_exec, extracting_fails]
      cases isAiFailure failure with
      | true => exact leaves_none store.db
      | false => exact leaves_none store.db
  | ok result =>
      rw [Machine.alone, machine_exec, addedFaces]
      cases usable : usableFace result with
      | error failure =>
          simp only [exec, request, usable]
          exact leaves_none store.db
      | ok face =>
          simp only [new, Bool.or_false]
          have inserted := insert_leaves uuids studentId face result.model
            (codec.sha256 file.buffer) draw store.db
          rw [← storing_db uuids codec store studentId file face result.model result.faceCount]
            at inserted
          simp only [exec, request, usable]
          exact inserted

theorem enrolling_leaves (studentId : Uuid) (file : UploadedImage) :
    Leaves store.db
      ((machine config uuids codec).alone (enrolling answers draw studentId file)
        (store, .idle)).1.db
      (addedFaces draw uuids store.db studentId (codec.sha256 file.buffer)
        (answers file.buffer file.originalname file.mimetype)) := by
  unfold enrolling
  rw [Machine.alone, machine_exec, show exec config uuids codec (.enrollFace studentId file) store .idle =
    (store, .gettingStudent studentId file) from rfl, Machine.alone, machine_exec, gettingStudent_calm]
  cases unknown : (findStudent store.db studentId).isNone with
  | true =>
      rw [addedFaces_refused draw uuids store.db studentId _ _ (by rw [unknown]; rfl)]
      exact leaves_none store.db
  | false =>
      rw [if_neg Bool.false_ne_true, Machine.alone, machine_exec, deduplicating_calm]
      cases known : existsByHash store.db studentId (codec.sha256 file.buffer) with
      | true =>
          rw [addedFaces_refused draw uuids store.db studentId _ _ (by rw [known, Bool.or_true])]
          exact leaves_none store.db
      | false => exact extracting_leaves config uuids codec store draw studentId file _ known

/-- An attempt at a task ends it: it is acknowledged or sent back. -/
theorem attempt_ends (tag : Nat) (message : TaskMessage) :
    ((machine config uuids codec).alone (attempting codec answers draw message.task)
      (store, .inferring tag message)).2 = .done := by
  unfold attempting
  rw [Machine.alone, machine_exec]
  cases answers (codec.fromBase64 message.task.image) message.task.filename
      message.task.mimetype with
  | error failure => rfl
  | ok result =>
      cases usable : usableFace result with
      | error failure =>
          rw [inferring_unusable config uuids codec store draw tag message result failure usable]
          rfl
      | ok face =>
          rw [inferring_usable config uuids codec store draw tag message result face usable,
            Machine.alone, machine_exec, comparing_calm]
          cases existsByHash store.db message.task.studentId
              (codec.sha256 (codec.fromBase64 message.task.image)) with
          | true => rfl
          | false =>
              simp only [Bool.false_eq_true, if_false, Machine.alone, machine_exec, exec, process]
              split
              · rfl
              · rfl

end Agreement

section Deferral

variable (config : Config) (uuids : UuidSource) (codec : Codec) (answers : Answers K)

/-- The task that a request queues when its AI call fails carries all that
matters: whenever the consumer gets to it, its attempt adds the rows that the
request itself would add then. The ids of the rows are drawn anew. -/
theorem deferred_agrees (trip : ∀ bytes, codec.fromBase64 (codec.toBase64 bytes) = bytes)
    (system : State K) (asking job : Nat) (studentId : Uuid) (file : UploadedImage)
    (task : EnrollmentTask) (failure : Failure)
    (asks : system.procs asking = .extracting studentId file) (down : isAiFailure failure = true)
    (built : task = enrollmentTask codec (uuids.generate job system.store.jobIds) studentId file) :
    ((machine config uuids codec).run system
        [.act asking (.extract (.error failure) job), .act asking .brokerStores]).store.broker =
      system.store.broker.push .FACE_TASKS ⟨task, {}⟩ ∧
      ∀ (later : State K) (consumer requester tag draw other : Nat) (headers : Headers),
        later.procs consumer = .inferring tag ⟨task, headers⟩ → later.procs requester = .idle →
        ((machine config uuids codec).run later
          ((attempting codec answers draw task).map (.act consumer))).procs consumer = .done ∧
        Leaves later.store.db
          ((machine config uuids codec).run later
            ((attempting codec answers draw task).map (.act consumer))).store.db
          (addedFaces draw uuids later.store.db studentId (codec.sha256 file.buffer)
            (answers file.buffer file.originalname file.mimetype)) ∧
        Leaves later.store.db
          ((machine config uuids codec).run later
            ((enrolling answers other studentId file).map (.act requester))).store.db
          (addedFaces other uuids later.store.db studentId (codec.sha256 file.buffer)
            (answers file.buffer file.originalname file.mimetype)) := by
  subst built
  constructor
  · have queued := run_alone (machine config uuids codec) asking
      [.extract (.error failure) job, .brokerStores] system
    rw [Machine.alone, machine_exec, asks, extracting_fails, if_pos down, Machine.alone, machine_exec]
      at queued
    rw [← publish_enrollment]
    exact congrArg (fun state => state.1.broker) queued
  · intro later consumer requester tag draw other headers waits idle
    have attempt := run_alone (machine config uuids codec) consumer
      (attempting codec answers draw
        (enrollmentTask codec (uuids.generate job system.store.jobIds) studentId file)) later
    have direct := run_alone (machine config uuids codec) requester
      (enrolling answers other studentId file) later
    rw [waits] at attempt
    rw [idle] at direct
    refine ⟨?_, ?_, ?_⟩
    · rw [← attempt_ends config uuids codec answers later.store draw tag ⟨_, headers⟩]
      exact congrArg Prod.snd attempt
    · have leaves := attempt_leaves config uuids codec answers later.store draw tag
        ⟨enrollmentTask codec (uuids.generate job system.store.jobIds) studentId file, headers⟩
      simp only [enrollmentTask, trip] at leaves
      rw [show ((machine config uuids codec).run later _).store = _ from congrArg Prod.fst attempt]
      exact leaves
    · rw [show ((machine config uuids codec).run later _).store = _ from congrArg Prod.fst direct]
      exact enrolling_leaves config uuids codec answers later.store other studentId file

end Deferral

/-- Base64 and SHA-256 of the empty file; other bytes keep their values. -/
def losslessCodec : Codec where
  toBase64 bytes := String.ofList (bytes.map fun byte => Char.ofNat byte.toNat)
  fromBase64 text := text.toList.map fun char => UInt8.ofNat char.toNat
  sha256 _ := emptyFileCodec.sha256 []

theorem losslessCodec_trip (bytes : List UInt8) :
    losslessCodec.fromBase64 (losslessCodec.toBase64 bytes) = bytes := by
  simp only [losslessCodec, String.toList_ofList, List.map_map]
  rw [List.map_congr_left (g := id)]
  · exact List.map_id _
  · intro byte member
    have small : byte.toNat < 256 := byte.toNat_lt
    have valid : byte.toNat.isValidChar := Or.inl (by omega)
    have code : (Char.ofNat byte.toNat).toNat = byte.toNat := by
      rw [Char.ofNat, dif_pos valid]
      rfl
    simp [code]

set_option maxRecDepth 4000 in
theorem portrait_added :
    addedFaces 0 UuidSource.counting school 1 (losslessCodec.sha256 []) zeroFace = [stored 1] := rfl

/-- The task of the portrait is with the consumer, and nobody else does anything. -/
def deferredPortrait : State ℤ where
  store := ⟨school, .empty, [], []⟩
  procs index := if index = 0 then .inferring 0 ⟨queuedTask, {}⟩ else .idle

theorem deferred_agrees_portrait :
    ((machine .least UuidSource.counting losslessCodec).run deferredPortrait
      ((attempting losslessCodec (fun _ _ _ => zeroFace) 0 queuedTask).map
        (.act 0))).store.db.faceEmbeddings.rows = [stored 1] ∧
    ((machine .least UuidSource.counting losslessCodec).run deferredPortrait
      ((enrolling (fun _ _ _ => zeroFace) 0 1 portrait).map
        (.act 1))).store.db.faceEmbeddings.rows = [stored 1] := by
  obtain ⟨-, agrees⟩ := deferred_agrees .least UuidSource.counting losslessCodec
    (fun _ _ _ => zeroFace) losslessCodec_trip ⟨⟨school, .empty, [], []⟩, fun _ => .extracting 1 portrait⟩
    0 0 1 portrait queuedTask (.aiUnavailable "connection refused") rfl rfl rfl
  obtain ⟨-, attempt, direct⟩ := agrees deferredPortrait 0 1 0 0 0 {} rfl rfl
  have rows : ∀ after, Leaves school after (addedFaces 0 UuidSource.counting school 1
      (losslessCodec.sha256 []) zeroFace) → after.faceEmbeddings.rows = [stored 1] := by
    intro after leaves
    rw [leaves.rows, portrait_added]
    rfl
  exact ⟨rows _ attempt, rows _ direct⟩

end FaceVec.Faces

import Mathlib.Algebra.Ring.Int.Defs
import FaceVec.Ai.Inference
import FaceVec.Faces.Deferred
import FaceVec.Faces.Retries

/-!
Face enrollment when its AI calls are answered by the inference service: whose
face is stored, and what becomes of an image that the service cannot decode.
-/

namespace FaceVec.Ai

open Interleaving Faces

variable {K Image : Type} [LinearOrder K] [Zero K] [Sub K] [Mul K]
variable (settings : Settings) (engine : Engine Image K) (codec : Codec)

/-- The upload that the AI call of a worker is about. -/
def asked : Worker K → Option UploadedImage
  | .extracting _ file => some file
  | .inferring _ message =>
      some ⟨codec.fromBase64 message.task.image, message.task.mimetype, message.task.filename⟩
  | _ => none

/-- The AI call of the worker is answered for its own image, however the call fares. -/
def Answered (worker : Worker K) : Input K → Prop
  | .extract extraction _ => ∀ file ∈ asked codec worker,
      ∃ contact, extraction = extractViaBreaker settings engine contact file
  | _ => True

/-- Every AI call is answered so, and whoever else writes adds no embeddings. -/
def Served (system : State K) : Event (Input K) (Change K) → Prop
  | .act index input => Answered settings engine codec (system.procs index) input
  | .env (.write db) => ∀ face ∈ db.faceEmbeddings, face ∈ system.store.db.faceEmbeddings
  | _ => True

/-- The row is about the first of the largest faces of an image with its hash. -/
def Depicts (row : FaceEmbedding K) : Prop :=
  ∃ image face, row.sourceImageHash = some (codec.sha256 image) ∧
    image.length ≤ settings.max_image_bytes ∧ Largest engine image face ∧
    row.embedding = face.normed_embedding ∧ row.quality = some face.det_score ∧
    row.model = settings.insightface_model_name ∧ row.embedding.length = EMBEDDING_DIMENSIONS

/-- A face that a worker holds on to, with the image it was found in. -/
def held : Worker K → Option (List UInt8 × Faces.DetectedFace K × String)
  | .storing _ file face model _ => some (file.buffer, face, model)
  | .comparing _ message face model | .inserting _ message face model =>
      some (codec.fromBase64 message.task.image, face, model)
  | _ => none

/-- What a worker holds is the first of the largest faces of its image. -/
def Holds (worker : Worker K) : Prop :=
  ∀ image primary model, held codec worker = some (image, primary, model) →
    image.length ≤ settings.max_image_bytes ∧ model = settings.insightface_model_name ∧
      primary.embedding.length = EMBEDDING_DIMENSIONS ∧
      ∃ face, Largest engine image face ∧ primary.embedding = face.normed_embedding ∧
        primary.det_score = face.det_score

/-- What a step leaves: a worker that holds what it found, and rows of real faces. -/
structure Yields (store after : Store K) (next : Worker K) : Prop where
  holds : Holds settings engine codec next
  rows : ∀ row ∈ after.db.faceEmbeddings,
    row ∈ store.db.faceEmbeddings ∨ Depicts settings engine codec row

variable {settings engine codec}

theorem yields_idle (store after : Store K) (next : Worker K) (same : after.db = store.db)
    (empty : held codec next = none) : Yields settings engine codec store after next where
  holds image primary model found := by
    rw [empty] at found
    cases found
  rows _ mem := Or.inl (same ▸ mem)

theorem yields_kept (store after : Store K) (worker next : Worker K) (same : after.db = store.db)
    (holds : Holds settings engine codec worker) (kept : held codec next = held codec worker) :
    Yields settings engine codec store after next where
  holds image primary model found := holds image primary model (kept ▸ found)
  rows _ mem := Or.inl (same ▸ mem)

theorem yields_insert (uuids : UuidSource) (store after : Store K) (worker next : Worker K)
    (studentId : Uuid) (image : List UInt8) (primary : Faces.DetectedFace K) (model : String)
    (fate : Fate) (holds : Holds settings engine codec worker)
    (found : held codec worker = some (image, primary, model)) (empty : held codec next = none)
    (left : after.db = (transaction
      (insertEmbedding uuids studentId primary model (codec.sha256 image)) fate.chances
      fate.ending store.db).2) : Yields settings engine codec store after next where
  holds image primary model found := by
    rw [empty] at found
    cases found
  rows row mem := by
    rw [left] at mem
    cases whether : commits (insertEmbedding uuids studentId primary model (codec.sha256 image))
        fate.chances fate.ending store.db with
    | false => exact Or.inl (transaction_aborted _ _ _ _ whether ▸ mem)
    | true =>
        obtain ⟨added, ⟨id, rfl⟩, rows⟩ := transaction_committed _ _ _ _ _
          (insertEmbedding_inserts uuids studentId primary model (codec.sha256 image) store.db) whether
        rw [Table.mem_rows, rows] at mem
        rcases List.mem_append.mp mem with old | new
        · exact Or.inl old
        · obtain rfl := List.mem_singleton.mp new
          obtain ⟨within, modelled, sized, face, largest, same, score⟩ := holds _ _ _ found
          exact Or.inr ⟨image, face, rfl, within, largest, same, congrArg some score, modelled, sized⟩

/-- What an answer with a usable face lets a worker hold. -/
theorem answered_holds (file : UploadedImage) (contact : Contact) (result : EmbeddingResult K)
    (answered : extractViaBreaker settings engine contact file = .ok result)
    (primary : Faces.DetectedFace K) (stated : result.primary = some primary)
    (sized : primary.embedding.length = EMBEDDING_DIMENSIONS) (worker : Worker K)
    (found : held codec worker = some (file.buffer, primary, result.model)) :
    Holds settings engine codec worker := by
  intro image other model same
  cases Option.some.inj (found.symm.trans same)
  obtain ⟨modelled, within, -, faces⟩ := extracted_ok settings engine contact file result answered
  exact ⟨within, modelled, sized, faces primary stated⟩

variable (config : Config) (uuids : UuidSource) (store : Store K)

theorem process_yields (tag : Nat) (message : TaskMessage) (input : Input K) (worker : Worker K)
    (busy : working worker = some (tag, message)) (holds : Holds settings engine codec worker)
    (answered : Answered settings engine codec worker input) :
    Yields settings engine codec store (process config uuids codec tag message input store worker).1
      (process config uuids codec tag message input store worker).2 := by
  cases worker with
  | inferring _ _ =>
      obtain ⟨rfl, rfl⟩ := Prod.mk.inj (Option.some.inj busy)
      cases input with
      | extract extraction draw =>
          obtain ⟨contact, same⟩ := answered _ rfl
          cases extraction with
          | error failure => exact yields_idle _ _ _ rfl rfl
          | ok result =>
              simp only [process]
              split
              · exact yields_idle _ _ _ rfl rfl
              · next primary stated =>
                  split
                  · exact yields_idle _ _ _ rfl rfl
                  · next sized =>
                      exact ⟨answered_holds _ contact result same.symm primary stated
                        (not_not.mp sized) _ rfl, fun row mem => Or.inl mem⟩
      | _ => exact yields_idle _ _ _ rfl rfl
  | comparing _ _ face model =>
      obtain ⟨rfl, rfl⟩ := Prod.mk.inj (Option.some.inj busy)
      cases input with
      | call fate =>
          simp only [process]
          split
          · exact yields_idle _ _ _ rfl rfl
          · exact yields_idle _ _ _ rfl rfl
          · exact yields_kept _ _ _ _ rfl holds rfl
      | _ => exact yields_kept _ _ _ _ rfl holds rfl
  | inserting _ _ face model =>
      obtain ⟨rfl, rfl⟩ := Prod.mk.inj (Option.some.inj busy)
      cases input with
      | call fate =>
          simp only [process]
          split
          · exact yields_insert uuids store _ _ _ _ _ _ _ fate holds rfl rfl rfl
          · exact yields_insert uuids store _ _ _ _ _ _ _ fate holds rfl rfl rfl
      | _ => exact yields_kept _ _ _ _ rfl holds rfl
  | _ => cases busy

theorem request_yields (input : Input K) (worker : Worker K) (idle : working worker = none)
    (holds : Holds settings engine codec worker)
    (answered : Answered settings engine codec worker input) :
    Yields settings engine codec store (request uuids codec input store worker).1
      (request uuids codec input store worker).2 := by
  cases worker with
  | extracting studentId file =>
      cases input with
      | extract extraction draw =>
          obtain ⟨contact, same⟩ := answered _ rfl
          cases extraction with
          | error failure =>
              simp only [request]
              split <;> exact yields_idle _ _ _ rfl rfl
          | ok result =>
              simp only [request]
              split
              · exact yields_idle _ _ _ rfl rfl
              · next primary usable =>
                  obtain ⟨stated, sized⟩ := usableFace_ok result primary usable
                  exact ⟨answered_holds file contact result same.symm primary stated
                    (not_not.mp sized) _ rfl, fun row mem => Or.inl mem⟩
      | _ => exact yields_idle _ _ _ rfl rfl
  | storing studentId file face model faceCount =>
      cases input with
      | call fate =>
          simp only [request]
          split
          · exact yields_insert uuids store _ _ _ _ _ _ _ fate holds rfl rfl rfl
          · exact yields_insert uuids store _ _ _ _ _ _ _ fate holds rfl rfl rfl
      | _ => exact yields_kept _ _ _ _ rfl holds rfl
  | gettingStudent studentId file =>
      cases input with
      | call fate =>
          simp only [request]
          split <;> exact yields_idle _ _ _ rfl rfl
      | _ => exact yields_idle _ _ _ rfl rfl
  | deduplicating studentId file =>
      cases input with
      | call fate =>
          simp only [request]
          split <;> exact yields_idle _ _ _ rfl rfl
      | _ => exact yields_idle _ _ _ rfl rfl
  | idle => cases input <;> exact yields_idle _ _ _ rfl rfl
  | publishing task => cases input <;> exact yields_idle _ _ _ rfl rfl
  | confirming task => cases input <;> exact yields_idle _ _ _ rfl rfl
  | inferring => cases idle
  | comparing => cases idle
  | inserting => cases idle
  | _ => exact yields_idle _ _ _ rfl rfl

theorem exec_yields (input : Input K) (worker : Worker K)
    (holds : Holds settings engine codec worker)
    (answered : Answered settings engine codec worker input) :
    Yields settings engine codec store (exec config uuids codec input store worker).1
      (exec config uuids codec input store worker).2 := by
  unfold exec
  split
  · split
    · split <;> exact yields_idle _ _ _ rfl rfl
    · exact yields_idle _ _ _ rfl rfl
  · exact process_yields config uuids store _ _ _ _ rfl holds answered
  · exact process_yields config uuids store _ _ _ _ rfl holds answered
  · exact process_yields config uuids store _ _ _ _ rfl holds answered
  · next notInferring notComparing notInserting _ =>
      refine request_yields uuids store _ _ ?_ holds answered
      cases worker with
      | inferring tag message => exact absurd rfl (notInferring tag message)
      | comparing tag message face model => exact absurd rfl (notComparing tag message face model)
      | inserting tag message face model => exact absurd rfl (notInserting tag message face model)
      | _ => rfl

/-- Every worker holds what it found, and every row that is new is about a real face. -/
structure Genuine (settings : Settings) (engine : Engine Image K) (codec : Codec)
    (initial : Database K) (system : State K) : Prop where
  holds : ∀ index, Holds settings engine codec (system.procs index)
  rows : ∀ row ∈ system.store.db.faceEmbeddings,
    row ∈ initial.faceEmbeddings ∨ Depicts settings engine codec row

theorem step_genuine (initial : Database K) (system : State K) (event : Event (Input K) (Change K))
    (genuine : Genuine settings engine codec initial system)
    (served : Served settings engine codec system event) :
    Genuine settings engine codec initial ((machine config uuids codec).step system event) := by
  cases event with
  | act index input =>
      have yields := exec_yields config uuids system.store input (system.procs index)
        (genuine.holds index) served
      constructor
      · intro other
        by_cases same : other = index
        · subst same
          rw [step_self]
          exact yields.holds
        · rw [step_other _ _ _ _ _ same]
          exact genuine.holds other
      · intro row mem
        rcases yields.rows row mem with old | new
        · exact genuine.rows row old
        · exact Or.inr new
  | env change =>
      refine ⟨genuine.holds, fun row mem => ?_⟩
      cases change with
      | write db => exact genuine.rows row (served row mem)
      | _ => exact genuine.rows row mem

/-- Every embedding that face enrollment has ever stored, at once or from the
queue, is that of the first of the largest faces of an image with its hash. -/
theorem stored_faces_largest (db : Database K) (events : List (Event (Input K) (Change K)))
    (served : (machine config uuids codec).Along (Served settings engine codec) (begin db) events) :
    ∀ row ∈ ((machine config uuids codec).run (begin db) events).store.db.faceEmbeddings,
      row ∈ db.faceEmbeddings ∨ Depicts settings engine codec row := by
  have genuine := along_invariant (machine config uuids codec) (Served settings engine codec)
    (Genuine settings engine codec db)
    (fun system event holds meets => step_genuine config uuids db system event holds meets)
    (begin db) events ⟨fun _ => nofun, fun _ mem => Or.inl mem⟩ served
  exact genuine.rows

def background : Detection ℤ := ⟨List.replicate 512 0, 0, 0, 10, 10, 80⟩

def foreground : Detection ℤ := ⟨List.replicate 512 1, 0, 0, 100, 100, 95⟩

/-- Two faces, the larger one behind the other. -/
def crowd : Engine Unit ℤ where
  imdecode bytes := if bytes = [] then none else some ()
  get _ := some [background, foreground]

def snapshot : UploadedImage := ⟨[7], "image/png", "face.png"⟩

def enrolledAtOnce : List (Event (Input ℤ) (Change ℤ)) :=
  [.act 0 (.enrollFace 1 snapshot), .act 0 (.call {}), .act 0 (.call {}),
    .act 0 (.extract (extractViaBreaker {} crowd (.reached true) snapshot) 0), .act 0 (.call {})]

theorem crowd_answers : extractViaBreaker {} crowd (.reached true) snapshot =
    .ok ⟨"buffalo_l", 2, some ⟨List.replicate 512 1, 95⟩⟩ := by
  have sorted : extract [background, foreground] = [detected foreground, detected background] :=
    Ranking.descending_pair _ _ _ (by decide)
  have served : extractViaBreaker {} crowd (.reached true) snapshot =
      received (.ok ⟨"buffalo_l", 512, (extract [background, foreground]).length,
        extract [background, foreground], (extract [background, foreground]).head?⟩) := rfl
  rw [served, sorted]
  rfl

theorem stored_faces_largest_crowd :
    ∃ row ∈ ((machine .least UuidSource.counting losslessCodec).run (begin school)
        enrolledAtOnce).store.db.faceEmbeddings, Depicts {} crowd losslessCodec row := by
  have served : (machine .least UuidSource.counting losslessCodec).Along
      (Served {} crowd losslessCodec) (begin school) enrolledAtOnce := by
    refine ⟨trivial, trivial, trivial, ?_, trivial, trivial⟩
    rintro file ⟨⟩
    exact ⟨.reached true, rfl⟩
  have stored : ((machine .least UuidSource.counting losslessCodec).run (begin school)
      enrolledAtOnce).store.db.faceEmbeddings.rows.length = 1 := by
    unfold enrolledAtOnce
    rw [crowd_answers]
    decide +kernel
  obtain ⟨row, mem⟩ := List.exists_mem_of_length_pos (by rw [stored]; exact Nat.one_pos)
  exact ⟨row, mem, (stored_faces_largest .least UuidSource.counting school enrolledAtOnce served row
    mem).resolve_left List.not_mem_nil⟩

section Undecodable

/-- OpenCV reads the image of the task. -/
def Decodes (engine : Engine Image K) (codec : Codec) (task : EnrollmentTask) : Prop :=
  engine.imdecode (codec.fromBase64 task.image) ≠ none

theorem held_decodes (worker : Worker K) (message : TaskMessage)
    (primary : Faces.DetectedFace K) (model : String)
    (holds : Holds settings engine codec worker)
    (found : held codec worker = some (codec.fromBase64 message.task.image, primary, model)) :
    Decodes engine codec message.task := by
  obtain ⟨-, -, -, face, ⟨pixels, _, _, _, decoded, _⟩, _⟩ := holds _ _ _ found
  unfold Decodes
  rw [decoded]
  nofun

/-- The consumer ends no delivery of an image that cannot be decoded. -/
theorem process_outcomes (tag : Nat) (message : TaskMessage) (input : Input K) (worker : Worker K)
    (busy : working worker = some (tag, message)) (holds : Holds settings engine codec worker)
    (answered : Answered settings engine codec worker input) :
    ∀ entry ∈ (process config uuids codec tag message input store worker).1.outcomes,
      entry ∈ store.outcomes ∨ Decodes engine codec entry.1 := by
  have ended : ∀ outcome, Decodes engine codec message.task →
      ∀ entry ∈ store.outcomes ++ [(message.task, outcome)],
        entry ∈ store.outcomes ∨ Decodes engine codec entry.1 := by
    intro outcome decodes entry mem
    rcases List.mem_append.mp mem with old | new
    · exact Or.inl old
    · obtain rfl := List.mem_singleton.mp new
      exact Or.inr decodes
  cases worker with
  | inferring _ _ =>
      obtain ⟨rfl, rfl⟩ := Prod.mk.inj (Option.some.inj busy.symm)
      cases input with
      | extract extraction draw =>
          obtain ⟨contact, same⟩ := answered _ rfl
          cases extraction with
          | error failure => exact fun entry mem => Or.inl mem
          | ok result =>
              have decodes : Decodes engine codec message.task :=
                (extracted_ok settings engine contact _ result same.symm).2.2.1
              simp only [process]
              split
              · exact ended _ decodes
              · split
                · exact ended _ decodes
                · exact fun entry mem => Or.inl mem
      | _ => exact fun entry mem => Or.inl mem
  | comparing _ _ face model =>
      obtain ⟨rfl, rfl⟩ := Prod.mk.inj (Option.some.inj busy.symm)
      have decodes := held_decodes _ message face model holds rfl
      cases input with
      | call fate =>
          simp only [process]
          split
          · exact fun entry mem => Or.inl mem
          · exact ended _ decodes
          · exact fun entry mem => Or.inl mem
      | _ => exact fun entry mem => Or.inl mem
  | inserting _ _ face model =>
      obtain ⟨rfl, rfl⟩ := Prod.mk.inj (Option.some.inj busy.symm)
      have decodes := held_decodes _ message face model holds rfl
      cases input with
      | call fate =>
          simp only [process]
          split
          · exact fun entry mem => Or.inl mem
          · exact ended _ decodes
      | _ => exact fun entry mem => Or.inl mem
  | _ => cases busy

theorem exec_outcomes (input : Input K) (worker : Worker K)
    (holds : Holds settings engine codec worker)
    (answered : Answered settings engine codec worker input) :
    ∀ entry ∈ (exec config uuids codec input store worker).1.outcomes,
      entry ∈ store.outcomes ∨ Decodes engine codec entry.1 := by
  cases busy : working worker with
  | none =>
      intro entry mem
      -- Only a worker of the consumer ends a delivery.
      have effect := exec_effect config uuids codec store input worker
      generalize exec config uuids codec input store worker = result at mem effect
      obtain ⟨after, next⟩ := result
      have same : after.outcomes = store.outcomes := by
        cases effect with
        | finished tag message outcome after works =>
            rw [busy] at works
            cases works
        | _ => assumption
      exact Or.inl (same ▸ mem)
  | some delivery =>
      obtain ⟨tag, message⟩ := delivery
      have step : exec config uuids codec input store worker =
          process config uuids codec tag message input store worker := by
        cases worker with
        | inferring | comparing | inserting =>
            obtain ⟨rfl, rfl⟩ := Prod.mk.inj (Option.some.inj busy.symm)
            cases input <;> rfl
        | _ => cases busy
      rw [step]
      exact process_outcomes config uuids store tag message input worker busy holds answered

/-- What is invariant, with the outcomes of the consumer. -/
structure Ended (settings : Settings) (engine : Engine Image K) (codec : Codec)
    (config : Config) (initial : Database K) (system : State K) : Prop where
  genuine : Genuine settings engine codec initial system
  sound : Sound config system
  outcomes : ∀ entry ∈ system.store.outcomes, Decodes engine codec entry.1

theorem step_ended (initial : Database K) (system : State K) (event : Event (Input K) (Change K))
    (ended : Ended settings engine codec config initial system)
    (served : Served settings engine codec system event) :
    Ended settings engine codec config initial ((machine config uuids codec).step system event) where
  genuine := step_genuine config uuids initial system event ended.genuine served
  sound := step_sound config uuids codec system event ended.sound
  outcomes entry mem := by
    cases event with
    | act index input =>
        rcases exec_outcomes config uuids system.store input _ (ended.genuine.holds index) served
          entry mem with old | decodes
        · exact ended.outcomes entry old
        · exact decodes
    | env change => cases change <;> exact ended.outcomes entry mem

/-- A task whose image cannot be decoded is never done with, though no retry can
help it: whatever the AI service is asked and however often, an accepted one is
still in a queue, or held by the consumer, and has no outcome. -/
theorem undecodable_never_done (db : Database K) (events : List (Event (Input K) (Change K)))
    (served : (machine config uuids codec).Along (Served settings engine codec) (begin db) events) :
    let final := (machine config uuids codec).run (begin db) events
    ∀ index task, final.procs index = .queued task →
      engine.imdecode (codec.fromBase64 task.image) = none →
        HasCopy task final.store.broker ∧ ¬Reached task final.store := by
  intro final index task queued undecodable
  have ended := along_invariant (machine config uuids codec) (Served settings engine codec)
    (Ended settings engine codec config db)
    (fun system event holds meets => step_ended config uuids db system event holds meets)
    (begin db) events
    ⟨⟨fun _ => nofun, fun _ mem => Or.inl mem⟩, begin_sound config db, nofun⟩ served
  have unreached : ¬Reached task final.store := by
    rintro ⟨outcome, mem⟩
    exact ended.outcomes _ mem undecodable
  have counts := ended.sound.kept index task (by rw [queued]; rfl)
  rcases remaining_pos config task final.store ended.sound.bounded counts with reached | copy
  · exact absurd reached unreached
  · exact ⟨copy, unreached⟩

def blind : Engine Unit ℤ where
  imdecode _ := none
  get _ := none

/-- The task of the snapshot has failed once in the consumer. -/
def retriedInVain : List (Event (Input ℤ) (Change ℤ)) :=
  [.act 0 (.enrollFace 1 snapshot), .act 0 (.call {}), .act 0 (.call {}),
    .act 0 (.extract (extractViaBreaker {} blind (.reached true) snapshot) 0),
    .act 0 .brokerStores, .act 0 .brokerConfirms, .act 1 (.deliver 0 0),
    .act 1 (.extract (extractViaBreaker {} blind (.reached true) snapshot) 0), .env (.frame 0)]

theorem undecodable_never_done_snapshot :
    let final := (machine .least UuidSource.counting losslessCodec).run (begin school) retriedInVain
    HasCopy (enrollmentTask losslessCodec 1 1 snapshot) final.store.broker ∧
      ¬Reached (enrollmentTask losslessCodec 1 1 snapshot) final.store := by
  have answered : ∀ file ∈ asked losslessCodec (Worker.extracting (K := ℤ) 1 snapshot),
      ∃ contact, extractViaBreaker {} blind (.reached true) snapshot =
        extractViaBreaker {} blind contact file := by
    rintro file ⟨⟩
    exact ⟨.reached true, rfl⟩
  have served : (machine .least UuidSource.counting losslessCodec).Along
      (Served {} blind losslessCodec) (begin school) retriedInVain :=
    ⟨trivial, trivial, trivial, answered, trivial, trivial, trivial, answered, trivial, trivial⟩
  exact undecodable_never_done .least UuidSource.counting school retriedInVain served 0 _ rfl rfl

end Undecodable

end FaceVec.Ai

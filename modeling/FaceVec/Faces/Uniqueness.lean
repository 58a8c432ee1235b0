import FaceVec.Faces.Retries

/-!
One embedding for each student and image. Requests and tasks look for the image
first and insert it later, and nothing in the database keeps two of them apart.
`inserted` is a history of the inserts that committed, and `since` how many
there were when a worker looked; no step reads them.
-/

namespace FaceVec.Faces

open Interleaving

variable {K : Type}

abbrev Pair := Uuid × String

structure Archive (K : Type) where
  store : Store K
  inserted : List Pair

structure Enroller (K : Type) where
  worker : Worker K
  since : Nat

def Stores (face : FaceEmbedding K) (pair : Pair) : Prop :=
  face.studentId = pair.1 ∧ face.sourceImageHash = some pair.2

/-- The pair a worker has not found and has not inserted yet. -/
def pending (codec : Codec) : Worker K → Option Pair
  | .extracting studentId file | .storing studentId file _ _ _ =>
      some (studentId, codec.sha256 file.buffer)
  | .inserting _ message _ _ =>
      some (message.task.studentId, codec.sha256 (codec.fromBase64 message.task.image))
  | _ => none

section Exec

variable (config : Config) (uuids : UuidSource) (codec : Codec)

/-- The pair whose insert the step commits. -/
def insertion (worker : Worker K) (input : Input K) (db : Database K) : Option Pair :=
  match worker, input with
  | .storing studentId file face model _, .call fate =>
      if commits (insertEmbedding uuids studentId face model (codec.sha256 file.buffer)) fate.chances
          fate.ending db then
        some (studentId, codec.sha256 file.buffer)
      else none
  | .inserting _ message face model, .call fate =>
      let hash := codec.sha256 (codec.fromBase64 message.task.image)
      if commits (insertEmbedding uuids message.task.studentId face model hash) fate.chances
          fate.ending db then
        some (message.task.studentId, hash)
      else none
  | _, _ => none

def enroll (input : Input K) (archive : Archive K) (enroller : Enroller K) :
    Archive K × Enroller K :=
  let next := exec config uuids codec input archive.store enroller.worker
  let inserted :=
    archive.inserted ++ (insertion uuids codec enroller.worker input archive.store.db).toList
  (⟨next.1, inserted⟩,
    ⟨next.2, if (pending codec enroller.worker).isSome then enroller.since else inserted.length⟩)

def enrollers : Machine (Archive K) (Enroller K) (Input K) (Change K) where
  exec := enroll config uuids codec
  ambient change archive := { archive with store := ambient change archive.store }

end Exec

def opening (db : Database K) : System (Archive K) (Enroller K) :=
  ⟨⟨(begin db).store, []⟩, fun _ => ⟨.idle, 0⟩⟩

/-- No student has two embeddings of one image. -/
def OneEach (db : Database K) : Prop :=
  ∀ a ∈ db.faceEmbeddings, ∀ b ∈ db.faceEmbeddings, a.studentId = b.studentId →
    a.sourceImageHash = b.sourceImageHash → a.sourceImageHash ≠ none → a = b

/-- An insert commits only if no other one of its pair has committed since its
worker looked; and nobody else adds embeddings. -/
def Undisturbed (uuids : UuidSource) (codec : Codec) (system : System (Archive K) (Enroller K)) :
    Event (Input K) (Change K) → Prop
  | .act index input =>
      ∀ pair, insertion uuids codec (system.procs index).worker input system.store.store.db =
          some pair →
        pair ∉ system.store.inserted.drop (system.procs index).since
  | .env (.write db) =>
      ∀ face ∈ db.faceEmbeddings, face ∈ system.store.store.db.faceEmbeddings
  | .env _ => True

/-- What a step of a worker means for the embeddings. -/
inductive Turn (codec : Codec) (store after : Store K) (worker next : Worker K) :
    Option Pair → Prop where
  | idles : after.db = store.db →
      pending codec next = none ∨ pending codec next = pending codec worker →
      Turn codec store after worker next none
  | looked (pair : Pair) : after.db = store.db → pending codec worker = none →
      pending codec next = some pair → existsByHash store.db pair.1 pair.2 = false →
      Turn codec store after worker next none
  | inserted (pair : Pair) (face : FaceEmbedding K) : pending codec worker = some pair →
      pending codec next = none → Stores face pair →
      after.db.faceEmbeddings.rows = store.db.faceEmbeddings.rows ++ [face] →
      Turn codec store after worker next (some pair)

theorem existsByHash_false (db : Database K) (pair : Pair)
    (absent : existsByHash db pair.1 pair.2 = false) (face : FaceEmbedding K)
    (member : face ∈ db.faceEmbeddings) : ¬ Stores face pair := by
  rintro ⟨owner, hash⟩
  have differs := List.any_eq_false.mp absent face member
  simp [owner, hash] at differs

section Steps

variable (config : Config) (uuids : UuidSource) (codec : Codec) (store : Store K)

/-- The insert of a worker, whatever it makes of the result. -/
theorem insert_turn (worker next : Worker K) (after : Store K) (studentId : Uuid)
    (face : DetectedFace K) (model hash : String) (fate : Fate)
    (waits : pending codec worker = some (studentId, hash)) (ended : pending codec next = none)
    (left : after.db = (transaction (insertEmbedding uuids studentId face model hash) fate.chances
      fate.ending store.db).2) :
    Turn codec store after worker next
      (if commits (insertEmbedding uuids studentId face model hash) fate.chances fate.ending store.db
        then some (studentId, hash) else none) := by
  split
  · next committed =>
      obtain ⟨row, ⟨id, rfl⟩, rows⟩ := transaction_committed _ _ _ _ _
        (insertEmbedding_inserts uuids studentId face model hash store.db) committed
      exact .inserted _ _ waits ended ⟨rfl, rfl⟩ (by rw [left]; exact rows)
  · next aborted =>
      refine .idles ?_ (Or.inl ended)
      rw [left, transaction_aborted _ _ _ _ (by simpa using aborted)]

theorem process_turn (tag : Nat) (message : TaskMessage) (input : Input K) (worker : Worker K)
    (busy : working worker = some (tag, message)) :
    Turn codec store (process config uuids codec tag message input store worker).1 worker
      (process config uuids codec tag message input store worker).2
      (insertion uuids codec worker input store.db) := by
  cases worker with
  | inferring _ _ =>
      cases input with
      | extract extraction draw =>
          cases extraction with
          | error failure => exact .idles rfl (Or.inl rfl)
          | ok result =>
              simp only [process]
              split
              · exact .idles rfl (Or.inl rfl)
              · split <;> exact .idles rfl (Or.inl rfl)
      | _ => exact .idles rfl (Or.inr rfl)
  | comparing _ _ face model =>
      obtain ⟨rfl, rfl⟩ := Prod.mk.inj (Option.some.inj busy)
      cases input with
      | call fate =>
          simp only [process]
          split
          · exact .idles rfl (Or.inl rfl)
          · exact .idles rfl (Or.inl rfl)
          · next absent => exact .looked _ rfl rfl rfl (read_value fate _ _ absent)
      | _ => exact .idles rfl (Or.inr rfl)
  | inserting _ _ face model =>
      obtain ⟨rfl, rfl⟩ := Prod.mk.inj (Option.some.inj busy)
      cases input with
      | call fate =>
          simp only [process, insertion]
          split <;> exact insert_turn uuids codec store _ _ _ _ face model _ fate rfl rfl rfl
      | _ => exact .idles rfl (Or.inr rfl)
  | _ => cases busy

theorem request_turn (input : Input K) (worker : Worker K) (idle : working worker = none) :
    Turn codec store (request uuids codec input store worker).1 worker
      (request uuids codec input store worker).2 (insertion uuids codec worker input store.db) := by
  cases worker with
  | idle => cases input <;> exact .idles rfl (Or.inl rfl)
  | gettingStudent studentId file =>
      cases input with
      | call fate =>
          simp only [request]
          split <;> exact .idles rfl (Or.inl rfl)
      | _ => exact .idles rfl (Or.inr rfl)
  | deduplicating studentId file =>
      cases input with
      | call fate =>
          simp only [request]
          split
          · exact .idles rfl (Or.inl rfl)
          · exact .idles rfl (Or.inl rfl)
          · next absent => exact .looked _ rfl rfl rfl (read_value fate _ _ absent)
      | _ => exact .idles rfl (Or.inr rfl)
  | extracting studentId file =>
      cases input with
      | extract extraction draw =>
          cases extraction with
          | error failure =>
              simp only [request]
              split <;> exact .idles rfl (Or.inl rfl)
          | ok result =>
              simp only [request]
              split
              · exact .idles rfl (Or.inl rfl)
              · exact .idles rfl (Or.inr rfl)
      | _ => exact .idles rfl (Or.inr rfl)
  | storing studentId file face model faceCount =>
      cases input with
      | call fate =>
          simp only [request, insertion]
          split <;> exact insert_turn uuids codec store _ _ _ studentId face model _ fate rfl rfl rfl
      | _ => exact .idles rfl (Or.inr rfl)
  | publishing task => cases input <;> exact .idles rfl (Or.inl rfl)
  | confirming task => cases input <;> exact .idles rfl (Or.inl rfl)
  | inferring => cases idle
  | comparing => cases idle
  | inserting => cases idle
  | _ => exact .idles rfl (Or.inl rfl)

theorem exec_turn (input : Input K) (worker : Worker K) :
    Turn codec store (exec config uuids codec input store worker).1 worker
      (exec config uuids codec input store worker).2 (insertion uuids codec worker input store.db) := by
  unfold exec
  split
  · split
    · split <;> exact .idles rfl (Or.inl rfl)
    · exact .idles rfl (Or.inl rfl)
  · exact process_turn config uuids codec store _ _ _ _ rfl
  · exact process_turn config uuids codec store _ _ _ _ rfl
  · exact process_turn config uuids codec store _ _ _ _ rfl
  · next notInferring notComparing notInserting _ =>
      apply request_turn uuids codec store
      cases worker with
      | inferring tag message => exact absurd rfl (notInferring tag message)
      | comparing tag message face model => exact absurd rfl (notComparing tag message face model)
      | inserting tag message face model => exact absurd rfl (notInserting tag message face model)
      | _ => rfl

end Steps

/-- What a worker did not find, only a later insert can have stored. -/
structure Aware (codec : Codec) (archive : Archive K) (enroller : Enroller K) : Prop where
  known : ∀ pair, pending codec enroller.worker = some pair →
    enroller.since ≤ archive.inserted.length
  later : ∀ pair, pending codec enroller.worker = some pair →
    ∀ face ∈ archive.store.db.faceEmbeddings, Stores face pair →
      pair ∈ archive.inserted.drop enroller.since

structure Guarded (codec : Codec) (system : System (Archive K) (Enroller K)) : Prop where
  distinct : OneEach system.store.store.db
  aware : ∀ index, Aware codec system.store (system.procs index)

theorem oneEach_add (before after : Database K) (face : FaceEmbedding K) (pair : Pair)
    (distinct : OneEach before)
    (rows : after.faceEmbeddings.rows = before.faceEmbeddings.rows ++ [face])
    (stores : Stores face pair) (alone : ∀ old ∈ before.faceEmbeddings, ¬ Stores old pair) :
    OneEach after := by
  have split : ∀ row ∈ after.faceEmbeddings, row ∈ before.faceEmbeddings ∨ row = face := by
    intro row member
    have listed : row ∈ before.faceEmbeddings.rows ++ [face] := rows ▸ member
    exact (List.mem_append.mp listed).imp id List.mem_singleton.mp
  intro a first b second owner hash filled
  rcases split a first with oldA | rfl
  · rcases split b second with oldB | rfl
    · exact distinct a oldA b oldB owner hash filled
    · exact absurd ⟨owner.trans stores.1, hash.trans stores.2⟩ (alone a oldA)
  · rcases split b second with oldB | rfl
    · exact absurd ⟨owner.symm.trans stores.1, hash.symm.trans stores.2⟩ (alone b oldB)
    · rfl

theorem oneEach_of_subset (before after : Database K) (distinct : OneEach before)
    (kept : ∀ face ∈ after.faceEmbeddings, face ∈ before.faceEmbeddings) : OneEach after :=
  fun a first b second => distinct a (kept a first) b (kept b second)

theorem stores_unique (face : FaceEmbedding K) (one other : Pair) (first : Stores face one)
    (second : Stores face other) : one = other :=
  Prod.ext (first.1.symm.trans second.1) (Option.some.inj (first.2.symm.trans second.2))

/-- The rows that a step adds are those of the inserts it commits. -/
def Grows (before after : Database K) (inserts : List Pair) : Prop :=
  ∀ face ∈ after.faceEmbeddings, face ∈ before.faceEmbeddings ∨ ∃ pair ∈ inserts, Stores face pair

theorem turn_grows (codec : Codec) (store after : Store K) (worker next : Worker K)
    (inserts : Option Pair) (turn : Turn codec store after worker next inserts) :
    Grows store.db after.db inserts.toList := by
  intro face member
  cases turn with
  | idles same => exact Or.inl (same ▸ member)
  | looked pair same => exact Or.inl (same ▸ member)
  | inserted pair row waits ended stores rows =>
      have listed : face ∈ store.db.faceEmbeddings.rows ++ [row] := rows ▸ member
      rcases List.mem_append.mp listed with old | new
      · exact Or.inl old
      · rw [List.mem_singleton.mp new]
        exact Or.inr ⟨pair, by simp, stores⟩

theorem aware_grows (codec : Codec) (archive : Archive K) (enroller : Enroller K) (after : Store K)
    (inserts : List Pair) (aware : Aware codec archive enroller)
    (grows : Grows archive.store.db after.db inserts) :
    Aware codec ⟨after, archive.inserted ++ inserts⟩ enroller := by
  constructor
  · intro pair waits
    have bound := aware.known pair waits
    simp only [List.length_append]
    omega
  · intro pair waits face member stores
    rw [List.drop_append_of_le_length (aware.known pair waits)]
    rcases grows face member with old | ⟨other, new, same⟩
    · exact List.mem_append_left _ (aware.later pair waits face old stores)
    · rw [stores_unique face pair other stores same]
      exact List.mem_append_right _ new

theorem aware_ended (codec : Codec) (archive : Archive K) (worker : Worker K) (since : Nat)
    (ended : pending codec worker = none) : Aware codec archive ⟨worker, since⟩ := by
  constructor
  all_goals
    intro pair waits
    rw [ended] at waits
    contradiction

theorem aware_looked (codec : Codec) (archive : Archive K) (worker : Worker K) (pair : Pair)
    (waits : pending codec worker = some pair)
    (absent : existsByHash archive.store.db pair.1 pair.2 = false) :
    Aware codec archive ⟨worker, archive.inserted.length⟩ := by
  constructor
  · exact fun _ _ => Nat.le_refl _
  · intro other looksFor face member stores
    rw [Option.some.inj (waits.symm.trans looksFor)] at absent
    exact absurd stores (existsByHash_false _ _ absent face member)

section Runs

variable (config : Config) (uuids : UuidSource) (codec : Codec) (archive : Archive K)
  (enroller : Enroller K) (input : Input K)

theorem enroll_grows :
    Grows archive.store.db (enroll config uuids codec input archive enroller).1.store.db
      (insertion uuids codec enroller.worker input archive.store.db).toList :=
  turn_grows codec _ _ _ _ _ (exec_turn config uuids codec archive.store input enroller.worker)

theorem enroll_aware (aware : Aware codec archive enroller) :
    Aware codec (enroll config uuids codec input archive enroller).1
      (enroll config uuids codec input archive enroller).2 := by
  have goesOn := aware_grows codec archive enroller _ _ aware
    (enroll_grows config uuids codec archive enroller input)
  have turn := exec_turn config uuids codec archive.store input enroller.worker
  unfold enroll at goesOn ⊢
  generalize insertion uuids codec enroller.worker input archive.store.db = inserts at turn goesOn ⊢
  generalize exec config uuids codec input archive.store enroller.worker = next at turn goesOn ⊢
  obtain ⟨after, worker⟩ := next
  cases turn with
  | idles same kept =>
      rcases kept with ended | kept
      · exact aware_ended codec _ _ _ ended
      · cases waits : pending codec enroller.worker with
        | none => exact aware_ended codec _ _ _ (kept.trans waits)
        | some pair =>
            exact ⟨fun other looksFor => goesOn.known other (kept ▸ looksFor),
              fun other looksFor => goesOn.later other (kept ▸ looksFor)⟩
  | looked pair same started waits absent =>
      rw [started]
      apply aware_looked codec _ _ pair waits
      rw [same]
      exact absent
  | inserted pair face waits ended stores rows => exact aware_ended codec _ _ _ ended

theorem enroll_oneEach (distinct : OneEach archive.store.db) (aware : Aware codec archive enroller)
    (undisturbed : ∀ pair, insertion uuids codec enroller.worker input archive.store.db = some pair →
      pair ∉ archive.inserted.drop enroller.since) :
    OneEach (enroll config uuids codec input archive enroller).1.store.db := by
  have turn := exec_turn config uuids codec archive.store input enroller.worker
  unfold enroll
  generalize insertion uuids codec enroller.worker input archive.store.db = inserts
    at turn undisturbed
  generalize exec config uuids codec input archive.store enroller.worker = next at turn ⊢
  obtain ⟨after, worker⟩ := next
  have unchanged : after.db = archive.store.db → OneEach after.db := fun same => same ▸ distinct
  cases turn with
  | idles same => exact unchanged same
  | looked pair same => exact unchanged same
  | inserted pair face waits ended stores rows =>
      apply oneEach_add _ _ face pair distinct rows stores
      intro old member kept
      exact undisturbed pair rfl (aware.later pair waits old member kept)

theorem step_guarded (system : System (Archive K) (Enroller K)) (event : Event (Input K) (Change K))
    (guarded : Guarded codec system) (undisturbed : Undisturbed uuids codec system event) :
    Guarded codec ((enrollers config uuids codec).step system event) := by
  cases event with
  | act index input =>
      refine ⟨enroll_oneEach config uuids codec system.store (system.procs index) input
        guarded.distinct (guarded.aware index) undisturbed, fun other => ?_⟩
      by_cases same : other = index
      · subst same
        rw [step_self]
        exact enroll_aware config uuids codec _ _ input (guarded.aware other)
      · rw [step_other _ _ _ _ _ same]
        exact aware_grows codec _ _ _ _ (guarded.aware other)
          (enroll_grows config uuids codec _ _ input)
  | env change =>
      have kept : ∀ face ∈ (ambient change system.store.store).db.faceEmbeddings,
          face ∈ system.store.store.db.faceEmbeddings := by
        cases change with
        | write db => exact undisturbed
        | _ => exact fun _ member => member
      exact ⟨oneEach_of_subset _ _ guarded.distinct kept, fun index =>
        ⟨(guarded.aware index).known, fun pair waits face member =>
          (guarded.aware index).later pair waits face (kept face member)⟩⟩

end Runs

/-- As long as no insert comes between the look and the insert of another
worker, a student has one embedding of each image. -/
theorem one_embedding_each (config : Config) (uuids : UuidSource) (codec : Codec) (db : Database K)
    (distinct : OneEach db) (events : List (Event (Input K) (Change K)))
    (undisturbed : (enrollers config uuids codec).Along (Undisturbed uuids codec) (opening db)
      events) :
    OneEach ((enrollers config uuids codec).run (opening db) events).store.store.db := by
  have guarded := along_invariant (enrollers config uuids codec) (Undisturbed uuids codec)
    (Guarded codec)
    (fun system event held met => step_guarded config uuids codec system event held met)
    (opening db) events
    ⟨distinct, fun _ => aware_ended codec _ _ _ rfl⟩ undisturbed
  exact guarded.distinct

def portrait : UploadedImage := ⟨[], "image/png", "face.png"⟩

def zeroFace : Except Failure (EmbeddingResult ℤ) :=
  .ok ⟨"buffalo_l", 1, some ⟨List.replicate 512 0, 1⟩⟩

def enrollment (index : Nat) : List (Event (Input ℤ) (Change ℤ)) :=
  [.act index (.enrollFace 1 portrait), .act index (.call {}), .act index (.call {}),
    .act index (.extract zeroFace 0), .act index (.call {})]

set_option maxRecDepth 4000 in
/-- The second enrollment of the image finds the first. -/
theorem one_embedding_each_again :
    OneEach ((enrollers {} UuidSource.counting emptyFileCodec).run (opening school)
      (enrollment 0 ++ enrollment 1)).store.store.db := by
  apply one_embedding_each {} UuidSource.counting emptyFileCodec school
  · intro a member
    cases member
  · have first : ∀ pair : Pair, pair ∉ ([] : List Pair) := fun _ => List.not_mem_nil
    refine ⟨fun pair _ => first pair, fun pair _ => first pair, fun pair _ => first pair,
      fun pair _ => first pair, fun pair _ => first pair, ?_, ?_, ?_, ?_, ?_, trivial⟩
    all_goals
      intro pair committed
      cases committed

/-- Two requests look for the image before either has inserted it. -/
def racing : List (Event (Input ℤ) (Change ℤ)) :=
  [.act 0 (.enrollFace 1 portrait), .act 1 (.enrollFace 1 portrait), .act 0 (.call {}),
    .act 1 (.call {}), .act 0 (.call {}), .act 1 (.call {}), .act 0 (.extract zeroFace 0),
    .act 1 (.extract zeroFace 0), .act 0 (.call {}), .act 1 (.call {})]

def raced : Database ℤ :=
  ((enrollers .least UuidSource.counting emptyFileCodec).run (opening school) racing).store.store.db

def stored (id : Uuid) : FaceEmbedding ℤ :=
  ⟨id, 1, List.replicate 512 0, "buffalo_l", some 1, some (emptyFileCodec.sha256 [])⟩

set_option maxRecDepth 4000 in
/-- Both inserts succeed: the student has two embeddings of the image. -/
theorem embedding_stored_twice : OneEach school ∧ ¬ OneEach raced := by
  constructor
  · intro a member
    cases member
  · intro each
    have rows : raced.faceEmbeddings.rows = [stored 1, stored 2] := rfl
    have same := each (stored 1) (show stored 1 ∈ raced.faceEmbeddings.rows by simp [rows])
      (stored 2) (show stored 2 ∈ raced.faceEmbeddings.rows by simp [rows]) rfl rfl (by simp [stored])
    simp [stored] at same

end FaceVec.Faces

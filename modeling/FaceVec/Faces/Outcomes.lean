import FaceVec.Faces.Safety
import FaceVec.Traces

/-!
What an outcome of a face task stands for: the row that was inserted, the row
that was found, or an answer of the AI service without a usable face.
-/

namespace FaceVec.Faces

open Interleaving

variable {K : Type} (config : Config) (uuids : UuidSource) (codec : Codec) (db : Database K)

/-- In the run, the AI service has answered a delivery of the task with `result`. -/
def Inferred (events : List (Event (Input K) (Change K))) (task : EnrollmentTask)
    (result : EmbeddingResult K) : Prop :=
  ∃ before index draw tag headers,
    before ++ [.act index (.extract (.ok result) draw)] <+: events ∧
      ((machine config uuids codec).run (begin db) before).procs index =
        .inferring tag ⟨task, headers⟩

/-- The row is the face of the answer, for the student and the image of the task. -/
def Fulfils (task : EnrollmentTask) (result : EmbeddingResult K) (row : FaceEmbedding K) : Prop :=
  ∃ face id, usableFace result = .ok face ∧
    row = ⟨id, task.studentId, face.embedding, result.model, some face.det_score,
      some (codec.sha256 (codec.fromBase64 task.image))⟩

/-- A step of the run, taken by a worker that is busy with the task. -/
def Handled (events : List (Event (Input K) (Change K))) (task : EnrollmentTask)
    (holds : Store K → Store K → Prop) : Prop :=
  ∃ before index input tag headers, before ++ [.act index input] <+: events ∧
    working (((machine config uuids codec).run (begin db) before).procs index) =
        some (tag, ⟨task, headers⟩) ∧
      holds ((machine config uuids codec).run (begin db) before).store
        ((machine config uuids codec).run (begin db) (before ++ [.act index input])).store

/-- What has happened in a run that ends a task so. -/
def Concluded (events : List (Event (Input K) (Change K))) (task : EnrollmentTask) :
    Outcome → Prop
  | .stored => ∃ result row, Inferred config uuids codec db events task result ∧
      Fulfils codec task result row ∧
        Handled config uuids codec db events task fun store after =>
          after.db.faceEmbeddings.rows = store.db.faceEmbeddings.rows ++ [row]
  | .alreadyStored => Handled config uuids codec db events task fun store _ =>
      ∃ row ∈ store.db.faceEmbeddings, row.studentId = task.studentId ∧
        row.sourceImageHash = some (codec.sha256 (codec.fromBase64 task.image))
  | .discarded => ∃ result, Inferred config uuids codec db events task result ∧
      ∀ face, usableFace result ≠ .ok face

/-- The face that a worker of the consumer holds on to, and the model it is from. -/
def found : Worker K → Option (EnrollmentTask × DetectedFace K × String)
  | .comparing _ message face model | .inserting _ message face model =>
      some (message.task, face, model)
  | _ => none

section Steps

variable (store : Store K)

/-- What one step does about outcomes and about what the AI service found. -/
inductive Conclusion (store : Store K) (worker : Worker K) (input : Input K) (after : Store K)
    (next : Worker K) : Prop where
  | none : after.outcomes = store.outcomes → found next = .none ∨ found next = found worker →
      Conclusion store worker input after next
  | usable (tag : Nat) (message : TaskMessage) (result : EmbeddingResult K) (draw : Nat)
      (face : DetectedFace K) : worker = .inferring tag message →
      input = .extract (.ok result) draw → usableFace result = .ok face →
      after.outcomes = store.outcomes → found next = some (message.task, face, result.model) →
      Conclusion store worker input after next
  | discarded (tag : Nat) (message : TaskMessage) (result : EmbeddingResult K) (draw : Nat) :
      worker = .inferring tag message → input = .extract (.ok result) draw →
      (∀ face, usableFace result ≠ .ok face) →
      after.outcomes = store.outcomes ++ [(message.task, .discarded)] → found next = .none →
      Conclusion store worker input after next
  | alreadyStored (tag : Nat) (message : TaskMessage) (row : FaceEmbedding K) :
      working worker = some (tag, message) → row ∈ store.db.faceEmbeddings →
      row.studentId = message.task.studentId →
      row.sourceImageHash = some (codec.sha256 (codec.fromBase64 message.task.image)) →
      after.outcomes = store.outcomes ++ [(message.task, .alreadyStored)] → found next = .none →
      Conclusion store worker input after next
  | stored (tag : Nat) (message : TaskMessage) (face : DetectedFace K) (model : String)
      (id : Uuid) : working worker = some (tag, message) →
      found worker = some (message.task, face, model) →
      after.db.faceEmbeddings.rows = store.db.faceEmbeddings.rows ++
        [⟨id, message.task.studentId, face.embedding, model, some face.det_score,
          some (codec.sha256 (codec.fromBase64 message.task.image))⟩] →
      after.outcomes = store.outcomes ++ [(message.task, .stored)] → found next = .none →
      Conclusion store worker input after next

theorem existsByHash_true (studentId : Uuid) (hash : String)
    (exists_ : existsByHash db studentId hash = true) :
    ∃ row ∈ db.faceEmbeddings, row.studentId = studentId ∧ row.sourceImageHash = some hash := by
  obtain ⟨row, member, same⟩ := List.any_eq_true.mp exists_
  simp only [Bool.and_eq_true, beq_iff_eq] at same
  exact ⟨row, member, same⟩

theorem read_value {α : Type} (fate : Fate) (value result : α)
    (heard : read fate value = .ok result) : value = result := by
  unfold read at heard
  split at heard
  · cases heard
  · exact Except.ok.inj heard

theorem inserted_row (studentId : Uuid) (face : DetectedFace K) (model hash : String) (fate : Fate)
    (added : FaceEmbedding K)
    (heard : (transaction (insertEmbedding uuids studentId face model hash) fate.chances
      fate.ending db).1 = .ok added) :
    ∃ id, (transaction (insertEmbedding uuids studentId face model hash) fate.chances
        fate.ending db).2.faceEmbeddings.rows = db.faceEmbeddings.rows ++
      [⟨id, studentId, face.embedding, model, some face.det_score, some hash⟩] := by
  cases whether : commits (insertEmbedding uuids studentId face model hash) fate.chances
      fate.ending db with
  | false =>
      obtain ⟨failure, failed⟩ := transaction_refused _ _ _ _ whether
      rw [failed] at heard
      cases heard
  | true =>
      obtain ⟨row, ⟨id, rfl⟩, rows⟩ := transaction_committed _ _ _ _ _
        (insertEmbedding_inserts uuids studentId face model hash db) whether
      exact ⟨id, rows⟩

theorem process_conclusion (tag : Nat) (message : TaskMessage) (input : Input K)
    (worker : Worker K) (busy : working worker = some (tag, message)) :
    Conclusion codec store worker input
      (process config uuids codec tag message input store worker).1
      (process config uuids codec tag message input store worker).2 := by
  cases worker with
  | inferring _ _ =>
      obtain ⟨rfl, rfl⟩ := Prod.mk.inj (Option.some.inj busy)
      cases input with
      | extract extraction draw =>
          cases extraction with
          | error failure => exact .none rfl (Or.inl rfl)
          | ok result =>
              simp only [process]
              split
              · next nobody =>
                  exact .discarded _ _ result draw rfl rfl (by simp [usableFace, nobody]) rfl rfl
              · next face primary =>
                  split
                  · next short =>
                      exact .discarded _ _ result draw rfl rfl
                        (by simp [usableFace, primary, short]) rfl rfl
                  · next whole =>
                      exact .usable _ _ result draw face rfl rfl
                        (by simp [usableFace, primary, not_not.mp whole]) rfl rfl
      | _ => exact .none rfl (Or.inl rfl)
  | comparing _ _ face model =>
      obtain ⟨rfl, rfl⟩ := Prod.mk.inj (Option.some.inj busy)
      cases input with
      | call fate =>
          simp only [process]
          split
          · exact .none rfl (Or.inl rfl)
          · next heard =>
              obtain ⟨row, member, owner, hash⟩ :=
                existsByHash_true store.db _ _ (read_value _ _ _ heard)
              exact .alreadyStored _ _ row rfl member owner hash rfl rfl
          · exact .none rfl (Or.inr rfl)
      | _ => exact .none rfl (Or.inr rfl)
  | inserting _ _ face model =>
      obtain ⟨rfl, rfl⟩ := Prod.mk.inj (Option.some.inj busy)
      cases input with
      | call fate =>
          simp only [process]
          split
          · exact .none rfl (Or.inl rfl)
          · next added heard =>
              obtain ⟨id, rows⟩ := inserted_row uuids store.db _ _ _ _ _ _ heard
              exact .stored _ _ face model id rfl rfl rows rfl rfl
      | _ => exact .none rfl (Or.inr rfl)
  | _ => cases busy

theorem request_conclusion (input : Input K) (worker : Worker K) :
    Conclusion codec store worker input (request uuids codec input store worker).1
      (request uuids codec input store worker).2 := by
  have quiet : ∀ (after : Store K) (next : Worker K), after.outcomes = store.outcomes →
      found next = none → Conclusion codec store worker input after next :=
    fun after next same nothing => .none same (Or.inl nothing)
  unfold request
  split
  · exact quiet _ _ rfl rfl
  · split <;> exact quiet _ _ rfl rfl
  · split <;> exact quiet _ _ rfl rfl
  · split <;> exact quiet _ _ rfl rfl
  · split <;> exact quiet _ _ rfl rfl
  · dsimp only
    split <;> exact quiet _ _ rfl rfl
  · exact quiet _ _ rfl rfl
  · exact quiet _ _ rfl rfl
  · exact quiet _ _ rfl rfl
  · exact quiet _ _ rfl rfl
  · exact .none rfl (Or.inr rfl)

theorem exec_conclusion (input : Input K) (worker : Worker K) :
    Conclusion codec store worker input (exec config uuids codec input store worker).1
      (exec config uuids codec input store worker).2 := by
  unfold exec
  split
  · split
    · split
      · exact .none rfl (Or.inl rfl)
      · exact .none rfl (Or.inl rfl)
    · exact .none rfl (Or.inl rfl)
  · exact process_conclusion config uuids codec store _ _ _ _ rfl
  · exact process_conclusion config uuids codec store _ _ _ _ rfl
  · exact process_conclusion config uuids codec store _ _ _ _ rfl
  · exact request_conclusion uuids codec store input _

end Steps

section Runs

variable {config uuids codec db} {events : List (Event (Input K) (Change K))}
  {task : EnrollmentTask}

theorem Inferred.later {result : EmbeddingResult K}
    (inferred : Inferred config uuids codec db events task result)
    (rest : List (Event (Input K) (Change K))) :
    Inferred config uuids codec db (events ++ rest) task result := by
  obtain ⟨before, index, draw, tag, headers, front, waits⟩ := inferred
  exact ⟨before, index, draw, tag, headers, front.trans (List.prefix_append _ _), waits⟩

theorem Handled.later {holds : Store K → Store K → Prop}
    (handled : Handled config uuids codec db events task holds)
    (rest : List (Event (Input K) (Change K))) :
    Handled config uuids codec db (events ++ rest) task holds := by
  obtain ⟨before, index, input, tag, headers, front, busy, holds⟩ := handled
  exact ⟨before, index, input, tag, headers, front.trans (List.prefix_append _ _), busy, holds⟩

theorem Concluded.later {outcome : Outcome}
    (concluded : Concluded config uuids codec db events task outcome)
    (rest : List (Event (Input K) (Change K))) :
    Concluded config uuids codec db (events ++ rest) task outcome := by
  cases outcome with
  | stored =>
      obtain ⟨result, row, inferred, fulfils, handled⟩ := concluded
      exact ⟨result, row, inferred.later rest, fulfils, handled.later rest⟩
  | alreadyStored =>
      simp only [Concluded] at concluded ⊢
      exact concluded.later rest
  | discarded =>
      obtain ⟨result, inferred, unusable⟩ := concluded
      exact ⟨result, inferred.later rest, unusable⟩

/-- Every outcome has happened, and what a worker holds is from an answer to its task. -/
structure Told (config : Config) (uuids : UuidSource) (codec : Codec) (db : Database K)
    (events : List (Event (Input K) (Change K))) : Prop where
  outcomes : ∀ entry ∈ ((machine config uuids codec).run (begin db) events).store.outcomes,
    Concluded config uuids codec db events entry.1 entry.2
  faces : ∀ index task face model,
    found (((machine config uuids codec).run (begin db) events).procs index) =
        some (task, face, model) →
      ∃ result, Inferred config uuids codec db events task result ∧
        usableFace result = .ok face ∧ result.model = model

theorem act_told (index : Nat) (input : Input K) (told : Told config uuids codec db events) :
    Told config uuids codec db (events ++ [.act index input]) := by
  have conclusion := exec_conclusion config uuids codec
    ((machine config uuids codec).run (begin db) events).store input
    (((machine config uuids codec).run (begin db) events).procs index)
  have after := run_snoc (machine config uuids codec) (begin db) events (.act index input)
  have store_ : ((machine config uuids codec).run (begin db) (events ++ [.act index input])).store =
      (exec config uuids codec input ((machine config uuids codec).run (begin db) events).store
        (((machine config uuids codec).run (begin db) events).procs index)).1 := by
    rw [after]
    rfl
  rw [← store_] at conclusion
  constructor
  · intro entry member
    have old := fun earlier => (told.outcomes entry earlier).later [.act index input]
    cases conclusion with
    | none same _ => exact old (same ▸ member)
    | usable tag message result draw face _ _ _ same _ => exact old (same ▸ member)
    | discarded tag message result draw waits given unusable same _ =>
        rw [same] at member
        rcases List.mem_append.mp member with earlier | new
        · exact old earlier
        · obtain rfl := List.mem_singleton.mp new
          subst given
          exact ⟨result, ⟨events, index, draw, tag, message.headers, List.prefix_rfl, waits⟩, unusable⟩
    | alreadyStored tag message row busy stored owner hash same _ =>
        rw [same] at member
        rcases List.mem_append.mp member with earlier | new
        · exact old earlier
        · obtain rfl := List.mem_singleton.mp new
          exact ⟨events, index, input, tag, message.headers, List.prefix_rfl, busy, row, stored,
            owner, hash⟩
    | stored tag message face model id busy holding rows same _ =>
        rw [same] at member
        rcases List.mem_append.mp member with earlier | new
        · exact old earlier
        · obtain rfl := List.mem_singleton.mp new
          obtain ⟨result, inferred, usable, rfl⟩ := told.faces index _ _ _ holding
          exact ⟨result, _, inferred.later _, ⟨face, id, usable, rfl⟩, events, index, input, tag,
            message.headers, List.prefix_rfl, busy, rows⟩
  · intro other task face model holding
    have old : found (((machine config uuids codec).run (begin db) events).procs other) =
        some (task, face, model) → ∃ result,
          Inferred config uuids codec db (events ++ [.act index input]) task result ∧
            usableFace result = .ok face ∧ result.model = model := by
      intro earlier
      obtain ⟨result, inferred, usable⟩ := told.faces other task face model earlier
      exact ⟨result, inferred.later _, usable⟩
    rw [after] at holding
    rcases update_cases _ _ _ (found · = some (task, face, model)) _ holding with
      ⟨rfl, now⟩ | ⟨-, before⟩
    · change found (exec config uuids codec input _ _).2 = _ at now
      cases conclusion with
      | none _ kept =>
          rcases kept with nothing | kept
          · rw [nothing] at now
            cases now
          · exact old (kept ▸ now)
      | usable tag message result draw own waits given usable _ holds =>
          rw [holds] at now
          cases now
          subst given
          exact ⟨result, ⟨events, other, draw, tag, message.headers, List.prefix_rfl, waits⟩,
            usable, rfl⟩
      | discarded tag message result draw _ _ _ _ nothing =>
          rw [nothing] at now
          cases now
      | alreadyStored tag message row _ _ _ _ _ nothing =>
          rw [nothing] at now
          cases now
      | stored tag message own model id _ _ _ _ nothing =>
          rw [nothing] at now
          cases now
    · exact old before

theorem run_told (config : Config) (uuids : UuidSource) (codec : Codec) (db : Database K)
    (events : List (Event (Input K) (Change K))) : Told config uuids codec db events := by
  induction events using List.reverseRecOn with
  | nil => exact ⟨nofun, fun _ _ _ _ => nofun⟩
  | append_singleton events event told =>
      cases event with
      | act index input => exact act_told index input told
      | env change =>
          have same : ∀ system : State K,
              ((machine config uuids codec).step system (.env change)).store.outcomes =
                system.store.outcomes := fun system => by cases change <;> rfl
          constructor
          · intro entry member
            rw [run_snoc, same] at member
            exact (told.outcomes entry member).later _
          · intro index task face model holding
            rw [run_snoc] at holding
            obtain ⟨result, inferred, usable⟩ := told.faces index task face model holding
            exact ⟨result, inferred.later _, usable⟩

end Runs

end FaceVec.Faces

import FaceVec.Consumers

/-!
How often the consumers acknowledge a delivery. Never twice; and once, unless
their own `catch` block throws, or what stands before the `try`: the face-task
consumer then met the body `null`, the bulk-import consumer the body `null`,
or one without rows.
-/

namespace FaceVec.Consumers

variable {World K : Type} {α β : Type}

def isAck : Command Queue Outgoing → Bool
  | .ack => true
  | .sendToQueue _ _ => false

def acks (frames : Frames) : Nat := frames.countP isAck

section Runs

theorem bind_run (first : Handling World α) (next : α → Handling World β) (state : World × Frames) :
    (first >>= next) state =
      match first state with
      | (.ok value, after) => next value after
      | (.error failure, after) => (.error failure, after) := by
  simp only [bind, ExceptT.bind, ExceptT.mk, StateT.bind]
  cases first state with
  | mk result after => cases result <;> rfl

theorem catch_run (body : Handling World α) (handler : Failure → Handling World α)
    (state : World × Frames) :
    tryCatch body handler state =
      match body state with
      | (.ok value, after) => (.ok value, after)
      | (.error failure, after) => handler failure after := by
  simp only [tryCatch, tryCatchThe, MonadExceptOf.tryCatch, ExceptT.tryCatch, ExceptT.mk, bind,
    StateT.bind]
  cases body state with
  | mk result after => cases result <;> rfl

theorem pure_run (value : α) (state : World × Frames) :
    (pure value : Handling World α) state = (.ok value, state) := rfl

theorem call_run (calls : Calls World α) (state : World × Frames) :
    call calls state = ((calls state.1).1, ((calls state.1).2, state.2)) := rfl

theorem emit_run (frame : Command Queue Outgoing) (state : World × Frames) :
    emit frame state = (.ok (), (state.1, state.2 ++ [frame])) := rfl

theorem read_run (result : Except Failure α) (state : World × Frames) :
    read result state = (result, state) := rfl

theorem evaluate_bind (failure : Failure) (next : α → Calls World β) (world : World) :
    (evaluate (.error failure) >>= next) world = (.error failure, world) := rfl

theorem acks_ack (frames : Frames) : acks (frames ++ [.ack]) = acks frames + 1 := by
  simp [acks, isAck]

theorem acks_sent (frames : Frames) (queue : Queue) (outgoing : Outgoing) :
    acks (frames ++ [.sendToQueue queue outgoing]) = acks frames := by
  simp [acks, isAck]

end Runs

section Handlers

variable (config : Config) (services : Services World K) (message : Message) (state : World × Frames)

def Adds (handler : Handling World Unit) (count : Nat) (state : World × Frames) : Prop :=
  acks (handler state).2.2 = acks state.2 + count

theorem ack_adds : Adds ack 1 state := acks_ack state.2

theorem handleNotification_adds : Adds (handleNotification services message) 1 state := by
  have tried : ∀ body : Handling World Unit, (body state).2.2 = state.2 →
      Adds (do tryCatch body fun _ => pure (); ack) 1 state := by
    intro body silent
    unfold Adds
    rw [bind_run, catch_run]
    cases ran : body state with
    | mk result after =>
        have same : after.2 = state.2 := by simpa [ran] using silent
        cases result <;> simp only [pure_run, ack, emit_run, acks_ack, same]
  apply tried
  split
  · cases message.body <;> rfl
  · rfl

/-- A task that is not null is acknowledged, whatever becomes of it. -/
theorem handleFaceTask_adds (readable : message.body ≠ some .null) :
    Adds (handleFaceTask config services message) 1 state := by
  unfold Adds handleFaceTask
  cases body : message.body with
  | none => exact ack_adds state
  | some task =>
      have present : Json.nullish (some task) = false := by
        cases task with
        | null => exact absurd body readable
        | _ => rfl
      obtain ⟨jobId, reads⟩ := Json.get_ok (some task) "jobId" present
      dsimp only
      rw [catch_run, bind_run, call_run]
      cases (processTask services task state.1).1 with
      | ok done => exact acks_ack state.2
      | error failure =>
          dsimp only
          rw [bind_run, read_run, reads]
          dsimp only
          split <;> simp only [bind_run, emit_run, ack, acks_ack, acks_sent]

theorem handleFaceTask_null (null : message.body = some .null) :
    Adds (handleFaceTask config services message) 0 state := by
  unfold Adds handleFaceTask
  rw [null]
  rfl

/-- The `try` block of `BulkImportConsumer.handle`. -/
def attempt (jobId courseId rows : Option Json) : Handling World Unit := do
  match ← call (services.findImportJob jobId) with
  | none => ack
  | some status =>
      if status = .COMPLETED ∨ status = .FAILED then ack
      else
        call (processImport services jobId courseId rows)
        ack

/-- There is nothing to do for the job. -/
def Idle (jobId : Option Json) (world : World) : Prop :=
  (services.findImportJob jobId world).1 = .ok none ∨
    ∃ status, (services.findImportJob jobId world).1 = .ok (some status) ∧
      (status = .COMPLETED ∨ status = .FAILED)

/-- The `try` block acknowledges where it ends, and only there. -/
theorem attempt_run (jobId courseId rows : Option Json) :
    (∃ after, attempt services jobId courseId rows state = (.ok (), after) ∧
        acks after.2 = acks state.2 + 1) ∨
      ∃ failure after, attempt services jobId courseId rows state = (.error failure, after) ∧
        after.2 = state.2 := by
  unfold attempt
  rw [bind_run, call_run]
  cases (services.findImportJob jobId state.1).1 with
  | error failure => exact Or.inr ⟨failure, _, rfl, rfl⟩
  | ok found =>
      cases found with
      | none => exact Or.inl ⟨_, rfl, acks_ack state.2⟩
      | some status =>
          dsimp only
          split
          · exact Or.inl ⟨_, rfl, acks_ack state.2⟩
          · rw [bind_run, call_run]
            cases (processImport services jobId courseId rows
              (services.findImportJob jobId state.1).2).1 with
            | error failure => exact Or.inr ⟨failure, _, rfl, rfl⟩
            | ok done => exact Or.inl ⟨_, rfl, acks_ack state.2⟩

theorem attempt_idle (jobId courseId rows : Option Json) (idle : Idle services jobId state.1) :
    ∃ after, attempt services jobId courseId rows state = (.ok (), after) ∧
      acks after.2 = acks state.2 + 1 := by
  unfold attempt
  rw [bind_run, call_run]
  rcases idle with none | ⟨status, found, finished⟩
  · rw [none]
    exact ⟨_, rfl, acks_ack state.2⟩
  · rw [found]
    dsimp only
    rw [if_pos finished]
    exact ⟨_, rfl, acks_ack state.2⟩

/-- Without rows `process` throws at once. -/
theorem attempt_rowless (jobId courseId rows : Option Json) (absent : Json.nullish rows = true)
    (busy : ¬ Idle services jobId state.1) :
    ∃ failure after, attempt services jobId courseId rows state = (.error failure, after) ∧
      after.2 = state.2 := by
  obtain ⟨failure, throws⟩ := Json.get_error rows "length" absent
  unfold attempt
  rw [bind_run, call_run]
  cases found : (services.findImportJob jobId state.1).1 with
  | error failure => exact ⟨failure, _, rfl, rfl⟩
  | ok job =>
      cases job with
      | none => exact absurd (Or.inl found) busy
      | some status =>
          dsimp only
          rw [if_neg fun finished => busy (Or.inr ⟨status, found, finished⟩), bind_run, call_run,
            processImport, throws, evaluate_bind]
          exact ⟨failure, _, rfl, rfl⟩

theorem get_property (payload : Json) (key : String) (readable : payload ≠ .null) :
    Json.get (some payload) key = .ok (payload.property key) := by
  cases payload with
  | null => exact absurd rfl readable
  | _ => rfl

theorem handleBulkImport_run (payload : Json) (body : message.body = some payload)
    (readable : payload ≠ .null) :
    handleBulkImport services message state =
      tryCatch (attempt services (payload.property "jobId") (payload.property "courseId")
          (payload.property "rows"))
        (fun failure => do
          let total ← read (Json.get (payload.property "rows") "length")
          tryCatch (call (markFailed services (payload.property "jobId")
            (payload.property "courseId") total failure)) fun _ => pure ()
          ack) state := by
  unfold handleBulkImport
  rw [body]
  dsimp only
  rw [get_property payload "jobId" readable, get_property payload "courseId" readable,
    get_property payload "rows" readable, bind_run, read_run]
  dsimp only
  rw [bind_run, read_run]
  dsimp only
  rw [bind_run, read_run]
  rfl

theorem handleBulkImport_adds (payload : Json) (body : message.body = some payload)
    (readable : payload ≠ .null)
    (answered : Json.nullish (payload.property "rows") = false ∨
      Idle services (payload.property "jobId") state.1) :
    Adds (handleBulkImport services message) 1 state := by
  unfold Adds
  rw [handleBulkImport_run services message state payload body readable, catch_run]
  rcases answered with present | idle
  · obtain ⟨total, reads⟩ := Json.get_ok (payload.property "rows") "length" present
    rcases attempt_run services state (payload.property "jobId") (payload.property "courseId")
      (payload.property "rows") with ⟨after, ran, counted⟩ | ⟨failure, after, ran, same⟩
    · rw [ran]
      exact counted
    · rw [ran]
      dsimp only
      rw [bind_run, read_run, reads]
      dsimp only
      rw [bind_run, catch_run, call_run]
      cases (markFailed services (payload.property "jobId") (payload.property "courseId") total
        failure after.1).1 <;> simp only [pure_run, ack, emit_run, acks_ack, same]
  · obtain ⟨after, ran, counted⟩ := attempt_idle services state _ (payload.property "courseId")
      (payload.property "rows") idle
    rw [ran]
    exact counted

theorem handleBulkImport_silent (payload : Json) (body : message.body = some payload)
    (readable : payload ≠ .null) (absent : Json.nullish (payload.property "rows") = true)
    (busy : ¬ Idle services (payload.property "jobId") state.1) :
    Adds (handleBulkImport services message) 0 state := by
  obtain ⟨failure, throws⟩ := Json.get_error (payload.property "rows") "length" absent
  obtain ⟨error, after, ran, same⟩ := attempt_rowless services state _
    (payload.property "courseId") _ absent busy
  unfold Adds
  rw [handleBulkImport_run services message state payload body readable, catch_run, ran]
  dsimp only
  rw [bind_run, read_run, throws]
  exact congrArg acks same

theorem handleBulkImport_null (null : message.body = some .null) :
    Adds (handleBulkImport services message) 0 state := by
  unfold Adds handleBulkImport
  rw [null]
  rfl

end Handlers

/-- The body leads no `catch` block to a property of null or undefined. -/
def Answerable (services : Services World K) (message : Message) (world : World) : Consumer → Prop
  | .faceTask => message.body ≠ some .null
  | .bulkImport => ∀ payload, message.body = some payload → payload ≠ .null ∧
      (Json.nullish (payload.property "rows") = false ∨
        Idle services (payload.property "jobId") world)
  | .notifications => True

/-- How often the delivery of a message is acknowledged by its handler. -/
def acknowledgements (config : Config) (services : Services World K) (message : Message)
    (world : World) (consumer : Consumer) : Nat :=
  acks (handle config services message consumer (world, [])).2.2

theorem unanswerable (services : Services World K) (config : Config) (message : Message)
    (world : World) (consumer : Consumer) (not : ¬ Answerable services message world consumer) :
    acknowledgements config services message world consumer = 0 := by
  cases consumer with
  | faceTask => exact handleFaceTask_null config services message _ (not_not.mp not)
  | bulkImport =>
      simp only [Answerable, not_forall] at not
      obtain ⟨payload, body, wrong⟩ := not
      by_cases null : payload = .null
      · exact handleBulkImport_null services message _ (null ▸ body)
      · have neither := not_or.mp fun either => wrong ⟨null, either⟩
        exact handleBulkImport_silent services message _ payload body null
          (Bool.eq_true_of_not_eq_false neither.1) neither.2
  | notifications => exact absurd trivial not

/-- Every delivery is acknowledged once, if a body is answerable; else never. -/
theorem acknowledged_once_iff (config : Config) (services : Services World K) (message : Message)
    (world : World) (consumer : Consumer) :
    acknowledgements config services message world consumer = 1 ↔
      Answerable services message world consumer := by
  constructor
  · intro once
    by_contra not
    rw [unanswerable services config message world consumer not] at once
    exact absurd once Nat.zero_ne_one
  · intro answerable
    cases consumer with
    | faceTask => exact handleFaceTask_adds config services message _ answerable
    | bulkImport =>
        cases body : message.body with
        | none =>
            unfold acknowledgements handle handleBulkImport
            rw [body]
            rfl
        | some payload =>
            obtain ⟨readable, answered⟩ := answerable payload body
            exact handleBulkImport_adds services message _ payload body readable answered
    | notifications => exact handleNotification_adds services message _

/-- Services of which every one fails. -/
def outage : Services Unit Int where
  bufferFrom _ := .error (.other "invalid type")
  sha256 _ := ""
  extractViaBreaker _ _ _ := throw (.aiUnavailable "AI service unreachable")
  existsByHash _ _ := throw (.other "no database")
  insertEmbedding _ _ _ _ := throw (.other "no database")
  findImportJob _ := throw (.other "no database")
  updateImportJob _ _ := throw (.other "no database")
  resolveAndLinkStudent _ _ _ _ := throw (.other "no database")
  publishImportProgress _ := throw (.other "no Redis")
  publishAttendance _ world := world

/-- The body `null` is never acknowledged by two of the consumers, and an import
without rows is not either. -/
theorem never_acknowledged :
    acknowledgements .least outage ⟨some .null, "face.enrollment.requested", 0⟩ () .faceTask = 0 ∧
      acknowledgements .least outage ⟨some .null, "import.bulk.requested", 0⟩ () .bulkImport = 0 ∧
      acknowledgements .least outage ⟨some (.object []), "import.bulk.requested", 0⟩ ()
        .bulkImport = 0 :=
  ⟨rfl, rfl, rfl⟩

end FaceVec.Consumers

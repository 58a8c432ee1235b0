import FaceVec.Import.Accounting

/-!
`BulkImportPanel.tsx` over `useImportProgress` of `lib/ws.ts`: what the panel
shows of one job, from the latest frame it has received and the latest poll
that has been answered. The consumers run on; frames reach the panel in order
and may be missed, and the answers of polls may be slow.
-/

namespace FaceVec.Import

open Interleaving

variable {K : Type}

/-- The status in the JSON of a job. -/
def statusText : ImportJobStatus → String
  | .PENDING => "PENDING"
  | .PROCESSING => "PROCESSING"
  | .COMPLETED => "COMPLETED"
  | .FAILED => "FAILED"

structure Panel where
  progress : Option ImportProgressEvent
  polledJob : Option ImportJob

/-- `progress?.status ?? polledJob?.status ?? 'PENDING'`. -/
def Panel.jobStatus (panel : Panel) : String :=
  match panel.progress with
  | some progress => progress.status
  | none =>
      match panel.polledJob with
      | some job => statusText job.status
      | none => "PENDING"

def Panel.terminal (panel : Panel) : Bool :=
  panel.jobStatus == "COMPLETED" || panel.jobStatus == "FAILED"

/-- A browser that watches a job: the frames and the answers it has received, and
the polls that are not answered yet. `passed` frames can no longer come. -/
structure Screen (K : Type) where
  gateway : Store K
  passed : Nat
  received : List ImportProgressEvent
  inFlight : List ImportJob
  answers : List ImportJob

def Screen.panel (screen : Screen K) : Panel := ⟨screen.received.getLast?, screen.answers.getLast?⟩

inductive Arrival where
  | gateway (change : Change)
  /-- The socket delivers a frame; the frames before it are missed. -/
  | frame (position : Nat)
  /-- The interval fires, and the gateway reads the job row. -/
  | poll
  | answer (position : Nat)

/-- The frame that a delivery brings: one of the job, and not from before the last. -/
def delivered (jobId : Uuid) (screen : Screen K) (position : Nat) : Option ImportProgressEvent :=
  if screen.passed ≤ position then
    (screen.gateway.frames[position]?).filter fun frame => frame.jobId = jobId
  else none

def watch (uuids : UuidSource) (jobId : Uuid) (arrival : Arrival) (screen : Screen K) : Screen K :=
  match arrival with
  | .gateway change => { screen with gateway := ambient uuids change screen.gateway }
  | .frame position =>
      match delivered jobId screen position with
      | none => screen
      | some frame => { screen with passed := position + 1, received := screen.received ++ [frame] }
  | .poll =>
      -- The interval is cleared once the status is terminal.
      if screen.panel.terminal then screen
      else
        match findImportJob screen.gateway.db jobId with
        | none => screen
        | some job => { screen with inFlight := screen.inFlight ++ [job] }
  | .answer position =>
      match screen.inFlight[position]? with
      | none => screen
      | some job =>
          { screen with
            inFlight := screen.inFlight.eraseIdx position
            answers := screen.answers ++ [job] }

def watchMachine (uuids : UuidSource) (jobId : Uuid) : Machine (Screen K) Handler Input Arrival where
  exec input screen handler :=
    let next := exec uuids input screen.gateway handler
    ({ screen with gateway := next.1 }, next.2)
  ambient := watch uuids jobId

/-- The panel opens over any stored state. -/
def opened (db : Database K) (clock : Instant) : System (Screen K) Handler :=
  ⟨⟨⟨db, clock, []⟩, 0, [], [], []⟩, fun _ => .idle⟩

/-- A poll has returned a terminal status. -/
def Answered (screen : Screen K) : Prop := ∃ job ∈ screen.answers, finished job = true

def Shows (screen : Screen K) : Prop := Answered screen → screen.panel.terminal = true

/-- The frame tells that the job goes on. -/
def ofProgress (frame : ImportProgressEvent) : Bool := frame.type == "import.progress"

/-- No stale frame stands before a terminal answer, and nothing stale comes after one. -/
def Current (jobId : Uuid) (system : System (Screen K) Handler) : Event Input Arrival → Prop
  | .env (.frame position) => Answered system.store →
      ∀ frame, delivered jobId system.store position = some frame → ofProgress frame = false
  | .env (.answer position) => ∀ job, system.store.inFlight[position]? = some job →
      finished job = true ∨ Answered system.store →
        match system.store.received.getLast? with
        | some frame => ofProgress frame = false
        | none => finished job = true
  | _ => True

theorem typed_terminal (frame : ImportProgressEvent) (typed : Typed frame)
    (polledJob : Option ImportJob) :
    (Panel.mk (some frame) polledJob).terminal = true ↔ ofProgress frame = false := by
  simp only [Panel.terminal, Panel.jobStatus, ofProgress]
  cases typed with
  | progress type status => simp [type, status]
  | completed type status => simp [type, status]
  | failed type status => simp [type, status]

theorem polled_terminal (job : ImportJob) :
    (Panel.mk none (some job)).terminal = true ↔ finished job = true := by
  simp only [Panel.terminal, Panel.jobStatus, finished]
  cases job.status <;> decide

/-- All frames, sent or received, have a type and its status. -/
def AllTyped (screen : Screen K) : Prop :=
  (∀ frame ∈ screen.gateway.frames, Typed frame) ∧ ∀ frame ∈ screen.received, Typed frame

section Steps

variable (uuids : UuidSource) (jobId : Uuid)

theorem delivered_sent (screen : Screen K) (position : Nat) (frame : ImportProgressEvent)
    (arrives : delivered jobId screen position = some frame) : frame ∈ screen.gateway.frames := by
  unfold delivered at arrives
  split at arrives
  · exact List.mem_of_getElem? (Option.filter_eq_some_iff.mp arrives).1
  · cases arrives

theorem step_typed (system : System (Screen K) Handler) (event : Event Input Arrival)
    (typed : AllTyped system.store) : AllTyped ((watchMachine uuids jobId).step system event).store := by
  cases event with
  | act index input =>
      refine ⟨fun frame member => ?_, typed.2⟩
      change frame ∈ (exec uuids input system.store.gateway (system.procs index)).1.frames at member
      rcases exec_sends uuids input system.store.gateway (system.procs index) with
        same | ⟨event, payload, _, _, shape, sent⟩
      · rw [same] at member
        exact typed.1 frame member
      · rw [sent] at member
        rcases List.mem_append.mp member with before | last
        · exact typed.1 frame before
        · rw [List.mem_singleton.mp last]
          exact shape
  | env arrival =>
      cases arrival with
      | gateway change =>
          have frames : (ambient uuids change system.store.gateway).frames =
              system.store.gateway.frames := by
            cases change <;> rfl
          exact ⟨fun frame member => typed.1 frame (frames ▸ member), typed.2⟩
      | frame position =>
          change AllTyped (watch uuids jobId (.frame position) system.store)
          simp only [watch]
          cases arrives : delivered jobId system.store position with
          | none => exact typed
          | some frame =>
              refine ⟨typed.1, fun other member => ?_⟩
              rcases List.mem_append.mp member with before | last
              · exact typed.2 other before
              · rw [List.mem_singleton.mp last]
                exact typed.1 frame (delivered_sent jobId system.store position frame arrives)
      | poll =>
          change AllTyped (watch uuids jobId .poll system.store)
          simp only [watch]
          split
          · exact typed
          · split <;> exact typed
      | answer position =>
          change AllTyped (watch uuids jobId (.answer position) system.store)
          simp only [watch]
          split <;> exact typed

theorem shows_kept (screen after : Screen K) (received : after.received = screen.received)
    (answers : after.answers = screen.answers) (shows : Shows screen) : Shows after := by
  intro answered
  have before : Answered screen := by rwa [Answered, answers] at answered
  rw [Screen.panel, received, answers]
  exact shows before

theorem frame_shows_iff (screen : Screen K) (position : Nat) (typed : AllTyped screen)
    (shows : Shows screen) :
    Shows (watch uuids jobId (.frame position) screen) ↔ (Answered screen →
      ∀ frame, delivered jobId screen position = some frame → ofProgress frame = false) := by
  simp only [watch]
  cases arrives : delivered jobId screen position with
  | none => exact ⟨fun _ _ _ => nofun, fun _ => shows⟩
  | some frame =>
      have latest : (screen.received ++ [frame]).getLast? = some frame := List.getLast?_concat
      have terminal := typed_terminal frame
        (typed.1 frame (delivered_sent jobId screen position frame arrives)) screen.answers.getLast?
      simp only [Shows, Screen.panel, latest, terminal, Answered]
      constructor
      · rintro current answered _ ⟨⟩
        exact current answered
      · exact fun current answered => current answered frame rfl

theorem answer_shows_iff (screen : Screen K) (position : Nat) (typed : AllTyped screen)
    (shows : Shows screen) :
    Shows (watch uuids jobId (.answer position) screen) ↔
      ∀ job, screen.inFlight[position]? = some job → finished job = true ∨ Answered screen →
        match screen.received.getLast? with
        | some frame => ofProgress frame = false
        | none => finished job = true := by
  simp only [watch]
  cases waits : screen.inFlight[position]? with
  | none => exact ⟨fun _ _ => nofun, fun _ => shows⟩
  | some job =>
      have latest : (screen.answers ++ [job]).getLast? = some job := List.getLast?_concat
      have answered : (∃ old ∈ screen.answers ++ [job], finished old = true) ↔
          finished job = true ∨ Answered screen := by
        simp only [List.mem_append, List.mem_singleton, Answered]
        constructor
        · rintro ⟨old, before | rfl, done⟩
          · exact Or.inr ⟨old, before, done⟩
          · exact Or.inl done
        · rintro (done | ⟨old, before, done⟩)
          · exact ⟨job, Or.inr rfl, done⟩
          · exact ⟨old, Or.inl before, done⟩
      have terminal : (Panel.mk screen.received.getLast? (some job)).terminal = true ↔
          match screen.received.getLast? with
          | some frame => ofProgress frame = false
          | none => finished job = true := by
        cases last : screen.received.getLast? with
        | none => exact polled_terminal job
        | some frame => exact typed_terminal frame (typed.2 frame (List.mem_of_getLast? last)) _
      rw [Shows, Answered, answered, Screen.panel, latest, terminal]
      constructor
      · rintro current _ ⟨⟩
        exact current
      · exact fun current => current job rfl

theorem step_shows_iff (system : System (Screen K) Handler) (event : Event Input Arrival)
    (typed : AllTyped system.store) (shows : Shows system.store) :
    Shows ((watchMachine uuids jobId).step system event).store ↔ Current jobId system event := by
  cases event with
  | act index input => exact ⟨fun _ => trivial, fun _ => shows_kept system.store _ rfl rfl shows⟩
  | env arrival =>
      cases arrival with
      | gateway change => exact ⟨fun _ => trivial, fun _ => shows_kept system.store _ rfl rfl shows⟩
      | frame position => exact frame_shows_iff uuids jobId system.store position typed shows
      | poll =>
          refine ⟨fun _ => trivial, fun _ => ?_⟩
          change Shows (watch uuids jobId .poll system.store)
          simp only [watch]
          split
          · exact shows
          · split
            · exact shows
            · exact shows_kept system.store _ rfl rfl shows
      | answer position => exact answer_shows_iff uuids jobId system.store position typed shows

/-- In every run of the consumers and the panel, the panel shows a terminal
status whenever a poll has returned one, exactly if none of that is preceded or
followed by something stale. -/
theorem panel_terminal_iff (db : Database K) (clock : Instant) (events : List (Event Input Arrival)) :
    (watchMachine uuids jobId).Along
        (fun system event => Shows ((watchMachine uuids jobId).step system event).store)
        (opened db clock) events ↔
      (watchMachine uuids jobId).Along (Current jobId) (opened db clock) events := by
  apply along_iff_of_invariant (watchMachine uuids jobId) _ _ fun system =>
    AllTyped system.store ∧ Shows system.store
  · exact fun system event valid => step_shows_iff uuids jobId system event valid.1 valid.2
  · exact fun system event valid current => ⟨step_typed uuids jobId system event valid.1,
      (step_shows_iff uuids jobId system event valid.1 valid.2).mpr current⟩
  · refine ⟨⟨fun _ member => ?_, fun _ member => ?_⟩, fun answered => ?_⟩
    · exact absurd member List.not_mem_nil
    · exact absurd member List.not_mem_nil
    · obtain ⟨_, member, _⟩ := answered
      exact absurd member List.not_mem_nil

end Steps

/-- A job of one row is imported; the panel receives the progress frame, misses
the frame of the completion, and polls. -/
def missedFrame : List (Event Input Arrival) :=
  [.env (.gateway (.request 2 7 [⟨"s1", some "Ada", none⟩] {})), .act 0 (.deliver 0)] ++
    List.replicate 7 (.act 0 (.proceed {})) ++
    [.env (.frame 0), .env .poll, .env (.answer 0)]

/-- The poll says that the job is completed; the panel goes on showing the frame. -/
theorem panel_stays_processing :
    let reached := (watchMachine UuidSource.counting 1).run (opened freshTerm.db 0) missedFrame
    (∃ job ∈ reached.store.answers, job.status = .COMPLETED) ∧
      reached.store.panel.jobStatus = "PROCESSING" ∧ reached.store.panel.terminal = false := by
  refine ⟨⟨completedJob, ?_, rfl⟩, ?_, ?_⟩ <;> decide

end FaceVec.Import

import FaceVec.Cascades
import FaceVec.Import.Finality

/-!
What the consumer leaves behind when it acknowledges: the job of the message is
gone or finished, unless the update of `markFailed` fails too. Courses may be
deleted at any time, with their jobs; messages of one job are handled one after
the other, as `prefetch(1)` does on one consumer.
-/

namespace FaceVec.Import

open Interleaving

variable {K : Type}

inductive World where
  | own (change : Change)
  | deleteCourse (id : Uuid)

def world (uuids : UuidSource) (change : World) (store : Store K) : Store K :=
  match change with
  | .own change => ambient uuids change store
  | .deleteCourse id => { store with db := deleteCourse id store.db }

def consumers (uuids : UuidSource) : Machine (Store K) Handler Input World where
  exec := exec uuids
  ambient := world uuids

/-- The job no longer exists, or has its final status. -/
def Concluded (db : Database K) (id : Uuid) : Prop :=
  ∀ job ∈ db.importJobs.rows, job.id = id → finished job = true

/-- The step does not start to handle a job that another handler is at, and no
new job has the id of a job that is being handled. -/
def Separate (uuids : UuidSource) (system : System (Store K) Handler) : Event Input World → Prop
  | .act index (.deliver position) =>
      system.procs index = .idle → ∀ request, (importEvents system.store.db)[position]? = some request →
        ∀ other payload, payloadOf (system.procs other) = some payload → payload.jobId ≠ request.1
  | .env change =>
      ∀ job ∈ (world uuids change system.store).db.importJobs, job ∉ system.store.db.importJobs →
        ∀ other payload, payloadOf (system.procs other) = some payload → payload.jobId ≠ job.id
  | _ => True

/-- A message that the step acknowledges leaves its job concluded. -/
def AckConcluded (uuids : UuidSource) (system : System (Store K) Handler) : Event Input World → Prop
  | .act index input =>
      (exec uuids input system.store (system.procs index)).2 = .acked →
        ∀ payload, payloadOf (system.procs index) = some payload →
          Concluded (exec uuids input system.store (system.procs index)).1.db payload.jobId
  | .env _ => True

/-- The update of `markFailed` commits, or has nothing left to conclude. -/
def FailureWritten (system : System (Store K) Handler) : Event Input World → Prop
  | .act index (.proceed fate) =>
      match system.procs index with
      | .failing payload error =>
          commits (updateImportJob payload.jobId (failedData error)) fate.chances fate.ending
              system.store.db = true ∨ Concluded system.store.db payload.jobId
      | _ => True
  | _ => True

/-- The payload of a handler that has seen its job concluded. -/
def closing : Handler → Option Payload
  | .acking payload | .announcingFailed payload _ => some payload
  | .announcingCompleted work => some work.payload
  | _ => none

theorem loop_closing (work : Work) : closing (loop work) = none := by
  unfold loop
  split <;> rfl

theorem boundary_closing (work : Work) : closing (boundary work) = none := by
  unfold boundary
  split
  · rfl
  · exact loop_closing work

theorem closing_payload (handler : Handler) (payload : Payload)
    (closes : closing handler = some payload) : payloadOf handler = some payload := by
  cases handler <;> first | exact closes | cases closes

theorem writing_payload (handler : Handler) (id : Uuid) (writes : writing handler = some id) :
    ∃ payload, payloadOf handler = some payload ∧ payload.jobId = id := by
  cases handler <;> first | exact ⟨_, rfl, Option.some.inj writes⟩ | cases writes

theorem concluded_kept (before after : Database K) (id : Uuid)
    (same : after.importJobs.rows = before.importJobs.rows) (concluded : Concluded before id) :
    Concluded after id := by
  rw [Concluded, same]
  exact concluded

theorem concluded_other (before after : Database K) (id other : Uuid) (data : JobData)
    (rows : after.importJobs.rows = before.importJobs.rows.map (writeJob other data))
    (different : other ≠ id) (concluded : Concluded before id) : Concluded after id := by
  intro job member named
  rw [rows] at member
  obtain ⟨old, stored, rfl⟩ := List.mem_map.mp member
  rw [writeJob_id] at named
  have apart : old.id ≠ other := fun same => different (same.symm.trans named)
  rw [writeJob_other other data old apart]
  exact concluded old stored named

theorem concluded_written (before after : Database K) (id : Uuid) (data : JobData)
    (rows : after.importJobs.rows = before.importJobs.rows.map (writeJob id data))
    (final : data.status = some .COMPLETED ∨ data.status = some .FAILED) : Concluded after id := by
  intro job member named
  rw [rows] at member
  obtain ⟨old, stored, rfl⟩ := List.mem_map.mp member
  rw [writeJob_id] at named
  rw [writeJob_target id data old named]
  rcases final with completed | failed
  · simp [finished, JobData.write, completed]
  · simp [finished, JobData.write, failed]

/-- What one step means for the message: it is worked on, its job is found or
made concluded, or it is let go. -/
inductive Turn (store : Store K) (fate : Fate) : Handler → Store K → Handler → Prop where
  | rests (handler : Handler) : payloadOf handler = none → Turn store fate handler store handler
  | works (handler : Handler) (payload : Payload) (after : Store K) (next : Handler) :
      payloadOf handler = some payload → payloadOf next = some payload → closing next = none →
      Turn store fate handler after next
  | concludes (handler : Handler) (payload : Payload) (after : Store K) (next : Handler) :
      payloadOf handler = some payload → closing next = some payload →
      Concluded after.db payload.jobId → Turn store fate handler after next
  | lets (handler : Handler) (payload : Payload) (after : Store K) (next : Handler) :
      closing handler = some payload → next = .acked ∨ closing next = some payload →
      after.db = store.db → Turn store fate handler after next
  | marks (payload : Payload) (error : String) (after : Store K) (next : Handler) :
      commits (updateImportJob payload.jobId (failedData error)) fate.chances fate.ending
        store.db = true → next = .acked ∨ closing next = some payload →
      Concluded after.db payload.jobId → Turn store fate (.failing payload error) after next
  | loses (payload : Payload) (error : String) :
      commits (updateImportJob payload.jobId (failedData error)) fate.chances fate.ending
        store.db = false → Turn store fate (.failing payload error) store .acked

section Steps

variable (uuids : UuidSource) (store : Store K) (fate : Fate)

/-- The status check lets a message go when its job is gone or finished. -/
theorem read_turn (payload : Payload) :
    Turn store fate (.reading payload) (handle uuids (.reading payload) fate store).1
      (handle uuids (.reading payload) fate store).2 := by
  simp only [handle]
  split
  · exact .works _ payload _ _ rfl rfl rfl
  · split
    · next missing =>
        refine .concludes _ payload _ _ rfl rfl fun job stored named => ?_
        have absent := List.find?_eq_none.mp missing job stored
        simp [named] at absent
    · next found lookup =>
        split
        · next done =>
            refine .concludes _ payload _ _ rfl rfl fun job stored named => ?_
            have same : found.id = payload.jobId := by simpa using List.find?_some lookup
            rwa [job_eq_of_id _ job found stored (List.mem_of_find?_eq_some lookup)
              (named.trans same.symm)]
        · exact .works _ payload _ _ rfl rfl rfl

theorem progress_turn (handler next : Handler) (payload : Payload) (id : Uuid) (data : JobData)
    (owner : payloadOf handler = some payload) (owned : payloadOf next = some payload)
    (open_ : closing next = none) :
    Turn store fate handler (update id data fate store (fun _ => next) (fail payload)).1
      (update id data fate store (fun _ => next) (fail payload)).2 := by
  simp only [update]
  split
  · exact .works _ payload _ _ owner owned open_
  · exact .works _ payload _ _ owner rfl rfl

theorem complete_turn (work : Work) :
    Turn store fate (.completing work) (handle uuids (.completing work) fate store).1
      (handle uuids (.completing work) fate store).2 := by
  rcases update_cases work.payload.jobId (completedData work) fate store
    (fun _ => .announcingCompleted work) (fail work.payload) with
    ⟨_, failure, failed⟩ | ⟨_, rows, _, ⟨job, next⟩ | ⟨failure, failed, _⟩⟩
  · exact .works _ work.payload _ _ rfl (congrArg payloadOf failed) (congrArg closing failed)
  · exact .concludes _ work.payload _ _ rfl (congrArg closing next)
      (concluded_written _ _ _ (completedData work) rows (Or.inl rfl))
  · exact .works _ work.payload _ _ rfl (congrArg payloadOf failed) (congrArg closing failed)

theorem markFailed_turn (payload : Payload) (error : String) :
    Turn store fate (.failing payload error) (handle uuids (.failing payload error) fate store).1
      (handle uuids (.failing payload error) fate store).2 := by
  cases committed : commits (updateImportJob payload.jobId (failedData error)) fate.chances
      fate.ending store.db with
  | true =>
      obtain ⟨job, frame, rows⟩ := transaction_committed _ _ _ _ _
        (updateImportJob_spec payload.jobId (failedData error) store.db) committed
      refine .marks payload error _ _ committed ?_
        (concluded_written _ _ _ (failedData error) rows (Or.inr rfl))
      simp only [handle, update]
      split
      · exact Or.inr rfl
      · exact Or.inl rfl
  | false =>
      obtain ⟨failure, failed⟩ := transaction_refused _ _ _ _ committed
      simp only [handle, update, transaction_aborted _ _ _ _ committed, failed]
      exact .loses payload error committed

theorem handle_turn (handler : Handler) :
    Turn store fate handler (handle uuids handler fate store).1
      (handle uuids handler fate store).2 := by
  cases handler with
  | idle => exact .rests _ rfl
  | acked => exact .rests _ rfl
  | stopped => exact .rests _ rfl
  | reading payload => exact read_turn uuids store fate payload
  | resetting payload =>
      exact progress_turn store fate _ _ payload _ _ rfl (loop_payload _) (loop_closing _)
  | importing work =>
      obtain ⟨payload, handled, remaining, counts, report⟩ := work
      cases remaining with
      | nil => exact .works _ payload _ _ rfl rfl rfl
      | cons row rest =>
          exact .works _ payload _ _ rfl (boundary_payload _) (boundary_closing _)
  | persisting work => exact progress_turn store fate _ _ work.payload _ _ rfl rfl rfl
  | announcing work =>
      simp only [handle, broadcast]
      split
      · exact .works _ work.payload _ _ rfl rfl rfl
      · exact .works _ work.payload _ _ rfl (loop_payload work) (loop_closing work)
  | completing work => exact complete_turn uuids store fate work
  | announcingCompleted work =>
      simp only [handle, broadcast]
      split
      · exact .works _ work.payload _ _ rfl rfl rfl
      · exact .lets _ work.payload _ _ rfl (Or.inr rfl) rfl
  | acking payload =>
      simp only [handle]
      split
      · exact .works _ payload _ _ rfl rfl rfl
      · exact .lets _ payload _ _ rfl (Or.inl rfl) rfl
  | failing payload error => exact markFailed_turn uuids store fate payload error
  | announcingFailed payload processedRows =>
      simp only [handle, broadcast]
      split <;> exact .lets _ payload _ _ rfl (Or.inl rfl) rfl

end Steps

theorem turn_payload (store after : Store K) (fate : Fate) (handler next : Handler)
    (turn : Turn store fate handler after next) (payload : Payload)
    (owner : payloadOf next = some payload) : payloadOf handler = some payload := by
  cases turn with
  | rests => exact owner
  | works _ request _ _ owned kept => rwa [owned, ← kept]
  | concludes _ request _ _ owned closes => rwa [owned, ← closing_payload next request closes]
  | lets _ request _ _ closes goes =>
      rcases goes with rfl | goes
      · cases owner
      · rwa [closing_payload handler request closes, ← closing_payload next request goes]
  | marks request error _ _ committed goes =>
      rcases goes with rfl | goes
      · cases owner
      · rw [closing_payload next request goes] at owner
        exact owner
  | loses => cases owner

theorem turn_closing (store after : Store K) (fate : Fate) (handler next : Handler)
    (turn : Turn store fate handler after next)
    (known : ∀ payload, closing handler = some payload → Concluded store.db payload.jobId)
    (payload : Payload) (closes : closing next = some payload) :
    Concluded after.db payload.jobId := by
  cases turn with
  | rests => exact known payload closes
  | works _ request _ _ owned kept open_ =>
      rw [open_] at closes
      cases closes
  | concludes _ request _ _ owned goes concluded =>
      rw [goes] at closes
      exact Option.some.inj closes ▸ concluded
  | lets _ request _ _ before goes same =>
      rcases goes with rfl | goes
      · cases closes
      · rw [goes] at closes
        rw [same]
        exact known payload (closes ▸ before)
  | marks request error _ _ committed goes concluded =>
      rcases goes with rfl | goes
      · cases closes
      · rw [goes] at closes
        exact Option.some.inj closes ▸ concluded
  | loses => cases closes

/-- A message is let go with its job concluded, unless `markFailed` loses it. -/
theorem turn_acked (store after : Store K) (fate : Fate) (handler : Handler)
    (turn : Turn store fate handler after .acked)
    (known : ∀ payload, closing handler = some payload → Concluded store.db payload.jobId)
    (payload : Payload) (owner : payloadOf handler = some payload) :
    Concluded after.db payload.jobId ∨
      (after = store ∧ ∃ error, handler = .failing payload error ∧
        commits (updateImportJob payload.jobId (failedData error)) fate.chances fate.ending
          store.db = false) := by
  cases turn with
  | rests => cases owner
  | works _ request _ _ owned kept => cases kept
  | concludes _ request _ _ owned goes => cases goes
  | lets _ request _ _ before goes same =>
      rw [closing_payload handler request before] at owner
      rw [same]
      exact Or.inl (known payload (owner ▸ before))
  | marks request error _ _ committed goes concluded =>
      exact Or.inl (Option.some.inj owner ▸ concluded)
  | loses request error lost =>
      obtain rfl := Option.some.inj owner
      exact Or.inr ⟨rfl, error, rfl, lost⟩

/-- Messages are handled one by one for each job, and no message is let go too early. -/
structure OneByOne (system : System (Store K) Handler) : Prop where
  distinct : ∀ one other first second, one ≠ other →
    payloadOf (system.procs one) = some first → payloadOf (system.procs other) = some second →
    first.jobId ≠ second.jobId
  known : ∀ index payload, closing (system.procs index) = some payload →
    Concluded system.store.db payload.jobId

section Runs

variable (uuids : UuidSource)

theorem exec_payload (input : Input) (store : Store K) (handler : Handler) (payload : Payload)
    (owner : payloadOf (exec uuids input store handler).2 = some payload) :
    payloadOf handler = some payload ∨
      ∃ position request, input = .deliver position ∧ handler = .idle ∧
        (importEvents store.db)[position]? = some request ∧ payload.jobId = request.1 := by
  unfold exec at owner
  split at owner
  · next position =>
      split at owner
      · cases owner
      · next request found =>
          exact Or.inr ⟨position, request, rfl, rfl, found, by rw [← Option.some.inj owner]⟩
  · cases owner
  · cases owner
  · next fate _ => exact Or.inl (turn_payload _ _ fate _ _ (handle_turn uuids store fate _) _ owner)
  · exact Or.inl owner

theorem exec_closing (input : Input) (store : Store K) (handler : Handler)
    (known : ∀ payload, closing handler = some payload → Concluded store.db payload.jobId)
    (payload : Payload) (closes : closing (exec uuids input store handler).2 = some payload) :
    Concluded (exec uuids input store handler).1.db payload.jobId := by
  unfold exec at closes ⊢
  split at closes
  · split at closes <;> cases closes
  · cases closes
  · cases closes
  · next fate _ =>
      exact turn_closing _ _ fate _ _ (handle_turn uuids store fate _) known payload closes
  · exact known payload closes

/-- A step touches no job but the one of its own message. -/
theorem exec_elsewhere (input : Input) (store : Store K) (handler : Handler) (id : Uuid)
    (elsewhere : ∀ payload, payloadOf handler = some payload → payload.jobId ≠ id)
    (concluded : Concluded store.db id) : Concluded (exec uuids input store handler).1.db id := by
  rcases (effect_jobs store _ handler _ input (exec_effect uuids store input handler)).2 with
    same | ⟨other, data, writes, rows⟩
  · exact concluded_kept store.db _ id same concluded
  · obtain ⟨payload, owner, rfl⟩ := writing_payload handler other writes
    exact concluded_other store.db _ id _ data rows (elsewhere payload owner) concluded

theorem step_oneByOne (system : System (Store K) Handler) (event : Event Input World)
    (valid : OneByOne system) (separate : Separate uuids system event) :
    OneByOne ((consumers uuids).step system event) := by
  cases event with
  | env change =>
      refine ⟨valid.distinct, fun index payload closes job member named => ?_⟩
      by_cases old : job ∈ system.store.db.importJobs
      · exact valid.known index payload closes job old named
      · exact absurd named.symm
          (separate job member old index payload (closing_payload _ _ closes))
  | act index input =>
      have moved : ∀ other payload, other ≠ index →
          payloadOf (system.procs other) = some payload → ∀ mine,
          payloadOf (exec uuids input system.store (system.procs index)).2 = some mine →
          payload.jobId ≠ mine.jobId := by
        intro other payload elsewhere owner mine owned
        rcases exec_payload uuids input system.store _ mine owned with
          same | ⟨position, request, rfl, idle, found, named⟩
        · exact valid.distinct other index payload mine elsewhere owner same
        · rw [named]
          exact separate idle request found other payload owner
      constructor
      · intro one other first second different owner owned
        by_cases mine : one = index
        · subst mine
          rw [step_self] at owner
          rw [step_other _ _ _ _ _ (Ne.symm different)] at owned
          exact (moved other second (Ne.symm different) owned first owner).symm
        · rw [step_other _ _ _ _ _ mine] at owner
          by_cases yours : other = index
          · subst yours
            rw [step_self] at owned
            exact moved one first mine owner second owned
          · rw [step_other _ _ _ _ _ yours] at owned
            exact valid.distinct one other first second different owner owned
      · intro other payload closes
        by_cases same : other = index
        · subst same
          rw [step_self] at closes
          exact exec_closing uuids input system.store _ (valid.known other) payload closes
        · rw [step_other _ _ _ _ _ same] at closes
          refine exec_elsewhere uuids input system.store _ _ (fun mine owner => ?_)
            (valid.known other payload closes)
          exact valid.distinct index other mine payload (Ne.symm same) owner
            (closing_payload _ _ closes)

/-- A failure update that is lost leaves its job as it was. -/
theorem concludes_written (system : System (Store K) Handler) (event : Event Input World)
    (concludes : AckConcluded uuids system event) : FailureWritten system event := by
  unfold FailureWritten
  split
  · next index fate =>
      split
      · next payload error failing =>
          cases committed : commits (updateImportJob payload.jobId (failedData error))
              fate.chances fate.ending system.store.db with
          | true => exact Or.inl rfl
          | false =>
              obtain ⟨failure, failed⟩ := transaction_refused _ _ _ _ committed
              have lost : exec uuids (.proceed fate) system.store (system.procs index) =
                  (system.store, .acked) := by
                simp [failing, exec, handle, update, transaction_aborted _ _ _ _ committed, failed]
              have settled := concludes (by rw [lost]) payload (by rw [failing]; rfl)
              rw [lost] at settled
              exact Or.inr settled
      · trivial
  · trivial

theorem written_concludes (system : System (Store K) Handler) (event : Event Input World)
    (valid : OneByOne system) (written : FailureWritten system event) :
    AckConcluded uuids system event := by
  cases event with
  | env change => trivial
  | act index input =>
      intro acked payload owner
      cases input with
      | deliver position =>
          cases waits : system.procs index with
          | idle | acked =>
              rw [waits] at owner
              cases owner
          | _ =>
              rw [waits] at acked
              cases acked
      | crash =>
          cases waits : system.procs index with
          | idle =>
              rw [waits] at owner
              cases owner
          | _ =>
              rw [waits] at acked
              cases acked
      | proceed fate =>
          have done : exec uuids (.proceed fate) system.store (system.procs index) =
              handle uuids (system.procs index) fate system.store := by
            cases system.procs index <;> rfl
          rw [done] at acked ⊢
          have turn := handle_turn uuids system.store fate (system.procs index)
          rw [acked] at turn
          -- Only `markFailed` acknowledges without knowing how its update ended.
          rcases turn_acked _ _ fate _ turn (valid.known index) payload owner with
            concluded | ⟨same, error, failing, lost⟩
          · exact concluded
          · simp only [FailureWritten, failing, lost, Bool.false_eq_true, false_or] at written
            rw [same]
            exact written

/-- At every step, exactly a lost failure update strands the job. -/
theorem step_ackConcluded (system : System (Store K) Handler) (event : Event Input World)
    (valid : OneByOne system) :
    AckConcluded uuids system event ↔ FailureWritten system event :=
  ⟨concludes_written uuids system event, written_concludes uuids system event valid⟩

theorem begin_oneByOne (db : Database K) (clock : Instant) :
    OneByOne (begin db clock) where
  distinct _ _ _ _ _ owner := by cases owner
  known _ _ closes := by cases closes

/-- Where messages of one job are handled one by one, every acknowledgement
leaves the job gone or finished exactly if no update of `markFailed` is lost
on an unfinished job. -/
theorem no_import_stranded (db : Database K) (clock : Instant) (events : List (Event Input World))
    (separate : (consumers uuids).Along (Separate uuids) (begin db clock) events) :
    (consumers uuids).Along (AckConcluded uuids) (begin db clock) events ↔
      (consumers uuids).Along FailureWritten (begin db clock) events := by
  apply along_congr
  exact along_of_invariant (consumers uuids) (Separate uuids) OneByOne (step_oneByOne uuids) _
    (fun system event valid _ => step_ackConcluded uuids system event valid) _ events
    (begin_oneByOne db clock) separate

end Runs

/-- The roster is requested, and the status check of its message fails. -/
def failedLookup : List (Event Input World) :=
  [.env (.own (.request 2 7 [⟨"s1", some "Ada", none⟩] {})), .act 0 (.deliver 0),
    .act 0 (.proceed outage)]

theorem failedLookup_separate (rest : List Fate) :
    (consumers UuidSource.counting).Along (Separate UuidSource.counting) (begin freshTerm.db 0)
      (failedLookup ++ rest.map fun fate => .act 0 (.proceed fate)) := by
  have proceeding : ∀ system : System (Store ℤ) Handler,
      (consumers UuidSource.counting).Along (Separate UuidSource.counting) system
        (rest.map fun fate => .act 0 (.proceed fate)) := by
    induction rest with
    | nil => exact fun _ => trivial
    | cons fate others ih => exact fun system => ⟨trivial, ih _⟩
  refine ⟨?_, ?_, trivial, proceeding _⟩
  · intro job member fresh other payload owner
    cases owner
  · intro idle request found other payload owner
    cases owner

theorem no_import_stranded_marked :
    (consumers UuidSource.counting).Along (AckConcluded UuidSource.counting)
      (begin freshTerm.db 0) (failedLookup ++ [.act 0 (.proceed {}), .act 0 (.proceed {})]) := by
  refine (no_import_stranded UuidSource.counting freshTerm.db 0 _
    (failedLookup_separate [{}, {}])).mpr ?_
  exact ⟨trivial, trivial, trivial, Or.inl rfl, trivial, trivial⟩

/-- The outage outlasts the lookup: the job stays pending, and its message is gone. -/
theorem import_stranded :
    ¬ (consumers UuidSource.counting).Along (AckConcluded UuidSource.counting)
      (begin freshTerm.db 0) (failedLookup ++ [.act 0 (.proceed outage)]) := by
  rintro ⟨_, _, _, concludes, _⟩
  have finished := concludes rfl ⟨1, 2, [⟨"s1", some "Ada", none⟩]⟩ rfl
    ⟨1, 2, some 7, .PENDING, 1, 0, none⟩ (by decide) rfl
  contradiction

end FaceVec.Import

import Mathlib.Logic.Function.Iterate
import FaceVec.Import.Redelivery
import FaceVec.Import.Stranding

/-!
What the progress broadcasts of an import do to it. One handling runs on its
own from the status check to the acknowledgement; its rows fare as they may,
and any of its broadcasts may reject. Broadcasts are awaited where an error
leaves `process`, so the first one that rejects ends the import as failed.
-/

namespace FaceVec.Import

open Courses

variable {K : Type}

/-- The `publishImportProgress` calls of one handling. -/
inductive Announcement where
  | progress (processed : Nat)
  | completed
  | failed
  deriving DecidableEq, Repr

/-- What one handling meets: how the transaction of each row fares, and when,
and which broadcasts reject. -/
structure Conditions where
  rowFate : Nat → Fate
  clock : Nat → Instant
  rejects : Announcement → Option Failure

def Conditions.quiet (conditions : Conditions) : Conditions :=
  { conditions with rejects := fun _ => none }

def rejection (failure : Option Failure) : Fate := { chances := [⟨failure, 0⟩] }

def fateOf (conditions : Conditions) : Handler → Fate
  | .importing work => conditions.rowFate work.processed
  | .announcing work => rejection (conditions.rejects (.progress work.processed))
  | .announcingCompleted _ => rejection (conditions.rejects .completed)
  | .announcingFailed _ _ => rejection (conditions.rejects .failed)
  | _ => {}

def clockOf (conditions : Conditions) (now : Instant) : Handler → Instant
  | .importing work => conditions.clock work.processed
  | _ => now

/-- Some broadcast that is due from row `first` on rejects. -/
def Ahead (conditions : Conditions) (payload : Payload) (first : Nat) : Prop :=
  (∃ processed, first ≤ processed ∧ processed ≤ payload.rows.length ∧
    (processed % CHUNK_SIZE = 0 ∨ processed = payload.rows.length) ∧
    (conditions.rejects (.progress processed)).isSome) ∨ (conditions.rejects .completed).isSome

/-- A broadcast that is made before the acknowledgement rejects. -/
def Spoiled (conditions : Conditions) (payload : Payload) : Prop := Ahead conditions payload 1

section Handling

variable (uuids : UuidSource) (conditions : Conditions)

def proceed (state : Store K × Handler) : Store K × Handler :=
  handle uuids state.2 (fateOf conditions state.2)
    { state.1 with clock := clockOf conditions state.1.clock state.2 }

/-- The steps that a handler still takes at most. -/
def stepsLeft : Handler → Nat
  | .reading payload => 3 * payload.rows.length + 7
  | .resetting payload => 3 * payload.rows.length + 6
  | .importing work => 3 * work.remaining.length + 5
  | .persisting work => 3 * work.remaining.length + 7
  | .announcing work => 3 * work.remaining.length + 6
  | .completing _ => 5
  | .announcingCompleted _ => 4
  | .acking _ => 3
  | .failing _ _ => 2
  | .announcingFailed _ _ => 1
  | _ => 0

def handled (payload : Payload) (db : Database K) : Store K × Handler :=
  (proceed uuids conditions)^[stepsLeft (.reading payload)] (⟨db, 0, []⟩, .reading payload)

end Handling

def HasStatus (db : Database K) (id : Uuid) (status : ImportJobStatus) : Prop :=
  ∃ job, findImportJob db id = some job ∧ job.status = status

def Stored (db : Database K) (id : Uuid) : Prop := (findImportJob db id).isSome

def Due (work : Work) : Prop := work.processed % CHUNK_SIZE = 0 ∨ work.processed = work.total

structure Under (payload : Payload) (work : Work) : Prop where
  payload : work.payload = payload
  accounted : Accounted work

/-- Where a handling is, and how it will end: failed if a broadcast rejects. -/
def Verdict (conditions : Conditions) (payload : Payload) (spoiled : Prop) (db : Database K) :
    Handler → Prop
  | .resetting other => other = payload ∧ Stored db payload.jobId ∧
      (spoiled ↔ Ahead conditions payload 1)
  | .importing work => Under payload work ∧ work.remaining ≠ [] ∧ Stored db payload.jobId ∧
      (spoiled ↔ Ahead conditions payload (work.processed + 1))
  | .persisting work | .announcing work => Under payload work ∧ Due work ∧
      Stored db payload.jobId ∧ (spoiled ↔ Ahead conditions payload work.processed)
  | .completing work => Under payload work ∧ Stored db payload.jobId ∧
      (spoiled ↔ (conditions.rejects .completed).isSome)
  | .announcingCompleted work => work.payload = payload ∧ HasStatus db payload.jobId .COMPLETED ∧
      (spoiled ↔ (conditions.rejects .completed).isSome)
  | .acking _ => HasStatus db payload.jobId .COMPLETED ∧ ¬ spoiled
  | .failing other _ => other = payload ∧ Stored db payload.jobId ∧ spoiled
  | .announcingFailed _ _ => HasStatus db payload.jobId .FAILED ∧ spoiled
  | .acked => (spoiled → HasStatus db payload.jobId .FAILED) ∧
      (¬ spoiled → HasStatus db payload.jobId .COMPLETED)
  | _ => False

section Steps

variable (uuids : UuidSource) (conditions : Conditions) (payload : Payload) (spoiled : Prop)

/-- A due broadcast that does not reject is no reason to fail. -/
theorem ahead_after (first : Nat)
    (passed : first % CHUNK_SIZE = 0 ∨ first = payload.rows.length →
      conditions.rejects (.progress first) = none) :
    Ahead conditions payload first ↔ Ahead conditions payload (first + 1) := by
  constructor
  · rintro (⟨processed, from_, within, due, rejects⟩ | last)
    · refine Or.inl ⟨processed, ?_, within, due, rejects⟩
      rcases Nat.eq_or_lt_of_le from_ with rfl | later
      · rw [passed due] at rejects
        cases rejects
      · exact later
    · exact Or.inr last
  · rintro (⟨processed, from_, rest⟩ | last)
    · exact Or.inl ⟨processed, Nat.le_of_succ_le from_, rest⟩
    · exact Or.inr last

theorem ahead_end (first : Nat) (past : payload.rows.length < first) :
    Ahead conditions payload first ↔ (conditions.rejects .completed).isSome = true := by
  constructor
  · rintro (⟨processed, from_, within, _⟩ | last)
    · omega
    · exact last
  · exact Or.inr

theorem under_length (work : Work) (under : Under payload work) :
    work.processed + work.remaining.length = payload.rows.length ∧ work.total = payload.rows.length := by
  have split := congrArg List.length under.accounted.split
  rw [List.length_append, under.payload] at split
  exact ⟨split.symm, congrArg (·.rows.length) under.payload⟩

theorem findImportJob_same (db after : Database K) (id : Uuid)
    (same : after.importJobs = db.importJobs) : findImportJob after id = findImportJob db id := by
  rw [findImportJob, findImportJob, same]

theorem findImportJob_stored (db : Database K) (job : ImportJob) (member : job ∈ db.importJobs.rows) :
    findImportJob db job.id = some job := by
  cases found : findImportJob db job.id with
  | none =>
      have absent := List.find?_eq_none.mp found job member
      simp at absent
  | some other =>
      rw [job_eq_of_id db.importJobs other job (List.mem_of_find?_eq_some found) member
        (by simpa using List.find?_some found)]

theorem found_written (id : Uuid) (data : JobData) (db : Database K) (jobs : Table ImportJob.clash)
    (rows : jobs.rows = db.importJobs.rows.map (writeJob id data)) (job : ImportJob)
    (found : findImportJob db id = some job) :
    findImportJob (withJobs jobs db) id = some (data.write job) := by
  have shape : ∀ list : List ImportJob, (list.map (writeJob id data)).find? (·.id == id) =
      (list.find? (·.id == id)).map data.write := by
    intro list
    induction list with
    | nil => rfl
    | cons head rest ih =>
        rw [List.map_cons, List.find?_cons, List.find?_cons, writeJob_id]
        cases same : head.id == id with
        | true =>
            simp only [Option.map_some, writeJob_target id data head (by simpa using same)]
        | false => exact ih
  have stored : db.importJobs.rows.find? (·.id == id) = some job := found
  have after : (withJobs jobs db).importJobs.rows.find? (·.id == id) =
      some (data.write job) := by
    simp only [withJobs]
    rw [rows, shape, stored]
    rfl
  exact after

theorem update_made (id : Uuid) (data : JobData) (store : Store K) (continues : ImportJob → Handler)
    (fails : Failure → Handler) (stored : Stored store.db id) :
    ∃ job jobs, update id data {} store continues fails =
        ({ store with db := withJobs jobs store.db }, continues job) ∧
      Stored (withJobs jobs store.db) id ∧
      ∀ status, data.status = some status → HasStatus (withJobs jobs store.db) id status := by
  obtain ⟨job, jobs, made, rows⟩ := update_undisturbed id data {} store continues fails
    calm_undisturbed stored
  obtain ⟨old, found⟩ := Option.isSome_iff_exists.mp stored
  have written := found_written id data store.db jobs rows old found
  refine ⟨job, jobs, made, Option.isSome_iff_exists.mpr ⟨_, written⟩, fun status given => ?_⟩
  exact ⟨_, written, by simp [JobData.write, given]⟩

theorem broadcast_rejected (event : ImportProgressEvent) (failure : Option Failure) (store : Store K)
    (next : Handler) (fails : Failure → Handler) :
    ∃ after, broadcast event (rejection failure) store next fails =
        (after, failure.elim next fails) ∧ after.db = store.db := by
  cases failure with
  | none => exact ⟨_, rfl, rfl⟩
  | some failure => exact ⟨_, rfl, rfl⟩

theorem loop_verdict (db : Database K) (work : Work) (under : Under payload work)
    (stored : Stored db payload.jobId)
    (fated : spoiled ↔ Ahead conditions payload (work.processed + 1)) :
    Verdict conditions payload spoiled db (loop work) := by
  obtain ⟨length, _⟩ := under_length payload work under
  unfold loop
  split
  · next done =>
      rw [done, List.length_nil] at length
      exact ⟨under, stored, fated.trans (ahead_end conditions payload _ (by omega))⟩
  · next row rest waits =>
      exact ⟨under, by simp [waits], stored, fated⟩

theorem boundary_verdict (db : Database K) (work : Work) (under : Under payload work)
    (stored : Stored db payload.jobId)
    (fated : spoiled ↔ Ahead conditions payload work.processed) :
    Verdict conditions payload spoiled db (boundary work) := by
  obtain ⟨_, total⟩ := under_length payload work under
  unfold boundary
  split
  · next due => exact ⟨under, due, stored, fated⟩
  · next idle =>
      refine loop_verdict conditions payload spoiled db work under stored (fated.trans ?_)
      exact ahead_after conditions payload _ fun due => absurd (total ▸ due) idle

theorem importing_verdict (work : Work) (store : Store K)
    (verdict : Verdict conditions payload spoiled store.db (.importing work)) :
    ∃ after next, proceed uuids conditions (store, .importing work) = (after, boundary next) ∧
      Verdict conditions payload spoiled after.db (boundary next) ∧
      next.remaining.length < work.remaining.length := by
  obtain ⟨under, more, stored, fated⟩ := verdict
  cases waits : work.remaining with
  | nil => exact absurd waits more
  | cons row rest =>
      refine ⟨_, _, handle_importing uuids work row rest _ _ waits, ?_, Nat.lt_succ_self _⟩
      apply boundary_verdict
      · exact ⟨under.payload, importRow_accounted uuids _ work row rest _ _ under.accounted waits⟩
      · rw [Stored, findImportJob_same _ _ payload.jobId (importRow_jobs uuids _ work row rest _ _).1]
        exact stored
      · have grown : ∀ next : Work, next.handled = work.handled ++ [row] →
            next.processed = work.processed + 1 := by
          intro next same
          simp [Work.processed, same]
        rw [grown _ rfl]
        exact fated

theorem loop_steps (work : Work) : stepsLeft (loop work) ≤ 3 * work.remaining.length + 5 := by
  unfold loop
  split
  · exact Nat.le_add_left _ _
  · exact Nat.le_refl _

theorem boundary_steps (work : Work) : stepsLeft (boundary work) ≤ 3 * work.remaining.length + 7 := by
  unfold boundary
  split
  · exact Nat.le_refl _
  · exact (loop_steps work).trans (Nat.le_add_right _ 2)

/-- An update that `process` goes on from. -/
theorem updating_verdict (data : JobData) (store : Store K) (handler next : Handler)
    (fails : Failure → Handler) (stored : Stored store.db payload.jobId)
    (steps : stepsLeft next < stepsLeft handler)
    (continues : ∀ jobs, Stored (withJobs jobs store.db) payload.jobId →
      (∀ status, data.status = some status →
        HasStatus (withJobs jobs store.db) payload.jobId status) →
      Verdict conditions payload spoiled (withJobs jobs store.db) next) :
    ∃ after, update payload.jobId data {} store (fun _ => next) fails = (after, next) ∧
      Verdict conditions payload spoiled after.db next ∧ stepsLeft next < stepsLeft handler := by
  obtain ⟨_, jobs, made, kept, written⟩ :=
    update_made payload.jobId data store (fun _ => next) fails stored
  exact ⟨_, made, continues jobs kept written, steps⟩

/-- Each step keeps the verdict, and brings the acknowledgement nearer. -/
theorem proceed_verdict (store : Store K) (handler : Handler)
    (verdict : Verdict conditions payload spoiled store.db handler) (running : handler ≠ .acked) :
    ∃ after next, proceed uuids conditions (store, handler) = (after, next) ∧
      Verdict conditions payload spoiled after.db next ∧ stepsLeft next < stepsLeft handler := by
  cases handler with
  | resetting other =>
      obtain ⟨rfl, stored, fated⟩ := verdict
      obtain ⟨after, made, next⟩ := updating_verdict conditions other spoiled resetData store
        (.resetting other) (loop (Work.start other)) (fail other) stored
        ((loop_steps _).trans_lt (Nat.lt_succ_self _)) fun jobs kept _ =>
          loop_verdict conditions other spoiled _ _ ⟨rfl, start_accounted other⟩ kept fated
      exact ⟨after, _, made, next⟩
  | importing work =>
      obtain ⟨after, next, made, kept, fewer⟩ :=
        importing_verdict uuids conditions payload spoiled work store verdict
      refine ⟨after, boundary next, made, kept, (boundary_steps next).trans_lt ?_⟩
      simp only [stepsLeft]
      omega
  | persisting work =>
      obtain ⟨under, due, stored, fated⟩ := verdict
      obtain ⟨after, made, next⟩ := updating_verdict conditions payload spoiled (chunkData work) store
        (.persisting work) (.announcing work) (fail work.payload) stored (Nat.lt_succ_self _)
        fun jobs kept _ => ⟨under, due, kept, fated⟩
      exact ⟨after, _, by rw [← made, ← under.payload]; rfl, next⟩
  | announcing work =>
      obtain ⟨under, due, stored, fated⟩ := verdict
      obtain ⟨_, total⟩ := under_length payload work under
      obtain ⟨after, made, same⟩ := broadcast_rejected (progressEvent work)
        (conditions.rejects (.progress work.processed)) store (loop work) (fail work.payload)
      refine ⟨after, _, made, ?_⟩
      have here : Stored after.db payload.jobId := same ▸ stored
      -- A rejected progress frame is what spoils the job.
      cases rejects : conditions.rejects (.progress work.processed) with
      | none =>
          refine ⟨loop_verdict conditions payload spoiled _ work under here (fated.trans ?_),
            (loop_steps work).trans_lt (Nat.lt_succ_self _)⟩
          exact ahead_after conditions payload _ fun _ => rejects
      | some failure =>
          refine ⟨⟨under.payload, here, fated.mpr (Or.inl ?_)⟩, by simp [stepsLeft, fail]⟩
          refine ⟨work.processed, Nat.le_refl _, ?_, total ▸ due, by simp [rejects]⟩
          exact Nat.le.intro (under_length payload work under).1
  | completing work =>
      obtain ⟨under, stored, fated⟩ := verdict
      obtain ⟨after, made, next⟩ := updating_verdict conditions payload spoiled (completedData work)
        store (.completing work) (.announcingCompleted work) (fail work.payload) stored
        (Nat.lt_succ_self _) fun jobs _ written => ⟨under.payload, written _ rfl, fated⟩
      exact ⟨after, _, by rw [← made, ← under.payload]; rfl, next⟩
  | announcingCompleted work =>
      obtain ⟨same, completed, fated⟩ := verdict
      obtain ⟨after, made, kept⟩ := broadcast_rejected (completedEvent work)
        (conditions.rejects .completed) store (.acking work.payload) (fail work.payload)
      refine ⟨after, _, made, ?_⟩
      cases rejects : conditions.rejects .completed with
      | none => exact ⟨⟨kept ▸ completed, by simp [fated, rejects]⟩, Nat.lt_succ_self _⟩
      | some failure =>
          obtain ⟨job, found, _⟩ := completed
          refine ⟨⟨same, kept ▸ Option.isSome_iff_exists.mpr ⟨job, found⟩, ?_⟩, ?_⟩
          · simp [fated, rejects]
          · exact Nat.lt_add_of_pos_right Nat.two_pos
  | acking other =>
      exact ⟨store, .acked, rfl,
        ⟨fun spoils => absurd spoils verdict.2, fun _ => verdict.1⟩, Nat.succ_pos _⟩
  | failing other error =>
      obtain ⟨rfl, stored, spoils⟩ := verdict
      obtain ⟨job, jobs, made, _, written⟩ := update_made other.jobId (failedData error) store
        (fun job => .announcingFailed other job.processedRows) (fun _ => .acked) stored
      exact ⟨_, _, made, ⟨written _ rfl, spoils⟩, Nat.lt_succ_self _⟩
  | announcingFailed other processedRows =>
      obtain ⟨failed, spoils⟩ := verdict
      obtain ⟨after, made, kept⟩ := broadcast_rejected (failedEvent other processedRows)
        (conditions.rejects .failed) store .acked fun _ => .acked
      have ends : (conditions.rejects .failed).elim Handler.acked (fun _ => .acked) = .acked := by
        cases conditions.rejects .failed <;> rfl
      rw [ends] at made
      exact ⟨after, .acked, made, ⟨fun _ => kept ▸ failed, fun fine => absurd spoils fine⟩,
        Nat.succ_pos _⟩
  | acked => exact absurd rfl running
  | _ => exact verdict.elim

theorem iterate_verdict (count : Nat) (store : Store K) (handler : Handler)
    (verdict : Verdict conditions payload spoiled store.db handler)
    (enough : stepsLeft handler ≤ count) :
    ∃ after, (proceed uuids conditions)^[count] (store, handler) = (after, .acked) ∧
      Verdict conditions payload spoiled after.db .acked := by
  induction count generalizing store handler with
  | zero =>
      by_cases running : handler = .acked
      · exact ⟨store, by rw [running]; rfl, running ▸ verdict⟩
      · obtain ⟨_, _, _, _, fewer⟩ :=
          proceed_verdict uuids conditions payload spoiled store handler verdict running
        omega
  | succ count ih =>
      rw [Function.iterate_succ_apply]
      by_cases running : handler = .acked
      · subst running
        exact ih store .acked verdict (Nat.zero_le _)
      · obtain ⟨after, next, made, kept, fewer⟩ :=
          proceed_verdict uuids conditions payload spoiled store handler verdict running
        rw [made]
        exact ih after next kept (by omega)

/-- Where no broadcast of `process` rejects, the rest of the handling is that of
a quiet one. -/
theorem proceed_quiet (store : Store K) (handler : Handler)
    (verdict : Verdict conditions payload False store.db handler) :
    proceed uuids conditions (store, handler) = proceed uuids conditions.quiet (store, handler) := by
  have accepted : ∀ announcement, ¬ (conditions.rejects announcement).isSome →
      conditions.rejects announcement = none := by
    intro announcement
    cases conditions.rejects announcement <;> simp
  cases handler with
  | announcing work =>
      obtain ⟨under, due, _, fated⟩ := verdict
      obtain ⟨length, total⟩ := under_length payload work under
      have passes : conditions.rejects (.progress work.processed) = none := by
        apply accepted
        intro rejects
        exact fated.mpr (Or.inl ⟨work.processed, Nat.le_refl _, Nat.le.intro length, total ▸ due, rejects⟩)
      simp only [proceed, fateOf, passes]
      rfl
  | announcingCompleted work =>
      simp only [proceed, fateOf, accepted _ fun rejects => verdict.2.2.mpr rejects]
      rfl
  | announcingFailed => exact verdict.2.elim
  | _ => rfl

theorem iterate_quiet (count : Nat) (store : Store K) (handler : Handler)
    (verdict : Verdict conditions payload False store.db handler) :
    (proceed uuids conditions)^[count] (store, handler) =
      (proceed uuids conditions.quiet)^[count] (store, handler) := by
  induction count generalizing store handler with
  | zero => rfl
  | succ count ih =>
      rw [Function.iterate_succ_apply, Function.iterate_succ_apply,
        ← proceed_quiet uuids conditions payload store handler verdict]
      by_cases running : handler = .acked
      · subst running
        exact ih store .acked verdict
      · obtain ⟨after, next, made, kept, _⟩ :=
          proceed_verdict uuids conditions payload False store handler verdict running
        rw [made]
        exact ih after next kept

end Steps

/-- The students, the enrollments and the events agree, and so does the job. -/
def SameImport (id : Uuid) (db other : Database K) : Prop :=
  SameRoster db other ∧ findImportJob db id = findImportJob other id

section Handled

variable (uuids : UuidSource) (conditions : Conditions) (payload : Payload) (db : Database K)

theorem handled_concluded (concluded : Concluded db payload.jobId) :
    handled uuids conditions payload db = (⟨db, 0, []⟩, .acked) := by
  have rests : ∀ count, (proceed uuids conditions)^[count] ((⟨db, 0, []⟩ : Store K), .acked) =
      (⟨db, 0, []⟩, .acked) := fun count => Function.iterate_fixed rfl count
  have first : proceed uuids conditions ((⟨db, 0, []⟩ : Store K), .reading payload) =
      (⟨db, 0, []⟩, .acking payload) := by
    simp only [proceed, fateOf, clockOf, handle, faultOf, List.head?_nil, Option.bind_none]
    cases found : findImportJob db payload.jobId with
    | none => rfl
    | some job =>
        have ended := concluded job (List.mem_of_find?_eq_some found)
          (by simpa using List.find?_some found)
        simp [ended]
  have second : proceed uuids conditions ((⟨db, 0, []⟩ : Store K), .acking payload) =
      (⟨db, 0, []⟩, .acked) := rfl
  unfold handled
  simp only [stepsLeft]
  rw [Function.iterate_succ_apply, first, Function.iterate_succ_apply, second, rests]

theorem handled_taken (busy : ¬ Concluded db payload.jobId) :
    Stored db payload.jobId ∧ handled uuids conditions payload db =
      (proceed uuids conditions)^[stepsLeft (.resetting payload)] (⟨db, 0, []⟩, .resetting payload) := by
  simp only [Concluded, not_forall] at busy
  obtain ⟨job, member, same, unfinished⟩ := busy
  have found : findImportJob db payload.jobId = some job := same ▸ findImportJob_stored db job member
  refine ⟨Option.isSome_iff_exists.mpr ⟨job, found⟩, ?_⟩
  have first : proceed uuids conditions ((⟨db, 0, []⟩ : Store K), .reading payload) =
      (⟨db, 0, []⟩, .resetting payload) := by
    simp [proceed, fateOf, clockOf, handle, faultOf, found, unfinished]
  unfold handled
  simp only [stepsLeft]
  rw [Function.iterate_succ_apply, first]

theorem handled_verdict (busy : ¬ Concluded db payload.jobId) :
    (handled uuids conditions payload db).2 = .acked ∧
      (Spoiled conditions payload →
        HasStatus (handled uuids conditions payload db).1.db payload.jobId .FAILED) ∧
      (¬ Spoiled conditions payload →
        HasStatus (handled uuids conditions payload db).1.db payload.jobId .COMPLETED) := by
  obtain ⟨stored, taken⟩ := handled_taken uuids conditions payload db busy
  obtain ⟨after, ended, verdict⟩ := iterate_verdict uuids conditions payload
    (Spoiled conditions payload) _ ⟨db, 0, []⟩ (.resetting payload) ⟨rfl, stored, Iff.rfl⟩
    (Nat.le_refl _)
  rw [taken, ended]
  exact ⟨rfl, verdict⟩

theorem handled_quiet (busy : ¬ Concluded db payload.jobId) (fine : ¬ Spoiled conditions payload) :
    handled uuids conditions payload db = handled uuids conditions.quiet payload db := by
  obtain ⟨stored, taken⟩ := handled_taken uuids conditions payload db busy
  rw [taken, (handled_taken uuids conditions.quiet payload db busy).2]
  exact iterate_quiet uuids conditions payload _ _ _ ⟨rfl, stored, iff_of_false id fine⟩

theorem handled_acked : (handled uuids conditions payload db).2 = .acked := by
  by_cases busy : Concluded db payload.jobId
  · rw [handled_concluded uuids conditions payload db busy]
  · exact (handled_verdict uuids conditions payload db busy).1

end Handled

theorem quiet_unspoiled (conditions : Conditions) (payload : Payload) :
    ¬ Spoiled conditions.quiet payload := by
  rintro (⟨_, _, _, _, rejects⟩ | rejects) <;> cases rejects

/-- A handling is acknowledged, and leaves what it leaves when no broadcast
rejects, exactly if its job is concluded already or no broadcast before the
acknowledgement rejects. -/
theorem broadcasts_harmless_iff (uuids : UuidSource) (conditions : Conditions) (payload : Payload)
    (db : Database K) :
    (handled uuids conditions payload db).2 = .acked ∧
      (SameImport payload.jobId (handled uuids conditions payload db).1.db
          (handled uuids conditions.quiet payload db).1.db ↔
        Concluded db payload.jobId ∨ ¬ Spoiled conditions payload) := by
  refine ⟨handled_acked uuids conditions payload db, fun same => ?_, fun harmless => ?_⟩
  · by_contra both
    obtain ⟨busy, spoils⟩ := not_or.mp both
    obtain ⟨job, found, failed⟩ :=
      (handled_verdict uuids conditions payload db busy).2.1 (not_not.mp spoils)
    obtain ⟨other, foundOther, completed⟩ :=
      (handled_verdict uuids conditions.quiet payload db busy).2.2 (quiet_unspoiled _ _)
    rw [same.2, foundOther] at found
    rw [Option.some.inj found, failed] at completed
    cases completed
  · suffices alike : handled uuids conditions payload db = handled uuids conditions.quiet payload db by
      rw [alike]
      exact ⟨⟨rfl, rfl, rfl⟩, rfl⟩
    by_cases busy : Concluded db payload.jobId
    · rw [handled_concluded uuids conditions payload db busy,
        handled_concluded uuids conditions.quiet payload db busy]
    · exact handled_quiet uuids conditions payload db busy
        (harmless.resolve_left busy)

/-- Redis drops before the broadcast of the completed job. -/
def dropped : Conditions where
  rowFate _ := {}
  clock _ := 0
  rejects
    | .completed => some (.other "Connection is closed.")
    | _ => none

/-- The finished import is marked failed, and its report is lost. -/
theorem broadcasts_harmful :
    HasStatus (handled UuidSource.counting dropped repeatedNumber requestedTerm).1.db 3 .FAILED ∧
      HasStatus (handled UuidSource.counting dropped.quiet repeatedNumber requestedTerm).1.db 3
        .COMPLETED ∧
      ¬ SameImport 3 (handled UuidSource.counting dropped repeatedNumber requestedTerm).1.db
        (handled UuidSource.counting dropped.quiet repeatedNumber requestedTerm).1.db := by
  have failed : HasStatus (handled UuidSource.counting dropped repeatedNumber requestedTerm).1.db 3
      .FAILED := ⟨_, rfl, rfl⟩
  have completed : HasStatus (handled UuidSource.counting dropped.quiet repeatedNumber
      requestedTerm).1.db 3 .COMPLETED := ⟨_, rfl, rfl⟩
  refine ⟨failed, completed, fun same => ?_⟩
  obtain ⟨job, found, ended⟩ := failed
  obtain ⟨other, foundOther, endedOther⟩ := completed
  rw [same.2, foundOther] at found
  rw [Option.some.inj found, ended] at endedOther
  cases endedOther

end FaceVec.Import

import FaceVec.Courses.Moves

/-!
Concurrent calls of `resolveAndLinkStudent` for one course and one student
converge where nobody is raced: at most one of them makes the link, and its
event is the only one.
-/

namespace FaceVec.Courses

open Interleaving

variable {K : Type}

section Runs

variable (uuids : UuidSource) (now : Instant) (courseId : Uuid) (number : String)
  (base : Database K)

structure Converging (system : State K) : Prop where
  indices : ∀ index, (system.procs index).index = index
  names : ∀ index, Names base number (system.procs index).input
  grounded : Grounded number base system.store
  owners : ∀ owner row, (owner, row) ∈ system.store.opened → Working (system.procs owner).phase
  stands : ∀ index, Stands courseId number system.store (system.procs index)
  linkers : ∀ index, (linkOf (system.procs index).phase).isSome → ¬ Paired courseId number base
  single : ∀ one other, (linkOf (system.procs one).phase).isSome →
    (linkOf (system.procs other).phase).isSome → one = other
  paired : Paired courseId number system.store.db → Paired courseId number base ∨
    ∃ index, (linkOf (system.procs index).phase).isSome
  silent : (∀ index, announcedOf (system.procs index).phase = none) →
    system.store.db.outboxMessages.rows = base.outboxMessages.rows
  announced : ∀ index enrollment, announcedOf (system.procs index).phase = some enrollment →
    ∃ message, Announces courseId enrollment message ∧
      system.store.db.outboxMessages.rows = base.outboxMessages.rows ++ [message]

theorem announced_linked (phase : Phase) (enrollment : CourseEnrollment)
    (said : announcedOf phase = some enrollment) : linkOf phase = some enrollment := by
  cases phase with
  | committing result => exact said
  | done result => exact said
  | _ => cases said

/-- Who has made a link stands on an enrollment of the student. -/
theorem stands_paired (store : Store K) (call : Call) (stands : Stands courseId number store call)
    (linked : (linkOf call.phase).isSome) : Paired courseId number store.db := by
  unfold Stands at stands
  cases begins : call.phase with
  | recording student created enrollment =>
      rw [begins] at stands
      exact ⟨student, enrollment, stands⟩
  | committing result =>
      rw [begins] at stands
      obtain ⟨student, held⟩ := stands
      exact ⟨student, result.enrollment, held⟩
  | done result =>
      rw [begins] at stands
      obtain ⟨student, held⟩ := stands
      exact ⟨student, result.enrollment, held⟩
  | _ =>
      rw [begins] at linked
      cases linked

theorem opening_converging (inputs : Nat → ResolveInput)
    (names : ∀ index, Names base number (inputs index)) :
    Converging courseId number base (opening base inputs) where
  indices _ := rfl
  names := names
  grounded := {
    courses := rfl
    students := fun _ => id
    enrollments := fun _ => id
    joined := fun _ => Or.inl
    settled := fun _ _ entry => absurd entry List.not_mem_nil
    stored := fun _ _ entry => absurd entry List.not_mem_nil }
  owners _ _ entry := by cases entry
  stands _ := trivial
  linkers _ linked := by cases linked
  single _ _ linked := by cases linked
  paired := Or.inl
  silent _ := rfl
  announced _ _ said := by cases said

section Step

variable (system after : State K) (acting : Nat) (next : Store K × Phase)
  (holds : Converging courseId number base system)
  (moves : Move courseId number system.store (system.procs acting) next)
  (store : after.store = next.1)
  (self : after.procs acting = { system.procs acting with phase := next.2 })
  (other : ∀ index, index ≠ acting → after.procs index = system.procs index)

include self other in
/-- What holds of every call before holds of every call after, if the acting one keeps it. -/
theorem calls_after (before then_ : Call → Prop) (held : ∀ index, before (system.procs index))
    (kept : ∀ call, before call → then_ call)
    (acts : then_ { system.procs acting with phase := next.2 }) (index : Nat) :
    then_ (after.procs index) := by
  by_cases same : index = acting
  · rw [same, self]
    exact acts
  · rw [other index same]
    exact kept _ (held index)

include self other in
theorem phases_after {α : Type} (part : Phase → α)
    (same : part next.2 = part (system.procs acting).phase) (index : Nat) :
    part (after.procs index).phase = part (system.procs index).phase := by
  by_cases acts : index = acting
  · rw [acts, self]
    exact same
  · rw [other index acts]

include holds moves self other in
theorem links_after :
    ((∀ index, linkOf (after.procs index).phase = linkOf (system.procs index).phase) ∧
        (Paired courseId number next.1.db → Paired courseId number system.store.db)) ∨
      ((∀ index, (linkOf (after.procs index).phase).isSome ↔ index = acting) ∧
        ¬ Paired courseId number system.store.db) := by
  rcases move_links courseId number _ _ next moves (holds.stands acting) with
    ⟨same, paired⟩ | ⟨-, new, unpaired⟩
  · exact Or.inl ⟨phases_after system after acting next self other linkOf same, paired⟩
  · refine Or.inr ⟨fun index => ?_, unpaired⟩
    by_cases acts : index = acting
    · rw [acts, self]
      exact iff_of_true new rfl
    · rw [other index acts]
      refine iff_of_false (fun linked => unpaired ?_) acts
      exact stands_paired courseId number _ _ (holds.stands index) linked

include holds in
theorem base_paired (paired : Paired courseId number base) :
    Paired courseId number system.store.db := by
  obtain ⟨student, enrollment, named, enrolled⟩ := paired
  exact ⟨student, enrollment, ⟨holds.grounded.students student named.1, named.2⟩,
    holds.grounded.enrollments enrollment enrolled.1, enrolled.2⟩

include holds moves store self other in
theorem announced_after :
    ((∀ index, announcedOf (after.procs index).phase = none) →
        after.store.db.outboxMessages.rows = base.outboxMessages.rows) ∧
      ∀ index enrollment, announcedOf (after.procs index).phase = some enrollment →
        ∃ message, Announces courseId enrollment message ∧
          after.store.db.outboxMessages.rows = base.outboxMessages.rows ++ [message] := by
  rcases move_announces courseId number _ _ next moves (holds.stands acting) with
    ⟨same, kept⟩ | ⟨enrollment, message, silent, linked, said, announces, appended⟩
  · have phases := phases_after system after acting next self other announcedOf same
    rw [store, kept]
    refine ⟨fun none => holds.silent fun index => (phases index).symm.trans (none index), ?_⟩
    intro index enrollment said
    exact holds.announced index enrollment ((phases index).symm.trans said)
  · -- The acting call is the only one with a link, so nothing was announced before.
    have none_before : ∀ index, announcedOf (system.procs index).phase = none := by
      intro index
      rw [Option.eq_none_iff_forall_not_mem]
      intro old before
      have linkedToo := announced_linked _ old before
      have same := holds.single index acting (by rw [linkedToo]; rfl) (by rw [linked]; rfl)
      rw [same, silent] at before
      contradiction
    have here : announcedOf (after.procs acting).phase = some enrollment := by
      rw [self]
      exact said
    refine ⟨fun none => by rw [none acting] at here; contradiction, fun index old before => ?_⟩
    have same : index = acting := by
      by_contra different
      rw [other index different, none_before index] at before
      contradiction
    rw [same, here] at before
    obtain rfl := Option.some.inj before
    exact ⟨message, announces, by rw [store, appended, holds.silent none_before]⟩

include holds moves store self other in
theorem moved_converging : Converging courseId number base after := by
  have extended := move_extends courseId number _ _ next moves
  obtain ⟨silent, announced⟩ := announced_after courseId number base system after acting next holds
    moves store self other
  have grounded := extends_grounded number base _ _ extended holds.grounded
  have links := links_after courseId number base system after acting next holds moves self other
  refine ⟨?_, ?_, by rw [store]; exact grounded, ?_, ?_, ?_, ?_, ?_, silent, announced⟩
  · intro index
    by_cases same : index = acting
    · rw [same, self]
      exact holds.indices acting
    · rw [other index same]
      exact holds.indices index
  · exact calls_after system after acting next self other (fun call => Names base number call.input)
      _ holds.names (fun _ => id) (holds.names acting)
  · intro owner row entry
    rw [store] at entry
    have working := fun row => holds.owners (system.procs acting).index row
    rw [holds.indices acting] at working
    rcases move_owners courseId number _ _ next moves
      (by rw [holds.indices acting]; exact working) owner row entry with
      ⟨different, before⟩ | ⟨acts, works⟩
    · rw [holds.indices acting] at different
      rw [other owner different]
      exact holds.owners owner row before
    · rw [holds.indices acting] at acts
      rw [acts, self]
      exact works
  · rw [store]
    exact calls_after system after acting next self other _ _ holds.stands
      (fun call => extends_stands courseId number call _ _ extended)
      (move_stands courseId number _ _ next moves base holds.grounded (holds.stands acting))
  · intro index linked
    rcases links with ⟨same, _⟩ | ⟨_, unpaired⟩
    · exact holds.linkers index (same index ▸ linked)
    · exact fun paired => unpaired (base_paired courseId number base system holds paired)
  · intro one second first linked
    rcases links with ⟨same, _⟩ | ⟨only, _⟩
    · exact holds.single one second (same one ▸ first) (same second ▸ linked)
    · exact ((only one).mp first).trans ((only second).mp linked).symm
  · intro paired
    rcases links with ⟨same, before⟩ | ⟨only, _⟩
    · rw [store] at paired
      rcases holds.paired (before paired) with start | ⟨index, linked⟩
      · exact Or.inl start
      · exact Or.inr ⟨index, (same index).symm ▸ linked⟩
    · exact Or.inr ⟨acting, (only acting).mpr rfl⟩

end Step

section Unraced

variable (course : (findCourse base courseId).isSome) (system : State K)
  (holds : Converging courseId number base system)

include course holds in
theorem step_moves (acting draw : Nat)
    (unraced : Unraced courseId system (.act acting draw)) :
    Move courseId number system.store (system.procs acting)
      (proceed uuids now courseId draw system.store (system.procs acting).index
        (system.procs acting).input (system.procs acting).phase) := by
  refine proceed_moves uuids now courseId number base system.store (system.procs acting) draw
    holds.grounded (holds.names acting) course (holds.stands acting) ?_ fun begins row entry => ?_
  · rw [holds.indices acting]
    exact unraced
  · have working := holds.owners _ row entry
    rw [holds.indices acting, begins] at working
    exact working

include course holds in
theorem step_converging (event : Event Nat Empty) (unraced : Unraced courseId system event) :
    Converging courseId number base ((calls uuids now courseId).step system event) := by
  cases event with
  | env change => exact change.elim
  | act acting draw =>
      have moves := step_moves uuids now courseId number base course system holds acting draw unraced
      refine moved_converging courseId number base system _ acting _ holds moves rfl ?_ ?_
      · exact step_self _ system acting draw
      · exact fun index different => step_other _ system acting index draw different

end Unraced

/-- How many steps of a call are taken. -/
def steps (index : Nat) : List (Event Nat Empty) → Nat
  | [] => 0
  | .act acting _ :: rest => (if acting = index then 1 else 0) + steps index rest
  | .env _ :: rest => steps index rest

/-- The calls have ended and agree on one student, one link and its event. -/
structure Converged (system : State K) (student : Student) (enrollment : CourseEnrollment) :
    Prop where
  committed : system.store.opened = []
  oneStudent : (system.store.db.students.rows.filter fun row => row.studentNumber == number) = [student]
  oneEnrollment : (system.store.db.courseEnrollments.rows.filter fun row =>
    row.courseId == courseId && row.studentId == student.id) = [enrollment]
  reported : ∀ index result, (system.procs index).phase = .done result →
    result.enrollment = enrollment
  known : Paired courseId number base →
    system.store.db.outboxMessages.rows = base.outboxMessages.rows ∧
      ∀ index result, (system.procs index).phase = .done result → result.alreadyEnrolled = true
  new : ¬ Paired courseId number base →
    (∃ message, Announces courseId enrollment message ∧
      system.store.db.outboxMessages.rows = base.outboxMessages.rows ++ [message]) ∧
    ∃ first result, (system.procs first).phase = .done result ∧ result.alreadyEnrolled = false ∧
      ∀ index other, (system.procs index).phase = .done other → index ≠ first →
        other.alreadyEnrolled = true

section Ends

variable (system : State K) (holds : Converging courseId number base system)
  (ended : ∀ index, (system.procs index).phase = .ready ∨
    ∃ result, (system.procs index).phase = .done result)

include holds ended in
theorem ended_committed : system.store.opened = [] := by
  rw [List.eq_nil_iff_forall_not_mem]
  rintro ⟨owner, row⟩ entry
  have working := holds.owners owner row entry
  rcases ended owner with ready | ⟨result, done⟩
  · rw [ready] at working
    exact working
  · rw [done] at working
    exact working

include ended in
theorem ended_linker (index : Nat) (linked : (linkOf (system.procs index).phase).isSome) :
    ∃ result, (system.procs index).phase = .done result ∧ result.alreadyEnrolled = false := by
  rcases ended index with ready | ⟨result, done⟩
  · rw [ready] at linked
    cases linked
  · refine ⟨result, done, ?_⟩
    cases already : result.alreadyEnrolled with
    | false => rfl
    | true => simp [done, linkOf, already] at linked

theorem done_links (result : ResolveResult) (new : result.alreadyEnrolled = false) :
    linkOf (.done result) = some result.enrollment ∧
      announcedOf (.done result) = some result.enrollment := by
  simp [linkOf, announcedOf, new]

theorem named_alone (db : Database K) (student : Student) (named : Named number db student) :
    (db.students.rows.filter fun row => row.studentNumber == number) = [student] := by
  refine Table.filter_single _ _ student (fun a b first second => ?_) named.1 (by simp [named.2])
  simp only [beq_iff_eq] at first second
  simp [Student.clash, first, second]

theorem enrolled_alone (db : Database K) (student : Student) (enrollment : CourseEnrollment)
    (enrolled : Enrolled courseId db student enrollment) :
    (db.courseEnrollments.rows.filter fun row =>
      row.courseId == courseId && row.studentId == student.id) = [enrollment] := by
  refine Table.filter_single _ _ _ (fun a b first second => ?_) enrolled.1 (by simp [enrolled.2])
  simp only [Bool.and_eq_true, beq_iff_eq] at first second
  simp [CourseEnrollment.clash, first.1, first.2, second.1, second.2]

include holds in
theorem done_reported (student : Student) (enrollment : CourseEnrollment)
    (named : Named number system.store.db student)
    (enrolled : Enrolled courseId system.store.db student enrollment) (index : Nat)
    (result : ResolveResult) (done : (system.procs index).phase = .done result) :
    result.enrollment = enrollment := by
  have standing := holds.stands index
  simp only [Stands, done] at standing
  obtain ⟨same, namedToo, enrolledToo⟩ := standing
  exact enrolled_unique courseId number _ same student _ _ namedToo named enrolledToo enrolled

include holds in
/-- Where the link was there at the start, nobody makes or announces one. -/
theorem paired_silent (start : Paired courseId number base) :
    system.store.db.outboxMessages.rows = base.outboxMessages.rows ∧
      ∀ index result, (system.procs index).phase = .done result →
        result.alreadyEnrolled = true := by
  have unlinked : ∀ index, linkOf (system.procs index).phase = none := by
    intro index
    rw [← Option.not_isSome_iff_eq_none]
    exact fun linked => holds.linkers index linked start
  constructor
  · apply holds.silent
    intro index
    rw [Option.eq_none_iff_forall_not_mem]
    intro enrollment said
    have linked := announced_linked _ enrollment said
    rw [unlinked index] at linked
    contradiction
  · intro index other there
    cases already : other.alreadyEnrolled with
    | true => rfl
    | false =>
        have linked := (done_links other already).1
        rw [← there, unlinked index] at linked
        contradiction

include holds ended in
/-- A link that was not there before has been made and announced by one call, the only one to
say so. -/
theorem unpaired_announced (start : ¬ Paired courseId number base)
    (paired : Paired courseId number system.store.db) (enrollment : CourseEnrollment)
    (reported : ∀ index result, (system.procs index).phase = .done result →
      result.enrollment = enrollment) :
    (∃ message, Announces courseId enrollment message ∧
        system.store.db.outboxMessages.rows = base.outboxMessages.rows ++ [message]) ∧
      ∃ first result, (system.procs first).phase = .done result ∧ result.alreadyEnrolled = false ∧
        ∀ index other, (system.procs index).phase = .done other → index ≠ first →
          other.alreadyEnrolled = true := by
  obtain ⟨first, linked⟩ := (holds.paired paired).resolve_left start
  obtain ⟨report, there, new⟩ := ended_linker system ended first linked
  have said := (done_links report new).2
  rw [← there] at said
  obtain ⟨message, announces, appended⟩ := holds.announced first report.enrollment said
  rw [reported first report there] at announces
  refine ⟨⟨message, announces, appended⟩, first, report, there, new, fun index other ends apart => ?_⟩
  cases already : other.alreadyEnrolled with
  | true => rfl
  | false =>
      have linkedToo : (linkOf (system.procs index).phase).isSome := by
        rw [ends, (done_links other already).1]
        rfl
      exact absurd (holds.single index first linkedToo linked) apart

include holds ended in
theorem ended_converged (last : Nat) (result : ResolveResult)
    (done : (system.procs last).phase = .done result) :
    ∃ student enrollment, Converged courseId number base system student enrollment := by
  have stands := holds.stands last
  simp only [Stands, done] at stands
  obtain ⟨student, named, enrolled⟩ := stands
  have reported := done_reported courseId number base system holds student result.enrollment named
    enrolled
  refine ⟨student, result.enrollment, ?_⟩
  constructor
  · exact ended_committed courseId number base system holds ended
  · exact named_alone number _ student named
  · exact enrolled_alone courseId _ student result.enrollment enrolled
  · exact reported
  · exact paired_silent courseId number base system holds
  · exact fun start => unpaired_announced courseId number base system holds ended start
      ⟨student, result.enrollment, named, enrolled⟩ result.enrollment reported

end Ends

section Convergence

variable (inputs : Nat → ResolveInput) (events : List (Event Nat Empty))

theorem ended_iff_rank (phase : Phase) : Ended phase ↔ rank phase = 0 := by
  cases phase <;> simp [Ended, rank]

theorem rank_le (phase : Phase) : rank phase ≤ 6 := by
  cases phase <;> simp [rank]

theorem run_rank (index : Nat) (course : (findCourse base courseId).isSome) (system : State K)
    (holds : Converging courseId number base system)
    (unraced : (calls uuids now courseId).Along (Unraced courseId) system events)
    (unblocked : (calls uuids now courseId).Along (Unblocked courseId index) system events) :
    Ended (((calls uuids now courseId).run system events).procs index).phase ∨
      rank (((calls uuids now courseId).run system events).procs index).phase + steps index events ≤
        rank (system.procs index).phase := by
  induction events generalizing system with
  | nil => exact Or.inr (Nat.le_refl _)
  | cons event rest ih =>
      have next := step_converging uuids now courseId number base course system holds event unraced.1
      have later := ih _ next unraced.2 unblocked.2
      cases event with
      | env change => exact change.elim
      | act acting draw =>
          rw [Machine.run]
          rcases later with ended | nearer
          · exact Or.inl ended
          by_cases same : acting = index
          · subst same
            have moves := step_moves uuids now courseId number base course system holds acting draw
              unraced.1
            rw [step_self] at nearer
            simp only [steps, if_pos]
            rcases move_rank courseId number _ _ _ moves (unblocked.1 rfl) with ended | less
            · left
              rw [ended_iff_rank] at ended ⊢
              have spent : rank ((calls uuids now courseId).exec draw system.store
                (system.procs acting)).2.phase = 0 := ended
              omega
            · right
              have less : rank ((calls uuids now courseId).exec draw system.store
                (system.procs acting)).2.phase < rank (system.procs acting).phase := less
              omega
          · right
            rw [step_other _ _ _ _ _ (Ne.symm same)] at nearer
            simpa [steps, same] using nearer

theorem run_inputs (index : Nat) :
    (((calls uuids now courseId).run (opening base inputs) events).procs index).input =
      inputs index := by
  apply run_invariant (calls uuids now courseId) fun system : State K =>
    (system.procs index).input = inputs index
  · intro system event held
    cases event with
    | env change => exact change.elim
    | act acting draw =>
        by_cases same : index = acting
        · subst same
          rw [step_self]
          exact held
        · rw [step_other _ _ _ _ _ same]
          exact held
  · rfl

section Unraced

variable (course : (findCourse base courseId).isSome)
  (names : ∀ index, Names base number (inputs index))
  (unraced : (calls uuids now courseId).Along (Unraced courseId) (opening base inputs) events)

include course names unraced

theorem run_converging : Converging courseId number base
    ((calls uuids now courseId).run (opening base inputs) events) :=
  along_invariant (calls uuids now courseId) _ _
    (fun system event held meets =>
      step_converging uuids now courseId number base course system held event meets)
    (opening base inputs) events (opening_converging courseId number base inputs names) unraced

theorem run_refused (index : Nat) (failure : Failure)
    (failed : (((calls uuids now courseId).run (opening base inputs) events).procs index).phase =
      .failed failure) :
    failure = emailConflict ∧ ∃ other, Owns number
      ((calls uuids now courseId).run (opening base inputs) events).store.db (inputs index) other := by
  have stands := (run_converging uuids now courseId number base inputs events course names
    unraced).stands index
  simp only [Stands, failed, run_inputs] at stands
  exact stands

/-- An e-mail that no other student has cannot be refused. -/
theorem run_accepted (unowned : ∀ index other, ¬ Owns number base (inputs index) other) (index : Nat)
    (failure : Failure) :
    (((calls uuids now courseId).run (opening base inputs) events).procs index).phase ≠
      .failed failure := by
  intro failed
  obtain ⟨-, other, member, different, given, same⟩ :=
    run_refused uuids now courseId number base inputs events course names unraced index failure failed
  have holds := run_converging uuids now courseId number base inputs events course names unraced
  rcases holds.grounded.joined other member with old | new
  · exact unowned index other ⟨old, different, given, same⟩
  · exact different new

theorem run_ended (index : Nat)
    (unblocked : (calls uuids now courseId).Along (Unblocked courseId index) (opening base inputs)
      events)
    (enough : 6 ≤ steps index events) :
    Ended (((calls uuids now courseId).run (opening base inputs) events).procs index).phase := by
  rcases run_rank uuids now courseId number base events index course (opening base inputs)
    (opening_converging courseId number base inputs names) unraced unblocked with ended | counted
  · exact ended
  · have start := rank_le ((opening base inputs).procs index).phase
    rw [ended_iff_rank]
    omega

end Unraced

/-- Calls for one course and one student converge, as long as what a call is
about to insert has not been committed since it looked. -/
theorem enrolments_converge (course : (findCourse base courseId).isSome)
    (names : ∀ index, Names base number (inputs index))
    (unraced : (calls uuids now courseId).Along (Unraced courseId) (opening base inputs) events) :
    (∀ index failure,
      (((calls uuids now courseId).run (opening base inputs) events).procs index).phase =
        .failed failure →
      failure = emailConflict ∧ ∃ other, Owns number
        ((calls uuids now courseId).run (opening base inputs) events).store.db (inputs index) other) ∧
    ((∀ index other, ¬ Owns number base (inputs index) other) →
      (∀ index failure,
        (((calls uuids now courseId).run (opening base inputs) events).procs index).phase ≠
          .failed failure) ∧
      (∀ index, (calls uuids now courseId).Along (Unblocked courseId index) (opening base inputs)
        events → 6 ≤ steps index events → ∃ result,
          (((calls uuids now courseId).run (opening base inputs) events).procs index).phase =
            .done result) ∧
      ((∀ index,
        (((calls uuids now courseId).run (opening base inputs) events).procs index).phase = .ready ∨
          ∃ result, (((calls uuids now courseId).run (opening base inputs) events).procs index).phase =
            .done result) →
        ∀ last result,
          (((calls uuids now courseId).run (opening base inputs) events).procs last).phase =
            .done result →
          ∃ student enrollment, Converged courseId number base
            ((calls uuids now courseId).run (opening base inputs) events) student enrollment)) := by
  have accepted := run_accepted uuids now courseId number base inputs events course names unraced
  refine ⟨run_refused uuids now courseId number base inputs events course names unraced,
    fun unowned => ⟨accepted unowned, fun index unblocked enough => ?_,
      fun ended last result done => ?_⟩⟩
  · have ended := run_ended uuids now courseId number base inputs events course names unraced index
      unblocked enough
    cases reached : (((calls uuids now courseId).run (opening base inputs) events).procs index).phase with
    | done result => exact ⟨result, rfl⟩
    | failed failure => exact absurd reached (accepted unowned index failure)
    | _ =>
        rw [reached] at ended
        exact ended.elim
  · exact ended_converged courseId number base _
      (run_converging uuids now courseId number base inputs events course names unraced) ended last
      result done

/-- One course and no students. -/
def firstTerm : Database ℤ where
  students := Table.empty
  faceEmbeddings := Table.empty
  courses := .single ⟨2, "C", "Course", 7⟩
  courseEnrollments := Table.empty
  importJobs := Table.empty
  attendanceSessions := Table.empty
  attendanceRecords := Table.empty
  outboxMessages := Table.empty

/-- A new student without an e-mail. -/
def newcomer : ResolveInput := ⟨none, some "s1", some "Ada", none⟩

/-- One call after the other. -/
def inTurn : List (Event Nat Empty) :=
  (List.replicate 6 0 ++ List.replicate 3 1).map fun index => .act index 0

/-- Both calls look for the number before one of them creates the student. -/
def crossed : List (Event Nat Empty) :=
  ([0, 1] ++ List.replicate 5 0 ++ [1]).map fun index => .act index 0

theorem newcomer_names : Names firstTerm "s1" newcomer :=
  .byNumber newcomer rfl rfl (by decide) (by decide)

/-- The loser is told of an e-mail, and no student has one. -/
theorem enrolments_race : (findCourse firstTerm 2).isSome ∧ Names firstTerm "s1" newcomer ∧
    (∀ other, ¬ Owns "s1" firstTerm newcomer other) ∧
    (((calls UuidSource.counting 0 2).run (opening firstTerm fun _ => newcomer) crossed).procs
      1).phase = .failed emailConflict ∧
    ∀ student ∈ ((calls UuidSource.counting 0 2).run (opening firstTerm fun _ => newcomer)
      crossed).store.db.students.rows, student.email = none := by
  refine ⟨rfl, newcomer_names, fun other owned => List.not_mem_nil owned.1, rfl, ?_⟩
  intro student member
  obtain rfl : student = ⟨1, "s1", "Ada", none, none⟩ := List.mem_singleton.mp member
  rfl

theorem enrolments_converge_inTurn : ∃ student enrollment, Converged 2 "s1" firstTerm
    ((calls UuidSource.counting 0 2).run (opening firstTerm fun _ => newcomer) inTurn)
    student enrollment := by
  have converge := enrolments_converge UuidSource.counting 0 2 "s1" firstTerm (fun _ => newcomer)
    inTurn rfl (fun _ => newcomer_names) (by decide)
  refine (converge.2 fun _ other owned => List.not_mem_nil owned.1).2.2 (fun index => ?_) 0 _ rfl
  match index with
  | 0 => exact Or.inr ⟨_, rfl⟩
  | 1 => exact Or.inr ⟨_, rfl⟩
  | index + 2 =>
      left
      rw [run_absent]
      · rfl
      · intro draw member
        simp [inTurn] at member

end Convergence

end Runs

end FaceVec.Courses

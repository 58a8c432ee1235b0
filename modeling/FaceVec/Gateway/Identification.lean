import FaceVec.Faces.Similarity
import FaceVec.Gateway

/-!
One call of `identifyAndRecord` against the domain's matching rule: who is
recorded after the search of the database, and whom `isMatch` accepts on the
largest `cosineSimilarity` of the roster. The search cannot compare vectors of
different dimensions; the domain function throws on them.
-/

namespace FaceVec.Gateway

open Interleaving Attendance Faces

/-- `s` is the largest similarity between the query and a face of the roster. -/
def Largest (db : Database ℝ) (courseId : Uuid) (query : List ℝ) (s : ℝ) : Prop :=
  (∃ pair ∈ rosterFaces db courseId, cosineSimilarity pair.1.embedding query = .ok s) ∧
    ∀ pair ∈ rosterFaces db courseId,
      ∃ other, cosineSimilarity pair.1.embedding query = .ok other ∧ other ≤ s

/-- The student has been recorded as recognised, and the event about it stored. -/
def RecordsFace (db after : Database ℝ) (session : AttendanceSession) (studentId : Uuid) : Prop :=
  ∃ record, Recorded db after session studentId record ∧ record.status = .PRESENT ∧
    record.method = .FACE

/-- The domain's rule about what an identification leaves. -/
structure FollowsRule (threshold : ℝ) (db after : Database ℝ) (session : AttendanceSession)
    (query : List ℝ) : Prop where
  recorded : (∃ studentId, RecordsFace db after session studentId) ↔
    ∃ s, Largest db session.courseId query s ∧ isMatch s threshold
  owner : ∀ studentId, RecordsFace db after session studentId →
    ∃ s, Largest db session.courseId query s ∧ ∃ pair ∈ rosterFaces db session.courseId,
      pair.2.id = studentId ∧ cosineSimilarity pair.1.embedding query = .ok s
  otherwise : (¬ ∃ s, Largest db session.courseId query s ∧ isMatch s threshold) →
    after.attendanceRecords = db.attendanceRecords ∧ after.outboxMessages = db.outboxMessages

def Comparable (db : Database ℝ) (courseId : Uuid) (query : List ℝ) : Prop :=
  ∀ pair ∈ rosterFaces db courseId, pair.1.embedding.length = query.length

/-- The inputs on which the search and the rule differ: no similarity is defined
and the threshold is positive, or the threshold is zero and every face with a
similarity looks away from the query, while another face is the zero vector. -/
def Misjudged (threshold : ℝ) (db : Database ℝ) (courseId : Uuid) (query : List ℝ) : Prop :=
  Comparable db courseId query ∧
    ((0 < threshold ∧ rosterFaces db courseId ≠ [] ∧
        (IsZero query ∨ ∀ pair ∈ rosterFaces db courseId, IsZero pair.1.embedding)) ∨
      (threshold = 0 ∧ ¬ IsZero query ∧
        (∃ pair ∈ rosterFaces db courseId, IsZero pair.1.embedding) ∧
        (∃ pair ∈ rosterFaces db courseId, ¬ IsZero pair.1.embedding) ∧
        ∀ pair ∈ rosterFaces db courseId, ¬ IsZero pair.1.embedding →
          dotOf pair.1.embedding query < 0))

/-- What the database can answer the search with. -/
def Answers (vision : Vision ℝ) (db : Database ℝ) (courseId : Uuid) (query : List ℝ) :
    Input ℝ → Prop
  | .search chosen => Comparable db courseId query ∧
      (searchNearestInCourse vision db courseId query chosen).isSome
  -- "different vector dimensions"
  | .fail _ => ¬ Comparable db courseId query
  | _ => False

/-- Whom the call goes on to record. -/
noncomputable def recognised (vision : Vision ℝ) (threshold : ℝ) (db : Database ℝ) (courseId : Uuid)
    (query : List ℝ) : Input ℝ → Option (NearestMatch ℝ)
  | .search chosen =>
      (searchNearestInCourse vision db courseId query chosen).bind (aboveThreshold threshold)
  | _ => none

structure Agrees (threshold : ℝ) (db : Database ℝ) (courseId : Uuid) (query : List ℝ)
    (verdict : Option Uuid) : Prop where
  matched : verdict.isSome ↔ ∃ s, Largest db courseId query s ∧ isMatch s threshold
  owner : ∀ studentId, verdict = some studentId →
    ∃ s, Largest db courseId query s ∧ ∃ pair ∈ rosterFaces db courseId,
      pair.2.id = studentId ∧ cosineSimilarity pair.1.embedding query = .ok s

section Recording

variable (uuids : UuidSource) (now : Instant)

theorem identifyTx_records (session : AttendanceSession) (best : NearestMatch ℝ) (fate : Fate)
    (db : Database ℝ) (calm : Calm fate.chances) (commit : fate.ending = .commits)
    (stored : findSession db session.id ≠ none) (enrolled : findStudent db best.studentId ≠ none) :
    RecordsFace db
      (transaction (identifyTx uuids now session best) fate.chances fate.ending db).2
      session best.studentId := by
  have committed : commits (identifyTx uuids now session best) fate.chances fate.ending db = true := by
    by_contra aborted
    rw [Bool.not_eq_true, commit] at aborted
    rcases transaction_fails _ _ _ _
      (recordAttendance_fails uuids now session best.studentId _ db) calm aborted with missing | missing
    · exact stored missing
    · exact enrolled missing
  exact transaction_committed _ _ _ _ _
    (recordAttendance_columns uuids now session best.studentId _ db) committed

end Recording

theorem recorded_once {K : Type} (db after : Database K) (session : AttendanceSession)
    (studentId other : Uuid) (record second : AttendanceRecord K)
    (first : Recorded db after session studentId record)
    (again : Recorded db after session other second) : studentId = other := by
  obtain ⟨middle, _, upserted, _, message, announced⟩ := first.upserted
  obtain ⟨between, _, also, _, notice, noticed⟩ := again.upserted
  have rows : db.outboxMessages.rows ++ [message] = db.outboxMessages.rows ++ [notice] := by
    have one := announced.appended
    have two := noticed.appended
    rw [upserted.frame] at one
    rw [also.frame] at two
    exact one.symm.trans two
  have payload := announced.payload
  rw [List.singleton_inj.mp (List.append_cancel_left rows), noticed.payload] at payload
  injection payload with _ _ _ same
  exact same.symm

theorem recorded_writes {K : Type} (db after : Database K) (session : AttendanceSession)
    (studentId : Uuid) (record : AttendanceRecord K)
    (recorded : Recorded db after session studentId record) :
    after.outboxMessages ≠ db.outboxMessages := by
  intro same
  obtain ⟨middle, _, upserted, _, message, announced⟩ := recorded.upserted
  have appended := announced.appended
  rw [upserted.frame, same] at appended
  simpa using congrArg List.length appended

section Searching

variable (vision : Vision ℝ) (db : Database ℝ) (courseId : Uuid) (query : List ℝ)

theorem searchNearest_spec (chosen : Option Uuid) (best : Option (NearestMatch ℝ))
    (found : searchNearestInCourse vision db courseId query chosen = some best) :
    (best = none ∧ rosterFaces db courseId = []) ∨
      ∃ pair ∈ rosterFaces db courseId, ∃ nearest, best = some nearest ∧
        nearest.studentId = pair.2.id ∧
        nearest.similarity = oneMinus (vision.cosineDistance pair.1.embedding query) ∧
        ∀ other ∈ rosterFaces db courseId,
          sortsBefore (vision.cosineDistance pair.1.embedding query)
            (vision.cosineDistance other.1.embedding query) = true := by
  unfold searchNearestInCourse at found
  dsimp only at found
  split at found
  · split at found
    · next empty =>
        cases found
        exact Or.inl ⟨rfl, by simpa using empty⟩
    · cases found
  · split at found
    · cases found
    · next face student lookup =>
        split at found
        · next first =>
            cases found
            exact Or.inr ⟨(face, student), List.mem_of_find?_eq_some lookup, _, rfl, rfl, rfl,
              by simpa using first⟩
        · cases found

theorem mem_rosterFaces (pair : FaceEmbedding ℝ × Student)
    (member : pair ∈ rosterFaces db courseId) :
    pair.1 ∈ db.faceEmbeddings ∧ findStudent db pair.1.studentId = some pair.2 := by
  obtain ⟨face, stored, found⟩ := List.mem_filterMap.mp member
  split at found
  · cases found
  · next student lookup =>
      split at found
      · obtain rfl := Option.some.inj found
        exact ⟨stored, lookup⟩
      · cases found

theorem rosterFaces_student (pair : FaceEmbedding ℝ × Student)
    (member : pair ∈ rosterFaces db courseId) : findStudent db pair.2.id ≠ none := by
  have owner := (mem_rosterFaces db courseId pair member).2
  have named : pair.2.id = pair.1.studentId := by simpa using List.find?_some owner
  rw [named, owner]
  exact Option.some_ne_none _

end Searching

section Deciding

variable {vision : Vision ℝ} {db : Database ℝ} {courseId : Uuid} {query : List ℝ}

/-- The similarity of one face, as the database orders it and as the domain computes it. -/
theorem similarity_cases (pgvector : Pgvector vision) (face : List ℝ)
    (same : face.length = query.length) :
    ((IsZero face ∨ IsZero query) ∧ vision.cosineDistance face query = .nan ∧
        cosineSimilarity face query = .ok 0) ∨
      (¬ IsZero face ∧ ¬ IsZero query ∧ ∃ s, vision.cosineDistance face query = .real (1 - s) ∧
        cosineSimilarity face query = .ok s ∧ (s < 0 ↔ dotOf face query < 0)) := by
  by_cases degenerate : IsZero face ∨ IsZero query
  · left
    refine ⟨degenerate, ?_, cosineSimilarity_degenerate face query same degenerate⟩
    have value := pgvector.degenerate face query same degenerate
    cases distance : vision.cosineDistance face query with
    | nan => rfl
    | real d => simp [distance, oneMinus] at value
  · obtain ⟨first, second⟩ := not_or.mp degenerate
    have similar := cosineSimilarity_regular face query same first second
    exact Or.inr ⟨first, second, _, pgvector.distance face query _ same first second similar,
      similar, cosineSimilarity_neg face query _ same first second similar⟩

theorem largest_unique (s other : ℝ) (one : Largest db courseId query s)
    (two : Largest db courseId query other) : s = other := by
  obtain ⟨⟨pair, member, attained⟩, greatest⟩ := one
  obtain ⟨⟨second, among, reached⟩, maximal⟩ := two
  obtain ⟨a, first, below⟩ := greatest second among
  obtain ⟨b, again, under⟩ := maximal pair member
  rw [reached] at first
  rw [attained] at again
  exact le_antisymm (Except.ok.inj again ▸ under) (Except.ok.inj first ▸ below)

theorem agrees_unranked (threshold : ℝ) (none_ : ∀ s, ¬ Largest db courseId query s) :
    Agrees threshold db courseId query none where
  matched := by simpa using fun s largest => absurd largest (none_ s)
  owner := by simp

theorem agrees_largest (threshold l : ℝ) (verdict : Option Uuid)
    (largest : Largest db courseId query l)
    (owner : ∀ studentId, verdict = some studentId → ∃ pair ∈ rosterFaces db courseId,
      pair.2.id = studentId ∧ cosineSimilarity pair.1.embedding query = .ok l) :
    Agrees threshold db courseId query verdict ↔ (verdict.isSome ↔ threshold ≤ l) := by
  have only : (∃ s, Largest db courseId query s ∧ isMatch s threshold) ↔ threshold ≤ l := by
    constructor
    · rintro ⟨s, also, passes⟩
      exact largest_unique s l also largest ▸ passes
    · exact fun passes => ⟨l, largest, passes⟩
  constructor
  · exact fun agrees => agrees.matched.trans only
  · exact fun decided => ⟨decided.trans only.symm, fun id named => ⟨l, largest, owner id named⟩⟩

theorem misjudged_mismatch (threshold : ℝ) (mismatch : ¬ Comparable db courseId query) :
    Agrees threshold db courseId query none ↔ ¬ Misjudged threshold db courseId query := by
  have unranked : ∀ s, ¬ Largest db courseId query s := by
    rintro s ⟨_, defined⟩
    apply mismatch
    intro pair member
    obtain ⟨value, computed, _⟩ := defined pair member
    by_contra different
    rw [cosineSimilarity_mismatch _ _ different] at computed
    cases computed
  exact ⟨fun _ misjudged => mismatch misjudged.1, fun _ => agrees_unranked threshold unranked⟩

theorem misjudged_empty (threshold : ℝ) (empty : rosterFaces db courseId = []) :
    Agrees threshold db courseId query none ↔ ¬ Misjudged threshold db courseId query := by
  have unranked : ∀ s, ¬ Largest db courseId query s := by
    rintro s ⟨⟨pair, member, _⟩, _⟩
    simp [empty] at member
  refine ⟨?_, fun _ => agrees_unranked threshold unranked⟩
  rintro _ ⟨_, ⟨_, filled, _⟩ | ⟨_, _, ⟨pair, member, _⟩, _⟩⟩
  · exact filled empty
  · simp [empty] at member

/-- NaN comes first only where nothing has a similarity; it passes every threshold. -/
theorem misjudged_nan (pgvector : Pgvector vision) (threshold : ℝ)
    (comparable : Comparable db courseId query) (pair : FaceEmbedding ℝ × Student)
    (member : pair ∈ rosterFaces db courseId)
    (undefined : vision.cosineDistance pair.1.embedding query = .nan)
    (first : ∀ other ∈ rosterFaces db courseId,
      sortsBefore (vision.cosineDistance pair.1.embedding query)
        (vision.cosineDistance other.1.embedding query) = true) :
    Agrees threshold db courseId query (some pair.2.id) ↔
      ¬ Misjudged threshold db courseId query := by
  have zeros : ∀ other ∈ rosterFaces db courseId,
      (IsZero other.1.embedding ∨ IsZero query) ∧
        cosineSimilarity other.1.embedding query = .ok 0 := by
    intro other among
    rcases similarity_cases pgvector _ (comparable other among) with
      ⟨degenerate, _, similar⟩ | ⟨_, _, s, distance, _⟩
    · exact ⟨degenerate, similar⟩
    · have order := first other among
      simp [undefined, distance, sortsBefore] at order
  have largest : Largest db courseId query 0 :=
    ⟨⟨pair, member, (zeros pair member).2⟩, fun other among => ⟨0, (zeros other among).2, le_rfl⟩⟩
  have owned : ∀ studentId, some pair.2.id = some studentId →
      ∃ other ∈ rosterFaces db courseId, other.2.id = studentId ∧
        cosineSimilarity other.1.embedding query = .ok 0 :=
    fun _ named => ⟨pair, member, Option.some.inj named, (zeros pair member).2⟩
  rw [agrees_largest threshold 0 _ largest owned]
  have misjudged : Misjudged threshold db courseId query ↔ 0 < threshold := by
    constructor
    · rintro ⟨_, ⟨positive, _⟩ | ⟨_, nonzero, _, ⟨other, among, regular⟩, _⟩⟩
      · exact positive
      · rcases (zeros other among).1 with zero | zero
        · exact absurd zero regular
        · exact absurd zero nonzero
    · refine fun positive => ⟨comparable, Or.inl ⟨positive, List.ne_nil_of_mem member, ?_⟩⟩
      by_cases zero : IsZero query
      · exact Or.inl zero
      · exact Or.inr fun other among => (zeros other among).1.resolve_right zero
  rw [misjudged]
  simp

/-- No face that is not zero is more similar than one whose distance comes first. -/
theorem first_most_similar (pgvector : Pgvector vision) (s : ℝ)
    (comparable : Comparable db courseId query) (nonzero : ¬ IsZero query) (embedding : List ℝ)
    (distance : vision.cosineDistance embedding query = .real (1 - s))
    (first : ∀ other ∈ rosterFaces db courseId,
      sortsBefore (vision.cosineDistance embedding query)
        (vision.cosineDistance other.1.embedding query) = true)
    (other : FaceEmbedding ℝ × Student) (among : other ∈ rosterFaces db courseId) :
    (IsZero other.1.embedding ∧ cosineSimilarity other.1.embedding query = .ok 0) ∨
      (¬ IsZero other.1.embedding ∧ ∃ value,
        cosineSimilarity other.1.embedding query = .ok value ∧ value ≤ s ∧
          (value < 0 ↔ dotOf other.1.embedding query < 0)) := by
  rcases similarity_cases pgvector _ (comparable other among) with
    ⟨degenerate, _, zero⟩ | ⟨regular, _, value, far, known, signed⟩
  · exact Or.inl ⟨degenerate.resolve_right nonzero, zero⟩
  · have order := first other among
    simp only [distance, far, sortsBefore, decide_eq_true_eq] at order
    exact Or.inr ⟨regular, value, known, by linarith, signed⟩

/-- A zero face is more similar than one that points away, and never comes first. -/
theorem misjudged_hidden (threshold s : ℝ) (atLeast : 0 ≤ threshold)
    (comparable : Comparable db courseId query) (pair : FaceEmbedding ℝ × Student)
    (member : pair ∈ rosterFaces db courseId)
    (regular : ¬ IsZero pair.1.embedding) (nonzero : ¬ IsZero query) (negative : s < 0)
    (below : ∀ other ∈ rosterFaces db courseId,
      (IsZero other.1.embedding ∧ cosineSimilarity other.1.embedding query = .ok 0) ∨
        (¬ IsZero other.1.embedding ∧ ∃ value,
          cosineSimilarity other.1.embedding query = .ok value ∧ value ≤ s ∧
            (value < 0 ↔ dotOf other.1.embedding query < 0)))
    (other : FaceEmbedding ℝ × Student) (among : other ∈ rosterFaces db courseId)
    (zero : IsZero other.1.embedding) :
    Agrees threshold db courseId query none ↔ ¬ Misjudged threshold db courseId query := by
  have largest : Largest db courseId query 0 := by
    refine ⟨⟨other, among, ?_⟩, fun third inside => ?_⟩
    · exact cosineSimilarity_degenerate _ _ (comparable other among) (Or.inl zero)
    · rcases below third inside with ⟨_, known⟩ | ⟨_, value, known, least, _⟩
      · exact ⟨0, known, le_rfl⟩
      · exact ⟨value, known, by linarith⟩
  have misjudged : Misjudged threshold db courseId query ↔ threshold = 0 := by
    constructor
    · rintro ⟨_, ⟨_, _, zeros | zeros⟩ | ⟨exact_, _⟩⟩
      · exact absurd zeros nonzero
      · exact absurd (zeros pair member) regular
      · exact exact_
    · refine fun exact_ => ⟨comparable, Or.inr ⟨exact_, nonzero, ⟨other, among, zero⟩,
        ⟨pair, member, regular⟩, fun third inside apart => ?_⟩⟩
      rcases below third inside with ⟨also, _⟩ | ⟨_, value, _, least, signed⟩
      · exact absurd also apart
      · exact signed.mp (by linarith)
  rw [agrees_largest threshold 0 _ largest (by simp), misjudged]
  simp only [Option.isSome_none, Bool.false_eq_true, false_iff]
  exact not_congr ⟨fun most => le_antisymm most atLeast, fun exact_ => exact_.le⟩

/-- A real distance that comes first is that of the most similar face that is not zero. -/
theorem misjudged_real (pgvector : Pgvector vision) (threshold s : ℝ) (atLeast : 0 ≤ threshold)
    (comparable : Comparable db courseId query) (pair : FaceEmbedding ℝ × Student)
    (member : pair ∈ rosterFaces db courseId)
    (regular : ¬ IsZero pair.1.embedding) (nonzero : ¬ IsZero query)
    (distance : vision.cosineDistance pair.1.embedding query = .real (1 - s))
    (similar : cosineSimilarity pair.1.embedding query = .ok s)
    (sign : s < 0 ↔ dotOf pair.1.embedding query < 0)
    (first : ∀ other ∈ rosterFaces db courseId,
      sortsBefore (vision.cosineDistance pair.1.embedding query)
        (vision.cosineDistance other.1.embedding query) = true) :
    Agrees threshold db courseId query (if s < threshold then none else some pair.2.id) ↔
      ¬ Misjudged threshold db courseId query := by
  have below := first_most_similar pgvector s comparable nonzero _ distance first
  by_cases hidden : s < 0 ∧ ∃ other ∈ rosterFaces db courseId, IsZero other.1.embedding
  · obtain ⟨negative, other, among, zero⟩ := hidden
    rw [if_pos (lt_of_lt_of_le negative atLeast)]
    exact misjudged_hidden threshold s atLeast comparable pair member regular nonzero negative below
      other among zero
  · have largest : Largest db courseId query s := by
      refine ⟨⟨pair, member, similar⟩, fun third inside => ?_⟩
      rcases below third inside with ⟨zero, known⟩ | ⟨_, value, known, least, _⟩
      · refine ⟨0, known, ?_⟩
        by_contra negative
        exact hidden ⟨not_le.mp negative, third, inside, zero⟩
      · exact ⟨value, known, least⟩
    have owned : ∀ studentId, (if s < threshold then none else some pair.2.id) = some studentId →
        ∃ other ∈ rosterFaces db courseId, other.2.id = studentId ∧
          cosineSimilarity other.1.embedding query = .ok s := by
      intro studentId named
      split at named
      · cases named
      · exact ⟨pair, member, Option.some.inj named, similar⟩
    have sound : ¬ Misjudged threshold db courseId query := by
      rintro ⟨_, ⟨_, _, zeros | zeros⟩ | ⟨_, _, zero, _, away⟩⟩
      · exact nonzero zeros
      · exact regular (zeros pair member)
      · exact hidden ⟨sign.mpr (away pair member regular), zero⟩
    rw [agrees_largest threshold s _ largest owned]
    refine ⟨fun _ => sound, fun _ => ?_⟩
    by_cases short : s < threshold
    · simp [short, not_le.mpr short]
    · simp [short, not_lt.mp short]

theorem recognised_agrees (pgvector : Pgvector vision) (threshold : ℝ) (atLeast : 0 ≤ threshold)
    (answer : Input ℝ) (answers : Answers vision db courseId query answer) :
    Agrees threshold db courseId query
        ((recognised vision threshold db courseId query answer).map (·.studentId)) ↔
      ¬ Misjudged threshold db courseId query := by
  cases answer with
  | fail failure => exact misjudged_mismatch threshold answers
  | search chosen =>
      obtain ⟨comparable, possible⟩ := answers
      obtain ⟨best, found⟩ := Option.isSome_iff_exists.mp possible
      rcases searchNearest_spec vision db courseId query chosen best found with
        ⟨rfl, empty⟩ | ⟨pair, member, nearest, rfl, named, value, first⟩
      · simpa [recognised, found, aboveThreshold] using misjudged_empty threshold empty
      · rcases similarity_cases pgvector _ (comparable pair member) with
          ⟨_, undefined, _⟩ | ⟨regular, nonzero, s, distance, similar, sign⟩
        · have verdict : recognised vision threshold db courseId query (.search chosen) =
              some nearest := by
            simp [recognised, found, aboveThreshold, value, undefined, oneMinus, Number.lt]
          rw [verdict, Option.map_some, named]
          exact misjudged_nan pgvector threshold comparable pair member undefined first
        · have verdict : (recognised vision threshold db courseId query (.search chosen)).map
              (·.studentId) = if s < threshold then none else some pair.2.id := by
            by_cases short : s < threshold <;>
              simp [recognised, found, aboveThreshold, value, distance, oneMinus, Number.lt, short,
                Option.filter, named]
          rw [verdict]
          exact misjudged_real pgvector threshold s atLeast comparable pair member regular nonzero
            distance similar sign first
  | _ => exact answers.elim

end Deciding

/-- The steps of one call whose AI request succeeds. -/
def identification (index : Nat) (sessionId : Uuid) (actor : AuthContext) (query : List ℝ)
    (answer : Input ℝ) (fate : Fate) : List (Event (Input ℝ) Change) :=
  [.act index (.identifyAndRecord sessionId actor), .act index (.extract (.ok (some query))),
    .act index answer, .act index (.transact fate)]

section Calling

variable (uuids : UuidSource) (vision : Vision ℝ) (threshold : ℝ)

theorem identification_run (system : State ℝ) (index : Nat) (sessionId : Uuid)
    (actor : AuthContext) (session : AttendanceSession) (query : List ℝ) (answer : Input ℝ)
    (fate : Fate) (idle : system.procs index = .idle)
    (opened : openSessionForActor system.store.db sessionId actor
      "Cannot identify for a closed session" = .ok session)
    (answers : Answers vision system.store.db session.courseId query answer) :
    ((machine uuids vision threshold).run system
        (identification index sessionId actor query answer fate)).store.db =
      match recognised vision threshold system.store.db session.courseId query answer with
      | none => system.store.db
      | some nearest =>
          (transaction (identifyTx uuids system.store.clock session nearest) fate.chances
            fate.ending system.store.db).2 := by
  simp only [identification, Machine.run, step_store, step_self, machine]
  have admitted : exec uuids vision threshold (.identifyAndRecord sessionId actor) system.store
      (system.procs index) = (system.store, .extracting session) := by
    simp [idle, exec, firstStep, opened]
  have extracted : exec uuids vision threshold (.extract (.ok (some query))) system.store
      (.extracting session) = (system.store, .searching session query) := rfl
  rw [admitted, extracted]
  cases answer with
  | fail failure => rfl
  | search chosen =>
      obtain ⟨best, found⟩ := Option.isSome_iff_exists.mp answers.2
      cases kept : aboveThreshold threshold best with
      | none => simp [exec, recognised, found, kept]
      | some nearest => simp [exec, recognised, found, kept, record, Store.settle]
  | _ => exact answers.elim

/-- What a call leaves, said by its verdict. -/
def Leaves (db after : Database ℝ) (session : AttendanceSession) : Option Uuid → Prop
  | none => after = db
  | some studentId => RecordsFace db after session studentId

theorem followsRule_agrees (db after : Database ℝ) (session : AttendanceSession) (query : List ℝ)
    (verdict : Option Uuid) (left : Leaves db after session verdict) :
    FollowsRule threshold db after session query ↔
      Agrees threshold db session.courseId query verdict := by
  have only : ∀ studentId, RecordsFace db after session studentId ↔ verdict = some studentId := by
    intro studentId
    cases verdict with
    | none =>
        constructor
        · rintro ⟨record, recorded, _⟩
          have same : after.outboxMessages = db.outboxMessages := by rw [left]
          exact absurd same (recorded_writes _ _ _ _ _ recorded)
        · intro named
          cases named
    | some id =>
        constructor
        · rintro ⟨record, recorded, _⟩
          obtain ⟨first, also, _⟩ := left
          rw [recorded_once _ _ _ _ _ _ _ also recorded]
        · exact fun named => Option.some.inj named ▸ left
  constructor
  · intro follows
    refine ⟨Iff.trans ?_ follows.recorded, fun id named => follows.owner id ((only id).mpr named)⟩
    simp only [only, Option.isSome_iff_exists]
  · intro agrees
    refine ⟨Iff.trans ?_ agrees.matched, fun id recorded => agrees.owner id ((only id).mp recorded),
      fun unmatched => ?_⟩
    · simp only [only, Option.isSome_iff_exists]
    · cases verdict with
      | none =>
          rw [left]
          exact ⟨rfl, rfl⟩
      | some id => exact absurd (agrees.matched.mp rfl) unmatched

theorem identification_leaves (system : State ℝ) (index : Nat) (sessionId : Uuid)
    (actor : AuthContext) (session : AttendanceSession) (query : List ℝ) (answer : Input ℝ)
    (fate : Fate) (idle : system.procs index = .idle)
    (opened : openSessionForActor system.store.db sessionId actor
      "Cannot identify for a closed session" = .ok session)
    (answers : Answers vision system.store.db session.courseId query answer)
    (calm : Calm fate.chances) (commit : fate.ending = .commits) :
    Leaves system.store.db
      ((machine uuids vision threshold).run system
        (identification index sessionId actor query answer fate)).store.db session
      ((recognised vision threshold system.store.db session.courseId query answer).map
        (·.studentId)) := by
  rw [identification_run uuids vision threshold system index sessionId actor session query answer
    fate idle opened answers]
  cases verdict : recognised vision threshold system.store.db session.courseId query answer with
  | none => rfl
  | some nearest =>
      have stored : findSession system.store.db session.id ≠ none := by
        intro missing
        obtain ⟨member, _, _⟩ := openSession_open _ _ _ _ _ opened
        simpa using List.find?_eq_none.mp missing session member
      have enrolled : findStudent system.store.db nearest.studentId ≠ none := by
        cases answer with
        | search chosen =>
            obtain ⟨best, found, kept⟩ := Option.bind_eq_some_iff.mp verdict
            rcases searchNearest_spec vision _ _ query chosen best found with
              ⟨rfl, _⟩ | ⟨pair, member, _, rfl, named, _⟩
            · cases kept
            · obtain ⟨same, _⟩ := Option.filter_eq_some_iff.mp kept
              obtain rfl := Option.some.inj same
              exact named ▸ rosterFaces_student _ _ pair member
        | _ => cases verdict
      exact identifyTx_records uuids system.store.clock session nearest fate _ calm commit stored
        enrolled

/-- An identification that meets no fault records whom the domain's rule accepts,
and nothing otherwise, exactly where the inputs are not misjudged. -/
theorem identification_follows_rule (pgvector : Pgvector vision) (accepts : MatchThreshold)
    (system : State ℝ) (index : Nat) (sessionId : Uuid) (actor : AuthContext)
    (session : AttendanceSession) (query : List ℝ) (answer : Input ℝ) (fate : Fate)
    (idle : system.procs index = .idle)
    (opened : openSessionForActor system.store.db sessionId actor
      "Cannot identify for a closed session" = .ok session)
    (answers : Answers vision system.store.db session.courseId query answer)
    (calm : Calm fate.chances) (commit : fate.ending = .commits) :
    FollowsRule accepts.value system.store.db
        ((machine uuids vision accepts.value).run system
          (identification index sessionId actor query answer fate)).store.db session query ↔
      ¬ Misjudged accepts.value system.store.db session.courseId query := by
  rw [followsRule_agrees accepts.value _ _ session query _
    (identification_leaves uuids vision accepts.value system index sessionId actor session query
      answer fate idle opened answers calm commit)]
  exact recognised_agrees pgvector accepts.value accepts.atLeast answer answers

end Calling

/-- One open session of a course with one student, who has one face. -/
def lectureRoom (face : List ℝ) : Database ℝ where
  students := Table.single ⟨1, "S-1", "Ada", none, none⟩
  faceEmbeddings := Table.single ⟨5, 1, face, "buffalo_l", none, none⟩
  courses := Table.single ⟨2, "CS-1", "Logic", 9⟩
  courseEnrollments := Table.single ⟨3, 2, 1⟩
  importJobs := Table.empty
  attendanceSessions := Table.single ⟨4, 2, 9, .OPEN, none⟩
  attendanceRecords := Table.empty
  outboxMessages := Table.empty

def zeroVector : List ℝ := List.replicate 512 0

def unitVector : List ℝ := 1 :: List.replicate 511 0

theorem zeroVector_zero : IsZero zeroVector := fun _ => List.eq_of_mem_replicate

theorem unitVector_regular : ¬ IsZero unitVector := fun zero => by
  simpa using zero 1 List.mem_cons_self

theorem lectureRoom_faces (face : List ℝ) : rosterFaces (lectureRoom face) 2 =
    [(⟨5, 1, face, "buffalo_l", none, none⟩, ⟨1, "S-1", "Ada", none, none⟩)] := by
  simp [rosterFaces, lectureRoom, findStudent, findEnrollment, Table.single]

theorem lectureRoom_opened (face : List ℝ) :
    openSessionForActor (lectureRoom face) 4 ⟨9, .PROFESSOR, "jti", 0⟩
      "Cannot identify for a closed session" = .ok ⟨4, 2, 9, .OPEN, none⟩ := by
  simp [openSessionForActor, getSessionForActor, findSession, findCourse, lectureRoom, Table.single]

theorem lectureRoom_answers (face query : List ℝ) (same : face.length = query.length) :
    Answers pgvector (lectureRoom face) 2 query (.search (some 5)) := by
  refine ⟨by simpa [Comparable, lectureRoom_faces] using same, ?_⟩
  have reflexive : ∀ n : Number ℝ, sortsBefore n n = true := by
    intro n
    cases n <;> simp [sortsBefore]
  simp [searchNearestInCourse, lectureRoom_faces, reflexive]

/-- The student's own face is recorded. -/
theorem identification_follows_rule_ada :
    FollowsRule (3 / 4) (lectureRoom unitVector)
      ((machine UuidSource.counting pgvector (3 / 4)).run
        ⟨⟨lectureRoom unitVector, 0, [], [], []⟩, fun _ => .idle⟩
        (identification 0 4 ⟨9, .PROFESSOR, "jti", 0⟩ unitVector (.search (some 5)) {})).store.db
      ⟨4, 2, 9, .OPEN, none⟩ unitVector := by
  refine (identification_follows_rule UuidSource.counting pgvector pgvector_lawful
    ⟨3 / 4, by norm_num, by norm_num⟩ ⟨⟨lectureRoom unitVector, 0, [], [], []⟩, fun _ => .idle⟩ 0 4
    _ _ _ _ {} rfl (lectureRoom_opened unitVector) (lectureRoom_answers _ _ rfl) (by simp [Calm]) rfl).mpr ?_
  rintro ⟨_, ⟨_, _, zero | zeros⟩ | ⟨zero, _⟩⟩
  · exact unitVector_regular zero
  · exact unitVector_regular (by simpa [lectureRoom_faces] using zeros)
  · norm_num at zero

/-- A picture without any feature is nobody's for the domain, and Ada's for the search. -/
theorem blank_picture_recorded :
    ¬ FollowsRule (3 / 4) (lectureRoom unitVector)
      ((machine UuidSource.counting pgvector (3 / 4)).run
        ⟨⟨lectureRoom unitVector, 0, [], [], []⟩, fun _ => .idle⟩
        (identification 0 4 ⟨9, .PROFESSOR, "jti", 0⟩ zeroVector (.search (some 5)) {})).store.db
      ⟨4, 2, 9, .OPEN, none⟩ zeroVector := by
  have answers := lectureRoom_answers unitVector zeroVector (by
    rw [unitVector, zeroVector, List.length_cons, List.length_replicate, List.length_replicate])
  rw [followsRule_agrees (3 / 4) _ _ _ zeroVector _ (identification_leaves UuidSource.counting
      pgvector (3 / 4) ⟨⟨lectureRoom unitVector, 0, [], [], []⟩, fun _ => .idle⟩ 0 4 _ _ _ _ {} rfl
      (lectureRoom_opened unitVector) answers (by simp [Calm]) rfl),
    recognised_agrees pgvector_lawful (3 / 4) (by norm_num) _ answers, not_not]
  exact ⟨answers.1, Or.inl ⟨by norm_num, by simp [lectureRoom_faces], Or.inl zeroVector_zero⟩⟩

end FaceVec.Gateway

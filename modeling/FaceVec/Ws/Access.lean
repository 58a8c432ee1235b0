import FaceVec.Ws.Server

/-!
Who receives live frames. Sessions and import jobs share the key space of the
registry, and its keys are texts that clients choose; a topic names at most
one resource, and every socket under it has passed the check of that one.
-/

namespace FaceVec.Ws

open Interleaving Attendance Auth Courses

variable {E K Payload : Type} {ids : IdText}

def Owns (db : Database E) (auth : AuthContext) (courseId : Uuid) : Prop :=
  auth.role = .ADMIN ∨
    ∃ course ∈ db.courses, course.id = courseId ∧ course.professorId = auth.userId

/-- At the reads of the check the principal was an admin or the professor of the
course of the session or of the job. -/
def Check.Entitled (check : Check E) : Prop :=
  match check.resource with
  | .session id => ∃ session ∈ check.found.attendanceSessions,
      session.id = id ∧ Owns check.decided check.auth session.courseId
  | .importJob id => ∃ job ∈ check.found.importJobs,
      job.id = id ∧ Owns check.decided check.auth job.courseId

/-- The resource whose events are broadcast to a topic. -/
def Names (ids : IdText) (topic : String) : Resource → Prop
  | .session id => ids.parse topic = some id
  | .importJob id => ∃ jobId, topic = importTopic jobId ∧ ids.parse jobId = some id

theorem importTopic_injective (one other : String) (same : importTopic one = importTopic other) :
    one = other := by
  have texts := congrArg String.toList same
  simp only [importTopic, String.toList_append] at texts
  exact String.toList_injective (List.append_cancel_left texts)

theorem names_unique (topic : String) (one other : Resource) (first : Names ids topic one)
    (second : Names ids topic other) : one = other := by
  cases one with
  | session id =>
      cases other with
      | session otherId => rw [Option.some.inj (first.symm.trans second)]
      | importJob otherId =>
          obtain ⟨jobId, rfl, _⟩ := second
          exact absurd (first.symm.trans (ids.parse_import jobId)) (by simp)
  | importJob id =>
      obtain ⟨jobId, rfl, reads⟩ := first
      cases other with
      | session otherId => exact absurd (second.symm.trans (ids.parse_import jobId)) (by simp)
      | importJob otherId =>
          obtain ⟨otherText, same, readsOther⟩ := second
          rw [importTopic_injective _ _ same] at reads
          rw [Option.some.inj (reads.symm.trans readsOther)]

theorem names_event (event : LiveEvent ids Payload) : Names ids event.topic event.resource := by
  cases event with
  | attendance sessionId payload => exact sessionId.reads
  | importProgress jobId payload => exact ⟨jobId.text, rfl, jobId.reads⟩

theorem lookup_ok {α : Type} (text : String) (read : Uuid → Except Failure α) (result : α)
    (answered : lookup ids text read = .ok result) :
    ∃ id, ids.parse text = some id ∧ read id = .ok result := by
  unfold lookup at answered
  split at answered
  · cases answered
  · next id reads => exact ⟨id, reads, answered⟩

theorem faulty_ok {α : Type} (fault : Option Failure) (result : Except Failure α) (value : α)
    (answered : faulty fault result = .ok value) : result = .ok value := by
  cases fault with
  | none => exact answered
  | some failure => cases answered

theorem getSession_owns (db : Database E) (id : Uuid) (auth : AuthContext)
    (session : AttendanceSession) (passed : getSessionForActor db id auth = .ok session) :
    session ∈ db.attendanceSessions ∧ session.id = id ∧ Owns db auth session.courseId :=
  getSession_ok db id auth session passed

theorem getCourse_owns (db : Database E) (id : Uuid) (auth : AuthContext) (course : Course)
    (passed : getCourseForActor db id auth = .ok course) : Owns db auth id := by
  obtain ⟨stored, same, permitted⟩ := getCourse_ok db id auth course passed
  exact permitted.imp_right fun owned => ⟨course, stored, same, owned⟩

def Passed (trail : List (Mark ids E K Payload)) (socket : SocketId) (resource : Resource) : Prop :=
  ∃ check, .passed socket check ∈ trail ∧ check.resource = resource

section Growth

variable [Field K] [LinearOrder K] [FloorRing K]

/-- At the upgrade the token was not expired, and neither denylisted nor cut
off as far as Redis could be asked. -/
structure Admission.Valid (admission : Admission K) : Prop where
  unexpired : ⌊admission.verified⌋ < admission.token.expiresAt
  undenied : ∀ redis now, admission.denylist = some (redis, now) →
    ¬ Denylisted redis admission.token.jti now
  uncut : ∀ redis now, admission.cutoffs = some (redis, now) →
    ¬ CutOff redis admission.token.userId admission.token.issuedAt now

/-- What any step does to the sockets, the registries and the trail. -/
structure Grows (store after : Store ids E K Payload) (marks : List (Mark ids E K Payload)) :
    Prop where
  trail : after.trail = store.trail ++ marks
  passes : ∀ socket check, .passed socket check ∈ marks →
    check.Entitled ∧ ∃ state, after.sockets[socket]? = some state ∧ state.auth = check.auth
  sends : ∀ socket event, .live socket event ∈ marks →
    ∃ replica, socket ∈ Registry.members (store.registries replica).bySession event.topic
  attaches : ∀ replica topic socket,
    socket ∈ Registry.members (after.registries replica).bySession topic →
      socket ∈ Registry.members (store.registries replica).bySession topic ∨
        ∃ check, .passed socket check ∈ marks ∧ Names ids topic check.resource
  keeps : ∀ (socket : SocketId) (state : Socket), store.sockets[socket]? = some state →
    ∃ later : Socket, after.sockets[socket]? = some later ∧ later.token = state.token ∧
      later.auth = state.auth
  opens : ∀ (socket : SocketId) (state : Socket), after.sockets[socket]? = some state →
    (∃ old : Socket, store.sockets[socket]? = some old) ∨
      ∃ admission, .admitted socket admission ∈ marks
  admits : ∀ socket admission, .admitted socket admission ∈ marks →
    admission.Valid ∧
      ∃ state : Socket, after.sockets[socket]? = some state ∧ state.token = admission.token

variable (store after : Store ids E K Payload) (marks : List (Mark ids E K Payload))

/-- A step that changes neither sockets nor registries nor the trail. -/
theorem grows_still (sockets : after.sockets = store.sockets)
    (registries : after.registries = store.registries) (trail : after.trail = store.trail) :
    Grows store after [] := by
  constructor
  · simpa using trail
  · exact fun socket check member => absurd member List.not_mem_nil
  · exact fun socket event member => absurd member List.not_mem_nil
  · exact fun replica topic socket member => Or.inl (registries ▸ member)
  · exact fun socket state found => ⟨state, sockets ▸ found, rfl, rfl⟩
  · exact fun socket state found => Or.inl ⟨state, sockets ▸ found⟩
  · exact fun socket admission member => absurd member List.not_mem_nil

theorem grows_refl : Grows store store [] := grows_still store store rfl rfl rfl

theorem grows_send (grows : Grows store after marks) (socket : SocketId) (reply : Reply) :
    ∃ more, Grows store (send socket reply after) more := by
  unfold send
  split
  · refine ⟨marks ++ [.reply socket reply], ?_, ?_, ?_, ?_, grows.keeps, ?_, ?_⟩
    · simp [Store.record, grows.trail]
    · intro other check member
      exact grows.passes other check (by simpa using member)
    · intro other event member
      exact grows.sends other event (by simpa using member)
    · intro replica topic other member
      refine (grows.attaches replica topic other member).imp id ?_
      rintro ⟨check, passed, names⟩
      exact ⟨check, List.mem_append_left _ passed, names⟩
    · intro other state found
      refine (grows.opens other state found).imp id ?_
      rintro ⟨admission, admitted⟩
      exact ⟨admission, List.mem_append_left _ admitted⟩
    · intro other admission member
      exact grows.admits other admission (by simpa using member)
  · exact ⟨marks, grows⟩

/-- A change of one registry after which no socket hears more. -/
theorem grows_shrinking (grows : Grows store after marks) (socket : SocketId)
    (change : Registry → Registry)
    (shrinks : ∀ registry topic other, other ∈ Registry.members (change registry).bySession topic →
      other ∈ Registry.members registry.bySession topic) :
    Grows store (after.registering socket change) marks := by
  unfold Store.registering
  split
  · exact grows
  · next state found =>
      refine ⟨grows.trail, grows.passes, grows.sends, ?_, grows.keeps, grows.opens, grows.admits⟩
      intro replica topic other member
      apply grows.attaches replica topic other
      by_cases same : replica = state.replica
      · subst same
        simp only [Function.update_self] at member
        exact shrinks _ _ _ member
      · simpa [Function.update_of_ne same] using member

/-- A change of sockets that leaves them their principals. -/
theorem grows_sockets (change : SocketId → Socket → Socket)
    (changed : ∀ socket, after.sockets[socket]? = (store.sockets[socket]?).map (change socket))
    (token : ∀ socket state, (change socket state).token = state.token)
    (auth : ∀ socket state, (change socket state).auth = state.auth)
    (registries : after.registries = store.registries) (trail : after.trail = store.trail) :
    Grows store after [] := by
  constructor
  · simpa using trail
  · exact fun socket check member => absurd member List.not_mem_nil
  · exact fun socket event member => absurd member List.not_mem_nil
  · exact fun replica topic socket member => Or.inl (registries ▸ member)
  · intro socket state found
    exact ⟨change socket state, by rw [changed, found]; rfl, token socket state, auth socket state⟩
  · intro socket state found
    rw [changed] at found
    obtain ⟨old, stored, rfl⟩ := Option.map_eq_some_iff.mp found
    exact Or.inl ⟨old, stored⟩
  · exact fun socket admission member => absurd member List.not_mem_nil

theorem grows_changing (socket : SocketId) (change : Socket → Socket)
    (token : ∀ state, (change state).token = state.token)
    (auth : ∀ state, (change state).auth = state.auth) :
    Grows store (store.changing socket change) [] := by
  apply grows_sockets store _ fun other state => if socket = other then change state else state
  · intro other
    rw [Store.changing, List.getElem?_modify]
    by_cases same : socket = other <;> cases store.sockets[other]? <;> simp [same]
  · intro other state
    split
    · exact token state
    · rfl
  · intro other state
    split
    · exact auth state
    · rfl
  · rfl
  · rfl

/-- The store that broadcasts may differ in what no frame depends on. -/
theorem grows_broadcast (grows : Grows store after []) (replica : Nat)
    (event : LiveEvent ids Payload) (same : after.registries = store.registries) :
    ∃ marks, Grows store (broadcast replica event after) marks := by
  refine ⟨((after.registries replica).broadcast event.topic after.isOpen).map (.live · event),
    ⟨?_, ?_, ?_, ?_, grows.keeps, ?_, ?_⟩⟩
  · have trail := grows.trail
    simp only [List.append_nil] at trail
    simp only [broadcast, Store.record, trail]
  · intro socket check member
    simp at member
  · intro socket other member
    obtain ⟨receiver, heard, sent⟩ := List.mem_map.mp member
    cases sent
    rw [← same]
    exact ⟨replica, ((Registry.mem_broadcast _ _ _ _).mp heard).1⟩
  · exact fun other topic socket member => Or.inl (same ▸ member)
  · intro socket state found
    refine (grows.opens socket state found).imp id ?_
    rintro ⟨admission, admitted⟩
    exact absurd admitted List.not_mem_nil
  · intro socket admission member
    simp at member

theorem grows_subscribed (socket : SocketId) (topic : String) (check : Check E) (reply : Reply)
    (state : Socket) (found : store.sockets[socket]? = some state) (auth : state.auth = check.auth)
    (entitled : check.Entitled) (names : Names ids topic check.resource) :
    ∃ marks, Grows store (subscribed ids socket topic check reply store) marks := by
  apply grows_send store _ [.passed socket check]
  have registered : (store.record [.passed socket check]).sockets[socket]? = some state := found
  unfold Store.registering
  rw [registered]
  constructor
  · rfl
  · intro other passed member
    cases List.mem_singleton.mp member
    exact ⟨entitled, state, found, auth⟩
  · intro other event member
    simp at member
  · intro replica name other member
    by_cases same : replica = state.replica
    · subst same
      simp only [Function.update_self, Registry.mem_subscribe] at member
      refine member.imp id ?_
      rintro ⟨rfl, rfl⟩
      exact ⟨check, List.mem_singleton.mpr rfl, names⟩
    · simp only [Function.update_of_ne same] at member
      exact Or.inl member
  · exact fun other old stored => ⟨old, stored, rfl, rfl⟩
  · exact fun other old stored => Or.inl ⟨old, stored⟩
  · intro other admission member
    simp at member

end Growth

section Steps

variable [Field K] [LinearOrder K] [FloorRing K] (store : Store ids E K Payload)

/-- What a handler has found out so far. -/
def Knows (ids : IdText) : Handler E K → Prop
  | .denylisting _ token verified => ⌊verified⌋ < token.expiresAt
  | .cuttingOff _ token verified denylist =>
      ⌊verified⌋ < token.expiresAt ∧
        ∀ redis now, denylist = some (redis, now) → ¬ Denylisted redis token.jti now
  | .upgrading _ admission => admission.Valid
  | .checkingJob _ jobId job found => job ∈ found.importJobs ∧ ids.parse jobId = some job.id
  | _ => True

omit [FloorRing K] [LinearOrder K] [Field K] in
theorem unsubscribe_shrinks (topic : String) (socket : SocketId) (registry : Registry)
    (name : String) (other : SocketId)
    (member : other ∈ Registry.members (registry.unsubscribe topic socket).bySession name) :
    other ∈ Registry.members registry.bySession name :=
  ((Registry.mem_unsubscribe _ _ _ _ _).mp member).1

theorem onMessage_grows (socket : SocketId) (data : Data) :
    (∃ marks, Grows store (onMessage ids socket data store).1 marks) ∧
      Knows ids (onMessage ids socket data store).2 := by
  have still : ∃ marks, Grows store store marks := ⟨[], grows_refl store⟩
  have replies : ∀ reply, ∃ marks, Grows store (send socket reply store) marks :=
    fun reply => grows_send store store [] (grows_refl store) socket reply
  have leaves : ∀ topic reply, ∃ marks, Grows store
      (send socket reply (store.registering socket fun registry =>
        registry.unsubscribe topic socket)) marks :=
    fun topic reply => grows_send store _ [] (grows_shrinking store store [] (grows_refl store) socket _
      fun registry => unsubscribe_shrinks topic socket registry) socket reply
  unfold onMessage
  split
  · exact ⟨replies _, trivial⟩
  · exact ⟨still, trivial⟩
  · split
    · split
      · exact ⟨still, trivial⟩
      · exact ⟨still, trivial⟩
      · exact ⟨replies _, trivial⟩
    · split
      · split
        · exact ⟨leaves _ _, trivial⟩
        · exact ⟨leaves _ _, trivial⟩
        · exact ⟨replies _, trivial⟩
      · split
        · exact ⟨replies _, trivial⟩
        · exact ⟨replies _, trivial⟩

theorem checkAccess_grows (fault : Option Failure) (handler : Handler E K)
    (knows : Knows ids handler) :
    (∃ marks, Grows store (checkAccess ids fault store handler).1 marks) ∧
      Knows ids (checkAccess ids fault store handler).2 := by
  have still : ∃ marks, Grows store store marks := ⟨[], grows_refl store⟩
  have replies : ∀ socket reply, ∃ marks, Grows store (send socket reply store) marks :=
    fun socket reply => grows_send store store [] (grows_refl store) socket reply
  unfold checkAccess
  split
  · next socket sessionId =>
      split
      · exact ⟨still, trivial⟩
      · next state found =>
          split
          · exact ⟨replies _ _, trivial⟩
          · next session answered =>
              obtain ⟨id, reads, passed⟩ := lookup_ok _ _ _ (faulty_ok _ _ _ answered)
              obtain ⟨member, rfl, owns⟩ := getSession_owns _ _ _ _ passed
              exact ⟨grows_subscribed store socket sessionId _ _ state found rfl
                ⟨session, member, rfl, owns⟩ reads, trivial⟩
  · next socket jobId =>
      split
      · exact ⟨replies _ _, trivial⟩
      · next job answered =>
          obtain ⟨id, reads, passed⟩ := lookup_ok _ _ _ (faulty_ok _ _ _ answered)
          unfold findJob at passed
          split at passed
          · cases passed
          · next stored lookup =>
              obtain rfl := Except.ok.inj passed
              have same : stored.id = id := by simpa using List.find?_some lookup
              exact ⟨still, List.mem_of_find?_eq_some lookup, same ▸ reads⟩
  · next socket jobId job found =>
      obtain ⟨member, reads⟩ := knows
      split
      · exact ⟨still, trivial⟩
      · next state held =>
          split
          · exact ⟨replies _ _, trivial⟩
          · next course answered =>
              have owns := getCourse_owns _ _ _ _ (faulty_ok _ _ _ answered)
              exact ⟨grows_subscribed store socket _ _ _ state held rfl ⟨job, member, rfl, owns⟩
                ⟨jobId, rfl, reads⟩, trivial⟩
  · exact ⟨still, knows⟩

theorem verifyAccessToken_ok (token claims : AccessTokenClaims) (now : K)
    (verified : verifyAccessToken token now = .ok claims) :
    claims = token ∧ ⌊now⌋ < token.expiresAt := by
  unfold verifyAccessToken at verified
  split at verified
  · cases verified
  · next unexpired => exact ⟨(Except.ok.inj verified).symm, not_le.mp unexpired⟩

theorem grows_opened (replica : Nat) (admission : Admission K) (auth : AuthContext)
    (valid : admission.Valid) :
    Grows store
      { store with
        sockets := store.sockets ++ [⟨replica, admission.token, auth, .OPEN, true⟩]
        trail := store.trail ++ [.admitted store.sockets.length admission] }
      [.admitted store.sockets.length admission] := by
  constructor
  · rfl
  · intro socket check member
    simp at member
  · intro socket event member
    simp at member
  · exact fun other topic socket member => Or.inl member
  · intro socket state found
    exact ⟨state, by rw [List.getElem?_append_left (List.getElem?_eq_some_iff.mp found).1, found],
      rfl, rfl⟩
  · intro socket state found
    rw [List.getElem?_append] at found
    split at found
    · exact Or.inl ⟨state, found⟩
    · next beyond =>
        obtain ⟨last, _⟩ := List.getElem?_eq_some_iff.mp found
        simp only [List.length_singleton] at last
        have newest : socket = store.sockets.length :=
          Nat.le_antisymm (Nat.le_of_sub_eq_zero (Nat.lt_one_iff.mp last)) (Nat.le_of_not_lt beyond)
        subst newest
        exact Or.inr ⟨admission, List.mem_singleton.mpr rfl⟩
  · intro socket other member
    cases List.mem_singleton.mp member
    exact ⟨valid, _, List.getElem?_concat_length, rfl⟩

theorem handleUpgrade_grows (input : Input) (handler : Handler E K) (knows : Knows ids handler) :
    (∃ marks, Grows store (handleUpgrade ids input store handler).1 marks) ∧
      Knows ids (handleUpgrade ids input store handler).2 := by
  have still : ∃ marks, Grows store store marks := ⟨[], grows_refl store⟩
  cases handler with
  | idle =>
      cases input with
      | upgrade replica pathname token =>
          cases token with
          | none => exact ⟨still, trivial⟩
          | some token =>
              simp only [handleUpgrade]
              split
              · split
                · exact ⟨still, trivial⟩
                · next claims verified =>
                    obtain ⟨rfl, unexpired⟩ := verifyAccessToken_ok _ _ _ verified
                    exact ⟨still, unexpired⟩
              · exact ⟨still, trivial⟩
      | _ => exact ⟨still, trivial⟩
  | denylisting replica claims verified =>
      cases input with
      | ask contact =>
          cases contact with
          | unready => exact ⟨still, knows, fun redis now asked => (by cases asked)⟩
          | fails => exact ⟨still, trivial⟩
          | ready =>
              simp only [handleUpgrade]
              split
              · exact ⟨still, trivial⟩
              -- All that the handler keeps of the denylist is its answer.
              · next undenied =>
                  refine ⟨still, knows, ?_⟩
                  rintro _ _ ⟨rfl, rfl⟩
                  rwa [← isAccessTokenRevoked_iff]
      | _ => exact ⟨still, knows⟩
  | cuttingOff replica claims verified denylist =>
      obtain ⟨unexpired, undenied⟩ := knows
      cases input with
      | ask contact =>
          cases contact with
          | unready => exact ⟨still, unexpired, undenied, fun redis now asked => (by cases asked)⟩
          | fails => exact ⟨still, trivial⟩
          | ready =>
              simp only [handleUpgrade]
              split
              · exact ⟨still, trivial⟩
              · next uncut =>
                  refine ⟨still, unexpired, undenied, ?_⟩
                  rintro _ _ ⟨rfl, rfl⟩
                  rwa [← userTokenCutoff_any_iff]
      | _ => exact ⟨still, unexpired, undenied⟩
  | upgrading replica admission =>
      cases input with
      | handshake succeeds =>
          cases succeeds with
          | false => exact ⟨still, trivial⟩
          | true =>
              exact ⟨grows_send store _ _ (grows_opened store replica admission _ knows) _ _, trivial⟩
      | _ => exact ⟨still, knows⟩
  | _ => exact ⟨still, knows⟩

theorem exec_grows (input : Input) (handler : Handler E K) (knows : Knows ids handler) :
    (∃ marks, Grows store (exec ids input store handler).1 marks) ∧
      Knows ids (exec ids input store handler).2 := by
  unfold exec
  split
  · exact onMessage_grows store _ _
  · exact checkAccess_grows store _ _ knows
  · exact handleUpgrade_grows store _ _ knows

theorem ambient_grows (change : Change ids E K Payload) :
    ∃ marks, Grows store (ambient ids change store) marks := by
  have still : ∀ after : Store ids E K Payload, after.sockets = store.sockets →
      after.registries = store.registries → after.trail = store.trail →
      ∃ marks, Grows store after marks :=
    fun after sockets registries trail => ⟨[], grows_still store after sockets registries trail⟩
  cases change with
  | tick now => exact still _ rfl rfl rfl
  | write db => exact still _ rfl rfl rfl
  | revoke redis => exact still _ rfl rfl rfl
  | publish replica event redisReady =>
      cases redisReady with
      | true => exact still _ rfl rfl rfl
      | false => exact grows_broadcast store store (grows_refl store) replica event rfl
  | receive replica =>
      simp only [ambient]
      split
      · exact ⟨[], grows_refl store⟩
      · next event rest _ =>
          exact grows_broadcast store
            { store with inboxes := Function.update store.inboxes replica rest }
            (grows_still store _ rfl rfl rfl) replica event rfl
  | lose replica => exact still _ rfl rfl rfl
  | heartbeat replica =>
      refine ⟨[], grows_sockets store _ (fun _ => heartbeat replica) (fun socket => ?_)
        (fun _ state => ?_) (fun _ state => ?_) rfl rfl⟩
      · exact List.getElem?_map
      · unfold heartbeat
        split
        · split <;> rfl
        · rfl
      · unfold heartbeat
        split
        · split <;> rfl
        · rfl
  | pong socket => exact ⟨[], grows_changing store socket _ (fun _ => rfl) (fun _ => rfl)⟩
  | closing socket =>
      refine ⟨[], grows_changing store socket (fun state =>
        if state.readyState = .OPEN then { state with readyState := .CLOSING } else state)
        (fun state => ?_) (fun state => ?_)⟩
      · split <;> rfl
      · split <;> rfl
  | closed socket =>
      exact ⟨[], grows_shrinking store _ [] (grows_changing store socket
        (fun state => { state with readyState := .CLOSED }) (fun _ => rfl) (fun _ => rfl)) socket
        (fun registry => registry.remove socket)
        fun registry topic other member => ((Registry.mem_remove _ _ _ _).mp member).1⟩

end Steps

/-- Every live frame of the trail has its cause earlier in the trail. -/
def Justified (cause : List (Mark ids E K Payload) → SocketId → LiveEvent ids Payload → Prop)
    (trail : List (Mark ids E K Payload)) : Prop :=
  ∀ before socket event after, trail = before ++ .live socket event :: after →
    cause before socket event

theorem justified_append
    (cause : List (Mark ids E K Payload) → SocketId → LiveEvent ids Payload → Prop)
    (trail marks : List (Mark ids E K Payload)) (justified : Justified cause trail)
    (caused : ∀ socket event, .live socket event ∈ marks → ∀ more, cause (trail ++ more) socket event) :
    Justified cause (trail ++ marks) := by
  intro before socket event after split
  rcases List.append_eq_append_iff.mp split with ⟨more, rfl, rest⟩ | ⟨more, earlier, rest⟩
  · exact caused socket event (by simp [rest]) more
  · cases more with
    | nil =>
        simp only [List.append_nil] at earlier
        have sent : Mark.live socket event ∈ marks := by
          rw [← List.nil_append marks, ← rest]
          exact List.mem_cons_self
        simpa [← earlier] using caused socket event sent []
    | cons first later =>
        simp only [List.cons_append, List.cons.injEq] at rest
        obtain ⟨rfl, _⟩ := rest
        exact justified before socket event later earlier

/-- The socket was opened, and has passed the check of what the event is about. -/
def Vetted (before : List (Mark ids E K Payload)) (socket : SocketId)
    (event : LiveEvent ids Payload) : Prop :=
  (∃ admission, .admitted socket admission ∈ before) ∧ Passed before socket event.resource

/-- An earlier check of the resource found the principal of the socket entitled. -/
def Authorised (store : Store ids E K Payload) (before : List (Mark ids E K Payload))
    (socket : SocketId) (resource : Resource) : Prop :=
  ∃ check state, .passed socket check ∈ before ∧ check.resource = resource ∧ check.Entitled ∧
    store.sockets[socket]? = some state ∧ state.auth = check.auth

section Runs

variable [Field K] [LinearOrder K] [FloorRing K]

structure Guarded (system : System (Store ids E K Payload) (Handler E K)) : Prop where
  attached : ∀ replica topic socket,
    socket ∈ Registry.members (system.store.registries replica).bySession topic →
      ∃ resource, Names ids topic resource ∧ Passed system.store.trail socket resource
  entitled : ∀ socket check, .passed socket check ∈ system.store.trail →
    check.Entitled ∧
      ∃ state : Socket, system.store.sockets[socket]? = some state ∧ state.auth = check.auth
  opened : ∀ (socket : SocketId) (state : Socket), system.store.sockets[socket]? = some state →
    ∃ admission, .admitted socket admission ∈ system.store.trail
  admitted : ∀ socket admission, .admitted socket admission ∈ system.store.trail →
    admission.Valid ∧
      ∃ state : Socket, system.store.sockets[socket]? = some state ∧ state.token = admission.token
  justified : Justified Vetted system.store.trail
  knows : ∀ index, Knows ids (system.procs index)

variable (system : System (Store ids E K Payload) (Handler E K))

theorem guarded_vetted (guarded : Guarded system) (replica : Nat) (socket : SocketId)
    (event : LiveEvent ids Payload)
    (member : socket ∈ Registry.members (system.store.registries replica).bySession event.topic) :
    Vetted system.store.trail socket event := by
  obtain ⟨resource, names, check, passed, about⟩ := guarded.attached replica event.topic socket member
  obtain ⟨_, state, found, _⟩ := guarded.entitled socket check passed
  exact ⟨guarded.opened socket state found, check, passed,
    about.trans (names_unique _ _ _ names (names_event event))⟩

theorem grows_guarded (after : System (Store ids E K Payload) (Handler E K))
    (guarded : Guarded system) (marks : List (Mark ids E K Payload))
    (grows : Grows system.store after.store marks) (knows : ∀ index, Knows ids (after.procs index)) :
    Guarded after := by
  have trail := grows.trail
  constructor
  · intro replica topic socket member
    rcases grows.attaches replica topic socket member with old | ⟨check, passed, names⟩
    · obtain ⟨resource, names, check, passed, about⟩ := guarded.attached replica topic socket old
      exact ⟨resource, names, check, trail ▸ List.mem_append_left _ passed, about⟩
    · exact ⟨check.resource, names, check, trail ▸ List.mem_append_right _ passed, rfl⟩
  · intro socket check passed
    rw [trail] at passed
    rcases List.mem_append.mp passed with old | new
    · obtain ⟨entitled, state, found, auth⟩ := guarded.entitled socket check old
      obtain ⟨later, still, _, same⟩ := grows.keeps socket state found
      exact ⟨entitled, later, still, same.trans auth⟩
    · exact grows.passes socket check new
  · intro socket state found
    rw [trail]
    rcases grows.opens socket state found with ⟨old, stored⟩ | ⟨admission, admitted⟩
    · obtain ⟨admission, admitted⟩ := guarded.opened socket old stored
      exact ⟨admission, List.mem_append_left _ admitted⟩
    · exact ⟨admission, List.mem_append_right _ admitted⟩
  · intro socket admission admitted
    rw [trail] at admitted
    rcases List.mem_append.mp admitted with old | new
    · obtain ⟨valid, state, found, token⟩ := guarded.admitted socket admission old
      obtain ⟨later, still, same, _⟩ := grows.keeps socket state found
      exact ⟨valid, later, still, same.trans token⟩
    · exact grows.admits socket admission new
  · rw [trail]
    apply justified_append _ _ _ guarded.justified
    intro socket event sent more
    obtain ⟨replica, member⟩ := grows.sends socket event sent
    obtain ⟨⟨admission, admitted⟩, check, passed, about⟩ :=
      guarded_vetted system guarded replica socket event member
    exact ⟨⟨admission, List.mem_append_left _ admitted⟩, check, List.mem_append_left _ passed, about⟩
  · exact knows

theorem step_guarded (event : Event Input (Change ids E K Payload)) (guarded : Guarded system) :
    Guarded ((server ids).step system event) := by
  cases event with
  | act index input =>
      obtain ⟨⟨marks, grows⟩, knows⟩ :=
        exec_grows system.store input (system.procs index) (guarded.knows index)
      apply grows_guarded system _ guarded marks grows
      intro other
      by_cases same : other = index
      · subst same
        rw [step_self]
        exact knows
      · rw [step_other _ _ _ _ _ same]
        exact guarded.knows other
  | env change =>
      obtain ⟨marks, grows⟩ := ambient_grows system.store change
      exact grows_guarded system _ guarded marks grows guarded.knows

theorem listening_guarded (db : Database E) (clock : K) (redis : Revocations K) :
    Guarded (listening ids db clock redis : System (Store ids E K Payload) (Handler E K)) := by
  constructor
  · exact fun replica topic socket member => absurd member List.not_mem_nil
  · exact fun socket check member => absurd member List.not_mem_nil
  · exact fun socket state found => (by cases found)
  · exact fun socket admission member => absurd member List.not_mem_nil
  · intro before socket event after split
    simp [listening] at split
  · exact fun _ => trivial

theorem run_guarded (db : Database E) (clock : K) (redis : Revocations K)
    (events : List (Event Input (Change ids E K Payload))) :
    Guarded ((server ids).run (listening ids db clock redis) events) :=
  run_invariant (server ids) Guarded step_guarded _ events (listening_guarded db clock redis)

theorem guarded_authorised (guarded : Guarded system) (before : List (Mark ids E K Payload))
    (socket : SocketId) (resource : Resource) (passed : Passed before socket resource)
    (earlier : ∀ mark ∈ before, mark ∈ system.store.trail) :
    Authorised system.store before socket resource := by
  obtain ⟨check, member, about⟩ := passed
  obtain ⟨entitled, state, found, auth⟩ := guarded.entitled socket check (earlier _ member)
  exact ⟨check, state, member, about, entitled, found, auth⟩

/-- A socket is sent a live frame only after it has passed the access check of
what the frame is about, and is attached to no topic without its check. -/
theorem live_frames_authorised (ids : IdText) (db : Database E) (clock : K) (redis : Revocations K)
    (events : List (Event Input (Change ids E K Payload))) :
    let final := ((server ids).run (listening ids db clock redis) events).store
    (∀ before socket event after, final.trail = before ++ .live socket event :: after →
      Authorised final before socket event.resource) ∧
    (∀ replica topic socket,
      socket ∈ Registry.members (final.registries replica).bySession topic →
        ∃ resource, Names ids topic resource ∧ Authorised final final.trail socket resource) := by
  intro final
  have guarded := run_guarded db clock redis events
  constructor
  · intro before socket event after sent
    have earlier : ∀ mark ∈ before, mark ∈ final.trail :=
      fun mark member => sent ▸ List.mem_append_left _ member
    obtain ⟨_, passed⟩ := guarded.justified before socket event after sent
    exact guarded_authorised _ guarded before socket _ passed earlier
  · intro replica topic socket member
    obtain ⟨resource, names, passed⟩ := guarded.attached replica topic socket member
    exact ⟨resource, names, guarded_authorised _ guarded _ socket resource passed fun _ inside => inside⟩

end Runs

end FaceVec.Ws

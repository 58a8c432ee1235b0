import FaceVec.Http.Bodies
import FaceVec.Http.Routes

/-!
What reaches a handler. No two routes of a router answer one request, so every
route is reached; a request is handled exactly for an action whose values its
schemas are for, and for a principal whose role passes the gates of the action.
-/

namespace FaceVec.Http

open Validation Api Users Courses Faces

section Paths

def Part.apart : Part → Part → Bool
  | .literal one, .literal two => !same one two
  | _, _ => false

def pathsApart : List Part → List Part → Bool
  | [], [] => false
  | one :: rest, two :: more => one.apart two || pathsApart rest more
  | _, _ => true

def Method.apart : Method → Method → Bool
  | .GET, .HEAD | .HEAD, .GET => false
  | one, two => one != two

def Route.apart (one two : Route) : Bool := one.method.apart two.method || pathsApart one.path two.path

/-- No two of the routes answer one request. -/
def distinct : List Route → Bool
  | [] => true
  | route :: rest => rest.all route.apart && distinct rest

theorem same_common (one two segment : String) (first : same one segment = true)
    (second : same two segment = true) : same one two = true := by
  simp only [same, beq_iff_eq] at first second ⊢
  rw [first, second]

theorem same_self (text : String) : same text text = true := beq_self_eq_true _

theorem matchPath_tail (part : Part) (parts : List Part) (segment : String) (rest : List String)
    (matched : (matchPath (part :: parts) (segment :: rest)).isSome) :
    (matchPath parts rest).isSome := by
  cases part with
  | literal text =>
      simp only [matchPath] at matched
      split at matched
      · exact matched
      · cases matched
  | param name =>
      simp only [matchPath] at matched
      split at matched
      · cases matched
      · simpa using matched

theorem matchPath_literal (text : String) (parts : List Part) (segment : String)
    (rest : List String)
    (matched : (matchPath (.literal text :: parts) (segment :: rest)).isSome) :
    same text segment = true := by
  simp only [matchPath] at matched
  split at matched
  · assumption
  · cases matched

theorem paths_meet (parts others : List Part) (path : List String)
    (first : (matchPath parts path).isSome) (second : (matchPath others path).isSome) :
    pathsApart parts others = false := by
  induction path generalizing parts others with
  | nil =>
      cases parts with
      | nil =>
          cases others with
          | nil => rfl
          | cons other _ => cases other <;> cases second
      | cons part _ => cases part <;> cases first
  | cons segment rest ih =>
      cases parts with
      | nil => cases first
      | cons part parts =>
          cases others with
          | nil => cases second
          | cons other others =>
              have tail : pathsApart parts others = false :=
                ih parts others (matchPath_tail _ _ _ _ first) (matchPath_tail _ _ _ _ second)
              -- Two literals that match one segment are the same; a parameter is apart from nothing.
              have head : part.apart other = false := by
                cases part with
                | param name => rfl
                | literal one =>
                    cases other with
                    | param name => rfl
                    | literal two =>
                        simp [Part.apart, same_common one two segment
                          (matchPath_literal _ _ _ _ first) (matchPath_literal _ _ _ _ second)]
              rw [pathsApart, head, tail]
              rfl

theorem methods_meet (one two request : Method) (first : one.serves request = true)
    (second : two.serves request = true) : one.apart two = false := by
  have equal : ∀ route : Method, route.serves request = true →
      route = request ∨ (route = .GET ∧ request = .HEAD) := by
    intro route served
    unfold Method.serves at served
    split at served
    · exact Or.inr ⟨rfl, rfl⟩
    · exact Or.inl (beq_iff_eq.mp served)
  rcases equal one first with rfl | ⟨rfl, rfl⟩
  · rcases equal two second with rfl | ⟨rfl, rfl⟩
    · cases two <;> simp [Method.apart]
    · rfl
  · rcases equal two second with rfl | ⟨rfl, _⟩ <;> rfl

theorem serves_self (method : Method) : method.serves method = true := by
  cases method <;> simp [Method.serves]

/-- The segments of a path with values for its parameters. -/
def fill : List Part → List String → List String
  | [], _ => []
  | .literal text :: parts, values => text :: fill parts values
  | .param _ :: parts, value :: values => value :: fill parts values
  | .param _ :: _, [] => []

def names : List Part → List String
  | [] => []
  | .literal _ :: parts => names parts
  | .param name :: parts => name :: names parts

theorem matchPath_fill (parts : List Part) (values : List String)
    (length : values.length = (names parts).length) (nonempty : ∀ value ∈ values, value ≠ "") :
    matchPath parts (fill parts values) = some ((names parts).zip values) := by
  induction parts generalizing values with
  | nil => rfl
  | cons part parts ih =>
      cases part with
      | literal text =>
          simp only [fill, matchPath, same_self, if_true, names]
          exact ih values length nonempty
      | param name =>
          cases values with
          | nil => cases length
          | cons value values =>
              have some_ : value ≠ "" := nonempty value List.mem_cons_self
              have tail := ih values (Nat.succ.inj length) fun other member =>
                nonempty other (List.mem_cons_of_mem _ member)
              simp only [fill, matchPath, some_, if_false, tail, names, Option.map_some,
                List.zip_cons_cons]

end Paths

section Routes

variable (auth : Except Failure AuthContext) (current : Option AuthContext) (request : Incoming)
  (path : List String)

theorem run_answers (route : Route) (answers : (route.run auth current request path).isSome) :
    route.method.serves request.method = true ∧ (matchPath route.path path).isSome := by
  unfold Route.run at answers
  split at answers
  · next served => exact ⟨served, by simpa using answers⟩
  · cases answers

theorem routes_run (routes : List Route) (apart : distinct routes = true) (route : Route)
    (member : route ∈ routes) (outcome : Outcome)
    (runs : route.run auth current request path = some outcome) :
    routes.findSome? (·.run auth current request path) = some outcome := by
  induction routes with
  | nil => cases member
  | cons first rest ih =>
      obtain ⟨others, later⟩ := Bool.and_eq_true_iff.mp apart
      rcases List.mem_cons.mp member with rfl | among
      · rw [List.findSome?_cons, runs]
      · have silent : first.run auth current request path = none := by
          by_contra answered
          obtain ⟨served, matched⟩ := run_answers auth current request path first
            (Option.isSome_iff_ne_none.mpr answered)
          obtain ⟨served', matched'⟩ := run_answers auth current request path route (by rw [runs]; rfl)
          have clash := List.all_eq_true.mp others route among
          rw [Route.apart, methods_meet _ _ _ served served', paths_meet _ _ _ matched matched'] at clash
          cases clash
        rw [List.findSome?_cons, silent]
        exact ih later among

theorem run_handled (route : Route) (actor : Option AuthContext) (action : Action)
    (handled : route.run auth current request path = some (.handled actor action)) :
    (matchPath route.path path).isSome ∧ route.guard.admits auth current = .ok actor ∧
      ∃ parts, parts.upload = request.upload ∧ route.read parts = .ok action := by
  obtain ⟨served, matched⟩ := run_answers auth current request path route (by rw [handled]; rfl)
  refine ⟨matched, ?_⟩
  rw [Route.run, if_pos served] at handled
  obtain ⟨params, _, outcome⟩ := Option.map_eq_some_iff.mp handled
  split at outcome
  · cases outcome
  · next admitted =>
      split at outcome
      · cases outcome
      · next read =>
          cases outcome
          exact ⟨admitted, _, rfl, read⟩

/-- With some values of the path and some query, this body and this image are read as the action. -/
def Offers (body : Option Json) (upload : Except Failure (Option UploadedImage))
    (read : Parts → Except Rejection Action) (names : List String) (action : Action) : Prop :=
  ∃ values : List String, values.length = names.length ∧ (∀ value ∈ values, value ≠ "") ∧
    ∃ query, read ⟨body, names.zip values, query, upload⟩ = .ok action

theorem router_handled (router : Router) (actor : Option AuthContext) (action : Action)
    (handled : router.run auth request = some (.handled actor action)) :
    ∃ path current, router.mounted request.path = some path ∧ router.enter auth = .ok current ∧
      ∃ route ∈ router.routes, (matchPath route.path path).isSome ∧
        route.guard.admits auth current = .ok actor ∧
          ∃ parts, parts.upload = request.upload ∧ route.read parts = .ok action := by
  obtain ⟨path, mounted, outcome⟩ := Option.bind_eq_some_iff.mp handled
  split at outcome
  · cases outcome
  · next current entered =>
      obtain ⟨route, member, ran⟩ := List.exists_of_findSome?_eq_some outcome
      exact ⟨path, current, mounted, entered, route, member,
        run_handled auth current request path route actor action ran⟩

theorem mounted_base (router : Router) (base : String) (under : router.base = some base)
    (path : List String) : router.mounted (base :: path) = some path := by
  simp [Router.mounted, under, same_self]

theorem mounted_elsewhere (router : Router) (base head : String) (under : router.base = some base)
    (elsewhere : same base head = false) (path : List String) :
    router.mounted (head :: path) = none := by
  simp [Router.mounted, under, elsewhere]

theorem run_elsewhere (router : Router) (unmounted : router.mounted request.path = none) :
    router.run auth request = none := by
  rw [Router.run, unmounted]
  rfl

/-- A route hands an action that it offers to a principal it admits. -/
theorem router_reaches (router : Router) (apart : distinct router.routes = true) (route : Route)
    (member : route ∈ router.routes) (actor : Option AuthContext) (action : Action)
    (entered : router.enter auth = .ok current)
    (admitted : route.guard.admits auth current = .ok actor) {body : Option Json}
    {upload : Except Failure (Option UploadedImage)}
    (offers : Offers body upload route.read (names route.path) action) :
    ∃ values query,
      values.length = (names route.path).length ∧ (∀ value ∈ values, value ≠ "") ∧
        router.run auth ⟨route.method, router.base.toList ++ fill route.path values, body, query,
          upload⟩ = some (.handled actor action) := by
  obtain ⟨values, length, nonempty, query, read⟩ := offers
  refine ⟨values, query, length, nonempty, ?_⟩
  have mounted : router.mounted (router.base.toList ++ fill route.path values) =
      some (fill route.path values) := by
    cases under : router.base with
    | none => simp [Router.mounted, under]
    | some base => exact mounted_base router base under _
  have matched := matchPath_fill route.path values length nonempty
  simp only [Router.run, mounted, Option.bind_some, entered]
  refine routes_run auth current _ _ router.routes apart route member _ ?_
  simp only [Route.run, serves_self, if_true, matched, Option.map_some, admitted, read]

end Routes

section Reading

variable {α β γ : Type} {body : Schema α} {query : Schema γ} {bodies queries : List String}
  {fits : α → Prop} {fits' : γ → Prop}

theorem validated_sound (bodyAdmits : Admits body bodies fits) (params : Schema β)
    (queryAdmits : Admits query queries fits') (make : α → β → γ → Action) (holds : Action → Prop)
    (all : ∀ input own asked, fits input → fits' asked → holds (make input own asked))
    (parts : Parts) (action : Action)
    (read : validated body params query make parts = .ok action) : holds action := by
  unfold validated at read
  split at read
  · cases read
  · next value passed =>
      cases read
      obtain ⟨first, _, third⟩ := (validate_ok _ _ _ _ _).mp passed
      obtain ⟨encode, lawful⟩ := bodyAdmits.lawful
      obtain ⟨encode', lawful'⟩ := queryAdmits.lawful
      exact all _ _ _ (lawful.sound _ _ first) (lawful'.sound _ _ third)

theorem withImage_sound (params : Schema β) (make : β → UploadedImage → Action)
    (holds : Action → Prop) (all : ∀ own file, holds (make own file)) (parts : Parts)
    (action : Action) (read : withImage params make parts = .ok action) : holds action := by
  unfold withImage at read
  split at read
  · cases read
  · split at read
    · cases read
    · cases read
    · cases read
      exact all _ _

/-- Some texts in the path are read as the value. -/
def Fills (params : Schema β) (names : List String) (own : β) : Prop :=
  ∃ values : List String, values.length = names.length ∧ (∀ value ∈ values, value ≠ "") ∧
    params (some (.object ((names.zip values).map fun entry => (entry.1, .string entry.2)))) =
      .done own []

theorem validated_offers {json : Option Json} {upload : Except Failure (Option UploadedImage)}
    {params : Schema β} {make : α → β → γ → Action} {names : List String} {action : Action}
    {input : α} {own : β} (bodied : body json = .done input []) (fills : Fills params names own)
    (queryAdmits : Admits query queries fits') (asked : γ) (fitting : fits' asked)
    (made : make input own asked = action := by rfl) :
    Offers json upload (validated body params query make) names action := by
  obtain ⟨encode, lawful⟩ := queryAdmits.lawful
  obtain ⟨values, length, nonempty, filled⟩ := fills
  refine ⟨values, length, nonempty, encode asked, ?_⟩
  have passed : validate body params query ⟨json, names.zip values, encode asked, upload⟩ =
      .ok (input, own, asked) :=
    (validate_ok _ _ _ _ _).mpr ⟨bodied, filled, lawful.complete asked fitting⟩
  rw [validated, passed, ← made]

theorem withImage_offers {json : Option Json} {params : Schema β}
    {make : β → UploadedImage → Action} {names : List String} {action : Action} {own : β}
    (fills : Fills params names own) (file : UploadedImage)
    (made : make own file = action := by rfl) :
    Offers json (.ok (some file)) (withImage params make) names action := by
  obtain ⟨values, length, nonempty, filled⟩ := fills
  refine ⟨values, length, nonempty, [], ?_⟩
  have passed : validate ignored params ignored ⟨json, names.zip values, [], .ok (some file)⟩ =
      .ok ((), own, ()) :=
    (validate_ok _ _ _ _ _).mpr ⟨rfl, filled, rfl⟩
  rw [withImage, passed, ← made]

variable (formats : Formats)

theorem ignored_fills : Fills ignored [] () := ⟨[], rfl, by simp, rfl⟩

theorem id_done (own : Uuid) : id formats (some (.string (formats.print own))) = .done own [] :=
  (id_lawful formats).complete own trivial

theorem idSchema_fills (key : String) (own : Uuid) : Fills (idSchema formats key) [key] own := by
  refine ⟨[formats.print own], rfl, by simpa using print_nonempty formats own, ?_⟩
  simp [idSchema, object, field, Json.field, id_done, Parsed.under]

theorem idsSchema_fills (key other : String) (apart : key ≠ other) (own : Uuid × Uuid) :
    Fills (idsSchema formats key other) [key, other] own := by
  refine ⟨[formats.print own.1, formats.print own.2], rfl, by simp [print_nonempty], ?_⟩
  simp [idsSchema, object, field, Shape.both, Json.field, id_done, Parsed.under, Parsed.both,
    Parsed.map, Parsed.prepend, apart.symm]

end Reading

section Actions

variable (formats : Formats)

/-- The values that the schemas of an action's route are for. -/
def WellFormed : Action → Prop
  | .register input => RegisterFits formats input
  | .login input => LoginFits formats input
  | .refresh | .logout => True
  | .users (.listUsers query) => ListUsersFits formats query
  | .users (.createUser input) => CreateUserFits formats input
  | .users (.updateUser _ input) => UpdateUserFits input
  | .users (.getUser _) | .users (.deleteUser _) | .users .me | .users .logoutAll => True
  | .users (.elsewhere _) => False
  | .api (.listCourses query) => ListCoursesFits formats query
  | .api (.createCourse input) => CreateCourseFits input
  | .api (.updateCourse _ input) => UpdateCourseFits input
  | .api (.listEnrollments _ query) | .api (.listSessions _ query) | .api (.listRecords _ query) =>
      PageFits formats query
  | .api (.enrollStudent _ input) => EnrollStudentFits formats input
  | .api (.bulkEnroll _ rows) => BulkEnrollFits formats rows
  | .api (.listStudents query) => ListStudentsFits formats query
  | .api (.createStudent input) => CreateStudentFits formats input
  | .api (.updateStudent _ input) => UpdateStudentFits formats input
  | .api _ => True

/-- The capabilities an action asks for, where it asks for a principal. -/
def Action.gates : Action → Option (List Capability)
  | .register _ | .login _ | .refresh | .logout => none
  | .users request => some request.gates
  | .api request => some request.gates

/-- The principal of an action that asks for none. -/
def Action.visitor (auth : Except Failure AuthContext) : Action → Option AuthContext
  | .logout => auth.toOption
  | _ => none

/-- The body that a client sends for an action, where its route reads one. -/
def Action.body : Action → Option Json
  | .register input => some (registerBody input)
  | .login input => some (loginBody input)
  | .users (.createUser input) => some (createUserBody input)
  | .users (.updateUser _ input) => some (updateUserBody input)
  | .api (.createCourse input) => some (createCourseBody formats input)
  | .api (.updateCourse _ input) => some (updateCourseBody formats input)
  | .api (.enrollStudent _ input) => some (enrollStudentBody formats input)
  | .api (.bulkEnroll _ rows) => some (bulkEnrollBody rows)
  | .api (.createStudent input) => some (createStudentBody input)
  | .api (.updateStudent _ input) => some (updateStudentBody input)
  | .api (.markAttendance _ input) => some (markAttendanceBody formats input)
  | _ => none

/-- The image that an action comes with, where its route takes one. -/
def Action.comesWith (upload : Except Failure (Option UploadedImage)) : Action → Prop
  | .api (.enrollFace _ file) => upload = .ok (some file)
  | .api (.identify _) => ∃ file, upload = .ok (some file)
  | _ => True

def Permitted (auth : Except Failure AuthContext) (actor : Option AuthContext) (action : Action) :
    Prop :=
  match action.gates with
  | some gates => ∃ own, auth = .ok own ∧ actor = some own ∧
      ∀ capability ∈ gates, can own.role capability = true
  | none => actor = action.visitor auth

theorem authorize_ok (auth : Except Failure AuthContext) (capability : Capability)
    (own : AuthContext) (passed : authorize auth capability = .ok own) :
    auth = .ok own ∧ can own.role capability = true := by
  unfold authorize at passed
  split at passed
  · cases passed
  · split at passed
    · next allowed =>
        cases passed
        exact ⟨rfl, allowed⟩
    · cases passed

theorem authorize_pass (own : AuthContext) (capability : Capability)
    (allowed : can own.role capability = true) :
    authorize (.ok own) capability = .ok own := by
  simp [authorize, allowed]

theorem map_some_ok (auth : Except Failure AuthContext) (actor : Option AuthContext)
    (passed : auth.map some = .ok actor) : ∃ own, auth = .ok own ∧ actor = some own := by
  cases auth with
  | error failure => cases passed
  | ok own =>
      cases passed
      exact ⟨own, rfl, rfl⟩

section Sound

/-- What the routes of a router read, whatever the parts are. -/
def Yields (routes : List Route) (holds : Route → Action → Prop) : Prop :=
  ∀ route ∈ routes, ∀ parts action, route.read parts = .ok action → holds route action

theorem authRouter_yields :
    Yields (authRouter formats).routes fun route action => WellFormed formats action ∧
      ∀ auth actor, route.guard.admits auth none = .ok actor → Permitted auth actor action := by
  have principal (auth : Except Failure AuthContext) (actor : Option AuthContext)
      (passed : auth.map some = .ok actor) :
      ∃ own, auth = .ok own ∧ actor = some own ∧
        ∀ capability ∈ ([] : List Capability), can own.role capability = true := by
    obtain ⟨own, same, rfl⟩ := map_some_ok auth actor passed
    exact ⟨own, same, rfl, by simp⟩
  simp only [Yields, authRouter, List.forall_mem_cons]
  refine ⟨?_, ?_, ?_, ?_, ?_, ?_, by simp⟩
  · exact validated_sound (registerSchema_admits formats) _ ignored_admits _ _
      fun _ _ _ fits _ => ⟨fits, fun _ _ passed => (Except.ok.inj passed).symm⟩
  · exact validated_sound (loginSchema_admits formats) _ ignored_admits _ _
      fun _ _ _ fits _ => ⟨fits, fun _ _ passed => (Except.ok.inj passed).symm⟩
  · rintro _ _ ⟨⟩
    exact ⟨trivial, fun _ _ passed => (Except.ok.inj passed).symm⟩
  · rintro _ _ ⟨⟩
    refine ⟨trivial, fun auth _ passed => ?_⟩
    simpa [Guard.admits, Permitted, Action.gates, Action.visitor] using (Except.ok.inj passed).symm
  · rintro _ _ ⟨⟩
    exact ⟨trivial, principal⟩
  · rintro _ _ ⟨⟩
    exact ⟨trivial, principal⟩

theorem usersRouter_yields :
    Yields (usersRouter formats).routes fun route action => route.guard = .unguarded ∧
      WellFormed formats action ∧ action.gates = some [.MANAGE_USERS] := by
  simp only [Yields, usersRouter, List.forall_mem_cons]
  refine ⟨?_, ?_, ?_, ?_, ?_, by simp⟩
  · exact validated_sound ignored_admits _ (listUsersQuerySchema_admits formats) _ _
      fun _ _ _ _ fits => ⟨trivial, fits, rfl⟩
  · exact validated_sound (createUserSchema_admits formats) _ ignored_admits _ _
      fun _ _ _ fits _ => ⟨trivial, fits, rfl⟩
  · exact validated_sound ignored_admits _ ignored_admits _ _ fun _ _ _ _ _ => ⟨trivial, trivial, rfl⟩
  · exact validated_sound updateUserSchema_admits _ ignored_admits _ _
      fun _ _ _ fits _ => ⟨trivial, fits, rfl⟩
  · exact validated_sound ignored_admits _ ignored_admits _ _ fun _ _ _ _ _ => ⟨trivial, trivial, rfl⟩

theorem studentsRouter_yields :
    Yields (studentsRouter formats).routes fun route action => route.guard = .unguarded ∧
      WellFormed formats action ∧ action.gates = some [.ENROLL_STUDENTS] := by
  simp only [Yields, studentsRouter, List.forall_mem_cons]
  refine ⟨?_, ?_, ?_, ?_, ?_, ?_, ?_, ?_, by simp⟩
  · exact validated_sound ignored_admits _ (listStudentsQuerySchema_admits formats) _ _
      fun _ _ _ _ fits => ⟨trivial, fits, rfl⟩
  · exact validated_sound (createStudentSchema_admits formats) _ ignored_admits _ _
      fun _ _ _ fits _ => ⟨trivial, fits, rfl⟩
  · exact validated_sound ignored_admits _ ignored_admits _ _ fun _ _ _ _ _ => ⟨trivial, trivial, rfl⟩
  · exact validated_sound (updateStudentSchema_admits formats) _ ignored_admits _ _
      fun _ _ _ fits _ => ⟨trivial, fits, rfl⟩
  · exact validated_sound ignored_admits _ ignored_admits _ _ fun _ _ _ _ _ => ⟨trivial, trivial, rfl⟩
  · exact withImage_sound _ _ _ fun _ _ => ⟨trivial, trivial, rfl⟩
  · exact validated_sound ignored_admits _ ignored_admits _ _ fun _ _ _ _ _ => ⟨trivial, trivial, rfl⟩
  · exact validated_sound ignored_admits _ ignored_admits _ _ fun _ _ _ _ _ => ⟨trivial, trivial, rfl⟩

theorem coursesRouter_yields :
    Yields (coursesRouter formats).routes fun route action => route.guard = .unguarded ∧
      WellFormed formats action ∧ action.gates = some [.MANAGE_OWN_COURSES] := by
  simp only [Yields, coursesRouter, List.forall_mem_cons]
  refine ⟨?_, ?_, ?_, ?_, ?_, ?_, ?_, ?_, ?_, ?_, by simp⟩
  · exact validated_sound ignored_admits _ (listCoursesQuerySchema_admits formats) _ _
      fun _ _ _ _ fits => ⟨trivial, fits, rfl⟩
  · exact validated_sound (createCourseSchema_admits formats) _ ignored_admits _ _
      fun _ _ _ fits _ => ⟨trivial, fits, rfl⟩
  · exact validated_sound ignored_admits _ ignored_admits _ _ fun _ _ _ _ _ => ⟨trivial, trivial, rfl⟩
  · exact validated_sound (updateCourseSchema_admits formats) _ ignored_admits _ _
      fun _ _ _ fits _ => ⟨trivial, fits, rfl⟩
  · exact validated_sound ignored_admits _ ignored_admits _ _ fun _ _ _ _ _ => ⟨trivial, trivial, rfl⟩
  · exact validated_sound ignored_admits _ (paginationSchema_admits formats) _ _
      fun _ _ _ _ fits => ⟨trivial, fits, rfl⟩
  · exact validated_sound (enrollStudentSchema_admits formats) _ ignored_admits _ _
      fun _ _ _ fits _ => ⟨trivial, fits, rfl⟩
  · exact validated_sound (bulkEnrollSchema_admits formats) _ ignored_admits _ _
      fun _ _ _ fits _ => ⟨trivial, fits, rfl⟩
  · exact validated_sound ignored_admits _ ignored_admits _ _ fun _ _ _ _ _ => ⟨trivial, trivial, rfl⟩
  · exact validated_sound ignored_admits _ ignored_admits _ _ fun _ _ _ _ _ => ⟨trivial, trivial, rfl⟩

/-- The session routes of a course, and those of a session. -/
theorem attendanceRouter_yields :
    Yields (attendanceRouter formats).routes fun route action =>
      route.guard = .capable .RUN_ATTENDANCE ∧ WellFormed formats action ∧
        ((action.gates = some [.MANAGE_OWN_COURSES, .RUN_ATTENDANCE] ∧
            route.path.head? = some (.literal "courses")) ∨
          action.gates = some [.RUN_ATTENDANCE]) := by
  simp only [Yields, attendanceRouter, List.forall_mem_cons]
  refine ⟨?_, ?_, ?_, ?_, ?_, ?_, ?_, by simp⟩
  · exact validated_sound ignored_admits _ ignored_admits _ _
      fun _ _ _ _ _ => ⟨trivial, trivial, Or.inl ⟨rfl, rfl⟩⟩
  · exact validated_sound ignored_admits _ (paginationSchema_admits formats) _ _
      fun _ _ _ _ fits => ⟨trivial, fits, Or.inl ⟨rfl, rfl⟩⟩
  · exact validated_sound ignored_admits _ ignored_admits _ _
      fun _ _ _ _ _ => ⟨trivial, trivial, Or.inr rfl⟩
  · exact validated_sound ignored_admits _ ignored_admits _ _
      fun _ _ _ _ _ => ⟨trivial, trivial, Or.inr rfl⟩
  · exact validated_sound (markAttendanceSchema_admits formats) _ ignored_admits _ _
      fun _ _ _ _ _ => ⟨trivial, trivial, Or.inr rfl⟩
  · exact withImage_sound _ _ _ fun _ _ => ⟨trivial, trivial, Or.inr rfl⟩
  · exact validated_sound ignored_admits _ (paginationSchema_admits formats) _ _
      fun _ _ _ _ fits => ⟨trivial, fits, Or.inr rfl⟩

variable (auth : Except Failure AuthContext) (request : Incoming) (actor : Option AuthContext)
  (action : Action)

theorem dispatch_some (outcome : Outcome) (answered : dispatch formats auth request = outcome)
    (found : outcome ≠ .notFound) :
    (routers formats).findSome? (·.run auth request) = some outcome := by
  unfold dispatch at answered
  cases ran : (routers formats).findSome? (·.run auth request) with
  | none =>
      rw [ran] at answered
      exact absurd answered.symm found
  | some own =>
      rw [ran] at answered
      exact congrArg some answered

/-- The router that handles a request; the attendance router does so only behind the others. -/
theorem dispatch_router (handled : dispatch formats auth request = .handled actor action) :
    ∃ router ∈ routers formats, router.run auth request = some (.handled actor action) ∧
      (router = attendanceRouter formats → (coursesRouter formats).run auth request = none) := by
  have some_ := dispatch_some formats auth request _ handled (by simp)
  have bases : ∀ router ∈ (routers formats).dropLast, router ≠ attendanceRouter formats := by
    intro router member same
    have base : router.base ≠ none := by
      simp only [routers, List.dropLast_cons_cons, List.dropLast_singleton, List.mem_cons,
        List.not_mem_nil, or_false] at member
      rcases member with rfl | rfl | rfl | rfl <;> exact Option.some_ne_none _
    exact base (same ▸ rfl)
  obtain ⟨before, router, after, split, ran, earlier⟩ := List.findSome?_eq_some_iff.mp some_
  refine ⟨router, split ▸ by simp, ran, ?_⟩
  rintro rfl
  refine earlier _ ?_
  -- Only the last router is mounted at the root.
  have last : after = [] := by
    by_contra more
    refine bases (attendanceRouter formats) ?_ rfl
    rw [split, List.dropLast_append_of_ne_nil (List.cons_ne_nil _ _),
      List.dropLast_cons_of_ne_nil more]
    simp
  have front : before = (routers formats).dropLast := by
    rw [split, last]
    simp
  rw [front]
  simp [routers]

theorem gated_permitted (router : Router) (capability : Capability)
    (gated : router.gate = some capability)
    (yields : Yields router.routes fun route action => route.guard = .unguarded ∧
      WellFormed formats action ∧ action.gates = some [capability])
    (handled : router.run auth request = some (.handled actor action)) :
    WellFormed formats action ∧ Permitted auth actor action := by
  obtain ⟨path, current, _, entered, route, member, _, admitted, parts, _, read⟩ :=
    router_handled auth request router actor action handled
  obtain ⟨unguarded, fits, gates⟩ := yields route member parts action read
  rw [unguarded] at admitted
  obtain rfl := Except.ok.inj admitted
  rw [Router.enter, gated] at entered
  obtain ⟨own, passed, rfl⟩ := map_some_ok _ _ entered
  obtain ⟨rfl, allowed⟩ := authorize_ok auth capability own passed
  refine ⟨fits, ?_⟩
  simp only [Permitted, gates]
  exact ⟨own, rfl, rfl, by simpa using allowed⟩

/-- A course path that the course router leaves alone has passed its gate. -/
theorem courses_entered (literals : ∃ rest, request.path = "courses" :: rest ∨
      ∃ head, same "courses" head = true ∧ request.path = head :: rest)
    (left : (coursesRouter formats).run auth request = none) :
    ∃ own, auth = .ok own ∧ can own.role .MANAGE_OWN_COURSES = true := by
  have mounted : ∃ rest, (coursesRouter formats).mounted request.path = some rest := by
    obtain ⟨rest, rfl_ | ⟨head, alike, path⟩⟩ := literals
    · exact ⟨rest, by rw [rfl_]; exact mounted_base _ _ rfl _⟩
    · exact ⟨rest, by simp [path, Router.mounted, coursesRouter, alike]⟩
  obtain ⟨rest, mounted⟩ := mounted
  rw [Router.run, mounted, Option.bind_some] at left
  cases entered : (coursesRouter formats).enter auth with
  | error failure =>
      rw [entered] at left
      cases left
  | ok current =>
      obtain ⟨own, passed, _⟩ := map_some_ok _ _ entered
      exact ⟨own, authorize_ok auth _ own passed⟩

theorem head_matched (parts : List Part) (path : List String) (text : String)
    (head : parts.head? = some (.literal text)) (matched : (matchPath parts path).isSome) :
    ∃ segment rest, same text segment = true ∧ path = segment :: rest := by
  cases parts with
  | nil => cases head
  | cons part parts =>
      obtain rfl := Option.some.inj head
      cases path with
      | nil => cases matched
      | cons segment rest =>
          simp only [matchPath] at matched
          split at matched
          · next alike => exact ⟨segment, rest, alike, rfl⟩
          · cases matched

theorem attendance_permitted
    (handled : (attendanceRouter formats).run auth request = some (.handled actor action))
    (left : (coursesRouter formats).run auth request = none) :
    WellFormed formats action ∧ Permitted auth actor action := by
  obtain ⟨path, current, mounted, entered, route, member, matched, admitted, parts, _, read⟩ :=
    router_handled auth request _ actor action handled
  obtain ⟨guard, fits, gates⟩ := attendanceRouter_yields formats route member parts action read
  obtain rfl : request.path = path := Option.some.inj mounted
  rw [guard] at admitted
  obtain ⟨own, passed, rfl⟩ := map_some_ok _ _ admitted
  obtain ⟨rfl, allowed⟩ := authorize_ok auth .RUN_ATTENDANCE own passed
  refine ⟨fits, ?_⟩
  rcases gates with ⟨gates, head⟩ | gates
  · obtain ⟨segment, rest, alike, path⟩ := head_matched _ _ _ head matched
    obtain ⟨other, same, owns⟩ :=
      courses_entered formats _ request ⟨rest, Or.inr ⟨segment, alike, path⟩⟩ left
    obtain rfl := Except.ok.inj same
    simp only [Permitted, gates]
    exact ⟨own, rfl, rfl, by simp [owns, allowed]⟩
  · simp only [Permitted, gates]
    exact ⟨own, rfl, rfl, by simpa using allowed⟩

theorem auth_permitted
    (handled : (authRouter formats).run auth request = some (.handled actor action)) :
    WellFormed formats action ∧ Permitted auth actor action := by
  obtain ⟨path, current, _, entered, route, member, _, admitted, parts, _, read⟩ :=
    router_handled auth request _ actor action handled
  obtain rfl := Except.ok.inj entered
  obtain ⟨fits, permits⟩ := authRouter_yields formats route member parts action read
  exact ⟨fits, permits auth actor admitted⟩

theorem dispatch_permitted (handled : dispatch formats auth request = .handled actor action) :
    WellFormed formats action ∧ Permitted auth actor action := by
  obtain ⟨router, member, ran, last⟩ := dispatch_router formats auth request actor action handled
  simp only [routers, List.mem_cons, List.not_mem_nil, or_false] at member
  rcases member with rfl | rfl | rfl | rfl | rfl
  · exact auth_permitted formats auth request actor action ran
  · exact gated_permitted formats auth request actor action _ _ rfl (usersRouter_yields formats) ran
  · exact gated_permitted formats auth request actor action _ _ rfl (studentsRouter_yields formats)
      ran
  · exact gated_permitted formats auth request actor action _ _ rfl (coursesRouter_yields formats)
      ran
  · exact attendance_permitted formats auth request actor action ran (last rfl)

/-- An action comes with the image of its request. -/
def Pictured (routes : List Route) : Prop :=
  ∀ route ∈ routes, ∀ parts action, route.read parts = .ok action → action.comesWith parts.upload

theorem validated_pictured {α β γ : Type} (body : Schema α) (params : Schema β) (query : Schema γ)
    (make : α → β → γ → Action) (imageless : ∀ input own asked upload,
      (make input own asked).comesWith upload) (parts : Parts) (action : Action)
    (read : validated body params query make parts = .ok action) :
    action.comesWith parts.upload := by
  unfold validated at read
  split at read
  · cases read
  · cases read
    exact imageless _ _ _ _

theorem withImage_pictured {β : Type} (params : Schema β) (make : β → UploadedImage → Action)
    (pictured : ∀ own file, (make own file).comesWith (.ok (some file))) (parts : Parts)
    (action : Action) (read : withImage params make parts = .ok action) :
    action.comesWith parts.upload := by
  unfold withImage at read
  split at read
  · cases read
  · split at read
    · cases read
    · cases read
    · next file uploaded =>
        cases read
        exact uploaded ▸ pictured _ file

theorem routers_pictured : ∀ router ∈ routers formats, Pictured router.routes := by
  have plain {α β γ : Type} (body : Schema α) (params : Schema β) (query : Schema γ)
      (make : α → β → γ → Action) := validated_pictured body params query make
  simp only [routers, List.forall_mem_cons, Pictured]
  refine ⟨?_, ?_, ?_, ?_, ?_, by simp⟩
  · simp only [authRouter, List.forall_mem_cons]
    refine ⟨plain _ _ _ _ fun _ _ _ _ => trivial, plain _ _ _ _ fun _ _ _ _ => trivial, ?_, ?_, ?_,
      ?_, by simp⟩
    all_goals
      rintro _ _ ⟨⟩
      trivial
  · simp only [usersRouter, List.forall_mem_cons]
    refine ⟨?_, ?_, ?_, ?_, ?_, by simp⟩
    all_goals exact plain _ _ _ _ fun _ _ _ _ => trivial
  · simp only [studentsRouter, List.forall_mem_cons]
    refine ⟨?_, ?_, ?_, ?_, ?_, withImage_pictured _ _ fun _ _ => rfl, ?_, ?_, by simp⟩
    all_goals exact plain _ _ _ _ fun _ _ _ _ => trivial
  · simp only [coursesRouter, List.forall_mem_cons]
    refine ⟨?_, ?_, ?_, ?_, ?_, ?_, ?_, ?_, ?_, ?_, by simp⟩
    all_goals exact plain _ _ _ _ fun _ _ _ _ => trivial
  · simp only [attendanceRouter, List.forall_mem_cons]
    refine ⟨?_, ?_, ?_, ?_, ?_, withImage_pictured _ _ fun _ file => ⟨file, rfl⟩, ?_, by simp⟩
    all_goals exact plain _ _ _ _ fun _ _ _ _ => trivial

theorem dispatch_pictured (handled : dispatch formats auth request = .handled actor action) :
    action.comesWith request.upload := by
  obtain ⟨router, member, ran, _⟩ := dispatch_router formats auth request actor action handled
  obtain ⟨_, _, _, _, route, among, _, _, parts, same, read⟩ :=
    router_handled auth request router actor action ran
  exact same ▸ routers_pictured formats router member route among parts action read

end Sound

section Complete

variable (auth : Except Failure AuthContext) (actor : Option AuthContext) (action : Action)
  {body : Option Json} {upload : Except Failure (Option UploadedImage)}

/-- Some request with this body and this image is handled for the action. -/
def Served (body : Option Json) (upload : Except Failure (Option UploadedImage)) : Prop :=
  ∃ method path query,
    dispatch formats auth ⟨method, path, body, query, upload⟩ = .handled actor action

/-- The routers before one do not answer a path under its base. -/
theorem dispatch_under (before after : List Router) (router : Router) (request : Incoming)
    (outcome : Outcome) (split : routers formats = before ++ router :: after)
    (earlier : ∀ other ∈ before, other.run auth request = none)
    (ran : router.run auth request = some outcome) :
    dispatch formats auth request = outcome := by
  rw [dispatch, List.findSome?_eq_some_iff.mpr ⟨before, router, after, split, ran, earlier⟩]
  rfl

/-- A route of a router under a base is reached where the bases before are others. -/
theorem base_reaches (before after : List Router) (router : Router) (base : String)
    (split : routers formats = before ++ router :: after) (under : router.base = some base)
    (elsewhere : ∀ other ∈ before, ∃ own, other.base = some own ∧ same own base = false)
    (apart : distinct router.routes = true) (route : Route) (member : route ∈ router.routes)
    (current : Option AuthContext) (entered : router.enter auth = .ok current)
    (admitted : route.guard.admits auth current = .ok actor)
    (offers : Offers body upload route.read (names route.path) action) :
    Served formats auth actor action body upload := by
  obtain ⟨values, query, _, _, ran⟩ :=
    router_reaches auth current router apart route member actor action entered admitted offers
  refine ⟨_, _, _,
    dispatch_under formats auth before after router _ _ split (fun other known => ?_) ran⟩
  obtain ⟨own, based, differs⟩ := elsewhere other known
  exact run_elsewhere auth _ other (by
    rw [under]
    exact mounted_elsewhere other own base based differs _)

theorem auth_reaches (index : ℕ) {method : Method} {path : List Part} {guard : Guard}
    {read : Parts → Except Rejection Action}
    (listed : (authRouter formats).routes[index]? = some ⟨method, path, guard, read⟩)
    (admitted : guard.admits auth none = .ok actor)
    (offers : Offers body upload read (names path) action) :
    Served formats auth actor action body upload :=
  base_reaches formats auth actor action [] _ (authRouter formats) "auth" rfl rfl (by simp) rfl _
    (List.mem_of_getElem? listed) none rfl admitted offers

section Gated

variable (own : AuthContext) (offered : Action)

theorem gate_enters (router : Router) (capability : Capability)
    (gated : router.gate = some capability) (allowed : can own.role capability = true) :
    router.enter (.ok own) = .ok (some own) := by
  rw [Router.enter, gated]
  simp only [authorize_pass own capability allowed]
  rfl

theorem users_reaches (allowed : can own.role .MANAGE_USERS = true) (index : ℕ) {method : Method}
    {path : List Part} {read : Parts → Except Rejection Action}
    (listed : (usersRouter formats).routes[index]? = some ⟨method, path, .unguarded, read⟩)
    (offers : Offers body upload read (names path) offered) :
    Served formats (.ok own) (some own) offered body upload :=
  base_reaches formats _ _ _ [authRouter formats] _ (usersRouter formats) "users" rfl rfl
    (by simpa using ⟨"auth", rfl, by decide⟩) rfl _ (List.mem_of_getElem? listed) (some own)
    (gate_enters own _ _ rfl allowed) rfl offers

theorem students_reaches (allowed : can own.role .ENROLL_STUDENTS = true) (index : ℕ) {method : Method}
    {path : List Part} {read : Parts → Except Rejection Action}
    (listed : (studentsRouter formats).routes[index]? = some ⟨method, path, .unguarded, read⟩)
    (offers : Offers body upload read (names path) offered) :
    Served formats (.ok own) (some own) offered body upload :=
  base_reaches formats _ _ _ [authRouter formats, usersRouter formats] _ (studentsRouter formats)
    "students" rfl rfl (by simpa using ⟨⟨"auth", rfl, by decide⟩, ⟨"users", rfl, by decide⟩⟩) rfl
    _ (List.mem_of_getElem? listed) (some own) (gate_enters own _ _ rfl allowed) rfl offers

theorem courses_reaches (allowed : can own.role .MANAGE_OWN_COURSES = true) (index : ℕ) {method : Method}
    {path : List Part} {read : Parts → Except Rejection Action}
    (listed : (coursesRouter formats).routes[index]? = some ⟨method, path, .unguarded, read⟩)
    (offers : Offers body upload read (names path) offered) :
    Served formats (.ok own) (some own) offered body upload :=
  base_reaches formats _ _ _ [authRouter formats, usersRouter formats, studentsRouter formats] _
    (coursesRouter formats) "courses" rfl rfl
    (by simpa using ⟨⟨"auth", rfl, by decide⟩, ⟨"users", rfl, by decide⟩, ⟨"students", rfl, by decide⟩⟩)
    rfl _ (List.mem_of_getElem? listed) (some own) (gate_enters own _ _ rfl allowed) rfl offers

def others : List Router :=
  [authRouter formats, usersRouter formats, studentsRouter formats, coursesRouter formats]

theorem attendance_reaches (allowed : can own.role .RUN_ATTENDANCE = true) (index : ℕ)
    {method : Method} {path : List Part} {read : Parts → Except Rejection Action}
    (listed : (attendanceRouter formats).routes[index]? =
      some ⟨method, path, .capable .RUN_ATTENDANCE, read⟩)
    (earlier : ∀ values : List String, values.length = (names path).length →
      (∀ value ∈ values, value ≠ "") → ∀ body query upload, ∀ other ∈ others formats,
        other.run (.ok own) ⟨method, fill path values, body, query, upload⟩ = none)
    (offers : Offers body upload read (names path) offered) :
    Served formats (.ok own) (some own) offered body upload := by
  have admitted : (Guard.capable .RUN_ATTENDANCE).admits (.ok own) none = .ok (some own) := by
    rw [Guard.admits, authorize_pass own _ allowed]
    rfl
  obtain ⟨values, query, length, nonempty, ran⟩ :=
    router_reaches (.ok own) none (attendanceRouter formats) rfl _ (List.mem_of_getElem? listed)
      (some own) offered rfl admitted offers
  exact ⟨_, _, _, dispatch_under formats (.ok own) (others formats) [] _ _ _ rfl
    (earlier values length nonempty body query upload) ran⟩

/-- No base but the root is a prefix of the session paths. -/
theorem sessions_earlier (auth : Except Failure AuthContext) (request : Incoming)
    (rest : List String) (path : request.path = "sessions" :: rest) (other : Router)
    (known : other ∈ others formats) : other.run auth request = none := by
  apply run_elsewhere
  rw [path]
  simp only [others, List.mem_cons, List.not_mem_nil, or_false] at known
  rcases known with rfl | rfl | rfl | rfl
  · exact mounted_elsewhere _ "auth" _ rfl (by decide) rest
  · exact mounted_elsewhere _ "users" _ rfl (by decide) rest
  · exact mounted_elsewhere _ "students" _ rfl (by decide) rest
  · exact mounted_elsewhere _ "courses" _ rfl (by decide) rest

/-- The course router has no route for the sessions of a course. -/
theorem course_sessions_earlier (allowed : can own.role .MANAGE_OWN_COURSES = true)
    (request : Incoming) (id : String) (nonempty : id ≠ "")
    (path : request.path = ["courses", id, "sessions"]) (other : Router)
    (known : other ∈ others formats) : other.run (.ok own) request = none := by
  simp only [others, List.mem_cons, List.not_mem_nil, or_false] at known
  rcases known with rfl | rfl | rfl | rfl
  · exact run_elsewhere _ _ _ (path ▸ mounted_elsewhere _ "auth" _ rfl (by decide) _)
  · exact run_elsewhere _ _ _ (path ▸ mounted_elsewhere _ "users" _ rfl (by decide) _)
  · exact run_elsewhere _ _ _ (path ▸ mounted_elsewhere _ "students" _ rfl (by decide) _)
  · have mounted : (coursesRouter formats).mounted request.path = some [id, "sessions"] :=
      path ▸ mounted_base _ _ rfl _
    have entered := gate_enters own (coursesRouter formats) .MANAGE_OWN_COURSES rfl allowed
    have meets : (matchPath [.param "id", .literal "sessions"] [id, "sessions"]).isSome := by
      simp [matchPath, nonempty, same_self]
    have others : ∀ route ∈ (coursesRouter formats).routes,
        pathsApart route.path [.param "id", .literal "sessions"] = true := by
      simp only [coursesRouter, List.forall_mem_cons]
      exact ⟨rfl, rfl, rfl, rfl, rfl, rfl, rfl, rfl, rfl, rfl, by simp⟩
    simp only [Router.run, mounted, Option.bind_some, entered]
    rw [List.findSome?_eq_none_iff]
    intro route member
    by_contra answered
    obtain ⟨_, matched⟩ := run_answers _ _ _ _ route (Option.isSome_iff_ne_none.mpr answered)
    have differs := others route member
    rw [paths_meet _ _ _ matched meets] at differs
    cases differs

end Gated

section Reached

variable (own : AuthContext)

theorem users_complete (request : Users.Request) (fits : WellFormed formats (.users request))
    (allowed : ∀ capability ∈ request.gates, can own.role capability = true) :
    Served formats (.ok own) (some own) (.users request) ((Action.users request).body formats) upload := by
  cases request with
  | listUsers query =>
      exact users_reaches formats own _ (allowed _ (.head _)) 0 rfl
        (validated_offers rfl ignored_fills (listUsersQuerySchema_admits formats) query fits)
  | createUser input =>
      exact users_reaches formats own _ (allowed _ (.head _)) 1 rfl
        (validated_offers (createUserBody_read formats input fits) ignored_fills ignored_admits () trivial)
  | getUser id =>
      exact users_reaches formats own _ (allowed _ (.head _)) 2 rfl
        (validated_offers rfl (idSchema_fills formats _ id) ignored_admits () trivial)
  | updateUser id input =>
      exact users_reaches formats own _ (allowed _ (.head _)) 3 rfl
        (validated_offers (updateUserBody_read input fits) (idSchema_fills formats _ id)
          ignored_admits () trivial)
  | deleteUser id =>
      exact users_reaches formats own _ (allowed _ (.head _)) 4 rfl
        (validated_offers rfl (idSchema_fills formats _ id) ignored_admits () trivial)
  | logoutAll =>
      exact auth_reaches formats _ _ _ 4 rfl rfl ⟨[], rfl, by simp, [], rfl⟩
  | me => exact auth_reaches formats _ _ _ 5 rfl rfl ⟨[], rfl, by simp, [], rfl⟩
  | elsewhere gates => cases fits

theorem students_complete (allowed : can own.role .ENROLL_STUDENTS = true)
    (request : Api.Request) (gates : request.gates = [.ENROLL_STUDENTS])
    (fits : WellFormed formats (.api request)) (image : (Action.api request).comesWith upload) :
    Served formats (.ok own) (some own) (.api request) ((Action.api request).body formats) upload := by
  cases request with
  | listStudents query =>
      exact students_reaches formats own _ allowed 0 rfl
        (validated_offers rfl ignored_fills (listStudentsQuerySchema_admits formats) query fits)
  | createStudent input =>
      exact students_reaches formats own _ allowed 1 rfl
        (validated_offers (createStudentBody_read formats input fits) ignored_fills ignored_admits ()
          trivial)
  | getStudent id =>
      exact students_reaches formats own _ allowed 2 rfl
        (validated_offers rfl (idSchema_fills formats _ id) ignored_admits () trivial)
  | updateStudent id input =>
      exact students_reaches formats own _ allowed 3 rfl
        (validated_offers (updateStudentBody_read formats input fits) (idSchema_fills formats _ id)
          ignored_admits () trivial)
  | deleteStudent id =>
      exact students_reaches formats own _ allowed 4 rfl
        (validated_offers rfl (idSchema_fills formats _ id) ignored_admits () trivial)
  | enrollFace id file =>
      exact students_reaches formats own _ allowed 5 rfl
        (image ▸ withImage_offers (idSchema_fills formats _ id) file)
  | listFaces id =>
      exact students_reaches formats own _ allowed 6 rfl
        (validated_offers rfl (idSchema_fills formats _ id) ignored_admits () trivial)
  | removeFace id embeddingId =>
      exact students_reaches formats own _ allowed 7 rfl
        (validated_offers rfl (idsSchema_fills formats _ _ (by decide) (id, embeddingId))
          ignored_admits () trivial)
  | _ => cases gates

theorem courses_complete (allowed : can own.role .MANAGE_OWN_COURSES = true)
    (request : Api.Request) (gates : request.gates = [.MANAGE_OWN_COURSES])
    (fits : WellFormed formats (.api request)) (image : (Action.api request).comesWith upload) :
    Served formats (.ok own) (some own) (.api request) ((Action.api request).body formats) upload := by
  cases request with
  | listCourses query =>
      exact courses_reaches formats own _ allowed 0 rfl
        (validated_offers rfl ignored_fills (listCoursesQuerySchema_admits formats) query fits)
  | createCourse input =>
      exact courses_reaches formats own _ allowed 1 rfl
        (validated_offers (createCourseBody_read formats input fits) ignored_fills ignored_admits () trivial)
  | getCourse id =>
      exact courses_reaches formats own _ allowed 2 rfl
        (validated_offers rfl (idSchema_fills formats _ id) ignored_admits () trivial)
  | updateCourse id input =>
      exact courses_reaches formats own _ allowed 3 rfl
        (validated_offers (updateCourseBody_read formats input fits) (idSchema_fills formats _ id)
          ignored_admits () trivial)
  | deleteCourse id =>
      exact courses_reaches formats own _ allowed 4 rfl
        (validated_offers rfl (idSchema_fills formats _ id) ignored_admits () trivial)
  | listEnrollments id query =>
      exact courses_reaches formats own _ allowed 5 rfl
        (validated_offers rfl (idSchema_fills formats _ id) (paginationSchema_admits formats) query fits)
  | enrollStudent id input =>
      exact courses_reaches formats own _ allowed 6 rfl
        (validated_offers (enrollStudentBody_read formats input fits) (idSchema_fills formats _ id)
          ignored_admits () trivial)
  | bulkEnroll id rows =>
      exact courses_reaches formats own _ allowed 7 rfl
        (validated_offers (bulkEnrollBody_read formats rows fits) (idSchema_fills formats _ id)
          ignored_admits () trivial)
  | getImportJob id jobId =>
      exact courses_reaches formats own _ allowed 8 rfl
        (validated_offers rfl (idsSchema_fills formats _ _ (by decide) (id, jobId))
          ignored_admits () trivial)
  | unenrollStudent id studentId =>
      exact courses_reaches formats own _ allowed 9 rfl
        (validated_offers rfl (idsSchema_fills formats _ _ (by decide) (id, studentId))
          ignored_admits () trivial)
  | _ => cases gates

theorem single {values : List String} {name : String} (length : values.length = [name].length) :
    ∃ value, values = [value] := List.length_eq_one_iff.mp length

theorem course_sessions_complete (owns : can own.role .MANAGE_OWN_COURSES = true)
    (allowed : can own.role .RUN_ATTENDANCE = true) (request : Api.Request)
    (gates : request.gates = [.MANAGE_OWN_COURSES, .RUN_ATTENDANCE])
    (fits : WellFormed formats (.api request)) (image : (Action.api request).comesWith upload) :
    Served formats (.ok own) (some own) (.api request) ((Action.api request).body formats) upload := by
  have earlier (method : Method) (values : List String) (length : values.length = ["id"].length)
      (nonempty : ∀ value ∈ values, value ≠ "") (body query upload) (other : Router)
      (known : other ∈ others formats) :
      other.run (.ok own) ⟨method, fill [.literal "courses", .param "id", .literal "sessions"] values,
        body, query, upload⟩ = none := by
    obtain ⟨id, rfl⟩ := single length
    exact course_sessions_earlier formats own owns _ id (nonempty id (.head _)) rfl other known
  cases request with
  | openSession id =>
      exact attendance_reaches formats own _ allowed 0 rfl (earlier _)
        (validated_offers rfl (idSchema_fills formats _ id) ignored_admits () trivial)
  | listSessions id query =>
      exact attendance_reaches formats own _ allowed 1 rfl (earlier _)
        (validated_offers rfl (idSchema_fills formats _ id) (paginationSchema_admits formats) query fits)
  | _ => cases gates

theorem sessions_complete (allowed : can own.role .RUN_ATTENDANCE = true) (request : Api.Request)
    (gates : request.gates = [.RUN_ATTENDANCE]) (fits : WellFormed formats (.api request))
    (image : (Action.api request).comesWith upload) :
    Served formats (.ok own) (some own) (.api request) ((Action.api request).body formats) upload := by
  have earlier (method : Method) (rest : List Part) (values : List String) (body query upload)
      (other : Router) (known : other ∈ others formats) :
      other.run (.ok own) ⟨method, fill (.literal "sessions" :: rest) values, body, query, upload⟩ =
        none :=
    sessions_earlier formats _ _ _ rfl other known
  cases request with
  | getSession id =>
      exact attendance_reaches formats own _ allowed 2 rfl (fun _ _ _ => earlier _ _ _)
        (validated_offers rfl (idSchema_fills formats _ id) ignored_admits () trivial)
  | closeSession id =>
      exact attendance_reaches formats own _ allowed 3 rfl (fun _ _ _ => earlier _ _ _)
        (validated_offers rfl (idSchema_fills formats _ id) ignored_admits () trivial)
  | markAttendance id input =>
      exact attendance_reaches formats own _ allowed 4 rfl (fun _ _ _ => earlier _ _ _)
        (validated_offers (markAttendanceBody_read formats input) (idSchema_fills formats _ id)
          ignored_admits () trivial)
  | identify id =>
      obtain ⟨file, rfl⟩ := image
      exact attendance_reaches formats own _ allowed 5 rfl (fun _ _ _ => earlier _ _ _)
        (withImage_offers (idSchema_fills formats _ id) file)
  | listRecords id query =>
      exact attendance_reaches formats own _ allowed 6 rfl (fun _ _ _ => earlier _ _ _)
        (validated_offers rfl (idSchema_fills formats _ id) (paginationSchema_admits formats) query fits)
  | _ => cases gates

theorem gates_cases (request : Api.Request) :
    request.gates = [.ENROLL_STUDENTS] ∨ request.gates = [.MANAGE_OWN_COURSES] ∨
      request.gates = [.MANAGE_OWN_COURSES, .RUN_ATTENDANCE] ∨ request.gates = [.RUN_ATTENDANCE] := by
  cases request <;> simp [Api.Request.gates]

theorem api_complete (request : Api.Request) (fits : WellFormed formats (.api request))
    (allowed : ∀ capability ∈ request.gates, can own.role capability = true)
    (image : (Action.api request).comesWith upload) :
    Served formats (.ok own) (some own) (.api request) ((Action.api request).body formats) upload := by
  rcases gates_cases request with gates | gates | gates | gates
  · exact students_complete formats own (allowed _ (by simp [gates])) request gates fits image
  · exact courses_complete formats own (allowed _ (by simp [gates])) request gates fits image
  · exact course_sessions_complete formats own (allowed _ (by simp [gates]))
      (allowed _ (by simp [gates])) request gates fits image
  · exact sessions_complete formats own (allowed _ (by simp [gates])) request gates fits image

theorem public_complete (gates : action.gates = none) (fits : WellFormed formats action) :
    Served formats auth (action.visitor auth) action (action.body formats) upload := by
  cases action with
  | register input =>
      exact auth_reaches formats auth _ _ 0 rfl rfl
        (validated_offers (registerBody_read formats input fits) ignored_fills ignored_admits () trivial)
  | login input =>
      exact auth_reaches formats auth _ _ 1 rfl rfl
        (validated_offers (loginBody_read formats input fits) ignored_fills ignored_admits () trivial)
  | refresh =>
      exact auth_reaches formats auth _ _ 2 rfl rfl ⟨[], rfl, by simp, [], rfl⟩
  | logout =>
      exact auth_reaches formats auth _ _ 3 rfl (by simp [Guard.admits, Action.visitor])
        ⟨[], rfl, by simp, [], rfl⟩
  | users request => cases gates
  | api request => cases gates

end Reached

/-- Every well-formed action of a principal whom its gates let through is reached, with the body
that a client sends for it and the image it comes with. -/
theorem dispatch_complete (fits : WellFormed formats action)
    (permitted : Permitted auth actor action) (image : action.comesWith upload) :
    Served formats auth actor action (action.body formats) upload := by
  cases gates : action.gates with
  | none =>
      simp only [Permitted, gates] at permitted
      rw [permitted]
      exact public_complete formats auth action gates fits
  | some asked =>
      simp only [Permitted, gates] at permitted
      obtain ⟨own, rfl, rfl, allowed⟩ := permitted
      cases action with
      | users request =>
          exact users_complete formats own request fits (Option.some.inj gates ▸ allowed)
      | api request =>
          exact api_complete formats own request fits (Option.some.inj gates ▸ allowed) image
      | _ => cases gates

end Complete

end Actions

end FaceVec.Http

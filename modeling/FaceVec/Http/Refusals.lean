import FaceVec.Http.Dispatch

/-!
What a 422 of the gateway says. Every route reads its parts through schemas of
its own, so a request is refused for keys that its route declares, and whatever
else the body or the query carries, it is refused in the same words.
-/

namespace FaceVec.Http

open Validation Api Users Courses Faces

section Reading

variable {α β γ : Type} {body : Schema α} {params : Schema β} {query : Schema γ}
  {bodies paths queries : List String} {fits : α → Prop} {own : β → Prop} {asked : γ → Prop}

/-- A route is refused for keys of these, and by what stands under them. -/
structure Declares (read : Parts → Except Rejection Action) (bodies paths queries : List String) :
    Prop where
  named : ∀ parts details, read parts = .error (.invalid details) →
    details ≠ [] ∧ ∀ detail ∈ details, About (bodies ++ paths ++ queries) detail
  declared : ∀ one other details, Agree bodies queries one other →
    read one = .error (.invalid details) → read other = .error (.invalid details)

theorem About.among {keys others : List String} {detail : Detail} (about : About keys detail)
    (within : ∀ key ∈ keys, key ∈ others) : About others detail :=
  about.imp_right fun ⟨key, member, named⟩ => ⟨key, within key member, named⟩

theorem validate_about (bodyAdmits : Admits body bodies fits) (paramsAdmits : Admits params paths own)
    (queryAdmits : Admits query queries asked) (parts : Parts) (details : List Detail)
    (refused : validate body params query parts = .error details) :
    details ≠ [] ∧ ∀ detail ∈ details, About (bodies ++ paths ++ queries) detail := by
  rcases validate_error body params query parts details refused with
    first | ⟨_, second | ⟨_, third⟩⟩
  · obtain ⟨some_, about⟩ := parse_about bodyAdmits _ _ first
    exact ⟨some_, fun detail member => (about detail member).among (by simp +contextual)⟩
  · obtain ⟨some_, about⟩ := parse_about paramsAdmits _ _ second
    exact ⟨some_, fun detail member => (about detail member).among (by simp +contextual)⟩
  · obtain ⟨some_, about⟩ := parse_about queryAdmits _ _ third
    exact ⟨some_, fun detail member => (about detail member).among (by simp +contextual)⟩

theorem validated_invalid (make : α → β → γ → Action) (parts : Parts) (details : List Detail) :
    validated body params query make parts = .error (.invalid details) ↔
      validate body params query parts = .error details := by
  unfold validated
  cases validate body params query parts <;> simp

theorem withImage_invalid (make : β → UploadedImage → Action) (parts : Parts)
    (details : List Detail) :
    withImage params make parts = .error (.invalid details) ↔
      validate ignored params ignored parts = .error details := by
  unfold withImage
  cases validate ignored params ignored parts with
  | error own => simp
  | ok value =>
      cases parts.upload with
      | error failure => simp
      | ok file => cases file <;> simp

theorem validated_declares (bodyAdmits : Admits body bodies fits)
    (paramsAdmits : Admits params paths own) (queryAdmits : Admits query queries asked)
    (make : α → β → γ → Action) :
    Declares (validated body params query make) bodies paths queries where
  named parts details refused :=
    validate_about bodyAdmits paramsAdmits queryAdmits parts details
      ((validated_invalid make parts details).mp refused)
  declared one other details agree refused := by
    rw [validated_invalid] at refused ⊢
    rw [← validate_agree bodyAdmits params queryAdmits one other agree, refused]

theorem withImage_declares (paramsAdmits : Admits params paths own)
    (make : β → UploadedImage → Action) : Declares (withImage params make) [] paths [] where
  named parts details refused :=
    validate_about ignored_admits paramsAdmits ignored_admits parts details
      ((withImage_invalid make parts details).mp refused)
  declared one other details agree refused := by
    rw [withImage_invalid] at refused ⊢
    rw [← validate_agree ignored_admits params ignored_admits one other agree, refused]

theorem unread_declares (action : Action) : Declares (fun _ => .ok action) [] [] [] where
  named _ _ refused := by cases refused
  declared _ _ _ _ refused := by cases refused

end Reading

section Routes

variable (formats : Formats)

theorem enrollmentParamsSchema_admits :
    Admits (enrollmentParamsSchema formats) ["id", "studentId"] fun _ => True :=
  idsSchema_admits formats "id" "studentId" (by decide)

theorem importJobParamsSchema_admits :
    Admits (importJobParamsSchema formats) ["id", "jobId"] fun _ => True :=
  idsSchema_admits formats "id" "jobId" (by decide)

theorem faceParamsSchema_admits :
    Admits (faceParamsSchema formats) ["id", "embeddingId"] fun _ => True :=
  idsSchema_admits formats "id" "embeddingId" (by decide)

/-- Every route of the list is refused only for keys that its schemas declare. -/
def Declared (routes : List Route) : Prop :=
  ∀ route ∈ routes, ∃ bodies queries, Declares route.read bodies (names route.path) queries

theorem authRouter_declared : Declared (authRouter formats).routes := by
  simp only [Declared, authRouter, List.forall_mem_cons]
  refine ⟨?_, ?_, ?_, ?_, ?_, ?_, by simp⟩
  · exact ⟨_, _, validated_declares (registerSchema_admits formats) ignored_admits ignored_admits _⟩
  · exact ⟨_, _, validated_declares (loginSchema_admits formats) ignored_admits ignored_admits _⟩
  · exact ⟨_, _, unread_declares _⟩
  · exact ⟨_, _, unread_declares _⟩
  · exact ⟨_, _, unread_declares _⟩
  · exact ⟨_, _, unread_declares _⟩

theorem usersRouter_declared : Declared (usersRouter formats).routes := by
  have byId := idSchema_admits formats "id"
  simp only [Declared, usersRouter, List.forall_mem_cons]
  refine ⟨?_, ?_, ?_, ?_, ?_, by simp⟩
  · exact ⟨_, _, validated_declares ignored_admits ignored_admits (listUsersQuerySchema_admits formats) _⟩
  · exact ⟨_, _, validated_declares (createUserSchema_admits formats) ignored_admits ignored_admits _⟩
  · exact ⟨_, _, validated_declares ignored_admits byId ignored_admits _⟩
  · exact ⟨_, _, validated_declares updateUserSchema_admits byId ignored_admits _⟩
  · exact ⟨_, _, validated_declares ignored_admits byId ignored_admits _⟩

theorem studentsRouter_declared : Declared (studentsRouter formats).routes := by
  have byId := idSchema_admits formats "id"
  simp only [Declared, studentsRouter, List.forall_mem_cons]
  refine ⟨?_, ?_, ?_, ?_, ?_, ?_, ?_, ?_, by simp⟩
  · exact ⟨_, _, validated_declares ignored_admits ignored_admits
      (listStudentsQuerySchema_admits formats) _⟩
  · exact ⟨_, _, validated_declares (createStudentSchema_admits formats) ignored_admits
      ignored_admits _⟩
  · exact ⟨_, _, validated_declares ignored_admits byId ignored_admits _⟩
  · exact ⟨_, _, validated_declares (updateStudentSchema_admits formats) byId ignored_admits _⟩
  · exact ⟨_, _, validated_declares ignored_admits byId ignored_admits _⟩
  · exact ⟨_, _, withImage_declares byId _⟩
  · exact ⟨_, _, validated_declares ignored_admits byId ignored_admits _⟩
  · exact ⟨_, _, validated_declares ignored_admits (faceParamsSchema_admits formats)
      ignored_admits _⟩

theorem coursesRouter_declared : Declared (coursesRouter formats).routes := by
  have byId := idSchema_admits formats "id"
  simp only [Declared, coursesRouter, List.forall_mem_cons]
  refine ⟨?_, ?_, ?_, ?_, ?_, ?_, ?_, ?_, ?_, ?_, by simp⟩
  · exact ⟨_, _, validated_declares ignored_admits ignored_admits
      (listCoursesQuerySchema_admits formats) _⟩
  · exact ⟨_, _, validated_declares (createCourseSchema_admits formats) ignored_admits
      ignored_admits _⟩
  · exact ⟨_, _, validated_declares ignored_admits byId ignored_admits _⟩
  · exact ⟨_, _, validated_declares (updateCourseSchema_admits formats) byId ignored_admits _⟩
  · exact ⟨_, _, validated_declares ignored_admits byId ignored_admits _⟩
  · exact ⟨_, _, validated_declares ignored_admits byId (paginationSchema_admits formats) _⟩
  · exact ⟨_, _, validated_declares (enrollStudentSchema_admits formats) byId ignored_admits _⟩
  · exact ⟨_, _, validated_declares (bulkEnrollSchema_admits formats) byId ignored_admits _⟩
  · exact ⟨_, _, validated_declares ignored_admits (importJobParamsSchema_admits formats)
      ignored_admits _⟩
  · exact ⟨_, _, validated_declares ignored_admits (enrollmentParamsSchema_admits formats)
      ignored_admits _⟩

theorem attendanceRouter_declared : Declared (attendanceRouter formats).routes := by
  have byId := idSchema_admits formats "id"
  simp only [Declared, attendanceRouter, List.forall_mem_cons]
  refine ⟨?_, ?_, ?_, ?_, ?_, ?_, ?_, by simp⟩
  · exact ⟨_, _, validated_declares ignored_admits byId ignored_admits _⟩
  · exact ⟨_, _, validated_declares ignored_admits byId (paginationSchema_admits formats) _⟩
  · exact ⟨_, _, validated_declares ignored_admits byId ignored_admits _⟩
  · exact ⟨_, _, validated_declares ignored_admits byId ignored_admits _⟩
  · exact ⟨_, _, validated_declares (markAttendanceSchema_admits formats) byId ignored_admits _⟩
  · exact ⟨_, _, withImage_declares byId _⟩
  · exact ⟨_, _, validated_declares ignored_admits byId (paginationSchema_admits formats) _⟩

theorem routers_declared : ∀ router ∈ routers formats, Declared router.routes := by
  simp only [routers, List.forall_mem_cons]
  exact ⟨authRouter_declared formats, usersRouter_declared formats, studentsRouter_declared formats,
    coursesRouter_declared formats, attendanceRouter_declared formats, by simp⟩

end Routes

section Dispatch

structure Alike (one other : Incoming) : Prop where
  method : one.method = other.method
  path : one.path = other.path

def Incoming.parts (request : Incoming) (params : List (String × String)) : Parts :=
  ⟨request.body, params, request.query, request.upload⟩

variable {auth : Except Failure AuthContext} {one other : Incoming}

theorem run_silent (alike : Alike one other) (current : Option AuthContext) (path : List String)
    (route : Route) (silent : route.run auth current one path = none) :
    route.run auth current other path = none := by
  unfold Route.run at silent ⊢
  rw [← alike.method]
  split at silent
  · next serves =>
      rw [if_pos serves]
      simpa using silent
  · next serves => rw [if_neg serves]

theorem router_silent (alike : Alike one other) (router : Router)
    (silent : router.run auth one = none) : router.run auth other = none := by
  unfold Router.run at silent ⊢
  rw [← alike.path]
  cases mounted : router.mounted one.path with
  | none => rfl
  | some path =>
      rw [mounted, Option.bind_some] at silent
      rw [Option.bind_some]
      cases entered : router.enter auth with
      | error failure =>
          rw [entered] at silent
          cases silent
      | ok current =>
          rw [entered] at silent
          simp only [List.findSome?_eq_none_iff] at silent ⊢
          exact fun route member => run_silent alike current path route (silent route member)

theorem run_rejected {route : Route} {current : Option AuthContext} {path : List String}
    {rejection : Rejection}
    (refused : route.run auth current one path = some (.rejected rejection)) :
    ∃ params actor, route.method.serves one.method = true ∧ matchPath route.path path = some params ∧
      route.guard.admits auth current = .ok actor ∧
        route.read (one.parts params) = .error rejection := by
  obtain ⟨served, _⟩ := run_answers auth current one path route (by rw [refused]; rfl)
  rw [Route.run, if_pos served] at refused
  obtain ⟨params, matched, outcome⟩ := Option.map_eq_some_iff.mp refused
  split at outcome
  · cases outcome
  · next actor admitted =>
      split at outcome
      · next own read =>
          cases outcome
          exact ⟨params, actor, served, matched, admitted, read⟩
      · cases outcome

variable {route : Route} {bodies paths queries : List String} {current : Option AuthContext}
  {path : List String} {details : List Detail}

theorem Declares.run_named (declares : Declares route.read bodies paths queries)
    (refused : route.run auth current one path = some (.rejected (.invalid details))) :
    details ≠ [] ∧ ∀ detail ∈ details, About (bodies ++ paths ++ queries) detail := by
  obtain ⟨params, _, _, _, _, read⟩ := run_rejected refused
  exact declares.named _ _ read

theorem Declares.run_agrees (declares : Declares route.read bodies paths queries)
    (alike : Alike one other) (agree : Agree bodies queries (one.parts []) (other.parts []))
    (refused : route.run auth current one path = some (.rejected (.invalid details))) :
    route.run auth current other path = some (.rejected (.invalid details)) := by
  obtain ⟨params, actor, served, matched, admitted, read⟩ := run_rejected refused
  have same : Agree bodies queries (one.parts params) (other.parts params) :=
    ⟨agree.body, rfl, agree.query⟩
  have again : route.read (other.parts params) = .error (.invalid details) :=
    declares.declared _ _ _ same read
  unfold Incoming.parts at again
  rw [Route.run, ← alike.method, if_pos served, matched, Option.map_some, admitted]
  simp only [again]

/-- A 422 of the gateway is about keys that the route declares, and the same for every request
that differs only in others. -/
theorem dispatch_informs (formats : Formats) (details : List Detail)
    (refused : dispatch formats auth one = .rejected (.invalid details)) :
    ∃ route bodies queries, (∃ router ∈ routers formats, route ∈ router.routes) ∧
      details ≠ [] ∧ (∀ detail ∈ details, About (bodies ++ names route.path ++ queries) detail) ∧
        ∀ other, Alike one other → Agree bodies queries (one.parts []) (other.parts []) →
          dispatch formats auth other = .rejected (.invalid details) := by
  have some_ := dispatch_some formats auth one _ refused (by simp)
  obtain ⟨before, router, after, split, ran, earlier⟩ := List.findSome?_eq_some_iff.mp some_
  have mounted : router ∈ routers formats := split ▸ by simp
  obtain ⟨path, under, outcome⟩ := Option.bind_eq_some_iff.mp ran
  cases entered : router.enter auth with
  | error failure =>
      rw [entered] at outcome
      cases outcome
  | ok current =>
      rw [entered] at outcome
      obtain ⟨front, route, rest, parted, refuses, passed⟩ := List.findSome?_eq_some_iff.mp outcome
      have member : route ∈ router.routes := parted ▸ by simp
      obtain ⟨bodies, queries, declares⟩ := routers_declared formats router mounted route member
      refine ⟨route, bodies, queries, ⟨router, mounted, member⟩, ?_, ?_, ?_⟩
      · exact (declares.run_named refuses).1
      · exact (declares.run_named refuses).2
      · intro other alike agree
        have same : router.run auth other = some (.rejected (.invalid details)) := by
          rw [Router.run, ← alike.path, under, Option.bind_some, entered]
          exact List.findSome?_eq_some_iff.mpr ⟨front, route, rest, parted,
            declares.run_agrees alike agree refuses,
            fun skipped among => run_silent alike current path skipped (passed skipped among)⟩
        have first : (routers formats).findSome? (·.run auth other) =
            some (.rejected (.invalid details)) :=
          List.findSome?_eq_some_iff.mpr ⟨before, router, after, split, same,
            fun skipped among => router_silent alike skipped (earlier skipped among)⟩
        rw [dispatch, first, Option.getD_some]

end Dispatch

end FaceVec.Http

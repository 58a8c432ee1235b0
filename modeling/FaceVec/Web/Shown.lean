import Mathlib.Data.List.Induction
import FaceVec.Web.Feeds

/-!
What the hooks of `lib/ws.ts` subscribe to and show, against the id that was
rendered last and the one whose effects have run.
-/

namespace FaceVec.Web

variable {Message Shown : Type} {page : Page Message Shown} {effect : Nat}

/-- The id that was rendered last, and the one whose effects ran last. There is
none where it was empty or missing. -/
structure Watched where
  rendered : Option String
  running : Option String

def Watched.turn (watched : Watched) : Input Message → Watched
  | .commit id _ => ⟨id.filter (· != ""), watched.rendered⟩
  | .effects _ => ⟨watched.rendered, watched.rendered⟩
  | _ => watched

def watched (inputs : List (Input Message)) : Watched :=
  inputs.foldl Watched.turn ⟨none, none⟩

/-- The effects with their ids, in the order in which they began. -/
def Page.ids (page : Page Message Shown) : List String := page.effects.map (·.id)

def Page.named (page : Page Message Shown) : Option String :=
  page.mounted.bind fun effect => page.ids[effect]?

theorem ids_at (page : Page Message Shown) (effect : Nat) :
    page.ids[effect]? = page.effects[effect]?.map (·.id) :=
  List.getElem?_map

theorem modify_ids (effects : List Effect) (change : Effect → Effect)
    (same : ∀ own, (change own).id = own.id) (index : Nat) :
    (effects.modify index change).map (·.id) = effects.map (·.id) := by
  apply List.ext_getElem?
  intro other
  rw [List.getElem?_map, List.getElem?_map, ids_modify effects change same]

theorem wait_ids : (page.wait effect).ids = page.ids := by
  apply modify_ids
  intro own
  rfl

theorem connect_ids (token : Option String) : (page.connect effect token).ids = page.ids := by
  unfold Page.connect
  split
  · exact wait_ids
  · apply modify_ids
    intro own
    rfl

theorem connect_rest (token : Option String) :
    (page.connect effect token).mounted = page.mounted ∧
      (page.connect effect token).heard = page.heard ∧
      (page.connect effect token).shown = page.shown := by
  unfold Page.connect
  split <;> exact ⟨rfl, rfl, rfl⟩

/-- What one input may do to the ids, to what was heard and to what is shown. -/
inductive Turn (hook : Hook Message Shown) (page after : Page Message Shown) : Prop where
  | quiet (ids : after.ids = page.ids) (heard : after.heard = page.heard)
      (shown : after.shown = page.shown)
  | begun (id : String) (ids : after.ids = page.ids ++ [id]) (heard : after.heard = page.heard)
      (shown : after.shown = hook.begins page.shown)
  | told (socket : Socket) (message : Message) (ids : after.ids = page.ids)
      (heard : after.heard = (socket, message) :: page.heard)
      (shown : after.shown = hook.receive message page.shown)
      (latest : socket.effect + 1 = page.ids.length)
      (subscribed : page.ids[socket.effect]?.toList = socket.sent)

variable (hook : Hook Message Shown)

theorem cleanup_rest (page : Page Message Shown) :
    page.cleanup.ids = page.ids ∧ page.cleanup.heard = page.heard ∧
      page.cleanup.shown = page.shown := by
  unfold Page.cleanup
  split
  · exact ⟨rfl, rfl, rfl⟩
  · split
    · exact ⟨rfl, rfl, rfl⟩
    · refine ⟨?_, rfl, rfl⟩
      apply modify_ids
      intro own
      rfl

theorem begins_ids (id : String) (token : Option String) :
    (begins hook page id token).ids = page.ids ++ [id] := by
  unfold begins
  rw [connect_ids]
  simp [Page.ids]

theorem settle_turn (page : Page Message Shown) (token : Option String) :
    Turn hook page (settle hook page token) := by
  obtain ⟨ids, heard, shown⟩ := cleanup_rest page
  unfold settle
  split
  · split
    · exact .quiet ids heard shown
    · next id _ =>
        refine .begun id ?_ ?_ ?_
        · rw [begins_ids, ← ids]
          rfl
        · exact (connect_rest token).2.1.trans heard
        · rw [← shown]
          exact (connect_rest token).2.2
  · exact .quiet rfl rfl rfl

theorem exec_turn (sound : Sound page) (input : Input Message) :
    Turn hook page (exec hook input page) := by
  cases input with
  | commit id token =>
      -- What a commit adds is neither an id nor a message, and the state stays.
      rcases settle_turn hook page token with
        ⟨ids, heard, shown⟩ | ⟨began, ids, heard, shown⟩ |
          ⟨socket, message, ids, heard, shown, latest, subscribed⟩
      · exact .quiet ids heard shown
      · exact .begun began ids heard shown
      · exact .told socket message ids heard shown latest subscribed
  | effects token => exact settle_turn hook page token
  | fire timer token =>
      simp only [exec]
      split
      · exact .quiet (connect_ids token) (connect_rest token).2.1 (connect_rest token).2.2
      · exact .quiet rfl rfl rfl
  | opened socket =>
      simp only [exec]
      split <;> exact .quiet rfl rfl rfl
  | message socket message =>
      simp only [exec]
      split
      · next effect sender sent found =>
          have mounted := sound.live _ _ found (Or.inr rfl)
          refine .told ⟨effect, sender, .OPEN, sent⟩ message rfl rfl rfl ?_ ?_
          · simpa [Page.ids] using sound.last effect mounted
          · rw [ids_at]
            exact (sound.subscribed _ _ found).2 rfl
      · exact .quiet rfl rfl rfl
  | error socket => exact .quiet rfl rfl rfl
  | closed socket =>
      simp only [exec]
      split
      · exact .quiet rfl rfl rfl
      · exact .quiet rfl rfl rfl
      · split
        · exact .quiet wait_ids rfl rfl
        · exact .quiet rfl rfl rfl

/-- What a page knows of the ids. -/
structure Dated (watched : Watched) (page : Page Message Shown) : Prop where
  rendered : page.deps.join.filter (· != "") = watched.rendered
  running : page.named = watched.running
  settled : page.waiting = false → watched.running = watched.rendered

theorem Dated.same {watched : Watched} {after : Page Message Shown} (dated : Dated watched page)
    (ids : after.ids = page.ids) (mounted : after.mounted = page.mounted)
    (deps : after.deps = page.deps ∧ after.waiting = page.waiting) : Dated watched after where
  rendered := by rw [deps.1]; exact dated.rendered
  running := by
    unfold Page.named
    rw [mounted, ids]
    exact dated.running
  settled idle := dated.settled (deps.2 ▸ idle)

theorem connect_deps (token : Option String) :
    (page.connect effect token).deps = page.deps ∧
      (page.connect effect token).waiting = page.waiting := by
  unfold Page.connect
  split <;> exact ⟨rfl, rfl⟩

theorem begins_deps (page : Page Message Shown) (id : String) (token : Option String) :
    (begins hook page id token).deps = page.deps ∧
      (begins hook page id token).waiting = page.waiting :=
  connect_deps token

theorem begins_named (page : Page Message Shown) (id : String) (token : Option String) :
    (begins hook page id token).named = some id := by
  have current : (begins hook page id token).mounted = some page.effects.length :=
    (connect_rest token).1
  rw [Page.named, current, Option.bind_some, begins_ids]
  simp [Page.ids]

theorem cleanup_deps (page : Page Message Shown) : page.cleanup.deps = page.deps := by
  unfold Page.cleanup
  split
  · rfl
  · split <;> rfl

theorem settle_dated {watched : Watched} (sound : Sound page) (dated : Dated watched page)
    (token : Option String) :
    Dated ⟨watched.rendered, watched.rendered⟩ (settle hook page token) ∧
      (settle hook page token).deps = page.deps ∧
      (settle hook page token).waiting = false := by
  have mounted := (cleanup_sound sound).2
  have deps := cleanup_deps page
  unfold settle
  split
  · split
    · next none =>
        have bare : page.cleanup.named = .none := by
          simp only [Page.named, mounted, Option.bind_none]
        refine ⟨⟨?_, ?_, fun _ => rfl⟩, deps, rfl⟩
        · exact (congrArg (·.join.filter (· != "")) deps).trans dated.rendered
        · exact bare.trans (none.symm.trans dated.rendered)
    · next id some =>
        have same := begins_deps hook { page.cleanup with waiting := false } id token
        have named := begins_named hook { page.cleanup with waiting := false } id token
        refine ⟨⟨?_, ?_, fun _ => rfl⟩, same.1.trans deps, same.2⟩
        · exact (congrArg (·.join.filter (· != "")) (same.1.trans deps)).trans dated.rendered
        · exact named.trans (some.symm.trans dated.rendered)
  · next idle =>
      have settled := dated.settled (Bool.not_eq_true _ ▸ idle)
      exact ⟨⟨dated.rendered, dated.running.trans settled, fun _ => rfl⟩, rfl,
        Bool.not_eq_true _ ▸ idle⟩

theorem exec_dated {watched : Watched} (sound : Sound page) (dated : Dated watched page)
    (input : Input Message) : Dated (watched.turn input) (exec hook input page) := by
  cases input with
  | commit id token =>
      obtain ⟨settled, -, -⟩ := settle_dated hook sound dated token
      refine ⟨rfl, settled.running, fun idle => ?_⟩
      -- Without effects of its own, the id is the one that was rendered before.
      have same : (settle hook page token).deps = some id := by
        simpa [exec, Page.commit] using idle
      have rendered := settled.rendered
      rw [same] at rendered
      exact rendered.symm
  | effects token => exact (settle_dated hook sound dated token).1
  | fire timer token =>
      simp only [exec]
      split
      · exact dated.same (connect_ids token) (connect_rest token).1 (connect_deps token)
      · exact dated
  | opened socket =>
      simp only [exec]
      split <;> exact { dated with }
  | message socket message =>
      simp only [exec]
      split <;> exact { dated with }
  | error socket => exact { dated with }
  | closed socket =>
      simp only [exec]
      split
      · exact dated
      · exact dated
      · split
        · exact dated.same wait_ids rfl ⟨rfl, rfl⟩
        · exact { dated with }

theorem run_snoc (inputs : List (Input Message)) (input : Input Message) :
    run hook (inputs ++ [input]) = exec hook input (run hook inputs) := by
  simp [run]

theorem run_dated (inputs : List (Input Message)) : Dated (watched inputs) (run hook inputs) := by
  induction inputs using List.reverseRecOn with
  | nil => exact ⟨rfl, rfl, fun _ => rfl⟩
  | append_singleton inputs input ih =>
      have dated := exec_dated hook (run_sound hook inputs) ih input
      rw [run_snoc]
      simpa [watched] using dated

/-- A timer that is pending, or a socket of the mounted effect that has not closed. -/
def UnderWay (page : Page Message Shown) : Nat ⊕ Nat → Prop
  | .inl index => ∃ timer, page.timers[index]? = some timer ∧ timer.pending = true
  | .inr index => ∃ socket, page.sockets[index]? = some socket ∧ socket.ready ≠ .CLOSED ∧
      page.mounted = some socket.effect

theorem sound_unique (sound : Sound page) (mounted : page.mounted = some effect) :
    ∃! attempt, UnderWay page attempt := by
  rcases sound.attempt effect mounted with
    ⟨index, timer, found, pending, rfl⟩ | ⟨index, socket, found, rfl, active⟩
  · refine ⟨.inl index, ⟨timer, found, pending⟩, ?_⟩
    rintro (other | other) underWay
    · obtain ⟨row, there, pending'⟩ := underWay
      obtain ⟨-, own, stored, waits⟩ := sound.waits index timer found pending
      obtain ⟨mounted', own', stored', waits'⟩ := sound.waits other row there pending'
      rw [← Option.some.inj (mounted.symm.trans mounted'), stored] at stored'
      rw [← Option.some.inj stored', waits] at waits'
      exact congrArg Sum.inl (Option.some.inj waits').symm
    · obtain ⟨socket, there, active, mounted'⟩ := underWay
      have same := Option.some.inj (mounted'.symm.trans mounted)
      exact absurd (sound.one index timer found pending other socket there same) active
  · refine ⟨.inr index, ⟨socket, found, active, mounted⟩, ?_⟩
    rintro (other | other) underWay
    · obtain ⟨timer, there, pending⟩ := underWay
      have own := (sound.waits other timer there pending).1
      have same := Option.some.inj (mounted.symm.trans own)
      exact absurd (sound.one other timer there pending index socket found same) active
    · obtain ⟨row, there, active', mounted'⟩ := underWay
      obtain ⟨own, stored, latest⟩ := sound.latest index socket found active mounted
      obtain ⟨own', stored', latest'⟩ := sound.latest other row there active' mounted'
      rw [← Option.some.inj (mounted.symm.trans mounted'), stored] at stored'
      rw [← Option.some.inj stored', latest] at latest'
      exact congrArg Sum.inr (Option.some.inj latest').symm

/-- Of all the timers and sockets of a run, one at most is still of use: exactly
one for an id whose effects have run, and none without such an id. A socket that
is open has subscribed once, to this id. It is the id that was rendered last
unless the effects of that rendering are still to run. -/
theorem one_attempt (inputs : List (Input Message)) :
    (∀ id, (watched inputs).running = some id →
      ∃! attempt, UnderWay (run hook inputs) attempt) ∧
      ((watched inputs).running = none → ∀ attempt, ¬UnderWay (run hook inputs) attempt) ∧
      (∀ index socket, (run hook inputs).sockets[index]? = some socket → socket.live →
        UnderWay (run hook inputs) (.inr index) ∧
          (socket.ready = .OPEN →
            ∃ id, (watched inputs).running = some id ∧ socket.sent = [id])) ∧
      ((run hook inputs).waiting = false →
        (watched inputs).running = (watched inputs).rendered) := by
  have sound := run_sound hook inputs
  have dated := run_dated hook inputs
  rw [← dated.running]
  refine ⟨?_, ?_, ?_, fun idle => dated.running.trans (dated.settled idle)⟩
  all_goals
    clear dated
    generalize run hook inputs = page at sound
  · intro id named
    obtain ⟨effect, mounted, -⟩ := Option.bind_eq_some_iff.mp named
    exact sound_unique sound mounted
  · intro unnamed
    have bare : page.mounted = none := by
      cases mounted : page.mounted with
      | none => rfl
      | some effect =>
          have inside := sound.last effect mounted
          simp only [Page.named, mounted, Option.bind_some, Page.ids, List.getElem?_eq_none_iff,
            List.length_map] at unnamed
          omega
    rintro (index | index) ⟨row, found, underWay⟩
    · have own := (sound.waits index row found underWay).1
      rw [bare] at own
      cases own
    · rw [bare] at underWay
      cases underWay.2
  · intro index socket found live
    have mounted := sound.live index socket found live
    have active : socket.ready ≠ .CLOSED := by
      rcases live with ready | ready <;> rw [ready] <;> nofun
    refine ⟨⟨socket, found, active, mounted⟩, fun ready => ?_⟩
    have inside : socket.effect < page.effects.length := sound.socketOf index socket found
    have told := (sound.subscribed index socket found).2 ready
    rw [List.getElem?_eq_getElem inside] at told
    refine ⟨page.effects[socket.effect].id, ?_, told.symm⟩
    simp [Page.named, mounted, ids_at, List.getElem?_eq_getElem inside]

/-- What was heard by the effect that began last. -/
def Page.latest (page : Page Message Shown) : List Message :=
  (page.heard.filter fun entry => entry.1.effect + 1 == page.ids.length).map (·.2)

/-- Each message came over a socket that had subscribed to the id of its effect. -/
def Heard (page : Page Message Shown) : Prop :=
  ∀ entry ∈ page.heard, entry.1.effect < page.ids.length ∧
    page.ids[entry.1.effect]?.toList = entry.1.sent

theorem turn_heard (after : Page Message Shown) (turn : Turn hook page after)
    (sourced : Heard page) : Heard after := by
  intro entry mem
  cases turn with
  | quiet ids heard shown =>
      rw [ids]
      exact sourced entry (heard ▸ mem)
  | begun id ids heard shown =>
      obtain ⟨inside, same⟩ := sourced entry (heard ▸ mem)
      rw [ids, List.getElem?_append_left inside, List.length_append]
      exact ⟨by omega, same⟩
  | told socket message ids heard shown latest subscribed =>
      rw [ids]
      rw [heard] at mem
      rcases List.mem_cons.mp mem with rfl | old
      · exact ⟨by simp only; omega, subscribed⟩
      · exact sourced entry old

theorem run_heard (inputs : List (Input Message)) : Heard (run hook inputs) := by
  induction inputs using List.reverseRecOn with
  | nil => exact nofun
  | append_singleton inputs input ih =>
      rw [run_snoc]
      exact turn_heard hook _ (exec_turn hook (run_sound hook inputs) input) ih

theorem latest_begun (after : Page Message Shown) (sourced : Heard page) (id : String)
    (ids : after.ids = page.ids ++ [id]) (heard : after.heard = page.heard) :
    after.latest = [] := by
  unfold Page.latest
  rw [heard, ids, List.map_eq_nil_iff, List.filter_eq_nil_iff]
  intro entry mem
  have inside := (sourced entry mem).1
  simp only [List.length_append, List.length_singleton, beq_iff_eq]
  omega

theorem turn_progress (frame : Message → Bool) (page after : Page Message (Option Message))
    (turn : Turn (useImportProgress Message frame) page after) (sourced : Heard page)
    (shows : page.shown = page.latest.find? frame) : after.shown = after.latest.find? frame := by
  cases turn with
  | quiet ids heard shown =>
      unfold Page.latest
      rw [shown, ids, heard]
      exact shows
  | begun id ids heard shown =>
      rw [shown, latest_begun after sourced id ids heard]
      rfl
  | told socket message ids heard shown latest subscribed =>
      have last : after.latest = message :: page.latest := by
        simp [Page.latest, ids, heard, latest]
      rw [shown, last, List.find?_cons, shows]
      cases whether : frame message <;> simp [useImportProgress, whether]

theorem exec_screen (page : Page Message Shown) (input : Input Message) :
    (exec hook input page).screen =
      match input with
      | .commit _ _ => (exec hook input page).shown
      | _ => page.screen := by
  have connect (page : Page Message Shown) (effect : Nat) (token : Option String) :
      (page.connect effect token).screen = page.screen := by
    unfold Page.connect
    split <;> rfl
  have cleanup : page.cleanup.screen = page.screen := by
    unfold Page.cleanup
    split
    · rfl
    · split <;> rfl
  cases input with
  | commit id token => rfl
  | effects token =>
      simp only [exec]
      unfold settle
      split
      · split
        · exact cleanup
        · exact (connect _ _ _).trans cleanup
      · rfl
  | fire timer token =>
      simp only [exec]
      split
      · exact connect _ _ _
      · rfl
  | opened socket =>
      simp only [exec]
      split <;> rfl
  | message socket message =>
      simp only [exec]
      split <;> rfl
  | error socket => rfl
  | closed socket =>
      simp only [exec]
      split
      · rfl
      · rfl
      · split <;> rfl

def Input.commits : Input Message → Bool
  | .commit _ _ => true
  | _ => false

theorem run_screen (before after : List (Input Message)) (id token : Option String)
    (still : ∀ input ∈ after, input.commits = false) :
    (run hook (before ++ .commit id token :: after)).screen =
      (run hook (before ++ [.commit id token])).shown := by
  induction after using List.reverseRecOn with
  | nil =>
      rw [run_snoc]
      exact exec_screen hook _ (.commit id token)
  | append_singleton after input ih =>
      have quiet := still input (by simp)
      rw [← List.cons_append, ← List.append_assoc, run_snoc, exec_screen,
        ← ih fun earlier mem => still earlier (by simp [mem])]
      cases input with
      | commit other later => cases quiet
      | _ => rfl

/-- The progress of an import is the latest frame that the effect which began
last has heard, and that effect has heard none that was not sent to a subscriber
of its own job. The screen has the progress of the last commit: when the job had
been rendered before, it is the progress of this job. -/
theorem progress_shown (frame : Message → Bool) (inputs : List (Input Message)) :
    let hook := useImportProgress Message frame
    (run hook inputs).shown = (run hook inputs).latest.find? frame ∧
      (∀ job, (watched inputs).running = some job →
        ∀ entry ∈ (run hook inputs).heard,
          entry.1.effect + 1 = (run hook inputs).ids.length → entry.1.sent = [job]) ∧
      ∀ before after id token, inputs = before ++ .commit id token :: after →
        (∀ input ∈ after, input.commits = false) →
          let committed := before ++ [.commit id token]
          (run hook inputs).screen = (run hook committed).latest.find? frame ∧
            (watched committed).running = (watched before).rendered := by
  intro hook
  have shown (inputs : List (Input Message)) :
      (run hook inputs).shown = (run hook inputs).latest.find? frame := by
    induction inputs using List.reverseRecOn with
    | nil => rfl
    | append_singleton inputs input ih =>
        rw [run_snoc]
        exact turn_progress frame _ _ (exec_turn hook (run_sound hook inputs) input)
          (run_heard hook inputs) ih
  refine ⟨shown inputs, ?_, ?_⟩
  · intro job running entry mem latest
    have subscribed := (run_heard hook inputs entry mem).2
    rw [← (run_dated hook inputs).running] at running
    obtain ⟨effect, mounted, own⟩ := Option.bind_eq_some_iff.mp running
    have last := (run_sound hook inputs).last effect mounted
    have same : entry.1.effect = effect := by
      rw [Page.ids, List.length_map] at latest
      exact Nat.succ.inj (latest.trans last.symm)
    rw [same, own] at subscribed
    exact subscribed.symm
  · rintro before after id token rfl still
    refine ⟨?_, ?_⟩
    · rw [run_screen hook before after id token still]
      exact shown _
    · simp [watched, Watched.turn]

/-- The first rendering of a job still has the last frame of the job before. -/
example :
    (run (useImportProgress Nat fun _ => true)
      [.commit (some "first") none, .effects (some "token"), .opened 0, .message 0 100,
        .commit (some "second") (some "token"), .effects (some "token")]).screen = some 100 := by
  rfl

end FaceVec.Web

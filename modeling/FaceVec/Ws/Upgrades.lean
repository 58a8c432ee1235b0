import Mathlib.Data.List.Induction
import FaceVec.Ws.Membership

/-!
How the upgrade of a socket was authenticated. What is kept of it, the instants
and what Redis held, is what its own steps met in the run: the token is verified
before Redis is asked, and the denylist is asked for before the cutoffs.
-/

namespace FaceVec.Ws

open Interleaving Attendance Auth Courses

variable {E K Payload : Type} {ids : IdText}

variable [Field K] [LinearOrder K] [FloorRing K]

/-- What an upgrade keeps of a question to Redis, where it goes on. -/
inductive Learns (store : Store ids E K Payload) : Contact → Option (Revocations K × K) → Prop where
  | skipped : Learns store .unready none
  | asked : Learns store .ready (some (store.redis, store.clock))

variable (begun : System (Store ids E K Payload) (Handler E K))
  (events : List (Event Input (Change ids E K Payload))) (index : Nat)

/-- Behind these events the process has verified the token. -/
def VerifiedAt (token : AccessTokenClaims) (verified : K)
    (before : List (Event Input (Change ids E K Payload))) : Prop :=
  ∃ replica, before ++ [.act index (.upgrade replica "/ws" (some token))] <+: events ∧
    verified = ((server ids).run begun before).store.clock

/-- Behind these events it has asked Redis, which was there or not. -/
def AskedAt (answer : Option (Revocations K × K))
    (before : List (Event Input (Change ids E K Payload))) : Prop :=
  ∃ contact, before ++ [.act index (.ask contact)] <+: events ∧
    Learns ((server ids).run begun before).store contact answer

def Authenticated (admission : Admission K) : Prop :=
  ∃ one two three, one.length < two.length ∧ two.length < three.length ∧
    VerifiedAt begun events index admission.token admission.verified one ∧
    AskedAt begun events index admission.denylist two ∧
    AskedAt begun events index admission.cutoffs three

/-- What the run has brought a handler to. -/
def Story : Handler E K → Prop
  | .denylisting _ token verified => ∃ one, VerifiedAt begun events index token verified one
  | .cuttingOff _ token verified denylist => ∃ one two, one.length < two.length ∧
      VerifiedAt begun events index token verified one ∧ AskedAt begun events index denylist two
  | .upgrading _ admission => Authenticated begun events index admission
  | _ => True

variable {begun events index}

theorem VerifiedAt.later {token : AccessTokenClaims} {verified : K}
    {before more : List (Event Input (Change ids E K Payload))}
    (at_ : VerifiedAt begun events index token verified before) :
    VerifiedAt begun (events ++ more) index token verified before := by
  obtain ⟨replica, within, same⟩ := at_
  exact ⟨replica, within.trans (List.prefix_append _ _), same⟩

theorem AskedAt.later {answer : Option (Revocations K × K)}
    {before more : List (Event Input (Change ids E K Payload))}
    (at_ : AskedAt begun events index answer before) :
    AskedAt begun (events ++ more) index answer before := by
  obtain ⟨contact, within, answers⟩ := at_
  exact ⟨contact, within.trans (List.prefix_append _ _), answers⟩

theorem Authenticated.later {admission : Admission K}
    {more : List (Event Input (Change ids E K Payload))}
    (authenticated : Authenticated begun events index admission) :
    Authenticated begun (events ++ more) index admission := by
  obtain ⟨one, two, three, first, second, verified, denylist, cutoffs⟩ := authenticated
  exact ⟨one, two, three, first, second, verified.later, denylist.later, cutoffs.later⟩

theorem story_later {handler : Handler E K} {more : List (Event Input (Change ids E K Payload))}
    (story : Story begun events index handler) : Story begun (events ++ more) index handler := by
  cases handler with
  | denylisting replica token verified =>
      obtain ⟨one, at_⟩ := story
      exact ⟨one, at_.later⟩
  | cuttingOff replica token verified denylist =>
      obtain ⟨one, two, ordered, at_, asked⟩ := story
      exact ⟨one, two, ordered, at_.later, asked.later⟩
  | upgrading replica admission => exact Authenticated.later story
  | _ => trivial

theorem VerifiedAt.bound {token : AccessTokenClaims} {verified : K}
    {before : List (Event Input (Change ids E K Payload))}
    (at_ : VerifiedAt begun events index token verified before) : before.length < events.length := by
  obtain ⟨replica, within, _⟩ := at_
  simpa [Nat.succ_le_iff] using within.length_le

theorem AskedAt.bound {answer : Option (Revocations K × K)}
    {before : List (Event Input (Change ids E K Payload))}
    (at_ : AskedAt begun events index answer before) : before.length < events.length := by
  obtain ⟨contact, within, _⟩ := at_
  simpa [Nat.succ_le_iff] using within.length_le

/-- Nobody is admitted between the two stores. -/
def Unadmitting (store after : Store ids E K Payload) : Prop :=
  ∀ socket admission, .admitted socket admission ∈ after.trail →
    .admitted socket admission ∈ store.trail

omit [Field K] [LinearOrder K] [FloorRing K] in
theorem send_unadmitting (store after : Store ids E K Payload) (none_ : Unadmitting store after)
    (socket : SocketId) (reply : Reply) : Unadmitting store (send socket reply after) := by
  unfold send
  split
  · intro other admission member
    exact none_ other admission (by simpa [Store.record] using member)
  · exact none_

theorem onMessage_story (store : Store ids E K Payload) (socket : SocketId) (data : Data) :
    Unadmitting store (onMessage ids socket data store).1 ∧
      Story begun events index (onMessage ids socket data store).2 := by
  have still : Unadmitting store store := fun _ _ member => member
  have left (topic : String) : Unadmitting store
      (store.registering socket fun registry => registry.unsubscribe topic socket) := by
    intro other admission member
    rwa [registering_trail] at member
  unfold onMessage
  split
  · exact ⟨send_unadmitting _ _ still _ _, trivial⟩
  · exact ⟨still, trivial⟩
  · split
    · split
      · exact ⟨still, trivial⟩
      · exact ⟨still, trivial⟩
      · exact ⟨send_unadmitting _ _ still _ _, trivial⟩
    · split
      · split
        · exact ⟨send_unadmitting _ _ (left _) _ _, trivial⟩
        · exact ⟨send_unadmitting _ _ (left _) _ _, trivial⟩
        · exact ⟨send_unadmitting _ _ still _ _, trivial⟩
      · split
        · exact ⟨send_unadmitting _ _ still _ _, trivial⟩
        · exact ⟨send_unadmitting _ _ still _ _, trivial⟩

omit [Field K] [LinearOrder K] [FloorRing K] in
theorem subscribed_unadmitting (store : Store ids E K Payload) (socket : SocketId) (topic : String)
    (check : Check E) (reply : Reply) :
    Unadmitting store (subscribed ids socket topic check reply store) := by
  refine send_unadmitting _ _ (fun other admission member => ?_) _ _
  rw [registering_trail] at member
  simpa [Store.record] using member

theorem checkAccess_story (store : Store ids E K Payload) (fault : Option Failure)
    (handler : Handler E K) (story : Story begun events index handler) :
    Unadmitting store (checkAccess ids fault store handler).1 ∧
      Story begun events index (checkAccess ids fault store handler).2 := by
  have still : Unadmitting store store := fun _ _ member => member
  unfold checkAccess
  split
  · split
    · exact ⟨still, trivial⟩
    · split
      · exact ⟨send_unadmitting _ _ still _ _, trivial⟩
      · exact ⟨subscribed_unadmitting _ _ _ _ _, trivial⟩
  · split
    · exact ⟨send_unadmitting _ _ still _ _, trivial⟩
    · exact ⟨still, trivial⟩
  · split
    · exact ⟨still, trivial⟩
    · split
      · exact ⟨send_unadmitting _ _ still _ _, trivial⟩
      · exact ⟨subscribed_unadmitting _ _ _ _ _, trivial⟩
  · exact ⟨still, story⟩

/-- Each step of an upgrade is the next one of its authentication; the handshake comes last. -/
theorem handleUpgrade_story (input : Input) (handler : Handler E K)
    (story : Story begun events index handler) :
    let store := ((server ids).run begun events).store
    Story begun (events ++ [.act index input]) index (handleUpgrade ids input store handler).2 ∧
      ∀ socket admission,
        .admitted socket admission ∈ (handleUpgrade ids input store handler).1.trail →
        .admitted socket admission ∈ store.trail ∨ Authenticated begun events index admission := by
  intro store
  have still : ∀ socket admission, .admitted socket admission ∈ store.trail →
      .admitted socket admission ∈ store.trail ∨ Authenticated begun events index admission :=
    fun _ _ => Or.inl
  cases handler with
  | idle =>
      cases input with
      | upgrade replica pathname token =>
          cases token with
          | none => exact ⟨trivial, still⟩
          | some token =>
              simp only [handleUpgrade]
              split
              · next path =>
                  split
                  · exact ⟨trivial, still⟩
                  · next claims verified =>
                      obtain ⟨rfl, _⟩ := verifyAccessToken_ok _ _ _ verified
                      exact ⟨⟨events, replica, path ▸ List.prefix_rfl, rfl⟩, still⟩
              · exact ⟨trivial, still⟩
      | _ => exact ⟨trivial, still⟩
  | denylisting replica claims verified =>
      cases input with
      | ask contact =>
          obtain ⟨one, at_⟩ := story
          cases contact with
          | unready =>
              exact ⟨⟨one, events, at_.bound, at_.later, .unready, List.prefix_rfl, .skipped⟩, still⟩
          | fails => exact ⟨trivial, still⟩
          | ready =>
              simp only [handleUpgrade]
              split
              · exact ⟨trivial, still⟩
              · exact ⟨⟨one, events, at_.bound, at_.later, .ready, List.prefix_rfl, .asked⟩, still⟩
      | _ => exact ⟨story_later story, still⟩
  | cuttingOff replica claims verified denylist =>
      cases input with
      | ask contact =>
          obtain ⟨one, two, ordered, at_, asked⟩ := story
          cases contact with
          | unready =>
              exact ⟨⟨one, two, events, ordered, asked.bound, at_.later, asked.later, .unready,
                List.prefix_rfl, .skipped⟩, still⟩
          | fails => exact ⟨trivial, still⟩
          | ready =>
              simp only [handleUpgrade]
              split
              · exact ⟨trivial, still⟩
              · exact ⟨⟨one, two, events, ordered, asked.bound, at_.later, asked.later, .ready,
                  List.prefix_rfl, .asked⟩, still⟩
      | _ => exact ⟨story_later story, still⟩
  | upgrading replica admission =>
      cases input with
      | handshake succeeds =>
          cases succeeds with
          | false => exact ⟨trivial, still⟩
          | true =>
              refine ⟨trivial, fun socket other member => ?_⟩
              have opened := send_unadmitting _ _ (fun _ _ member => member) _ _ socket other member
              rcases List.mem_append.mp opened with old | new
              · exact Or.inl old
              · cases List.mem_singleton.mp new
                exact Or.inr story
      | _ => exact ⟨story_later story, still⟩
  | _ => exact ⟨trivial, still⟩

theorem exec_story (input : Input) (handler : Handler E K)
    (story : Story begun events index handler) :
    let store := ((server ids).run begun events).store
    Story begun (events ++ [.act index input]) index (exec ids input store handler).2 ∧
      ∀ socket admission, .admitted socket admission ∈ (exec ids input store handler).1.trail →
        .admitted socket admission ∈ store.trail ∨ Authenticated begun events index admission := by
  intro store
  unfold exec
  split
  · next socket data =>
      have onward : Unadmitting store (onMessage ids socket data store).1 ∧
          Story begun events index (onMessage ids socket data store).2 :=
        onMessage_story store socket data
      obtain ⟨none_, next_⟩ := onward
      exact ⟨story_later next_, fun other admission member => Or.inl (none_ other admission member)⟩
  · obtain ⟨none_, next_⟩ := checkAccess_story store _ _ story
    exact ⟨story_later next_, fun other admission member => Or.inl (none_ other admission member)⟩
  · exact handleUpgrade_story _ _ story

omit [Field K] [FloorRing K] in
theorem ambient_unadmitting (store : Store ids E K Payload) (change : Change ids E K Payload) :
    Unadmitting store (ambient ids change store) := by
  intro socket admission member
  cases change with
  | publish replica event redisReady =>
      cases redisReady with
      | true => exact member
      | false => simpa [ambient, broadcast, Store.record] using member
  | receive replica =>
      simp only [ambient] at member
      split at member
      · exact member
      · simpa [broadcast, Store.record] using member
  | closed other =>
      simpa only [ambient, registering_trail, Store.changing] using member
  | _ => exact member

variable (begun) in
/-- Whoever is admitted has been authenticated by steps of the run. -/
theorem run_story (events : List (Event Input (Change ids E K Payload)))
    (idle : ∀ index, Story begun [] index (begun.procs index))
    (nobody : ∀ socket admission, .admitted socket admission ∉ begun.store.trail) :
    let final := (server ids).run begun events
    (∀ index, Story begun events index (final.procs index)) ∧
      ∀ socket admission, .admitted socket admission ∈ final.store.trail →
        ∃ index, Authenticated begun events index admission := by
  induction events using List.reverseRecOn with
  | nil => exact ⟨idle, fun socket admission member => absurd member (nobody socket admission)⟩
  | append_singleton events event ih =>
      obtain ⟨stories, admitted⟩ := ih
      have kept : ∀ socket admission,
          .admitted socket admission ∈ ((server ids).run begun events).store.trail →
            ∃ index, Authenticated begun (events ++ [event]) index admission := by
        intro socket admission member
        obtain ⟨index, authenticated⟩ := admitted socket admission member
        exact ⟨index, authenticated.later⟩
      rw [run_append]
      cases event with
      | env change =>
          exact ⟨fun index => story_later (stories index), fun socket admission member =>
            kept socket admission (ambient_unadmitting _ change socket admission member)⟩
      | act index input =>
          obtain ⟨story, opened⟩ := exec_story input _ (stories index)
          constructor
          · intro other
            by_cases same : other = index
            · subst same
              rw [Machine.run, Machine.run, step_self]
              exact story
            · rw [Machine.run, Machine.run, step_other _ _ _ _ _ same]
              exact story_later (stories other)
          · intro socket admission member
            rcases opened socket admission member with old | authenticated
            · exact kept socket admission old
            · exact ⟨index, authenticated.later⟩

end FaceVec.Ws

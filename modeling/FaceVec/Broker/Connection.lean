import FaceVec.Interleaving

/-!
The connection manager of `messaging/rabbitmq.ts`. Connections are numbered in
the order in which they are opened; each has one confirm channel. A connection
is open until it reports its close, which may be long after the manager has
given it up. `established` is a history: the connection assigned last.
-/

namespace FaceVec.RabbitMQ

open Interleaving

/-- Where `establish` waits; after `asserted` only its assignments are left. -/
inductive Stage where
  | connecting
  | openingChannel (link : Nat)
  | asserting (link : Nat)
  | asserted (link : Nat)
  deriving DecidableEq, Repr

def Stage.link : Stage → Option Nat
  | .connecting => none
  | .openingChannel link | .asserting link | .asserted link => some link

structure Manager where
  url : Option String
  connection : Option Nat := none
  channel : Option Nat := none
  connecting : Option Stage := none
  closing : Bool := false
  timers : Nat := 0
  opened : Nat := 0
  connectionOpen : Nat → Bool := fun _ => false
  channelOpen : Nat → Bool := fun _ => false
  established : Option Nat := none

/-- One call of `close`. -/
inductive Closer where
  | idle
  | closingChannel
  | closingConnection
  | closed

inductive Input where
  | close
  | resume

inductive BrokerEvent where
  | connect
  | timer
  | succeed
  | fail
  | connectionClosed (link : Nat)
  | channelClosed (link : Nat)

def isReady (manager : Manager) : Bool := manager.channel.isSome

def scheduleReconnect (manager : Manager) : Manager :=
  if manager.closing then manager else { manager with timers := manager.timers + 1 }

/-- Neither knows which connection it is called for. -/
def handleClose (manager : Manager) : Manager :=
  scheduleReconnect { manager with connection := none, channel := none }

def connect (manager : Manager) : Manager :=
  match manager.url with
  | none => manager
  | some _ =>
      if manager.channel.isSome || manager.connecting.isSome then manager
      else { manager with connecting := some .connecting }

/-- `establish` goes on after the answer it waits for. -/
def succeed (manager : Manager) : Manager :=
  match manager.connecting with
  | none => manager
  | some .connecting =>
      { manager with
        opened := manager.opened + 1
        connectionOpen := Function.update manager.connectionOpen manager.opened true
        connecting := some (.openingChannel manager.opened) }
  | some (.openingChannel link) =>
      if manager.connectionOpen link then
        { manager with
          channelOpen := Function.update manager.channelOpen link true
          connecting := some (.asserting link) }
      else manager
  | some (.asserting link) =>
      if manager.channelOpen link then { manager with connecting := some (.asserted link) }
      else manager
  | some (.asserted link) =>
      { manager with
        connection := some link
        channel := some link
        connecting := none
        established := some link }

/-- The `catch` of `establish`; a connection that was opened stays open. -/
def establishFailed (manager : Manager) : Manager :=
  match manager.connecting with
  | none | some (.asserted _) => manager
  | some _ =>
      scheduleReconnect { manager with connection := none, channel := none, connecting := none }

def ambient (event : BrokerEvent) (manager : Manager) : Manager :=
  match event with
  | .connect => connect manager
  | .timer =>
      if manager.timers = 0 then manager
      else connect { manager with timers := manager.timers - 1 }
  | .succeed => succeed manager
  | .fail => establishFailed manager
  | .connectionClosed link =>
      if manager.connectionOpen link then
        handleClose
          { manager with
            connectionOpen := Function.update manager.connectionOpen link false
            channelOpen := Function.update manager.channelOpen link false }
      else manager
  -- No handler listens to the close of a channel.
  | .channelClosed link =>
      { manager with channelOpen := Function.update manager.channelOpen link false }

def exec (input : Input) (manager : Manager) (closer : Closer) : Manager × Closer :=
  match closer, input with
  | .idle, .close => ({ manager with closing := true }, .closingChannel)
  | .closingChannel, .resume => (manager, .closingConnection)
  | .closingConnection, .resume => ({ manager with channel := none, connection := none }, .closed)
  | closer, _ => (manager, closer)

def machine : Machine Manager Closer Input BrokerEvent where
  exec := exec
  ambient := ambient

abbrev State := System Manager Closer

def start (url : Option String) : State := ⟨{ url }, fun _ => .idle⟩

def Usable (manager : Manager) (link : Nat) : Prop :=
  manager.connectionOpen link = true ∧ manager.channelOpen link = true

/-- The manager is ready if and only if the connection established last and its
channel are open. -/
def Truthful (manager : Manager) : Prop :=
  isReady manager = true ↔ ∃ link, manager.established = some link ∧ Usable manager link

/-- The close of another connection leaves the current one alone. -/
def LateCloseHarmless (system : State) : Event Input BrokerEvent → Prop
  | .env (.connectionClosed link) =>
      ∀ current, system.store.channel = some current → current ≠ link →
        (ambient (.connectionClosed link) system.store).channel = some current ∧
          (ambient (.connectionClosed link) system.store).connection = some current
  | _ => True

def ReadinessTruthful (system : State) (event : Event Input BrokerEvent) : Prop :=
  ((machine.step system event).store.connecting = none →
      Truthful (machine.step system event).store) ∧
    LateCloseHarmless system event

/-- The current channel does not close while its connection stays, no connection
but the current one reports its close while there is a current one, a connection
is still open when it is assigned, and `close` ends after its connection. -/
def Steady (system : State) : Event Input BrokerEvent → Prop
  | .env (.channelClosed link) => system.store.channel ≠ some link
  | .env (.connectionClosed link) =>
      system.store.connectionOpen link = true →
        system.store.connection = none ∨ system.store.connection = some link
  | .env .succeed =>
      ∀ link, system.store.connecting = some (.asserted link) → Usable system.store link
  | .act index .resume =>
      match system.procs index with
      | .closingConnection => system.store.connection = none
      | _ => True
  | _ => True

structure Valid (manager : Manager) : Prop where
  paired : manager.connection = manager.channel
  known : ∀ link, manager.established = some link → link < manager.opened
  current : ∀ link, manager.channel = some link →
    manager.established = some link ∧ Usable manager link
  given : manager.channel = none → ∀ link, manager.established = some link → ¬ Usable manager link
  staged : ∀ stage, manager.connecting = some stage → manager.channel = none ∧
    ∀ link, stage.link = some link → link < manager.opened ∧ manager.established ≠ some link

theorem valid_truthful (manager : Manager) (valid : Valid manager) : Truthful manager := by
  unfold Truthful isReady
  cases channel : manager.channel with
  | none =>
      constructor
      · intro ready
        cases ready
      · rintro ⟨link, last, usable⟩
        exact absurd usable (valid.given channel link last)
  | some link =>
      obtain ⟨last, usable⟩ := valid.current link channel
      exact ⟨fun _ => ⟨link, last, usable⟩, fun _ => rfl⟩

theorem valid_reconnect (manager : Manager) (valid : Valid manager) :
    Valid (scheduleReconnect manager) := by
  unfold scheduleReconnect
  split
  · exact valid
  · exact ⟨valid.paired, valid.known, valid.current, valid.given, valid.staged⟩

/-- Giving up the current connection is sound where the last one is not usable. -/
theorem valid_cleared (manager : Manager) (valid : Valid manager)
    (gone : ∀ link, manager.established = some link → ¬ Usable manager link) :
    Valid { manager with connection := none, channel := none } where
  paired := rfl
  known := valid.known
  current link impossible := by cases impossible
  given _ := gone
  staged stage waiting := ⟨rfl, (valid.staged stage waiting).2⟩

theorem valid_connect (manager : Manager) (valid : Valid manager) : Valid (connect manager) := by
  unfold connect
  split
  · exact valid
  · split
    · exact valid
    · next free =>
        have empty : manager.channel = none ∧ manager.connecting = none := by simpa using free
        refine ⟨valid.paired, valid.known, valid.current, valid.given, fun stage waiting => ?_⟩
        obtain rfl := Option.some.inj waiting
        exact ⟨empty.1, fun link impossible => by cases impossible⟩

theorem valid_succeed (manager : Manager) (valid : Valid manager)
    (steady : ∀ link, manager.connecting = some (.asserted link) → Usable manager link) :
    Valid (succeed manager) := by
  unfold succeed
  split
  · exact valid
  · next waiting =>
      obtain ⟨empty, _⟩ := valid.staged _ waiting
      refine ⟨valid.paired, fun link last => Nat.lt_succ_of_lt (valid.known link last),
        fun link impossible => ?_, fun _ link last usable => ?_, fun stage next => ?_⟩
      · rw [empty] at impossible
        cases impossible
      · have older := Nat.ne_of_lt (valid.known link last)
        simp only [Usable, Function.update_of_ne older] at usable
        exact valid.given empty link last usable
      · obtain rfl := Option.some.inj next
        refine ⟨empty, fun link named => ?_⟩
        obtain rfl := Option.some.inj named
        exact ⟨Nat.lt_succ_self _, fun last => Nat.lt_irrefl _ (valid.known _ last)⟩
  · next link waiting =>
      obtain ⟨empty, others⟩ := valid.staged _ waiting
      obtain ⟨below, different⟩ := others link rfl
      split
      · refine ⟨valid.paired, valid.known, fun other impossible => ?_,
          fun _ other last usable => ?_, fun stage next => ?_⟩
        · rw [empty] at impossible
          cases impossible
        · have apart : other ≠ link := fun same => different (same ▸ last)
          simp only [Usable, Function.update_of_ne apart] at usable
          exact valid.given empty other last usable
        · obtain rfl := Option.some.inj next
          exact ⟨empty, others⟩
      · exact valid
  · next link waiting =>
      split
      · refine ⟨valid.paired, valid.known, valid.current, valid.given, fun stage next => ?_⟩
        obtain rfl := Option.some.inj next
        have before := valid.staged (.asserting link) waiting
        exact before
      · exact valid
  · next link waiting =>
      obtain ⟨_, others⟩ := valid.staged _ waiting
      refine ⟨rfl, fun other last => ?_, fun other now => ?_, fun impossible => (by cases impossible),
        fun stage impossible => by cases impossible⟩
      · rw [← Option.some.inj last]
        exact (others link rfl).1
      · obtain rfl := Option.some.inj now
        exact ⟨rfl, steady link waiting⟩

theorem valid_failed (manager : Manager) (valid : Valid manager) :
    Valid (establishFailed manager) := by
  unfold establishFailed
  split
  · exact valid
  · exact valid
  · next stage _ waiting =>
      apply valid_reconnect
      have cleared := valid_cleared manager valid (valid.given (valid.staged stage waiting).1)
      exact ⟨rfl, cleared.known, cleared.current, cleared.given,
        fun stage impossible => by cases impossible⟩

/-- Once a connection or channel is down, nothing that was not usable becomes so. -/
theorem valid_down (manager : Manager) (valid : Valid manager) (connectionOpen channelOpen : Nat → Bool)
    (fewer : ∀ link, connectionOpen link = true ∧ channelOpen link = true → Usable manager link)
    (current : ∀ link, manager.channel = some link →
      connectionOpen link = true ∧ channelOpen link = true) :
    Valid { manager with connectionOpen, channelOpen } where
  paired := valid.paired
  known := valid.known
  current link now := ⟨(valid.current link now).1, current link now⟩
  given empty link last usable := valid.given empty link last (fewer link usable)
  staged := valid.staged

theorem usable_update (manager : Manager) (link other : Nat)
    (usable : manager.connectionOpen other = true ∧
      Function.update manager.channelOpen link false other = true) : Usable manager other := by
  by_cases same : other = link
  · subst same
    simp at usable
  · simpa [Usable, Function.update_of_ne same] using usable

theorem valid_connectionClosed (manager : Manager) (link : Nat) (valid : Valid manager)
    (steady : manager.connectionOpen link = true →
      manager.connection = none ∨ manager.connection = some link) :
    Valid (ambient (.connectionClosed link) manager) := by
  simp only [ambient]
  split
  · next isOpen =>
      have unusable : ∀ other, Function.update manager.connectionOpen link false other = true ∧
          Function.update manager.channelOpen link false other = true → Usable manager other ∧
            other ≠ link := by
        intro other usable
        by_cases same : other = link
        · subst same
          simp at usable
        · exact ⟨by simpa [Usable, Function.update_of_ne same] using usable, same⟩
      apply valid_reconnect
      refine ⟨rfl, valid.known, fun other impossible => (by cases impossible),
        fun _ other last usable => ?_, fun stage waiting => ⟨rfl, (valid.staged stage waiting).2⟩⟩
      obtain ⟨usable, different⟩ := unusable other usable
      cases now : manager.channel with
      | none => exact valid.given now other last usable
      | some current =>
          have same : current = other :=
            Option.some.inj ((valid.current current now).1.symm.trans last)
          rcases steady isOpen with none_ | own
          · rw [valid.paired, now] at none_
            cases none_
          · rw [valid.paired, now, Option.some.injEq, same] at own
            exact different own
  · exact valid

theorem step_valid (system : State) (event : Event Input BrokerEvent) (valid : Valid system.store)
    (steady : Steady system event) : Valid (machine.step system event).store := by
  cases event with
  | env event =>
      cases event with
      | connect => exact valid_connect _ valid
      | timer =>
          simp only [Machine.step, machine, ambient]
          split
          · exact valid
          · exact valid_connect _
              ⟨valid.paired, valid.known, valid.current, valid.given, valid.staged⟩
      | succeed => exact valid_succeed _ valid steady
      | fail => exact valid_failed _ valid
      | connectionClosed link => exact valid_connectionClosed _ link valid steady
      | channelClosed link =>
          refine valid_down _ valid _ _ (usable_update system.store link) fun current now => ?_
          have different : current ≠ link := fun same => steady (same ▸ now)
          simpa [Usable, Function.update_of_ne different] using (valid.current current now).2
  | act index input =>
      simp only [step_store, machine, exec]
      split
      · exact ⟨valid.paired, valid.known, valid.current, valid.given, valid.staged⟩
      · exact valid
      · next closing =>
          simp only [Steady, closing] at steady
          exact valid_cleared _ valid (valid.given (valid.paired ▸ steady))
      · exact valid

theorem not_connecting (manager : Manager) (valid : Valid manager) (link : Nat)
    (current : manager.channel = some link) : manager.connecting = none := by
  cases waiting : manager.connecting with
  | none => rfl
  | some stage =>
      have empty := (valid.staged stage waiting).1
      rw [current] at empty
      cases empty

theorem steady_lateClose (system : State) (event : Event Input BrokerEvent)
    (valid : Valid system.store) (steady : Steady system event) : LateCloseHarmless system event := by
  unfold LateCloseHarmless
  split
  · next link =>
      intro current now different
      have own : system.store.connection = some current := valid.paired.trans now
      simp only [ambient]
      split
      · next isOpen =>
          rcases steady isOpen with none_ | same
          · rw [own] at none_
            cases none_
          · rw [own, Option.some.injEq] at same
            exact absurd same different
      · exact ⟨now, own⟩
  · trivial

section Unsteady

variable (system : State) (valid : Valid system.store)

/-- A connection that is assigned closed is reported as ready. -/
theorem truthful_succeed (truthful : ReadinessTruthful system (.env .succeed)) :
    Steady system (.env .succeed) := by
  intro link waiting
  have done : (machine.step system (.env .succeed)).store =
      { system.store with
        connection := some link
        channel := some link
        connecting := none
        established := some link } := by
    simp [Machine.step, machine, ambient, succeed, waiting]
  have ready := truthful.1
  rw [done] at ready
  obtain ⟨other, last, usable⟩ := (ready rfl).mp rfl
  obtain rfl := Option.some.inj last
  exact usable

include valid

/-- The close of another connection takes the current channel away. -/
theorem truthful_connectionClosed (link : Nat)
    (truthful : ReadinessTruthful system (.env (.connectionClosed link))) :
    Steady system (.env (.connectionClosed link)) := by
  intro isOpen
  cases own : system.store.connection with
  | none => exact Or.inl rfl
  | some current =>
      right
      by_contra different
      have kept := truthful.2 current (valid.paired ▸ own) fun same => different (congrArg _ same)
      have closing : (ambient (.connectionClosed link) system.store).channel = none := by
        simp only [ambient, isOpen, if_true, handleClose, scheduleReconnect]
        split <;> rfl
      rw [closing] at kept
      cases kept.1

/-- Nobody listens to the channel, so its close leaves the manager ready. -/
theorem truthful_channelClosed (link : Nat)
    (truthful : ReadinessTruthful system (.env (.channelClosed link))) :
    Steady system (.env (.channelClosed link)) := by
  intro now
  have last := (valid.current link now).1
  have idle := not_connecting _ valid link now
  obtain ⟨other, same, usable⟩ := (truthful.1 idle).mp (by
    simp [Machine.step, machine, ambient, isReady, now])
  have own : link = other := Option.some.inj (last.symm.trans same)
  subst own
  simp [Usable, Machine.step, machine, ambient] at usable

/-- `close` ends by clearing a channel that can still be used. -/
theorem truthful_resume (index : Nat) (truthful : ReadinessTruthful system (.act index .resume)) :
    Steady system (.act index .resume) := by
  simp only [Steady]
  split
  · next closing =>
      cases own : system.store.connection with
      | none => rfl
      | some link =>
          have now : system.store.channel = some link := valid.paired ▸ own
          have idle := not_connecting _ valid link now
          have cleared : (machine.step system (.act index .resume)).store =
              { system.store with channel := none, connection := none } := by
            simp [machine, exec, closing]
          have ready := truthful.1
          rw [cleared] at ready
          obtain ⟨last, usable⟩ := valid.current link now
          have claimsReady := (ready idle).mpr ⟨link, last, usable⟩
          cases claimsReady
  · trivial

/-- Each way not to be steady makes the manager's readiness untrue at once. -/
theorem truthful_steady (event : Event Input BrokerEvent)
    (truthful : ReadinessTruthful system event) : Steady system event := by
  cases event with
  | env event =>
      cases event with
      | succeed => exact truthful_succeed system truthful
      | connectionClosed link => exact truthful_connectionClosed system valid link truthful
      | channelClosed link => exact truthful_channelClosed system valid link truthful
      | _ => trivial
  | act index input =>
      cases input with
      | close => trivial
      | resume => exact truthful_resume system valid index truthful

end Unsteady

/-- In every run, readiness is truthful and late closes are harmless exactly as
long as every step is steady. -/
theorem readiness_truthful (url : Option String) (events : List (Event Input BrokerEvent)) :
    machine.Along ReadinessTruthful (start url) events ↔ machine.Along Steady (start url) events := by
  have initially : Valid (start url).store :=
    ⟨rfl, fun link none_ => (by cases none_), fun link none_ => (by cases none_),
      fun _ link none_ => (by cases none_), fun stage none_ => (by cases none_)⟩
  apply along_iff_of_invariant machine _ _ (fun system => Valid system.store) _ step_valid _ _
    initially
  intro system event valid
  constructor
  · exact truthful_steady system valid event
  · intro steady
    exact ⟨fun _ => valid_truthful _ (step_valid system event valid steady),
      steady_lateClose system event valid steady⟩

/-- Connect, and establish connection `link`. -/
def establishing : List (Event Input BrokerEvent) :=
  [.env .connect, .env .succeed, .env .succeed, .env .succeed, .env .succeed]

/-- The channel of the current connection closes alone. -/
def channelLost : List (Event Input BrokerEvent) := establishing ++ [.env (.channelClosed 0)]

/-- The first attempt fails with its connection open, the second succeeds, and
then the first connection closes. -/
def lateClose : List (Event Input BrokerEvent) :=
  [.env .connect, .env .succeed, .env .succeed, .env .fail, .env .timer] ++ establishing.tail ++
    [.env (.connectionClosed 0)]

theorem readiness_untruthful :
    ¬ machine.Along ReadinessTruthful (start (some "amqp://broker")) channelLost ∧
      ¬ machine.Along ReadinessTruthful (start (some "amqp://broker")) lateClose := by
  constructor
  · rintro ⟨_, _, _, _, _, ⟨truthful, _⟩, _⟩
    obtain ⟨link, last, usable⟩ := (truthful rfl).mp rfl
    obtain rfl := Option.some.inj last
    cases usable.2
  · rintro ⟨_, _, _, _, _, _, _, _, _, ⟨_, harmless⟩, _⟩
    have kept := harmless 1 rfl (by decide)
    cases kept.1

end FaceVec.RabbitMQ

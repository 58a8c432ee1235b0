import FaceVec.Ws.Grants
import FaceVec.Ws.Liveness

/-!
Whether a client's last word on a subscription wins. A message that
unsubscribes acts at once, one that subscribes only when its check is granted;
a check that is pending when the client unsubscribes brings the topic back.
-/

namespace FaceVec.Ws

open Interleaving Attendance Auth Courses

variable {E K Payload : Type} {ids : IdText}

def Word.topic : Word → String
  | subscribe subscription => subscription.topic
  | unsubscribe subscription => subscription.topic

/-- What a word does to a set of topics if nothing else happens. -/
def Word.apply (topics : List String) : Word → List String
  | subscribe subscription => Registry.add topics subscription.topic
  | unsubscribe subscription => Registry.delete topics subscription.topic

/-- The words one after the other. -/
def applied (words : List Word) : List String := words.foldl Word.apply []

/-- Some process has yet to check a subscription of the topic. -/
def Awaits (system : System (Store ids E K Payload) (Handler E K)) (socket : SocketId)
    (topic : String) : Prop :=
  ∃ subscription : Subscription, subscription.topic = topic ∧ Checking system socket subscription

/-- A word, and whether a check of its topic was pending when it was heard. -/
structure Mention where
  word : Word
  awaited : Prop

/-- What the step hears from the socket. -/
def mention (socket : SocketId) (system : System (Store ids E K Payload) (Handler E K))
    (event : Event Input (Change ids E K Payload)) : Option Mention :=
  match received system event with
  | some (speaker, word) =>
      if speaker = socket then some ⟨word, Awaits system socket word.topic⟩ else none
  | none => none

def lastMention (topic : String) (mentions : List Mention) : Option Mention :=
  (mentions.filter fun mention => decide (mention.word.topic = topic)).getLast?

/-- The last word on the topic unsubscribes while a check of it is pending. -/
def Overtaken (topic : String) (mentions : List Mention) : Prop :=
  ∃ last subscription, lastMention topic mentions = some last ∧
    last.word = .unsubscribe subscription ∧ last.awaited

section Words

variable (mentions : List Mention) (said : Mention)

theorem applied_self :
    said.word.topic ∈ applied ((mentions ++ [said]).map Mention.word) ↔
      ∃ subscription, said.word = .subscribe subscription := by
  rw [List.map_append, List.map_singleton, applied, List.foldl_append, List.foldl_cons, List.foldl_nil]
  cases said.word with
  | subscribe subscription => simp [Word.apply, Word.topic]
  | unsubscribe subscription => simp [Word.apply, Word.topic]

theorem applied_other (topic : String) (other : said.word.topic ≠ topic) :
    topic ∈ applied ((mentions ++ [said]).map Mention.word) ↔
      topic ∈ applied (mentions.map Mention.word) := by
  rw [List.map_append, List.map_singleton, applied, List.foldl_append, List.foldl_cons, List.foldl_nil]
  cases word : said.word with
  | subscribe subscription =>
      have different : topic ≠ subscription.topic := fun same => other (by rw [word, same]; rfl)
      simp [Word.apply, applied, different]
  | unsubscribe subscription =>
      have different : topic ≠ subscription.topic := fun same => other (by rw [word, same]; rfl)
      simp [Word.apply, applied, different]

theorem lastMention_append (topic : String) :
    lastMention topic (mentions ++ [said]) =
      if said.word.topic = topic then some said else lastMention topic mentions := by
  unfold lastMention
  by_cases same : said.word.topic = topic <;> simp [List.filter_append, same]

theorem overtaken_self :
    Overtaken said.word.topic (mentions ++ [said]) ↔
      (∃ subscription, said.word = .unsubscribe subscription) ∧ said.awaited := by
  unfold Overtaken
  rw [lastMention_append, if_pos rfl]
  constructor
  · rintro ⟨last, subscription, same, leaves, awaited⟩
    cases same
    exact ⟨⟨subscription, leaves⟩, awaited⟩
  · rintro ⟨⟨subscription, leaves⟩, awaited⟩
    exact ⟨said, subscription, rfl, leaves, awaited⟩

theorem overtaken_other (topic : String) (other : said.word.topic ≠ topic) :
    Overtaken topic (mentions ++ [said]) ↔ Overtaken topic mentions := by
  rw [Overtaken, lastMention_append, if_neg other, Overtaken]

end Words

section Steps

variable [Field K] [LinearOrder K] [FloorRing K]
variable (system : System (Store ids E K Payload) (Handler E K))
  (event : Event Input (Change ids E K Payload)) (socket : SocketId) (topic : String)

omit [Field K] [LinearOrder K] [FloorRing K] in
theorem grants_unheard (granted : SocketId × Subscription) (passed : grants system event = some granted) :
    received system event = none := by
  cases event with
  | env change => cases passed
  | act index input => cases input <;> first | rfl | cases passed

omit [Field K] [LinearOrder K] [FloorRing K] in
theorem registration_leaves (subscription : Subscription) :
    registration system event = some (socket, .leaves subscription) ↔
      received system event = some (socket, .unsubscribe subscription) := by
  cases event with
  | env change => cases change <;> simp [registration, grants, received]
  | act index input =>
      cases passed : grants system (.act index input) with
      | some granted =>
          simp [registration, passed, grants_unheard system _ granted passed]
      | none =>
          simp only [registration, passed]
          split <;> simp_all

omit [Field K] [LinearOrder K] [FloorRing K] in
theorem registration_drops (dropped : registration system event = some (socket, .drops)) :
    closes socket event := by
  cases event with
  | env change =>
      cases change with
      | closed other => exact (Prod.mk.inj (Option.some.inj dropped)).1
      | _ => cases dropped
  | act index input =>
      simp only [registration] at dropped
      split at dropped <;> simp at dropped

/-- The socket has the topic, or a check that may bring it. -/
def Live : Prop := Subscribes system.store socket topic ∨ Awaits system socket topic

omit [Field K] [LinearOrder K] [FloorRing K] in
theorem grants_awaits (subscription : Subscription)
    (passed : grants system event = some (socket, subscription)) :
    Awaits system socket subscription.topic :=
  ⟨subscription, rfl, grants_checking system event socket subscription passed⟩

theorem step_joins (subscription : Subscription)
    (passed : grants system event = some (socket, subscription)) :
    Subscribes ((server ids).step system event).store socket subscription.topic := by
  have present : ∃ state : Socket, system.store.sockets[socket]? = some state := by
    cases event with
    | env change => cases passed
    | act index input =>
        cases input with
        | read fault => exact (grant_pending system.store fault _ socket subscription passed).2.2
        | _ => cases passed
  obtain ⟨state, found⟩ := present
  refine ⟨state.replica, ?_⟩
  rw [step_registries, (registration_joins system event socket subscription).mpr passed]
  exact registered_joins system.store socket state subscription found

theorem step_leaves (housed : Housed system.store) (subscription : Subscription)
    (heard : received system event = some (socket, .unsubscribe subscription)) :
    ¬ Subscribes ((server ids).step system event).store socket subscription.topic := by
  rintro ⟨replica, member⟩
  rw [step_registries, (registration_leaves system event socket subscription).mpr heard] at member
  exact registered_ends system.store socket replica _ housed (.leaves subscription) rfl member

theorem step_subscribes (after : Subscribes ((server ids).step system event).store socket topic) :
    Live system socket topic := by
  obtain ⟨replica, member⟩ := after
  rw [step_registries] at member
  rcases registered_subscriptions system.store socket replica topic _ member with
    old | ⟨subscription, _, joins, rfl, _⟩
  · exact Or.inl ⟨replica, old⟩
  · exact Or.inr (grants_awaits system event socket subscription
      ((registration_joins system event socket subscription).mp joins))

theorem step_keeps (connected : ¬ closes socket event)
    (stays : ∀ subscription, received system event = some (socket, .unsubscribe subscription) →
      subscription.topic ≠ topic)
    (before : Subscribes system.store socket topic) :
    Subscribes ((server ids).step system event).store socket topic := by
  obtain ⟨replica, member⟩ := before
  refine ⟨replica, ?_⟩
  rw [step_registries]
  apply registered_kept system.store socket replica topic _ _ member
  intro own registers ends
  cases own with
  | joins subscription => exact ends
  | leaves subscription =>
      exact stays subscription ((registration_leaves system event socket subscription).mp registers) ends
  | drops => exact connected (registration_drops system event socket registers)

theorem step_awaits (after : Awaits ((server ids).step system event) socket topic) :
    Awaits system socket topic ∨ ∃ subscription : Subscription,
      received system event = some (socket, .subscribe subscription) ∧ subscription.topic = topic := by
  obtain ⟨subscription, same, index, pending⟩ := after
  cases step_turn system event index with
  | kept still => exact Or.inl ⟨subscription, same, index, still ▸ pending⟩
  | began speaker other heard _ waiting =>
      rw [waiting] at pending
      obtain ⟨rfl, rfl⟩ := Prod.mk.inj (Option.some.inj pending)
      exact Or.inr ⟨other, heard, same⟩
  | granted _ _ _ _ ended =>
      rw [ended] at pending
      cases pending
  | refused _ _ refuses waiting =>
      obtain ⟨acting, fault, rfl, held, _, ended⟩ := refuses
      by_cases here : index = acting
      · subst here
        rw [ended] at pending
        cases pending
      · rw [step_other _ _ _ _ _ here] at pending
        exact Or.inl ⟨subscription, same, index, pending⟩

/-- A check that is not refused goes on or subscribes the socket. -/
theorem awaits_step (unrefused : ∀ subscription, ¬ Refuses system event socket subscription)
    (before : Awaits system socket topic) : Live ((server ids).step system event) socket topic := by
  obtain ⟨subscription, rfl, index, pending⟩ := before
  cases step_turn system event index with
  | kept same => exact Or.inr ⟨subscription, rfl, index, same.trans pending⟩
  | began _ _ _ idle _ =>
      rw [idle] at pending
      cases pending
  | granted speaker other passed waiting ended =>
      rw [waiting] at pending
      obtain ⟨rfl, rfl⟩ := Prod.mk.inj (Option.some.inj pending)
      exact Or.inl (step_joins system event speaker other passed)
  | refused speaker other refuses waiting =>
      rw [waiting] at pending
      obtain ⟨rfl, rfl⟩ := Prod.mk.inj (Option.some.inj pending)
      exact absurd refuses (unrefused other)

/-- Access to what the socket asks for is granted, and the socket stays. -/
def Permitted (socket : SocketId) (system : System (Store ids E K Payload) (Handler E K))
    (event : Event Input (Change ids E K Payload)) : Prop :=
  ¬ closes socket event ∧ ∀ subscription, ¬ Refuses system event socket subscription

/-- The topics of the words are those that are there or on their way, but for
the topics that were overtaken. -/
structure Tracked (socket : SocketId) (system : System (Store ids E K Payload) (Handler E K))
    (mentions : List Mention) : Prop where
  housed : Housed system.store
  live : ∀ topic, Live system socket topic ↔
    topic ∈ applied (mentions.map Mention.word) ∨ Overtaken topic mentions
  exclusive : ∀ topic, topic ∈ applied (mentions.map Mention.word) → ¬ Overtaken topic mentions

theorem step_live (permitted : Permitted socket system event)
    (unsaid : ∀ word, received system event = some (socket, word) → word.topic ≠ topic) :
    Live ((server ids).step system event) socket topic ↔ Live system socket topic := by
  constructor
  · rintro (has | awaits)
    · exact step_subscribes system event socket topic has
    · rcases step_awaits system event socket topic awaits with before | ⟨subscription, heard, about⟩
      · exact Or.inr before
      · exact absurd about (unsaid _ heard)
  · rintro (has | awaits)
    · exact Or.inl (step_keeps system event socket topic permitted.1
        (fun subscription heard => unsaid _ heard) has)
    · exact awaits_step system event socket topic permitted.2 awaits

/-- After a message that unsubscribes only a pending check is left of the topic. -/
theorem unsubscribe_live (housed : Housed system.store) (permitted : Permitted socket system event)
    (subscription : Subscription)
    (heard : received system event = some (socket, .unsubscribe subscription)) :
    Live ((server ids).step system event) socket subscription.topic ↔
      Awaits system socket subscription.topic := by
  constructor
  · rintro (has | awaits)
    · exact absurd has (step_leaves system event socket housed subscription heard)
    · rcases step_awaits system event socket _ awaits with before | ⟨other, asks, _⟩
      · exact before
      · rw [heard] at asks
        cases asks
  · exact awaits_step system event socket _ permitted.2

omit [Field K] [LinearOrder K] [FloorRing K] in
theorem mention_some (said : Mention) (heard : mention socket system event = some said) :
    received system event = some (socket, said.word) ∧
      said.awaited = Awaits system socket said.word.topic := by
  unfold mention at heard
  split at heard
  · next speaker word given =>
      split at heard
      · next same =>
          cases heard
          exact ⟨by rw [given, same], rfl⟩
      · cases heard
  · cases heard

omit [Field K] [LinearOrder K] [FloorRing K] in
theorem mention_none (silent : mention socket system event = none) (word : Word) :
    received system event ≠ some (socket, word) := by
  intro heard
  simp [mention, heard] at silent

/-- After a word about it, a topic is there or on its way if the word subscribes,
or if a check was pending. -/
theorem spoken_live (said : Mention) (housed : Housed system.store)
    (permitted : Permitted socket system event)
    (given : received system event = some (socket, said.word)) :
    Live ((server ids).step system event) socket said.word.topic ↔
      (∃ subscription, said.word = .subscribe subscription) ∨
        (∃ subscription, said.word = .unsubscribe subscription) ∧
          Awaits system socket said.word.topic := by
  cases word : said.word with
  | subscribe subscription =>
      rw [word] at given
      have waits := received_checking system event socket subscription given
      simp only [Word.subscribe.injEq, exists_eq', true_or, iff_true]
      exact Or.inr ⟨subscription, rfl, waits⟩
  | unsubscribe subscription =>
      rw [word] at given
      simpa [Word.topic] using unsubscribe_live system event socket housed permitted subscription given

theorem tracked_step (mentions : List Mention) (tracked : Tracked socket system mentions)
    (permitted : Permitted socket system event) :
    Tracked socket ((server ids).step system event)
      (mentions ++ (mention socket system event).toList) := by
  have housed := step_housed system event tracked.housed
  cases heard : mention socket system event with
  | none =>
      have silent := mention_none system event socket heard
      rw [Option.toList_none, List.append_nil]
      refine ⟨housed, fun topic => ?_, tracked.exclusive⟩
      rw [step_live system event socket topic permitted fun word said => absurd said (silent word)]
      exact tracked.live topic
  | some said =>
      obtain ⟨given, awaited⟩ := mention_some system event socket said heard
      rw [Option.toList_some]
      refine ⟨housed, fun topic => ?_, fun topic => ?_⟩
      · by_cases about : said.word.topic = topic
        · subst about
          rw [applied_self, overtaken_self, awaited]
          exact spoken_live system event socket said tracked.housed permitted given
        · have unsaid : ∀ word, received system event = some (socket, word) → word.topic ≠ topic := by
            intro word same
            obtain ⟨_, rfl⟩ := Prod.mk.inj (Option.some.inj (given.symm.trans same))
            exact about
          rw [applied_other mentions said topic about, overtaken_other mentions said topic about,
            step_live system event socket topic permitted unsaid]
          exact tracked.live topic
      · by_cases about : said.word.topic = topic
        · subst about
          rw [applied_self, overtaken_self]
          rintro ⟨one, asks⟩ ⟨⟨other, leaves⟩, _⟩
          rw [asks] at leaves
          cases leaves
        · rw [applied_other mentions said topic about, overtaken_other mentions said topic about]
          exact tracked.exclusive topic

/-- Where access is granted and no check is left, the topics of an open socket
are those of its words applied in order, exactly if for no topic the last word
unsubscribes while a check of the topic is pending. -/
theorem last_word_wins_iff (ids : IdText) (db : Database E) (clock : K) (redis : Revocations K)
    (events : List (Event Input (Change ids E K Payload))) (socket : SocketId)
    (permitted : (server ids).Along (Permitted socket) (listening ids db clock redis) events)
    (resolved : ∀ topic, ¬ Awaits ((server ids).run (listening ids db clock redis) events) socket topic) :
    let mentions := (server ids).observed (mention socket) (listening ids db clock redis) events
    (∀ topic, Subscribes ((server ids).run (listening ids db clock redis) events).store socket topic ↔
        topic ∈ applied (mentions.map Mention.word)) ↔
      ∀ topic, ¬ Overtaken topic mentions := by
  intro mentions
  have initially : Tracked socket
      (listening ids db clock redis : System (Store ids E K Payload) (Handler E K)) [] := by
    refine ⟨listening_housed db clock redis, fun topic => ?_, fun topic => ?_⟩
    · simp [Live, Subscribes, Awaits, Checking, listening, Registry.empty, Handler.pending, applied,
        Overtaken, lastMention]
    · simp [applied]
  have tracked := observed_invariant (server ids) (mention socket) (Permitted socket) (Tracked socket)
    (fun system event mentions held met => tracked_step system event socket mentions held met)
    _ events [] initially permitted
  have live := tracked.live
  have exclusive := tracked.exclusive
  rw [List.nil_append] at live exclusive
  constructor
  · intro same topic overtaken
    rcases (live topic).mpr (Or.inr overtaken) with has | awaits
    · exact exclusive topic ((same topic).mp has) overtaken
    · exact resolved topic awaits
  · intro never topic
    constructor
    · intro has
      rcases (live topic).mp (Or.inl has) with asked | overtaken
      · exact asked
      · exact absurd overtaken (never topic)
    · intro asked
      rcases (live topic).mpr (Or.inl asked) with has | awaits
      · exact has
      · exact absurd awaits (resolved topic)

end Steps

section Calls

variable [Field K] [LinearOrder K] [FloorRing K]
variable (system : System (Store ids E K Payload) (Handler E K)) (index : Nat) (socket : SocketId)

theorem permitted_act (input : Input) (unread : ∀ fault, input ≠ .read fault) :
    Permitted socket system (.act index input) := by
  refine ⟨id, ?_⟩
  rintro subscription ⟨acting, fault, same, _⟩
  cases same
  exact unread fault rfl

theorem permitted_read (fault : Option Failure) (granted : SocketId × Subscription)
    (passed : grants system (.act index (.read fault)) = some granted) :
    Permitted socket system (.act index (.read fault)) := by
  refine ⟨id, ?_⟩
  rintro subscription ⟨acting, other, same, _, ungranted, _⟩
  cases same
  rw [passed] at ungranted
  cases ungranted

end Calls

/-- The socket takes back what it asked for, before and after the answer. -/
def withdrawal : Event Input (Change letters ℤ ℚ Unit) :=
  .act 2 (.message 0 (.value (Subscription.session "aa").unsubscribe))

def answered : List (Event Input (Change letters ℤ ℚ Unit)) :=
  asking (sessionMessage "aa") ++ [.act 1 (.read none), withdrawal]

def crossed : List (Event Input (Change letters ℤ ℚ Unit)) :=
  asking (sessionMessage "aa") ++ [withdrawal, .act 1 (.read none)]

def serving (events : List (Event Input (Change letters ℤ ℚ Unit))) :
    System (Store letters ℤ ℚ Unit) (Handler ℤ ℚ) :=
  (server letters).run (listening letters seminar 100 noRevocations) events

theorem asking_permitted :
    (server letters).Along (Permitted 0) (listening letters seminar 100 noRevocations)
      (asking (sessionMessage "aa")) := by
  refine ⟨?_, ?_, ?_, ?_, ?_, trivial⟩ <;> exact permitted_act _ _ _ _ fun _ same => by cases same

theorem last_word_wins_answered :
    (∀ topic, Subscribes (serving answered).store 0 topic ↔
        topic ∈ applied (((server letters).observed (mention 0)
          (listening letters seminar 100 noRevocations) answered).map Mention.word)) ↔
      ∀ topic, ¬ Overtaken topic ((server letters).observed (mention 0)
        (listening letters seminar 100 noRevocations) answered) := by
  apply last_word_wins_iff letters seminar 100 noRevocations answered 0
  · apply (along_append _ _ _ _ _).mpr
    refine ⟨asking_permitted, permitted_read _ _ _ _ (0, .session "aa") rfl, ?_, trivial⟩
    exact permitted_act _ _ _ _ fun _ same => by cases same
  · rintro topic ⟨subscription, _, index, pending⟩
    rcases index with _ | _ | _ | index <;> cases pending

/-- The check is granted after the socket has unsubscribed. -/
theorem last_word_lost :
    (server letters).Along (Permitted 0) (listening letters seminar 100 noRevocations) crossed ∧
      (serving crossed).store.isOpen 0 = true ∧ (∀ topic, ¬ Awaits (serving crossed) 0 topic) ∧
      Subscribes (serving crossed).store 0 "aa" ∧
      "aa" ∉ applied (((server letters).observed (mention 0)
        (listening letters seminar 100 noRevocations) crossed).map Mention.word) := by
  refine ⟨?_, rfl, ?_, ⟨0, List.Mem.head _⟩, ?_⟩
  · apply (along_append _ _ _ _ _).mpr
    refine ⟨asking_permitted, permitted_act _ _ _ _ fun _ same => (by cases same),
      permitted_read _ _ _ _ (0, .session "aa") rfl, trivial⟩
  · rintro topic ⟨subscription, _, index, pending⟩
    rcases index with _ | _ | _ | index <;> cases pending
  · have words : ((server letters).observed (mention 0)
        (listening letters seminar 100 noRevocations) crossed).map Mention.word =
          [.subscribe (.session "aa"), .unsubscribe (.session "aa")] := rfl
    rw [words]
    decide

end FaceVec.Ws

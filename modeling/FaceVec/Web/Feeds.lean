import Mathlib.Data.List.Basic
import Mathlib.Data.Option.Basic

/-!
`lib/ws.ts`: the hooks `useAttendanceFeed` and `useImportProgress` as one
machine over a browser's sockets and timers. A commit with another id leaves its
effects to run later: until then the sockets of the effect before go on. The
effects clean up what was there and start anew; the sockets and timers of old
effects may still have events to come. `heard` is a history that no step reads.
-/

namespace FaceVec.Web

inductive ReadyState where
  | CONNECTING | OPEN | CLOSING | CLOSED
  deriving DecidableEq, Repr

inductive FeedStatus where
  | connecting | opened | closed
  deriving DecidableEq, Repr

structure Socket where
  effect : Nat
  token : String
  ready : ReadyState := .CONNECTING
  /-- The ids it has subscribed to. -/
  sent : List String := []

/-- `ws.close()`. -/
def Socket.close (socket : Socket) : Socket :=
  match socket.ready with
  | .CONNECTING | .OPEN => { socket with ready := .CLOSING }
  | _ => socket

structure Timer where
  effect : Nat
  pending : Bool := true

structure Effect where
  id : String
  closedByUs : Bool := false
  socket : Option Nat := none
  reconnect : Option Nat := none

/-- What sets the hooks apart: what the effect does to what is shown when it
begins, and what a message does to it. -/
structure Hook (Message Shown : Type) where
  empty : Shown
  begins : Shown → Shown
  receive : Message → Shown → Shown

def useAttendanceFeed (Message : Type) (recorded : Message → Bool) :
    Hook Message (List Message) where
  empty := []
  begins := id
  receive message events := if recorded message then message :: events else events

/-- The latest frame, forgotten when another job is watched. -/
def useImportProgress (Message : Type) (frame : Message → Bool) :
    Hook Message (Option Message) where
  empty := none
  begins _ := none
  receive message progress := if frame message then some message else progress

structure Page (Message Shown : Type) where
  status : FeedStatus
  /-- The state with every update so far; on the screen it was at the last commit. -/
  shown : Shown
  screen : Shown
  /-- The dependencies of the last commit; there are none before the first. -/
  deps : Option (Option String)
  /-- The effects of that commit are still to run. -/
  waiting : Bool
  effects : List Effect
  sockets : List Socket
  timers : List Timer
  /-- The effect that has not been cleaned up. -/
  mounted : Option Nat
  /-- The messages that were delivered, each with its socket as it was, the latest first. -/
  heard : List (Socket × Message)

inductive Input (Message : Type) where
  /-- The component is on the screen with this id, or with none. The token is
  for the effects of the commit before, if they are still to run. -/
  | commit (id token : Option String)
  /-- The effects of the last commit run. -/
  | effects (token : Option String)
  | fire (timer : Nat) (token : Option String)
  | opened (socket : Nat)
  | message (socket : Nat) (message : Message)
  | error (socket : Nat)
  | closed (socket : Nat)

/-- What a variable refers to, changed unless the variable is still unset. -/
def modifyIf {α : Type} (handle : Option Nat) (change : α → α) (rows : List α) : List α :=
  match handle with
  | none => rows
  | some index => rows.modify index change

variable {Message Shown : Type}

namespace Page

variable (page : Page Message Shown)

/-- `reconnect = setTimeout(connect, …)`. -/
def wait (effect : Nat) : Page Message Shown :=
  { page with
    timers := page.timers ++ [{ effect }]
    effects := page.effects.modify effect ({ · with reconnect := some page.timers.length }) }

def connect (effect : Nat) (token : Option String) : Page Message Shown :=
  match token.filter (· != "") with
  | none => page.wait effect
  | some token =>
      { page with
        status := .connecting
        sockets := page.sockets ++ [{ effect, token }]
        effects := page.effects.modify effect ({ · with socket := some page.sockets.length }) }

def cleanup : Page Message Shown :=
  match page.mounted with
  | none => page
  | some current =>
      match page.effects[current]? with
      | none => page
      | some effect =>
          { page with
            mounted := none
            effects := page.effects.modify current ({ · with closedByUs := true })
            timers := modifyIf effect.reconnect ({ · with pending := false }) page.timers
            sockets := modifyIf effect.socket Socket.close page.sockets }

def setReady (socket : Nat) (ready : ReadyState) : Page Message Shown :=
  { page with sockets := page.sockets.modify socket ({ · with ready }) }

/-- The effect is due only when its dependency has changed. -/
def commit (id : Option String) : Page Message Shown :=
  { page with screen := page.shown, deps := some id, waiting := page.deps != some id }

end Page

variable (hook : Hook Message Shown)

def begins (page : Page Message Shown) (id : String) (token : Option String) : Page Message Shown :=
  let effect := page.effects.length
  Page.connect
    { page with
      shown := hook.begins page.shown
      effects := page.effects ++ [{ id }]
      mounted := some effect } effect token

def settle (page : Page Message Shown) (token : Option String) : Page Message Shown :=
  if page.waiting then
    let settled := { page.cleanup with waiting := false }
    match page.deps.join.filter (· != "") with
    | none => settled
    | some id => begins hook settled id token
  else page

def exec (input : Input Message) (page : Page Message Shown) : Page Message Shown :=
  match input with
  -- React runs the effects of a commit before it renders again.
  | .commit id token => (settle hook page token).commit id
  | .effects token => settle hook page token
  | .fire timer token =>
      match page.timers[timer]? with
      | some ⟨effect, true⟩ =>
          { page with timers := page.timers.modify timer ({ · with pending := false }) }.connect
            effect token
      | _ => page
  | .opened socket =>
      match page.sockets[socket]? with
      | some ⟨effect, _, .CONNECTING, _⟩ =>
          let ids := (page.effects[effect]?.map (·.id)).toList
          { page with
            status := .opened
            sockets := page.sockets.modify socket fun own =>
              { own with ready := .OPEN, sent := own.sent ++ ids } }
      | _ => page
  | .message socket message =>
      match page.sockets[socket]? with
      -- Once it is closing, a socket hands over nothing.
      | some ⟨effect, sender, .OPEN, sent⟩ =>
          { page with
            shown := hook.receive message page.shown
            heard := (⟨effect, sender, .OPEN, sent⟩, message) :: page.heard }
      | _ => page
  | .error socket => { page with sockets := page.sockets.modify socket Socket.close }
  | .closed socket =>
      match page.sockets[socket]? with
      | some ⟨_, _, .CLOSED, _⟩ | none => page
      | some ⟨effect, _, _, _⟩ =>
          let after := { page.setReady socket .CLOSED with status := .closed }
          -- The closure of the effect, whichever effect is current by now.
          match page.effects[effect]? with
          | some { closedByUs := false, .. } => after.wait effect
          | _ => after

def start : Page Message Shown :=
  { status := .connecting
    shown := hook.empty
    screen := hook.empty
    deps := none
    waiting := false
    effects := []
    sockets := []
    timers := []
    mounted := none
    heard := [] }

def run (inputs : List (Input Message)) : Page Message Shown :=
  inputs.foldl (fun page input => exec hook input page) (start hook)

section Lists

variable {α : Type}

theorem modify_at (rows : List α) (change : α → α) (index at_ : Nat) (row : α) :
    (rows.modify index change)[at_]? = some row ↔
      ∃ old, rows[at_]? = some old ∧ row = if index = at_ then change old else old := by
  rw [List.getElem?_modify]
  cases rows[at_]? <;> simp [eq_comm]

theorem append_at (rows : List α) (added row : α) (at_ : Nat) :
    (rows ++ [added])[at_]? = some row ↔
      rows[at_]? = some row ∨ (at_ = rows.length ∧ row = added) := by
  rw [List.getElem?_append]
  split
  · next inside => simp [Nat.ne_of_lt inside]
  · next outside =>
      have beyond : rows[at_]? = none := List.getElem?_eq_none (Nat.le_of_not_lt outside)
      rw [beyond]
      cases gap : at_ - rows.length with
      | zero =>
          have same : at_ = rows.length := by omega
          simp [same, eq_comm]
      | succ more =>
          have other : at_ ≠ rows.length := by omega
          simp [other]

/-- When only the row that is referred to can be active, none is once it is stopped. -/
theorem modifyIf_stops (handle : Option Nat) (change : α → α) (rows : List α) (active : α → Prop)
    (stops : ∀ row, ¬active (change row))
    (only : ∀ (index : Nat) (row : α), rows[index]? = some row → active row →
      handle = some index)
    (index : Nat) (row : α) (found : (modifyIf handle change rows)[index]? = some row) :
    ¬active row := by
  intro holds
  cases handle with
  | none => cases only index row found holds
  | some at_ =>
      obtain ⟨old, stored, rfl⟩ := (modify_at _ _ _ _ _).mp found
      by_cases same : at_ = index
      · rw [if_pos same] at holds
        exact stops old holds
      · rw [if_neg same] at holds
        exact same (Option.some.inj (only index old stored holds))

end Lists

section Invariant

def Socket.live (socket : Socket) : Prop := socket.ready = .CONNECTING ∨ socket.ready = .OPEN

/-- Sockets and timers as their effects know them. -/
structure Tidy (page : Page Message Shown) : Prop where
  mounted : ∀ (index : Nat) (effect : Effect), page.effects[index]? = some effect →
    (effect.closedByUs = false ↔ page.mounted = some index)
  last : ∀ index, page.mounted = some index → index + 1 = page.effects.length
  socketOf : ∀ (index : Nat) (socket : Socket), page.sockets[index]? = some socket →
    socket.effect < page.effects.length
  waits : ∀ (index : Nat) (timer : Timer), page.timers[index]? = some timer → timer.pending = true →
    page.mounted = some timer.effect ∧
      ∃ effect, page.effects[timer.effect]? = some effect ∧ effect.reconnect = some index
  live : ∀ (index : Nat) (socket : Socket), page.sockets[index]? = some socket → socket.live →
    page.mounted = some socket.effect
  latest : ∀ (index : Nat) (socket : Socket), page.sockets[index]? = some socket →
    socket.ready ≠ .CLOSED → page.mounted = some socket.effect →
      ∃ effect, page.effects[socket.effect]? = some effect ∧ effect.socket = some index
  subscribed : ∀ (index : Nat) (socket : Socket), page.sockets[index]? = some socket →
    (socket.ready = .CONNECTING → socket.sent = []) ∧
      (socket.ready = .OPEN →
        (page.effects[socket.effect]?.map (·.id)).toList = socket.sent)

/-- An effect with nothing under way. -/
structure Bare (page : Page Message Shown) (effect : Nat) : Prop where
  mounted : page.mounted = some effect
  timers : ∀ (index : Nat) (timer : Timer), page.timers[index]? = some timer → timer.pending = false
  sockets : ∀ (index : Nat) (socket : Socket), page.sockets[index]? = some socket →
    socket.effect = effect → socket.ready = .CLOSED

/-- The mounted effect waits for its timer or has a socket that is not closed, never both. -/
structure Sound (page : Page Message Shown) : Prop extends Tidy page where
  one : ∀ (index : Nat) (timer : Timer), page.timers[index]? = some timer → timer.pending = true →
    ∀ (other : Nat) (socket : Socket), page.sockets[other]? = some socket →
      socket.effect = timer.effect → socket.ready = .CLOSED
  attempt : ∀ effect, page.mounted = some effect →
    (∃ (index : Nat) (timer : Timer), page.timers[index]? = some timer ∧
        timer.pending = true ∧ timer.effect = effect) ∨
      ∃ (index : Nat) (socket : Socket), page.sockets[index]? = some socket ∧
        socket.effect = effect ∧ socket.ready ≠ .CLOSED

end Invariant

section Steps

variable {page : Page Message Shown} {effect : Nat}

theorem ids_modify (effects : List Effect) (change : Effect → Effect)
    (same : ∀ own, (change own).id = own.id) (index other : Nat) :
    ((effects.modify index change)[other]?.map (·.id)) = (effects[other]?.map (·.id)) := by
  rw [List.getElem?_modify]
  cases effects[other]? with
  | none => rfl
  | some own =>
      by_cases hit : index = other
      · simp [hit, same]
      · simp [hit]

theorem wait_sound (tidy : Tidy page) (bare : Bare page effect) : Sound (page.wait effect) where
  mounted index own found := by
    obtain ⟨old, stored, rfl⟩ := (modify_at _ _ _ _ _).mp found
    have same := tidy.mounted index old stored
    split <;> exact same
  last index current := by
    simpa [Page.wait] using tidy.last index current
  socketOf index socket found := by
    simpa [Page.wait] using tidy.socketOf index socket found
  waits index timer found pending := by
    rcases (append_at _ _ _ _).mp found with old | ⟨rfl, rfl⟩
    · rw [bare.timers index timer old] at pending
      cases pending
    · have inside : effect < page.effects.length := by
        have := tidy.last effect bare.mounted
        omega
      refine ⟨bare.mounted, _, (modify_at _ _ _ _ _).mpr
        ⟨page.effects[effect], List.getElem?_eq_getElem inside, rfl⟩, ?_⟩
      simp
  live index socket found live := tidy.live index socket found live
  latest index socket found active current := by
    obtain ⟨own, stored, same⟩ := tidy.latest index socket found active current
    refine ⟨_, (modify_at _ _ _ _ _).mpr ⟨own, stored, rfl⟩, ?_⟩
    split <;> exact same
  subscribed index socket found := by
    obtain ⟨fresh, opened⟩ := tidy.subscribed index socket found
    refine ⟨fresh, fun ready => ?_⟩
    have same := opened ready
    rw [← ids_modify page.effects ({ · with reconnect := some page.timers.length })
      (fun _ => rfl) effect] at same
    exact same
  one index timer found pending other socket there same := by
    rcases (append_at _ _ _ _).mp found with old | ⟨rfl, rfl⟩
    · rw [bare.timers index timer old] at pending
      cases pending
    · exact bare.sockets other socket there same
  attempt index current := by
    have same : effect = index := Option.some.inj (bare.mounted.symm.trans current)
    exact Or.inl ⟨page.timers.length, ⟨effect, true⟩,
      (append_at _ _ _ _).mpr (Or.inr ⟨rfl, rfl⟩), rfl, same⟩

theorem open_sound (tidy : Tidy page) (bare : Bare page effect) (token : String) :
    Sound
      { page with
        status := .connecting
        sockets := page.sockets ++ [{ effect, token }]
        effects := page.effects.modify effect
          ({ · with socket := some page.sockets.length }) } where
  mounted index own found := by
    obtain ⟨old, stored, rfl⟩ := (modify_at _ _ _ _ _).mp found
    have same := tidy.mounted index old stored
    split <;> exact same
  last index current := by
    simpa using tidy.last index current
  socketOf index socket found := by
    have inside := tidy.last effect bare.mounted
    rcases (append_at _ _ _ _).mp found with old | ⟨rfl, rfl⟩
    · simpa using tidy.socketOf index socket old
    · simp only [List.length_modify]
      omega
  waits index timer found pending := by
    rw [bare.timers index timer found] at pending
    cases pending
  live index socket found live := by
    rcases (append_at _ _ _ _).mp found with old | ⟨rfl, rfl⟩
    · exact tidy.live index socket old live
    · exact bare.mounted
  latest index socket found active current := by
    rcases (append_at _ _ _ _).mp found with old | ⟨rfl, rfl⟩
    · have same : effect = socket.effect := Option.some.inj (bare.mounted.symm.trans current)
      exact absurd (bare.sockets index socket old same.symm) active
    · have inside : effect < page.effects.length := by
        have := tidy.last effect bare.mounted
        omega
      refine ⟨_, (modify_at _ _ _ _ _).mpr
        ⟨page.effects[effect], List.getElem?_eq_getElem inside, rfl⟩, ?_⟩
      simp
  subscribed index socket found := by
    rcases (append_at _ _ _ _).mp found with old | ⟨rfl, rfl⟩
    · obtain ⟨fresh, opened⟩ := tidy.subscribed index socket old
      refine ⟨fresh, fun ready => ?_⟩
      have same := opened ready
      rw [← ids_modify page.effects ({ · with socket := some page.sockets.length })
        (fun _ => rfl) effect] at same
      exact same
    · exact ⟨fun _ => rfl, nofun⟩
  one index timer found pending := by
    rw [bare.timers index timer found] at pending
    cases pending
  attempt index current := by
    have same : effect = index := Option.some.inj (bare.mounted.symm.trans current)
    exact Or.inr ⟨page.sockets.length, { effect, token },
      (append_at _ _ _ _).mpr (Or.inr ⟨rfl, rfl⟩), same, nofun⟩

theorem connect_sound (tidy : Tidy page) (bare : Bare page effect) (token : Option String) :
    Sound (page.connect effect token) := by
  unfold Page.connect
  split
  · exact wait_sound tidy bare
  · exact open_sound tidy bare _

/-- A socket may move on as long as it neither closes nor comes back to life. -/
theorem modify_sound (sound : Sound page) (status : FeedStatus) (at_ : Nat)
    (change : Socket → Socket)
    (owner : ∀ own, (change own).effect = own.effect)
    (closes : ∀ own, page.sockets[at_]? = some own →
      ((change own).ready = .CLOSED ↔ own.ready = .CLOSED))
    (lives : ∀ own, page.sockets[at_]? = some own → (change own).live → own.live)
    (tells : ∀ own, page.sockets[at_]? = some own →
      ((change own).ready = .CONNECTING → (change own).sent = []) ∧
        ((change own).ready = .OPEN →
          (page.effects[own.effect]?.map (·.id)).toList = (change own).sent)) :
    Sound { page with status, sockets := page.sockets.modify at_ change } := by
  have back : ∀ (index : Nat) (socket : Socket),
      (page.sockets.modify at_ change)[index]? = some socket → ∃ old, page.sockets[index]? = some old ∧ socket.effect = old.effect ∧
        (socket.ready = .CLOSED ↔ old.ready = .CLOSED) ∧ (socket.live → old.live) := by
    intro index socket found
    obtain ⟨old, stored, rfl⟩ := (modify_at _ _ _ _ _).mp found
    refine ⟨old, stored, ?_⟩
    split
    · next same =>
        subst same
        exact ⟨owner old, closes old stored, lives old stored⟩
    · exact ⟨rfl, Iff.rfl, id⟩
  refine
    { mounted := sound.mounted, last := sound.last, waits := sound.waits, socketOf := ?_,
      live := ?_, latest := ?_, subscribed := ?_, one := ?_, attempt := ?_ }
  · intro index socket found
    obtain ⟨old, stored, own, -⟩ := back index socket found
    exact own ▸ sound.socketOf index old stored
  · intro index socket found live
    obtain ⟨old, stored, own, -, alive⟩ := back index socket found
    exact own ▸ sound.live index old stored (alive live)
  · intro index socket found active current
    obtain ⟨old, stored, own, closed, -⟩ := back index socket found
    rw [own] at current ⊢
    exact sound.latest index old stored (fun shut => active (closed.mpr shut)) current
  · intro index socket found
    obtain ⟨old, stored, rfl⟩ := (modify_at _ _ _ _ _).mp found
    split
    · next same =>
        subst same
        rw [owner]
        exact tells old stored
    · exact sound.subscribed index old stored
  · intro index timer found pending other socket there same
    obtain ⟨old, stored, own, closed, -⟩ := back other socket there
    exact closed.mpr (sound.one index timer found pending other old stored (own ▸ same))
  · intro effect current
    rcases sound.attempt effect current with waiting | ⟨index, socket, found, own, active⟩
    · exact Or.inl waiting
    · refine Or.inr ⟨index, _, (modify_at _ _ _ _ _).mpr ⟨socket, found, rfl⟩, ?_⟩
      split
      · next same =>
          subst same
          exact ⟨(owner socket).trans own, fun shut => active ((closes socket found).mp shut)⟩
      · exact ⟨own, active⟩

theorem close_ready (socket : Socket) :
    ¬socket.close.live ∧ (socket.close.ready = .CLOSED ↔ socket.ready = .CLOSED) := by
  unfold Socket.close
  split <;> simp_all [Socket.live]

theorem close_effect (socket : Socket) : socket.close.effect = socket.effect := by
  unfold Socket.close
  split <;> rfl

theorem close_sound (sound : Sound page) (at_ : Nat) :
    Sound { page with sockets := page.sockets.modify at_ Socket.close } :=
  modify_sound sound page.status at_ Socket.close close_effect
    (fun own _ => (close_ready own).2)
    (fun own _ live => absurd live (close_ready own).1)
    (fun own _ => ⟨fun ready => absurd (Or.inl ready) (close_ready own).1,
      fun ready => absurd (Or.inr ready) (close_ready own).1⟩)

/-- A page that nothing is mounted on, with nothing left to wait for. -/
theorem retire_sound (sound : Sound page) (current : Nat) (mounted : page.mounted = some current)
    (timers : List Timer) (sockets : List Socket) (closing : Sound { page with sockets })
    (idle : ∀ (index : Nat) (timer : Timer), timers[index]? = some timer →
      ¬timer.pending = true)
    (dead : ∀ (index : Nat) (socket : Socket), sockets[index]? = some socket → ¬socket.live) :
    Sound
      { page with
        mounted := none
        effects := page.effects.modify current ({ · with closedByUs := true })
        timers
        sockets } where
  mounted index own found := by
    obtain ⟨old, stored, rfl⟩ := (modify_at _ _ _ _ _).mp found
    split
    · simp
    · next other =>
        have same := sound.mounted index old stored
        rw [mounted, Option.some.injEq] at same
        simp [same, other]
  last := nofun
  socketOf index socket found := by
    simpa using closing.socketOf index socket found
  waits index timer found pending := absurd pending (idle index timer found)
  live index socket found live := absurd live (dead index socket found)
  latest := nofun
  subscribed index socket found :=
    ⟨fun ready => absurd (Or.inl ready) (dead index socket found),
      fun ready => absurd (Or.inr ready) (dead index socket found)⟩
  one index timer found pending := absurd pending (idle index timer found)
  attempt := nofun

/-- What the effect that was mounted had under way is called off. -/
theorem cleanup_sound (sound : Sound page) :
    Sound page.cleanup ∧ page.cleanup.mounted = none := by
  unfold Page.cleanup
  split
  · next none => exact ⟨sound, none⟩
  next current mounted =>
  split
  · next missing =>
      have inside := sound.last current mounted
      rw [List.getElem?_eq_none_iff] at missing
      omega
  next effect stored =>
  have known : ∀ index own, page.mounted = some index → page.effects[index]? = some own →
      own = effect := by
    intro index own mounted' stored'
    rw [← Option.some.inj (mounted.symm.trans mounted'), stored] at stored'
    exact (Option.some.inj stored').symm
  have closing : Sound { page with sockets := modifyIf effect.socket Socket.close page.sockets } := by
    cases effect.socket with
    | none => exact sound
    | some at_ => exact close_sound sound at_
  refine ⟨retire_sound sound current mounted _ _ closing ?_ ?_, rfl⟩
  · refine modifyIf_stops _ _ _ _ (fun _ => nofun) ?_
    intro index timer found pending
    obtain ⟨own, closure, there, waited⟩ := sound.waits index timer found pending
    exact known _ _ own there ▸ waited
  · refine modifyIf_stops _ _ _ _ (fun socket => (close_ready socket).1) ?_
    intro index socket found live
    have active : socket.ready ≠ .CLOSED := by
      rcases live with ready | ready <;> rw [ready] <;> nofun
    have own := sound.live index socket found live
    obtain ⟨closure, there, latest⟩ := sound.latest index socket found active own
    exact known _ _ own there ▸ latest

theorem begins_sound (hook : Hook Message Shown) (sound : Sound page)
    (mounted : page.mounted = none) (id : String) (token : Option String) :
    Sound (begins hook page id token) := by
  have still : ∀ (index : Nat) (socket : Socket), page.sockets[index]? = some socket →
      ¬socket.live := by
    intro index socket found live
    have own := sound.live index socket found live
    rw [mounted] at own
    cases own
  have idle : ∀ (index : Nat) (timer : Timer), page.timers[index]? = some timer →
      timer.pending = false := by
    intro index timer found
    by_contra pending
    have own := (sound.waits index timer found (Bool.not_eq_false _ ▸ pending)).1
    rw [mounted] at own
    cases own
  apply connect_sound
  · exact
      { mounted := by
          intro index effect found
          rcases (append_at _ _ _ _).mp found with old | ⟨rfl, rfl⟩
          · have same := sound.mounted index effect old
            have inside := (List.getElem?_eq_some_iff.mp old).1
            rw [mounted] at same
            simp only [Option.some.injEq]
            rw [same]
            constructor
            · nofun
            · omega
          · simp
        last := by
          intro index current
          cases current
          simp
        socketOf := by
          intro index socket found
          have inside := sound.socketOf index socket found
          simp only [List.length_append, List.length_singleton]
          omega
        waits := by
          intro index timer found pending
          rw [idle index timer found] at pending
          cases pending
        live := fun index socket found live => absurd live (still index socket found)
        latest := by
          intro index socket found active current
          have inside := sound.socketOf index socket found
          have same : page.effects.length = socket.effect := Option.some.inj current
          omega
        subscribed := fun index socket found =>
          ⟨fun ready => absurd (Or.inl ready) (still index socket found),
            fun ready => absurd (Or.inr ready) (still index socket found)⟩ }
  · refine ⟨rfl, idle, ?_⟩
    intro index socket found own
    have inside := sound.socketOf index socket found
    omega

theorem fire_sound (sound : Sound page) (timer : Nat)
    (found : page.timers[timer]? = some ⟨effect, true⟩) (token : Option String) :
    Sound ({ page with
      timers := page.timers.modify timer ({ · with pending := false }) }.connect effect token) := by
  have ⟨mounted, own, there, waited⟩ := sound.waits timer _ found rfl
  have idle : ∀ (index : Nat) (row : Timer),
      (page.timers.modify timer ({ · with pending := false }))[index]? = some row →
        row.pending = false := by
    intro index row found'
    obtain ⟨old, stored, rfl⟩ := (modify_at _ _ _ _ _).mp found'
    split
    · rfl
    · next other =>
        by_contra pending
        rw [Bool.not_eq_false] at pending
        obtain ⟨mounted', own', there', waited'⟩ := sound.waits index old stored pending
        rw [← Option.some.inj (mounted.symm.trans mounted'), there] at there'
        rw [← Option.some.inj there', waited] at waited'
        exact other (Option.some.inj waited')
  apply connect_sound
  · exact
      { sound with
        waits := by
          intro index row found' pending
          rw [idle index row found'] at pending
          cases pending }
  · exact ⟨mounted, idle, sound.one timer _ found rfl⟩

theorem shut_tidy (tidy : Tidy page) (index : Nat) (status : FeedStatus) :
    Tidy { page.setReady index .CLOSED with status } := by
  have back : ∀ (other : Nat) (row : Socket),
      (page.setReady index .CLOSED).sockets[other]? = some row → row.ready ≠ .CLOSED →
        page.sockets[other]? = some row := by
    intro other row found active
    obtain ⟨old, stored, rfl⟩ := (modify_at _ _ _ _ _).mp found
    split at active
    · exact absurd rfl active
    · next off => rw [if_neg off]; exact stored
  refine
    { mounted := tidy.mounted, last := tidy.last, waits := tidy.waits, socketOf := ?_,
      live := ?_, latest := ?_, subscribed := ?_ }
  · intro other row found
    obtain ⟨old, stored, rfl⟩ := (modify_at _ _ _ _ _).mp found
    have inside := tidy.socketOf other old stored
    split <;> exact inside
  · intro other row found live
    have active : row.ready ≠ .CLOSED := by
      rcases live with ready | ready <;> rw [ready] <;> nofun
    exact tidy.live other row (back other row found active) live
  · intro other row found active current
    exact tidy.latest other row (back other row found active) active current
  · intro other row found
    constructor
    · intro ready
      exact (tidy.subscribed other row (back other row found (by rw [ready]; nofun))).1 ready
    · intro ready
      exact (tidy.subscribed other row (back other row found (by rw [ready]; nofun))).2 ready

/-- A socket of the mounted effect closes: the effect waits to try again. -/
theorem lost_sound (sound : Sound page) (index : Nat) (socket : Socket)
    (found : page.sockets[index]? = some socket) (active : socket.ready ≠ .CLOSED)
    (mounted : page.mounted = some socket.effect) (status : FeedStatus) :
    Sound ({ page.setReady index .CLOSED with status }.wait socket.effect) := by
  refine wait_sound (shut_tidy sound.toTidy index status) ⟨mounted, ?_, ?_⟩
  · intro at_ timer stored
    by_contra pending
    rw [Bool.not_eq_false] at pending
    have own := (sound.waits at_ timer stored pending).1
    have same : socket.effect = timer.effect := Option.some.inj (mounted.symm.trans own)
    exact active (sound.one at_ timer stored pending index socket found same)
  · intro other row stored own
    obtain ⟨old, kept, rfl⟩ := (modify_at _ _ _ _ _).mp stored
    by_cases same : index = other
    · simp only [if_pos same]
    · rw [if_neg same] at own ⊢
      by_contra open_
      obtain ⟨effect, there, first⟩ := sound.latest index socket found active mounted
      obtain ⟨effect', there', second⟩ := sound.latest other old kept open_ (own ▸ mounted)
      rw [own, there] at there'
      rw [← Option.some.inj there', first] at second
      exact same (Option.some.inj second)

/-- A socket of an effect that was cleaned up closes: nobody waits for it. -/
theorem left_sound (sound : Sound page) (index : Nat) (socket : Socket)
    (found : page.sockets[index]? = some socket)
    (superseded : page.mounted ≠ some socket.effect) (status : FeedStatus) :
    Sound { page.setReady index .CLOSED with status } where
  toTidy := shut_tidy sound.toTidy index status
  one at_ timer stored pending other row there own := by
    obtain ⟨old, kept, rfl⟩ := (modify_at _ _ _ _ _).mp there
    split
    · rfl
    · next off =>
        rw [if_neg off] at own
        exact sound.one at_ timer stored pending other old kept own
  attempt effect current := by
    rcases sound.attempt effect current with waiting | ⟨other, row, stored, own, active⟩
    · exact Or.inl waiting
    · have off : index ≠ other := by
        rintro rfl
        rw [found] at stored
        rw [Option.some.inj stored] at superseded
        exact superseded (own ▸ current)
      exact Or.inr ⟨other, row, (modify_at _ _ _ _ _).mpr ⟨row, stored, (if_neg off).symm⟩,
        own, active⟩

theorem opened_sound (sound : Sound page) (index : Nat) (socket : Socket)
    (found : page.sockets[index]? = some socket) (ready : socket.ready = .CONNECTING)
    (ids : List String)
    (named : (page.effects[socket.effect]?.map (·.id)).toList = ids) :
    Sound
      { page with
        status := .opened
        sockets := page.sockets.modify index fun own =>
          { own with ready := .OPEN, sent := own.sent ++ ids } } := by
  have this : ∀ own, page.sockets[index]? = some own → own = socket := by
    intro own stored
    exact Option.some.inj (stored.symm.trans found)
  refine modify_sound sound .opened index _ (fun _ => rfl) ?_ ?_ ?_
  · intro own stored
    simp [this own stored, ready]
  · intro own stored _
    exact Or.inl (this own stored ▸ ready)
  · intro own stored
    have silent := (sound.subscribed index own stored).1 (this own stored ▸ ready)
    simp [this own stored ▸ silent, this own stored, ← named]

theorem settle_sound (hook : Hook Message Shown) (sound : Sound page) (token : Option String) :
    Sound (settle hook page token) := by
  obtain ⟨cleaned, mounted⟩ := cleanup_sound sound
  have settled : Sound { page.cleanup with waiting := false } := { cleaned with }
  unfold settle
  split
  · split
    · exact settled
    · exact begins_sound hook settled mounted _ _
  · exact sound

theorem exec_sound (hook : Hook Message Shown) (input : Input Message) (sound : Sound page) :
    Sound (exec hook input page) := by
  unfold exec
  split
  · exact { settle_sound hook sound _ with }
  · exact settle_sound hook sound _
  · split
    · next found => exact fire_sound sound _ found _
    · exact sound
  · split
    · next found => exact opened_sound sound _ _ found rfl _ rfl
    · exact sound
  · split
    · exact { sound with }
    · exact sound
  · exact close_sound sound _
  · split
    · exact sound
    · exact sound
    · next effect token ready sent active found =>
        split
        · next id socket reconnect own =>
            exact lost_sound sound _ _ found active ((sound.mounted _ _ own).mp rfl) .closed
        · next other =>
            refine left_sound sound _ _ found ?_ .closed
            intro current
            obtain ⟨own, stored⟩ : ∃ own, page.effects[effect]? = some own := by
              have inside := sound.last effect current
              exact ⟨_, List.getElem?_eq_getElem (by omega)⟩
            have unclosed := (sound.mounted effect own stored).mpr current
            obtain ⟨id, closedByUs, socket, reconnect⟩ := own
            exact other id socket reconnect (by rw [stored, ← unclosed])

theorem run_sound (hook : Hook Message Shown) (inputs : List (Input Message)) :
    Sound (run hook inputs) := by
  refine List.foldlRecOn (motive := fun page => Sound page) inputs _ ?_ ?_
  · exact
      { mounted := nofun, last := nofun, socketOf := nofun, waits := nofun, live := nofun,
        latest := nofun, subscribed := nofun, one := nofun, attempt := nofun }
  · intro page sound input _
    exact exec_sound hook input sound

end Steps

end FaceVec.Web

import FaceVec.Web.Session

/-!
One tab whose session changes are made alone: a login or logout begins with
nothing else under way, pages call only when signed in, and no other tab
changes the cookie. Then the page and its token cannot come apart.
-/

namespace FaceVec.Web.Session

open Interleaving

variable {User : Type} (owner : String → User)

def quiet : Call User → Bool
  | .idle | .ended => true
  | _ => false

def changing : Call User → Bool
  | .loggingIn | .loggingOut => true
  | _ => false

/-- The owner of the refresh token that a refresh under way has presented. -/
def presented : Call User → Option (Option User)
  | .bootstrapping _ cookie | .renewing _ cookie => some cookie
  | _ => none

def effectOf : Call User → Option Nat
  | .bootstrapping effect _ => some effect
  | _ => none

/-- A refresh is answered for the owner of the token it presented. -/
def Alone (system : System (Tab User) (Call User)) : Event (Input owner) (Change User) → Prop
  | .act _ .mount => system.store.status = .loading ∧ ∀ index, changing (system.procs index) = false
  | .act _ (.fetch _) =>
      system.store.status = .authenticated ∧ ∀ index, changing (system.procs index) = false
  | .act _ .login | .act _ .logout => ∀ index, quiet (system.procs index) = true
  | .act index (.answer (.auth response)) =>
      ∀ cookie, presented (system.procs index) = some cookie → cookie = some response.user
  | .act _ (.answer _) | .env .cleanup => True
  | .env (.elsewhere _) => False

/-- What a call under way relies on. -/
def Relies (tab : Tab User) : Call User → Prop
  | .bootstrapping effect cookie =>
      cookie = tab.cookie ∧ effect < tab.effects ∧ (tab.mounted = some effect → tab.status = .loading)
  | .renewing _ cookie => cookie = tab.cookie ∧ tab.status = .authenticated
  | .requesting _ _ => tab.status = .authenticated
  | _ => True

structure Steady (system : System (Tab User) (Call User)) : Prop where
  agrees : Agrees owner system.store
  held : system.store.status = .authenticated → system.store.cookie = system.store.user
  relies : ∀ index, Relies system.store (system.procs index)
  apart : ∀ index, changing (system.procs index) = true →
    ∀ other, other ≠ index → quiet (system.procs other) = true
  unique : ∀ index other effect, effectOf (system.procs index) = some effect →
    effectOf (system.procs other) = some effect → index = other

theorem relies_quiet (tab : Tab User) (call : Call User) (still : quiet call = true) :
    Relies tab call := by
  cases call <;> trivial

theorem quiet_settled (call : Call User) (still : quiet call = true) : changing call = false := by
  cases call <;> trivial

/-- What one call does, as seen from the others. -/
structure Moves (system : System (Tab User) (Call User)) (index : Nat) (tab : Tab User)
    (call : Call User) : Prop where
  agrees : Agrees owner tab
  held : tab.status = .authenticated → tab.cookie = tab.user
  own : Relies tab call
  others : ∀ other, other ≠ index → Relies tab (system.procs other)
  alone : changing call = true → ∀ other, other ≠ index → quiet (system.procs other) = true
  yields : ∀ other, other ≠ index → changing (system.procs other) = true → quiet call = true
  fresh : ∀ effect, effectOf call = some effect →
    ∀ other, other ≠ index → effectOf (system.procs other) ≠ some effect

variable {system : System (Tab User) (Call User)} {index : Nat} {tab : Tab User} {call : Call User}

theorem steady_moves (steady : Steady owner system) (moves : Moves owner system index tab call) :
    Steady owner ⟨tab, Function.update system.procs index call⟩ where
  agrees := moves.agrees
  held := moves.held
  relies other := by
    dsimp only
    by_cases same : other = index
    · subst same
      rw [Function.update_self]
      exact moves.own
    · rw [Function.update_of_ne same]
      exact moves.others other same
  apart other active third distinct := by
    dsimp only
    rcases update_cases _ _ _ (changing · = true) _ active with ⟨rfl, now⟩ | ⟨elsewhere, before⟩
    · rw [Function.update_of_ne distinct]
      exact moves.alone now third distinct
    · by_cases same : third = index
      · subst same
        rw [Function.update_self]
        exact moves.yields other elsewhere before
      · rw [Function.update_of_ne same]
        exact steady.apart other before third distinct
  unique one other effect first second := by
    rcases update_cases _ _ _ (effectOf · = some effect) _ first with ⟨rfl, now⟩ | ⟨apart, before⟩
    · rcases update_cases _ _ _ (effectOf · = some effect) _ second with ⟨rfl, -⟩ | ⟨apart, held⟩
      · rfl
      · exact absurd held (moves.fresh effect now other apart)
    · rcases update_cases _ _ _ (effectOf · = some effect) _ second with ⟨rfl, now⟩ | ⟨_, held⟩
      · exact absurd before (moves.fresh effect now one apart)
      · exact steady.unique one other effect before held

/-- A call that ends and leaves the tab to the others as it was. -/
theorem ends_moves (agrees : Agrees owner tab)
    (held : tab.status = .authenticated → tab.cookie = tab.user)
    (others : ∀ other, other ≠ index → Relies tab (system.procs other)) :
    Moves owner system index tab .ended where
  agrees := agrees
  held := held
  own := trivial
  others := others
  alone := nofun
  yields _ _ _ := rfl
  fresh := nofun

theorem receive_same (response : AuthResponse owner) (same : tab.cookie = some response.user) :
    tab.receive owner response = tab := by
  rw [Tab.receive, ← same]

section Calls

variable (steady : Steady owner system)
include steady

/-- With a login or logout under way the others are quiet. -/
theorem changed_moves (active : changing (system.procs index) = true) (agrees : Agrees owner tab)
    (held : tab.status = .authenticated → tab.cookie = tab.user) :
    Moves owner system index tab .ended :=
  ends_moves owner agrees held fun other distinct =>
    relies_quiet tab _ (steady.apart index active other distinct)

theorem unchanged_moves : Moves owner system index system.store .ended :=
  ends_moves owner steady.agrees steady.held fun other _ => steady.relies other

theorem begins_moves (single : effectOf call = none)
    (own : Relies system.store.send call) (still : ∀ other, quiet (system.procs other) = true) :
    Moves owner system index system.store.send call where
  agrees := steady.agrees
  held := steady.held
  own := own
  others other _ := relies_quiet _ _ (still other)
  alone _ other _ := still other
  yields other _ busy := by
    rw [quiet_settled _ (still other)] at busy
    cases busy
  fresh effect its := by
    rw [single] at its
    cases its

theorem mount_moves (loading : system.store.status = .loading)
    (settled : ∀ other, changing (system.procs other) = false) :
    Moves owner system index
      { system.store.send with
        effects := system.store.effects + 1, mounted := some system.store.effects }
      (.bootstrapping system.store.effects system.store.cookie) where
  agrees := steady.agrees
  held := steady.held
  own := ⟨rfl, Nat.lt_succ_self _, fun _ => loading⟩
  others other _ := by
    have relies := steady.relies other
    cases own : system.procs other with
    | bootstrapping effect cookie =>
        rw [own] at relies
        exact ⟨relies.1, Nat.lt_succ_of_lt relies.2.1, fun _ => loading⟩
    | requesting path retry =>
        rw [own] at relies
        exact relies
    | renewing path cookie =>
        rw [own] at relies
        exact relies
    | _ => trivial
  alone := nofun
  yields other _ active := by
    rw [settled other] at active
    cases active
  fresh effect same other _ taken := by
    obtain rfl := Option.some.inj same
    have relies := steady.relies other
    cases own : system.procs other with
    | bootstrapping effect cookie =>
        rw [own] at relies taken
        obtain rfl := Option.some.inj taken
        exact absurd relies.2.1 (Nat.lt_irrefl _)
    | _ =>
        rw [own] at taken
        cases taken

theorem fetch_moves (path : String) (signedIn : system.store.status = .authenticated)
    (settled : ∀ other, changing (system.procs other) = false) :
    Moves owner system index system.store.send (.requesting path true) where
  agrees := steady.agrees
  held := steady.held
  own := signedIn
  others other _ := steady.relies other
  alone := nofun
  yields other _ active := by
    rw [settled other] at active
    cases active
  fresh := nofun

/-- Every other bootstrap has been cleaned up, and no request was sent before. -/
theorem superseded_relies (tab : Tab User) (effect : Nat) (own : effectOf (system.procs index) = some effect)
    (loading : system.store.status = .loading) (mounted : system.store.mounted = some effect)
    (effects : tab.effects = system.store.effects) (cookie : tab.cookie = system.store.cookie)
    (current : tab.mounted = system.store.mounted) (other : Nat) (distinct : other ≠ index) :
    Relies tab (system.procs other) := by
  have relies := steady.relies other
  cases call : system.procs other with
  | bootstrapping effect' cookie' =>
      rw [call] at relies
      refine ⟨relies.1.trans cookie.symm, effects ▸ relies.2.1, fun its => ?_⟩
      rw [current, mounted] at its
      have same := steady.unique other index effect' (by rw [call]; rfl) (own.trans its)
      exact absurd same distinct
  | requesting path retry =>
      rw [call, Relies, loading] at relies
      cases relies
  | renewing path cookie' =>
      rw [call, Relies, loading] at relies
      cases relies.2
  | _ => trivial

theorem bootstrapped_moves (effect : Nat) (cookie : Option User) (answer : Answer owner)
    (own : system.procs index = .bootstrapping effect cookie)
    (served : ∀ response, answer = .auth response → cookie = some response.user) :
    Moves owner system index (bootstrapped owner effect answer system.store) .ended := by
  have relies := steady.relies index
  rw [own] at relies
  obtain ⟨asked, _, loading⟩ := relies
  have mine : effectOf (system.procs index) = some effect := by
    rw [own]
    rfl
  by_cases mounted : system.store.mounted = some effect
  · have others := fun tab => superseded_relies owner steady tab effect mine (loading mounted) mounted
    have forgotten := (agrees_forgotten owner steady.agrees).mpr (by rw [loading mounted]; rintro ⟨⟩)
    cases answer with
    | auth response =>
        have same := asked.symm.trans (served response rfl)
        simp only [bootstrapped, receive_same owner response same, mounted, if_true]
        exact ends_moves owner (agrees_signIn owner response) (fun _ => same)
          (others _ rfl rfl rfl)
    | _ =>
        simp only [bootstrapped, if_pos mounted]
        exact ends_moves owner forgotten (by rintro ⟨⟩) (others _ rfl rfl rfl)
  · have unchanged : Moves owner system index system.store .ended := unchanged_moves owner steady
    cases answer with
    | auth response =>
        have same := asked.symm.trans (served response rfl)
        simp only [bootstrapped, receive_same owner response same, mounted, if_false]
        exact unchanged
    | _ =>
        simp only [bootstrapped, mounted, if_false]
        exact unchanged

/-- Nothing changes the session while another call is under way. -/
theorem settled_of_busy (busy : quiet (system.procs index) = false) (other : Nat)
    (distinct : other ≠ index) : changing (system.procs other) = false := by
  cases active : changing (system.procs other) with
  | false => rfl
  | true =>
      rw [steady.apart other active index distinct.symm] at busy
      cases busy

theorem continues_moves (agrees : Agrees owner tab)
    (held : tab.status = .authenticated → tab.cookie = tab.user) (own : Relies tab call)
    (others : ∀ other, other ≠ index → Relies tab (system.procs other))
    (busy : quiet (system.procs index) = false) (unchanging : changing call = false)
    (single : effectOf call = none) : Moves owner system index tab call where
  agrees := agrees
  held := held
  own := own
  others := others
  alone active := by
    rw [unchanging] at active
    cases active
  yields other distinct active := by
    rw [settled_of_busy owner steady busy other distinct] at active
    cases active
  fresh effect its := by
    rw [single] at its
    cases its

theorem requesting_moves (path : String) (retry : Bool) (answer : Answer owner)
    (own : system.procs index = .requesting path retry) :
    Moves owner system index (exec owner (.answer answer) system.store (.requesting path retry)).1
      (exec owner (.answer answer) system.store (.requesting path retry)).2 := by
  have signedIn := steady.relies index
  rw [own] at signedIn
  have ended : Moves owner system index system.store .ended := unchanged_moves owner steady
  cases answer with
  | refused status =>
      by_cases unauthorised : status = 401
      · subst unauthorised
        simp only [exec]
        split
        · exact continues_moves owner steady steady.agrees steady.held ⟨rfl, signedIn⟩
            (fun other _ => steady.relies other) (by rw [own]; rfl) rfl rfl
        · exact ended
      · simpa [exec, unauthorised] using ended
  | _ => exact ended

theorem renewed_moves (path : String) (cookie : Option User) (response : AuthResponse owner)
    (own : system.procs index = .renewing path cookie) (served : cookie = some response.user) :
    Moves owner system index
      { system.store.receive owner response with accessToken := some response.accessToken }.send
      (.requesting path false) := by
  have relies := steady.relies index
  rw [own] at relies
  obtain ⟨asked, signedIn⟩ := relies
  have same := asked.symm.trans served
  have shown := (steady.held signedIn).symm.trans same
  rw [receive_same owner response same]
  exact continues_moves owner steady ((agrees_renewed owner steady.agrees response).mpr shown)
    steady.held signedIn (fun other _ => steady.relies other) (by rw [own]; rfl) rfl rfl

theorem stays_moves : Moves owner system index system.store (system.procs index) where
  agrees := steady.agrees
  held := steady.held
  own := steady.relies index
  others other _ := steady.relies other
  alone active := steady.apart index active
  yields other distinct active := steady.apart other active index distinct.symm
  fresh effect its other distinct taken := distinct (steady.unique other index effect taken its)

theorem exec_moves (input : Input owner) (alone : Alone owner system (.act index input)) :
    Moves owner system index (exec owner input system.store (system.procs index)).1
      (exec owner input system.store (system.procs index)).2 := by
  have stays : Moves owner system index system.store (system.procs index) :=
    stays_moves owner steady
  have ended : Moves owner system index system.store .ended := unchanged_moves owner steady
  cases own : system.procs index with
  | idle =>
      rw [own] at stays
      cases input with
      | mount => exact mount_moves owner steady alone.1 alone.2
      | login => exact begins_moves owner steady rfl trivial alone
      | logout => exact begins_moves owner steady rfl trivial alone
      | fetch path => exact fetch_moves owner steady path alone.1 alone.2
      | answer answer => exact stays
  | bootstrapping effect cookie =>
      rw [own] at stays
      cases input with
      | answer answer =>
          refine bootstrapped_moves owner steady effect cookie answer own ?_
          rintro response rfl
          exact alone cookie (by rw [own]; rfl)
      | _ => exact stays
  | loggingIn =>
      have active : changing (system.procs index) = true := by
        rw [own]
        rfl
      rw [own] at stays
      cases input with
      | answer answer =>
          cases answer with
          | auth response =>
              exact changed_moves owner steady active (agrees_signIn owner response) fun _ => rfl
          | _ => exact ended
      | _ => exact stays
  | loggingOut =>
      have active : changing (system.procs index) = true := by
        rw [own]
        rfl
      have out := agrees_signOut owner system.store
      rw [own] at stays
      cases input with
      | answer answer => cases answer <;> exact changed_moves owner steady active out nofun
      | _ => exact stays
  | requesting path retry =>
      rw [own] at stays
      cases input with
      | answer answer => exact requesting_moves owner steady path retry answer own
      | _ => exact stays
  | renewing path cookie =>
      rw [own] at stays
      cases input with
      | answer answer =>
          cases answer with
          | auth response =>
              exact renewed_moves owner steady path cookie response own (alone cookie (by rw [own]; rfl))
          | _ => exact ended
      | _ => exact stays
  | ended =>
      rw [own] at stays
      cases input <;> exact stays

end Calls

theorem step_steady (event : Event (Input owner) (Change User)) (steady : Steady owner system)
    (alone : Alone owner system event) : Steady owner ((machine owner).step system event) := by
  cases event with
  | act index input => exact steady_moves owner steady (exec_moves owner steady input alone)
  | env change =>
      cases change with
      | cleanup =>
          refine ⟨steady.agrees, steady.held, fun index => ?_, steady.apart, steady.unique⟩
          have relies := steady.relies index
          simp only [Machine.step]
          cases own : system.procs index with
          | bootstrapping effect cookie =>
              rw [own] at relies
              exact ⟨relies.1, relies.2.1, nofun⟩
          | requesting path retry =>
              rw [own] at relies
              exact relies
          | renewing path cookie =>
              rw [own] at relies
              exact relies
          | _ => trivial
      | elsewhere cookie => exact alone.elim

end FaceVec.Web.Session

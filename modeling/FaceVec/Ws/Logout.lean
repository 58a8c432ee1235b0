import FaceVec.Auth.Logout
import FaceVec.Ws.Authority

/-!
A logged-out access token stays rejected, by `resolveAuth` and at the upgrade
of a WebSocket, which asks the same questions in code of its own.
-/

namespace FaceVec.Ws

open Interleaving Auth

variable {E K Payload : Type} [Field K] [LinearOrder K] [FloorRing K]

section Upgrade

variable (ids : IdText) (token : AccessTokenClaims) (store : Store ids E K Payload)

/-- Where an upgrade can get that presents a spent token while Redis is there. -/
def Turned (token : AccessTokenClaims) (store : Store ids E K Payload) : Handler E K → Prop
  | .done => True
  | .denylisting _ claims _ => claims.jti = token.jti ∧ Denylisted store.redis token.jti store.clock
  | _ => False

theorem turned_exec (input : Input) (handler : Handler E K) (available : input ≠ .ask .unready)
    (turned : Turned ids token store handler) :
    (exec ids input store handler).1 = store ∧
      Turned ids token store (exec ids input store handler).2 := by
  cases handler with
  | done =>
      cases input with
      | message socket data => exact ⟨rfl, trivial⟩
      | _ => exact ⟨rfl, trivial⟩
  | denylisting replica claims verified =>
      obtain ⟨same, denied⟩ := turned
      cases input with
      | ask contact =>
          cases contact with
          | unready => exact absurd rfl available
          | fails => exact ⟨rfl, trivial⟩
          | ready =>
              have known : isAccessTokenRevoked store.redis claims.jti store.clock = true := by
                rw [same, isAccessTokenRevoked_iff]
                exact denied
              simp only [exec, handleUpgrade, known, if_true]
              exact ⟨trivial, trivial⟩
      | _ => exact ⟨rfl, same, denied⟩
  | _ => exact turned.elim

theorem turned_alone (inputs : List Input) (handler : Handler E K)
    (available : .ask .unready ∉ inputs) (turned : Turned ids token store handler) :
    ((server ids).alone inputs (store, handler)).1 = store := by
  induction inputs generalizing handler with
  | nil => rfl
  | cons input rest ih =>
      obtain ⟨same, next⟩ := turned_exec ids token store input handler
        (fun unready => available (unready ▸ List.mem_cons_self)) turned
      have step : (server ids).exec input store handler =
          (store, ((server ids).exec input store handler).2) := Prod.ext same rfl
      rw [Machine.alone, step]
      exact ih _ (fun later => available (List.mem_cons_of_mem _ later)) next

theorem spent_upgrade (replica : Nat) (pathname : String) (inputs : List Input)
    (available : .ask .unready ∉ inputs) (spent : Spent store.redis token store.clock) :
    ((server ids).alone (.upgrade replica pathname (some token) :: inputs) (store, .idle)).1 =
      store := by
  have begins : ((server ids).exec (.upgrade replica pathname (some token)) store .idle).1 = store ∧
      Turned ids token store
        ((server ids).exec (.upgrade replica pathname (some token)) store .idle).2 := by
    simp only [server, exec, handleUpgrade, verifyAccessToken]
    split
    · by_cases expired : token.expiresAt ≤ ⌊store.clock⌋
      · simp only [if_pos expired]
        exact ⟨trivial, trivial⟩
      · simp only [if_neg expired]
        exact ⟨trivial, rfl, spent.resolve_left expired⟩
    · exact ⟨rfl, trivial⟩
  have step : (server ids).exec (.upgrade replica pathname (some token)) store .idle =
      (store, ((server ids).exec (.upgrade replica pathname (some token)) store .idle).2) :=
    Prod.ext begins.1 rfl
  rw [Machine.alone, step]
  exact turned_alone ids token store inputs _ available begins.2

end Upgrade

/-- Once `logout` has returned, the token it was called with is turned down
at every later instant, whatever is revoked in the meantime. -/
theorem logout_rejects [IsStrictOrderedRing K] (config : Config) (before redis : Revocations K)
    (token : AccessTokenClaims) (auth : AuthContext) (resolved read written later : K)
    (current : resolveAuth before token resolved = .ok auth) (ordered : read ≤ written)
    (after : written ≤ later) (calls : List (RedisWrite K))
    (sound : ∀ call ∈ calls, call.Sound token) :
    let known := calls.foldl (RedisWrite.apply config) (logoutRedis redis (some auth) read written)
    Rejected known token later ∧
      ∀ (ids : IdText) (store : Store ids E K Payload) (replica : Nat) (pathname : String)
        (inputs : List Input), store.redis = known → store.clock = later →
        .ask .unready ∉ inputs →
        ((server ids).alone (.upgrade replica pathname (some token) :: inputs) (store, .idle)).1 =
          store := by
  obtain ⟨same, expires⟩ := resolveAuth_reads before token auth resolved current
  have spent := loggedOut_spent config redis token auth same (fun _ => expires) read written ordered
    calls sound later after
  refine ⟨spent_rejected _ token later spent, ?_⟩
  intro ids store replica pathname inputs holds clock available
  apply spent_upgrade ids token store replica pathname inputs available
  rw [holds, clock]
  exact spent

def morning : AccessTokenClaims := ⟨7, .PROFESSOR, "phone", 100, 1000⟩

/-- Redis after a logout, and after a `logoutAll` from another device. -/
def loggedOut : Revocations ℚ :=
  (RedisWrite.logoutAll ⟨7, .PROFESSOR, "laptop", 1400⟩ 600 600 601).apply .least
    (logoutRedis noRevocations (some Auth.phone) (999 / 2) 500)

/-- Half a second before its expiry the token is still turned down, at an upgrade too. -/
theorem logout_rejects_morning :
    Rejected loggedOut morning (1999 / 2) ∧
      let store : Store strokes ℤ ℚ Unit := (listening strokes lectures (1999 / 2) loggedOut).store
      ((server strokes).alone [.upgrade 0 "/ws" (some morning), .ask .ready, .ask .ready,
        .handshake true] (store, .idle)).1 = store := by
  have current : resolveAuth noRevocations morning 499 = .ok Auth.phone := by decide +kernel
  have other : RedisWrite.Sound morning
      (.logoutAll ⟨7, .PROFESSOR, "laptop", 1400⟩ (600 : ℚ) 600 601) :=
    ⟨by norm_num, fun same => absurd same (by decide)⟩
  obtain ⟨rejected, upgrades⟩ := @logout_rejects ℤ ℚ Unit _ _ _ _ .least noRevocations noRevocations
    morning Auth.phone 499 (999 / 2) 500 (1999 / 2) current (by norm_num) (by norm_num)
    [.logoutAll ⟨7, .PROFESSOR, "laptop", 1400⟩ 600 600 601] (by simpa using other)
  exact ⟨rejected, upgrades strokes _ 0 "/ws" _ rfl rfl (by decide)⟩

end FaceVec.Ws

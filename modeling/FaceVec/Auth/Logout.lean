import FaceVec.Auth.AccessTokens

/-!
The denylist of `logout`. Its lifetime comes from a clock that is cut to whole
seconds, and the key is written later than that clock was read; the entry still
lives until the token has expired.
-/

namespace FaceVec.Auth

variable {K : Type} [Field K] [LinearOrder K] [FloorRing K]

/-- Denylist a token for what is left of its lifetime; `read` is when the clock
was read, `written` when the key was set. -/
def denylist (redis : Revocations K) (auth : AuthContext) (read written : K) : Revocations K :=
  let ttl := auth.expiresAt - ⌊read⌋
  if 0 < ttl then revokeAccessToken redis auth.jti ttl written else redis

/-- What `logout` writes to Redis; there is a current credential where the
request had a valid token. -/
def logoutRedis (redis : Revocations K) (access : Option AuthContext) (read written : K) :
    Revocations K :=
  match access with
  | none => redis
  | some auth => denylist redis auth read written

inductive RedisWrite (K : Type) where
  | logout (access : Option AuthContext) (read written : K)
  | logoutAll (auth : AuthContext) (read cut written : K)

def RedisWrite.apply (config : Config) (redis : Revocations K) : RedisWrite K → Revocations K
  | .logout access read written => logoutRedis redis access read written
  | .logoutAll auth read cut written =>
      denylist (revokeUserTokensBefore redis auth.userId ⌊read⌋ (config.JWT_REFRESH_TTL : ℕ) cut)
        auth read written

theorem logoutAllRedis_apply (config : Config) (redis : Revocations K) (auth : AuthContext)
    (now : K) :
    logoutAllRedis config redis auth now =
      (RedisWrite.logoutAll auth now now now).apply config redis := rfl

/-- A credential that carries the id of the token was read from the token. -/
def Reads (token : AccessTokenClaims) (auth : AuthContext) : Prop :=
  auth.jti = token.jti → auth.expiresAt = token.expiresAt

theorem resolveAuth_reads (redis : Revocations K) (token : AccessTokenClaims) (auth : AuthContext)
    (now : K) (resolved : resolveAuth redis token now = .ok auth) :
    auth.jti = token.jti ∧ auth.expiresAt = token.expiresAt := by
  unfold resolveAuth verifyAccessToken at resolved
  split at resolved
  · cases resolved
  · next claims verified =>
      split at verified
      · cases verified
      · obtain rfl := Except.ok.inj verified
        split at resolved
        · cases resolved
        · split at resolved
          · cases resolved
          · obtain rfl := Except.ok.inj resolved
            exact ⟨rfl, rfl⟩

/-- The key of a call is set after the call has read the clock. -/
def RedisWrite.Sound (token : AccessTokenClaims) : RedisWrite K → Prop
  | .logout access read written => read ≤ written ∧ ∀ auth ∈ access, Reads token auth
  | .logoutAll auth read _ written => read ≤ written ∧ Reads token auth

/-- The token is denylisted until it expires. -/
def Outlived (redis : Revocations K) (token : AccessTokenClaims) : Prop :=
  ∃ vanishes, redis.jti token.jti = some vanishes ∧ (token.expiresAt : K) ≤ vanishes

section Denylist

variable (redis : Revocations K) (token : AccessTokenClaims) (auth : AuthContext)
  (read written : K)

theorem denylist_other (other : auth.jti ≠ token.jti) :
    (denylist redis auth read written).jti token.jti = redis.jti token.jti := by
  simp only [denylist]
  split
  · exact Function.update_of_ne other.symm _ _
  · rfl

variable [IsStrictOrderedRing K]

/-- The rounding down of the clock only makes the entry live longer. -/
theorem denylist_outlived (same : auth.jti = token.jti) (reads : Reads token auth)
    (ordered : read ≤ written) (running : ⌊read⌋ < token.expiresAt) :
    Outlived (denylist redis auth read written) token := by
  have expires := reads same
  have positive : 0 < auth.expiresAt - ⌊read⌋ := by omega
  refine ⟨vanishesAt (auth.expiresAt - ⌊read⌋) written, ?_, ?_⟩
  · simp only [denylist, if_pos positive, revokeAccessToken, same, Function.update_self]
  · have floored : (⌊read⌋ : K) ≤ read := Int.floor_le read
    rw [vanishesAt, max_eq_right (by omega), expires]
    push_cast
    linarith

theorem denylist_keeps (reads : Reads token auth) (ordered : read ≤ written)
    (outlived : Outlived redis token) : Outlived (denylist redis auth read written) token := by
  by_cases same : auth.jti = token.jti
  · by_cases running : ⌊read⌋ < token.expiresAt
    · exact denylist_outlived redis token auth read written same reads ordered running
    · have spent : ¬ 0 < auth.expiresAt - ⌊read⌋ := by
        have expires := reads same
        omega
      simpa only [denylist, if_neg spent] using outlived
  · obtain ⟨vanishes, entry, later⟩ := outlived
    exact ⟨vanishes, by rw [denylist_other redis token auth read written same, entry], later⟩

end Denylist

section Rejection

variable [IsStrictOrderedRing K] (config : Config) (redis : Revocations K)
  (token : AccessTokenClaims)

theorem write_keeps (call : RedisWrite K) (sound : call.Sound token)
    (outlived : Outlived redis token) : Outlived (call.apply config redis) token := by
  cases call with
  | logout access read written =>
      cases access with
      | none => exact outlived
      | some auth => exact denylist_keeps redis token auth read written (sound.2 auth rfl) sound.1 outlived
  | logoutAll auth read cut written =>
      exact denylist_keeps _ token auth read written sound.2 sound.1 outlived

theorem writes_keep (calls : List (RedisWrite K)) (sound : ∀ call ∈ calls, call.Sound token)
    (outlived : Outlived redis token) :
    Outlived (calls.foldl (RedisWrite.apply config) redis) token := by
  induction calls generalizing redis with
  | nil => exact outlived
  | cons call rest ih =>
      exact ih _ (fun later member => sound later (List.mem_cons_of_mem _ member))
        (write_keeps config redis token call (sound call List.mem_cons_self) outlived)

/-- Expired or denylisted: what `jose` and the denylist see of a token at an instant. -/
def Spent (redis : Revocations K) (token : AccessTokenClaims) (now : K) : Prop :=
  token.expiresAt ≤ ⌊now⌋ ∨ Denylisted redis token.jti now

omit [IsStrictOrderedRing K] in
theorem spent_rejected (now : K) (spent : Spent redis token now) : Rejected redis token now := by
  rw [rejected_iff]
  rcases spent with expired | denied
  · exact Or.inl expired
  · exact Or.inr (Or.inl denied)

omit [IsStrictOrderedRing K] in
theorem outlived_spent (now : K) (outlived : Outlived redis token) : Spent redis token now := by
  by_cases expired : token.expiresAt ≤ ⌊now⌋
  · exact Or.inl expired
  · obtain ⟨vanishes, entry, later⟩ := outlived
    have alive : now < token.expiresAt := by
      by_contra past
      exact expired (Int.le_floor.mpr (not_lt.mp past))
    exact Or.inr ⟨vanishes, entry, alive.trans_le later⟩

/-- From the end of a logout on the token is spent, whatever is revoked afterwards. -/
theorem loggedOut_spent (auth : AuthContext) (same : auth.jti = token.jti)
    (reads : Reads token auth) (read written : K) (ordered : read ≤ written)
    (calls : List (RedisWrite K)) (sound : ∀ call ∈ calls, call.Sound token) (later : K)
    (after : written ≤ later) :
    Spent (calls.foldl (RedisWrite.apply config) (logoutRedis redis (some auth) read written)) token
      later := by
  by_cases running : ⌊read⌋ < token.expiresAt
  · apply outlived_spent
    apply writes_keep config _ token calls sound
    exact denylist_outlived redis token auth read written same reads ordered running
  · -- The entry is skipped for a token that has expired already.
    left
    have monotone : ⌊read⌋ ≤ ⌊later⌋ := Int.floor_mono (ordered.trans after)
    omega

/-- A later call, which reads the clock and writes its cutoff no earlier than `now`. -/
def RedisWrite.Follows (now : K) : RedisWrite K → Prop
  | .logout _ _ _ => True
  | .logoutAll _ read cut _ => now ≤ read ∧ now ≤ cut

/-- Cut off by its user's entry until it expires. -/
def Severed (redis : Revocations K) (token : AccessTokenClaims) : Prop :=
  ∃ cutoff vanishes, redis.user token.userId = some (cutoff, vanishes) ∧
    token.issuedAt < cutoff ∧ (token.expiresAt : K) ≤ vanishes

omit [IsStrictOrderedRing K] in
theorem denylist_user (auth : AuthContext) (read written : K) :
    (denylist redis auth read written).user = redis.user := by
  simp only [denylist]
  split <;> rfl

omit [IsStrictOrderedRing K] in
theorem severed_rejected (now : K) (severed : Severed redis token) : Rejected redis token now := by
  rw [rejected_iff]
  by_cases expired : token.expiresAt ≤ ⌊now⌋
  · exact Or.inl expired
  · obtain ⟨cutoff, vanishes, entry, earlier, later⟩ := severed
    have alive : now < token.expiresAt := by
      by_contra past
      exact expired (Int.le_floor.mpr (not_lt.mp past))
    exact Or.inr (Or.inr ⟨cutoff, vanishes, entry, alive.trans_le later, earlier⟩)

/-- A later cutoff only replaces one of the user by one that cuts off more, for longer. -/
theorem write_severs (now : K) (call : RedisWrite K) (follows : call.Follows now)
    (earlier : token.issuedAt < ⌊now⌋)
    (outlives : (token.expiresAt : K) ≤ now + ((config.JWT_REFRESH_TTL : ℕ) : K))
    (severed : Severed redis token) : Severed (call.apply config redis) token := by
  cases call with
  | logout access read written =>
      cases access with
      | none => exact severed
      | some auth => simpa only [RedisWrite.apply, logoutRedis, Severed, denylist_user] using severed
  | logoutAll auth read cut written =>
      obtain ⟨ordered, kept⟩ := follows
      simp only [RedisWrite.apply, Severed, denylist_user, revokeUserTokensBefore]
      by_cases own : token.userId = auth.userId
      · have positive : (1 : ℤ) ≤ ((config.JWT_REFRESH_TTL : ℕ) : ℤ) := by
          exact_mod_cast config.JWT_REFRESH_TTL.pos
        refine ⟨⌊read⌋, _, by rw [own, Function.update_self], ?_, ?_⟩
        · exact earlier.trans_le (Int.floor_mono ordered)
        · rw [vanishesAt, max_eq_right positive, Int.cast_natCast]
          linarith
      · rwa [Function.update_of_ne own]

theorem writes_sever (now : K) (calls : List (RedisWrite K))
    (follows : ∀ call ∈ calls, call.Follows now) (earlier : token.issuedAt < ⌊now⌋)
    (outlives : (token.expiresAt : K) ≤ now + ((config.JWT_REFRESH_TTL : ℕ) : K))
    (severed : Severed redis token) :
    Severed (calls.foldl (RedisWrite.apply config) redis) token := by
  induction calls generalizing redis with
  | nil => exact severed
  | cons call rest ih =>
      exact ih _ (fun later member => follows later (List.mem_cons_of_mem _ member))
        (write_severs config redis token now call (follows call List.mem_cons_self) earlier outlives
          severed)

/-- What `logoutAll` has put out of use stays rejected, whatever later calls revoke. -/
theorem outOfUse_stays (auth : AuthContext) (now : K) (owner : token.userId = auth.userId)
    (unique : token.jti = auth.jti → token.expiresAt = auth.expiresAt)
    (outOfUse : OutOfUse config redis auth token now) (calls : List (RedisWrite K))
    (sound : ∀ call ∈ calls, call.Sound token) (follows : ∀ call ∈ calls, call.Follows now)
    (later : K) (after : now < later) :
    Rejected (calls.foldl (RedisWrite.apply config) (logoutAllRedis config redis auth now)) token
      later := by
  have reads : Reads token auth := fun same => (unique same.symm).symm
  rcases outOfUse with expired | presented | ⟨vanishes, denied, outlives⟩ | ⟨earlier, outlives⟩
  · have monotone : ⌊now⌋ ≤ ⌊later⌋ := Int.floor_mono after.le
    exact spent_rejected _ _ _ (Or.inl (expired.trans monotone))
  · rw [logoutAllRedis_apply]
    exact spent_rejected _ _ _ (loggedOut_spent config _ token auth presented.symm reads now now le_rfl
      calls sound later after.le)
  · have denylisted : Outlived redis token := ⟨vanishes, denied, outlives⟩
    have still := write_keeps config redis token (.logoutAll auth now now now) ⟨le_rfl, reads⟩ denylisted
    rw [logoutAllRedis_apply]
    exact spent_rejected _ _ _ (outlived_spent _ _ later (writes_keep config _ token calls sound still))
  · have severed : Severed (logoutAllRedis config redis auth now) token := by
      refine ⟨_, _, ?_, earlier, outlives⟩
      rw [owner]
      exact logoutAllRedis_user config redis auth now
    exact severed_rejected _ _ later
      (writes_sever config _ token now calls follows earlier outlives severed)

end Rejection

end FaceVec.Auth

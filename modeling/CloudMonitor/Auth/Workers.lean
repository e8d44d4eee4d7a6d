import CloudMonitor.Auth.Revocation
import CloudMonitor.Lib.TtlMap
import CloudMonitor.Store.RedisMap
import Mathlib.Tactic.Linarith

/-!
# A denylist several workers share

Worker processes with clocks of their own check and revoke tokens in one Redis,
whose calls may fail. What a worker answers is said by the revocations that
reached the server. A check that fails lets the token in; a revocation that
fails leaves the one before it standing.
-/

namespace CloudMonitor

open Fallible

/-- The calls of a store that revocation makes. -/
structure TokenStore (σ : Type) where
  set : String → String → ℤ → ℚ → Fallible σ ApiError Unit
  contains : String → ℚ → Fallible σ ApiError Bool

namespace TokenStore

def memory : TokenStore MemoryStore where
  set := MemoryStore.set
  contains := MemoryStore.contains

def redis (client : RedisClient) : TokenStore RedisServer where
  set := client.set
  contains := client.contains

section
variable {σ : Type} (store : TokenStore σ) (tokens : TokenEnv)

/-- The time to live is reckoned with the worker's clock, `tokens.wall`. -/
def revokeToken (claims : Claims) (now : ℚ) : Fallible σ ApiError Unit := do
  let remaining := truncate (claims.exp - tokens.wall now)
  if 0 < remaining then store.set (revokedKey claims.jti) "1" remaining now else return ()

def isTokenRevoked (jti : String) (now : ℚ) : Fallible σ ApiError Bool :=
  store.contains (revokedKey jti) now

def decodeAccessToken (token : String) (now : ℚ) : Fallible σ ApiError Claims :=
  match tokens.verify token with
  | none => raise invalidToken
  | some claims => if (claims.exp : ℚ) ≤ tokens.wall now then raise tokenExpired else return claims

def getTokenClaims (credentials : Option String) (now : ℚ) : Fallible σ ApiError Claims :=
  match credentials with
  | none => raise notAuthenticated
  | some token => do
    let payload ← decodeAccessToken tokens token now
    if ← store.isTokenRevoked payload.jti now then raise tokenRevoked else return payload

end

theorem getTokenClaims_memory (tokens : TokenEnv) (credentials : Option String) (now : ℚ) :
    memory.getTokenClaims tokens credentials now =
      CloudMonitor.getTokenClaims tokens credentials now := by
  cases credentials <;> rfl

theorem revokeToken_memory (tokens : TokenEnv) (claims : Claims) (now : ℚ) :
    memory.revokeToken tokens claims now = CloudMonitor.revokeToken tokens claims now := rfl

end TokenStore

-- ---------------------------------------------------------------------------
-- A call touches one key
-- ---------------------------------------------------------------------------

def StoreCall.key : StoreCall String String → String
  | .get key | .set key _ _ | .contains key | .delete key | .add key _ _ => key

namespace RedisServer

def SameData (s s' : RedisServer) : Prop := s'.data = s.data

theorem SameData.refl (s : RedisServer) : SameData s s := rfl

theorem SameData.trans {s s' s'' : RedisServer} (h : SameData s s') (h' : SameData s' s'') :
    SameData s s'' := Eq.trans h' h

theorem sameData_contains {client : RedisClient} {now : ℚ} (key : String) :
    Within SameData (client.contains key now) := by
  intro s
  rw [RedisClient.contains, attempt_run]
  split <;> rfl

/-- Other keys have what they had. -/
def Spares (key : String) (s s' : RedisServer) : Prop := ∀ k, k ≠ key → s'.data k = s.data k

section
variable {key : String} {client : RedisClient} {now : ℚ}

theorem Spares.refl (s : RedisServer) : Spares key s s := fun _ _ => rfl

theorem Spares.trans {s s' s'' : RedisServer} (h : Spares key s s') (h' : Spares key s' s'') :
    Spares key s s'' := fun k hk => (h' k hk).trans (h k hk)

theorem spares_bind {x : Op α} {f : α → Op β} (hx : Within (Spares key) x)
    (hf : ∀ a, Within (Spares key) (f a)) : Within (Spares key) (x >>= f) :=
  Within.bind (R := Spares key) Spares.trans hx hf

theorem spares_pure (a : α) : Within (Spares key) (pure a : Op α) := Within.pure Spares.refl a

theorem spares_write (o : Option (Entry String (WithTop ℚ))) :
    Within (Spares key) (write key o) := fun _ _ hk => Function.update_of_ne hk _ _

theorem spares_lookup (k : String) : Within (Spares key) (lookup k now) := fun _ _ _ => rfl

theorem spares_attempt (fallback : α) {x : Op α} (hx : Within (Spares key) x) :
    Within (Spares key) (client.attempt fallback x) := by
  intro s
  rw [attempt_run]
  split
  · exact fun _ _ => rfl
  · exact hx _

theorem spares_set (value : String) (ttl : ℤ) : Within (Spares key) (set key value ttl now) := by
  unfold set
  split
  · exact spares_pure _
  · exact spares_bind (spares_write _) fun _ => spares_pure _

theorem spares_setNx (value : String) (ttl : ℤ) :
    Within (Spares key) (setNx key value ttl now) := by
  unfold setNx
  split
  · exact spares_pure _
  · refine spares_bind (spares_lookup _) fun o => ?_
    split
    · exact spares_pure _
    · exact spares_set _ _

theorem spares_incrBy (amount : ℤ) : Within (Spares key) (incrBy key amount now) := by
  refine spares_bind (spares_lookup _) fun o => ?_
  dsimp only
  split
  · exact spares_pure _
  · exact spares_bind (spares_write _) fun _ => spares_pure _

theorem spares_ttl : Within (Spares key) (ttl key now) := by
  refine spares_bind (spares_lookup _) fun o => ?_
  split <;> exact spares_pure _

theorem spares_call (client : RedisClient) (now : ℚ) (c : StoreCall String String) :
    Within (Spares (client.keyPrefix ++ c.key)) (client.call now c) := by
  cases c with
  | get key =>
    refine spares_bind (spares_attempt _ ?_) fun _ => spares_pure _
    exact spares_bind (spares_lookup _) fun _ => spares_pure _
  | set key value ttl =>
    refine spares_bind (spares_attempt _ ?_) fun _ => spares_pure _
    exact spares_bind (spares_set _ _) fun _ => spares_pure _
  | contains key =>
    refine spares_bind (spares_attempt _ ?_) fun _ => spares_pure _
    exact spares_bind (spares_lookup _) fun _ => spares_pure _
  | delete key => exact spares_bind (spares_attempt _ (spares_write _)) fun _ => spares_pure _
  | add key amount ttl =>
    refine spares_bind (spares_attempt _ ?_) fun _ => spares_pure _
    refine spares_bind (spares_setNx _ _) fun ok => spares_bind (spares_incrBy _) fun value => ?_
    refine spares_bind spares_ttl fun remaining => ?_
    split <;> exact spares_pure _

end

end RedisServer

-- ---------------------------------------------------------------------------
-- The workers
-- ---------------------------------------------------------------------------

/-- What the workers have in common, and how far the wall clock of each is
ahead of the server's. -/
structure WorkersEnv where
  client : RedisClient
  verify : String → Option Claims
  offset : ℕ → ℚ

def WorkersEnv.tokens (env : WorkersEnv) (w : ℕ) : TokenEnv where
  offset := env.offset w
  verify := env.verify

/-- `use` is any call for one of the other features, by any worker. -/
inductive WorkersEvent
  | wait (d : ℚ) (nonneg : 0 ≤ d)
  | use (call : StoreCall String String) (other : ∀ jti, call.key ≠ revokedKey jti)
  | check (w : ℕ) (credentials : Option String)
  | checkLogout (i w : ℕ) (credentials : Option String)
  | revoke (i : ℕ)

/-- `leaving` has the logouts that have checked their token, and the worker each
is served by; `closed` is until when a revocation that reached the server will
last, and no step reads it. -/
structure Workers where
  server : RedisServer
  now : ℚ
  leaving : ℕ → Option (ℕ × Claims)
  closed : String → Option ℚ

namespace Workers

open RedisServer

def start (now : ℚ) : Workers where
  server := .new
  now := now
  leaving _ := none
  closed _ := none

section
variable (env : WorkersEnv)

def claims (σ : Workers) (w : ℕ) (credentials : Option String) :
    Except ApiError Claims × RedisServer :=
  ((TokenStore.redis env.client).getTokenClaims (env.tokens w) credentials σ.now).run σ.server

def revoked (σ : Workers) (w : ℕ) (c : Claims) : RedisServer :=
  (((TokenStore.redis env.client).revokeToken (env.tokens w) c σ.now).run σ.server).2

/-- The end of the entry a revocation leaves, if it leaves one. -/
def closing (σ : Workers) (w : ℕ) (c : Claims) : Option ℚ :=
  let remaining := truncate (c.exp - (env.tokens w).wall σ.now)
  if 0 < remaining ∧ ¬env.client.fails σ.server.calls then some (σ.now + remaining) else none

def step (σ : Workers) : WorkersEvent → Option (Except ApiError Claims) × Workers
  | .wait d _ => (none, { σ with now := σ.now + d })
  | .use call _ => (none, { σ with server := ((env.client.call σ.now call).run σ.server).2 })
  | .check w credentials =>
    let r := σ.claims env w credentials
    (some r.1, { σ with server := r.2 })
  | .checkLogout i w credentials =>
    let r := σ.claims env w credentials
    (some r.1,
      { σ with
        server := r.2
        leaving := Function.update σ.leaving i (r.1.toOption.map fun c => (w, c)) })
  | .revoke i =>
    match σ.leaving i with
    | none => (none, σ)
    | some (w, c) =>
      (none,
        { σ with
          server := σ.revoked env w c
          leaving := Function.update σ.leaving i none
          closed := Function.update σ.closed c.jti ((σ.closing env w c).or (σ.closed c.jti)) })

/-- What a worker answers to a token that is signed. -/
def answer (σ : Workers) (w : ℕ) (c : Claims) : Except ApiError Claims :=
  if (c.exp : ℚ) ≤ (env.tokens w).wall σ.now then .error tokenExpired
  else if env.client.fails σ.server.calls then .ok c
  else if (σ.closed c.jti).any (σ.now < ·) then .error tokenRevoked
  else .ok c

end

-- ---------------------------------------------------------------------------
-- The server has the revocations
-- ---------------------------------------------------------------------------

def entry (until_ : ℚ) : Entry String (WithTop ℚ) where
  value := "1"
  expires := (until_ : WithTop ℚ)

def Holds (env : WorkersEnv) (σ : Workers) : Prop :=
  ∀ jti, σ.server.data (env.client.keyPrefix ++ revokedKey jti) = (σ.closed jti).map entry

section
variable {env : WorkersEnv} {σ : Workers} {w : ℕ} {c : Claims} {token jti : String}

theorem contains_run (h : Holds env σ) (jti : String) :
    ∃ s', (env.client.contains (revokedKey jti) σ.now).run σ.server =
        (.ok (!env.client.fails σ.server.calls && (σ.closed jti).any (σ.now < ·)), s') ∧
      s'.data = σ.server.data := by
  cases hf : env.client.fails σ.server.calls with
  | true =>
    refine ⟨{ σ.server with calls := σ.server.calls + 1 }, ?_, rfl⟩
    rw [RedisClient.contains, RedisServer.failed_run _ _ hf]
    rfl
  | false =>
    refine ⟨{ σ.server with calls := σ.server.calls + 1 }, ?_, rfl⟩
    rw [RedisClient.contains, RedisServer.attempt_run, hf]
    simp only [Bool.false_eq_true, if_false, RedisServer.lookup, run_bind, run_get, run_pure, h jti]
    cases σ.closed jti with
    | none => rfl
    | some until_ =>
      by_cases hlt : σ.now < until_ <;> simp [alive, entry, Option.filter_some, hlt]

theorem claims_run (h : Holds env σ) (hv : env.verify token = some c) (w : ℕ) :
    (σ.claims env w (some token)).1 = σ.answer env w c := by
  have hverify : (env.tokens w).verify token = some c := hv
  obtain ⟨s', hrun, -⟩ := contains_run h c.jti
  by_cases he : (c.exp : ℚ) ≤ (env.tokens w).wall σ.now
  · simp [claims, answer, TokenStore.getTokenClaims, TokenStore.decodeAccessToken, hverify, he]
  · cases hf : env.client.fails σ.server.calls <;>
      cases hc : (σ.closed c.jti).any (σ.now < ·) <;>
      simp [claims, answer, TokenStore.getTokenClaims, TokenStore.decodeAccessToken,
        TokenStore.isTokenRevoked, TokenStore.redis, hverify, he, hrun, hf, hc]

theorem claims_data (σ : Workers) (w : ℕ) (credentials : Option String) :
    (σ.claims env w credentials).2.data = σ.server.data := by
  have hclaims : Within SameData
      ((TokenStore.redis env.client).getTokenClaims (env.tokens w) credentials σ.now) := by
    cases credentials with
    | none => exact Within.raise SameData.refl _
    | some token =>
      refine Within.bind (R := SameData) SameData.trans ?_ fun payload : Claims =>
        Within.bind (R := SameData) SameData.trans (sameData_contains (revokedKey payload.jti))
          fun revoked => Within.ite (Within.raise SameData.refl _) (Within.pure SameData.refl _)
      unfold TokenStore.decodeAccessToken
      cases (env.tokens w).verify token with
      | none => exact Within.raise SameData.refl _
      | some c => exact Within.ite (Within.raise SameData.refl _) (Within.pure SameData.refl _)
  exact hclaims σ.server

theorem revoked_data (σ : Workers) (w : ℕ) (c : Claims) :
    (σ.revoked env w c).data = (σ.closing env w c).elim σ.server.data fun until_ =>
      Function.update σ.server.data (env.client.keyPrefix ++ revokedKey c.jti)
        (some (entry until_)) := by
  by_cases hpos : 0 < truncate (c.exp - (env.tokens w).wall σ.now)
  · cases hf : env.client.fails σ.server.calls with
    | true => simp [revoked, closing, TokenStore.revokeToken, TokenStore.redis, RedisClient.set,
        RedisServer.attempt_run, hpos, hf]
    | false => simp [revoked, closing, TokenStore.revokeToken, TokenStore.redis, RedisClient.set,
        RedisServer.attempt_run, RedisServer.set, RedisServer.write, entry, hpos, hf,
        not_le.mpr hpos]
  · simp [revoked, closing, TokenStore.revokeToken, hpos]

theorem fullKey_ne {k jti : String} (h : k ≠ revokedKey jti) :
    env.client.keyPrefix ++ revokedKey jti ≠ env.client.keyPrefix ++ k :=
  fun he => h ((String.append_right_inj _).mp he).symm

theorem Holds.step (h : Holds env σ) (e : WorkersEvent) : Holds env (σ.step env e).2 := by
  cases e with
  | wait d hd => exact h
  | use call other =>
    intro jti
    refine Eq.trans ?_ (h jti)
    exact RedisServer.spares_call env.client σ.now call σ.server _ (fullKey_ne (other jti))
  | check w credentials => exact fun jti => (congrFun (claims_data σ w credentials) _).trans (h jti)
  | checkLogout i w credentials =>
    exact fun jti => (congrFun (claims_data σ w credentials) _).trans (h jti)
  | revoke i =>
    simp only [Workers.step]
    split
    · exact h
    · next w c _ =>
      intro jti
      simp only [revoked_data]
      cases σ.closing env w c with
      | none => simpa using h jti
      | some until_ =>
        rcases eq_or_ne jti c.jti with rfl | hne
        · simp
        · have hkey : revokedKey c.jti ≠ revokedKey jti := fun he =>
            hne ((String.append_right_inj _).mp he).symm
          simpa [Function.update_of_ne (fullKey_ne hkey), hne] using h jti

end

def run (env : WorkersEnv) : Workers → List WorkersEvent → Workers := after (step env)

/-- Revocations are of signed tokens, and reach to their last second by the
clock of a worker. -/
structure Sent (env : WorkersEnv) (σ : Workers) : Prop where
  leaving : ∀ i w c, σ.leaving i = some (w, c) → ∃ token, env.verify token = some c
  closed : ∀ jti until_, σ.closed jti = some until_ → ∃ v token c, env.verify token = some c ∧
    c.jti = jti ∧ (c.exp - 1 : ℚ) < until_ + env.offset v ∧ until_ + env.offset v ≤ c.exp

section
variable {env : WorkersEnv} {σ : Workers} {w : ℕ} {c : Claims} {token jti : String} {until_ : ℚ}

theorem claims_ok (h : Holds env σ) {credentials : Option String}
    (hok : (σ.claims env w credentials).1 = .ok c) : ∃ token, env.verify token = some c := by
  cases credentials with
  | none => simp [claims, TokenStore.getTokenClaims] at hok
  | some token =>
    cases hv : env.verify token with
    | none =>
      have hverify : (env.tokens w).verify token = none := hv
      simp [claims, TokenStore.getTokenClaims, TokenStore.decodeAccessToken, hverify] at hok
    | some c' =>
      rw [claims_run h hv, answer] at hok
      split_ifs at hok
      · exact ⟨token, hv.trans (congrArg some (Except.ok.inj hok))⟩
      · exact ⟨token, hv.trans (congrArg some (Except.ok.inj hok))⟩

theorem closing_bounds (h : σ.closing env w c = some until_) :
    (c.exp - 1 : ℚ) < until_ + env.offset w ∧ until_ + env.offset w ≤ c.exp := by
  simp only [closing] at h
  split_ifs at h with hpos
  cases h
  obtain ⟨hlt, hle⟩ := truncate_bounds hpos.1
  simp only [TokenEnv.wall, WorkersEnv.tokens] at hlt hle ⊢
  constructor <;> linarith

theorem Sent.step (h : Sent env σ) (hholds : Holds env σ) (e : WorkersEvent) :
    Sent env (σ.step env e).2 := by
  cases e with
  | wait | use | check => exact ⟨h.leaving, h.closed⟩
  | checkLogout i w credentials =>
    refine ⟨fun j v c hj => ?_, h.closed⟩
    rcases eq_or_ne j i with rfl | hne
    · simp only [Workers.step, Function.update_self, Option.map_eq_some_iff, Prod.mk.injEq] at hj
      obtain ⟨c', hc', -, rfl⟩ := hj
      cases hclaims : (σ.claims env w credentials).1 with
      | error e => simp [hclaims, Except.toOption] at hc'
      | ok c =>
        simp only [hclaims, Except.toOption, Option.some.injEq] at hc'
        exact hc' ▸ claims_ok hholds hclaims
    · simp only [Workers.step, Function.update_of_ne hne] at hj
      exact h.leaving j v c hj
  | revoke i =>
    simp only [Workers.step]
    split
    · exact h
    · next w c hleaving =>
      refine ⟨fun j v c' hj => ?_, fun jti until_ hclosed => ?_⟩
      · rcases eq_or_ne j i with rfl | hne
        · simp at hj
        · simp only [Function.update_of_ne hne] at hj
          exact h.leaving j v c' hj
      · rcases eq_or_ne jti c.jti with rfl | hne
        · simp only [Function.update_self] at hclosed
          cases hclosing : σ.closing env w c with
          | none =>
            rw [hclosing, Option.none_or] at hclosed
            exact h.closed _ _ hclosed
          | some u =>
            rw [hclosing, Option.some_or] at hclosed
            cases hclosed
            obtain ⟨token, hv⟩ := h.leaving i w c hleaving
            exact ⟨w, token, c, hv, rfl, closing_bounds hclosing⟩
        · simp only [Function.update_of_ne hne] at hclosed
          exact h.closed _ _ hclosed

theorem closed_step (e : WorkersEvent) (h : (σ.closed jti).isSome) :
    ((σ.step env e).2.closed jti).isSome := by
  cases e with
  | wait | use | check | checkLogout => exact h
  | revoke i =>
    simp only [Workers.step]
    split
    · exact h
    · next w c _ =>
      rcases eq_or_ne jti c.jti with rfl | hne
      · simp [h]
      · simpa [hne] using h

theorem closed_run (events : List WorkersEvent) (h : (σ.closed jti).isSome) :
    ((run env σ events).closed jti).isSome :=
  play_keeps (P := fun σ : Workers => (σ.closed jti).isSome) (fun _ e h => closed_step e h) events h

end

end Workers

end CloudMonitor

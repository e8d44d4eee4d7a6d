import CloudMonitor.Auth.Login
import CloudMonitor.Store.Redis

/-!
# Login over either backend

`rate_limit.py` uses whatever store `get_store` answers, so the login is one
function of the two calls it makes of a store. Over the process's memory it is
`login` (`login_memory`); over Redis, `login_outcome` says what it answers and
what becomes of its two counters when some of its calls fail.
-/

namespace CloudMonitor

open Fallible

/-- The calls of a store that the rate limiter makes. -/
structure LoginStore (σ : Type) where
  add : String → ℤ → ℤ → ℚ → Fallible σ ApiError (ℤ × ℤ)
  delete : String → Fallible σ ApiError Unit

namespace LoginStore

def memory : LoginStore MemoryStore where
  add := MemoryStore.add
  delete := MemoryStore.delete

def redis (client : RedisClient) : LoginStore RedisServer where
  add := client.add
  delete := client.delete

section
variable {σ : Type}

def reserveLoginAttempt (store : LoginStore σ) (env : Env) (email clientIp : String) (now : ℚ) :
    Fallible σ ApiError Unit := do
  let account ← store.add (accountKey env email) 1 env.loginWindow now
  let ip ← store.add (ipKey clientIp) 1 env.loginWindow now
  let retries := blocked env.settings account ip
  if retries.isEmpty then return () else raise (tooMany retries)

def releaseLoginAttempt (store : LoginStore σ) (env : Env) (email clientIp : String) (now : ℚ) :
    Fallible σ ApiError Unit := do
  store.delete (accountKey env email)
  let _ ← store.add (ipKey clientIp) (-1) env.loginWindow now

def login (store : LoginStore σ) (env : Env) (members : Table Member) (body : LoginRequest)
    (now : ℚ) : Fallible σ ApiError Member := do
  store.reserveLoginAttempt env body.email body.clientIp now
  match authenticate env members body with
  | none => raise invalidLogin
  | some member =>
    store.releaseLoginAttempt env body.email body.clientIp now
    return member

end

theorem login_memory (env : Env) (members : Table Member) (body : LoginRequest) (now : ℚ) :
    memory.login env members body now = CloudMonitor.login env members body now := rfl

end LoginStore

-- ---------------------------------------------------------------------------
-- One call on one counter
-- ---------------------------------------------------------------------------

namespace RedisCounter

/-- The counter after an `add` that may fail. -/
def added (fails : Bool) (window now : ℚ) (amount : ℤ) (o : RedisCounter) : RedisCounter :=
  if fails then o else some (bump window now amount o)

def cleared (fails : Bool) (o : RedisCounter) : RedisCounter := if fails then o else none

/-- What an `add` of one answers. -/
def reserved (fails : Bool) (now : ℚ) (o : RedisCounter) : ℤ := if fails then 0 else count now o + 1

theorem bump_one_value (window now : ℚ) (o : RedisCounter) :
    (bump window now 1 o).value = count now o + 1 := by
  unfold bump begun count
  cases alive (now : WithTop ℚ) o <;> rfl

end RedisCounter

open RedisServer

section
variable {client : RedisClient} {s : RedisServer} {m : String → RedisCounter} {ttl : ℤ}

theorem add_call (hs : Shows client s m) (httl : 0 < ttl) (key : String) (amount : ℤ) (now : ℚ) :
    ∃ n r s', (client.add key amount ttl now).run s = (.ok (n, r), s') ∧
      n = (if client.fails s.calls then 0 else (RedisCounter.bump ttl now amount (m key)).value) ∧
      s'.calls = s.calls + 1 ∧
      Shows client s' (Function.update m key
        (RedisCounter.added (client.fails s.calls) ttl now amount (m key))) := by
  cases h : client.fails s.calls with
  | true =>
    refine ⟨0, 0, _, add_failed h key amount ttl now, rfl, rfl, ?_⟩
    simp only [RedisCounter.added, if_true, Function.update_eq_self]
    exact hs
  | false =>
    obtain ⟨r, s', hrun, hcalls, hs'⟩ := add_run hs h httl key amount now
    exact ⟨_, r, s', hrun, rfl, hcalls, hs'⟩

theorem delete_call (hs : Shows client s m) (key : String) :
    ∃ s', (client.delete key).run s = (.ok (), s') ∧ s'.calls = s.calls + 1 ∧
      Shows client s' (Function.update m key
        (RedisCounter.cleared (client.fails s.calls) (m key))) := by
  cases h : client.fails s.calls with
  | true =>
    refine ⟨_, failed_run _ _ h, rfl, ?_⟩
    simp only [RedisCounter.cleared, if_true, Function.update_eq_self]
    exact hs
  | false => exact delete_run hs h key

end

-- ---------------------------------------------------------------------------
-- A whole login
-- ---------------------------------------------------------------------------

section
variable (client : RedisClient) (env : Env) (body : LoginRequest) (now : ℚ)

/-- The counters after the two reservations, which are calls `n` and `n + 1`. -/
def reservedCounters (n : ℕ) (m : String → RedisCounter) : String → RedisCounter :=
  Function.update
    (Function.update m (body.account env)
      (RedisCounter.added (client.fails n) env.loginWindow now 1 (m (body.account env))))
    body.address
    (RedisCounter.added (client.fails (n + 1)) env.loginWindow now 1 (m body.address))

/-- The counters after the two calls of a release. -/
def releasedCounters (n : ℕ) (m : String → RedisCounter) : String → RedisCounter :=
  Function.update
    (Function.update m (body.account env)
      (RedisCounter.cleared (client.fails n) (m (body.account env))))
    body.address
    (RedisCounter.added (client.fails (n + 1)) env.loginWindow now (-1) (m body.address))

variable {client env body now} {n : ℕ} {m : String → RedisCounter} {key : String}

theorem reservedCounters_account : reservedCounters client env body now n m (body.account env) =
    RedisCounter.added (client.fails n) env.loginWindow now 1 (m (body.account env)) := by
  rw [reservedCounters, Function.update_of_ne (account_ne_address env body body),
    Function.update_self]

theorem reservedCounters_address : reservedCounters client env body now n m body.address =
    RedisCounter.added (client.fails (n + 1)) env.loginWindow now 1 (m body.address) := by
  rw [reservedCounters, Function.update_self]

theorem reservedCounters_other (ha : key ≠ body.account env) (hx : key ≠ body.address) :
    reservedCounters client env body now n m key = m key := by
  rw [reservedCounters, Function.update_of_ne hx, Function.update_of_ne ha]

theorem releasedCounters_account : releasedCounters client env body now n m (body.account env) =
    RedisCounter.cleared (client.fails n) (m (body.account env)) := by
  rw [releasedCounters, Function.update_of_ne (account_ne_address env body body),
    Function.update_self]

theorem releasedCounters_address : releasedCounters client env body now n m body.address =
    RedisCounter.added (client.fails (n + 1)) env.loginWindow now (-1) (m body.address) := by
  rw [releasedCounters, Function.update_self]

theorem releasedCounters_other (ha : key ≠ body.account env) (hx : key ≠ body.address) :
    releasedCounters client env body now n m key = m key := by
  rw [releasedCounters, Function.update_of_ne hx, Function.update_of_ne ha]

variable (client env body now)

def RedisAdmits (n : ℕ) (m : String → RedisCounter) : Prop :=
  Admits env.settings (RedisCounter.reserved (client.fails n) now (m (body.account env)))
    (RedisCounter.reserved (client.fails (n + 1)) now (m body.address))

inductive RedisOutcome (members : Table Member) (n : ℕ) (m : String → RedisCounter) :
    Except ApiError Member → (String → RedisCounter) → Prop
  | refused (retries : List ℤ) : ¬RedisAdmits client env body now n m →
    RedisOutcome members n m (.error (tooMany retries)) (reservedCounters client env body now n m)
  | failed : RedisAdmits client env body now n m → authenticate env members body = none →
    RedisOutcome members n m (.error invalidLogin) (reservedCounters client env body now n m)
  | passed (member : Member) : RedisAdmits client env body now n m →
    authenticate env members body = some member →
    RedisOutcome members n m (.ok member)
      (releasedCounters client env body now (n + 2) (reservedCounters client env body now n m))

end

section
variable {client : RedisClient} {env : Env} {s : RedisServer} {m : String → RedisCounter}

theorem reserve_outcome (hs : Shows client s m) (hw : 0 < env.loginWindow) (body : LoginRequest)
    (now : ℚ) :
    ∃ s', s'.calls = s.calls + 2 ∧
      Shows client s' (reservedCounters client env body now s.calls m) ∧
      ((RedisAdmits client env body now s.calls m ∧
          ((LoginStore.redis client).reserveLoginAttempt env body.email body.clientIp now).run s =
            (.ok (), s')) ∨
        (¬RedisAdmits client env body now s.calls m ∧ ∃ retries,
          ((LoginStore.redis client).reserveLoginAttempt env body.email body.clientIp now).run s =
            (.error (tooMany retries), s'))) := by
  obtain ⟨n₁, r₁, s₁, hrun₁, hn₁, hc₁, hs₁⟩ := add_call hs hw (body.account env) 1 now
  obtain ⟨n₂, r₂, s₂, hrun₂, hn₂, hc₂, hs₂⟩ := add_call hs₁ hw body.address 1 now
  rw [Function.update_of_ne (account_ne_address env body body).symm, hc₁] at hs₂ hn₂
  rw [RedisCounter.bump_one_value] at hn₁ hn₂
  have hadmits : RedisAdmits client env body now s.calls m ↔ Admits env.settings n₁ n₂ := by
    rw [hn₁, hn₂]
    exact Iff.rfl
  refine ⟨s₂, by omega, hs₂, ?_⟩
  rw [hadmits]
  have hrun : ((LoginStore.redis client).reserveLoginAttempt env body.email body.clientIp now).run
      s = (if (blocked env.settings (n₁, r₁) (n₂, r₂)).isEmpty then (.ok (), s₂)
        else (.error (tooMany (blocked env.settings (n₁, r₁) (n₂, r₂))), s₂)) := by
    simp only [LoginStore.reserveLoginAttempt, LoginStore.redis, run_bind, hrun₁, hrun₂]
    rw [run_ite]
    rfl
  rw [hrun]
  by_cases hb : blocked env.settings (n₁, r₁) (n₂, r₂) = []
  · exact .inl ⟨blocked_eq_nil.mp hb, by simp [hb]⟩
  · exact .inr ⟨fun h => hb (blocked_eq_nil.mpr h), _, by simp [hb]; rfl⟩

theorem release_outcome (hs : Shows client s m) (hw : 0 < env.loginWindow) (body : LoginRequest)
    (now : ℚ) :
    ∃ s', ((LoginStore.redis client).releaseLoginAttempt env body.email body.clientIp now).run s =
        (.ok (), s') ∧
      Shows client s' (releasedCounters client env body now s.calls m) := by
  obtain ⟨s₁, hrun₁, hc₁, hs₁⟩ := delete_call hs (body.account env)
  obtain ⟨n, r, s₂, hrun₂, -, -, hs₂⟩ := add_call hs₁ hw body.address (-1) now
  rw [Function.update_of_ne (account_ne_address env body body).symm, hc₁] at hs₂
  refine ⟨s₂, ?_, hs₂⟩
  simp only [LoginStore.releaseLoginAttempt, LoginStore.redis, run_bind, hrun₁, hrun₂, run_pure]

theorem login_outcome (hs : Shows client s m) (hw : 0 < env.loginWindow) (members : Table Member)
    (body : LoginRequest) (now : ℚ) :
    ∃ answer s' m', ((LoginStore.redis client).login env members body now).run s = (answer, s') ∧
      Shows client s' m' ∧ RedisOutcome client env body now members s.calls m answer m' := by
  obtain ⟨s₁, hc₁, hs₁, ⟨hadm, hrun⟩ | ⟨hadm, retries, hrun⟩⟩ := reserve_outcome hs hw body now
  · cases hm : authenticate env members body with
    | none =>
      exact ⟨_, s₁, _, by simp [LoginStore.login, hrun, hm], hs₁, .failed hadm hm⟩
    | some member =>
      obtain ⟨s₂, hrel, hs₂⟩ := release_outcome hs₁ hw body now
      rw [hc₁] at hs₂
      exact ⟨_, s₂, _, by simp [LoginStore.login, hrun, hm, hrel], hs₂, .passed member hadm hm⟩
  · exact ⟨_, s₁, _, by simp [LoginStore.login, hrun], hs₁, .refused retries hadm⟩

theorem delete_answers (client : RedisClient) (key : String) (s : RedisServer) :
    ∃ s', (client.delete key).run s = (.ok (), s') := by
  rw [RedisClient.delete, attempt_run]
  cases client.fails s.calls with
  | true => exact ⟨_, rfl⟩
  | false => exact ⟨_, rfl⟩

/-- The server refuses a window of no seconds, so no attempt is counted. -/
theorem login_unlimited (client : RedisClient) (hw : env.loginWindow ≤ 0) (members : Table Member)
    (body : LoginRequest) (now : ℚ) (s : RedisServer) :
    (∃ s', ((LoginStore.redis client).login env members body now).run s =
        (.error invalidLogin, s')) ∨
      ∃ member s', ((LoginStore.redis client).login env members body now).run s =
        (.ok member, s') := by
  obtain ⟨s₁, hrun₁⟩ := add_refused client hw (body.account env) 1 now s
  obtain ⟨s₂, hrun₂⟩ := add_refused client hw body.address 1 now s₁
  have hadmits : blocked env.settings (0, 0) (0, 0) = [] :=
    blocked_eq_nil.mpr ⟨Int.natCast_nonneg _, Int.natCast_nonneg _⟩
  have hreserve : ((LoginStore.redis client).reserveLoginAttempt env body.email body.clientIp
      now).run s = (.ok (), s₂) := by
    simp [LoginStore.reserveLoginAttempt, LoginStore.redis, hrun₁, hrun₂, hadmits]
  cases hm : authenticate env members body with
  | none => exact .inl ⟨s₂, by simp [LoginStore.login, hreserve, hm]⟩
  | some member =>
    obtain ⟨s₃, hrun₃⟩ := delete_answers client (body.account env) s₂
    obtain ⟨s₄, hrun₄⟩ := add_refused client hw body.address (-1) now s₃
    have hrelease : ((LoginStore.redis client).releaseLoginAttempt env body.email body.clientIp
        now).run s₂ = (.ok (), s₄) := by
      simp [LoginStore.releaseLoginAttempt, LoginStore.redis, hrun₃, hrun₄]
    exact .inr ⟨member, s₄, by simp [LoginStore.login, hreserve, hm, hrelease]⟩

end

end CloudMonitor

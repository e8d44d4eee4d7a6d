import CloudMonitor.Lib.Once
import Mathlib.Data.Rat.Defs

/-!
# What a process builds on first use

The store and the provider's client are both built by the first request that
needs them, behind a lock that is looked past once they are there. Requests
reach a cold process in any order: there is one store and one client, and a
construction that failed is the failure of the one call that tried it.
-/

namespace CloudMonitor

open Once

structure ProcessSettings where
  anthropicApiKey : String := ""
  redisUrl : String := ""
  redisKeyPrefix : String := "techvalley:"

def redisTimeoutSeconds : ℚ := 1 / 2

/-- `llm_service.TIMEOUT_SECONDS`. -/
def timeoutSeconds : ℚ := 30

def maxRetries : ℕ := 1

structure RedisOptions where
  url : String
  decodeResponses : Bool
  socketTimeout : ℚ
  socketConnectTimeout : ℚ

/-- Without a key the SDK looks for credentials itself. -/
structure AnthropicOptions where
  apiKey : Option String
  timeout : ℚ
  maxRetries : ℕ

/-- `str.strip` and the constructors of the two packages. A URL that redis-py
cannot read is refused; what credentials the SDK finds may change from one
attempt to the next. -/
structure ProcessEnv (ρ χ : Type) where
  settings : ProcessSettings
  strip : String → String
  fromUrl : RedisOptions → Option ρ
  anthropic : ℕ → AnthropicOptions → Option χ

inductive StoreObject (ρ : Type)
  | redis (client : ρ) (keyPrefix : String)
  | memory
  deriving DecidableEq

section
variable {ρ χ : Type} (env : ProcessEnv ρ χ)

def redisOptions : RedisOptions where
  url := env.strip env.settings.redisUrl
  decodeResponses := true
  socketTimeout := redisTimeoutSeconds
  socketConnectTimeout := redisTimeoutSeconds

/-- What `get_store` builds while it holds the lock. -/
def newStore : Option (StoreObject ρ) :=
  if env.strip env.settings.redisUrl ≠ "" then
    (env.fromUrl (redisOptions env)).map fun client => .redis client env.settings.redisKeyPrefix
  else
    some .memory

def anthropicOptions : AnthropicOptions where
  apiKey :=
    if env.strip env.settings.anthropicApiKey ≠ "" then
      some (env.strip env.settings.anthropicApiKey)
    else
      none
  timeout := timeoutSeconds
  maxRetries := maxRetries

/-- What `_get_client` builds while it holds the lock. -/
def newClient (attempt : ℕ) : Option χ := env.anthropic attempt (anthropicOptions env)

/-- An object is known by the attempt that made it. -/
def made {α : Type} (build : ℕ → Option α) (attempt : ℕ) : Option (ℕ × α) :=
  (build attempt).map fun a => (attempt, a)

def runGetStore {ι : Type} [DecidableEq ι] (events : List (OnceEvent ι)) :
    Once ι (ℕ × StoreObject ρ) :=
  play (step (made fun _ => newStore env)) start events

def runGetClient {ι : Type} [DecidableEq ι] (events : List (OnceEvent ι)) : Once ι (ℕ × χ) :=
  play (step (made (newClient env))) start events

variable {env} {ι : Type} [DecidableEq ι]

theorem failures_made {α : Type} (build : ℕ → Option α) (n : ℕ) :
    failures (made build) n = failures build n := by
  simp [failures, made]

/-- One store for every request, of the kind the settings ask for; a URL that
redis-py refuses is refused to every request, and none gets a store of the
other kind. -/
theorem getStore_once (env : ProcessEnv ρ χ) (events : List (OnceEvent ι)) :
    (∀ e ∈ (runGetStore env events).log,
      e.2 = (newStore env).elim .raised fun store => .returned (some (0, store))) ∧
    (newStore env ≠ none → (runGetStore env events).attempts ≤ 1) ∧
    (newStore env = none →
      raised (runGetStore env events).log = (runGetStore env events).attempts) ∧
    ((∀ i, ¬ Holds ((runGetStore env events).phase i)) →
      (runGetStore env events).holder = none) := by
  have h : Inv (made fun _ => newStore env) (runGetStore env events) := inv_play _ events
  generalize runGetStore env events = o at h ⊢
  have hraised := h.raised
  rw [failures_made] at hraised
  refine ⟨fun ⟨i, outcome⟩ he => ?_, fun hsome => ?_, fun hnone => ?_, h.free⟩
  · cases outcome with
    | returned found =>
      obtain ⟨_, rfl, _, k, hk, hmade, _⟩ := h.returned_built he
      obtain ⟨store, hnew, rfl⟩ := Option.map_eq_some_iff.mp hmade
      have hzero : k = 0 := by
        by_contra hpos
        have hfailed := h.single 0 (by omega)
        simp [made, hnew] at hfailed
      simp [hnew, hzero]
    | raised =>
      cases hnew : newStore env with
      | none => rfl
      | some store =>
        have hpos := raised_pos he
        simp [hraised, hnew, failures] at hpos
  · by_contra hlt
    have hfailed := h.single 0 (by omega)
    simp [made, hsome] at hfailed
  · rw [hraised]
    simp [failures, hnone]

/-- One client for every request that gets one. It is built by the first
attempt that can be, and each attempt before it raised in a request of its
own. -/
theorem getClient_once (env : ProcessEnv ρ χ) (events : List (OnceEvent ι)) :
    (∀ k, k + 1 < (runGetClient env events).attempts → newClient env k = none) ∧
    (∀ i found, (i, .returned found) ∈ (runGetClient env events).log → ∃ k client,
      (runGetClient env events).attempts = k + 1 ∧ newClient env k = some client ∧
        found = some (k, client)) ∧
    raised (runGetClient env events).log =
      failures (newClient env) (runGetClient env events).attempts ∧
    ((∀ i, ¬ Holds ((runGetClient env events).phase i)) →
      (runGetClient env events).holder = none) := by
  have h : Inv (made (newClient env)) (runGetClient env events) := inv_play _ events
  generalize runGetClient env events = o at h ⊢
  refine ⟨fun k hk => ?_, fun i found hi => ?_, h.raised.trans (failures_made _ _), h.free⟩
  · exact Option.map_eq_none_iff.mp (h.single k (by omega))
  · obtain ⟨_, rfl, _, k, hk, hmade, _⟩ := h.returned_built hi
    obtain ⟨client, hnew, rfl⟩ := Option.map_eq_some_iff.mp hmade
    exact ⟨k, client, hk, hnew, rfl⟩

end

end CloudMonitor

import CloudMonitor.Auth.Logout
import CloudMonitor.Services.Diagnosis
import Mathlib.Data.Set.Function

/-!
# The diagnosis cache is sound

Diagnoses of any instances, whatever has become of them and of their alerts,
among the other uses of the store. Every entry the cache has is an answer the
provider gave to the very request that would be sent now, not longer ago than
the time to live.
-/

namespace CloudMonitor

open Fallible MemoryStore

/-- A call of the provider, and when its reply came. -/
structure ProviderCall where
  instanceId : ℤ
  request : ProviderRequest
  reply : ProviderReply
  time : ℚ

/-- The provider gave this text when it was asked about this instance with
these alerts. -/
structure ProviderCall.Gave (env : DiagnosisEnv) (c : ProviderCall) (inst : Instance)
    (alerts : List Alert) (text : String) : Prop where
  instanceId : c.instanceId = inst.id
  request : c.request = providerRequest inst alerts
  text : llmDiagnosis env c.reply = some text

inductive DiagnosisEvent
  | wait (d : ℚ) (nonneg : 0 ≤ d)
  | login (body : LoginRequest)
  | request (credentials : Option String)
  | logout (credentials : Option String)
  | diagnose (inst : Instance) (alerts : List Alert) (reply : ProviderReply) (delay : ℚ)
      (nonneg : 0 ≤ delay)

/-- The state after some events: the store, the clock, and the calls of the
provider. -/
structure DiagnosisRun where
  store : MemoryStore
  now : ℚ
  calls : List ProviderCall

namespace DiagnosisRun

variable (login : Env) (members : Table Member) (tokens : TokenEnv) (env : DiagnosisEnv)

def start (now : ℚ) : DiagnosisRun := { store := .new now, now := now, calls := [] }

def use (σ : DiagnosisRun) (e : StoreUse) : DiagnosisRun where
  store := Process.use login members tokens σ.now e σ.store
  now := σ.now + e.duration
  calls := σ.calls

def diagnosed (σ : DiagnosisRun) (inst : Instance) (alerts : List Alert) (reply : ProviderReply)
    (delay : ℚ) : DiagnosisRun :=
  let store := ((diagnose env inst alerts reply delay σ.now).run σ.store).2
  if lookedUp env inst alerts σ.now σ.store = none then
    { store := store
      now := σ.now + delay
      calls := ⟨inst.id, providerRequest inst alerts, reply, σ.now + delay⟩ :: σ.calls }
  else
    { σ with store := store }

def step (σ : DiagnosisRun) : DiagnosisEvent → DiagnosisRun
  | .wait d hd => σ.use login members tokens (.wait d hd)
  | .login body => σ.use login members tokens (.login body)
  | .request credentials => σ.use login members tokens (.request credentials)
  | .logout credentials => σ.use login members tokens (.logout credentials)
  | .diagnose inst alerts reply delay _ => σ.diagnosed env inst alerts reply delay

/-- A text said to be from the model is an answer of the provider to this
request, in this call or less than the time to live ago. Any other text is the
one made by rules, and then nothing is stored. -/
def Sound (σ : DiagnosisRun) : DiagnosisEvent → Prop
  | .diagnose inst alerts reply delay _ =>
    ∃ text source s', (diagnose env inst alerts reply delay σ.now).run σ.store =
        (.ok (text, source), s') ∧
      ((source = "llm" ∧ text ≠ "" ∧
          (lookedUp env inst alerts σ.now σ.store = none ∧ llmDiagnosis env reply = some text ∨
            ∃ c ∈ σ.calls, c.Gave env inst alerts text ∧ c.time ≤ σ.now ∧
              σ.now < c.time + env.diagnosisCacheTtlSeconds)) ∨
        (source = "rule-based" ∧ text = ruleBasedDiagnosis env inst alerts ∧
          llmDiagnosis env reply = none ∧ Keeps σ.now σ.store s'))
  | _ => True

/-- Every diagnosis the store has is an answer the provider gave for that
instance less than the time to live ago. -/
def OnlyAnswers (σ : DiagnosisRun) : Prop :=
  ∀ instanceId digest e, σ.store.look σ.now (diagnosisKey instanceId digest) = some e →
    ∃ c ∈ σ.calls, c.instanceId = instanceId ∧ llmDiagnosis env c.reply = some e.value ∧
      c.time ≤ σ.now ∧ σ.now < c.time + env.diagnosisCacheTtlSeconds

-- ---------------------------------------------------------------------------
-- The invariant
-- ---------------------------------------------------------------------------

/-- The request an event would send. -/
def rendered : DiagnosisEvent → Option String
  | .diagnose inst alerts .. => some (renderedRequest inst alerts)
  | _ => none

structure Inv (asked : Set String) (σ : DiagnosisRun) : Prop where
  past : ∀ c ∈ σ.calls, c.time ≤ σ.now
  stored : ∀ instanceId digest e, σ.store.look σ.now (diagnosisKey instanceId digest) = some e →
    ∃ c ∈ σ.calls, ∃ inst alerts, renderedRequest inst alerts ∈ asked ∧ inst.id = instanceId ∧
      env.sha256Hex (renderedRequest inst alerts) = digest ∧ c.Gave env inst alerts e.value ∧
      e.expires = c.time + env.diagnosisCacheTtlSeconds

variable {login : Env} {members : Table Member} {tokens : TokenEnv} {env : DiagnosisEnv}
  {asked : Set String} {σ : DiagnosisRun} {now : ℚ} {s : MemoryStore} {c : ProviderCall}
  {inst : Instance} {alerts : List Alert} {reply : ProviderReply} {delay : ℚ}

theorem inv_start (now : ℚ) : Inv env asked (start now) where
  past _ hc := nomatch hc
  stored instanceId digest e he := by simp [start, look, new] at he

theorem Inv.moved (h : Inv env asked σ) (hle : σ.now ≤ now)
    (hmoved : ∀ instanceId digest, Unmoved σ.now (diagnosisKey instanceId digest) σ.store s) :
    Inv env asked { store := s, now := now, calls := σ.calls } where
  past c hc := (h.past c hc).trans hle
  stored instanceId digest e he := by
    refine h.stored instanceId digest e ?_
    simp only [hmoved instanceId digest now hle, ← alive_look hle] at he
    exact (alive_eq_some.mp he).1

theorem Inv.keeps (h : Inv env asked σ) (hle : σ.now ≤ now) (hk : Keeps σ.now σ.store s) :
    Inv env asked { store := s, now := now, calls := σ.calls } :=
  h.moved hle fun _ _ => Unmoved.of_keeps hk

theorem Inv.called (h : Inv env asked σ) (hc : c.time ≤ σ.now) :
    Inv env asked { σ with calls := c :: σ.calls } where
  past c' hc' := by
    rcases List.mem_cons.mp hc' with rfl | hc'
    · exact hc
    · exact h.past c' hc'
  stored instanceId digest e he := by
    obtain ⟨c', hc', hrest⟩ := h.stored instanceId digest e he
    exact ⟨c', List.mem_cons_of_mem c hc', hrest⟩

/-- An answer is stored when it comes, under the key of its request. -/
theorem Inv.stores (h : Inv env asked σ) (hasked : renderedRequest inst alerts ∈ asked)
    (hc : c ∈ σ.calls) {text : String} (hgave : c.Gave env inst alerts text)
    (hw : Writes σ.now (cacheKey env inst alerts)
      (some { value := text, expires := c.time + env.diagnosisCacheTtlSeconds }) σ.store s) :
    Inv env asked { σ with store := s } where
  past := h.past
  stored instanceId digest e he := by
    rcases eq_or_ne (diagnosisKey instanceId digest) (cacheKey env inst alerts) with hkey | hne
    · simp only [hkey, hw.same le_rfl] at he
      obtain rfl := Option.some.inj (alive_eq_some.mp he).1
      obtain ⟨hid, hdigest⟩ := diagnosisKey_inj hkey
      exact ⟨c, hc, inst, alerts, hasked, hid.symm, hdigest.symm, hgave, rfl⟩
    · simp only [hw.other le_rfl hne] at he
      exact h.stored instanceId digest e he

theorem Inv.diagnosed (h : Inv env asked σ) (hasked : renderedRequest inst alerts ∈ asked)
    (hdelay : 0 ≤ delay) : Inv env asked (σ.diagnosed env inst alerts reply delay) := by
  have hle : σ.now ≤ σ.now + delay := le_add_of_nonneg_right hdelay
  obtain ⟨o, s', hrun, hd⟩ := diagnose_run env inst alerts reply hdelay σ.now σ.store
  let call : ProviderCall := ⟨inst.id, providerRequest inst alerts, reply, σ.now + delay⟩
  cases hd with
  | reused hhit hk =>
    simp only [DiagnosisRun.diagnosed, hrun, hhit, reduceCtorEq, if_false]
    exact h.keeps le_rfl hk
  | fallback hmiss hr hk =>
    simp only [DiagnosisRun.diagnosed, hrun, hmiss, if_true]
    exact (h.keeps hle hk).called (c := call) le_rfl
  | @answered text _ hmiss hr hw =>
    simp only [DiagnosisRun.diagnosed, hrun, hmiss, if_true]
    have hcalled := (h.keeps hle Keeps.refl).called (c := call) le_rfl
    split at hw
    · exact hcalled.stores hasked List.mem_cons_self ⟨rfl, rfl, hr⟩ hw
    · exact hw ▸ hcalled

theorem Inv.use (h : Inv env asked σ) (e : StoreUse)
    (hmoved : ∀ instanceId digest, Unmoved σ.now (diagnosisKey instanceId digest) σ.store
      (Process.use login members tokens σ.now e σ.store)) :
    Inv env asked (σ.use login members tokens e) :=
  h.moved (le_add_of_nonneg_right e.duration_nonneg) hmoved

theorem Inv.step (h : Inv env asked σ) (e : DiagnosisEvent)
    (hasked : ∀ r, rendered e = some r → r ∈ asked) :
    Inv env asked (σ.step login members tokens env e) := by
  cases e with
  | wait d hd => exact h.use (.wait d hd) fun _ _ => Unmoved.refl _
  | login body =>
    exact h.use (.login body) fun i digest => unmoved_login body
      (accountKey_ne_diagnosisKey login body.email i digest)
      (ipKey_ne_diagnosisKey body.clientIp i digest) σ.store
  | request credentials =>
    exact h.use (.request credentials) fun _ _ =>
      Unmoved.of_keeps (getTokenClaims_keeps tokens σ.now credentials σ.store)
  | logout credentials =>
    exact h.use (.logout credentials) fun i digest => unmoved_logout_of_ne credentials
      (fun jti => (diagnosisKey_ne_revokedKey i digest jti).symm) σ.store
  | diagnose inst alerts reply delay hdelay => exact h.diagnosed (hasked _ rfl) hdelay

theorem Inv.onlyAnswers (h : Inv env asked σ) : OnlyAnswers env σ := by
  intro instanceId digest e he
  obtain ⟨c, hc, inst, alerts, -, hid, -, hgave, hexp⟩ := h.stored instanceId digest e he
  have hlive := (alive_eq_some.mp he).2
  exact ⟨c, hc, hgave.instanceId.trans hid, hgave.text, h.past c hc, hexp ▸ hlive⟩

theorem Inv.sound (h : Inv env asked σ) (hsha : Set.InjOn env.sha256Hex asked)
    (e : DiagnosisEvent) (hasked : ∀ r, rendered e = some r → r ∈ asked) : Sound env σ e := by
  cases e with
  | diagnose inst alerts reply delay hdelay =>
    obtain ⟨o, s', hrun, hd⟩ := diagnose_run env inst alerts reply hdelay σ.now σ.store
    cases hd with
    | answered hmiss hr hw =>
      exact ⟨_, _, s', hrun, .inl ⟨rfl, llmDiagnosis_ne_empty hr, .inl ⟨hmiss, hr⟩⟩⟩
    | fallback hmiss hr hk => exact ⟨_, _, s', hrun, .inr ⟨rfl, rfl, hr, hk⟩⟩
    | reused hhit hk =>
      rw [lookedUp] at hhit
      split at hhit
      · obtain ⟨entry, hentry, rfl⟩ := Option.map_eq_some_iff.mp hhit
        obtain ⟨c, hc, inst', alerts', hasked', hid, hdigest, hgave, hexp⟩ :=
          h.stored inst.id _ entry hentry
        -- one digest, so one request
        have huser := renderedRequest_inj (hsha hasked' (hasked _ rfl) hdigest)
        have hgave' : c.Gave env inst alerts entry.value := by
          refine ⟨hgave.instanceId.trans hid, hgave.request.trans ?_, hgave.text⟩
          simp only [providerRequest, huser]
        have hlive := (alive_eq_some.mp hentry).2
        exact ⟨_, _, s', hrun, .inl ⟨rfl, llmDiagnosis_ne_empty hgave.text,
          .inr ⟨c, hc, hgave', h.past c hc, hexp ▸ hlive⟩⟩⟩
      · simp at hhit
  | _ => trivial

/-- As long as no two of the requests have one digest, every diagnosis of any
run is sound and the store has answers of the provider only; without a time to
live it is not used. -/
theorem diagnosis_cache_sound (login : Env) (members : Table Member) (tokens : TokenEnv)
    (env : DiagnosisEnv) (now : ℚ) (events : List DiagnosisEvent)
    (hsha : Set.InjOn env.sha256Hex {r | ∃ e ∈ events, rendered e = some r}) :
    Along (step login members tokens env)
        (fun σ e => Sound env σ e ∧ OnlyAnswers env (σ.step login members tokens env e))
        (start now) events ∧
      (env.diagnosisCacheTtlSeconds = 0 → ∀ inst alerts reply delay now s,
        (diagnose env inst alerts reply delay now).run s =
          (.ok (match llmDiagnosis env reply with
            | some text => (text, "llm")
            | none => (ruleBasedDiagnosis env inst alerts, "rule-based")), s)) := by
  refine ⟨?_, diagnose_uncached env⟩
  let asked := {r | ∃ e ∈ events, rendered e = some r}
  have hasked : Along (step login members tokens env)
      (fun _ e => ∀ r, rendered e = some r → r ∈ asked) (start now) events :=
    along_of_forall (fun e he _ r hr => ⟨e, he, hr⟩) (start now)
  have hstep : ∀ σ e, Inv env asked σ → (∀ r, rendered e = some r → r ∈ asked) →
      (Sound env σ e ∧ OnlyAnswers env (σ.step login members tokens env e)) ∧
        Inv env asked (σ.step login members tokens env e) :=
    fun σ e hσ he => ⟨⟨hσ.sound hsha e he, (hσ.step e he).onlyAnswers⟩, hσ.step e he⟩
  exact Along.imp hstep (inv_start now) hasked

-- ---------------------------------------------------------------------------
-- One instance, with and without its alert
-- ---------------------------------------------------------------------------

def failedInstance : Instance where
  id := 5
  instanceName := "vina-batch-01"
  region := "ap-southeast-1"
  instanceType := .medium
  status := .error
  cpuUsage := 183 / 2
  monthlyCost := 120
  clientId := 1
  launchedAt := 0
  updatedAt := 3600000000

def failedAlert : Alert where
  id := 1
  instanceId := 5
  alertType := .errorDetected
  message := "[CRITICAL] Instance"
  isResolved := false
  detectedAt := 7200000000
  resolvedAt := none

/-- The digests of the two requests. -/
def failedEnv : DiagnosisEnv where
  sha256Hex r :=
    if r = renderedRequest failedInstance [] then
      "6b40a644ab1b4bdd102540d8cf43756e96ea23ac5ed1b3dc6144bcca5595184d"
    else
      "d16f93a18bec62f79658cb965cabfe3f3c13533c477db5b5b22c8040a2537aac"
  strip text := text

def answeredOnce : List DiagnosisEvent :=
  [.diagnose failedInstance [] (.message [⟨"text", "Disk full."⟩]) 2 (by decide),
    .diagnose failedInstance [failedAlert] .failed 0 le_rfl,
    .wait 100 (by decide),
    .diagnose failedInstance [] .failed 0 le_rfl]

theorem diagnosis_cache_sound_once :
    Along (step (.every 0) ∅ Process.oneToken failedEnv)
      (fun σ e => Sound failedEnv σ e ∧
        OnlyAnswers failedEnv (σ.step (.every 0) ∅ Process.oneToken failedEnv e))
      (start 0) answeredOnce := by
  refine (diagnosis_cache_sound (.every 0) ∅ Process.oneToken failedEnv 0 answeredOnce ?_).1
  have htwo : ∀ e ∈ answeredOnce, ∀ r, rendered e = some r →
      r = renderedRequest failedInstance [] ∨ r = renderedRequest failedInstance [failedAlert] := by
    intro e he r hr
    simp only [answeredOnce, List.mem_cons, List.not_mem_nil, or_false] at he
    rcases he with rfl | rfl | rfl | rfl
    · exact .inl (Option.some.inj hr).symm
    · exact .inr (Option.some.inj hr).symm
    · nomatch hr
    · exact .inl (Option.some.inj hr).symm
  rintro r ⟨e, he, hr⟩ r' ⟨e', he', hr'⟩ hdigest
  simp only [failedEnv] at hdigest
  rcases htwo e he r hr with rfl | rfl <;> rcases htwo e' he' r' hr' with rfl | rfl
  · rfl
  · split_ifs at hdigest with h <;> simp_all
  · split_ifs at hdigest with h <;> simp_all
  · rfl

end DiagnosisRun

end CloudMonitor

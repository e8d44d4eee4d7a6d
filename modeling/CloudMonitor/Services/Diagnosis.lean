import CloudMonitor.Auth.Revocation
import CloudMonitor.Services.Clients

/-!
# Diagnoses

An answer of the provider is reused while the request would be the same: the
key it is stored under hashes the whole request. Without an answer a text made
by rules is returned, and is not stored. The provider is asked between the
read and the write of the cache, and that takes time.
-/

namespace CloudMonitor

open Fallible MemoryStore

/-- SHA-256 in hexadecimal and `str.strip`, which this model does not look
into. -/
structure DiagnosisEnv where
  settings : Settings := {}
  diagnosisCacheTtlSeconds : ℕ := 1800
  sha256Hex : String → String
  strip : String → String

def diagnosisModel : String := "claude-opus-4-8"

def systemPrompt : String :=
  "You are a senior cloud infrastructure engineer at TechValley, an IT " ++
  "consulting firm monitoring cloud instances for client companies. " ++
  "Given an instance in ERROR state, produce a concise incident diagnosis " ++
  "in English with exactly three sections: " ++
  "\x27Probable Causes\x27 (2-4 bullet points, most likely first), " ++
  "\x27Recommended Actions\x27 (numbered, ordered steps), and " ++
  "\x27Prevention\x27 (1-2 bullets). Keep it under 250 words."

def AlertType.value : AlertType → String
  | .cpuHigh => "CPU_HIGH"
  | .errorDetected => "ERROR_DETECTED"
  | .longStopped => "LONG_STOPPED"

/-- `{t:%Y-%m-%d %H:%M}`. -/
def dateMinute (t : ℤ) : String :=
  let date := civilDate t
  let minutes := (t % dayMicros / (60 * secondMicros)).toNat
  toString date.year ++ "-" ++ zeroPadded 2 date.month.toNat ++ "-" ++
    zeroPadded 2 date.day.toNat ++ " " ++ zeroPadded 2 (minutes / 60) ++ ":" ++
    zeroPadded 2 (minutes % 60)

example : dateMinute 0 = "1970-01-01 00:00" := by decide +kernel

def alertLine (a : Alert) : String :=
  "- [" ++ a.alertType.value ++ "] " ++ dateMinute a.detectedAt ++ " (" ++
    (if a.isResolved then "resolved" else "UNRESOLVED") ++ "): " ++ a.message

def buildContext (inst : Instance) (alerts : List Alert) : String :=
  let alertLines := "\n".intercalate (alerts.map alertLine)
  "Instance name: " ++ inst.instanceName ++ "\n" ++
  "Region: " ++ inst.region ++ "\n" ++
  "Type: " ++ inst.instanceType.value ++ "\n" ++
  "Status: " ++ inst.status.value ++ "\n" ++
  "CPU usage: " ++ fixed 1 inst.cpuUsage ++ "%\n" ++
  "Monthly cost: $" ++ fixed 2 inst.monthlyCost ++ "\n" ++
  "Launched at: " ++ dateMinute inst.launchedAt ++ "\n" ++
  "Last status update: " ++ dateMinute inst.updatedAt ++ "\n" ++
  "Recent alerts:\n" ++ if alertLines = "" then "- (no alerts on record)" else alertLines

def userMessage (inst : Instance) (alerts : List Alert) : String :=
  "Diagnose this cloud instance that is in ERROR state:\n\n" ++ buildContext inst alerts

/-- `"\x00".join((MODEL, SYSTEM_PROMPT, user message))`. -/
def renderedRequest (inst : Instance) (alerts : List Alert) : String :=
  "\x00".intercalate [diagnosisModel, systemPrompt, userMessage inst alerts]

def cacheKey (env : DiagnosisEnv) (inst : Instance) (alerts : List Alert) : String :=
  diagnosisKey inst.id (env.sha256Hex (renderedRequest inst alerts))

-- ---------------------------------------------------------------------------
-- The provider
-- ---------------------------------------------------------------------------

/-- What the provider is asked; the other arguments are constants. -/
structure ProviderRequest where
  model : String
  system : String
  user : String
  deriving DecidableEq

structure ContentBlock where
  type : String
  text : String
  deriving DecidableEq

/-- A message, or any failure on the way to one: no key, no network, a
timeout. -/
inductive ProviderReply
  | message (content : List ContentBlock)
  | failed
  deriving DecidableEq

def providerRequest (inst : Instance) (alerts : List Alert) : ProviderRequest where
  model := diagnosisModel
  system := systemPrompt
  user := userMessage inst alerts

/-- What `_llm_diagnosis` makes of the provider's reply. -/
def llmDiagnosis (env : DiagnosisEnv) : ProviderReply → Option String
  | .failed => none
  | .message content =>
    let text := env.strip (String.join ((content.filter (·.type == "text")).map ContentBlock.text))
    if text = "" then none else some text

def ruleBasedDiagnosis (env : DiagnosisEnv) (inst : Instance) (alerts : List Alert) : String :=
  let unresolved := alerts.filter (fun a => !a.isResolved)
  let causes :=
    (if env.settings.cpuWarningThreshold ≤ inst.cpuUsage then
      ["- Resource exhaustion: CPU was at " ++ fixed 1 inst.cpuUsage ++ "% before failure; " ++
        "the workload likely exceeded the instance capacity."] else []) ++
    (if alerts.any (fun a => a.alertType.value == "CPU_HIGH") then
      ["- Repeated CPU_HIGH alerts suggest sustained overload leading to a crash."] else []) ++
    ["- Application-level fault (unhandled exception, OOM kill, or failed deployment).",
      "- Possible infrastructure/zone issue in region \x27" ++ inst.region ++ "\x27."]
  "Probable Causes\n" ++ "\n".intercalate causes ++ "\n\nRecommended Actions\n" ++
  "1. Check system and application logs for the failure timestamp " ++
  "(last status change " ++ dateMinute inst.updatedAt ++ ").\n" ++
  "2. Attempt a controlled restart of the instance and monitor boot diagnostics.\n" ++
  "3. If overload-related, resize the instance " ++
  "(currently " ++ inst.instanceType.value ++ ") or add horizontal capacity.\n" ++
  "4. Verify recent deployments/config changes and roll back if correlated.\n" ++
  "5. Resolve the " ++ toString unresolved.length ++
  " unresolved alert(s) after confirming recovery.\n\n" ++
  "Prevention\n" ++
  "- Configure auto-restart/health checks and capacity alerts below the 80% CPU threshold.\n" ++
  "- Review sizing against workload trends during the monthly cost review."

-- ---------------------------------------------------------------------------
-- The diagnosis
-- ---------------------------------------------------------------------------

def cached (key : Option String) (now : ℚ) : Op (Option String) :=
  match key with
  | none => return none
  | some key => get key now

def store (env : DiagnosisEnv) (key : Option String) (text : String) (now : ℚ) : Op Unit :=
  match key with
  | none => return ()
  | some key => set key text env.diagnosisCacheTtlSeconds now

/-- The text and its source. The provider, if it is asked, answers `reply`
after `delay`. -/
def diagnose (env : DiagnosisEnv) (inst : Instance) (alerts : List Alert) (reply : ProviderReply)
    (delay now : ℚ) : Op (String × String) := do
  let key := if 0 < env.diagnosisCacheTtlSeconds then some (cacheKey env inst alerts) else none
  match ← cached key now with
  | some text => return (text, "llm")
  | none =>
    match llmDiagnosis env reply with
    | some text =>
      store env key text (now + delay)
      return (text, "llm")
    | none => return (ruleBasedDiagnosis env inst alerts, "rule-based")

-- ---------------------------------------------------------------------------
-- Two requests with one key
-- ---------------------------------------------------------------------------

theorem diagnosisKey_inj {i i' : ℤ} {digest digest' : String}
    (h : diagnosisKey i digest = diagnosisKey i' digest') : i = i' ∧ digest = digest' := by
  have hcolon : ∀ n : ℤ, ':' ∉ n.repr.toList := by
    intro n hm
    rcases mem_repr hm with hc | hc <;> simp at hc
  have hlist := congrArg String.toList h
  simp only [diagnosisKey, String.toList_append, List.append_assoc, List.append_cancel_left_eq,
    Int.toString_eq_repr] at hlist
  obtain ⟨hi, hdigest⟩ := cut_unique (hcolon i) (hcolon i') hlist
  have hrepr : i.repr = i'.repr := String.toList_inj.mp hi
  exact ⟨Option.some.inj ((readInt?_repr i).symm.trans ((congrArg readInt? hrepr).trans
    (readInt?_repr i'))), String.toList_inj.mp hdigest⟩

theorem renderedRequest_inj {inst inst' : Instance} {alerts alerts' : List Alert}
    (h : renderedRequest inst alerts = renderedRequest inst' alerts') :
    userMessage inst alerts = userMessage inst' alerts' := by
  have hsplit : ∀ i a, renderedRequest i a =
      diagnosisModel ++ "\x00" ++ systemPrompt ++ "\x00" ++ userMessage i a := fun _ _ => rfl
  rw [hsplit, hsplit] at h
  exact (String.append_right_inj _).mp h

-- ---------------------------------------------------------------------------
-- What a diagnosis returns and stores
-- ---------------------------------------------------------------------------

/-- What the cache has for this request. -/
def lookedUp (env : DiagnosisEnv) (inst : Instance) (alerts : List Alert) (now : ℚ)
    (s : MemoryStore) : Option String :=
  if 0 < env.diagnosisCacheTtlSeconds then
    (s.look now (cacheKey env inst alerts)).map Entry.value
  else none

inductive Diagnosed (env : DiagnosisEnv) (inst : Instance) (alerts : List Alert)
    (reply : ProviderReply) (delay now : ℚ) (s : MemoryStore) :
    String × String → MemoryStore → Prop
  | reused {text : String} {s' : MemoryStore} :
    lookedUp env inst alerts now s = some text → Keeps now s s' →
    Diagnosed env inst alerts reply delay now s (text, "llm") s'
  | answered {text : String} {s' : MemoryStore} :
    lookedUp env inst alerts now s = none → llmDiagnosis env reply = some text →
    (if 0 < env.diagnosisCacheTtlSeconds then
      Writes (now + delay) (cacheKey env inst alerts)
        (some { value := text, expires := now + delay + env.diagnosisCacheTtlSeconds }) s s'
    else s' = s) →
    Diagnosed env inst alerts reply delay now s (text, "llm") s'
  | fallback {s' : MemoryStore} :
    lookedUp env inst alerts now s = none → llmDiagnosis env reply = none → Keeps now s s' →
    Diagnosed env inst alerts reply delay now s (ruleBasedDiagnosis env inst alerts, "rule-based") s'

theorem diagnose_run (env : DiagnosisEnv) (inst : Instance) (alerts : List Alert)
    (reply : ProviderReply) {delay : ℚ} (hdelay : 0 ≤ delay) (now : ℚ) (s : MemoryStore) :
    ∃ o s', (diagnose env inst alerts reply delay now).run s = (.ok o, s') ∧
      Diagnosed env inst alerts reply delay now s o s' := by
  by_cases hpos : 0 < env.diagnosisCacheTtlSeconds
  · obtain ⟨s₁, hget, hk⟩ := get_run (cacheKey env inst alerts) now s
    have hlater : Keeps (now + delay) s s₁ :=
      fun t ht k => hk t ((le_add_of_nonneg_right hdelay).trans ht) k
    cases hl : (s.look now (cacheKey env inst alerts)).map Entry.value with
    | some text =>
      refine ⟨_, s₁, ?_, .reused (by rw [lookedUp, if_pos hpos, hl]) hk⟩
      simp only [diagnose, if_pos hpos, cached, run_bind, hget, hl, run_pure]
    | none =>
      have hmiss : lookedUp env inst alerts now s = none := by rw [lookedUp, if_pos hpos, hl]
      cases hr : llmDiagnosis env reply with
      | some text =>
        obtain ⟨s', hset, hw⟩ := set_run (cacheKey env inst alerts) text
          env.diagnosisCacheTtlSeconds (now + delay) s₁
        refine ⟨_, s', ?_, .answered hmiss hr ?_⟩
        · simp only [diagnose, if_pos hpos, cached, store, run_bind, hget, hl, hr, hset, run_pure]
        · rw [if_pos hpos]
          exact hlater.writes hw
      | none =>
        refine ⟨_, s₁, ?_, .fallback hmiss hr hk⟩
        simp only [diagnose, if_pos hpos, cached, run_bind, hget, hl, hr, run_pure]
  · have hmiss : lookedUp env inst alerts now s = none := by rw [lookedUp, if_neg hpos]
    cases hr : llmDiagnosis env reply with
    | some text =>
      refine ⟨_, s, ?_, .answered hmiss hr (by rw [if_neg hpos])⟩
      simp only [diagnose, if_neg hpos, cached, store, run_bind, hr, run_pure]
    | none =>
      refine ⟨_, s, ?_, .fallback hmiss hr Keeps.refl⟩
      simp only [diagnose, if_neg hpos, cached, run_bind, hr, run_pure]

/-- Without a time to live the store is neither read nor written. -/
theorem diagnose_uncached (env : DiagnosisEnv) (hzero : env.diagnosisCacheTtlSeconds = 0)
    (inst : Instance) (alerts : List Alert) (reply : ProviderReply) (delay now : ℚ)
    (s : MemoryStore) :
    (diagnose env inst alerts reply delay now).run s =
      (.ok (match llmDiagnosis env reply with
        | some text => (text, "llm")
        | none => (ruleBasedDiagnosis env inst alerts, "rule-based")), s) := by
  have hpos : ¬0 < env.diagnosisCacheTtlSeconds := by omega
  cases hr : llmDiagnosis env reply <;>
    simp only [diagnose, if_neg hpos, cached, store, run_bind, hr, run_pure]

theorem llmDiagnosis_ne_empty {env : DiagnosisEnv} {reply : ProviderReply} {text : String}
    (h : llmDiagnosis env reply = some text) : text ≠ "" := by
  cases reply with
  | failed => simp [llmDiagnosis] at h
  | message content =>
    simp only [llmDiagnosis] at h
    split at h
    · simp at h
    · next hne => exact Option.some.inj h ▸ hne

end CloudMonitor

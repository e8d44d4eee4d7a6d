import CloudMonitor.Auth.Logout
import CloudMonitor.Lib.TtlMap
import CloudMonitor.Services.DiagnosisCache
import Mathlib.Data.List.Find
import Mathlib.Data.Set.Function

/-!
# Diagnoses in flight

A diagnosis looks into the cache, waits for the provider and stores the text
it gets, at three instants. Any number of them are under way at once, among
the other uses of the store. What each is answered, and whether the provider
is asked, depends on the texts stored so far and on nothing else.
-/

namespace CloudMonitor

open Fallible MemoryStore

/-- How far a call of `diagnose` is. -/
inductive DiagnosisPhase
  | idle
  | asking (inst : Instance) (alerts : List Alert)
  | answered (inst : Instance) (alerts : List Alert) (text : String)

inductive FlightEvent
  | wait (d : ℚ) (nonneg : 0 ≤ d)
  | login (body : LoginRequest)
  | request (credentials : Option String)
  | logout (credentials : Option String)
  | ask (i : ℕ) (inst : Instance) (alerts : List Alert)
  | receive (i : ℕ) (reply : ProviderReply)
  | finish (i : ℕ)

/-- A text, the request it answers, and when it was stored. -/
structure StoredText where
  inst : Instance
  alerts : List Alert
  text : String
  time : ℚ

/-- `given` and `stored` are the past, the last first; no step reads them. -/
structure InFlight where
  store : MemoryStore
  now : ℚ
  phase : ℕ → DiagnosisPhase
  given : List (ProviderRequest × ProviderReply)
  stored : List StoredText

/-- The same instance, and the same words to the provider. -/
def StoredText.Answers (a : StoredText) (inst : Instance) (alerts : List Alert) : Prop :=
  a.inst.id = inst.id ∧ renderedRequest a.inst a.alerts = renderedRequest inst alerts

instance (a : StoredText) (inst : Instance) (alerts : List Alert) :
    Decidable (a.Answers inst alerts) := inferInstanceAs (Decidable (_ ∧ _))

def StoredText.entry (env : DiagnosisEnv) (a : StoredText) : Entry String ℚ where
  value := a.text
  expires := a.time + env.diagnosisCacheTtlSeconds

def requestKey (env : DiagnosisEnv) (inst : Instance) (alerts : List Alert) : Option String :=
  if 0 < env.diagnosisCacheTtlSeconds then some (cacheKey env inst alerts) else none

namespace InFlight

def start (now : ℚ) : InFlight where
  store := .new now
  now := now
  phase _ := .idle
  given := []
  stored := []

section
variable (login : Env) (members : Table Member) (tokens : TokenEnv) (env : DiagnosisEnv)

def use (σ : InFlight) (e : StoreUse) : InFlight :=
  { σ with store := Process.use login members tokens σ.now e σ.store, now := σ.now + e.duration }

def goto (σ : InFlight) (i : ℕ) (phase : DiagnosisPhase) : InFlight :=
  { σ with phase := Function.update σ.phase i phase }

/-- The call up to the provider. -/
def ask (σ : InFlight) (i : ℕ) (inst : Instance) (alerts : List Alert) :
    Option (String × String) × InFlight :=
  let r := (cached (requestKey env inst alerts) σ.now).run σ.store
  match r.1 with
  | .error _ => (none, { σ with store := r.2 })
  | .ok (some text) => (some (text, "llm"), { σ with store := r.2 })
  | .ok none => (none, { σ.goto i (.asking inst alerts) with store := r.2 })

/-- `_llm_diagnosis` returns. -/
def receive (σ : InFlight) (i : ℕ) (inst : Instance) (alerts : List Alert) (reply : ProviderReply) :
    Option (String × String) × InFlight :=
  let given := (providerRequest inst alerts, reply) :: σ.given
  match llmDiagnosis env reply with
  | some text => (none, { σ.goto i (.answered inst alerts text) with given := given })
  | none =>
    (some (ruleBasedDiagnosis env inst alerts, "rule-based"),
      { σ.goto i .idle with given := given })

/-- The text is stored and returned. -/
def finish (σ : InFlight) (i : ℕ) (inst : Instance) (alerts : List Alert) (text : String) :
    Option (String × String) × InFlight :=
  (some (text, "llm"),
    { σ.goto i .idle with
      store := ((CloudMonitor.store env (requestKey env inst alerts) text σ.now).run σ.store).2
      stored :=
        if 0 < env.diagnosisCacheTtlSeconds then ⟨inst, alerts, text, σ.now⟩ :: σ.stored
        else σ.stored })

def step (σ : InFlight) : FlightEvent → Option (String × String) × InFlight
  | .wait d hd => (none, σ.use login members tokens (.wait d hd))
  | .login body => (none, σ.use login members tokens (.login body))
  | .request credentials => (none, σ.use login members tokens (.request credentials))
  | .logout credentials => (none, σ.use login members tokens (.logout credentials))
  | .ask i inst alerts =>
    match σ.phase i with
    | .idle => σ.ask env i inst alerts
    | _ => (none, σ)
  | .receive i reply =>
    match σ.phase i with
    | .asking inst alerts => σ.receive env i inst alerts reply
    | _ => (none, σ)
  | .finish i =>
    match σ.phase i with
    | .answered inst alerts text => σ.finish env i inst alerts text
    | _ => (none, σ)

end

-- ---------------------------------------------------------------------------
-- What should be answered
-- ---------------------------------------------------------------------------

section
variable (env : DiagnosisEnv)

/-- The last text stored for this request. -/
def latest (σ : InFlight) (inst : Instance) (alerts : List Alert) : Option StoredText :=
  σ.stored.find? fun a => a.Answers inst alerts

/-- The provider said this when it was asked this. -/
def Gave (σ : InFlight) (inst : Instance) (alerts : List Alert) (text : String) : Prop :=
  ∃ reply, (providerRequest inst alerts, reply) ∈ σ.given ∧ llmDiagnosis env reply = some text

end

-- ---------------------------------------------------------------------------
-- The cache is the texts stored
-- ---------------------------------------------------------------------------

/-- The last text stored under a key. -/
def underKey (env : DiagnosisEnv) (σ : InFlight) (instanceId : ℤ) (digest : String) :
    Option StoredText :=
  σ.stored.find? fun a =>
    a.inst.id = instanceId ∧ env.sha256Hex (renderedRequest a.inst a.alerts) = digest

def Mirrors (env : DiagnosisEnv) (σ : InFlight) : Prop :=
  ∀ instanceId digest t, σ.now ≤ t → σ.store.look t (diagnosisKey instanceId digest) =
    alive t ((σ.underKey env instanceId digest).map (StoredText.entry env))

structure Inv (env : DiagnosisEnv) (asked : Set String) (σ : InFlight) : Prop where
  mirrors : Mirrors env σ
  off : ¬ 0 < env.diagnosisCacheTtlSeconds → σ.stored = []
  sorted : σ.stored.Pairwise fun a b => b.time ≤ a.time
  stored : ∀ a ∈ σ.stored, renderedRequest a.inst a.alerts ∈ asked ∧
    Gave env σ a.inst a.alerts a.text ∧ a.time ≤ σ.now
  asking : ∀ i inst alerts, σ.phase i = .asking inst alerts → renderedRequest inst alerts ∈ asked
  answered : ∀ i inst alerts text, σ.phase i = .answered inst alerts text →
    renderedRequest inst alerts ∈ asked ∧ Gave env σ inst alerts text

section
variable {login : Env} {members : Table Member} {tokens : TokenEnv} {env : DiagnosisEnv}
  {asked : Set String} {σ : InFlight} {i : ℕ} {inst : Instance} {alerts : List Alert}
  {s : MemoryStore} {now : ℚ}

theorem inv_start (now : ℚ) : Inv env asked (start now) where
  mirrors _ _ _ _ := rfl
  off _ := rfl
  sorted := .nil
  stored _ ha := nomatch ha
  asking _ _ _ h := nomatch h
  answered _ _ _ _ h := nomatch h

theorem Mirrors.moved (h : Mirrors env σ) {σ' : InFlight} (hnow : σ.now ≤ σ'.now)
    (hstored : σ'.stored = σ.stored)
    (hmoved : ∀ instanceId digest,
      Unmoved σ.now (diagnosisKey instanceId digest) σ.store σ'.store) : Mirrors env σ' := by
  intro instanceId digest t ht
  rw [hmoved instanceId digest t (hnow.trans ht), underKey, hstored]
  exact h instanceId digest t (hnow.trans ht)

theorem Inv.use (h : Inv env asked σ) (e : StoreUse)
    (hmoved : ∀ instanceId digest, Unmoved σ.now (diagnosisKey instanceId digest) σ.store
      (Process.use login members tokens σ.now e σ.store)) :
    Inv env asked (σ.use login members tokens e) where
  mirrors := h.mirrors.moved (le_add_of_nonneg_right e.duration_nonneg) rfl hmoved
  off := h.off
  sorted := h.sorted
  stored a ha := by
    obtain ⟨hasked, hgave, hle⟩ := h.stored a ha
    exact ⟨hasked, hgave, hle.trans (le_add_of_nonneg_right e.duration_nonneg)⟩
  asking := h.asking
  answered := h.answered

/-- A call gets a new phase, and the store forgets nothing. -/
theorem Inv.goto (h : Inv env asked σ) {p : DiagnosisPhase} (hk : Keeps σ.now σ.store s)
    (hasking : ∀ inst alerts, p = .asking inst alerts → renderedRequest inst alerts ∈ asked)
    (hanswered : ∀ inst alerts text, p = .answered inst alerts text →
      renderedRequest inst alerts ∈ asked ∧ Gave env σ inst alerts text) :
    Inv env asked { σ.goto i p with store := s } where
  mirrors := h.mirrors.moved le_rfl rfl fun _ _ => .of_keeps hk
  off := h.off
  sorted := h.sorted
  stored := h.stored
  asking j inst alerts hj := by
    rcases eq_or_ne j i with rfl | hne
    · exact hasking inst alerts (by simpa [InFlight.goto] using hj)
    · exact h.asking j inst alerts (by simpa [InFlight.goto, hne] using hj)
  answered j inst alerts text hj := by
    rcases eq_or_ne j i with rfl | hne
    · exact hanswered inst alerts text (by simpa [InFlight.goto] using hj)
    · exact h.answered j inst alerts text (by simpa [InFlight.goto, hne] using hj)

theorem Gave.given {σ' : InFlight} {text : String} (h : Gave env σ inst alerts text)
    (hgiven : σ.given ⊆ σ'.given) : Gave env σ' inst alerts text := by
  obtain ⟨reply, hr, htext⟩ := h
  exact ⟨reply, hgiven hr, htext⟩

/-- The provider replies. -/
theorem Inv.given (h : Inv env asked σ) (r : ProviderRequest × ProviderReply) :
    Inv env asked { σ with given := r :: σ.given } where
  mirrors := h.mirrors
  off := h.off
  sorted := h.sorted
  stored a ha := by
    obtain ⟨hasked, hgave, hle⟩ := h.stored a ha
    exact ⟨hasked, hgave.given (List.subset_cons_self _ _), hle⟩
  asking := h.asking
  answered j inst alerts text hj := by
    obtain ⟨hasked, hgave⟩ := h.answered j inst alerts text hj
    exact ⟨hasked, hgave.given (List.subset_cons_self _ _)⟩

/-- A text is stored under the key of its request. -/
theorem Mirrors.stores (h : Mirrors env σ) (a : StoredText)
    (hw : Writes σ.now (cacheKey env a.inst a.alerts) (some (a.entry env)) σ.store s) :
    Mirrors env { σ with store := s, stored := a :: σ.stored } := by
  intro instanceId digest t ht
  simp only [underKey, List.find?_cons]
  by_cases hkey : a.inst.id = instanceId ∧
      env.sha256Hex (renderedRequest a.inst a.alerts) = digest
  · obtain ⟨rfl, rfl⟩ := hkey
    simp only [and_self, decide_true, Option.map_some]
    exact hw.same ht
  · have hne : diagnosisKey instanceId digest ≠ cacheKey env a.inst a.alerts := by
      intro he
      obtain ⟨hid, hdigest⟩ := diagnosisKey_inj he
      exact hkey ⟨hid.symm, hdigest.symm⟩
    simp only [hkey, decide_false]
    rw [hw.other ht hne]
    exact h instanceId digest t ht

theorem Inv.finish (h : Inv env asked σ) {text : String}
    (hasked : renderedRequest inst alerts ∈ asked) (hgave : Gave env σ inst alerts text) :
    Inv env asked (σ.finish env i inst alerts text).2 := by
  by_cases hpos : 0 < env.diagnosisCacheTtlSeconds
  · obtain ⟨s', hrun, hw⟩ := set_run (cacheKey env inst alerts) text
      env.diagnosisCacheTtlSeconds σ.now σ.store
    let a : StoredText := ⟨inst, alerts, text, σ.now⟩
    have hstored : Inv env asked { σ with store := s', stored := a :: σ.stored } :=
      { mirrors := h.mirrors.stores a hw
        off := fun hn => absurd hpos hn
        sorted := List.pairwise_cons.mpr ⟨fun b hb => (h.stored b hb).2.2, h.sorted⟩
        stored := List.forall_mem_cons.mpr ⟨⟨hasked, hgave, le_rfl⟩, h.stored⟩
        asking := h.asking
        answered := h.answered }
    have hidle := hstored.goto (i := i) (p := .idle) Keeps.refl
      (fun _ _ he => nomatch he) fun _ _ _ he => nomatch he
    simp only [InFlight.finish, requestKey, CloudMonitor.store, if_pos hpos, hrun]
    exact hidle
  · have hidle := h.goto (i := i) (p := .idle) Keeps.refl
      (fun _ _ he => nomatch he) fun _ _ _ he => nomatch he
    simp only [InFlight.finish, requestKey, CloudMonitor.store, if_neg hpos]
    exact hidle

theorem cached_run (env : DiagnosisEnv) (inst : Instance) (alerts : List Alert) (now : ℚ)
    (s : MemoryStore) :
    ∃ s', (cached (requestKey env inst alerts) now).run s =
      (.ok (lookedUp env inst alerts now s), s') ∧ Keeps now s s' := by
  by_cases hpos : 0 < env.diagnosisCacheTtlSeconds
  · obtain ⟨s', hrun, hk⟩ := get_run (cacheKey env inst alerts) now s
    exact ⟨s', by simpa [requestKey, cached, lookedUp, hpos] using hrun, hk⟩
  · exact ⟨s, by simp [requestKey, cached, lookedUp, hpos], Keeps.refl⟩

theorem Inv.ask (h : Inv env asked σ) (hasked : renderedRequest inst alerts ∈ asked) :
    Inv env asked (σ.ask env i inst alerts).2 := by
  obtain ⟨s', hrun, hk⟩ := cached_run env inst alerts σ.now σ.store
  simp only [InFlight.ask, hrun]
  cases lookedUp env inst alerts σ.now σ.store with
  | some text =>
    exact { h with mirrors := h.mirrors.moved le_rfl rfl fun _ _ => .of_keeps hk }
  | none =>
    refine h.goto hk ?_ fun _ _ _ he => nomatch he
    rintro _ _ ⟨⟩
    exact hasked

theorem Inv.receive (h : Inv env asked σ) (hasked : renderedRequest inst alerts ∈ asked)
    (reply : ProviderReply) : Inv env asked (σ.receive env i inst alerts reply).2 := by
  have hgiven := h.given (providerRequest inst alerts, reply)
  simp only [InFlight.receive]
  cases hr : llmDiagnosis env reply with
  | none => exact hgiven.goto Keeps.refl (fun _ _ he => nomatch he) fun _ _ _ he => nomatch he
  | some text =>
    refine hgiven.goto Keeps.refl (fun _ _ he => nomatch he) ?_
    rintro _ _ _ ⟨⟩
    exact ⟨hasked, reply, List.mem_cons_self, hr⟩

/-- The request an event would send. -/
def rendered : FlightEvent → Option String
  | .ask _ inst alerts => some (renderedRequest inst alerts)
  | _ => none

theorem Inv.step (h : Inv env asked σ) (e : FlightEvent)
    (hasked : ∀ r, rendered e = some r → r ∈ asked) :
    Inv env asked (σ.step login members tokens env e).2 := by
  cases e with
  | wait d hd => exact h.use (.wait d hd) fun _ _ => Unmoved.refl _
  | login body =>
    exact h.use (.login body) fun i digest => unmoved_login body
      (accountKey_ne_diagnosisKey login body.email i digest)
      (ipKey_ne_diagnosisKey body.clientIp i digest) σ.store
  | request credentials =>
    exact h.use (.request credentials) fun _ _ =>
      Unmoved.of_keeps (getTokenClaims_keeps tokens σ.now credentials σ.store)
  | logout credentials =>
    exact h.use (.logout credentials) fun i digest => unmoved_logout_of_ne credentials
      (fun jti => (diagnosisKey_ne_revokedKey i digest jti).symm) σ.store
  | ask i inst alerts =>
    simp only [InFlight.step]
    split
    · exact h.ask (hasked _ rfl)
    · exact h
  | receive i reply =>
    simp only [InFlight.step]
    split
    · next inst alerts hi => exact h.receive (h.asking i inst alerts hi) reply
    · exact h
  | finish i =>
    simp only [InFlight.step]
    split
    · next inst alerts text hi =>
      obtain ⟨hask, hgave⟩ := h.answered i inst alerts text hi
      exact h.finish hask hgave
    · exact h

theorem Inv.underKey_eq (h : Inv env asked σ) (hsha : Set.InjOn env.sha256Hex asked)
    (hasked : renderedRequest inst alerts ∈ asked) :
    σ.underKey env inst.id (env.sha256Hex (renderedRequest inst alerts)) =
      σ.latest inst alerts := by
  refine List.find?_congr fun a ha => decide_eq_decide.mpr (and_congr_right fun _ => ?_)
  exact hsha.eq_iff (h.stored a ha).1 hasked

/-- What a lookup finds is the last text stored for the request, while it
lasts. -/
theorem Inv.lookedUp_eq (h : Inv env asked σ) (hsha : Set.InjOn env.sha256Hex asked)
    (hasked : renderedRequest inst alerts ∈ asked) :
    lookedUp env inst alerts σ.now σ.store =
      ((σ.latest inst alerts).filter fun a =>
        σ.now < a.time + env.diagnosisCacheTtlSeconds).map StoredText.text := by
  by_cases hpos : 0 < env.diagnosisCacheTtlSeconds
  · rw [lookedUp, if_pos hpos, cacheKey, h.mirrors _ _ _ le_rfl, h.underKey_eq hsha hasked]
    cases σ.latest inst alerts with
    | none => rfl
    | some a =>
      by_cases hlt : σ.now < a.time + env.diagnosisCacheTtlSeconds
      · simp [alive, StoredText.entry, Option.filter_some, hlt]
      · simp [alive, StoredText.entry, Option.filter_some, hlt]
  · rw [lookedUp, if_neg hpos, latest, h.off hpos]
    rfl

/-- The texts stored for a request are no younger than the last. -/
theorem Inv.latest_last (h : Inv env asked σ) {a b : StoredText}
    (ha : σ.latest inst alerts = some a) (hb : b ∈ σ.stored) (hanswers : b.Answers inst alerts) :
    b.time ≤ a.time := by
  obtain ⟨-, before, later, hstored, hnone⟩ := List.find?_eq_some_iff_append.mp ha
  rw [hstored] at hb
  rcases List.mem_append.mp hb with hb | hb
  · have := hnone b hb
    simp [hanswers] at this
  · rcases List.mem_cons.mp hb with rfl | hb
    · exact le_rfl
    · have hsorted := h.sorted
      rw [hstored] at hsorted
      exact List.rel_of_pairwise_cons (List.pairwise_append.mp hsorted).2.1 hb

theorem Answers.gave {a : StoredText} {text : String} (h : a.Answers inst alerts)
    (hgave : Gave env σ a.inst a.alerts text) : Gave env σ inst alerts text := by
  have hrequest : providerRequest a.inst a.alerts = providerRequest inst alerts := by
    simp only [providerRequest, renderedRequest_inj h.2]
  obtain ⟨reply, hr, htext⟩ := hgave
  exact ⟨reply, hrequest ▸ hr, htext⟩

end

-- ---------------------------------------------------------------------------
-- What is answered
-- ---------------------------------------------------------------------------

/-- A call that begins goes to the provider exactly if no text for its request
has been stored within the time to live; else it is answered the last one. A
text that is returned is one the provider gave to this very request. -/
def Sound (env : DiagnosisEnv) (σ : InFlight) : FlightEvent → Prop
  | .ask i inst alerts => σ.phase i = .idle →
    ((∀ a ∈ σ.stored, a.Answers inst alerts →
        a.time + env.diagnosisCacheTtlSeconds ≤ σ.now) ∧
      (σ.ask env i inst alerts).1 = none ∧
      (σ.ask env i inst alerts).2.phase i = .asking inst alerts) ∨
    ∃ a, σ.latest inst alerts = some a ∧ σ.now < a.time + env.diagnosisCacheTtlSeconds ∧
      (σ.ask env i inst alerts).1 = some (a.text, "llm") ∧
      (σ.ask env i inst alerts).2.phase = σ.phase ∧ Gave env σ inst alerts a.text
  | .finish i => ∀ inst alerts text, σ.phase i = .answered inst alerts text →
    Gave env σ inst alerts text
  | _ => True

section
variable {login : Env} {members : Table Member} {tokens : TokenEnv} {env : DiagnosisEnv}
  {asked : Set String} {σ : InFlight}

theorem Inv.sound (h : Inv env asked σ) (hsha : Set.InjOn env.sha256Hex asked) (e : FlightEvent)
    (hasked : ∀ r, rendered e = some r → r ∈ asked) : Sound env σ e := by
  cases e with
  | ask i inst alerts =>
    intro hidle
    obtain ⟨s', hrun, -⟩ := cached_run env inst alerts σ.now σ.store
    rw [h.lookedUp_eq hsha (hasked _ rfl)] at hrun
    cases hlast : σ.latest inst alerts with
    | none =>
      rw [hlast] at hrun
      refine .inl ⟨fun a ha hanswers => ?_, ?_⟩
      · exact absurd hanswers (by simpa using List.find?_eq_none.mp hlast a ha)
      · simp [InFlight.ask, hrun, InFlight.goto]
    | some a =>
      have hmem : a ∈ σ.stored := List.mem_of_find?_eq_some hlast
      have hanswers : a.Answers inst alerts := by simpa using List.find?_some hlast
      rw [hlast] at hrun
      by_cases hlt : σ.now < a.time + env.diagnosisCacheTtlSeconds
      · simp only [Option.filter_some, hlt, decide_true, if_true, Option.map_some] at hrun
        refine .inr ⟨a, rfl, hlt, ?_, ?_, Answers.gave hanswers (h.stored a hmem).2.1⟩
        · simp only [InFlight.ask, hrun]
        · simp only [InFlight.ask, hrun]
      · refine .inl ⟨fun b hb hb' => ?_, ?_⟩
        · have hle := h.latest_last hlast hb hb'
          linarith [not_lt.mp hlt]
        · simp [InFlight.ask, hrun, InFlight.goto, Option.filter_some, hlt]
  | finish i => exact fun inst alerts text hi => (h.answered i inst alerts text hi).2
  | _ => trivial

/-- Whatever diagnoses are in flight, and whatever else uses the store, every
answer is sound and the provider is asked only when it must be, as long as no
two of the requests have one digest. -/
theorem diagnoses_in_flight (login : Env) (members : Table Member) (tokens : TokenEnv)
    (env : DiagnosisEnv) (now : ℚ) (events : List FlightEvent)
    (hsha : Set.InjOn env.sha256Hex {r | ∃ e ∈ events, rendered e = some r}) :
    Along (fun σ e => (step login members tokens env σ e).2) (Sound env) (start now) events := by
  let asked := {r | ∃ e ∈ events, rendered e = some r}
  have hasked : Along (fun σ e => (step login members tokens env σ e).2)
      (fun _ e => ∀ r, rendered e = some r → r ∈ asked) (start now) events :=
    along_of_forall (fun e he _ r hr => ⟨e, he, hr⟩) (start now)
  exact Along.imp (P := Inv env asked) (fun σ e hσ he => ⟨hσ.sound hsha e he, hσ.step e he⟩)
    (inv_start now) hasked

theorem store_run (env : DiagnosisEnv) (inst : Instance) (alerts : List Alert) (text : String)
    (now : ℚ) (s : MemoryStore) :
    ∃ s', (CloudMonitor.store env (requestKey env inst alerts) text now).run s = (.ok (), s') := by
  by_cases hpos : 0 < env.diagnosisCacheTtlSeconds
  · obtain ⟨s', hrun, -⟩ := set_run (cacheKey env inst alerts) text
      env.diagnosisCacheTtlSeconds now s
    exact ⟨s', by simpa [requestKey, CloudMonitor.store, hpos] using hrun⟩
  · exact ⟨s, by simp [requestKey, CloudMonitor.store, hpos]⟩

/-- A call with nothing in between is `diagnose`. -/
theorem diagnose_alone (σ : InFlight) (i : ℕ) (inst : Instance) (alerts : List Alert)
    (reply : ProviderReply) {d : ℚ} (hd : 0 ≤ d) (hidle : σ.phase i = .idle) :
    let events := [.ask i inst alerts, .wait d hd, .receive i reply, .finish i]
    let r := (diagnose env inst alerts reply d σ.now).run σ.store
    ((replies (step login members tokens env) σ events).filterMap id).map .ok = [r.1] ∧
      (after (step login members tokens env) σ events).store = r.2 := by
  intro events r
  obtain ⟨s', hrun, -⟩ := cached_run env inst alerts σ.now σ.store
  simp only [requestKey] at hrun
  cases hl : lookedUp env inst alerts σ.now σ.store with
  | some text =>
    rw [hl] at hrun
    have hask : σ.ask env i inst alerts = (some (text, "llm"), { σ with store := s' }) := by
      simp only [InFlight.ask, requestKey, hrun]
    have hr : r = (.ok (text, "llm"), s') := by
      simp only [r, diagnose, run_bind, hrun, run_pure]
    simp [events, replies, after, step, hidle, hask, hr, InFlight.use, Process.use]
  | none =>
    rw [hl] at hrun
    have hask : σ.ask env i inst alerts =
        (none, { σ.goto i (.asking inst alerts) with store := s' }) := by
      simp only [InFlight.ask, requestKey, hrun]
    cases htext : llmDiagnosis env reply with
    | none =>
      have hr : r = (.ok (ruleBasedDiagnosis env inst alerts, "rule-based"), s') := by
        simp only [r, diagnose, run_bind, hrun, htext, run_pure]
      simp [events, replies, after, step, hidle, hask, hr, InFlight.use, Process.use, goto,
        InFlight.receive, htext]
    | some text =>
      obtain ⟨s'', hstore⟩ := store_run env inst alerts text (σ.now + d) s'
      have hr : r = (.ok (text, "llm"), s'') := by
        simp only [requestKey] at hstore
        simp only [r, diagnose, run_bind, hrun, htext, hstore, run_pure]
      simp [events, replies, after, step, hidle, hask, hr, InFlight.use, Process.use, goto,
        InFlight.receive, InFlight.finish, htext, StoreUse.duration, hstore]

end

-- ---------------------------------------------------------------------------
-- Two calls at once
-- ---------------------------------------------------------------------------

/-- Two calls for one request overlap; a third comes when the first is done. -/
def overlapping : List FlightEvent :=
  [.ask 0 DiagnosisRun.failedInstance [], .ask 1 DiagnosisRun.failedInstance [],
    .receive 0 (.message [⟨"text", "Disk full."⟩]), .wait 3 (by decide), .finish 0,
    .receive 1 .failed, .ask 2 DiagnosisRun.failedInstance []]

theorem diagnoses_in_flight_overlapping :
    Along (fun σ e => (step (.every 0) ∅ Process.oneToken DiagnosisRun.failedEnv σ e).2)
      (Sound DiagnosisRun.failedEnv) (start 0) overlapping := by
  refine diagnoses_in_flight (.every 0) ∅ Process.oneToken DiagnosisRun.failedEnv 0 overlapping ?_
  have hone : ∀ e ∈ overlapping, ∀ r, rendered e = some r →
      r = renderedRequest DiagnosisRun.failedInstance [] := by
    intro e he r hr
    simp only [overlapping, List.mem_cons, List.not_mem_nil, or_false] at he
    rcases he with rfl | rfl | rfl | rfl | rfl | rfl | rfl
    · exact (Option.some.inj hr).symm
    · exact (Option.some.inj hr).symm
    · cases hr
    · cases hr
    · cases hr
    · cases hr
    · exact (Option.some.inj hr).symm
  rintro r ⟨e, he, hr⟩ r' ⟨e', he', hr'⟩ -
  exact (hone e he r hr).trans (hone e' he' r' hr').symm

end InFlight

end CloudMonitor

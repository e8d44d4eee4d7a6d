import CloudMonitor.Auth.Login
import CloudMonitor.Lib.Schedule
import Mathlib.Tactic.Linarith

/-!
# When a login is refused

Login requests one after another, each at one instant. A counter is `Honest`
when it shows the `401` answers of its present life, or has reached its limit
together with them. Refused requests are counted too, so counters stay honest
as long as no request is refused on one limit alone.
-/

namespace CloudMonitor

open Fallible MemoryStore

def statusOf : Except ApiError α → ℕ
  | .ok _ => 200
  | .error e => e.status

structure LoginEvent where
  wait : ℚ
  wait_nonneg : 0 ≤ wait
  body : LoginRequest

/-- The state after some requests: the store, the clock, the number of
requests, the numbers of those answered `401`, and the ledger. -/
structure LoginRun where
  store : MemoryStore
  now : ℚ
  requests : ℕ
  failed : List ℕ
  ledger : Ledger ℕ

namespace LoginRun

def start (now : ℚ) : LoginRun where
  store := .new now
  now := now
  requests := 0
  failed := []
  ledger := .fresh

def answer (env : Env) (members : Table Member) (σ : LoginRun) (e : LoginEvent) :
    Except ApiError Member :=
  ((login env members e.body (σ.now + e.wait)).run σ.store).1

def step (env : Env) (members : Table Member) (σ : LoginRun) (e : LoginEvent) : LoginRun :=
  let now := σ.now + e.wait
  let counted := σ.ledger.reserved env e.body now σ.requests
  { store := ((login env members e.body now).run σ.store).2
    now := now
    requests := σ.requests + 1
    failed := if statusOf (σ.answer env members e) = 401 then σ.requests :: σ.failed else σ.failed
    ledger :=
      if statusOf (σ.answer env members e) = 200 then counted.released env e.body now σ.requests
      else counted }

/-- The requests answered `401` in the present life of a counter. -/
def failures (σ : LoginRun) (now : ℚ) (key : String) : ℕ :=
  match (σ.ledger key).live now with
  | none => 0
  | some _ => σ.failed.countP (fun i => ((σ.ledger key).slot i).map Slot.life = some
    (σ.ledger key).lives)

def counted (σ : LoginRun) (now : ℚ) (key : String) : ℤ :=
  ((σ.store.look now key).bind (fun e => readInt? e.value)).getD 0

/-- A request is refused exactly for the failures of its account or of its
address. -/
def RefusedForFailures (env : Env) (members : Table Member) (σ : LoginRun) (e : LoginEvent) :
    Prop :=
  statusOf (σ.answer env members e) = 429 ↔
    env.settings.loginMaxFailuresPerAccount ≤ σ.failures (σ.now + e.wait) (e.body.account env) ∨
      env.settings.loginMaxFailuresPerIp ≤ σ.failures (σ.now + e.wait) e.body.address

/-- The two counters of a request have reached their limits together or not
at all. -/
def LimitsTogether (env : Env) (σ : LoginRun) (e : LoginEvent) : Prop :=
  (env.settings.loginMaxFailuresPerAccount : ℤ) ≤ σ.counted (σ.now + e.wait) (e.body.account env) ↔
    (env.settings.loginMaxFailuresPerIp : ℤ) ≤ σ.counted (σ.now + e.wait) e.body.address

end LoginRun

-- ---------------------------------------------------------------------------
-- One counter
-- ---------------------------------------------------------------------------

namespace Tally

def among (failed : List ℕ) (t : Tally ℕ ℚ) : ℕ :=
  failed.countP (fun i => (t.slot i).map Slot.life = some t.lives)

/-- The counter shows the failures of its life, or both have reached the limit. -/
def Honest (limit : ℕ) (now : ℚ) (failed : List ℕ) (t : Tally ℕ ℚ) : Prop :=
  ∀ e, t.live now = some e → e.value = t.among failed ∨
    (limit ≤ t.among failed ∧ (limit : ℤ) ≤ e.value)

section
variable {window now now' : ℚ} {t : Tally ℕ ℚ} {failed : List ℕ} {limit n : ℕ} {e : Entry ℤ ℚ}

theorem Honest.fresh : Honest limit now failed fresh := by
  intro e he
  simp [live, Tally.fresh] at he

theorem Honest.later (h : Honest limit now failed t) (hle : now ≤ now') :
    Honest limit now' failed t :=
  fun e he => h e (live_later hle he)

theorem Honest.clear : Honest limit now' failed (t.clear now) := by
  intro e he
  simp [live, Tally.clear] at he

theorem among_other (hn : t.slot n = none) : t.among (n :: failed) = t.among failed := by
  simp [among, hn]

theorem Honest.other (h : Honest limit now failed t) (hn : t.slot n = none) :
    Honest limit now (n :: failed) t := by
  intro e he
  rw [among_other hn]
  exact h e he

theorem renew_among (hs : Sound window now t) : (t.renew window now).among failed = 0 := by
  refine List.countP_eq_zero.mpr fun i _ => ?_
  intro hi
  obtain ⟨s, hs', hlife⟩ := Option.map_eq_some_iff.mp (of_decide_eq_true hi)
  exact absurd (hs.slots i s hs').2.1 (by rw [hlife]; exact Nat.not_succ_le_self _)

/-- The counter a reservation starts from is honest: a new life has no
failures. -/
theorem Honest.ensure (h : Honest limit now failed t) (hs : Sound window now t)
    (he : (t.ensure window now).stored = some e) :
    e.value = (t.ensure window now).among failed ∨
      (limit ≤ (t.ensure window now).among failed ∧ (limit : ℤ) ≤ e.value) := by
  cases hl : t.live now with
  | some e' =>
    rw [ensure_live hl] at he ⊢
    obtain rfl : e' = e := Option.some.inj ((alive_eq_some.mp hl).1.symm.trans he)
    exact h e' hl
  | none =>
    rw [ensure_none hl] at he ⊢
    obtain rfl := Option.some.inj he
    exact .inl (by simp [renew_among hs])

theorem reserve_value (he : (t.ensure window now).stored = some e) :
    (t.reserve window now n).value = e.value + 1 := by
  simp [value, reserve_stored he]

theorem reserve_among (hn : n ∉ failed) :
    (t.reserve window now n).among failed = (t.ensure window now).among failed := by
  refine List.countP_congr fun i hi => ?_
  have hin : i ≠ n := fun hin => hn (hin ▸ hi)
  rw [reserve_slot_other hin, ensure_slot.1]
  rfl

theorem reserve_among_cons (hn : n ∉ failed) :
    (t.reserve window now n).among (n :: failed) = (t.ensure window now).among failed + 1 := by
  obtain ⟨e, he⟩ := ensure_stored window now t
  have hself : ((t.reserve window now n).slot n).map Slot.life =
      some (t.reserve window now n).lives := by
    rw [reserve_slot_self he]
    rfl
  have hrest : (t.reserve window now n).among failed = (t.ensure window now).among failed :=
    reserve_among hn
  unfold among at hrest ⊢
  rw [List.countP_cons_of_pos (by simpa using hself), hrest]

theorem reserve_live (he : (t.ensure window now).stored = some e)
    (h : (t.reserve window now n).live now' = some e') : e' = { e with value := e.value + 1 } :=
  Option.some.inj ((alive_eq_some.mp h).1.symm.trans (reserve_stored he))

theorem Honest.reserve_failed (h : Honest limit now failed t) (hs : Sound window now t)
    (hn : n ∉ failed) :
    Honest limit now (n :: failed) (t.reserve window now n) := by
  intro e' he'
  obtain ⟨e, he⟩ := ensure_stored window now t
  obtain rfl := reserve_live he he'
  have hold := h.ensure hs he
  rw [reserve_among_cons hn]
  push_cast
  omega

theorem Honest.reserve_refused (h : Honest limit now failed t) (hs : Sound window now t)
    (hn : n ∉ failed)
    (he : (t.ensure window now).stored = some e) (hlimit : (limit : ℤ) ≤ e.value) :
    Honest limit now failed (t.reserve window now n) := by
  intro e' he'
  obtain rfl := reserve_live he he'
  have hold := h.ensure hs he
  rw [reserve_among hn]
  simp only
  omega

theorem Sound.live_none (h : Sound window now t) (hw : window ≤ 0) : t.live now = none := by
  rw [live, alive_eq_none]
  intro e he
  obtain ⟨h0, hexp⟩ := h.running e he
  linarith [h.begun t.lives h0 le_rfl]

theorem Honest.passed (h : Honest limit now failed t) (hs : Sound window now t) (hn : n ∉ failed) :
    Honest limit now failed ((t.reserve window now n).giveBack window now n) := by
  rcases le_or_gt window 0 with hw | hw
  · intro e he
    have hnone := (hs.reserve (i := n)).giveBack (i := n) |>.live_none hw
    rw [hnone] at he
    simp at he
  · obtain ⟨e, he⟩ := ensure_stored window now t
    have hlive : now < e.expires := by
      cases hl : t.live now with
      | some e' =>
        rw [ensure_live hl] at he
        obtain rfl : e' = e := Option.some.inj ((alive_eq_some.mp hl).1.symm.trans he)
        exact (alive_eq_some.mp hl).2
      | none =>
        rw [ensure_none hl] at he
        obtain rfl := Option.some.inj he
        exact lt_add_of_pos_right now hw
    have hres : (t.reserve window now n).live now = some { e with value := e.value + 1 } := by
      rw [live, alive_eq_some]
      exact ⟨reserve_stored he, hlive⟩
    intro e' he'
    obtain rfl := Option.some.inj ((giveBack_stored hres).symm.trans (alive_eq_some.mp he').1)
    have hamong : ((t.reserve window now n).giveBack window now n).among failed =
        (t.ensure window now).among failed := by
      rw [← reserve_among hn]
      unfold among
      rw [giveBack_slot, giveBack_lives hres]
    rw [hamong]
    simpa using h.ensure hs he

end

end Tally

-- ---------------------------------------------------------------------------
-- The run
-- ---------------------------------------------------------------------------

namespace LoginRun

variable {env : Env} {members : Table Member} {σ : LoginRun} {e : LoginEvent} {now : ℚ}
  {key : String}

def limitOf (env : Env) (key : String) (limit : ℕ) : Prop :=
  (∃ email, key = accountKey env email) ∧ limit = env.settings.loginMaxFailuresPerAccount ∨
    (∃ clientIp, key = ipKey clientIp) ∧ limit = env.settings.loginMaxFailuresPerIp

structure Inv (env : Env) (σ : LoginRun) : Prop where
  follows : Follows σ.now σ.store σ.ledger
  sound : σ.ledger.Sound env σ.now
  numbered : ∀ key i, σ.requests ≤ i → (σ.ledger key).slot i = none
  past : ∀ i ∈ σ.failed, i < σ.requests
  honest : ∀ key limit, limitOf env key limit → (σ.ledger key).Honest limit σ.now σ.failed

theorem inv_start (now : ℚ) : Inv env (start now) where
  follows := follows_new now
  sound := Ledger.sound_fresh
  numbered _ _ _ := rfl
  past i hi := by simp [start] at hi
  honest _ _ _ := Tally.Honest.fresh

theorem counted_eq (h : Follows now σ.store σ.ledger)
    (he : ((σ.ledger key).ensure env.window now).stored = some e') :
    σ.counted now key = e'.value := by
  have ht : σ.store.look now key = ((σ.ledger key).live now).map (Entry.map toString) := h key
  unfold counted
  rw [ht]
  cases hl : (σ.ledger key).live now with
  | none =>
    rw [Tally.ensure_none hl] at he
    obtain rfl := Option.some.inj he
    rfl
  | some e =>
    rw [Tally.ensure_live hl] at he
    obtain rfl : e = e' := Option.some.inj ((alive_eq_some.mp hl).1.symm.trans he)
    simp [Entry.map]

theorem failures_eq (h : σ.ledger.Sound env now) :
    σ.failures now key = ((σ.ledger key).ensure env.window now).among σ.failed := by
  unfold failures
  split
  · next hl => rw [Tally.ensure_none hl, Tally.renew_among (h key)]
  · next e hl => rw [Tally.ensure_live hl, Tally.among]

def met (env : Env) (σ : LoginRun) (now : ℚ) (key : String) : Entry ℤ ℚ :=
  (((σ.ledger key).ensure env.window now).stored).getD { value := 0, expires := now }

theorem met_stored : ((σ.ledger key).ensure env.window now).stored = some (σ.met env now key) := by
  obtain ⟨e, he⟩ := Tally.ensure_stored env.window now (σ.ledger key)
  simp [met, he]

theorem Inv.met (h : Inv env σ) (hle : σ.now ≤ now) {limit : ℕ} (hk : limitOf env key limit) :
    (limit : ℤ) ≤ (σ.met env now key).value ↔ limit ≤ σ.failures now key := by
  have hs := h.sound.later hle
  have := ((h.honest key limit hk).later hle).ensure (hs key) met_stored
  rw [failures_eq hs]
  omega

theorem limitOf_account (body : LoginRequest) :
    limitOf env (body.account env) env.settings.loginMaxFailuresPerAccount := .inl ⟨⟨_, rfl⟩, rfl⟩

theorem limitOf_address (body : LoginRequest) :
    limitOf env body.address env.settings.loginMaxFailuresPerIp :=
  .inr ⟨⟨_, rfl⟩, rfl⟩

theorem limitOf_unique {limit limit' : ℕ} (h : limitOf env key limit)
    (h' : limitOf env key limit') :
    limit = limit' := by
  rcases h with ⟨⟨email, rfl⟩, rfl⟩ | ⟨⟨clientIp, rfl⟩, rfl⟩ <;>
    rcases h' with ⟨⟨email', hkey⟩, rfl⟩ | ⟨⟨clientIp', hkey⟩, rfl⟩
  · rfl
  · exact absurd hkey (accountKey_ne_ipKey env _ _)
  · exact absurd hkey.symm (accountKey_ne_ipKey env _ _)
  · rfl

theorem admits_iff (body : LoginRequest) :
    Admits env.settings (σ.ledger.counts env body now σ.requests).1
      (σ.ledger.counts env body now σ.requests).2 ↔
      ¬(env.settings.loginMaxFailuresPerAccount : ℤ) ≤ (σ.met env now (body.account env)).value ∧
        ¬(env.settings.loginMaxFailuresPerIp : ℤ) ≤ (σ.met env now body.address).value := by
  unfold Admits Ledger.counts
  rw [Tally.reserve_value met_stored, Tally.reserve_value met_stored]
  omega

/-- What a request makes of the counters, one key at a time. -/
theorem Inv.honest_after (h : Inv env σ) (hle : σ.now ≤ now) {body : LoginRequest}
    {answer : Except ApiError Member}
    {l' : Ledger ℕ} (ho : LoginOutcome env members body now σ.requests σ.ledger answer l')
    (htogether : (env.settings.loginMaxFailuresPerAccount : ℤ) ≤
      (σ.met env now (body.account env)).value ↔
      (env.settings.loginMaxFailuresPerIp : ℤ) ≤ (σ.met env now body.address).value)
    {limit : ℕ} (hk : limitOf env key limit) :
    (l' key).Honest limit now (if statusOf answer = 401 then σ.requests :: σ.failed
      else σ.failed) := by
  have hs := h.sound.later hle
  have hold := (h.honest key limit hk).later hle
  have hnew : σ.requests ∉ σ.failed := fun hm => absurd (h.past _ hm) (Nat.lt_irrefl _)
  have hfree := h.numbered key σ.requests le_rfl
  by_cases ha : key = body.account env
  · subst ha
    obtain rfl := limitOf_unique hk (limitOf_account body)
    cases ho with
    | refused retries hadm =>
      rw [admits_iff] at hadm
      rw [Ledger.reserved_account]
      exact hold.reserve_refused (hs _) hnew met_stored (by tauto)
    | failed =>
      rw [Ledger.reserved_account]
      exact hold.reserve_failed (hs _) hnew
    | passed m =>
      rw [Ledger.released_account]
      exact Tally.Honest.clear
  by_cases hx : key = body.address
  · subst hx
    obtain rfl := limitOf_unique hk (limitOf_address body)
    cases ho with
    | refused retries hadm =>
      rw [admits_iff] at hadm
      rw [Ledger.reserved_address]
      exact hold.reserve_refused (hs _) hnew met_stored (by tauto)
    | failed =>
      rw [Ledger.reserved_address]
      exact hold.reserve_failed (hs _) hnew
    | passed m =>
      rw [Ledger.released_address, Ledger.reserved_address]
      exact hold.passed (hs _) hnew
  · cases ho with
    | refused =>
      rw [Ledger.reserved_other ha hx]
      exact hold
    | failed =>
      rw [Ledger.reserved_other ha hx]
      exact hold.other hfree
    | passed m =>
      rw [Ledger.released_other ha hx, Ledger.reserved_other ha hx]
      exact hold

theorem Inv.refused (h : Inv env σ) : RefusedForFailures env members σ e := by
  have hle : σ.now ≤ σ.now + e.wait := le_add_of_nonneg_right e.wait_nonneg
  obtain ⟨answer, s', l', hrun, -, ho⟩ :=
    login_run env members e.body (h.follows.later hle) σ.requests
  have hanswer : σ.answer env members e = answer := congrArg Prod.fst hrun
  unfold RefusedForFailures
  rw [hanswer, ← h.met hle (limitOf_account e.body), ← h.met hle (limitOf_address e.body)]
  cases ho with
  | refused retries hadm =>
    rw [admits_iff] at hadm
    exact iff_of_true rfl (by tauto)
  | failed hadm =>
    rw [admits_iff] at hadm
    exact iff_of_false (by decide) (by tauto)
  | passed m hadm =>
    rw [admits_iff] at hadm
    exact iff_of_false (by simp [statusOf]) (by tauto)

theorem Inv.step (h : Inv env σ) (ht : LimitsTogether env σ e) :
    Inv env (σ.step env members e) := by
  have hle : σ.now ≤ σ.now + e.wait := le_add_of_nonneg_right e.wait_nonneg
  have hf := h.follows.later hle
  have hs := h.sound.later hle
  obtain ⟨answer, s', l', hrun, hf', ho⟩ := login_run env members e.body hf σ.requests
  have hanswer : σ.answer env members e = answer := congrArg Prod.fst hrun
  have hledger : (σ.step env members e).ledger = l' := by
    simp only [LoginRun.step, hanswer]
    cases ho <;> rfl
  unfold LimitsTogether at ht
  rw [counted_eq hf met_stored, counted_eq hf met_stored] at ht
  constructor
  case follows =>
    rw [hledger]
    simpa only [LoginRun.step, hrun] using hf'
  case sound =>
    rw [hledger]
    cases ho with
    | refused => exact hs.reserve.reserve
    | failed => exact hs.reserve.reserve
    | passed => exact hs.reserve.reserve.clear.giveBack
  case numbered =>
    intro key i hi
    have hne : i ≠ σ.requests := by
      rintro rfl
      exact absurd hi (Nat.not_succ_le_self _)
    have hold : (σ.ledger.reserved env e.body (σ.now + e.wait) σ.requests key).slot i = none := by
      rw [Ledger.reserved, Ledger.reserve_slot hne, Ledger.reserve_slot hne]
      exact h.numbered key i (Nat.le_of_succ_le hi)
    rw [hledger]
    cases ho with
    | refused => exact hold
    | failed => exact hold
    | passed => rwa [Ledger.released, Ledger.giveBack_slot, Ledger.clear_slot]
  case past =>
    intro i hi
    simp only [LoginRun.step] at hi ⊢
    split at hi
    · rcases List.mem_cons.mp hi with rfl | hi
      · exact Nat.lt_succ_self _
      · exact Nat.lt_succ_of_lt (h.past i hi)
    · exact Nat.lt_succ_of_lt (h.past i hi)
  case honest =>
    intro key limit hk
    have hh := h.honest_after hle ho ht hk
    rw [← hanswer] at hh
    rw [hledger]
    exact hh

/-- While no request meets one limit without the other, the next login,
whatever it is, is refused exactly for failures. -/
theorem refused_for_failures (env : Env) (members : Table Member) (start : ℚ)
    (events : List LoginEvent)
    (last : LoginEvent)
    (h : Along (step env members) (LimitsTogether env) (LoginRun.start start) events) :
    Along (step env members) (RefusedForFailures env members) (LoginRun.start start)
      (events ++ [last]) := by
  have hstep : ∀ σ e, Inv env σ → LimitsTogether env σ e → RefusedForFailures env members σ e ∧
      Inv env (σ.step env members e) := fun σ e hσ ht => ⟨hσ.refused, hσ.step ht⟩
  have hend := play_invariant (fun σ e hσ ht => (hstep σ e hσ ht).2) (inv_start start) h
  exact Along.append.mpr ⟨Along.imp hstep (inv_start start) h, hend.refused, trivial⟩

-- ---------------------------------------------------------------------------
-- Two runs
-- ---------------------------------------------------------------------------

instance : Decidable (RefusedForFailures env members σ e) := inferInstanceAs (Decidable (_ ↔ _))

instance : Decidable (LimitsTogether env σ e) := inferInstanceAs (Decidable (_ ↔ _))

def guess (email : String) : LoginEvent where
  wait := 1
  wait_nonneg := zero_le_one
  body := { email := email, password := "guess", client := some "10.0.0.1" }

theorem refused_for_failures_once :
    Along (step (.withLimits 1 1) ∅) (LimitsTogether (.withLimits 1 1)) (start 0)
      [guess "a@techvalley.vn"] ∧
      Along (step (.withLimits 1 1) ∅) (RefusedForFailures (.withLimits 1 1) ∅) (start 0)
        [guess "a@techvalley.vn", guess "a@techvalley.vn"] :=
  ⟨by decide +kernel, refused_for_failures _ _ _ [_] _ (by decide +kernel)⟩

/-- One failure and one refusal use up the two attempts of the address, so
its request for another account is refused. -/
theorem refusal_uses_up_address :
    ¬Along (step (.withLimits 1 2) ∅) (RefusedForFailures (.withLimits 1 2) ∅) (start 0)
      [guess "a@techvalley.vn", guess "a@techvalley.vn", guess "b@techvalley.vn"] := by
  decide +kernel

end LoginRun

end CloudMonitor

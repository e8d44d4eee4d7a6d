import CloudMonitor.Concurrent.Login

/-!
# The account limit under concurrency

Within one life of an account's counter the numbers given out are all
different, so at most the limit of them are within the limit; and one window
without a successful login touches at most two lives.
-/

namespace CloudMonitor

namespace LoginSystem

section
variable {ι : Type} {env : Env} {members : Table Member} {requests : ι → LoginRequest}
  {σ : LoginSystem ι} {i : ι} {l : Ledger ι} {body : LoginRequest} {now : ℚ} {a : Attempt}
  {key email : String}

def CountedDuring (σ : LoginSystem ι) (key : String) (start window : ℚ) (i : ι) : Prop :=
  ∃ s, (σ.ledger key).slot i = some s ∧ start ≤ s.instant ∧ s.instant < start + window

/-- How many attempts on an account reach the password check. -/
structure AccountLimit (env : Env) (requests : ι → LoginRequest) (σ : LoginSystem ι) : Prop where
  in_life : ∀ (email : String) (life : ℕ) (S : Finset ι),
    (∀ i ∈ S, (requests i).account env = accountKey env email ∧
      CountedIn σ (accountKey env email) life i ∧
      (σ.attempt i).Checked) →
    S.card ≤ env.settings.loginMaxFailuresPerAccount
  in_window : ∀ (email : String) (start : ℚ) (S : Finset ι),
    (∀ d ∈ (σ.ledger (accountKey env email)).cleared, ¬(start ≤ d ∧ d < start + env.window)) →
    (∀ i ∈ S, (requests i).account env = accountKey env email ∧
      CountedDuring σ (accountKey env email) start env.window i ∧ (σ.attempt i).Checked) →
    S.card ≤ 2 * env.settings.loginMaxFailuresPerAccount

theorem counted_note [DecidableEq ι] (hs : l.Sound env now)
    (h : (l (accountKey env email)).Counted) :
    (note env body now i a l (accountKey env email)).Counted := by
  cases a with
  | arrived =>
    by_cases hk : accountKey env email = body.account env
    · rw [note, hk, Ledger.reserve_self]
      exact (hk ▸ h).reserve (hs _)
    · rwa [note, Ledger.reserve_other hk]
  | accountCounted => rwa [note, Ledger.reserve_other (accountKey_ne_ipKey env email _)]
  | verified =>
    by_cases hk : accountKey env email = body.account env
    · rw [note, hk, Ledger.clear_self]
      exact (hk ▸ h).clear
    · rwa [note, Ledger.clear_other hk]
  | cleared => rwa [note, Ledger.giveBack_other (accountKey_ne_ipKey env email _)]
  | _ => exact h

theorem Reachable.counted [DecidableEq ι] (h : Reachable env members requests σ) (email : String) :
    (σ.ledger (accountKey env email)).Counted := by
  obtain ⟨now, events, rfl⟩ := h
  have hinv : ∀ (σ : LoginSystem ι) (e : LoginStep ι),
      Inv env requests σ ∧ (σ.ledger (accountKey env email)).Counted →
      Inv env requests (σ.step env members requests e) ∧
        ((σ.step env members requests e).ledger (accountKey env email)).Counted := by
    rintro σ e ⟨hσ, hc⟩
    refine ⟨hσ.step e, ?_⟩
    cases e with
    | wait => exact hc
    | act i => exact counted_note hσ.sound hc
  exact (play_keeps hinv events ⟨inv_start now, Tally.Counted.fresh⟩).2

theorem checked_count (h : Inv env requests σ) (hi : (requests i).account env = key)
    (hs : (σ.ledger key).slot i = some s) (hc : (σ.attempt i).Checked) :
    s.count ≤ env.settings.loginMaxFailuresPerAccount := by
  obtain ⟨n, m, hn, -, hadm⟩ := (h.noted i).checked hc
  rw [hi, numberOf, hs] at hn
  exact (Option.some.inj hn).trans_le hadm.1

theorem account_limit [DecidableEq ι] (h : Reachable env members requests σ) :
    AccountLimit env requests σ where
  in_life email life S hS := by
    refine (h.counted email).card_le (n := life) fun i hi => ?_
    obtain ⟨haccount, hlife, hchecked⟩ := hS i hi
    obtain ⟨s, hs, hlife⟩ := Option.map_eq_some_iff.mp hlife
    exact ⟨s, hs, hlife, checked_count h.inv haccount hs hchecked⟩
  in_window email start S hkept hS := by
    have hkept' :
        ∀ d ∈ (σ.ledger (accountKey env email)).cleared, start ≤ d → start + env.window ≤ d :=
      fun d hd hle => not_lt.mp fun hlt => hkept d hd ⟨hle, hlt⟩
    refine (h.counted email).card_window_le (h.inv.sound _) hkept' fun i hi => ?_
    obtain ⟨haccount, ⟨s, hs, hfrom, hto⟩, hchecked⟩ := hS i hi
    exact ⟨s, hs, hfrom, hto, checked_count h.inv haccount hs hchecked⟩

end

/-- Two guesses at one account that count it, then both addresses, then both
look at the limits. -/
def burst : LoginSystem ℕ :=
  play (step (.withLimits 1 50) ∅ fun _ =>
    { email := "a@techvalley.vn", password := "guess", client := none })
    (start 0) [.act 0, .act 1, .act 0, .act 1, .act 0, .act 1]

theorem account_limit_burst :
    AccountLimit (.withLimits 1 50)
      (fun _ => { email := "a@techvalley.vn", password := "guess", client := none }) burst ∧
      (burst.attempt 0).Checked ∧ ¬(burst.attempt 1).Checked :=
  ⟨account_limit ⟨0, _, rfl⟩, by decide +kernel, by decide +kernel⟩

end LoginSystem

end CloudMonitor

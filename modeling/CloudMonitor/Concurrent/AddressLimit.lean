import CloudMonitor.Concurrent.Login

/-!
# The address limit under concurrency

An address counter is the number of attempts its life holds, as long as every
successful login gives its attempt back before the life that counted it is
over. A give-back that comes later is taken off the next life instead, which
then lets one more failure through.
-/

namespace CloudMonitor

namespace LoginSystem

section
variable {ι : Type} {env : Env} {members : Table Member} {requests : ι → LoginRequest}
  {σ : LoginSystem ι} {i : ι} {l : Ledger ι} {body : LoginRequest} {now : ℚ} {a : Attempt}
  {clientIp : String}
  {e : LoginStep ι}

/-- How many attempts from an address end with a wrong password. -/
def AddressLimit (env : Env) (requests : ι → LoginRequest) (σ : LoginSystem ι) : Prop :=
  ∀ (clientIp : String) (life : ℕ) (S : Finset ι),
    (∀ i ∈ S, (requests i).clientIp = clientIp ∧ CountedIn σ (ipKey clientIp) life i ∧
      σ.attempt i = .answered (.error invalidLogin)) →
    S.card ≤ env.settings.loginMaxFailuresPerIp

/-- A give-back comes before the window its reservation was counted in is
over. -/
def GivesBackInTime (env : Env) (requests : ι → LoginRequest) (σ : LoginSystem ι) :
    LoginStep ι → Prop
  | .wait .. => True
  | .act i =>
    match σ.attempt i, (σ.ledger (requests i).address).slot i with
    | .cleared _, some s => σ.now < (σ.ledger (requests i).address).born s.life + env.window
    | _, _ => True

/-- The attempt holds its place in the life the address counter is in. -/
def Holding (now : ℚ) (body : LoginRequest) (i : ι) (l : Ledger ι) : Prop :=
  ∃ e, (l body.address).live now = some e ∧ (l body.address).Held (l body.address).lives i

structure Kept (limit : ℕ) (t : Tally ι ℚ) : Prop where
  never_cleared : t.cleared = []
  balanced : t.Balanced
  bounded : t.Bounded limit

theorem holding_of_inTime (hs : l.Sound env now) (hclear : (l body.address).cleared = [])
    (hslot : (l body.address).slot i = some s) (hgave : (l body.address).givenBack i = false)
    (htime : now < (l body.address).born s.life + env.window) : Holding now body i l := by
  have hsound := hs body.address
  obtain ⟨h0, hle, -, -⟩ := hsound.slots i s hslot
  have hnot : ∀ u, u ≤ now → ¬(l body.address).Ended env.window s.life u := by
    rintro u hu (hend | ⟨d, hd, -⟩)
    · exact absurd (hend.trans hu) (not_le.mpr htime)
    · simp [hclear] at hd
  have hlife : s.life = (l body.address).lives := by
    refine le_antisymm hle (not_lt.mp fun hlt => ?_)
    exact hnot _ (hsound.begun _ (h0.trans hlt) le_rfl) (hsound.apart _ _ h0 hlt le_rfl).2
  cases hlive : (l body.address).live now with
  | none => exact absurd (hlife ▸ hsound.ended hlive (hlife ▸ h0)) (hnot now le_rfl)
  | some e => exact ⟨e, hlive, ⟨s, hslot, hlife⟩, hgave⟩

theorem kept_note [DecidableEq ι] (hs : l.Sound env now) (hn : Noted env body i l a)
    (hg : Gave body i l a) (hgive : (∃ m, a = .cleared m) → Holding now body i l)
    (h : Kept env.settings.loginMaxFailuresPerIp (l (ipKey clientIp))) :
    Kept env.settings.loginMaxFailuresPerIp (note env body now i a l (ipKey clientIp)) := by
  cases a with
  | arrived => rwa [note, Ledger.reserve_other (accountKey_ne_ipKey env body.email clientIp).symm]
  | verified => rwa [note, Ledger.clear_other (accountKey_ne_ipKey env body.email clientIp).symm]
  | accountCounted account =>
    by_cases hk : ipKey clientIp = body.address
    · rw [hk] at h
      rw [note, hk, Ledger.reserve_self]
      exact {
        never_cleared := Tally.reserve_cleared.trans h.never_cleared
        balanced := h.balanced.reserved (hs _) hn.2 hg
        bounded := h.bounded.reserve h.balanced (hs _) hn.2 hg }
    · rwa [note, Ledger.reserve_other hk]
  | cleared m =>
    by_cases hk : ipKey clientIp = body.address
    · obtain ⟨e, hlive, hheld⟩ := hgive ⟨m, rfl⟩
      rw [hk] at h
      rw [note, hk, Ledger.giveBack_self]
      exact {
        never_cleared := Tally.giveBack_cleared.trans h.never_cleared
        balanced := h.balanced.giveBack hlive hheld
        bounded := h.bounded.giveBack }
    · rwa [note, Ledger.giveBack_other hk]
  | _ => exact h

structure AddressInv (env : Env) (requests : ι → LoginRequest) (σ : LoginSystem ι) : Prop extends
    Inv env requests σ where
  kept : ∀ clientIp, Kept env.settings.loginMaxFailuresPerIp (σ.ledger (ipKey clientIp))

theorem AddressInv.step [DecidableEq ι] (h : AddressInv env requests σ)
    (he : GivesBackInTime env requests σ e) :
    AddressInv env requests (σ.step env members requests e) := by
  refine ⟨h.toInv.step e, fun clientIp => ?_⟩
  cases e with
  | wait => exact h.kept clientIp
  | act i =>
    refine kept_note h.sound (h.noted i) (h.gave i) ?_ (h.kept clientIp)
    rintro ⟨m, hm⟩
    have hnoted := h.noted i
    have hgave := h.gave i
    rw [hm] at hnoted hgave
    obtain ⟨-, k, -, hk, -⟩ := hnoted
    obtain ⟨s, hs, -⟩ := Option.map_eq_some_iff.mp hk
    simp only [GivesBackInTime, hm, hs] at he
    exact holding_of_inTime h.sound (h.kept _).never_cleared hs hgave he

theorem AddressInv.limit (h : AddressInv env requests σ) : AddressLimit env requests σ := by
  intro clientIp life S hS
  refine (h.kept clientIp).bounded life S fun i hi => ?_
  obtain ⟨hip, hlife, hfailed⟩ := hS i hi
  obtain ⟨s, hs, hlife⟩ := Option.map_eq_some_iff.mp hlife
  have hnoted := h.noted i
  have hgave := h.gave i
  rw [hfailed] at hnoted hgave
  have haddress : (requests i).address = ipKey clientIp := congrArg ipKey hip
  obtain ⟨n, m, -, hm, hadm⟩ := hnoted rfl
  rw [haddress, numberOf, hs] at hm
  refine ⟨⟨⟨s, hs, hlife⟩, haddress ▸ hgave⟩, s, hs, (Option.some.inj hm).trans_le hadm.2⟩

/-- While every give-back comes in time, no life of an address counter sees
more failures than the limit. -/
theorem address_limit [DecidableEq ι] (now : ℚ) (events : List (LoginStep ι))
    (h : Along (step env members requests) (GivesBackInTime env requests) (start now) events) :
    AddressLimit env requests (play (step env members requests) (start now) events) := by
  have hinit : AddressInv env requests (start now : LoginSystem ι) := {
    toInv := inv_start now
    kept := fun _ => ⟨rfl, Tally.Balanced.fresh, Tally.Bounded.fresh⟩ }
  exact (play_invariant (P := AddressInv env requests) (fun _ _ hσ he => hσ.step he) hinit h).limit

instance (e : LoginStep ι) : Decidable (GivesBackInTime env requests σ e) := by
  unfold GivesBackInTime
  split
  · infer_instance
  · split <;> infer_instance

end

-- ---------------------------------------------------------------------------
-- One member and two guesses from one address
-- ---------------------------------------------------------------------------

def office : Table Member where
  rows := [⟨1, "admin@techvalley.vn", "admin123!", "Admin", .admin⟩]
  sorted := List.pairwise_singleton _ _

def fromOffice (i : Fin 3) : LoginRequest :=
  if i = 0 then
    { email := "admin@techvalley.vn", password := "admin123!", client := some "10.0.0.1" }
  else { email := "guess@techvalley.vn", password := "guess", client := some "10.0.0.1" }

def inTurn : List (LoginStep (Fin 3)) :=
  List.replicate 6 (.act 0) ++ List.replicate 4 (.act 1)

theorem address_limit_inTurn :
    Along (step (.withLimits 10 1) office fromOffice)
      (GivesBackInTime (.withLimits 10 1) fromOffice) (start 0) inTurn ∧
      AddressLimit (.withLimits 10 1) fromOffice
        (play (step (.withLimits 10 1) office fromOffice) (start 0) inTurn) :=
  ⟨by decide +kernel, address_limit 0 inTurn (by decide +kernel)⟩

/-- The member is counted, the window ends, a guess begins the next one and
fails; only then the member gives the attempt back, and a second guess fails. -/
def lateGiveBack : List (LoginStep (Fin 3)) :=
  List.replicate 5 (.act 0) ++ .wait 900 (by decide) :: List.replicate 4 (.act 1) ++
    .act 0 :: List.replicate 4 (.act 2)

theorem address_limit_exceeded :
    ¬AddressLimit (.withLimits 10 1) fromOffice
      (play (step (.withLimits 10 1) office fromOffice) (start 0) lateGiveBack) := by
  intro h
  have hfailed : ({1, 2} : Finset (Fin 3)).card ≤ 1 := h "10.0.0.1" 2 {1, 2} (by decide +kernel)
  exact absurd hfailed (by decide)

end LoginSystem

end CloudMonitor

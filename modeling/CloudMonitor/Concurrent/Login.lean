import CloudMonitor.Auth.Login
import CloudMonitor.Lib.Schedule

/-!
# Concurrent logins

Any number of login requests, each a sequence of atomic steps: count the
account, count the address, stop if a count is over its limit, check the
password, clear the account, give the address back. A schedule interleaves
the steps and lets the clock advance between any two. Alone, the steps of a
request are the sequential `login` (`Attempt.alone`).
-/

namespace CloudMonitor

open Fallible MemoryStore

/-- Where a login request is, with what it holds in its local variables. -/
inductive Attempt
  | arrived
  | accountCounted (account : ℤ × ℤ)
  | counted (account ip : ℤ × ℤ)
  | admitted
  | verified (member : Member)
  | cleared (member : Member)
  | answered (answer : Except ApiError Member)
  deriving DecidableEq

def Attempt.after (x : Op α) (go : α → Attempt) (s : MemoryStore) : Attempt × MemoryStore :=
  match x.run s with
  | (.ok a, s') => (go a, s')
  | (.error e, s') => (.answered (.error e), s')

/-- The next atomic step of a request. -/
def Attempt.next (env : Env) (members : Table Member) (body : LoginRequest) (now : ℚ) :
    Attempt → MemoryStore → Attempt × MemoryStore
  | .arrived => after (add (body.account env) 1 env.loginWindow now) .accountCounted
  | .accountCounted account => after (add body.address 1 env.loginWindow now) (.counted account)
  | .counted account ip => after (refuseBlocked env.settings account ip) fun _ => .admitted
  | .admitted => fun s =>
    match authenticate env members body with
    | none => (.answered (.error invalidLogin), s)
    | some member => (.verified member, s)
  | .verified member => after (delete (body.account env)) fun _ => .cleared member
  | .cleared member => after (add body.address (-1) env.loginWindow now) fun _ =>
    .answered (.ok member)
  | .answered answer => fun s => (.answered answer, s)

def Attempt.Checked : Attempt → Prop
  | .arrived | .accountCounted _ | .counted _ _ => False
  | .admitted | .verified _ | .cleared _ => True
  | .answered (.ok _) => True
  | .answered (.error e) => e = invalidLogin

instance : DecidablePred Attempt.Checked
  | .arrived | .accountCounted _ | .counted _ _ => isFalse id
  | .admitted | .verified _ | .cleared _ => isTrue trivial
  | .answered (.ok _) => isTrue trivial
  | .answered (.error e) => inferInstanceAs (Decidable (e = invalidLogin))

def Attempt.advance (env : Env) (members : Table Member) (body : LoginRequest) (now : ℚ) :
    ℕ → Attempt × MemoryStore → Attempt × MemoryStore
  | 0, p => p
  | n + 1, p => advance env members body now n (next env members body now p.1 p.2)

theorem Attempt.after_ok {x : Op α} (go : α → Attempt) (h : x.run s = (.ok a, s')) :
    after x go s = (go a, s') := by
  simp [after, h]

theorem Attempt.after_error {x : Op α} (go : α → Attempt) (h : x.run s = (.error e, s')) :
    after x go s = (.answered (.error e), s') := by
  simp [after, h]

def Attempt.ends (x : Op Member) (s : MemoryStore) : Attempt × MemoryStore :=
  (.answered (x.run s).1, (x.run s).2)

section
variable {env : Env} {members : Table Member} {body : LoginRequest} {now : ℚ}

theorem Attempt.advance_answered (n : ℕ) (answer : Except ApiError Member) (s : MemoryStore) :
    advance env members body now n (.answered answer, s) = (.answered answer, s) := by
  induction n with
  | zero => rfl
  | succ n ih => exact ih

theorem Attempt.advance_after {x : Op α} {go : α → Attempt} {f : α → Op Member} {n : ℕ}
    (h : ∀ a s, advance env members body now n (go a, s) = ends (f a) s) (s : MemoryStore) :
    advance env members body now n (after x go s) = ends (x >>= f) s := by
  unfold after ends
  rw [run_bind]
  cases hx : x.run s with
  | mk r s' =>
    cases r with
    | ok a => exact h a s'
    | error e => exact advance_answered n (.error e) s'

/-- The steps of a request that is alone are a sequential login. -/
theorem Attempt.alone (s : MemoryStore) :
    advance env members body now 6 (.arrived, s) = ends (login env members body now) s := by
  have hflat : login env members body now =
      add (body.account env) 1 env.loginWindow now >>= fun account =>
        add body.address 1 env.loginWindow now >>= fun ip =>
          refuseBlocked env.settings account ip >>= fun _ =>
            match authenticate env members body with
            | none => raise invalidLogin
            | some member =>
              delete (body.account env) >>= fun _ =>
                add body.address (-1) env.loginWindow now >>= fun _ => pure member := by
    simp only [login, reserveLoginAttempt, releaseLoginAttempt, bind_assoc]
    cases authenticate env members body <;> simp only [pure_bind]
  rw [hflat]
  refine advance_after (fun account => ?_) s
  refine advance_after fun ip => ?_
  refine advance_after fun _ s₃ => ?_
  cases hm : authenticate env members body with
  | none => simp [advance, next, hm, ends]
  | some member =>
    have hnext : advance env members body now 3 (.admitted, s₃) =
        advance env members body now 1 (after (delete (body.account env))
          (fun _ => .cleared member) s₃) := by
      simp only [advance, next, hm]
    rw [hnext]
    refine advance_after (fun _ => ?_) s₃
    exact advance_after fun _ s₅ => rfl

end

-- ---------------------------------------------------------------------------
-- Many requests
-- ---------------------------------------------------------------------------

/-- The requests in flight and the ledger of what the store has counted. -/
structure LoginSystem (ι : Type) where
  store : MemoryStore
  now : ℚ
  attempt : ι → Attempt
  ledger : Ledger ι

inductive LoginStep (ι : Type)
  | wait (d : ℚ) (nonneg : 0 ≤ d)
  | act (i : ι)

namespace LoginSystem

section
variable {ι : Type} [DecidableEq ι]

def start (now : ℚ) : LoginSystem ι where
  store := .new now
  now := now
  attempt _ := .arrived
  ledger := .fresh

def note (env : Env) (body : LoginRequest) (now : ℚ) (i : ι) : Attempt → Ledger ι → Ledger ι
  | .arrived => Ledger.reserve env now i (body.account env)
  | .accountCounted _ => Ledger.reserve env now i body.address
  | .verified _ => Ledger.clear now (body.account env)
  | .cleared _ => Ledger.giveBack env now i body.address
  | _ => id

def step (env : Env) (members : Table Member) (requests : ι → LoginRequest) (σ : LoginSystem ι) :
    LoginStep ι → LoginSystem ι
  | .wait d _ => { σ with now := σ.now + d }
  | .act i =>
    let (attempt, store) := (σ.attempt i).next env members (requests i) σ.now σ.store
    { σ with
      store := store
      attempt := Function.update σ.attempt i attempt
      ledger := note env (requests i) σ.now i (σ.attempt i) σ.ledger }

def Reachable (env : Env) (members : Table Member) (requests : ι → LoginRequest)
    (σ : LoginSystem ι) : Prop :=
  ∃ now events, σ = play (step env members requests) (start now) events

end

-- ---------------------------------------------------------------------------
-- What every step keeps
-- ---------------------------------------------------------------------------

section
variable {ι : Type} {env : Env} {members : Table Member} {requests : ι → LoginRequest}
  {σ : LoginSystem ι} {i j : ι} {l l' : Ledger ι} {body : LoginRequest} {now : ℚ} {a : Attempt}
  {key : String}

def numberOf (l : Ledger ι) (key : String) (i : ι) : Option ℤ := ((l key).slot i).map Slot.count

/-- Attempt `i` was counted under `key` in the counter's `life`. -/
def CountedIn (σ : LoginSystem ι) (key : String) (life : ℕ) (i : ι) : Prop :=
  ((σ.ledger key).slot i).map Slot.life = some life

instance {ι : Type} (σ : LoginSystem ι) (key : String) (life : ℕ) (i : ι) :
    Decidable (CountedIn σ key life i) :=
  inferInstanceAs (Decidable (_ = _))

/-- What a request holds in its local variables is what the ledger notes
about it. -/
def Noted (env : Env) (body : LoginRequest) (i : ι) (l : Ledger ι) : Attempt → Prop
  | .arrived => (l body.address).slot i = none
  | .accountCounted account => numberOf l (body.account env) i = some account.1 ∧
    (l body.address).slot i = none
  | .counted account ip =>
    numberOf l (body.account env) i = some account.1 ∧ numberOf l body.address i = some ip.1
  | .admitted | .verified _ | .cleared _ | .answered (.ok _) =>
    ∃ n m, numberOf l (body.account env) i = some n ∧ numberOf l body.address i = some m ∧
      Admits env.settings n m
  | .answered (.error e) => e = invalidLogin →
    ∃ n m, numberOf l (body.account env) i = some n ∧ numberOf l body.address i = some m ∧
      Admits env.settings n m

/-- The attempts that gave their address back are those that were answered. -/
def Gave (body : LoginRequest) (i : ι) (l : Ledger ι) : Attempt → Prop
  | .answered (.ok _) => True
  | _ => (l body.address).givenBack i = false

structure Inv (env : Env) (requests : ι → LoginRequest) (σ : LoginSystem ι) : Prop where
  follows : Follows σ.now σ.store σ.ledger
  sound : σ.ledger.Sound env σ.now
  noted : ∀ i, Noted env (requests i) i σ.ledger (σ.attempt i)
  gave : ∀ i, Gave (requests i) i σ.ledger (σ.attempt i)

theorem inv_start (now : ℚ) : Inv env requests (start now) where
  follows := follows_new now
  sound := Ledger.sound_fresh
  noted _ := rfl
  gave _ := rfl

theorem Noted.congr (hs : ∀ key, (l' key).slot i = (l key).slot i) (h : Noted env body i l a) :
    Noted env body i l' a := by
  unfold Noted numberOf at *
  simpa only [hs] using h

theorem Gave.congr (hg : ∀ key, (l' key).givenBack i = (l key).givenBack i) (h : Gave body i l a) :
    Gave body i l' a := by
  unfold Gave at *
  simpa only [hg] using h

theorem Noted.checked (h : Noted env body i l a) (hc : a.Checked) :
    ∃ n m, numberOf l (body.account env) i = some n ∧ numberOf l body.address i = some m ∧
      Admits env.settings n m := by
  cases a with
  | arrived | accountCounted | counted => exact hc.elim
  | admitted | verified | cleared => exact h
  | answered answer =>
    cases answer with
    | ok => exact h
    | error => exact h hc

variable [DecidableEq ι]

theorem note_slot (h : j ≠ i) : (note env body now i a l key).slot j = (l key).slot j := by
  cases a with
  | arrived => exact Ledger.reserve_slot h
  | accountCounted => exact Ledger.reserve_slot h
  | verified => exact congrFun Ledger.clear_slot j
  | cleared => exact congrFun Ledger.giveBack_slot j
  | _ => rfl

theorem note_givenBack (h : j ≠ i) :
    (note env body now i a l key).givenBack j = (l key).givenBack j := by
  cases a with
  | arrived => exact congrFun Ledger.reserve_givenBack j
  | accountCounted => exact congrFun Ledger.reserve_givenBack j
  | verified => exact congrFun Ledger.clear_givenBack j
  | cleared => exact Ledger.giveBack_givenBack h
  | _ => rfl

theorem sound_note (h : l.Sound env now) : (note env body now i a l).Sound env now := by
  cases a with
  | arrived => exact h.reserve
  | accountCounted => exact h.reserve
  | verified => exact h.clear
  | cleared => exact h.giveBack
  | _ => exact h

theorem numberOf_reserve :
    numberOf (l.reserve env now i key) key i = some (l.reserve env now i key key).value := by
  obtain ⟨e, he⟩ := Tally.ensure_stored env.window now (l key)
  rw [numberOf, Ledger.reserve_self, Tally.reserve_slot_self he, Tally.value,
    Tally.reserve_stored he]
  rfl

theorem numberOf_reserve_other {k : String} (h : k ≠ key) :
    numberOf (l.reserve env now i key) k i = numberOf l k i := by
  rw [numberOf, Ledger.reserve_other h, numberOf]

theorem next_noted (members : Table Member) {s : MemoryStore} (hf : Follows now s l)
    (hn : Noted env body i l a) (hg : Gave body i l a) :
    Follows now (a.next env members body now s).2 (note env body now i a l) ∧
      Noted env body i (note env body now i a l) (a.next env members body now s).1 ∧
      Gave body i (note env body now i a l) (a.next env members body now s).1 := by
  have hne := account_ne_address env body body
  cases a with
  | arrived =>
    obtain ⟨retry, s', hrun, hf'⟩ := Ledger.add_reserve env hf (body.account env) i
    have hnext : Attempt.next env members body now .arrived s = (.accountCounted (_, retry), s') :=
      Attempt.after_ok _ hrun
    rw [hnext]
    refine ⟨hf', ⟨numberOf_reserve, ?_⟩, ?_⟩
    · exact (congrArg (Tally.slot · i) (Ledger.reserve_other hne.symm)).trans hn
    · exact (congrFun Ledger.reserve_givenBack i).trans hg
  | accountCounted account =>
    obtain ⟨retry, s', hrun, hf'⟩ := Ledger.add_reserve env hf body.address i
    have hnext : Attempt.next env members body now (.accountCounted account) s =
        (.counted account (_, retry), s') :=
      Attempt.after_ok _ hrun
    rw [hnext]
    refine ⟨hf', ⟨(numberOf_reserve_other hne).trans hn.1, numberOf_reserve⟩, ?_⟩
    exact (congrFun Ledger.reserve_givenBack i).trans hg
  | counted account ip =>
    rcases refuseBlocked_run env.settings account ip s with ⟨hadm, hrun⟩ | ⟨-, retries, hrun⟩
    · have hnext : Attempt.next env members body now (.counted account ip) s = (.admitted, s) :=
        Attempt.after_ok _ hrun
      rw [hnext]
      exact ⟨hf, ⟨_, _, hn.1, hn.2, hadm⟩, hg⟩
    · have hnext : Attempt.next env members body now (.counted account ip) s =
          (.answered (.error (tooMany retries)), s) := Attempt.after_error _ hrun
      rw [hnext]
      exact ⟨hf, fun h => by simp [tooMany, invalidLogin] at h, hg⟩
  | admitted =>
    simp only [Attempt.next]
    split
    · exact ⟨hf, fun _ => hn, hg⟩
    · exact ⟨hf, hn, hg⟩
  | verified member =>
    obtain ⟨s', hrun, hf'⟩ := Ledger.delete_clear hf (body.account env)
    have hnext : Attempt.next env members body now (.verified member) s = (.cleared member, s') :=
      Attempt.after_ok (fun _ => .cleared member) hrun
    rw [hnext]
    refine ⟨hf', Noted.congr (fun key => congrFun Ledger.clear_slot i) hn, ?_⟩
    exact (congrFun Ledger.clear_givenBack i).trans hg
  | cleared member =>
    obtain ⟨r, s', hrun, hf'⟩ := Ledger.add_giveBack env hf body.address i
    have hnext : Attempt.next env members body now (.cleared member) s =
        (.answered (.ok member), s') :=
      Attempt.after_ok _ hrun
    rw [hnext]
    exact ⟨hf', Noted.congr (fun key => congrFun Ledger.giveBack_slot i) hn, trivial⟩
  | answered answer => exact ⟨hf, hn, hg⟩

theorem Inv.step (h : Inv env requests σ) (e : LoginStep ι) :
    Inv env requests (σ.step env members requests e) := by
  cases e with
  | wait d hd =>
    have hle : σ.now ≤ σ.now + d := le_add_of_nonneg_right hd
    exact ⟨h.follows.later hle, h.sound.later hle, h.noted, h.gave⟩
  | act i =>
    obtain ⟨hf, hn, hg⟩ := next_noted members h.follows (h.noted i) (h.gave i)
    refine ⟨hf, sound_note h.sound, ?_, ?_⟩
    · intro j
      by_cases hj : j = i
      · subst hj
        simpa only [LoginSystem.step, Function.update_self] using hn
      · simp only [LoginSystem.step, Function.update_of_ne hj]
        exact (h.noted j).congr fun key => note_slot hj
    · intro j
      by_cases hj : j = i
      · subst hj
        simpa only [LoginSystem.step, Function.update_self] using hg
      · simp only [LoginSystem.step, Function.update_of_ne hj]
        exact (h.gave j).congr fun key => note_givenBack hj

theorem Reachable.inv (h : Reachable env members requests σ) : Inv env requests σ := by
  obtain ⟨now, events, rfl⟩ := h
  exact play_keeps (fun _ e hσ => hσ.step e) events (inv_start now)

end

end LoginSystem

end CloudMonitor

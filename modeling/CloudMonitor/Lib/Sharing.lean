import CloudMonitor.Lib.TtlMap

/-!
# Systems shared by several users

One system takes the events of all its users in turn. A user for whom the
others' events change nothing that matters is answered as by a system of its
own, which takes only this user's events (`repliesTo_filter`).
-/

namespace CloudMonitor

section
variable {σ τ ε ρ : Type}

/-- What is replied to the events `mine` selects. -/
def repliesTo (mine : ε → Bool) (step : σ → ε → ρ × σ) : σ → List ε → List ρ
  | _, [] => []
  | s, e :: events =>
    let later := repliesTo mine step (step s e).2 events
    if mine e then (step s e).1 :: later else later

variable {mine : ε → Bool} {step : σ → ε → ρ × σ} {s : σ} {C : σ → ε → Prop}

theorem repliesTo_cons_mine {e : ε} (h : mine e = true) (events : List ε) :
    repliesTo mine step s (e :: events) =
      (step s e).1 :: repliesTo mine step (step s e).2 events := by
  rw [repliesTo, if_pos h]

theorem repliesTo_cons_other {e : ε} (h : ¬mine e = true) (events : List ε) :
    repliesTo mine step s (e :: events) = repliesTo mine step (step s e).2 events := by
  rw [repliesTo, if_neg h]

/-- The shared system and the private one stay related: an event of the user
moves both alike and gets one reply, and any other moves the shared one only. -/
theorem repliesTo_filter {step' : τ → ε → ρ × τ} {R : σ → τ → Prop}
    (hmine : ∀ s t e, R s t → C s e → mine e = true →
      (step s e).1 = (step' t e).1 ∧ R (step s e).2 (step' t e).2)
    (hother : ∀ s t e, R s t → C s e → ¬mine e = true → R (step s e).2 t) {t : τ}
    {events : List ε} (h : R s t) (hc : Along (fun s e => (step s e).2) C s events) :
    repliesTo mine step s events = replies step' t (events.filter mine) ∧
      R (after step s events) (after step' t (events.filter mine)) := by
  induction events generalizing s t with
  | nil => exact ⟨rfl, h⟩
  | cons e events ih =>
    by_cases he : mine e = true
    · obtain ⟨hreply, hnext⟩ := hmine s t e h hc.1 he
      obtain ⟨hreplies, hend⟩ := ih hnext hc.2
      rw [repliesTo_cons_mine he, List.filter_cons_of_pos he, hreply, hreplies]
      exact ⟨rfl, hend⟩
    · obtain ⟨hreplies, hend⟩ := ih (hother s t e h hc.1 he) hc.2
      rw [repliesTo_cons_other he, List.filter_cons_of_neg he]
      exact ⟨hreplies, hend⟩

/-- An invariant that speaks of the events so far. -/
theorem after_history {Q : List ε → σ → Prop}
    (hstep : ∀ past s e, Q past s → C s e → Q (past ++ [e]) (step s e).2) {past events : List ε}
    (h : Q past s) (hc : Along (fun s e => (step s e).2) C s events) :
    Q (past ++ events) (after step s events) := by
  induction events generalizing past s with
  | nil => rwa [List.append_nil]
  | cons e events ih =>
    rw [List.append_cons]
    exact ih (hstep past s e h hc.1) hc.2

end

end CloudMonitor

import CloudMonitor.Lib.Tally
import CloudMonitor.Store.Memory

/-!
# Counters in the store

A key of the store under which only `add` and `delete` are used is a counter
in fixed windows: what a lookup finds there is what the key's tally has live.
-/

namespace CloudMonitor

namespace MemoryStore

/-- The store holds under `key` what the tally has live. -/
def Tracks {ι : Type} (now : ℚ) (s : MemoryStore) (key : String) (t : Tally ι ℚ) : Prop :=
  s.look now key = (t.live now).map (Entry.map toString)

section
variable {ι : Type} {now now' window : ℚ} {s s' : MemoryStore} {key k : String} {t : Tally ι ℚ}
  {o : Option (Entry String ℚ)}

theorem Tracks.later (h : Tracks now s key t) (hle : now ≤ now') : Tracks now' s key t := by
  calc s.look now' key = alive now' (s.look now key) := (alive_look hle).symm
    _ = alive now' ((t.live now).map (Entry.map toString)) := by rw [h]
    _ = (alive now' (t.live now)).map (Entry.map toString) := alive_map _ _
    _ = (t.live now').map (Entry.map toString) := by rw [Tally.live, alive_alive hle]; rfl

theorem Tracks.other (h : Tracks now s k t) (hw : Writes now key o s s') (hk : k ≠ key) :
    Tracks now s' k t :=
  (hw.other le_rfl hk).trans h

theorem Tracks.write (hw : Writes now key (t.stored.map (Entry.map toString)) s s') :
    Tracks now s' key t :=
  (hw.same le_rfl).trans (alive_map _ _)

theorem Tracks.counter (h : Tracks now s key t) (ttl : ℤ) :
    some (s.counter ttl now key) = (t.ensure (ttl : ℚ) now).stored.map (Entry.map toString) := by
  unfold MemoryStore.counter
  rw [h]
  cases hl : t.live now with
  | none =>
    rw [Tally.ensure_none hl]
    rfl
  | some e =>
    rw [Tally.ensure_live hl, (alive_eq_some.mp hl).1]
    rfl

theorem add_tracks (h : Tracks now s key t) (amount ttl : ℤ) :
    ∃ retry s', (add key amount ttl now).run s =
      (.ok ((t.add (ttl : ℚ) now amount).value, retry), s') ∧
      (∃ o, Writes now key o s s') ∧ Tracks now s' key (t.add (ttl : ℚ) now amount) := by
  obtain ⟨e, he⟩ := Tally.ensure_stored (ttl : ℚ) now t
  have hc : s.counter ttl now key = e.map toString := by
    simpa [he] using h.counter ttl
  obtain ⟨s', hrun, hw⟩ := add_run e.value amount (by rw [hc]; exact readInt?_repr _)
  have hv : (t.add (ttl : ℚ) now amount).value = e.value + amount := by
    simp [Tally.value, Tally.add, Tally.bump, he]
  have hs : (t.add (ttl : ℚ) now amount).stored.map (Entry.map toString) =
      some ⟨toString (e.value + amount), (s.counter ttl now key).expires⟩ := by
    simp [Tally.add, Tally.bump, he, hc, Entry.map]
  exact ⟨_, s', hv ▸ hrun, ⟨_, hw⟩, Tracks.write (hs.symm ▸ hw)⟩

theorem delete_tracks (s : MemoryStore) (key : String) (now : ℚ) (t : Tally ι ℚ) :
    ∃ s', (delete key).run s = (.ok (), s') ∧ (∃ o, Writes now key o s s') ∧
      Tracks now s' key (t.clear now) := by
  obtain ⟨s', hrun, hw⟩ := delete_run key now s
  exact ⟨s', hrun, ⟨_, hw⟩, Tracks.write hw⟩

-- ---------------------------------------------------------------------------
-- All keys at once
-- ---------------------------------------------------------------------------

def Follows (now : ℚ) (s : MemoryStore) (tally : String → Tally ι ℚ) : Prop :=
  ∀ key, Tracks now s key (tally key)

variable {tally : String → Tally ι ℚ} {t' : Tally ι ℚ}

theorem follows_new (start : ℚ) : Follows now (new start) (fun _ => (Tally.fresh : Tally ι ℚ)) :=
  fun _ => rfl

theorem Follows.later (h : Follows now s tally) (hle : now ≤ now') : Follows now' s tally :=
  fun key => (h key).later hle

theorem Follows.write (h : Follows now s tally) (hw : ∃ o, Writes now key o s s')
    (ht : Tracks now s' key t') :
    Follows now s' (Function.update tally key t') := by
  intro k
  by_cases hk : k = key
  · subst hk
    rwa [Function.update_self]
  · obtain ⟨o, hw⟩ := hw
    rw [Function.update_of_ne hk]
    exact (h k).other hw hk

theorem Follows.add (h : Follows now s tally) (key : String) (amount ttl : ℤ) (t' : Tally ι ℚ)
    (ht : t'.stored = ((tally key).add (ttl : ℚ) now amount).stored) :
    ∃ retry s', (add key amount ttl now).run s = (.ok (t'.value, retry), s') ∧
      Follows now s' (Function.update tally key t') := by
  obtain ⟨retry, s', hrun, hw, htr⟩ := add_tracks (h key) amount ttl
  have hv : t'.value = ((tally key).add (ttl : ℚ) now amount).value := by
    simp only [Tally.value, ht]
  refine ⟨retry, s', hv ▸ hrun, h.write hw ?_⟩
  simpa only [Tracks, Tally.live, ht] using htr

theorem Follows.delete (h : Follows now s tally) (key : String) :
    ∃ s', (delete key).run s = (.ok (), s') ∧
      Follows now s' (Function.update tally key ((tally key).clear now)) := by
  obtain ⟨s', hrun, hw, htr⟩ := delete_tracks s key now (tally key)
  exact ⟨s', hrun, h.write hw htr⟩

end

end MemoryStore

end CloudMonitor

import CloudMonitor.Estate

/-!
# Scans by several callers

A scan opens alerts for the instances in its caller's scope that lack one. So
what a sequence of scans adds depends only on which instances some scan of each
type reaches, not on the order, on who reaches them or how often.
-/

namespace CloudMonitor

open Fallible

-- ---------------------------------------------------------------------------
-- Sequences of scans
-- ---------------------------------------------------------------------------

/-- The scan of a type, at the instant `now`. -/
def detectionJob (env : Env) (now : ℤ) (clientIds : Option Select) : AlertType → ScanJob
  | .cpuHigh => warningsJob env clientIds
  | .errorDetected => errorsJob clientIds
  | .longStopped => longStoppedJob env clientIds now

structure Detection where
  alertType : AlertType
  caller : Member
  page : ℕ
  size : ℕ

def Detection.job (env : Env) (now : ℤ) (d : Detection) : ScanJob :=
  detectionJob env now (accessibleClientIds d.caller) d.alertType

/-- One request, of a caller the token has been checked for. -/
def detect (env : Env) (now : ℤ) (d : Detection) : Svc (Page Instance) :=
  scan env (d.job env now) d.page d.size

def detectAll (env : Env) (now : ℤ) : List Detection → World → World
  | [], w => w
  | d :: ds, w => detectAll env now ds ((detect env now d).run w.session).2.world

/-- The services are these scans; `check_long_stopped` reads its instant from
the clock. -/
theorem services_detect (env : Env) (now : ℤ) (m : Member) (page size : ℕ) :
    checkWarnings env (accessibleClientIds m) page size = detect env now ⟨.cpuHigh, m, page, size⟩ ∧
    checkErrors env (accessibleClientIds m) page size =
      detect env now ⟨.errorDetected, m, page, size⟩ ∧
    checkLongStopped env (accessibleClientIds m) page size = (do
      let now ← utcnow env
      detect env now ⟨.longStopped, m, page, size⟩) := ⟨rfl, rfl, rfl⟩

/-- Everything of an alert but its id and the time of its detection. -/
def Alert.content (a : Alert) : Alert := { a with id := 0, detectedAt := 0 }

/-- Both have added the same alerts to `db`, up to ids and detection times, and
changed nothing else. -/
def SameAlerts (db db₁ db₂ : Database) : Prop :=
  ∃ new₁ new₂, db₁.alerts.rows.Perm (db.alerts.rows ++ new₁) ∧
    db₂.alerts.rows.Perm (db.alerts.rows ++ new₂) ∧
    (new₁.map Alert.content).Perm (new₂.map Alert.content) ∧
    db₁ = { db with alerts := db₁.alerts } ∧ db₂ = { db with alerts := db₂.alerts }

/-- Scans of the type by an `ADMIN` or by every manager. -/
def Complete (db : Database) (alertType : AlertType) (ds : List Detection) : Prop :=
  (∃ d ∈ ds, d.alertType = alertType ∧ d.caller.role = .admin) ∨
    ∀ m ∈ managers db, ∃ d ∈ ds, d.alertType = alertType ∧ d.caller = m

/-- The callers of the type's scans. -/
def Calls (ds : List Detection) (alertType : AlertType) (m : Member) : Prop :=
  ∃ d ∈ ds, d.alertType = alertType ∧ d.caller = m

-- ---------------------------------------------------------------------------
-- What a sequence opens
-- ---------------------------------------------------------------------------

section
variable {env : Env} {now : ℤ} {db : Database}

def openedAlert (env : Env) (now : ℤ) (alertType : AlertType) (i : Instance) : NewAlert :=
  { instanceId := i.id, alertType := alertType
    message := (detectionJob env now none alertType).message i }

/-- The alert a sequence of scans opens, where `db` lacked it. -/
def Opened (env : Env) (now : ℤ) (db : Database) (ds : List Detection) (a : Alert) : Prop :=
  ∃ d ∈ ds, ∃ i ∈ db.instances, inScope (accessibleClientIds d.caller) db i.clientId = true ∧
    (detectionJob env now none d.alertType).condition i = true ∧ 0 < i.id ∧
    hasUnresolved db.alerts d.alertType i.id = false ∧
    a = (openedAlert env now d.alertType i).row 0 0

theorem detectionJob_alertType (clientIds : Option Select) (ty : AlertType) :
    (detectionJob env now clientIds ty).alertType = ty := by cases ty <;> rfl

theorem detectionJob_query (clientIds : Option Select) (ty : AlertType) (i : Instance) :
    (detectionJob env now clientIds ty).query db i =
      ((detectionJob env now none ty).condition i && inScope clientIds db i.clientId) := by
  cases ty <;> rfl

theorem detectionJob_message (clientIds : Option Select) (ty : AlertType) :
    (detectionJob env now clientIds ty).message = (detectionJob env now none ty).message := by
  cases ty <;> rfl

theorem row_content (a : NewAlert) (id t : ℤ) : (a.row id t).content = a.row 0 0 := rfl

theorem addAlerts_content (env : Env) (tick : ℕ) (as : List NewAlert) (t : Table Alert) :
    ∃ added, (addAlerts env tick as t).rows.Perm (t.rows ++ added) ∧
      added.map Alert.content = as.map fun a => a.row 0 0 := by
  obtain ⟨added, hrows, hperm⟩ := addAlerts_perm env tick as t
  refine ⟨added, hperm, ?_⟩
  clear hperm
  induction hrows with
  | nil => rfl
  | cons hrow _ ih =>
    obtain ⟨id, k, rfl⟩ := hrow
    rw [List.map_cons, List.map_cons, ih, row_content]

theorem detect_db (env : Env) (now : ℤ) (d : Detection) (w : World) :
    ((detect env now d).run w.session).2.world.db = { w.db with
      alerts := addAlerts env w.tick
        (missingAlerts (d.job env now) w.db.alerts (scanMatches (d.job env now) w.db))
        w.db.alerts } := by
  rw [detect, scan_run, Session.scanned]
  split
  · next hnone =>
    have hnil := List.isEmpty_iff.mp hnone
    simp only [World.session] at hnil
    simp only [Session.world, World.session, Session.addAlerts, hnil, addAlerts]
  · rfl

/-- The alert one scan opens when the alerts are `t`. -/
def Misses (env : Env) (now : ℤ) (db : Database) (t : Table Alert) (d : Detection) (a : Alert) :
    Prop :=
  ∃ i ∈ db.instances, inScope (accessibleClientIds d.caller) db i.clientId = true ∧
    (detectionJob env now none d.alertType).condition i = true ∧ 0 < i.id ∧
    hasUnresolved t d.alertType i.id = false ∧
    a = (openedAlert env now d.alertType i).row 0 0

theorem mem_missing {d : Detection} {t : Table Alert} {a : Alert} :
    a ∈ (missingAlerts (d.job env now) t (scanMatches (d.job env now) db)).map (·.row 0 0) ↔
      Misses env now db t d a := by
  simp only [Misses, missingAlerts, scanMatches, matchesFrom, Detection.job, detectionJob_alertType,
    detectionJob_query, detectionJob_message, List.map_map, List.mem_map, List.mem_filter,
    Bool.and_eq_true, Bool.not_eq_true', decide_eq_true_eq]
  constructor
  · rintro ⟨i, ⟨⟨hi, ⟨hcond, hscope⟩, hpos⟩, hlacks⟩, rfl⟩
    exact ⟨i, hi, hscope, hcond, hpos, hlacks, rfl⟩
  · rintro ⟨i, hi, hscope, hcond, hpos, hlacks, rfl⟩
    exact ⟨i, ⟨⟨hi, ⟨hcond, hscope⟩, hpos⟩, hlacks⟩, rfl⟩

/-- `db'` is `db` with one alert for each that the sequence opens. -/
def HasOpened (env : Env) (now : ℤ) (db : Database) (ds : List Detection) (db' : Database) : Prop :=
  db' = { db with alerts := db'.alerts } ∧
  ∃ new, db'.alerts.rows.Perm (db.alerts.rows ++ new) ∧ (new.map Alert.content).Nodup ∧
    ∀ a, a ∈ new.map Alert.content ↔ Opened env now db ds a

theorem HasOpened.unresolved_iff {ds : List Detection} {db' : Database}
    (h : HasOpened env now db ds db') (ty : AlertType) (id : ℤ) :
    hasUnresolved db'.alerts ty id = true ↔ hasUnresolved db.alerts ty id = true ∨
      ∃ a, Opened env now db ds a ∧ a.instanceId = id ∧ a.alertType = ty := by
  obtain ⟨-, new, hperm, -, hopened⟩ := h
  simp only [hasUnresolved_iff, Table.mem_def, hperm.mem_iff, List.mem_append]
  constructor
  · rintro ⟨x, hx | hx, hid, hty, hun⟩
    · exact .inl ⟨x, hx, hid, hty, hun⟩
    · exact .inr ⟨x.content, (hopened _).mp (List.mem_map_of_mem hx), hid, hty⟩
  · rintro (⟨x, hx, hid, hty, hun⟩ | ⟨a, ha, hid, hty⟩)
    · exact ⟨x, .inl hx, hid, hty, hun⟩
    · obtain ⟨x, hx, rfl⟩ := List.mem_map.mp ((hopened a).mpr ha)
      obtain ⟨d, -, i, -, -, -, -, -, hrow⟩ := ha
      exact ⟨x, .inr hx, hid, hty, (congrArg Alert.isResolved hrow :)⟩

theorem Opened.snoc {ds : List Detection} {d : Detection} {a : Alert} :
    Opened env now db (ds ++ [d]) a ↔ Opened env now db ds a ∨ Misses env now db db.alerts d a := by
  simp only [Opened, Misses, List.mem_append, List.mem_singleton, or_and_right, exists_or,
    exists_eq_left]

/-- What was opened before is not missing any more. -/
theorem HasOpened.not_misses {ds : List Detection} {d : Detection} {db' : Database} {a : Alert}
    (h : HasOpened env now db ds db') (ha : Opened env now db ds a) :
    ¬Misses env now db db'.alerts d a := by
  rintro ⟨i, -, -, -, -, hlacks, hrow⟩
  have hhas := (h.unresolved_iff d.alertType i.id).mpr
    (.inr ⟨a, ha, congrArg Alert.instanceId hrow, congrArg Alert.alertType hrow⟩)
  simp [hhas] at hlacks

/-- One more scan opens what it misses now; what it would have missed at the
start and does not any more, an earlier scan of the type has opened. -/
theorem HasOpened.snoc_iff {ds : List Detection} {db' : Database} (h : HasOpened env now db ds db')
    (d : Detection) (a : Alert) :
    Opened env now db (ds ++ [d]) a ↔
      Opened env now db ds a ∨ Misses env now db db'.alerts d a := by
  rw [Opened.snoc]
  constructor
  · rintro (hopened | ⟨i, hi, hscope, hcond, hpos, hlacked, rfl⟩)
    · exact .inl hopened
    · cases hlacks : hasUnresolved db'.alerts d.alertType i.id with
      | false => exact .inr ⟨i, hi, hscope, hcond, hpos, hlacks, rfl⟩
      | true =>
        rcases (h.unresolved_iff _ _).mp hlacks with hstart | ⟨a, ha, hid, hty⟩
        · simp [hstart] at hlacked
        · have hopened := ha
          obtain ⟨d', -, j, hj, -, -, -, -, rfl⟩ := ha
          obtain rfl : j = i := Table.unique hj hi hid
          have hsame : d'.alertType = d.alertType := hty
          exact .inl (hsame ▸ hopened)
  · rintro (hopened | ⟨i, hi, hscope, hcond, hpos, hlacks, rfl⟩)
    · exact .inl hopened
    · have hlacked : hasUnresolved db.alerts d.alertType i.id = false := by
        rw [← Bool.not_eq_true] at hlacks ⊢
        exact fun hstart => hlacks ((h.unresolved_iff _ _).mpr (.inl hstart))
      exact .inr ⟨i, hi, hscope, hcond, hpos, hlacked, rfl⟩

theorem HasOpened.step {ds : List Detection} {w : World} (d : Detection)
    (h : HasOpened env now db ds w.db) :
    HasOpened env now db (ds ++ [d]) ((detect env now d).run w.session).2.world.db := by
  have hsnoc := h.snoc_iff d
  have hfresh (a : Alert) (ha : Opened env now db ds a) := h.not_misses (d := d) ha
  obtain ⟨hdb, new, hperm, hnodup, hopened⟩ := h
  rw [detect_db]
  generalize hms : missingAlerts (d.job env now) w.db.alerts (scanMatches (d.job env now) w.db) =
    missing
  obtain ⟨added, hadded, hcontent⟩ := addAlerts_content env w.tick missing w.db.alerts
  have hmissing (a : Alert) :
      a ∈ added.map Alert.content ↔ Misses env now db w.db.alerts d a := by
    rw [hcontent, ← hms, mem_missing, hdb]
    rfl
  refine ⟨by rw [hdb], new ++ added, ?_, ?_, fun a => ?_⟩
  · exact hadded.trans ((hperm.append_right added).trans (by rw [List.append_assoc]))
  · rw [List.map_append, List.nodup_append']
    refine ⟨hnodup, ?_, fun a hold hnew => hfresh a ((hopened a).mp hold) ((hmissing a).mp hnew)⟩
    rw [hcontent, ← hms]
    refine List.pairwise_map.mpr ?_
    refine (missingAlerts_pairwise _ _ (matchesFrom_sorted _ _ 0)).imp fun hne heq => hne ?_
    exact (congrArg Alert.instanceId heq :)
  · rw [List.map_append, List.mem_append, hopened, hmissing, hsnoc]

theorem hasOpened_nil (env : Env) (now : ℤ) (db : Database) : HasOpened env now db [] db := by
  refine ⟨rfl, [], by simp, List.nodup_nil, fun a => ?_⟩
  simp [Opened]

theorem HasOpened.run {done : List Detection} {w : World} (ds : List Detection)
    (h : HasOpened env now db done w.db) :
    HasOpened env now db (done ++ ds) (detectAll env now ds w).db := by
  induction ds generalizing done w with
  | nil => rwa [List.append_nil]
  | cons d ds ih =>
    have hrest := ih (h.step d)
    rwa [List.append_assoc] at hrest

theorem detectAll_opened (env : Env) (now : ℤ) (ds : List Detection) (w : World) :
    HasOpened env now w.db ds (detectAll env now ds w).db :=
  (hasOpened_nil env now w.db).run ds

theorem HasOpened.same {ds ds' : List Detection} {db₁ db₂ : Database}
    (h : HasOpened env now db ds db₁) (h' : HasOpened env now db ds' db₂)
    (hiff : ∀ a, Opened env now db ds a ↔ Opened env now db ds' a) : SameAlerts db db₁ db₂ := by
  obtain ⟨hdb, new, hperm, hnodup, hopened⟩ := h
  obtain ⟨hdb', new', hperm', hnodup', hopened'⟩ := h'
  refine ⟨new, new', hperm, hperm', ?_, hdb, hdb'⟩
  refine (List.perm_ext_iff_of_nodup hnodup hnodup').mpr fun a => ?_
  rw [hopened, hiff, hopened']

/-- An instance that one sequence reaches with a scan of a type, so does the other. -/
theorem Opened.mono {ds ds' : List Detection} {a : Alert}
    (hreach : ∀ d ∈ ds, ∀ i ∈ db.instances,
      inScope (accessibleClientIds d.caller) db i.clientId = true →
        ∃ d' ∈ ds', d'.alertType = d.alertType ∧
          inScope (accessibleClientIds d'.caller) db i.clientId = true)
    (h : Opened env now db ds a) : Opened env now db ds' a := by
  obtain ⟨d, hd, i, hi, hscope, hcond, hpos, hlacks, rfl⟩ := h
  obtain ⟨d', hd', hty, hscope'⟩ := hreach d hd i hi hscope
  exact ⟨d', hd', i, hi, hscope', hty ▸ hcond, hpos, hty ▸ hlacks, by rw [hty]⟩

end

-- ---------------------------------------------------------------------------
-- Complete sequences
-- ---------------------------------------------------------------------------

theorem Complete.reaches {env : Env} {w : World} {ty : AlertType} {ds : List Detection}
    (h : Complete w.db ty ds) (wf : WellFormed env w) {i : Instance} (hi : i ∈ w.db.instances) :
    ∃ d ∈ ds, d.alertType = ty ∧
      inScope (accessibleClientIds d.caller) w.db i.clientId = true := by
  rcases h with ⟨d, hd, hty, hadmin⟩ | hall
  · exact ⟨d, hd, hty, inScope_admin hadmin⟩
  · obtain ⟨m, hm⟩ := manager_of_client wf (wf.instance_client i hi)
    have hmem : m ∈ (managers w.db).filter fun m =>
        inScope (accessibleClientIds m) w.db i.clientId := hm ▸ List.mem_singleton_self m
    obtain ⟨hmanager, hscope⟩ := List.mem_filter.mp hmem
    obtain ⟨d, hd, hty, rfl⟩ := hall m hmanager
    exact ⟨d, hd, hty, hscope⟩

theorem opened_of_agree {env : Env} {w : World} (wf : WellFormed env w) {now : ℤ}
    {ds ds' : List Detection} {a : Alert}
    (h : ∀ ty, Complete w.db ty ds' ∨ ∀ m, Calls ds ty m → Calls ds' ty m)
    (ha : Opened env now w.db ds a) : Opened env now w.db ds' a := by
  refine ha.mono fun d hd i hi hscope => ?_
  rcases h d.alertType with hcomplete | hcalls
  · exact hcomplete.reaches wf hi
  · obtain ⟨d', hd', hty, hcaller⟩ := hcalls d.caller ⟨d, hd, rfl, rfl⟩
    exact ⟨d', hd', hty, hcaller ▸ hscope⟩

theorem detectAll_agree (env : Env) (w : World) (wf : WellFormed env w) (now : ℤ)
    (ds ds' : List Detection)
    (hagree : ∀ ty, (Complete w.db ty ds ∧ Complete w.db ty ds') ∨
      ∀ m, Calls ds ty m ↔ Calls ds' ty m) :
    SameAlerts w.db (detectAll env now ds w).db (detectAll env now ds' w).db := by
  refine (detectAll_opened env now ds w).same (detectAll_opened env now ds' w) fun a => ?_
  constructor
  · exact opened_of_agree wf fun ty => (hagree ty).imp (fun h => h.2) fun h m => (h m).mp
  · exact opened_of_agree wf fun ty => (hagree ty).imp (fun h => h.1) fun h m => (h m).mpr

theorem calls_of_ne {ds : List Detection} {ty ty' : AlertType} {m : Member}
    (hall : ∀ d ∈ ds, d.alertType = ty) (hne : ty' ≠ ty) : ¬Calls ds ty' m := by
  rintro ⟨d, hd, hty, -⟩
  exact hne (hty.symm.trans (hall d hd))

/-- From a reachable database, at one instant. One scan of a type by an
`ADMIN`, one by each manager in any order and any longer sequence that is
complete add the same alerts; scans in another order do too; and with several
types in a sequence, each may be complete or keep its callers. -/
theorem scans_agree (env : Env) (w : World) (h : Reachable env w) (now : ℤ) :
    (∀ ty ds ds', (∀ d ∈ ds, d.alertType = ty) → (∀ d ∈ ds', d.alertType = ty) →
      Complete w.db ty ds → Complete w.db ty ds' →
        SameAlerts w.db (detectAll env now ds w).db (detectAll env now ds' w).db) ∧
    (∀ ds ds', ds.Perm ds' →
      SameAlerts w.db (detectAll env now ds w).db (detectAll env now ds' w).db) ∧
    (∀ ds ds', (∀ ty, (Complete w.db ty ds ∧ Complete w.db ty ds') ∨
        ∀ m, Calls ds ty m ↔ Calls ds' ty m) →
      SameAlerts w.db (detectAll env now ds w).db (detectAll env now ds' w).db) := by
  have hagree := detectAll_agree env w h.wellFormed now
  refine ⟨fun ty ds ds' hds hds' hcomplete hcomplete' => hagree ds ds' fun ty' => ?_,
    fun ds ds' hperm => hagree ds ds' fun ty => .inr fun m => ?_, hagree⟩
  · by_cases hty : ty' = ty
    · subst hty
      exact .inl ⟨hcomplete, hcomplete'⟩
    · exact .inr fun m => iff_of_false (calls_of_ne hds hty) (calls_of_ne hds' hty)
  · simp only [Calls, hperm.mem_iff]

def errorsBy (m : Member) : Detection := ⟨.errorDetected, m, 1, 10⟩

/-- On the seeded database: an `ADMIN`, and the managers twice. -/
theorem scans_agree_seeded :
    SameAlerts (seeded (.every 1)).db
      (detectAll (.every 1) 0 [errorsBy ⟨1, "", "", "", .admin⟩] (seeded (.every 1))).db
      (detectAll (.every 1) 0 [errorsBy manager2, errorsBy manager1, errorsBy manager2]
        (seeded (.every 1))).db := by
  have hmanagers : managers (seeded (.every 1)).db = [manager1, manager2] := by decide +kernel
  refine (scans_agree (.every 1) (seeded (.every 1)) ⟨_, .start⟩ 0).1 .errorDetected _ _
    (by simp [errorsBy]) (by simp [errorsBy]) (.inl ⟨_, List.mem_singleton_self _, rfl, rfl⟩)
    (.inr ?_)
  rw [hmanagers]
  simp [errorsBy]

end CloudMonitor

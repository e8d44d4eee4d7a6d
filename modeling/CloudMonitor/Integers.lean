import CloudMonitor.Access

/-!
# The integers a request brings

Validation lets every integer through, and the driver raises on one outside
the signed 64-bit range. A lookup binds the id it is given, and `paginate`
binds the offset it computes; a scan binds neither, and compares positions
with a range of Python integers. `integers_withstood` says for which integers
each request is still answered.
-/

namespace CloudMonitor

open Fallible

-- ---------------------------------------------------------------------------
-- What a request looks up, and what it lists
-- ---------------------------------------------------------------------------

/-- The row a request asks for first, and the ids in use. -/
structure Lookup where
  resource : String
  id : ℤ
  ids : List ℤ

def instanceLookup (db : Database) (instanceId : ℤ) : Lookup :=
  ⟨"Instance", instanceId, db.instances.ids⟩

def clientLookup (db : Database) (clientId : ℤ) : Lookup := ⟨"Client", clientId, db.clients.ids⟩

/-- A manager is looked up only for an `ADMIN`; others are refused before. -/
def lookupOf (m : Member) (db : Database) : MemberRequest → Option Lookup
  | .createInstance body => some (clientLookup db body.clientId)
  | .getInstance instanceId => some (instanceLookup db instanceId)
  | .updateStatus instanceId _ => some (instanceLookup db instanceId)
  | .deleteInstance instanceId => some (instanceLookup db instanceId)
  | .diagnoseInstance instanceId => some (instanceLookup db instanceId)
  | .resolveAlert alertId => some ⟨"Alert", alertId, db.alerts.ids⟩
  | .createClient body =>
    if m.role = .admin then some ⟨"Member (manager)", body.managerId, db.members.ids⟩ else none
  | .clientInstances clientId _ _ => some (clientLookup db clientId)
  | .clientCost clientId => some (clientLookup db clientId)
  | .clientCostForecast clientId => some (clientLookup db clientId)
  | .clientSla clientId => some (clientLookup db clientId)
  | _ => none

/-- One page: the integers of the request that its statements bind, and what
it shows. -/
structure Listing where
  binds : List ℤ
  shows : Payload

def pageAt (rows : List α) (page : PageParam) (size : SizeParam) : PageResponse α :=
  pageResponse (pageOf rows page.val size.val) page size

def scanListing (job : ScanJob) (db : Database) (page : PageParam) (size : SizeParam) : Listing :=
  ⟨[], .instances (pageAt (scanMatches job db) page size)⟩

def listingOf (env : Env) (m : Member) (s : Session) : MemberRequest → Option Listing
  | .listInstances page size filter sort =>
    some ⟨filter.clientId.toList ++ [offset size.val page.val],
      .instances (pageAt (instancesQuery (accessibleClientIds m) filter sort s.view) page size)⟩
  | .warnings page size =>
    some (scanListing (warningsJob env (accessibleClientIds m)) s.view page size)
  | .errors page size => some (scanListing (errorsJob (accessibleClientIds m)) s.view page size)
  | .longStopped page size =>
    some (scanListing (longStoppedJob env (accessibleClientIds m) (env.clock s.tick)) s.view page
      size)
  | .listAlerts page size filter =>
    some ⟨[offset size.val page.val],
      .alerts (pageAt (alertsQuery (accessibleClientIds m) filter s.view) page size)⟩
  | .listClients page size =>
    some ⟨[offset size.val page.val],
      .clients (pageAt (clientsQuery (accessibleClientIds m) s.view) page size)⟩
  | .clientInstances clientId page size =>
    if clientId ∈ s.view.clients.ids ∧ inScope (accessibleClientIds m) s.view clientId then
      some ⟨[clientId, offset size.val page.val],
        .instances (pageAt (clientInstancesQuery clientId s.view) page size)⟩
    else none
  | _ => none

-- ---------------------------------------------------------------------------
-- What the answers should be, and when they are
-- ---------------------------------------------------------------------------

def Lookup.NotFound (l : Lookup) (reply : Except ApiError Payload) : Prop :=
  ∃ e, reply = .error e ∧ e.status = 404 ∧
    e.detail = l.resource ++ " " ++ toString l.id ++ " not found"

/-- An id nobody has is answered with 404, and a listing with its page. -/
structure Withstands (env : Env) (m : Member) (s : Session) (req : MemberRequest) : Prop where
  lookups : ∀ l ∈ lookupOf m s.view req, l.id ∉ l.ids → l.NotFound ((handle env m req).run s).1
  listings : ∀ l ∈ listingOf env m s req, ((handle env m req).run s).1 = .ok l.shows

/-- The ids nobody has, and what the listings bind, fit a statement. -/
structure Fits (env : Env) (m : Member) (s : Session) (req : MemberRequest) : Prop where
  lookups : ∀ l ∈ lookupOf m s.view req, l.id ∉ l.ids → int64 l.id
  listings : ∀ l ∈ listingOf env m s req, ∀ n ∈ l.binds, int64 n

-- ---------------------------------------------------------------------------
-- Lookups
-- ---------------------------------------------------------------------------

section
variable {env : Env} {m : Member} {s : Session} {req : MemberRequest} {l : Lookup}

/-- The answer for an id nobody has: the 404, or the driver's exception. -/
def Lookup.Refused (l : Lookup) (reply : Except ApiError Payload) : Prop :=
  ∃ e, e.status = 404 ∧ e.detail = l.resource ++ " " ++ toString l.id ++ " not found" ∧
    reply = .error (if int64 l.id then e else .internal)

theorem Lookup.Refused.notFound_iff {reply : Except ApiError Payload} (h : l.Refused reply) :
    l.NotFound reply ↔ int64 l.id := by
  obtain ⟨e, hstatus, hdetail, rfl⟩ := h
  by_cases hid : int64 l.id
  · rw [if_pos hid]
    exact ⟨fun _ => hid, fun _ => ⟨e, rfl, hstatus, hdetail⟩⟩
  · rw [if_neg hid]
    refine ⟨fun ⟨e', he, hstatus', _⟩ => ?_, fun h => absurd h hid⟩
    cases he
    cases hstatus'

theorem Lookup.refused_bind {x : Svc α} {f : α → Svc Payload} (e : ApiError)
    (hx : x.run s = (.error (if int64 l.id then e else .internal), s)) (hstatus : e.status = 404)
    (hdetail : e.detail = l.resource ++ " " ++ toString l.id ++ " not found") :
    l.Refused ((x >>= f).run s).1 := by
  refine ⟨e, hstatus, hdetail, ?_⟩
  rw [run_bind, hx]

theorem refused_client {clientId : ℤ} {f : Client → Svc Payload}
    (h : clientId ∉ s.view.clients.ids) :
    (clientLookup s.view clientId).Refused ((getClient clientId >>= f).run s).1 :=
  Lookup.refused_bind (.notFound "Client" clientId) (getClient_absent h) rfl rfl

theorem refused_ownClient {clientId : ℤ} {f : Unit → Svc Payload}
    (h : clientId ∉ s.view.clients.ids) :
    (clientLookup s.view clientId).Refused
      ((ClientController.ownClient m clientId >>= f).run s).1 := by
  rw [ClientController.ownClient, bind_assoc]
  exact refused_client h

theorem refused_ownInstance {instanceId : ℤ} {f : Instance → Svc Payload}
    (h : instanceId ∉ s.view.instances.ids) :
    (instanceLookup s.view instanceId).Refused
      ((InstanceController.ownInstance m instanceId >>= f).run s).1 := by
  rw [InstanceController.ownInstance, bind_assoc]
  exact Lookup.refused_bind (.notFound "Instance" instanceId) (getInstance_refused fun _ => h) rfl
    rfl

theorem refused_alert {alertId : ℤ} (h : alertId ∉ s.view.alerts.ids) :
    Lookup.Refused ⟨"Alert", alertId, s.view.alerts.ids⟩
      ((AlertController.resolveAlert env m alertId).run s).1 := by
  refine ⟨.http 404 ("Alert " ++ toString alertId ++ " not found") [], rfl, rfl, ?_⟩
  rw [AlertController.resolveAlert, run_bind_ite (dbGet_absent h)]
  split <;> rfl

theorem refused_manager {body : ClientCreate} (hrole : m.role = .admin)
    (h : body.managerId ∉ s.view.members.ids) :
    Lookup.Refused ⟨"Member (manager)", body.managerId, s.view.members.ids⟩
      ((ClientController.createClient env m body).run s).1 := by
  have hadmin : (requireAdmin m).run s = (.ok m, s) := by
    rw [requireAdmin, if_neg (not_not.mpr hrole), run_pure]
  have hcreate : (createClient env body).run s = (.error (if int64 body.managerId then
      .notFound "Member (manager)" body.managerId else .internal), s) := by
    rw [createClient, run_bind_ite (dbGet_absent h)]
    split <;> rfl
  refine ⟨.notFound "Member (manager)" body.managerId, rfl, rfl, ?_⟩
  rw [ClientController.createClient, run_bind, hadmin]
  dsimp only
  rw [run_bind, hcreate]

theorem lookup_refused (hl : lookupOf m s.view req = some l) (habsent : l.id ∉ l.ids) :
    l.Refused ((handle env m req).run s).1 := by
  cases req with
  | createInstance body =>
    cases hl
    exact refused_client habsent
  | getInstance | updateStatus | deleteInstance | diagnoseInstance =>
    cases hl
    exact refused_ownInstance habsent
  | resolveAlert alertId =>
    cases hl
    exact refused_alert habsent
  | createClient body =>
    simp only [lookupOf] at hl
    split at hl
    · next hrole =>
      cases hl
      exact refused_manager hrole habsent
    · cases hl
  | clientInstances | clientCost | clientCostForecast | clientSla =>
    cases hl
    exact refused_ownClient habsent
  | listInstances | warnings | errors | longStopped | report | listAlerts | listClients => cases hl

end

-- ---------------------------------------------------------------------------
-- Listings
-- ---------------------------------------------------------------------------

section
variable {env : Env} {m : Member} {s : Session} {req : MemberRequest} {l : Listing}

/-- The answer of a listing: its page, or the driver's exception. -/
def Listing.Replies (l : Listing) (reply : Except ApiError Payload) : Prop :=
  reply = if ∀ n ∈ l.binds, int64 n then .ok l.shows else .error .internal

theorem Listing.Replies.shows_iff {reply : Except ApiError Payload} (h : l.Replies reply) :
    reply = .ok l.shows ↔ ∀ n ∈ l.binds, int64 n := by
  rw [h]
  by_cases hbinds : ∀ n ∈ l.binds, int64 n
  · rw [if_pos hbinds]
    exact ⟨fun _ => hbinds, fun _ => rfl⟩
  · rw [if_neg hbinds]
    exact ⟨nofun, fun h => absurd h hbinds⟩

theorem Lists.replies {rows : List α} {page : PageParam} {size : SizeParam} {binds : ℕ → List ℤ}
    {call : ℕ → Svc (Page α)} (h : Lists s rows size.val binds call)
    (wrap : PageResponse α → Payload) :
    Listing.Replies ⟨binds page.val, wrap (pageAt rows page size)⟩
      ((call page.val >>= fun p => return wrap (pageResponse p page size)).run s).1 := by
  rw [Listing.Replies, run_bind_ite (h page.val)]
  split <;> rfl

theorem scan_replies (job : ScanJob) (page : PageParam) (size : SizeParam) :
    (scanListing job s.view page size).Replies
      ((scan env job page.val size.val >>= fun p =>
        return Payload.instances (pageResponse p page size)).run s).1 := by
  rw [Listing.Replies, if_pos (by simp [scanListing]), run_bind, scan_run]
  rfl

theorem ownClient_run {c : Client} (hc : c ∈ s.view.clients)
    (hscope : inScope (accessibleClientIds m) s.view c.id = true) :
    (ClientController.ownClient m c.id).run s =
      if int64 c.id then (.ok (), s) else (.error .internal, s) := by
  have hguard : (assertClientAccess m c).run s = (.ok (), s) := by
    rw [assertClientAccess_run hc, if_pos hscope]
  rw [ClientController.ownClient, run_bind_ite (getClient_run hc), hguard]

theorem clientInstances_replies {c : Client} (hc : c ∈ s.view.clients)
    (hscope : inScope (accessibleClientIds m) s.view c.id = true) (page : PageParam)
    (size : SizeParam) :
    Listing.Replies ⟨[c.id, offset size.val page.val],
        .instances (pageAt (clientInstancesQuery c.id s.view) page size)⟩
      ((ClientController.clientInstances m c.id page size).run s).1 := by
  rw [ClientController.clientInstances, run_bind_ite (ownClient_run hc hscope)]
  by_cases hid : int64 c.id
  · rw [if_pos hid]
    exact (listClientInstances_lists hc size.val).replies .instances
  · rw [if_neg hid, Listing.Replies, if_neg]
    exact fun h => hid (h c.id List.mem_cons_self)

theorem listing_replies (hl : listingOf env m s req = some l) :
    l.Replies ((handle env m req).run s).1 := by
  cases req with
  | listInstances page size filter sort =>
    cases hl
    exact (listInstances_lists _ _ filter sort s).replies .instances
  | warnings page size | errors page size =>
    cases hl
    exact scan_replies _ page size
  | longStopped page size =>
    -- the clock is read before the scan
    cases hl
    rw [Listing.Replies, if_pos (by simp [scanListing])]
    simp only [handle, MonitorController.longStopped, run_bind, checkLongStopped_run]
    rfl
  | listAlerts page size filter =>
    cases hl
    exact (listAlerts_lists _ _ filter s).replies .alerts
  | listClients page size =>
    cases hl
    exact (listClients_lists _ _ s).replies .clients
  | clientInstances clientId page size =>
    simp only [listingOf] at hl
    split at hl
    · next h =>
      obtain ⟨hid, hscope⟩ := h
      cases hl
      obtain ⟨c, hc, rfl⟩ := Table.mem_ids.mp hid
      exact clientInstances_replies hc hscope page size
    · cases hl
  | _ => cases hl

end

-- ---------------------------------------------------------------------------
-- Pages past the end
-- ---------------------------------------------------------------------------

theorem pageOf_beyond {rows : List α} {page size : ℕ} (h : rows.length ≤ (page - 1) * size) :
    pageOf rows page size =
      { items := [], total := rows.length, totalPages := (rows.length + size - 1) / size } := by
  rw [pageOf, window, List.drop_eq_nil_of_le h, List.take_nil]

theorem pageAt_nil (page : PageParam) (size : SizeParam) :
    pageAt ([] : List α) page size =
      { items := [], total := 0, page := page.val, size := size.val, totalPages := 0 } := by
  have hpages : (0 + size.val - 1) / size.val = 0 := by
    have hone := size.one_le
    exact Nat.div_eq_of_lt (by omega)
  rw [pageAt, pageOf_beyond (Nat.zero_le _), pageResponse, List.length_nil, hpages]

/-- `paginate` answers this page, whatever it is, exactly when it can bind the
offset. -/
theorem paginate_answers_iff (query : Database → List α) (s : Session) (page size : ℕ) :
    ((paginate query page size).run s).1 = .ok (pageOf (query s.view) page size) ↔
      int64 (offset size page) := by
  rw [paginate_lists query size s page]
  simp only [List.forall_mem_singleton]
  by_cases h : int64 (offset size page)
  · rw [if_pos h]
    exact ⟨fun _ => h, fun _ => rfl⟩
  · rw [if_neg h]
    exact ⟨nofun, fun hint => absurd hint h⟩

theorem instancesQuery_unmatched {clientIds : Option Select} {f : InstanceFilter} {sort : String}
    {db : Database} {c : ℤ} (hf : f.clientId = some c) (h : ∀ i ∈ db.instances, i.clientId ≠ c) :
    instancesQuery clientIds f sort db = [] := by
  refine List.eq_nil_iff_forall_not_mem.mpr fun i hi => ?_
  obtain ⟨hi, hmatches⟩ := List.mem_filter.mp ((List.mem_insertionSort _).mp hi)
  simp only [InstanceFilter.matches, hf, Option.all_some, Bool.and_eq_true, beq_iff_eq] at hmatches
  exact h i hi hmatches.2.1.1.2

-- ---------------------------------------------------------------------------
-- Which integers are withstood
-- ---------------------------------------------------------------------------

theorem withstands_iff (env : Env) (m : Member) (s : Session) (req : MemberRequest) :
    Withstands env m s req ↔ Fits env m s req := by
  constructor
  · intro h
    exact ⟨fun l hl habsent => (lookup_refused hl habsent).notFound_iff.mp (h.lookups l hl habsent),
      fun l hl => (listing_replies hl).shows_iff.mp (h.listings l hl)⟩
  · intro h
    exact ⟨fun l hl habsent => (lookup_refused hl habsent).notFound_iff.mpr (h.lookups l hl habsent),
      fun l hl => (listing_replies hl).shows_iff.mpr (h.listings l hl)⟩

/-- A request is answered as it should be if and only if every id nobody has
and everything a listing binds are signed 64-bit integers. A page past the end
is empty then and only then, and so is the page of a filter no row matches,
and `paginate` agrees with `_scan` then and only then. -/
theorem integers_withstood (env : Env) :
    (∀ (m : Member) (s : Session) (req : MemberRequest),
      Withstands env m s req ↔ Fits env m s req) ∧
    (∀ (α : Type) (query : Database → List α) (s : Session) (page : PageParam) (size : SizeParam),
      (query s.view).length ≤ (page.val - 1) * size.val →
      (((paginate query page.val size.val).run s).1 =
          .ok { items := [], total := (query s.view).length,
                totalPages := ((query s.view).length + size.val - 1) / size.val } ↔
        int64 (offset size.val page.val))) ∧
    (∀ (query : Database → List Instance) (job : ScanJob) (s : Session) (page : PageParam)
        (size : SizeParam), query s.view = scanMatches job s.view →
      (((paginate query page.val size.val).run s).1 =
          ((scan env job page.val size.val).run s).1 ↔
        int64 (offset size.val page.val))) ∧
    (∀ (m : Member) (s : Session) (page : PageParam) (size : SizeParam) (f : InstanceFilter)
        (sort : String) (c : ℤ), f.clientId = some c → (∀ i ∈ s.view.instances, i.clientId ≠ c) →
      (((handle env m (.listInstances page size f sort)).run s).1 =
          .ok (.instances { items := [], total := 0, page := page.val, size := size.val,
                            totalPages := 0 }) ↔
        int64 c ∧ int64 (offset size.val page.val))) := by
  refine ⟨fun m s req => withstands_iff env m s req, fun α query s page size hbeyond => ?_,
    fun query job s page size hrows => ?_, fun m s page size f sort c hf hnone => ?_⟩
  · rw [← pageOf_beyond hbeyond]
    exact paginate_answers_iff query s page.val size.val
  · rw [scan_run, ← hrows]
    exact paginate_answers_iff query s page.val size.val
  · have hreplies : Listing.Replies _ ((handle env m (.listInstances page size f sort)).run s).1 :=
      listing_replies rfl
    have hshows := hreplies.shows_iff
    rw [instancesQuery_unmatched hf hnone, pageAt_nil] at hshows
    rw [hshows]
    simp [hf]

/-- The first page whose offset in tens SQLite cannot hold, and the one
before. -/
def farPage : PageParam := ⟨922337203685477582, by decide⟩

def nearPage : PageParam := ⟨922337203685477581, by decide⟩

theorem integers_withstood_seeded :
    ((paginate (clientsQuery none) nearPage.val defaultSize).run (seeded (.every 1)).session).1 =
      .ok { items := [], total := 10, totalPages := 1 } ∧
    ((paginate (scanMatches (errorsJob none)) farPage.val defaultSize).run
        (seeded (.every 1)).session).1 ≠
      ((scan (.every 1) (errorsJob none) farPage.val defaultSize).run
        (seeded (.every 1)).session).1 ∧
    ((handle (.every 1) manager1 (.listInstances {} {} { clientId := some 99 } "id")).run
        (seeded (.every 1)).session).1 =
      .ok (.instances { items := [], total := 0, page := 1, size := 10, totalPages := 0 }) := by
  obtain ⟨-, hbeyond, hscan, hfilter⟩ := integers_withstood (.every 1)
  refine ⟨?_, fun h => ?_, ?_⟩
  · have hrows : (clientsQuery none (seeded (.every 1)).session.view).length = 10 := by
      decide +kernel
    have hpage := hbeyond Client (clientsQuery none) (seeded (.every 1)).session nearPage {}
    rw [hrows] at hpage
    exact (hpage (by decide)).mpr (by decide)
  · exact absurd ((hscan _ (errorsJob none) (seeded (.every 1)).session farPage {} rfl).mp h)
      (by decide)
  · exact (hfilter manager1 (seeded (.every 1)).session {} {} { clientId := some 99 } "id" 99 rfl
      (by decide +kernel)).mpr (by decide)

/-- The far page of a scan is empty; that of a listing is an exception, and so
is the lookup of the first id past SQLite's last. -/
theorem integers_break_statements :
    ((handle (.every 1) manager1 (.errors farPage {})).run (seeded (.every 1)).session).1 =
      .ok (.instances { items := [], total := 2, page := farPage.val, size := 10,
                        totalPages := 1 }) ∧
    ((handle (.every 1) manager1 (.listInstances farPage {} {} "id")).run
      (seeded (.every 1)).session).1 = .error .internal ∧
    ¬Withstands (.every 1) manager1 (seeded (.every 1)).session
      (.listInstances farPage {} {} "id") ∧
    ((handle (.every 1) manager1 (.getInstance 9223372036854775808)).run
      (seeded (.every 1)).session).1 = .error .internal ∧
    ¬Withstands (.every 1) manager1 (seeded (.every 1)).session
      (.getInstance 9223372036854775808) := by
  have hlisting : ((handle (.every 1) manager1 (.listInstances farPage {} {} "id")).run
      (seeded (.every 1)).session).1 = .error .internal := by decide +kernel
  have hlookup : ((handle (.every 1) manager1 (.getInstance 9223372036854775808)).run
      (seeded (.every 1)).session).1 = .error .internal := by decide +kernel
  refine ⟨by decide +kernel, hlisting, fun h => ?_, hlookup, fun h => ?_⟩
  · have hpage := h.listings _ rfl
    rw [hlisting] at hpage
    cases hpage
  · obtain ⟨e, he, hstatus, -⟩ := h.lookups _ rfl (by decide +kernel)
    rw [hlookup] at he
    cases he
    cases hstatus

end CloudMonitor

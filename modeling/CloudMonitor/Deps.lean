import CloudMonitor.Session

/-!
# Who may see what

An `ADMIN` has no scope, which means every client; a `CLIENT_MANAGER` has the
ids of the clients assigned to them, as a query the caller's statement
resolves. The same rule also exists as a guard on a loaded client and as a
guard on a client's id.
-/

namespace CloudMonitor

open Fallible

/-- A `SELECT` of client ids, resolved inside the statement it is put into. -/
abbrev Select : Type := Table Client → List ℤ

def forbidden : ApiError :=
  .http 403 "CLIENT_MANAGER can only access clients assigned to them" []

def accessibleClientIds (member : Member) : Option Select :=
  if member.role = .admin then none
  else some fun clients => (clients.rows.filter (fun c => c.managerId = member.id)).map Client.id

/-- `column IN (client_ids)`, no condition when there is no scope. -/
def inScope (clientIds : Option Select) (db : Database) (clientId : ℤ) : Bool :=
  match clientIds with
  | none => true
  | some ids => clientId ∈ ids db.clients

def getCurrentMember (sub : ℤ) : Svc Member := do
  match ← dbGet (·.members) sub with
  | some member => return member
  | none => raise (.http 401 "Member no longer exists" [])

def requireAdmin (member : Member) : Svc Member :=
  if member.role ≠ .admin then raise (.http 403 "ADMIN role required" []) else return member

def assertClientAccess (member : Member) (client : Client) : Svc Unit :=
  if member.role = .admin then return ()
  else if client.managerId ≠ member.id then raise forbidden
  else return ()

def assertClientIdAccess (member : Member) (clientId : ℤ) : Svc Unit :=
  match accessibleClientIds member with
  | none => return ()
  | some scope => do
    if clientId ∈ scope (← view).clients then return () else raise forbidden

-- ---------------------------------------------------------------------------
-- The scope rule
-- ---------------------------------------------------------------------------

theorem inScope_admin (h : m.role = .admin) : inScope (accessibleClientIds m) db c = true := by
  simp [accessibleClientIds, h, inScope]

theorem inScope_manager (h : m.role ≠ .admin) :
    inScope (accessibleClientIds m) db c = true ↔ ∃ r ∈ db.clients, r.managerId = m.id ∧
      r.id = c := by
  simp [accessibleClientIds, h, inScope, Table.mem_def, and_assoc]

theorem getCurrentMember_triple (sub : ℤ) (s : Session) :
    Triple (getCurrentMember sub) s (fun m s' => s' = s ∧ s.view.members.find? sub = some m)
      (fun _ s' => s' = s) := by
  refine Triple.bind (dbGet_triple _ sub s) ?_
  rintro (_ | m) _ ⟨rfl, h⟩
  · exact Triple.raise rfl
  · exact Triple.pure ⟨rfl, h⟩

theorem requireAdmin_triple (m : Member) (s : Session) :
    Triple (requireAdmin m) s (fun _ s' => s' = s ∧ m.role = .admin) (fun _ s' => s' = s) :=
  Triple.ite (fun _ => Triple.raise rfl) (fun h => Triple.pure ⟨rfl, not_not.mp h⟩)

theorem assertClientAccess_triple (m : Member) (s : Session) (hc : c ∈ s.view.clients) :
    Triple (assertClientAccess m c) s
      (fun _ s' => s' = s ∧ inScope (accessibleClientIds m) s.view c.id = true)
      (fun _ s' => s' = s) := by
  refine Triple.ite (fun h => Triple.pure ⟨rfl, inScope_admin h⟩) (fun h => ?_)
  refine Triple.ite (fun _ => Triple.raise rfl) (fun hm => Triple.pure ⟨rfl, ?_⟩)
  exact (inScope_manager h).mpr ⟨c, hc, not_not.mp hm, rfl⟩

theorem assertClientIdAccess_triple (m : Member) (c : ℤ) (s : Session) :
    Triple (assertClientIdAccess m c) s
      (fun _ s' => s' = s ∧ inScope (accessibleClientIds m) s.view c = true)
      (fun _ s' => s' = s) := by
  unfold assertClientIdAccess inScope
  cases accessibleClientIds m with
  | none => exact Triple.pure ⟨rfl, rfl⟩
  | some scope =>
    refine view_bind ?_
    exact Triple.ite (fun h => Triple.pure ⟨rfl, by simpa using h⟩) (fun _ => Triple.raise rfl)

end CloudMonitor

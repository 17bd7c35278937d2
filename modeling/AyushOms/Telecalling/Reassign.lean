import AyushOms.Telecalling.Attempts

/-!
# Who May Reassign

`reassign_order` and `reassign_checkout` are one procedure on two tables of assignments. It
checks the new telecaller and the team of the current assignment. The two checks decide by
different tests who stands above the teams: a user with the role `ADMIN` passes the first, as
in `resolve_team_scope`, and only a superuser passes the second.

## Main results

- `reassignLead_returns_iff`: when a reassignment returns
- `reassign_follows_scope_iff`: when that is what the caller's scope says
-/

namespace AyushOms.Telecalling

open AyushOms.Lib

/-! ## Section 1: Scopes -/

/-- `ScopeFilter`. -/
structure ScopeFilter where
  assignedTo : Option UUID
  teamLeaderId : Option UUID
  deriving DecidableEq, Repr

/-- `resolve_team_scope`. -/
def resolveTeamScope (actor : User) : ScopeFilter :=
  if actor.isSuperuser = true ∨ "ADMIN" ∈ actor.roleNames then
    { assignedTo := none, teamLeaderId := none }
  else { assignedTo := none, teamLeaderId := some actor.id }

/-- A row of the team of `team` passes the filter, as in `search_query` and `list_by_role`. -/
def ScopeFilter.ShowsTeam (scope : ScopeFilter) (team : Option UUID) : Prop :=
  ∀ teamLeaderId ∈ scope.teamLeaderId, team = some teamLeaderId

/-- The user is a telecaller whom the filter shows. -/
def ScopeFilter.ShowsTelecaller (scope : ScopeFilter) (user : Option User) : Prop :=
  ∃ u ∈ user, "TELECALLER" ∈ u.roleNames ∧ scope.ShowsTeam u.teamLeaderId

/-- The scope of a user is all teams for an administrator, and else the user's own. -/
theorem showsTeam_resolveTeamScope (actor : User) (team : Option UUID) :
    (resolveTeamScope actor).ShowsTeam team ↔
      actor.isSuperuser = true ∨ "ADMIN" ∈ actor.roleNames ∨ team = some actor.id := by
  rw [← or_assoc]
  by_cases h : actor.isSuperuser = true ∨ "ADMIN" ∈ actor.roleNames
  · simp [resolveTeamScope, ScopeFilter.ShowsTeam, h]
  · simp [resolveTeamScope, ScopeFilter.ShowsTeam, h]

/-! ## Section 2: The procedure -/

/-- A table of assignments: the active row of a lead, its team, and the statements that
deactivate a row and add one. -/
structure LeadTable (σ ω ρ : Type) where
  getUser : σ → UUID → Option User
  getActive : σ → UUID → Option ρ
  teamLeaderId : ρ → Option UUID
  deactivate : ρ → ω
  create : ρ → ω
  /-- The texts of the two errors. -/
  noActive : String
  otherTeam : String

section Lead

variable {σ ω ρ : Type}

/-- `assert_telecaller_in_team_scope`. -/
def assertTelecaller (t : LeadTable σ ω ρ) (telecallerId : UUID) (actor : User) :
    Txn σ ω PyException User := do
  let telecaller ← Txn.select fun db => t.getUser db telecallerId
  let telecaller ← Txn.orRaise (telecaller.filter fun u => u.roleNames.contains "TELECALLER")
    (.oms (.notFound "Telecaller not found."))
  Txn.raiseIf (actor.isSuperuser = false ∧ "ADMIN" ∉ actor.roleNames ∧
    telecaller.teamLeaderId ≠ some actor.id)
    (.oms (.authorization "That telecaller is not on your team."))
  return telecaller

/-- `reassign_order` and `reassign_checkout`, with the row they add. -/
def reassignLead (t : LeadTable σ ω ρ) (leadId newTelecallerId : UUID) (actor : User)
    (row : ρ → User → ρ) : Txn σ ω PyException ρ := do
  let current ← Txn.select fun db => t.getActive db leadId
  let current ← Txn.orRaise current (.oms (.notFound t.noActive))
  let telecaller ← assertTelecaller t newTelecallerId actor
  Txn.raiseIf (actor.isSuperuser = false ∧ t.teamLeaderId current ≠ some actor.id)
    (.oms (.authorization t.otherTeam))
  Txn.flush (t.deactivate current)
  Txn.flush (t.create (row current telecaller))
  return row current telecaller

variable {t : LeadTable σ ω ρ} {apply : ω → σ → Except PyException σ} {leadId : UUID}
  {newTelecallerId : UUID} {actor : User} {row : ρ → User → ρ} {db : σ} {current : ρ}

/-- The first check refuses what the caller's scope does not show. -/
theorem yields_assertTelecaller {u : User} {db' : σ}
    (h : Txn.Yields apply (assertTelecaller t newTelecallerId actor) db u db') :
    (resolveTeamScope actor).ShowsTelecaller (t.getUser db newTelecallerId) ∧ db' = db := by
  have h := Txn.yields_select_bind h
  obtain ⟨telecaller, hfound, h⟩ := Txn.yields_orRaise_bind h
  obtain ⟨hteam, h⟩ := Txn.yields_raiseIf_bind h
  obtain ⟨-, rfl⟩ := Txn.yields_pure h
  obtain ⟨huser, hrole⟩ := Option.filter_eq_some_iff.mp hfound
  refine ⟨⟨telecaller, huser, by simpa using hrole, ?_⟩, rfl⟩
  rw [showsTeam_resolveTeamScope]
  by_contra hnot
  simp only [not_or, Bool.not_eq_true] at hnot
  exact hteam hnot

theorem completes_assertTelecaller {u : User} (huser : t.getUser db newTelecallerId = some u)
    (hrole : "TELECALLER" ∈ u.roleNames)
    (hteam : (resolveTeamScope actor).ShowsTeam u.teamLeaderId) :
    Txn.Completes apply (assertTelecaller t newTelecallerId actor) db u db := by
  have hfound : (t.getUser db newTelecallerId).filter
      (fun u => u.roleNames.contains "TELECALLER") = some u := by
    rw [huser]
    exact Option.filter_eq_some_iff.mpr ⟨rfl, by simpa using hrole⟩
  rw [showsTeam_resolveTeamScope] at hteam
  refine Txn.completes_bind Txn.completes_select ?_
  refine Txn.completes_bind (Txn.completes_orRaise hfound) ?_
  refine Txn.completes_bind (Txn.completes_raiseIf ?_) Txn.completes_pure
  intro hnot
  rcases hteam with hsuperuser | hadmin | hlead
  · exact Bool.false_ne_true (hnot.1.symm.trans hsuperuser)
  · exact hnot.2.1 hadmin
  · exact hnot.2.2 hlead

/-- A lead can be reassigned when its table takes the two writes. -/
def Writable (t : LeadTable σ ω ρ) (apply : ω → σ → Except PyException σ) (row : ρ → User → ρ)
    (db : σ) (current : ρ) : Prop :=
  ∀ u, ∃ db₁ db₂, apply (t.deactivate current) db = .ok db₁ ∧
    apply (t.create (row current u)) db₁ = .ok db₂

/-- A reassignment, committed, of which no statement fails. -/
def Reassigns (t : LeadTable σ ω ρ) (apply : ω → σ → Except PyException σ) (leadId : UUID)
    (newTelecallerId : UUID) (actor : User) (row : ρ → User → ρ) (db : σ) : Prop :=
  ∃ a, ((Txn.thenCommit (reassignLead t leadId newTelecallerId actor row)).run apply
    (.fresh db fun _ => none)).1 = .ok a

/-- It returns when the caller's scope shows the new telecaller, and the caller is a superuser
or leads the team of the assignment. -/
theorem reassigns_iff (hcurrent : t.getActive db leadId = some current)
    (hwrites : Writable t apply row db current) :
    Reassigns t apply leadId newTelecallerId actor row db ↔
      (resolveTeamScope actor).ShowsTelecaller (t.getUser db newTelecallerId) ∧
        (actor.isSuperuser = true ∨ t.teamLeaderId current = some actor.id) := by
  constructor
  · intro hreturns
    obtain ⟨a, hok⟩ := hreturns
    have h : Txn.Yields apply (Txn.thenCommit (reassignLead t leadId newTelecallerId actor row))
        db a _ := ⟨_, rfl, hok, rfl⟩
    have h := Txn.yields_select_bind (Txn.yields_thenCommit h)
    obtain ⟨found, hfound, h⟩ := Txn.yields_orRaise_bind h
    obtain rfl : found = current := Option.some.inj (hfound.symm.trans hcurrent)
    obtain ⟨telecaller, db₁, hcheck, h⟩ := Txn.yields_bind h
    obtain ⟨hteam, -⟩ := Txn.yields_raiseIf_bind h
    refine ⟨(yields_assertTelecaller hcheck).1, ?_⟩
    by_contra hnot
    simp only [not_or, Bool.not_eq_true] at hnot
    exact hteam hnot
  · intro h
    obtain ⟨⟨u, huser, hrole, hshown⟩, hlead⟩ := h
    obtain ⟨db₁, db₂, hdeactivate, hcreate⟩ := hwrites u
    have hteam : ¬ (actor.isSuperuser = false ∧ t.teamLeaderId current ≠ some actor.id) := by
      intro hnot
      rcases hlead with hsuperuser | hlead
      · exact Bool.false_ne_true (hnot.1.symm.trans hsuperuser)
      · exact hnot.2 hlead
    have hbody : Txn.Completes apply (reassignLead t leadId newTelecallerId actor row) db
        (row current u) db₂ := by
      refine Txn.completes_bind Txn.completes_select ?_
      refine Txn.completes_bind (Txn.completes_orRaise hcurrent) ?_
      refine Txn.completes_bind (completes_assertTelecaller huser hrole hshown) ?_
      refine Txn.completes_bind (Txn.completes_raiseIf hteam) ?_
      refine Txn.completes_bind (Txn.completes_flush hdeactivate) ?_
      exact Txn.completes_bind (Txn.completes_flush hcreate) Txn.completes_pure
    exact ⟨_, hbody.thenCommit⟩

/-- The scope of the caller shows both telecallers. -/
def ShowsBoth (actor : User) (team : Option UUID) (newTelecaller : Option User) : Prop :=
  (resolveTeamScope actor).ShowsTeam team ∧ (resolveTeamScope actor).ShowsTelecaller newTelecaller

/-- An administrator by role only, for whom the second check is that of a team leader. -/
def TakenForLeader (actor : User) (team : Option UUID) : Prop :=
  actor.isSuperuser = false ∧ "ADMIN" ∈ actor.roleNames ∧ team ≠ some actor.id

/-- The outcome is what the scope says, except for such a caller and an existing telecaller. -/
theorem reassigns_iff_showsBoth_iff (hcurrent : t.getActive db leadId = some current)
    (hwrites : Writable t apply row db current) :
    (Reassigns t apply leadId newTelecallerId actor row db ↔
      ShowsBoth actor (t.teamLeaderId current) (t.getUser db newTelecallerId)) ↔
    ¬ (TakenForLeader actor (t.teamLeaderId current) ∧
      (resolveTeamScope actor).ShowsTelecaller (t.getUser db newTelecallerId)) := by
  rw [reassigns_iff hcurrent hwrites, ShowsBoth, showsTeam_resolveTeamScope, TakenForLeader]
  cases hsuperuser : actor.isSuperuser with
  | false =>
    simp only [Bool.false_eq_true, false_or, true_and]
    tauto
  | true =>
    simp only [true_or, and_true, true_and, reduceCtorEq, false_and, not_false_eq_true]

end Lead

/-! ## Section 3: Orders -/

/-- The assignments of orders. -/
def orderLeads : LeadTable CallDB CallWrite OrderAssignment where
  getUser := CallDB.getUser
  getActive := fun db orderId => getActiveForOrder db.assignments orderId
  teamLeaderId := (·.teamLeaderId)
  deactivate := fun current =>
    .updateAssignment current { current with assignmentStatus := .inactive }
  create := .insertAssignment
  noActive := "Order has no active assignment to reassign — use assign instead."
  otherTeam := "That order is not on your team."

theorem reassignOrder_eq (c : Reassign) :
    reassignOrder c = reassignLead orderLeads c.orderId c.newTelecallerId c.actor c.row := rfl

/-- `reassign_order` returns, when none of its statements fails. -/
def Reassign.Succeeds (c : Reassign) (db : CallDB) : Prop :=
  ∃ a, ((Txn.thenCommit (reassignOrder c)).run CallWrite.apply (.fresh db fun _ => none)).1 = .ok a

/-- The deactivated row makes room for the new one, whose id is new. -/
theorem writable_orderLeads {c : Reassign} {db : CallDB} {current : OrderAssignment}
    (hcurrent : getActiveForOrder db.assignments c.orderId = some current)
    (hfresh : ∀ a ∈ db.assignments.rows, a.id ≠ c.newId) :
    Writable orderLeads CallWrite.apply c.row db current := by
  intro u
  obtain ⟨hmem, horder, hactive⟩ := getActiveForOrder_eq_some.mp hcurrent
  have hdeactivated : (current.update { current with assignmentStatus := .inactive } current).keys =
      [.id current.id] := by
    simp [OrderAssignment.keys, OrderAssignment.update, changed, hactive]
  have hkeys : current.keys = [.id current.id, .active c.orderId] := by
    simp [OrderAssignment.keys, hactive, horder]
  have hid : ∀ a : OrderAssignment, (a.id == current.id) = true → .id current.id ∈ a.keys := by
    intro a ha
    simp [OrderAssignment.keys, beq_iff_eq.mp ha]
  have hnew : ∀ a ∈ db.assignments.rows, .id c.newId ∉ a.keys := by
    intro a ha
    simpa [OrderAssignment.keys, eq_comm] using hfresh a ha
  have hrow : (c.row current u).keys = [.id c.newId, .active c.orderId] := by
    simp [OrderAssignment.keys, Reassign.row]
  obtain ⟨t₁, t₂, hupdate, hinsert⟩ := db.assignments.exists_handover hmem
    (beq_self_eq_true current.id) hid hkeys hdeactivated hrow hnew
  refine ⟨{ db with assignments := t₁ }, { db with assignments := t₂ }, ?_, ?_⟩
  · simp only [orderLeads, CallWrite.apply, hupdate]
  · simp only [orderLeads, CallWrite.apply, hinsert]

/-! ## Section 4: Checkouts -/

/-- `CheckoutAssignment`: the counterpart of `OrderAssignment` for an abandoned checkout. -/
structure CheckoutAssignment where
  id : UUID
  checkoutId : UUID
  assignedTo : UUID
  assignedBy : Option UUID := none
  assignedAt : Instant
  teamLeaderId : Option UUID := none
  assignmentStatus : AssignmentStatus := .active
  reassignedFrom : Option UUID := none
  reassignedTo : Option UUID := none
  reassignedAt : Option Instant := none
  reassignmentReason : Option String := none
  currentStatus : TelecallingStatus := .notCalled
  deriving DecidableEq, Repr

/-- `uq_checkout_assignments_one_active_per_checkout` is a partial index too. -/
def CheckoutAssignment.keys (a : CheckoutAssignment) : List AssignmentKey :=
  .id a.id :: if a.assignmentStatus = .active then [.active a.checkoutId] else []

abbrev CheckoutAssignmentTable :=
  Table CheckoutAssignment AssignmentKey CheckoutAssignment.keys

/-- The tables the methods on checkouts work on. -/
structure CheckoutCallDB where
  users : List User := []
  assignments : CheckoutAssignmentTable := Table.empty

/-- `CheckoutAssignmentRepository.get_active_for_checkout`. -/
def CheckoutCallDB.getActiveForCheckout (db : CheckoutCallDB) (checkoutId : UUID) :
    Option CheckoutAssignment :=
  db.assignments.find? fun a => a.checkoutId == checkoutId && a.assignmentStatus == .active

/-- The writes of `reassign_checkout`. -/
inductive CheckoutCallWrite where
  | deactivate (assignmentId : UUID)
  | insertAssignment (row : CheckoutAssignment)

/-- The row with the one column that the `UPDATE` sets. -/
def CheckoutAssignment.deactivated (a : CheckoutAssignment) : CheckoutAssignment :=
  { a with assignmentStatus := .inactive }

def CheckoutCallWrite.apply :
    CheckoutCallWrite → CheckoutCallDB → Except PyException CheckoutCallDB
  | deactivate assignmentId, db =>
    match db.assignments.update? (fun a => a.id == assignmentId) (·.deactivated) with
    | none => .error .integrityError
    | some assignments => .ok { db with assignments := assignments }
  | insertAssignment row, db =>
    match db.assignments.insert? row with
    | none => .error .integrityError
    | some assignments => .ok { db with assignments := assignments }

/-- The assignments of checkouts. -/
def checkoutLeads : LeadTable CheckoutCallDB CheckoutCallWrite CheckoutAssignment where
  getUser := fun db id => db.users.find? fun u => u.id == id
  getActive := CheckoutCallDB.getActiveForCheckout
  teamLeaderId := (·.teamLeaderId)
  deactivate := fun current => .deactivate current.id
  create := .insertAssignment
  noActive := "Checkout has no active assignment to reassign — use assign instead."
  otherTeam := "That checkout is not on your team."

/-- The arguments of `reassign_checkout`. -/
structure ReassignCheckout where
  checkoutId : UUID
  newTelecallerId : UUID
  reason : String
  actor : User
  newId : UUID
  now : Instant
  deriving DecidableEq, Repr

/-- The row `reassign_checkout` adds. -/
def ReassignCheckout.row (c : ReassignCheckout) (current : CheckoutAssignment)
    (telecaller : User) : CheckoutAssignment where
  id := c.newId
  checkoutId := c.checkoutId
  assignedTo := telecaller.id
  assignedBy := some c.actor.id
  assignedAt := c.now
  teamLeaderId := telecaller.teamLeaderId
  assignmentStatus := .active
  reassignedFrom := some current.assignedTo
  reassignedTo := some telecaller.id
  reassignedAt := some c.now
  reassignmentReason := some c.reason
  currentStatus := .notCalled

/-- `reassign_checkout` up to its commit. -/
def reassignCheckout (c : ReassignCheckout) :
    Txn CheckoutCallDB CheckoutCallWrite PyException CheckoutAssignment :=
  reassignLead checkoutLeads c.checkoutId c.newTelecallerId c.actor c.row

/-- `reassign_checkout` returns, when none of its statements fails. -/
def ReassignCheckout.Succeeds (c : ReassignCheckout) (db : CheckoutCallDB) : Prop :=
  ∃ a, ((Txn.thenCommit (reassignCheckout c)).run CheckoutCallWrite.apply
    (.fresh db fun _ => none)).1 = .ok a

theorem writable_checkoutLeads {c : ReassignCheckout} {db : CheckoutCallDB}
    {current : CheckoutAssignment} (hcurrent : db.getActiveForCheckout c.checkoutId = some current)
    (hfresh : ∀ a ∈ db.assignments.rows, a.id ≠ c.newId) :
    Writable checkoutLeads CheckoutCallWrite.apply c.row db current := by
  intro u
  have hmem := Table.mem_of_find?_eq_some hcurrent
  obtain ⟨hcheckout, hactive⟩ : current.checkoutId = c.checkoutId ∧
      current.assignmentStatus = .active := by
    have hfound := List.find?_some hcurrent
    simpa using hfound
  have hdeactivated : current.deactivated.keys = [.id current.id] := by
    simp [CheckoutAssignment.keys, CheckoutAssignment.deactivated]
  have hkeys : current.keys = [.id current.id, .active c.checkoutId] := by
    simp [CheckoutAssignment.keys, hactive, hcheckout]
  have hid : ∀ a : CheckoutAssignment, (a.id == current.id) = true → .id current.id ∈ a.keys := by
    intro a ha
    simp [CheckoutAssignment.keys, beq_iff_eq.mp ha]
  have hnew : ∀ a ∈ db.assignments.rows, .id c.newId ∉ a.keys := by
    intro a ha
    simpa [CheckoutAssignment.keys, eq_comm] using hfresh a ha
  have hrow : (c.row current u).keys = [.id c.newId, .active c.checkoutId] := by
    simp [CheckoutAssignment.keys, ReassignCheckout.row]
  obtain ⟨t₁, t₂, hupdate, hinsert⟩ := db.assignments.exists_handover hmem
    (beq_self_eq_true current.id) hid hkeys hdeactivated hrow hnew
  refine ⟨{ db with assignments := t₁ }, { db with assignments := t₂ }, ?_, ?_⟩
  · simp only [checkoutLeads, CheckoutCallWrite.apply, hupdate]
  · simp only [checkoutLeads, CheckoutCallWrite.apply, hinsert]

/-! ## Section 5: When the outcome is what the scope says -/

/-- A reassignment of an order, and one of a checkout, succeed exactly when the caller's scope
shows both telecallers, unless the new telecaller is one and the caller an administrator by role
only who does not lead the team of the assignment. -/
theorem reassign_follows_scope_iff (c : Reassign) (db : CallDB) {current : OrderAssignment}
    (hcurrent : getActiveForOrder db.assignments c.orderId = some current)
    (hfresh : ∀ a ∈ db.assignments.rows, a.id ≠ c.newId)
    (c' : ReassignCheckout) (db' : CheckoutCallDB) {current' : CheckoutAssignment}
    (hcurrent' : db'.getActiveForCheckout c'.checkoutId = some current')
    (hfresh' : ∀ a ∈ db'.assignments.rows, a.id ≠ c'.newId) :
    ((c.Succeeds db ↔
        ShowsBoth c.actor current.teamLeaderId (orderLeads.getUser db c.newTelecallerId)) ↔
      ¬ (TakenForLeader c.actor current.teamLeaderId ∧ (resolveTeamScope c.actor).ShowsTelecaller
        (orderLeads.getUser db c.newTelecallerId))) ∧
    ((c'.Succeeds db' ↔
        ShowsBoth c'.actor current'.teamLeaderId
          (checkoutLeads.getUser db' c'.newTelecallerId)) ↔
      ¬ (TakenForLeader c'.actor current'.teamLeaderId ∧
        (resolveTeamScope c'.actor).ShowsTelecaller
          (checkoutLeads.getUser db' c'.newTelecallerId))) := by
  constructor
  · have hwritable := writable_orderLeads hcurrent hfresh
    exact reassigns_iff_showsBoth_iff (t := orderLeads) hcurrent hwritable
  · have hwritable := writable_checkoutLeads hcurrent' hfresh'
    exact reassigns_iff_showsBoth_iff (t := checkoutLeads) hcurrent' hwritable

/-- The order above goes from one telecaller of the team to the other. -/
def toRavi (actor : User) : Reassign :=
  { orderId := 7, newTelecallerId := 2, reason := "leave", actor, newId := 101, now := 20 }

/-- A checkout assigned to the first telecaller. -/
def assignedCheckout : CheckoutCallDB where
  users := [asha, ravi, leader]
  assignments := Table.ofList
    [{ id := 400, checkoutId := 8, assignedTo := 1, assignedAt := 0, teamLeaderId := some 9 }]
    (List.nodup_cons.mpr ⟨by simp, List.nodup_singleton _⟩)

/-- So does the checkout. -/
def checkoutToRavi (actor : User) : ReassignCheckout :=
  { checkoutId := 8, newTelecallerId := 2, reason := "leave", actor, newId := 401, now := 20 }

/-- The leader may do both. -/
theorem reassign_follows_scope_leader :
    (toRavi leader).Succeeds assignedOrder ∧ (checkoutToRavi leader).Succeeds assignedCheckout := by
  have hleader : ¬ TakenForLeader leader (some 9) := fun h => h.2.2 rfl
  have hshows : ShowsBoth leader (some 9) (some ravi) :=
    ⟨(showsTeam_resolveTeamScope _ _).mpr (.inr (.inr rfl)), ravi, rfl, by simp [ravi],
      (showsTeam_resolveTeamScope _ _).mpr (.inr (.inr rfl))⟩
  obtain ⟨horder, hcheckout⟩ := reassign_follows_scope_iff (toRavi leader) assignedOrder rfl
    (by decide) (checkoutToRavi leader) assignedCheckout rfl (by decide)
  exact ⟨(horder.mpr fun h => hleader h.1).mpr hshows,
    (hcheckout.mpr fun h => hleader h.1).mpr hshows⟩

/-- An administrator by role. -/
def admin : User := { id := 5, name := "Farah", roleNames := ["ADMIN"] }

/-- The administrator's scope shows everything, and the reassignment is refused. -/
theorem admin_may_not_reassign :
    ¬ ((toRavi admin).Succeeds assignedOrder ↔ ShowsBoth admin (some 9)
      (orderLeads.getUser assignedOrder 2)) := by
  intro hiff
  have hscope : ∀ team, (resolveTeamScope admin).ShowsTeam team := fun team =>
    (showsTeam_resolveTeamScope admin team).mpr (.inr (.inl (List.mem_singleton_self _)))
  obtain ⟨a, hok⟩ := hiff.mpr ⟨hscope _, ravi, rfl, by simp [ravi], hscope _⟩
  have hrefused : ((Txn.thenCommit (reassignOrder (toRavi admin))).run CallWrite.apply
      (.fresh assignedOrder fun _ => none)).1 =
      .error (.oms (.authorization "That order is not on your team.")) := rfl
  rw [hrefused] at hok
  cases hok

end AyushOms.Telecalling

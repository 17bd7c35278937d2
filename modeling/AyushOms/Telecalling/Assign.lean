import AyushOms.Lib.RoundRobin
import AyushOms.Orders.Model
import AyushOms.Telecalling.Attempts

/-!
# Assigning Orders

`assign_orders` gives a list of orders to a list of telecallers in turn: it checks every
telecaller and every order first, and then writes one assignment after the other. Nothing looks
for repetitions in the list of orders; the second assignment of an order is refused by the
partial unique index when it is written, and the whole call with it.

## Main results

- `yields_assignOrders`: what a call that returned has written
- `assigned_evenly`: a call changes nothing, or assigns every order once and evenly
-/

namespace AyushOms.Telecalling

open AyushOms.Lib AyushOms.Orders

/-! ## Section 1: The transaction -/

/-- `AssignOrdersRequest.mode`. -/
inductive AssignMode where
  | manual
  | equal
  deriving DecidableEq, Repr

/-- The arguments of `assign_orders`, with the ids its rows are given and the time. -/
structure AssignOrders where
  orderIds : List UUID
  mode : AssignMode
  telecallerId : Option UUID := none
  telecallerIds : Option (List UUID) := none
  actor : User
  newIds : ℕ → UUID
  now : Instant

namespace AssignOrders

/-- The telecallers named by the request. -/
def candidateIds (c : AssignOrders) : Except PyException (List UUID) :=
  match c.mode, c.telecallerId with
  | .manual, none =>
    .error (.oms (.validation "telecaller_id is required for manual assignment."))
  | .manual, some telecallerId => .ok [telecallerId]
  | .equal, _ => .ok (c.telecallerIds.getD [])

/-- The row for the order at an index of the list. -/
def row (c : AssignOrders) (telecallers : Rota User) (entry : UUID × ℕ) : OrderAssignment where
  id := c.newIds entry.2
  orderId := entry.1
  assignedTo := (telecallers.turn entry.2).id
  assignedBy := some c.actor.id
  assignedAt := c.now
  teamLeaderId := (telecallers.turn entry.2).teamLeaderId
  assignmentStatus := .active
  currentStatus := .notCalled

end AssignOrders

/-- The loop of `_resolve_and_validate_telecallers`. -/
def resolveEach (actor : User) : List UUID → CallTxn (List User)
  | [] => pure []
  | telecallerId :: telecallerIds => do
    let telecaller ← assertTelecallerInTeamScope telecallerId actor
    let resolved ← resolveEach actor telecallerIds
    return telecaller :: resolved

/-- `_resolve_and_validate_telecallers`. -/
def resolveAndValidateTelecallers (actor : User) : List UUID → CallTxn (Rota User)
  | [] => Txn.fail (.oms (.validation "At least one telecaller must be specified."))
  | telecallerId :: telecallerIds => do
    let telecaller ← assertTelecallerInTeamScope telecallerId actor
    let resolved ← resolveEach actor telecallerIds
    return ⟨telecaller :: resolved, List.cons_ne_nil _ _⟩

/-- The loop that looks for orders already assigned. -/
def conflictsOf (orders : OrdersDB) : List UUID → CallTxn (List UUID)
  | [] => pure []
  | orderId :: orderIds => do
    let _ ← Txn.orRaise (orders.getOrder orderId) (.oms (.notFound s!"Order {orderId} not found."))
    let active ← Txn.select fun db => getActiveForOrder db.assignments orderId
    let conflicts ← conflictsOf orders orderIds
    return if active.isSome then orderId :: conflicts else conflicts

/-- The text of the `ConflictError`. -/
def conflictMessage (conflicts : List UUID) : String :=
  "The following orders already have an active assignment — use reassign instead: " ++
    ", ".intercalate (conflicts.map toString)

/-- The loop that writes. -/
def assignEach (c : AssignOrders) (telecallers : Rota User) :
    List (UUID × ℕ) → CallTxn (List OrderAssignment)
  | [] => pure []
  | entry :: entries => do
    Txn.flush (.insertAssignment (c.row telecallers entry))
    let created ← assignEach c telecallers entries
    return c.row telecallers entry :: created

/-- `assign_orders` up to its commit. -/
def assignOrders (orders : OrdersDB) (c : AssignOrders) : CallTxn (List OrderAssignment) := do
  let candidateIds ← Txn.ofExcept c.candidateIds
  let telecallers ← resolveAndValidateTelecallers c.actor candidateIds
  let conflicts ← conflictsOf orders c.orderIds
  Txn.raiseIf (conflicts ≠ []) (.oms (.conflict (conflictMessage conflicts)))
  assignEach c telecallers c.orderIds.zipIdx

/-! ## Section 2: What it reads -/

theorem reads_resolveEach (actor : User) (telecallerIds : List UUID) :
    Txn.Reads (fun us => us.map User.id = telecallerIds) (resolveEach actor telecallerIds) := by
  induction telecallerIds with
  | nil => exact rfl
  | cons telecallerId telecallerIds ih =>
    refine (reads_assertTelecallerInTeamScope telecallerId actor).bind fun u hu => ?_
    refine ih.bind fun us hus => ?_
    show (u :: us).map User.id = telecallerId :: telecallerIds
    rw [List.map_cons, hu, hus]

/-- The telecallers take turns in the order in which the request names them. -/
theorem reads_resolveAndValidateTelecallers (actor : User) (telecallerIds : List UUID) :
    Txn.Reads (fun r => (r.map User.id).members = telecallerIds)
      (resolveAndValidateTelecallers actor telecallerIds) := by
  cases telecallerIds with
  | nil => exact True.intro
  | cons telecallerId telecallerIds =>
    refine (reads_assertTelecallerInTeamScope telecallerId actor).bind fun u hu => ?_
    refine (reads_resolveEach actor telecallerIds).bind fun us hus => ?_
    show (u :: us).map User.id = telecallerId :: telecallerIds
    rw [List.map_cons, hu, hus]

theorem reads_conflictsOf (orders : OrdersDB) (orderIds : List UUID) :
    Txn.Reads (fun _ => True) (conflictsOf orders orderIds) := by
  induction orderIds with
  | nil => exact True.intro
  | cons orderId orderIds ih =>
    refine (Txn.reads_orRaise _ _).bind fun _ _ => ?_
    refine (Txn.reads_select _).bind fun _ _ => ?_
    exact ih.bind fun _ _ => True.intro

/-! ## Section 3: What it writes -/

section Written

variable {orders : OrdersDB} {c : AssignOrders} {telecallers : Rota User}

/-- The loop writes its rows one after the other. -/
theorem yields_assignEach {entries : List (UUID × ℕ)} {created : List OrderAssignment}
    {db db' : CallDB}
    (h : Txn.Yields CallWrite.apply (assignEach c telecallers entries) db created db') :
    created = entries.map (c.row telecallers) ∧
      db'.assignments.rows = db.assignments.rows ++ created := by
  induction entries generalizing db created with
  | nil =>
    obtain ⟨rfl, rfl⟩ := Txn.yields_pure h
    exact ⟨rfl, (List.append_nil _).symm⟩
  | cons entry entries ih =>
    obtain ⟨_, db₁, hinsert, h⟩ := Txn.yields_bind h
    obtain ⟨rest, db₂, hloop, hpure⟩ := Txn.yields_bind h
    obtain ⟨rfl, rfl⟩ := Txn.yields_pure hpure
    obtain ⟨hrest, hrows⟩ := ih hloop
    have hrow := Table.rows_of_insert? (yields_insertAssignment hinsert).2
    refine ⟨by rw [List.map_cons, hrest], ?_⟩
    rw [hrows, hrow, List.append_assoc, List.singleton_append]

theorem writes_assignEach (entries : List (UUID × ℕ)) :
    Txn.Writes (fun _ _ => True) (assignEach c telecallers entries) := by
  induction entries with
  | nil => exact Txn.writes_ret True.intro
  | cons entry entries ih =>
    refine (Txn.writes_flush _).bind fun _ _ _ => ?_
    exact ih.bind fun _ _ _ => Txn.writes_ret True.intro

/-- The checks only read. -/
theorem writes_assignOrders (orders : OrdersDB) (c : AssignOrders) :
    Txn.Writes (fun _ _ => True) (assignOrders orders c) := by
  refine (Txn.reads_ofExcept _).writes_bind fun candidateIds _ => ?_
  refine (reads_resolveAndValidateTelecallers c.actor candidateIds).writes_bind fun _ _ => ?_
  refine (reads_conflictsOf orders c.orderIds).writes_bind fun _ _ => ?_
  exact (Txn.reads_raiseIf _ _).writes_bind fun _ _ => writes_assignEach _

/-- A call that returned has added one active row for each order, to the candidates in turn. -/
theorem yields_assignOrders {created : List OrderAssignment} {db db' : CallDB}
    (h : Txn.Yields CallWrite.apply (assignOrders orders c) db created db') :
    ∃ telecallers : Rota User, c.candidateIds = .ok (telecallers.map User.id).members ∧
      created = c.orderIds.zipIdx.map (c.row telecallers) ∧
      db'.assignments.rows = db.assignments.rows ++ created := by
  obtain ⟨candidateIds, hcandidates, h⟩ := Txn.yields_ofExcept_bind h
  obtain ⟨telecallers, hids, h⟩ :=
    (reads_resolveAndValidateTelecallers c.actor candidateIds).yields_bind h
  obtain ⟨_, -, h⟩ := (reads_conflictsOf orders c.orderIds).yields_bind h
  obtain ⟨-, h⟩ := Txn.yields_raiseIf_bind h
  exact ⟨telecallers, hids ▸ hcandidates, yields_assignEach h⟩

/-- The rows of a call name the members of its rota in turn. -/
theorem assignedTo_rows (c : AssignOrders) (telecallers : Rota User) :
    (c.orderIds.zipIdx.map (c.row telecallers)).map (·.assignedTo) =
      (telecallers.map User.id).turns c.orderIds.length := by
  have hturns : ((telecallers.map User.id).turn ∘ Prod.snd) =
      (fun entry : UUID × ℕ => (c.row telecallers entry).assignedTo) := by
    funext entry
    exact telecallers.turn_map User.id entry.2
  have hindices : List.range c.orderIds.length = c.orderIds.zipIdx.map Prod.snd := by
    rw [List.zipIdx_map_snd, List.range_eq_range']
  rw [Rota.turns, List.map_map, hindices, List.map_map, hturns]
  rfl

/-- An order of the list has a row of its own. -/
theorem exists_row (telecallers : Rota User) {orderId : UUID} (ho : orderId ∈ c.orderIds) :
    ∃ a ∈ c.orderIds.zipIdx.map (c.row telecallers), a.orderId = orderId ∧
      a.assignmentStatus = .active := by
  obtain ⟨i, hi, rfl⟩ := List.getElem_of_mem ho
  refine ⟨c.row telecallers (c.orderIds[i], i), List.mem_map_of_mem ?_, rfl, rfl⟩
  exact List.mem_zipIdx_iff_getElem?.mpr (List.getElem?_eq_getElem hi)

/-- Two active rows of one order would share their key. -/
theorem active_unique {assignments : AssignmentTable} {a a' : OrderAssignment}
    (ha : a ∈ assignments.rows) (ha' : a' ∈ assignments.rows) (horder : a.orderId = a'.orderId)
    (hactive : a.assignmentStatus = .active) (hactive' : a'.assignmentStatus = .active) :
    a = a' := by
  have h := getActiveForOrder_eq_some.mpr ⟨ha, horder, hactive⟩
  rw [getActiveForOrder_eq_some.mpr ⟨ha', rfl, hactive'⟩] at h
  exact (Option.some.inj h).symm

end Written

/-! ## Section 4: Every order once, and evenly -/

/-- The telecaller is given at most one order more than the other. -/
def AtMostOneMore (created : List OrderAssignment) (telecallerId telecallerId' : UUID) : Prop :=
  (created.map (·.assignedTo)).count telecallerId ≤
    (created.map (·.assignedTo)).count telecallerId' + 1

/-- A call for distinct telecallers, whichever of its statements fail, raises and leaves the
tables as they were, or it returns: then every order of the list has exactly one active
assignment, one of those the call has made, to a telecaller of the list; and no telecaller is
given more than one order more than another. -/
theorem assigned_evenly (orders : OrdersDB) (c : AssignOrders) (telecallerIds : List UUID)
    (hequal : c.mode = .equal) (hids : c.telecallerIds = some telecallerIds)
    (hdistinct : telecallerIds.Nodup) (db : CallDB) (faults : ℕ → Option PyException) :
    let outcome := (Txn.thenCommit (assignOrders orders c)).run CallWrite.apply (.fresh db faults)
    (∃ e, outcome.1 = .error e ∧ outcome.2.committed = db) ∨
    ∃ created, outcome.1 = .ok created ∧
      outcome.2.committed.assignments.rows = db.assignments.rows ++ created ∧
      (∀ orderId ∈ c.orderIds, ∃ a ∈ created, a.assignedTo ∈ telecallerIds ∧
        ∀ a', a' ∈ outcome.2.committed.assignments.rows ∧ a'.orderId = orderId ∧
          a'.assignmentStatus = .active ↔ a' = a) ∧
      ∀ s ∈ telecallerIds, ∀ t ∈ telecallerIds, AtMostOneMore created s t := by
  intro outcome
  have hsettled := (writes_assignOrders orders c).settled
  cases hresult : outcome.1 with
  | error e => exact .inl ⟨e, rfl, Txn.committed_of_error hsettled hresult⟩
  | ok created =>
    have hyields := Txn.yields_thenCommit (Txn.yields_of_ok hsettled hresult)
    obtain ⟨telecallers, hcandidates, hcreated, hrows⟩ := yields_assignOrders hyields
    have hmembers : (telecallers.map User.id).members = telecallerIds := by
      have hcandidateIds : c.candidateIds = .ok telecallerIds := by
        simp only [AssignOrders.candidateIds, hequal, hids, Option.getD_some]
      rw [hcandidateIds] at hcandidates
      exact (Except.ok.inj hcandidates).symm
    have hassigned : created.map (·.assignedTo) =
        (telecallers.map User.id).turns c.orderIds.length := by
      rw [hcreated]
      exact assignedTo_rows c telecallers
    refine .inr ⟨created, rfl, hrows, fun orderId ho => ?_, fun s hs t ht => ?_⟩
    · obtain ⟨a, ha, horder, hactive⟩ := exists_row telecallers ho
      rw [← hcreated] at ha
      have hstored : a ∈ outcome.2.committed.assignments.rows := by
        rw [hrows]
        exact List.mem_append_right _ ha
      refine ⟨a, ha, ?_, fun a' => ⟨fun h => ?_, fun h => ?_⟩⟩
      · have hturn : a.assignedTo ∈ (telecallers.map User.id).turns c.orderIds.length := by
          rw [← hassigned]
          exact List.mem_map_of_mem ha
        obtain ⟨i, -, hi⟩ := List.mem_map.mp hturn
        rw [← hmembers, ← hi]
        exact Rota.turn_mem _ i
      · obtain ⟨hstored', horder', hactive'⟩ := h
        exact active_unique hstored' hstored (horder'.trans horder.symm) hactive' hactive
      · rw [h]
        exact ⟨hstored, horder, hactive⟩
    · unfold AtMostOneMore
      rw [hassigned]
      exact Rota.count_turns_le (hmembers ▸ hdistinct) (hmembers ▸ hs) (hmembers ▸ ht) _

/-- Three orders nobody calls about yet. -/
def newOrders : OrdersDB where
  orders := Table.ofList
    [{ id := 11, orderNumber := "#11" }, { id := 12, orderNumber := "#12" },
      { id := 13, orderNumber := "#13" }]
    (by decide)

/-- The team leader gives them to the team. -/
def assignNew : AssignOrders where
  orderIds := [11, 12, 13]
  mode := .equal
  telecallerIds := some [1, 2]
  actor := leader
  newIds := fun index => 300 + index
  now := 40

/-- One telecaller gets two of them and the other one. -/
theorem assigned_evenly_newOrders : ∃ created : List OrderAssignment,
    created.map (fun a => (a.orderId, a.assignedTo)) = [(11, 1), (12, 2), (13, 1)] ∧
      AtMostOneMore created 1 2 ∧ AtMostOneMore created 2 1 := by
  have hreturns : ((Txn.thenCommit (assignOrders newOrders assignNew)).run CallWrite.apply
      (.fresh assignedOrder fun _ => none)).1.map
      (fun created => created.map fun a => (a.orderId, a.assignedTo)) =
      .ok [(11, 1), (12, 2), (13, 1)] := rfl
  rcases assigned_evenly newOrders assignNew [1, 2] rfl rfl (by decide) assignedOrder
    (fun _ => none) with ⟨e, herror, -⟩ | ⟨created, hok, -, -, heven⟩
  · rw [herror] at hreturns
    cases hreturns
  · rw [hok] at hreturns
    exact ⟨created, Except.ok.inj hreturns, heven 1 (by decide) 2 (by decide),
      heven 2 (by decide) 1 (by decide)⟩

end AyushOms.Telecalling

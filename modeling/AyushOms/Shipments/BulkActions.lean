import AyushOms.Shipments.BulkProcess
import AyushOms.Telecalling.BulkConfirm

/-!
# The Bulk Actions

`bulk_confirm_assigned_orders`, `bulk_create_shipments_for_orders` and
`bulk_process_existing_shipments` promise that an order is dealt with as if it were alone. They
share one session between the orders, and an order that fails unexpectedly in a transaction takes
the acting user with it.

## Main results

- `bulkAction_independent_iff`: when every order is dealt with as if it were alone
-/

namespace AyushOms.Shipments

open AyushOms.Lib AyushOms.Lib.Proc AyushOms.Orders AyushOms.Tracking AyushOms.Shopify
  AyushOms.Telecalling

/-! ## Section 1: The actions -/

/-- A bulk action on orders, with what each of them meets. -/
inductive BulkAction where
  | confirm (env : External) (actor : User) (entries : List ConfirmEntry)
  | create (setup : TrackingDB.ShiprocketSetup) (actor : Option UUID) (entries : List CreateEntry)
  | process (actor : Option UUID) (entries : List ProcessEntry)

namespace BulkAction

/-- One result for each order, no exception, and for every order the result and the stored effect
it has alone; the request is a fresh one of the acting user. -/
def IsIndependent (st : ShipStore) : BulkAction → Prop
  | confirm env actor entries => Independent (TelecallingService.confirmTurn env actor)
      (.authenticated (some actor.id)) entries (.authenticated (some actor.id)) st.oms
  | create setup actor entries => Independent (createTurn setup actor) (.authenticated actor)
      entries (.authenticated actor) st
  | process actor entries => Independent (processTurn actor) (.authenticated actor) entries
      (.authenticated actor) st

/-- Along the list, every order's turn returns by itself, and none needs the acting user's row
after an earlier order has lost it and none since has restored it. -/
def KeepsActor (st : ShipStore) : BulkAction → Prop
  | confirm env actor entries => (TelecallingService.confirmReliance actor).Met
      (TelecallingService.confirmTurn env actor) (.authenticated (some actor.id)) entries st.oms
  | create setup actor entries => (createReliance setup actor).Met (createTurn setup actor)
      (.authenticated actor) entries st
  | process actor entries => (processReliance actor).Met (processTurn actor)
      (.authenticated actor) entries st

end BulkAction

/-- A bulk action deals with its orders independently exactly when every order's own turn
returns and no order needs the acting user after it was lost. -/
theorem bulkAction_independent_iff (action : BulkAction) (st : ShipStore) :
    action.IsIndependent st ↔ action.KeepsActor st := by
  cases action with
  | confirm env actor entries =>
    exact (TelecallingService.confirmReliance_sound env actor).independent_iff entries
      (RequestSession.canRead_authenticated _) st.oms
  | create setup actor entries =>
    exact (createReliance_sound setup actor).independent_iff entries
      (RequestSession.canRead_authenticated _) st
  | process actor entries =>
    exact (processReliance_sound actor).independent_iff entries
      (RequestSession.canRead_authenticated _) st

/-! ## Section 2: Orders that fail -/

/-- Two orders to confirm, both assigned to the same telecaller, and one to ship. -/
def threeOrders : ShipStore where
  oms := {
    db := {
      orders := {
        orders := Table.ofList [{ id := 7, orderNumber := "#1007" },
          { id := 8, orderNumber := "#1008" },
          { id := 9, orderNumber := "#1009", status := .confirmed, shippingAddress := some {} }]
          (by decide) } }
    calls := {
      users := [⟨1, "Asha", false, [], none⟩]
      assignments := Table.ofList [
        { id := 100, orderId := 7, assignedTo := 1, assignedAt := 0 },
        { id := 101, orderId := 8, assignedTo := 1, assignedAt := 0 }] (by decide) } }

/-- A statement that fails before anything is committed. -/
def deadlock : Unexpected where
  commits := 0
  inTransaction := true
  error := .other "deadlock detected"
  unexpected _ h := by cases h

/-- The first order fails, and the second cannot be confirmed either. -/
def confirmBoth : List ConfirmEntry := [⟨7, 20, some deadlock⟩, ⟨8, 20, none⟩]

/-- Shiprocket cannot be asked, and then it can; the shipment is stored, and reported as failed. -/
def createTwice : List CreateEntry :=
  [{ orderId := 9, answer := .error (.other "timed out") },
    { orderId := 9, answer := .ok { shipmentId := some "S1" } }]

/-- An order that is not stored with a Shiprocket id while Shiprocket cannot be asked. -/
def processUnlocated : List ProcessEntry :=
  [{ orderId := 9
     locate := { fetchIncremental := fun _ => .error (.oms (.integration "not configured")) }
     shiprocket := none
     now := 20 }]

/-- The results differ from those of the orders alone, and the third action raises. -/
theorem bulkAction_not_independent :
    ¬ (BulkAction.confirm {} ⟨1, "Asha", false, [], none⟩ confirmBoth).IsIndependent threeOrders ∧
    ¬ (BulkAction.create {} (some 1) createTwice).IsIndependent threeOrders ∧
    ¬ (BulkAction.process (some 1) processUnlocated).IsIndependent threeOrders := by
  refine ⟨fun h => ?_, fun h => ?_, fun h => ?_⟩
  · have hresult := (h _ List.prefix_rfl).2.result_eq
    revert hresult
    decide +kernel
  · have hresult := (h _ List.prefix_rfl).2.result_eq
    revert hresult
    decide +kernel
  · obtain ⟨results, hok, -⟩ := (h _ List.prefix_rfl).1
    have hraises : (forEach (processTurn (some 1)) processUnlocated (.authenticated (some 1))
        threeOrders).result.1 = .error .missingGreenlet := by decide +kernel
    rw [hraises] at hok
    cases hok

end AyushOms.Shipments

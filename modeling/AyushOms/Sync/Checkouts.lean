import AyushOms.Orders.Model
import AyushOms.Sync.Records

/-!
# Abandoned Checkouts

`app.services.abandoned_checkout_service`: the handler of `abandoned_checkouts` creates or updates
a checkout and commits nothing. A checkout stays in the session until the counters of its page are
committed, and is gone when a record after it on the page fails.

## Main results

- `upsert_commits_nothing`: the handler leaves its work to the page
- `failed_record_takes_checkout_along`: a run in which a checkout is counted and not stored
-/

namespace AyushOms.Sync

open AyushOms.Lib AyushOms.Lib.Proc AyushOms.Orders UnitOfWork

/-! ## Section 1: The handler -/

/-- The columns of a checkout that a sync writes as they come. -/
structure CheckoutColumns where
  shopifyCheckoutId : Option String := none
  customerName : Option String := none
  customerPhone : Option String := none
  customerEmail : Option String := none
  checkoutUrl : Option String := none
  currency : String := "INR"
  subtotalAmount : ℚ := 0
  totalAmount : ℚ := 0
  lineItems : Option (List (String × ℕ)) := none
  isRecovered : Bool := false
  checkoutCreatedAt : Option Instant := none
  checkoutUpdatedAt : Option Instant := none
  externalCreatedAt : Option Instant := none
  externalUpdatedAt : Option Instant := none
  deriving DecidableEq

/-- A row of `abandoned_checkouts`. -/
structure AbandonedCheckout extends CheckoutColumns where
  sourceSystem : SourceSystem
  externalId : String
  customerId : Option UUID := none
  deriving DecidableEq

/-- What the normalizer makes of a record. -/
structure SyncedCheckout extends CheckoutColumns where
  sourceSystem : SourceSystem
  externalId : String
  customerExternalId : Option String := none

/-- The values of the unique constraints of a checkout. -/
inductive CheckoutKey where
  | external (sourceSystem : SourceSystem) (externalId : String)
  | shopify (checkoutId : String)
  deriving DecidableEq

def AbandonedCheckout.keys (c : AbandonedCheckout) : List CheckoutKey :=
  .external c.sourceSystem c.externalId :: (c.shopifyCheckoutId.map .shopify).toList

structure CheckoutDB where
  customers : List Customer := []
  checkouts : Table AbandonedCheckout CheckoutKey AbandonedCheckout.keys := Table.empty

/-- The customer of a checkout, if the OMS has it. -/
def CheckoutDB.customerId (db : CheckoutDB) (data : SyncedCheckout) : Option UUID :=
  (pyOr data.customerExternalId none).bind fun externalId =>
    (db.customers.find? fun c =>
      c.sourceSystem == some data.sourceSystem && c.externalId == some externalId).map (·.id)

/-- Whether a row is the one of a record. -/
def SyncedCheckout.isOf (data : SyncedCheckout) (c : AbandonedCheckout) : Bool :=
  c.sourceSystem == data.sourceSystem && c.externalId == data.externalId

/-- A delivery that is older than what is stored. -/
def SyncedCheckout.Stale (data : SyncedCheckout) (existing : AbandonedCheckout) : Prop :=
  ∃ incoming ∈ data.externalUpdatedAt, ∃ stored ∈ existing.externalUpdatedAt, incoming < stored

instance (data : SyncedCheckout) (existing : AbandonedCheckout) :
    Decidable (data.Stale existing) :=
  inferInstanceAs (Decidable (∃ _ ∈ _, _))

/-- The rows after `upsert_synced_checkout`, and whether one was created. -/
def CheckoutDB.upsert (db : CheckoutDB) (data : SyncedCheckout) :
    Except PyException (Bool × CheckoutDB) :=
  match db.checkouts.find? data.isOf with
  | some existing =>
    if data.Stale existing then .ok (false, db)
    else
      match db.checkouts.update? data.isOf fun c =>
        { c with
          toCheckoutColumns := data.toCheckoutColumns
          customerId := (db.customerId data).or existing.customerId } with
      | some checkouts => .ok (false, { db with checkouts := checkouts })
      | none => .error .integrityError
  | none =>
    match db.checkouts.insert? {
        toCheckoutColumns := data.toCheckoutColumns
        sourceSystem := data.sourceSystem
        externalId := data.externalId
        customerId := db.customerId data } with
    | some checkouts => .ok (true, { db with checkouts := checkouts })
    | none => .error .integrityError

/-- `upsert_synced_checkout`: the repository flushes, and nothing commits. -/
def upsertSyncedCheckout (data : SyncedCheckout) : UnitOfWork CheckoutDB PyException Bool :=
  memory fun db =>
    match db.upsert data with
    | .ok (created, db') => (.ok created, db')
    | .error e => (.error e, db)

/-- A record of a page of checkouts: its normalization may raise, and so may the statements of
the handler. -/
def checkoutRecord (normalized : Except PyException SyncedCheckout)
    (fault : Option PyException := none) : SyncRecord CheckoutDB where
  upsert := do
    let data ← memory fun db => (normalized, db)
    match fault with
    | some e => raise e
    | none => upsertSyncedCheckout data

/-- Whatever becomes of the record, its handler commits nothing. -/
theorem upsert_commits_nothing (normalized : Except PyException SyncedCheckout)
    (fault : Option PyException) (s : Session CheckoutDB) :
    ((checkoutRecord normalized fault).upsert s.seen s.stored).states = [] := by
  cases normalized with
  | error e => rfl
  | ok data => cases fault <;> rfl

/-- So a failing checkout leaves no trace exactly where everything before it is committed. -/
theorem losesNothing_checkout {normalized : Except PyException SyncedCheckout}
    {fault : Option PyException} {s : Session CheckoutDB}
    (h : Fails (checkoutRecord normalized fault).upsert s) :
    LosesNothing s (.item (checkoutRecord normalized fault).upsert) ↔ s.seen = s.stored := by
  constructor
  · intro hlose
    exact hlose _ rfl h (upsert_commits_nothing normalized fault s)
  · intro hclean _ _ _ _
    exact hclean

/-! ## Section 2: A checkout that is counted and not stored -/

/-- A checkout of 500. -/
def newCheckout : SyncedCheckout where
  sourceSystem := .shopify
  externalId := "4001"
  shopifyCheckoutId := some "4001"
  customerPhone := some "9876543210"
  totalAmount := 500
  externalUpdatedAt := some 100

/-- A page with the checkout and a record the normalizer rejects. -/
def checkoutPage : SyncPage CheckoutDB String where
  nodes := [checkoutRecord (.ok newCheckout), checkoutRecord (.error (.other "invalid node"))]
  nextCursor := none
  hasMore := false

/-- A full sync of that page. -/
def checkoutSync : SyncRun CheckoutDB String where
  syncType := .full
  turns := [{ fetch := .ok checkoutPage }]

/-- The job reports one checkout created and none is stored; with the rejected record absent it
would be. -/
theorem failed_record_takes_checkout_along :
    let start := checkoutSync.queued {} none none
    (executeSync checkoutSync start start).result.1.toOption.join.map (·.recordsCreated) = some 1 ∧
      ((executeSync checkoutSync start start).final start).data.checkouts.rows = [] ∧
      ¬ Isolated (.clean {}) (checkoutSync.course none {}).steps := by
  refine ⟨by decide +kernel, by decide +kernel, fun h => ?_⟩
  have hfails : Fails (checkoutRecord (.error (.other "invalid node"))).upsert
      (attempt (checkoutRecord (.ok newCheckout)).upsert (.clean {})) := ⟨_, rfl⟩
  have hsame := h [.item (checkoutRecord (.ok newCheckout)).upsert] _ [.commit] rfl hfails rfl []
    List.nil_prefix
  have hrows := congrArg (fun s => s.seen.checkouts.rows.length) hsame
  exact absurd hrows (by decide +kernel)

end AyushOms.Sync

import AyushOms.Reconciliation.Model
import AyushOms.Shopify.Normalizer
import Mathlib.Data.List.Sort

/-!
# The Checks of a Reconciliation

What each check records about a sample of rows and a page of a provider, until something in it
raises. Three checks read the database alone; the others compare it with what a provider answers.
The list order of a table stands for the order in which a query returns its rows.

## Main results

- `trackingFamily_eq`: the tracking check is the one of the courier's responses
- `names_mem_checkNames`: the names of the checks of a run
- `fits_errorResult`: the columns take the result that says that a check has failed
-/

namespace AyushOms.Reconciliation

open AyushOms.Lib AyushOms.Orders
open AyushOms.Tracking (TrackingDB TrackingResponse Shipment ReconciliationStatus sampleLimit)
open AyushOms.Shopify (ProductStatus)

/-! ## Section 1: What the checks read -/

/-- `str` and `uuid.UUID` of an id. -/
class UuidText where
  str : UUID → String
  parse : String → Option UUID

/-- The decimal numbers that stand for the ids. -/
instance : UuidText where
  str id := toString id
  parse text := text.toNat?

/-- A row of `audit_logs`, the columns a check reads. -/
structure AuditLog where
  action : String
  entityId : String
  createdAt : Instant

/-- A row of `products`, the columns a check reads. -/
structure Product where
  id : UUID
  sourceSystem : Option SourceSystem := none
  externalId : Option String := none
  title : String
  status : ProductStatus
  vendor : Option String := none

/-- A row of `customers`, the columns a check reads. -/
structure Customer where
  id : UUID
  sourceSystem : Option SourceSystem := none
  externalId : Option String := none
  email : Option String := none
  firstName : Option String := none
  lastName : Option String := none

/-- A row of `ndrs`, the columns a check reads. -/
structure NDR where
  id : UUID
  shipmentId : UUID
  externalReason : Option String := none
  attemptNumber : Int := 1

def Product.keys (p : Product) : List SyncedKey :=
  .id p.id :: (externalKey p.sourceSystem p.externalId).map .external

def Customer.keys (c : Customer) : List SyncedKey :=
  .id c.id :: (externalKey c.sourceSystem c.externalId).map .external

/-- The rows of the business tables as the queries of one check find them. -/
structure Business where
  tracking : TrackingDB := {}
  auditLogs : List AuditLog := []
  products : Table Product SyncedKey Product.keys := Table.empty
  customers : Table Customer SyncedKey Customer.keys := Table.empty
  ndrs : List NDR := []
  /-- The names of the couriers. -/
  courierName : UUID → Option String := fun _ => none
  /-- `ORDER BY updated_at DESC` of shipments. -/
  newestFirst : List Shipment → List Shipment := id

/-- What a normalizer gives for one record of a page, or what it raises. -/
abbrev Page (N : Type) := Except Failure (List (Except Failure N))

structure ProviderOrder where
  externalId : Option String

structure ProviderProduct where
  externalId : Option String
  title : Option String
  status : Option ProductStatus
  vendor : Option String

structure ProviderCustomer where
  externalId : Option String
  email : Option String
  firstName : Option String
  lastName : Option String

structure ProviderNDR where
  awb : Option String
  externalReason : Option String
  attemptNumber : Int

/-- What the Shopify adapter answers in a run. -/
structure ShopifyAdapter where
  orders : Page ProviderOrder
  products : Page ProviderProduct
  customers : Page ProviderCustomer

/-- What the Shiprocket adapter answers in a run. -/
structure ShiprocketAdapter where
  getTracking : String → Except Failure TrackingResponse
  ndr : Page ProviderNDR

/-! ## Section 2: Loops that record -/

/-- What a check has recorded when it ends, or when it raises. -/
structure Found where
  recorded : List Recorded := []
  raised : Option Failure := none

/-- A loop that records at each turn, until a turn raises. -/
def eachTurn {α : Type} (turn : α → Found) : List α → Found
  | [] => {}
  | a :: rest =>
    let found := turn a
    match found.raised with
    | some _ => found
    | none =>
      let others := eachTurn turn rest
      { others with recorded := found.recorded ++ others.recorded }

/-- The loop over the records of a page: each is normalized and compared. -/
def eachNode {N : Type} (page : Page N) (compare : N → Option Recorded) : Found :=
  match page with
  | .error e => { raised := some e }
  -- the first record that cannot be normalized ends the loop
  | .ok nodes => eachTurn (fun
      | .error e => { raised := some e }
      | .ok normalized => { recorded := (compare normalized).toList }) nodes

/-- A text or `None` as a JSON value. -/
def Json.ofText (text : Option String) : Json := text.elim .null .str

/-- An entry of `diffs`, for a field that differs. -/
def fieldDiff (differs : Bool) (field provider : String) (oms theirs : Json) :
    List (String × Json) :=
  if differs then [(field, .obj [("oms", oms), (provider, theirs)])] else []

/-- The result of a comparison field by field. -/
def diffResult (checkType provider entityType internalId externalId : String)
    (diffs : List (String × Json)) : Recorded where
  checkType := checkType
  provider := provider
  entityType := entityType
  internalId := some internalId
  externalId := some externalId
  expectedValue := if diffs.isEmpty then none else some (.obj [(provider, .obj diffs)])
  status := if diffs.isEmpty then .reconciled else .mismatch
  message := if diffs.isEmpty then none
    else some ("Fields differ: " ++ ", ".intercalate (diffs.map (·.1)) ++ ".")

/-! ## Section 3: The database alone -/

section Checks

variable [UuidText]

/-- `_check_oms_orders_missing_shopify_id`. -/
def checkOmsOrdersMissingShopifyId (b : Business) : Found where
  recorded := ((b.tracking.orders.orders.rows.filter fun o =>
      o.sourceSystem == some .shopify && o.shopifyOrderId.isNone).take sampleLimit).map fun o =>
    { checkType := "oms_order_missing_shopify_id"
      provider := "shopify"
      entityType := "order"
      internalId := some (UuidText.str o.id)
      externalId := o.externalId
      status := .mismatch
      message := some "Order is sourced from Shopify but shopify_order_id is not set." }

/-- `_check_shipment_missing_shiprocket_id`. -/
def checkShipmentMissingShiprocketId (b : Business) : Found where
  recorded := ((b.tracking.shipments.rows.filter fun s =>
      s.sourceSystem == some .shiprocket && s.shiprocketShipmentId.isNone).take
        sampleLimit).map fun s =>
    { checkType := "shipment_missing_shiprocket_id"
      provider := "shiprocket"
      entityType := "shipment"
      internalId := some (UuidText.str s.id)
      externalId := s.externalId
      status := .mismatch
      message := some ("Shipment is sourced from Shiprocket but shiprocket_shipment_id is " ++
        "not set.") }

/-- `_check_shiprocket_shipment_missing_in_oms`. -/
def checkShiprocketShipmentMissingInOms (b : Business) : Found where
  recorded :=
    let logs := (b.auditLogs.filter fun log => log.action == "shipment.created_via_shiprocket")
    ((logs.insertionSort fun log log' => log'.createdAt ≤ log.createdAt).take
        sampleLimit).filterMap fun log =>
      match UuidText.parse log.entityId with
      -- `except ValueError: continue`
      | none => none
      | some shipmentId =>
        match b.tracking.getShipment shipmentId with
        | some _ => none
        | none => some {
            checkType := "shiprocket_shipment_missing_in_oms"
            provider := "shiprocket"
            entityType := "shipment"
            internalId := some log.entityId
            status := .missing
            message := some ("Audit log recorded a Shiprocket shipment creation but no " ++
              "matching Shipment row exists.") }

/-! ## Section 4: Against Shopify -/

/-- `_check_shopify_orders_missing_in_oms`. -/
def checkShopifyOrdersMissingInOms (b : Business) (adapter : ShopifyAdapter) : Found :=
  eachNode adapter.orders fun normalized =>
    match pyOr normalized.externalId none with
    | none => none
    | some externalId =>
      let existing := b.tracking.orders.orders.find? fun o =>
        o.sourceSystem == some .shopify && o.externalId == some externalId
      some {
        checkType := "shopify_order_missing_in_oms"
        provider := "shopify"
        entityType := "order"
        internalId := existing.map fun o => UuidText.str o.id
        externalId := some externalId
        status := if existing.isSome then .reconciled else .missing
        message := if existing.isSome then none
          else some "Shopify order has no matching OMS order." }

/-- `ProductStatus.value`. -/
def productStatusValue : ProductStatus → String
  | .active => "active"
  | .draft => "draft"
  | .archived => "archived"

/-- `_check_shopify_product_diff`. -/
def checkShopifyProductDiff (b : Business) (adapter : ShopifyAdapter) : Found :=
  eachNode adapter.products fun normalized =>
    match pyOr normalized.externalId none with
    | none => none
    | some externalId =>
      (b.products.find? fun p =>
        p.sourceSystem == some .shopify && p.externalId == some externalId).map fun existing =>
        let shopifyStatus := normalized.status.map productStatusValue
        diffResult "shopify_product_diff" "shopify" "product" (UuidText.str existing.id)
          externalId
          (fieldDiff (normalized.title != some existing.title) "title" "shopify"
              (.str existing.title) (Json.ofText normalized.title) ++
            fieldDiff (shopifyStatus != some (productStatusValue existing.status)) "status"
              "shopify" (.str (productStatusValue existing.status)) (Json.ofText shopifyStatus) ++
            fieldDiff (pyOr existing.vendor none != pyOr normalized.vendor none) "vendor"
              "shopify" (Json.ofText existing.vendor) (Json.ofText normalized.vendor))

/-- `_check_shopify_customer_diff`. -/
def checkShopifyCustomerDiff (b : Business) (adapter : ShopifyAdapter) : Found :=
  eachNode adapter.customers fun normalized =>
    match pyOr normalized.externalId none with
    | none => none
    | some externalId =>
      (b.customers.find? fun c =>
        c.sourceSystem == some .shopify && c.externalId == some externalId).map fun existing =>
        let textDiff := fun (field : String) (oms theirs : Option String) =>
          fieldDiff (pyOr oms none != pyOr theirs none) field "shopify" (Json.ofText oms)
            (Json.ofText theirs)
        diffResult "shopify_customer_diff" "shopify" "customer" (UuidText.str existing.id)
          externalId
          (textDiff "email" existing.email normalized.email ++
            textDiff "first_name" existing.firstName normalized.firstName ++
            textDiff "last_name" existing.lastName normalized.lastName)

/-! ## Section 5: Against Shiprocket -/

/-- A result of the tracking check as a row of `reconciliation_results`. -/
def ofTracking (r : Tracking.ReconciliationResult) : Recorded where
  checkType := r.checkType
  provider := r.provider
  entityType := r.entityType
  internalId := some (UuidText.str r.internalId)
  externalId := r.externalId
  expectedValue := r.expectedValue.map fun (key, value) => .obj [(key, .str value)]
  actualValue := r.actualValue.map fun (key, value) => .obj [(key, Json.ofText value)]
  status := r.status
  message := r.message

section Tracking

variable [PyText] [Sync.ShiprocketTimes] [IsoFormat]

/-- What the tracking check of the courier's responses found. -/
def Found.ofChecked (checked : Tracking.Checked) : Found where
  recorded := checked.results.map ofTracking
  raised := checked.raised.map .raised

/-- One turn of the loop of `_check_shiprocket_tracking_family`. -/
def trackingTurn (b : Business) (adapter : ShiprocketAdapter) (s : Shipment) : Found :=
  match s.awb with
  -- the query asks for shipments with an AWB
  | none => { raised := some (.raised (.other "")) }
  | some awb =>
    match adapter.getTracking awb with
    | .error e => { raised := some e }
    | .ok raw => .ofChecked (Tracking.checkTracking b.courierName b.tracking s raw)

/-- `_check_shiprocket_tracking_family`. -/
def checkShiprocketTrackingFamily (b : Business) (adapter : ShiprocketAdapter) : Found :=
  eachTurn (trackingTurn b adapter) (Tracking.trackingSample b.newestFirst b.tracking)

/-- As long as the courier's client raises no `IntegrationError`, it is the check of the
responses. -/
theorem trackingFamily_eq (b : Business) (adapter : ShiprocketAdapter)
    (getTracking : String → Except PyException TrackingResponse)
    (hsame : ∀ awb, adapter.getTracking awb = (getTracking awb).mapError .raised) :
    checkShiprocketTrackingFamily b adapter = .ofChecked
      (Tracking.checkShiprocketTrackingFamily b.courierName b.newestFirst b.tracking
        getTracking) := by
  unfold checkShiprocketTrackingFamily Tracking.checkShiprocketTrackingFamily
  induction Tracking.trackingSample b.newestFirst b.tracking with
  | nil => rfl
  | cons s rest ih =>
    simp only [eachTurn, trackingTurn, Tracking.checkTrackingFamily, hsame]
    cases s.awb with
    | none => rfl
    | some awb =>
      cases hraw : getTracking awb with
      | error e => simp [hraw, Except.mapError, Found.ofChecked]
      | ok raw =>
        simp only [hraw, Except.mapError, Found.ofChecked]
        -- a turn that raises ends both loops
        cases hraised : (Tracking.checkTracking b.courierName b.tracking s raw).raised with
        | some e => simp [hraised]
        | none => simp [ih, Found.ofChecked]

end Tracking

/-- `_check_ndr_mismatch`. -/
def checkNdrMismatch (b : Business) (adapter : ShiprocketAdapter) : Found :=
  eachNode adapter.ndr fun normalized =>
    match pyOr normalized.awb none with
    | none => none
    | some awb =>
      (b.tracking.shipments.find? fun s => s.awb == some awb).map fun shipment =>
        match b.ndrs.find? fun ndr => ndr.shipmentId == shipment.id with
        | none => {
            checkType := "ndr_mismatch"
            provider := "shiprocket"
            entityType := "ndr"
            internalId := some (UuidText.str shipment.id)
            externalId := some awb
            expectedValue := some (.obj [("reason", Json.ofText normalized.externalReason)])
            status := .missing
            message := some ("Shiprocket reports an NDR for this AWB but no NDR record exists " ++
              "in OMS.") }
        | some existing =>
          diffResult "ndr_mismatch" "shiprocket" "ndr" (UuidText.str existing.id) awb
            (fieldDiff (pyOr existing.externalReason none != pyOr normalized.externalReason none)
                "reason" "shiprocket" (Json.ofText existing.externalReason)
                (Json.ofText normalized.externalReason) ++
              fieldDiff (existing.attemptNumber != normalized.attemptNumber) "attempt_number"
                "shiprocket" (.int existing.attemptNumber) (.int normalized.attemptNumber))

/-! ## Section 6: The checks of a run -/

/-- One entry of `checks`, with what its function finds. -/
structure Check where
  checkType : String
  provider : String
  entityType : String
  found : Found

/-- What a run meets: the adapters that are registered, the business tables as each check finds
them, and the time at which it ends. -/
structure Environment where
  shopify : Option ShopifyAdapter := none
  shiprocket : Option ShiprocketAdapter := none
  business : String → Business := fun _ => {}
  now : Instant := 0

namespace Environment

variable [PyText] [Sync.ShiprocketTimes] [IsoFormat] (env : Environment)

/-- The entries of `checks` for Shopify. -/
def shopifyChecks (adapter : ShopifyAdapter) : List Check :=
  [⟨"shopify_order_missing_in_oms", "shopify", "order",
      checkShopifyOrdersMissingInOms (env.business "shopify_order_missing_in_oms") adapter⟩,
    ⟨"shopify_product_diff", "shopify", "product",
      checkShopifyProductDiff (env.business "shopify_product_diff") adapter⟩,
    ⟨"shopify_customer_diff", "shopify", "customer",
      checkShopifyCustomerDiff (env.business "shopify_customer_diff") adapter⟩]

/-- The entries of `checks` for Shiprocket. -/
def shiprocketChecks (adapter : ShiprocketAdapter) : List Check :=
  [⟨"shiprocket_tracking_family", "shiprocket", "shipment",
      checkShiprocketTrackingFamily (env.business "shiprocket_tracking_family") adapter⟩,
    ⟨"shiprocket_ndr_mismatch", "shiprocket", "ndr",
      checkNdrMismatch (env.business "shiprocket_ndr_mismatch") adapter⟩]

/-- `checks`. -/
def checks : List Check :=
  [⟨"oms_order_missing_shopify_id", "shopify", "order",
      checkOmsOrdersMissingShopifyId (env.business "oms_order_missing_shopify_id")⟩,
    ⟨"shipment_missing_shiprocket_id", "shiprocket", "shipment",
      checkShipmentMissingShiprocketId (env.business "shipment_missing_shiprocket_id")⟩,
    ⟨"shiprocket_shipment_missing_in_oms", "shiprocket", "shipment",
      checkShiprocketShipmentMissingInOms
        (env.business "shiprocket_shipment_missing_in_oms")⟩] ++
    env.shopify.elim [] env.shopifyChecks ++ env.shiprocket.elim [] env.shiprocketChecks

/-- What `skipped` holds before the first check. -/
def unregistered : List String :=
  env.shopify.elim
      ["shopify_order_missing_in_oms", "shopify_product_diff", "shopify_customer_diff"]
      (fun _ => []) ++
    env.shiprocket.elim ["shiprocket_tracking_family", "shiprocket_ndr_mismatch"] (fun _ => [])

end Environment

end Checks

/-! ## Section 7: The result of a failed check -/

/-- The result that says that a check has failed. -/
def Check.errorResult (check : Check) (message : String) : Recorded where
  checkType := check.checkType
  provider := check.provider
  entityType := check.entityType
  status := .error
  message := some (firstThousand message)

/-- A text without a NUL. -/
def clean (text : String) : Prop := Char.ofNat 0 ∉ text.toList

instance (text : String) : Decidable (clean text) := inferInstanceAs (Decidable (_ ∉ _))

/-- The check types, providers and entity types of the checks. -/
def checkNames : List (String × String × String) :=
  [("oms_order_missing_shopify_id", "shopify", "order"),
    ("shipment_missing_shiprocket_id", "shiprocket", "shipment"),
    ("shiprocket_shipment_missing_in_oms", "shiprocket", "shipment"),
    ("shopify_order_missing_in_oms", "shopify", "order"),
    ("shopify_product_diff", "shopify", "product"),
    ("shopify_customer_diff", "shopify", "customer"),
    ("shiprocket_tracking_family", "shiprocket", "shipment"),
    ("shiprocket_ndr_mismatch", "shiprocket", "ndr")]

theorem storable_checkNames : ∀ names ∈ checkNames,
    storable 80 names.1 = true ∧ storable 50 names.2.1 = true ∧ storable 50 names.2.2 = true := by
  decide

/-- A check that is not run because its provider is not registered has one of these types. -/
theorem unregistered_subset (env : Environment) :
    ∀ name ∈ env.unregistered, name ∈ checkNames.map (·.1) := by
  cases hshopify : env.shopify <;> cases hshiprocket : env.shiprocket <;>
    simp [Environment.unregistered, hshopify, hshiprocket, checkNames]

section Names

variable [UuidText] [PyText] [Sync.ShiprocketTimes] [IsoFormat] {env : Environment}

/-- A check has one of these names. -/
theorem names_mem_checkNames {check : Check} (hcheck : check ∈ env.checks) :
    (check.checkType, check.provider, check.entityType) ∈ checkNames := by
  simp only [Environment.checks, List.mem_append, List.mem_cons, List.not_mem_nil,
    or_false] at hcheck
  rcases hcheck with ((rfl | rfl | rfl) | hshopify) | hshiprocket
  · simp [checkNames]
  · simp [checkNames]
  · simp [checkNames]
  · cases hadapter : env.shopify with
    | none => simp [hadapter] at hshopify
    | some adapter =>
      simp only [hadapter, Option.elim, Environment.shopifyChecks, List.mem_cons,
        List.not_mem_nil, or_false] at hshopify
      rcases hshopify with rfl | rfl | rfl <;> simp [checkNames]
  · cases hadapter : env.shiprocket with
    | none => simp [hadapter] at hshiprocket
    | some adapter =>
      simp only [hadapter, Option.elim, Environment.shiprocketChecks, List.mem_cons,
        List.not_mem_nil, or_false] at hshiprocket
      rcases hshiprocket with rfl | rfl <;> simp [checkNames]

/-- The columns take the result of a failed check, whatever text without a NUL it carries. -/
theorem fits_errorResult {check : Check} (hcheck : check ∈ env.checks) {message : String}
    (hclean : clean message) : (check.errorResult message).fits = true := by
  obtain ⟨htype, hprovider, hentity⟩ := storable_checkNames _ (names_mem_checkNames hcheck)
  have hmessage : storable 1000 (firstThousand message) = true := by
    have hsub : Char.ofNat 0 ∉ (firstThousand message).toList := by
      rw [firstThousand, String.toList_ofList]
      exact fun h => hclean (List.mem_of_mem_take h)
    simp [storable, length_firstThousand, hsub]
  simp [Recorded.fits, Check.errorResult, htype, hprovider, hentity, hmessage]

end Names

end AyushOms.Reconciliation

import AyushOms.Shopify.Outcomes

/-!
# Assigning an AWB

`assign_awb` of the Shiprocket service: Shiprocket is asked for an AWB, the courier of its
answer is stored in a transaction of its own, the shipment is written, and after that commit
the shipment is pushed to Shopify.

## Main results

- `keeps_awbOwnPart`, `getShipment_awbOwnPart`: the session and the store a push begins with
-/

namespace AyushOms.Shopify

open AyushOms.Lib AyushOms.Orders AyushOms.Tracking AyushOms.Telecalling

/-! ## Section 1: Couriers -/

namespace Oms

/-- `CourierRepository.get_by_source_external_id`, for Shiprocket's ids. -/
def getShiprocketCourier (w : Oms) (externalId : String) : Option Courier :=
  w.couriers.find? fun c => c.sourceSystem == some .shiprocket && c.externalId == some externalId

/-- The write of `upsert_synced_courier`. -/
def upsertCourier (w : Oms) (externalId name : String) : Courier × Oms :=
  match w.getShiprocketCourier externalId with
  | some existing =>
    ({ existing with name := name },
      { w with couriers := w.couriers.map fun c =>
          if c.id = existing.id then { c with name := name } else c })
  | none =>
    let courier : Courier := {
      id := OrdersDB.unusedId (w.couriers.map (·.id))
      name := name
      sourceSystem := some .shiprocket
      externalId := some externalId }
    (courier, { w with couriers := w.couriers ++ [courier] })

theorem db_upsertCourier (w : Oms) (externalId name : String) :
    (w.upsertCourier externalId name).2.db = w.db := by
  unfold upsertCourier
  split <;> rfl

end Oms

/-- `upsert_synced_courier`: the courier is loaded or created, and committed. -/
def upsertSyncedCourier (externalId name : String) : OmsProc Courier := do
  let w ← Proc.store
  withSession fun k => k.load (.courier (w.upsertCourier externalId name).1.id)
  transaction none fun w => .ok (w.upsertCourier externalId name)

/-! ## Section 2: The method -/

/-- What Shiprocket's answer has under the keys that are read; a missing key and a number 0
are `none`. -/
structure AwbAnswer where
  awbCode : Option String := none
  courierName : Option String := none
  courierCompanyId : Option String := none
  deriving DecidableEq, Repr

/-- The Shiprocket adapter's `assign_awb`, when one is registered. -/
abbrev AwbAdapter := Option (String → Option String → Except PyException AwbAnswer)

/-- `update_fields` of `assign_awb`. -/
def writeAwb (awb : Option String) (courierId : Option UUID) (s : Shipment) : Shipment :=
  { s with awb := awb.or s.awb, courierId := courierId.or s.courierId }

/-- The courier of the answer. -/
def awbCourier (answer : AwbAnswer) (courierId : Option String) : OmsProc (Option UUID) :=
  match pyOr answer.courierName none, pyOr (pyOr answer.courierCompanyId courierId) none with
  | some name, some companyId => do
    let courier ← upsertSyncedCourier companyId name
    return some courier.id
  | _, _ => pure none

/-- `assign_awb` up to its commit: the written shipment, and whether there is an AWB. -/
def awbOwnPart (shiprocket : AwbAdapter) (shipmentId : UUID) (courierId : Option String)
    (actor : Option UUID) : OmsProc (Shipment × Bool) := do
  let shipment ← loadShipment shipmentId (.oms (.notFound "Shipment not found."))
  match pyOr shipment.shiprocketShipmentId none with
  | none => throw (.oms (.conflict
      "Shipment has no Shiprocket shipment id — create it via Shiprocket first."))
  | some shiprocketShipmentId =>
    match shiprocket with
    | none => throw (.oms (.integration "No adapter registered for integration 'shiprocket'."))
    | some assign =>
      match assign shiprocketShipmentId courierId with
      | .error e => throw e
      | .ok answer => do
        let awb := pyOr answer.awbCode none
        let courier ← awbCourier answer courierId
        let shipment ← transaction actor fun w =>
          w.updateShipment shipmentId (writeAwb awb courier)
        return (shipment, awb.isSome)

/-- What `assign_awb` does after its commit. -/
def awbPush (registry : Registry) (now : Instant) (shipmentId : UUID) (actor : Option UUID)
    (written : Shipment × Bool) : OmsProc Shipment :=
  if written.2 then syncFulfillmentForShipment registry now shipmentId actor
  else pure written.1

/-- `assign_awb`. -/
def assignAwb (registry : Registry) (shiprocket : AwbAdapter) (now : Instant) (shipmentId : UUID)
    (courierId : Option String) (actor : Option UUID) : OmsProc Shipment := do
  let written ← awbOwnPart shiprocket shipmentId courierId actor
  awbPush registry now shipmentId actor written

/-! ## Section 3: What the push finds -/

section Own

variable {shiprocket : AwbAdapter} {shipmentId : UUID} {courierId : Option String}
  {actor : Option UUID}

theorem keeps_awbCourier (answer : AwbAnswer) (courierId : Option String) :
    (awbCourier answer courierId).Keeps fun k => k.CanRead actor := by
  unfold awbCourier
  split
  · refine Proc.Keeps.bind ?_ fun _ => .pure _
    exact Proc.Keeps.store.bind fun _ =>
      (keeps_withSession fun _ h => RequestSession.canRead_load h _).bind fun _ => keeps_transaction
  · exact .pure _

/-- The acting user is still readable when the push begins. -/
theorem keeps_awbOwnPart (shiprocket : AwbAdapter) (shipmentId : UUID)
    (courierId : Option String) (actor : Option UUID) :
    (awbOwnPart shiprocket shipmentId courierId actor).Keeps fun k => k.CanRead actor := by
  refine (keeps_loadShipment _ _).bind fun s => ?_
  split
  · exact .throw _
  · split
    · exact .throw _
    · split
      · exact .throw _
      · exact (keeps_awbCourier _ _).bind fun _ => keeps_transaction.bind fun _ => .pure _

/-- The shipment is still there. -/
def KeepsShipment (shipmentId : UUID) (w w' : Oms) : Prop :=
  w.db.getShipment shipmentId ≠ none → w'.db.getShipment shipmentId ≠ none

theorem keepsShipment_awbOwnPart :
    (awbOwnPart shiprocket shipmentId courierId actor).Commits (KeepsShipment shipmentId) := by
  refine (commits_loadShipment _ _).bind fun s => ?_
  split
  · exact .throw _
  · split
    · exact .throw _
    · split
      · exact .throw _
      · refine Proc.Commits.bind ?_ fun courier => (commits_transaction ?_).bind fun _ => .pure _
        · unfold awbCourier
          split
          · refine Proc.Commits.bind (Proc.Commits.store.bind fun _ => (commits_withSession _).bind
              fun _ => commits_transaction fun w c w' h => ?_) fun _ => .pure _
            obtain rfl := congrArg Prod.snd (Except.ok.inj h)
            rw [KeepsShipment, Oms.db_upsertCourier]
            exact id
          · exact .pure _
        · intro w s' w' hwrite hs
          rw [(Oms.updateShipment_eq_ok hwrite).1.row]
          simpa using hs

/-- A push begins with the shipment in the store. -/
theorem getShipment_awbOwnPart {k k' : RequestSession} {w : Oms} {written : Shipment × Bool}
    (h : (awbOwnPart shiprocket shipmentId courierId actor k w).result = (.ok written, k')) :
    ((awbOwnPart shiprocket shipmentId courierId actor k w).final w).db.getShipment shipmentId ≠
      none := by
  refine (keepsShipment_awbOwnPart k w).final (fun _ => id) (fun h h' hs => h' (h hs)) fun hs => ?_
  unfold awbOwnPart at h
  rw [Proc.bind_run, loadShipment_run_none hs] at h
  cases h

end Own

end AyushOms.Shopify

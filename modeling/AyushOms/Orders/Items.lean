import AyushOms.Core.Base
import AyushOms.Core.Enums
import AyushOms.Lib.Table

/-!
# Order Lines

`order_items`: what an order asks for, in units of a variant. A line synced from a store
is identified by `(source_system, external_id)`.
-/

namespace AyushOms.Orders

open AyushOms.Lib

/-- `OrderItem`: one line of an order. -/
structure OrderItem where
  orderId : UUID
  productVariantId : Option UUID
  sku : String
  productName : String := ""
  quantity : Int
  sourceSystem : Option SourceSystem := none
  externalId : Option String := none
  deriving DecidableEq, Repr

/-- A row's `(source_system, external_id)`, when both are set. -/
def externalKey (sourceSystem : Option SourceSystem) (externalId : Option String) :
    List (SourceSystem × String) :=
  match sourceSystem, externalId with
  | some source, some external => [(source, external)]
  | _, _ => []

theorem mem_externalKey {source : Option SourceSystem} {external : Option String}
    {k : SourceSystem × String} :
    k ∈ externalKey source external ↔ source = some k.1 ∧ external = some k.2 := by
  obtain ⟨s, e⟩ := k
  cases source <;> cases external <;> simp [externalKey, eq_comm]

/-- `uq_order_items_source_external_id`. -/
def OrderItem.keys (item : OrderItem) : List (SourceSystem × String) :=
  externalKey item.sourceSystem item.externalId

abbrev ItemTable := Table OrderItem (SourceSystem × String) OrderItem.keys

end AyushOms.Orders

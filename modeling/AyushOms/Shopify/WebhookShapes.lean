import AyushOms.Shopify.Normalizer

/-!
# Webhook Payloads

`app.integrations.shopify.webhook_shapes` for orders: a webhook delivers the REST form of an
order, with snake_case keys, plain prices, comma-joined tags and integer ids; it is translated
into the node that a pull would have fetched, and then normalized like one.
-/

namespace AyushOms.Shopify

open AyushOms.Lib

section Shapes

variable [PyText] [PyRepr] [DecimalText]

/-- `_gid`. -/
def gid (resource : String) : Json → Json
  | .null => .null
  | rawId => .str ("gid://shopify/" ++ resource ++ "/" ++ pyStr rawId)

/-- `_amount`; the amount is a value of the payload or a `Decimal`, printed. -/
def amount : Json → Json
  | .null => .null
  | .decimal value => .obj [("shopMoney", .obj [("amount", .decimal value)])]
  | value => .obj [("shopMoney", .obj [("amount", .str (pyStr value))])]

/-- `_rest_address_to_graphql`. -/
def restAddressToGraphql (value : Json) : Except PyException Json :=
  if value.truthy then do
    let raw ← value.dict
    return .obj (raw.set "id" (gid "MailingAddress" (raw.get "id")))
  else pure .null

/-- `_REST_FULFILLMENT_STATUS_TO_GRAPHQL`, without the entry of `None`. -/
def restFulfillmentStatusToGraphql : List (String × String) :=
  [("fulfilled", "FULFILLED"), ("partial", "PARTIALLY_FULFILLED"), ("restocked", "RESTOCKED")]

/-- `_REST_FULFILLMENT_STATUS_TO_GRAPHQL.get(value, "UNFULFILLED")`; a list or a dictionary is no
key. -/
def graphqlFulfillmentStatus : Json → Except PyException Json
  | .str status => .ok (.str ((restFulfillmentStatusToGraphql.lookup status).getD "UNFULFILLED"))
  | .arr _ | .obj _ => .error wrongType
  | _ => .ok (.str "UNFULFILLED")

/-- `_fulfillment_to_graphql_shape`. -/
def fulfillmentToGraphqlShape (value : Json) : Except PyException Json := do
  let shipmentStatus := Dict.get (← value.dict) "shipment_status"
  if shipmentStatus.truthy then
    return .obj [("displayStatus", .str (PyText.upper (← shipmentStatus.text)))]
  else return .obj [("displayStatus", .null)]

/-- The after-discount total of a line: `max(Decimal("0"), unit_price * quantity -
line_discount)`. -/
def afterDiscountTotal (unitPrice lineDiscount : ℚ) (quantity : Int) : ℚ :=
  max 0 (pyDecimal (pyDecimal (unitPrice * quantity) - lineDiscount))

/-- `_order_line_item_to_graphql_shape`. -/
def orderLineItemToGraphqlShape (raw : Dict) : Except PyException Dict := do
  let quantity ← quantityOf (raw.get "quantity")
  let unitPrice := decimalOf (raw.get "price")
  let lineDiscount := decimalOf (raw.get "total_discount")
  let variantId := raw.get "variant_id"
  return [
    ("id", gid "LineItem" (raw.get "id")),
    ("sku", raw.get "sku"),
    ("title", (raw.get "title").orElse (raw.get "name")),
    ("quantity", (raw.get "quantity").orElse (.int 0)),
    ("originalUnitPriceSet", amount (raw.get "price")),
    ("discountedTotalSet", amount (.decimal (afterDiscountTotal unitPrice lineDiscount quantity))),
    ("variant", if variantId.truthy then .obj [("id", gid "ProductVariant" variantId)]
      else .obj [])]

/-- `(raw.get("currency") or "").upper() or None`. -/
def currencyCodeOf (currency : Json) : Except PyException Json := do
  let code := PyText.upper (← currency.textOr)
  return if pyFalsy code then .null else .str code

/-- The shipping line of the first shipping line, when there is one. -/
def shippingLineOf (shippingLines : List Json) : Except PyException Json :=
  match shippingLines with
  | first :: _ =>
    if first.truthy then do
      return .obj [("originalPriceSet", amount (Dict.get (← first.dict) "price"))]
    else pure .null
  | [] => pure .null

/-- `order_webhook_to_graphql_shape`. -/
def orderWebhookToGraphqlShape (raw : Dict) : Except PyException Dict := do
  let customer ← (raw.get "customer").dictOr
  let lineItems ← (raw.get "line_items").listOr
  let shippingLine ← shippingLineOf (← (raw.get "shipping_lines").listOr)
  let currencyCode ← currencyCodeOf (raw.get "currency")
  let fulfillmentStatus ← graphqlFulfillmentStatus (raw.get "fulfillment_status")
  let shippingAddress ← restAddressToGraphql (raw.get "shipping_address")
  let billingAddress ← restAddressToGraphql (raw.get "billing_address")
  let nodes ← lineItems.mapM fun item => do orderLineItemToGraphqlShape (← item.dict)
  let fulfillments ← (← (raw.get "fulfillments").listOr).mapM fulfillmentToGraphqlShape
  return [
    ("id", gid "Order" (raw.get "id")),
    ("name", raw.get "name"),
    ("createdAt", raw.get "created_at"),
    ("updatedAt", raw.get "updated_at"),
    ("cancelledAt", raw.get "cancelled_at"),
    ("currencyCode", currencyCode),
    ("displayFinancialStatus", raw.get "financial_status"),
    ("displayFulfillmentStatus", fulfillmentStatus),
    ("tags", raw.get "tags"),
    ("note", raw.get "note"),
    ("paymentGatewayNames", raw.get "payment_gateway_names"),
    ("customer", if (customer.get "id").truthy then
      .obj [("id", gid "Customer" (customer.get "id"))] else .obj []),
    ("subtotalPriceSet", amount (raw.get "subtotal_price")),
    ("totalDiscountsSet", amount (raw.get "total_discounts")),
    ("totalTaxSet", amount (raw.get "total_tax")),
    ("totalPriceSet", amount (raw.get "total_price")),
    ("shippingLine", shippingLine),
    ("shippingAddress", shippingAddress),
    ("billingAddress", billingAddress),
    ("lineItems", .obj [("edges", .arr (nodes.map fun node => .obj [("node", .obj node)]))]),
    ("fulfillments", .arr fulfillments)]

end Shapes

end AyushOms.Shopify

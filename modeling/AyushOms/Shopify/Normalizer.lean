import AyushOms.Core.Enums
import AyushOms.Core.Values
import Mathlib.Data.List.Infix

/-!
# Shopify Normalization

`app.integrations.shopify.normalizer`: what becomes of an order, a customer and a product node.
A field is cleaned when it goes through `_clean_text`, which removes NUL characters and cuts the
text to the width of its column; some fields are passed on as they came.

The node of a connection, its maps and its sub-objects are read in the source's order; a value
of another type than expected raises.
-/

namespace AyushOms.Shopify

open AyushOms.Lib

/-! ## Section 1: Cleaning -/

/-- The NUL character. -/
def nul : Char := Char.ofNat 0

/-- `text.replace("\x00", "")`. -/
def removeNul (text : String) : String := String.ofList (text.toList.filter (· ≠ nul))

/-- `text[:max_len]`; `None` keeps all of it. -/
def truncate (maxLen : Option ℕ) (text : String) : String :=
  match maxLen with
  | some n => String.ofList (text.toList.take n)
  | none => text

/-- `_clean_text`. -/
def cleanText [PyRepr] (maxLen : Option ℕ) : Json → Option String
  | .null => none
  | value => some (truncate maxLen (removeNul (pyStr value)))

/-- `_sanitize_raw_payload`. -/
def sanitizeRawPayload (value : Json) : Json := value.mapTexts removeNul

/-! ## Section 2: Ids, amounts, timestamps -/

/-- `text.rsplit("/", 1)[-1]`. -/
def afterLastSlash (text : String) : String :=
  String.ofList (text.toList.reverse.takeWhile (· ≠ '/')).reverse

/-- `_gid_to_external_id`. -/
def gidToExternalId [PyRepr] (gid : Json) : Option String :=
  if gid.truthy then some (afterLastSlash (pyStr gid)) else none

/-- `_decimal`. -/
def decimalOf [PyRepr] [DecimalText] : Json → ℚ
  | .null => 0
  | .decimal value => value
  | value => (DecimalText.parse (pyStr value)).getD 0

/-- `_money`. -/
def money [PyRepr] [DecimalText] (moneySet : Json) : Except PyException ℚ :=
  if moneySet.truthy then do
    let shopMoney ← (Dict.get (← moneySet.dict) "shopMoney").dictOr
    return decimalOf (shopMoney.get "amount")
  else pure 0

/-- `_parse_datetime`. -/
def parseDatetime [IsoFormat] (value : Json) : Except PyException (Option Datetime) :=
  if value.truthy then do
    let text ← value.text
    return IsoFormat.parse (String.ofList (text.toList.flatMap fun c =>
      if c = 'Z' then "+00:00".toList else [c]))
  else pure none

/-- The nodes of a connection: `[edge["node"] for edge in raw.get(key, {}).get("edges") or []]`. -/
def nodesOf (raw : Dict) (key : String) : Except PyException (List Dict) := do
  let connection ← match raw.lookup key with
    | some value => value.dict
    | none => pure []
  (← (connection.get "edges").listOr).mapM fun edge => do
    (← Dict.item (← edge.dict) "node").dict

/-! ## Section 3: Addresses -/

/-- A normalized address. -/
structure NormalizedAddress where
  line1 : String
  line2 : Option String
  city : String
  state : Option String
  country : String
  pinCode : String
  contactName : Option String
  contactPhone : Option String
  isDefault : Bool
  externalId : Option String

/-- `normalize_address`. -/
def normalizeAddress [PyRepr] (value : Json) (isDefault : Bool) :
    Except PyException (Option NormalizedAddress) :=
  if value.truthy then do
    let raw ← value.dict
    return some {
      line1 := (pyOr (cleanText (some 255) (raw.get "address1")) none).getD "—"
      line2 := cleanText (some 255) (raw.get "address2")
      city := (pyOr (cleanText (some 120) (raw.get "city")) none).getD "—"
      state := cleanText (some 120) (raw.get "province")
      country := (pyOr (cleanText (some 120) (raw.get "country")) none).getD "India"
      pinCode := (pyOr (cleanText (some 16) (raw.get "zip")) none).getD ""
      contactName := pyOr (cleanText (some 255) ((raw.get "name").orElse (.str ""))) none
      contactPhone := cleanText (some 32) (raw.get "phone")
      isDefault := isDefault
      externalId := pyOr (gidToExternalId (raw.get "id")) none }
  else pure none

/-! ## Section 4: Customers -/

/-- A normalized customer. -/
structure NormalizedCustomer where
  sourceSystem : SourceSystem := .shopify
  externalId : Option String
  shopifyCustomerId : Option String
  firstName : Option String
  lastName : Option String
  fullName : Option String
  email : Option String
  phone : Option String
  isActive : Bool
  externalCreatedAt : Option Datetime
  externalUpdatedAt : Option Datetime
  rawExternalPayload : Json
  addresses : List NormalizedAddress

/-- `==` on the ids of two addresses, which are texts, integers or missing. -/
def sameId : Json → Json → Bool
  | .null, .null => true
  | .int a, .int b => a == b
  | .str a, .str b => a == b
  | _, _ => false

/-- `" ".join(filter(None, [first_name, last_name])) or None`. -/
def joinedName (firstName lastName : Option String) : Json :=
  let names := [firstName, lastName].filterMap fun name => pyOr name none
  if names = [] then .null else .str (" ".intercalate names)

/-- The addresses of a customer: those of the list, and the default one when its id is not among
theirs. -/
def normalizeAddresses [PyRepr] (raw : Dict) : Except PyException (List NormalizedAddress) := do
  let defaultRaw := raw.get "defaultAddress"
  let defaultId := (← defaultRaw.dictOr).get "id"
  let addresses ← (← (raw.get "addresses").listOr).mapM fun a => do
    normalizeAddress a (sameId (Dict.get (← a.dict) "id") defaultId)
  let addresses := addresses.filterMap id
  match ← normalizeAddress defaultRaw true with
  | some address =>
    if address.externalId ∈ (addresses.map (·.externalId)).filter Option.isSome then
      return addresses
    else return addresses ++ [address]
  | none => return addresses

/-- `raw.get("state") != "DISABLED"`. -/
def isDisabled : Json → Bool
  | .str text => text == "DISABLED"
  | _ => false

/-- `ShopifyCustomerNormalizer.normalize`. -/
def normalizeCustomer [PyRepr] [IsoFormat] (raw : Dict) :
    Except PyException NormalizedCustomer := do
  let firstName := cleanText (some 120) (raw.get "firstName")
  let lastName := cleanText (some 120) (raw.get "lastName")
  let addresses ← normalizeAddresses raw
  let createdAt ← parseDatetime (raw.get "createdAt")
  let updatedAt ← parseDatetime (raw.get "updatedAt")
  return {
    externalId := gidToExternalId (raw.get "id")
    shopifyCustomerId := gidToExternalId (raw.get "id")
    firstName := firstName
    lastName := lastName
    fullName := cleanText (some 255) (joinedName firstName lastName)
    email := cleanText (some 255) (raw.get "email")
    phone := cleanText (some 32) (raw.get "phone")
    isActive := !isDisabled (raw.get "state")
    externalCreatedAt := createdAt
    externalUpdatedAt := updatedAt
    rawExternalPayload := sanitizeRawPayload (.obj raw)
    addresses := addresses }

/-! ## Section 5: Products -/

inductive ProductStatus where
  | active | draft | archived
  deriving DecidableEq, Repr

/-- `_PRODUCT_STATUS_MAP`. -/
def productStatusMap : List (String × ProductStatus) :=
  [("ACTIVE", .active), ("DRAFT", .draft), ("ARCHIVED", .archived)]

/-- `normalize_product_status`. -/
def normalizeProductStatus [PyText] (rawStatus : Json) : Except PyException ProductStatus := do
  return (productStatusMap.lookup (PyText.upper (← rawStatus.textOr))).getD .draft

/-- A normalized variant. -/
structure NormalizedVariant where
  sourceSystem : SourceSystem := .shopify
  externalId : Option String
  shopifyVariantId : Option String
  sku : Json
  title : Json
  price : ℚ
  compareAtPrice : Option ℚ
  inventoryQuantity : Json
  weight : Option ℚ
  barcode : Json
  options : Dict
  status : ProductStatus := .active
  rawExternalPayload : Json
  /-- The key is left out without an image. -/
  imageUrl : Option String

/-- One step of the comprehension over `selectedOptions`. -/
def addOption [PyRepr] (options : Dict) (value : Json) : Except PyException Dict := do
  let option ← value.dict
  if (option.get "name").truthy then
    return options.set (pyStr (option.get "name")) (← option.item "value")
  else return options

/-- The `options` of a variant. -/
def optionsOf [PyRepr] (raw : Dict) : Except PyException Dict := do
  (← (raw.get "selectedOptions").listOr).foldlM addOption []

/-- `f"shopify-{_gid_to_external_id(raw.get('id'))}"`. -/
def fallbackSku [PyRepr] (raw : Dict) : String :=
  "shopify-" ++ (gidToExternalId (raw.get "id")).getD "None"

/-- The `url` of an image, cleaned; `none` when it is missing or empty. -/
def imageUrlOf [PyRepr] (image : Json) : Except PyException (Option String) := do
  return pyOr (cleanText (some 2048) ((← image.dictOr).get "url")) none

/-- `_normalize_variant`. -/
def normalizeVariant [PyRepr] [DecimalText] (raw : Dict) :
    Except PyException NormalizedVariant := do
  let options ← optionsOf raw
  let imageUrl ← imageUrlOf (raw.get "image")
  let compareAt := raw.get "compareAtPrice"
  return {
    externalId := gidToExternalId (raw.get "id")
    shopifyVariantId := gidToExternalId (raw.get "id")
    sku := (raw.get "sku").orElse (.str (fallbackSku raw))
    title := raw.get "title"
    price := decimalOf (raw.get "price")
    compareAtPrice := if compareAt.truthy then some (decimalOf compareAt) else none
    inventoryQuantity := (raw.get "inventoryQuantity").orElse (.int 0)
    weight := match raw.get "weight" with
      | .null => none
      | weight => some (decimalOf weight)
    barcode := raw.get "barcode"
    options := options
    rawExternalPayload := sanitizeRawPayload (.obj raw)
    imageUrl := imageUrl }

/-- A normalized product. -/
structure NormalizedProduct where
  sourceSystem : SourceSystem := .shopify
  externalId : Option String
  shopifyProductId : Option String
  title : Json
  description : Json
  vendor : Json
  productType : Json
  tags : Json
  status : ProductStatus
  externalCreatedAt : Option Datetime
  externalUpdatedAt : Option Datetime
  rawExternalPayload : Json
  variants : List NormalizedVariant
  /-- The key is left out without an image. -/
  imageUrl : Option String

/-- `", ".join(tags) if isinstance(tags, list) else tags`. -/
def joinTags : Json → Except PyException Json
  | .arr tags => do return .str (← Json.join ", " tags)
  | tags => pure tags

/-- `ShopifyProductNormalizer.normalize`. -/
def normalizeProduct [PyText] [PyRepr] [DecimalText] [IsoFormat] (raw : Dict) :
    Except PyException NormalizedProduct := do
  let variants ← (← nodesOf raw "variants").mapM normalizeVariant
  let imageUrl ← imageUrlOf (raw.get "featuredImage")
  let tags ← joinTags (raw.get "tags")
  let status ← normalizeProductStatus (raw.get "status")
  let createdAt ← parseDatetime (raw.get "createdAt")
  let updatedAt ← parseDatetime (raw.get "updatedAt")
  return {
    externalId := gidToExternalId (raw.get "id")
    shopifyProductId := gidToExternalId (raw.get "id")
    title := (raw.get "title").orElse (.str "Untitled product")
    description := raw.get "descriptionHtml"
    vendor := raw.get "vendor"
    productType := raw.get "productType"
    tags := tags
    status := status
    externalCreatedAt := createdAt
    externalUpdatedAt := updatedAt
    rawExternalPayload := sanitizeRawPayload (.obj raw)
    variants := variants
    imageUrl := imageUrl }

/-! ## Section 6: Orders -/

/-- `_PAYMENT_STATUS_MAP`. -/
def shopifyPaymentStatusMap : List (String × PaymentStatus) :=
  [("PENDING", .pending), ("AUTHORIZED", .authorized), ("PARTIALLY_PAID", .paid), ("PAID", .paid),
    ("PARTIALLY_REFUNDED", .partiallyRefunded), ("REFUNDED", .refunded), ("VOIDED", .failed),
    ("EXPIRED", .failed)]

/-- `_FULFILLMENT_STATUS_MAP`. -/
def fulfillmentStatusMap : List (String × FulfillmentStatus) :=
  [("UNFULFILLED", .unfulfilled), ("FULFILLED", .fulfilled),
    ("PARTIALLY_FULFILLED", .partiallyFulfilled), ("RESTOCKED", .unfulfilled),
    ("PENDING_FULFILLMENT", .unfulfilled), ("OPEN", .partiallyFulfilled),
    ("IN_PROGRESS", .partiallyFulfilled), ("ON_HOLD", .partiallyFulfilled),
    ("SCHEDULED", .unfulfilled)]

/-- `_COD_GATEWAY_MARKERS`. -/
def codGatewayMarkers : List String := ["cod", "cash on delivery", "cash_on_delivery"]

/-- `normalize_tags`. -/
def normalizeTags [PyRepr] : Json → List String
  | .arr tags => tags.filterMap fun tag => pyOr (cleanText (some 255) tag) none
  | .str tags => (tags.toList.splitOnP (· = ',')).filterMap fun tag =>
      pyOr (cleanText (some 255) (.str (pyStrip (String.ofList tag)))) none
  | _ => []

/-- The first display status, taken from the front. -/
def displayStatusOf [PyText] [PyRepr] : List Json → Except PyException (Option String)
  | [] => pure none
  | fulfillment :: rest => do
    let displayStatus := (← fulfillment.dictOr).get "displayStatus"
    if displayStatus.truthy then return some (PyText.lower (pyStr displayStatus))
    else displayStatusOf rest

/-- `normalize_shipment_status`: the last fulfillment that has a display status. -/
def normalizeShipmentStatus [PyText] [PyRepr] (rawFulfillments : Json) :
    Except PyException (Option String) :=
  match rawFulfillments with
  | .arr fulfillments => displayStatusOf fulfillments.reverse
  | _ => pure none

/-- `normalize_payment_status`. -/
def normalizeShopifyPaymentStatus [PyText] (rawStatus : Json) :
    Except PyException PaymentStatus := do
  return (shopifyPaymentStatusMap.lookup (PyText.upper (← rawStatus.textOr))).getD .pending

/-- `normalize_fulfillment_status`. -/
def normalizeFulfillmentStatus [PyText] (rawStatus : Json) :
    Except PyException FulfillmentStatus := do
  return (fulfillmentStatusMap.lookup (PyText.upper (← rawStatus.textOr))).getD .unfulfilled

/-- `normalize_payment_type`. -/
def normalizePaymentType [PyText] (gatewayNames : Json) : Except PyException PaymentType := do
  let names ← gatewayNames.listOr
  if names.isEmpty then return .other
  else
    let joined := PyText.lower (← Json.join " " names)
    return if codGatewayMarkers.any fun marker =>
      decide (marker.toList <:+: joined.toList) then .cod else .prepaid

/-- A normalized line item. -/
structure NormalizedLineItem where
  externalId : Option String
  shopifyVariantId : Option String
  sku : Json
  productName : Json
  quantity : Int
  unitPrice : ℚ
  discountAmount : ℚ
  taxAmount : ℚ
  totalAmount : ℚ

/-- `raw.get("quantity") or 0`, used as a factor of a `Decimal`. -/
def quantityOf (value : Json) : Except PyException Int :=
  if value.truthy then
    match value with
    | .int quantity => .ok quantity
    | .bool _ => .ok 1
    | _ => .error wrongType
  else .ok 0

/-- `ShopifyOrderNormalizer._normalize_line_item`. -/
def normalizeLineItem [PyRepr] [DecimalText] (raw : Dict) :
    Except PyException NormalizedLineItem := do
  let quantity ← quantityOf (raw.get "quantity")
  let unitPrice ← money (raw.get "originalUnitPriceSet")
  -- what the customer pays for the line, not a discount
  let lineTotalAfterDiscount ← money (raw.get "discountedTotalSet")
  let variant ← (raw.get "variant").dictOr
  return {
    externalId := gidToExternalId (raw.get "id")
    shopifyVariantId := gidToExternalId (variant.get "id")
    sku := (raw.get "sku").orElse (.str "")
    productName := (raw.get "title").orElse (.str "Unknown item")
    quantity := quantity
    unitPrice := unitPrice
    discountAmount := max 0 (pyDecimal (pyDecimal (unitPrice * quantity) - lineTotalAfterDiscount))
    taxAmount := 0
    totalAmount := pyDecimal (lineTotalAfterDiscount + 0) }

/-- A normalized order. -/
structure NormalizedOrder where
  sourceSystem : SourceSystem := .shopify
  externalId : Option String
  shopifyOrderId : Option String
  orderNumber : Json
  customerExternalId : Option String
  orderDatetime : Option Datetime
  currency : Json
  subtotal : ℚ
  discountAmount : ℚ
  taxAmount : ℚ
  shippingCharge : ℚ
  totalAmount : ℚ
  paymentStatus : PaymentStatus
  fulfillmentStatus : FulfillmentStatus
  paymentType : PaymentType
  isCancelled : Bool
  shopifyTags : List String
  shopifyOrderNote : Option String
  shopifyShipmentStatus : Option String
  shippingAddress : Option NormalizedAddress
  billingAddress : Option NormalizedAddress
  externalCreatedAt : Option Datetime
  externalUpdatedAt : Option Datetime
  rawExternalPayload : Json
  items : List NormalizedLineItem

/-- `f"#shopify-{external_id}"`. -/
def fallbackOrderNumber (externalId : Option String) : String :=
  "#shopify-" ++ externalId.getD "None"

/-- `ShopifyOrderNormalizer.normalize`. -/
def normalizeOrder [PyText] [PyRepr] [DecimalText] [IsoFormat] (raw : Dict) :
    Except PyException NormalizedOrder := do
  let externalId := gidToExternalId (raw.get "id")
  let customer ← (raw.get "customer").dictOr
  let items ← (← nodesOf raw "lineItems").mapM normalizeLineItem
  let createdAt ← parseDatetime (raw.get "createdAt")
  let subtotal ← money (raw.get "subtotalPriceSet")
  let discountAmount ← money (raw.get "totalDiscountsSet")
  let taxAmount ← money (raw.get "totalTaxSet")
  let shippingLine ← (raw.get "shippingLine").dictOr
  let shippingCharge ← money (shippingLine.get "originalPriceSet")
  let totalAmount ← money (raw.get "totalPriceSet")
  let paymentStatus ← normalizeShopifyPaymentStatus (raw.get "displayFinancialStatus")
  let fulfillmentStatus ← normalizeFulfillmentStatus (raw.get "displayFulfillmentStatus")
  let paymentType ← normalizePaymentType (raw.get "paymentGatewayNames")
  let shipmentStatus ← normalizeShipmentStatus (raw.get "fulfillments")
  let shippingAddress ← normalizeAddress (raw.get "shippingAddress") false
  let billingAddress ← normalizeAddress (raw.get "billingAddress") false
  let updatedAt ← parseDatetime (raw.get "updatedAt")
  return {
    externalId := externalId
    shopifyOrderId := externalId
    orderNumber := (raw.get "name").orElse (.str (fallbackOrderNumber externalId))
    customerExternalId := gidToExternalId (customer.get "id")
    orderDatetime := createdAt
    currency := (raw.get "currencyCode").orElse (.str "INR")
    subtotal := subtotal
    discountAmount := discountAmount
    taxAmount := taxAmount
    shippingCharge := shippingCharge
    totalAmount := totalAmount
    paymentStatus := paymentStatus
    fulfillmentStatus := fulfillmentStatus
    paymentType := paymentType
    isCancelled := (raw.get "cancelledAt").truthy
    shopifyTags := normalizeTags (raw.get "tags")
    shopifyOrderNote := cleanText (some 5000) (raw.get "note")
    shopifyShipmentStatus := shipmentStatus
    shippingAddress := shippingAddress
    billingAddress := billingAddress
    externalCreatedAt := createdAt
    externalUpdatedAt := updatedAt
    rawExternalPayload := sanitizeRawPayload (.obj raw)
    items := items }

end AyushOms.Shopify

import AyushOms.Shopify.Normalizer

/-!
# Which Normalized Records Can Be Stored

PostgreSQL refuses a text with a NUL character and one that is longer than its column. The
normalizers clean what they extract, but not everything: ids, an order's number, currency and
shipment status, the SKU and title of a line item, the texts of a product and of its variants are
passed on as they come. A record can be stored exactly when the texts passed on can be.

## Main results

- `cleanText_fits`, `insertable_payload`: what cleaning gives
- `insertable_iff_passed`: the records of the three normalizers
-/

namespace AyushOms.Shopify

open AyushOms.Lib

/-! ## Section 1: Values and columns -/

/-- A value and the column it is bound for; a column without a width is a text of any length or
a JSON column. -/
structure Cell where
  column : String
  width : Option ℕ
  value : Json

/-- The text has no NUL character and is not longer than the column. -/
def Fits (width : Option ℕ) (text : String) : Prop :=
  nul ∉ text.toList ∧ ∀ w ∈ width, text.toList.length ≤ w

instance (width : Option ℕ) (text : String) : Decidable (Fits width text) :=
  inferInstanceAs (Decidable (_ ∧ ∀ w ∈ width, _))

/-- The value itself, when it is a text. -/
def plainText : Json → Option String
  | .str text => some text
  | _ => none

/-- The column takes the value: no text in it has a NUL character, and a text fits. -/
def Cell.Insertable (c : Cell) : Prop :=
  (∀ text ∈ c.value.texts, nul ∉ text.toList) ∧ ∀ text ∈ plainText c.value, Fits c.width text

instance (c : Cell) : Decidable c.Insertable :=
  inferInstanceAs (Decidable ((∀ text ∈ c.value.texts, _) ∧ ∀ text ∈ plainText c.value, _))

def AllInsertable (cells : List Cell) : Prop := ∀ c ∈ cells, c.Insertable

instance (cells : List Cell) : Decidable (AllInsertable cells) :=
  inferInstanceAs (Decidable (∀ c ∈ cells, _))

/-- An optional text as a value. -/
def ofText : Option String → Json
  | some text => .str text
  | none => .null

/-- `CustomerAddress`. -/
def NormalizedAddress.cells (a : NormalizedAddress) : List Cell := [
  ⟨"line1", some 255, .str a.line1⟩,
  ⟨"line2", some 255, ofText a.line2⟩,
  ⟨"city", some 120, .str a.city⟩,
  ⟨"state", some 120, ofText a.state⟩,
  ⟨"country", some 120, .str a.country⟩,
  ⟨"pin_code", some 16, .str a.pinCode⟩,
  ⟨"contact_name", some 255, ofText a.contactName⟩,
  ⟨"contact_phone", some 32, ofText a.contactPhone⟩,
  ⟨"external_id", some 255, ofText a.externalId⟩]

/-- The texts of an address that an order keeps in a JSON column. -/
def addressCells (column : String) : Option NormalizedAddress → List Cell
  | some a => a.cells.map fun c => ⟨column, none, c.value⟩
  | none => []

/-- `Customer`. -/
def NormalizedCustomer.cells (c : NormalizedCustomer) : List Cell := [
  ⟨"external_id", some 255, ofText c.externalId⟩,
  ⟨"shopify_customer_id", some 64, ofText c.shopifyCustomerId⟩,
  ⟨"first_name", some 120, ofText c.firstName⟩,
  ⟨"last_name", some 120, ofText c.lastName⟩,
  ⟨"full_name", some 255, ofText c.fullName⟩,
  ⟨"email", some 255, ofText c.email⟩,
  ⟨"phone", some 32, ofText c.phone⟩,
  ⟨"raw_external_payload", none, c.rawExternalPayload⟩]

/-- `ProductVariant`. -/
def NormalizedVariant.cells (v : NormalizedVariant) : List Cell := [
  ⟨"external_id", some 255, ofText v.externalId⟩,
  ⟨"shopify_variant_id", some 64, ofText v.shopifyVariantId⟩,
  ⟨"sku", some 120, v.sku⟩,
  ⟨"title", some 255, v.title⟩,
  ⟨"barcode", some 64, v.barcode⟩,
  ⟨"options", none, .obj v.options⟩,
  ⟨"raw_external_payload", none, v.rawExternalPayload⟩,
  ⟨"image_url", some 2048, ofText v.imageUrl⟩]

/-- `Product`. -/
def NormalizedProduct.cells (p : NormalizedProduct) : List Cell := [
  ⟨"external_id", some 255, ofText p.externalId⟩,
  ⟨"shopify_product_id", some 64, ofText p.shopifyProductId⟩,
  ⟨"title", some 500, p.title⟩,
  ⟨"description", none, p.description⟩,
  ⟨"vendor", some 255, p.vendor⟩,
  ⟨"product_type", some 120, p.productType⟩,
  ⟨"tags", some 1000, p.tags⟩,
  ⟨"raw_external_payload", none, p.rawExternalPayload⟩,
  ⟨"image_url", some 2048, ofText p.imageUrl⟩]

/-- `OrderItem`; the variant id is looked up and not stored. -/
def NormalizedLineItem.cells (i : NormalizedLineItem) : List Cell := [
  ⟨"external_id", some 255, ofText i.externalId⟩,
  ⟨"shopify_variant_id", none, ofText i.shopifyVariantId⟩,
  ⟨"sku", some 120, i.sku⟩,
  ⟨"product_name", some 500, i.productName⟩]

/-- `Order`; the customer id is looked up and not stored. -/
def NormalizedOrder.cells (o : NormalizedOrder) : List Cell := [
  ⟨"external_id", some 255, ofText o.externalId⟩,
  ⟨"shopify_order_id", some 64, ofText o.shopifyOrderId⟩,
  ⟨"order_number", some 64, o.orderNumber⟩,
  ⟨"customer_external_id", none, ofText o.customerExternalId⟩,
  ⟨"currency", some 8, o.currency⟩,
  ⟨"shopify_tags", none, .arr (o.shopifyTags.map .str)⟩,
  ⟨"shopify_order_note", none, ofText o.shopifyOrderNote⟩,
  ⟨"shopify_shipment_status", some 50, ofText o.shopifyShipmentStatus⟩,
  ⟨"raw_external_payload", none, o.rawExternalPayload⟩]

def NormalizedCustomer.Insertable (c : NormalizedCustomer) : Prop :=
  AllInsertable c.cells ∧ ∀ a ∈ c.addresses, AllInsertable a.cells

def NormalizedProduct.Insertable (p : NormalizedProduct) : Prop :=
  AllInsertable p.cells ∧ ∀ v ∈ p.variants, AllInsertable v.cells

def NormalizedOrder.Insertable (o : NormalizedOrder) : Prop :=
  AllInsertable o.cells ∧ AllInsertable (addressCells "shipping_address" o.shippingAddress) ∧
    AllInsertable (addressCells "billing_address" o.billingAddress) ∧
    ∀ i ∈ o.items, AllInsertable i.cells

/-! ## Section 2: What is passed on -/

section Passed

variable [PyText] [PyRepr]

/-- The id of an address. -/
def addressIdOf : Json → Option String
  | .obj raw => pyOr (gidToExternalId (Dict.get raw "id")) none
  | _ => none

/-- The texts a customer node passes on uncleaned. -/
def customerPassed (raw : Dict) : List Cell := [
  ⟨"external_id", some 255, ofText (gidToExternalId (raw.get "id"))⟩,
  ⟨"shopify_customer_id", some 64, ofText (gidToExternalId (raw.get "id"))⟩]

/-- A customer node passes on its ids, the default address included. -/
def CustomerPassedFits (raw : Dict) : Prop :=
  AllInsertable (customerPassed raw) ∧
    ∀ values, (raw.get "addresses").listOr = .ok values →
      ∀ a ∈ values ++ [raw.get "defaultAddress"],
        (Cell.mk "external_id" (some 255) (ofText (addressIdOf a))).Insertable

/-- The texts a variant node passes on. -/
def variantPassed (raw : Dict) : List Cell := [
  ⟨"external_id", some 255, ofText (gidToExternalId (raw.get "id"))⟩,
  ⟨"shopify_variant_id", some 64, ofText (gidToExternalId (raw.get "id"))⟩,
  ⟨"sku", some 120, (raw.get "sku").orElse (.str (fallbackSku raw))⟩,
  ⟨"title", some 255, raw.get "title"⟩,
  ⟨"barcode", some 64, raw.get "barcode"⟩]

/-- The texts a product node passes on. -/
def productPassed (raw : Dict) : List Cell := [
  ⟨"external_id", some 255, ofText (gidToExternalId (raw.get "id"))⟩,
  ⟨"shopify_product_id", some 64, ofText (gidToExternalId (raw.get "id"))⟩,
  ⟨"title", some 500, (raw.get "title").orElse (.str "Untitled product")⟩,
  ⟨"description", none, raw.get "descriptionHtml"⟩,
  ⟨"vendor", some 255, raw.get "vendor"⟩,
  ⟨"product_type", some 120, raw.get "productType"⟩]

/-- A product node passes on its ids and texts, its joined tags, and the ids, texts and options
of its variants. -/
def ProductPassedFits (raw : Dict) : Prop :=
  AllInsertable (productPassed raw) ∧
    (∀ tags, joinTags (raw.get "tags") = .ok tags →
      (Cell.mk "tags" (some 1000) tags).Insertable) ∧
    ∀ nodes, nodesOf raw "variants" = .ok nodes → ∀ node ∈ nodes,
      AllInsertable (variantPassed node) ∧
        ∀ options, optionsOf node = .ok options → (Cell.mk "options" none (.obj options)).Insertable

/-- The texts a line-item node passes on. -/
def lineItemPassed (raw : Dict) : List Cell := [
  ⟨"external_id", some 255, ofText (gidToExternalId (raw.get "id"))⟩,
  ⟨"sku", some 120, (raw.get "sku").orElse (.str "")⟩,
  ⟨"product_name", some 500, (raw.get "title").orElse (.str "Unknown item")⟩]

/-- The texts an order node passes on. -/
def orderPassed (raw : Dict) : List Cell := [
  ⟨"external_id", some 255, ofText (gidToExternalId (raw.get "id"))⟩,
  ⟨"shopify_order_id", some 64, ofText (gidToExternalId (raw.get "id"))⟩,
  ⟨"order_number", some 64,
    (raw.get "name").orElse (.str (fallbackOrderNumber (gidToExternalId (raw.get "id"))))⟩,
  ⟨"currency", some 8, (raw.get "currencyCode").orElse (.str "INR")⟩,
  ⟨"shipping_address", none, ofText (addressIdOf (raw.get "shippingAddress"))⟩,
  ⟨"billing_address", none, ofText (addressIdOf (raw.get "billingAddress"))⟩]

/-- An order node passes on its ids, number, currency and current display status, and the ids,
SKUs and titles of its line items. -/
def OrderPassedFits (raw : Dict) : Prop :=
  AllInsertable (orderPassed raw) ∧
    (∀ customer, (raw.get "customer").dictOr = .ok customer →
      (Cell.mk "customer_external_id" none
        (ofText (gidToExternalId (customer.get "id")))).Insertable) ∧
    (∀ status, normalizeShipmentStatus (raw.get "fulfillments") = .ok status →
      (Cell.mk "shopify_shipment_status" (some 50) (ofText status)).Insertable) ∧
    ∀ nodes, nodesOf raw "lineItems" = .ok nodes → ∀ node ∈ nodes,
      AllInsertable (lineItemPassed node) ∧
        ∀ variant, (node.get "variant").dictOr = .ok variant →
          (Cell.mk "shopify_variant_id" none
            (ofText (gidToExternalId (variant.get "id")))).Insertable

end Passed

/-! ## Section 3: What cleaning gives -/

theorem nul_not_mem_removeNul (text : String) : nul ∉ (removeNul text).toList := by
  simp [removeNul]

theorem nul_not_mem_truncate {text : String} (h : nul ∉ text.toList) (maxLen : Option ℕ) :
    nul ∉ (truncate maxLen text).toList := by
  cases maxLen with
  | none => exact h
  | some n =>
    simp only [truncate, String.toList_ofList]
    exact fun hmem => h (List.mem_of_mem_take hmem)

theorem length_truncate_le (n : ℕ) (text : String) :
    (truncate (some n) text).toList.length ≤ n := by
  simp only [truncate, String.toList_ofList]
  exact List.length_take_le n _

section Cleaned

variable {n : ℕ}

/-- An optional text fits when it is there. -/
def OptionFits (width : Option ℕ) (text : Option String) : Prop := ∀ t ∈ text, Fits width t

theorem cleanText_fits [PyRepr] (n : ℕ) (value : Json) :
    OptionFits (some n) (cleanText (some n) value) := by
  intro text htext
  have hclean : ∀ t, Fits (some n) (truncate (some n) (removeNul t)) := by
    intro t
    refine ⟨nul_not_mem_truncate (nul_not_mem_removeNul t) _, fun w hw => ?_⟩
    obtain rfl : n = w := Option.some.inj hw
    exact length_truncate_le n _
  cases value <;>
    simp only [cleanText, Option.mem_def, Option.some.injEq, reduceCtorEq] at htext <;>
    exact htext ▸ hclean _

theorem OptionFits.pyOr {width : Option ℕ} {text : Option String} (h : OptionFits width text) :
    OptionFits width (pyOr text none) := by
  intro t ht
  refine h t ?_
  unfold AyushOms.pyOr at ht
  cases text with
  | none => cases ht
  | some s =>
    by_cases hs : pyFalsy s
    · simp [hs] at ht
    · simpa [hs] using ht

theorem OptionFits.getD {width : Option ℕ} {text : Option String} {default : String}
    (h : OptionFits width text) (hdefault : Fits width default) :
    Fits width (text.getD default) := by
  cases text with
  | none => exact hdefault
  | some t => exact h t rfl

theorem insertable_str_iff {column : String} {width : Option ℕ} {text : String} :
    (Cell.mk column width (.str text)).Insertable ↔ Fits width text := by
  constructor
  · intro h
    exact h.2 text rfl
  · intro h
    refine ⟨fun t ht => ?_, fun t ht => ?_⟩
    · simp only [Json.texts, List.mem_singleton] at ht
      rw [ht]
      exact h.1
    · obtain rfl := Option.some.inj ht
      exact h

theorem insertable_ofText_iff {column : String} {width : Option ℕ} {text : Option String} :
    (Cell.mk column width (ofText text)).Insertable ↔ OptionFits width text := by
  cases text with
  | none => simp [Cell.Insertable, ofText, plainText, Json.texts, OptionFits]
  | some t =>
    rw [show ofText (some t) = .str t from rfl, insertable_str_iff]
    simp [OptionFits]

/-- A stored payload has no NUL character in any text, however deep. -/
theorem insertable_payload (column : String) (raw : Dict) :
    (Cell.mk column none (sanitizeRawPayload (.obj raw))).Insertable := by
  refine ⟨fun text htext => ?_, fun text htext => ?_⟩
  · rw [show (sanitizeRawPayload (.obj raw)).texts = _ from Json.texts_mapTexts _ _] at htext
    obtain ⟨t, -, rfl⟩ := List.mem_map.mp htext
    exact nul_not_mem_removeNul t
  · cases htext

/-- So has every tag. -/
theorem insertable_tags [PyRepr] (column : String) (raw : Json) :
    (Cell.mk column none (.arr ((normalizeTags raw).map .str))).Insertable := by
  have hclean : ∀ tag ∈ normalizeTags raw, nul ∉ tag.toList := by
    intro tag htag
    unfold normalizeTags at htag
    split at htag
    · obtain ⟨t, -, ht⟩ := List.mem_filterMap.mp htag
      exact ((cleanText_fits 255 t).pyOr tag ht).1
    · obtain ⟨t, -, ht⟩ := List.mem_filterMap.mp htag
      exact ((cleanText_fits 255 _).pyOr tag ht).1
    · cases htag
  have htexts : ∀ tags : List String, Json.textsOfValues (tags.map .str) = tags := by
    intro tags
    induction tags with
    | nil => simp [Json.textsOfValues]
    | cons tag tags ih => simp [Json.textsOfValues, Json.texts, ih]
  refine ⟨fun text htext => ?_, fun text htext => ?_⟩
  · rw [Json.texts, htexts] at htext
    exact hclean text htext
  · cases htext

end Cleaned

/-! ## Section 4: Addresses -/

/-- All columns of an address but the id fit. -/
structure NormalizedAddress.Cleaned (a : NormalizedAddress) : Prop where
  line1 : Fits (some 255) a.line1
  line2 : OptionFits (some 255) a.line2
  city : Fits (some 120) a.city
  state : OptionFits (some 120) a.state
  country : Fits (some 120) a.country
  pinCode : Fits (some 16) a.pinCode
  contactName : OptionFits (some 255) a.contactName
  contactPhone : OptionFits (some 32) a.contactPhone

theorem NormalizedAddress.Cleaned.allInsertable_iff {a : NormalizedAddress} (h : a.Cleaned) :
    AllInsertable a.cells ↔ OptionFits (some 255) a.externalId := by
  simp only [AllInsertable, NormalizedAddress.cells, List.forall_mem_cons, insertable_str_iff,
    insertable_ofText_iff]
  constructor
  · intro hall
    exact hall.2.2.2.2.2.2.2.2.1
  · intro hid
    exact ⟨h.line1, h.line2, h.city, h.state, h.country, h.pinCode, h.contactName,
      h.contactPhone, hid, fun c hc => by cases hc⟩

/-- A text that fits a width fits a column without one. -/
theorem OptionFits.unlimited {width : Option ℕ} {text : Option String}
    (h : OptionFits width text) : OptionFits none text :=
  fun t ht => ⟨(h t ht).1, fun w hw => by cases hw⟩

theorem NormalizedAddress.Cleaned.addressCells_iff {a : NormalizedAddress} (h : a.Cleaned)
    (column : String) :
    AllInsertable (addressCells column (some a)) ↔ OptionFits none a.externalId := by
  have hunlimited : ∀ {w t}, Fits w t → Fits none t :=
    fun hfits => ⟨hfits.1, fun w hw => by cases hw⟩
  simp only [AllInsertable, addressCells, NormalizedAddress.cells, List.map_cons,
    List.forall_mem_cons, insertable_str_iff, insertable_ofText_iff]
  constructor
  · intro hall
    exact hall.2.2.2.2.2.2.2.2.1
  · intro hid
    exact ⟨hunlimited h.line1, h.line2.unlimited, hunlimited h.city, h.state.unlimited,
      hunlimited h.country, hunlimited h.pinCode, h.contactName.unlimited,
      h.contactPhone.unlimited, hid, fun c hc => by cases hc⟩

section Addresses

variable [PyRepr]

/-- A normalized address is cleaned, and has the id of its node. -/
theorem normalizeAddress_spec {value : Json} {isDefault : Bool} {a : Option NormalizedAddress}
    (h : normalizeAddress value isDefault = .ok a) :
    (a.bind (·.externalId)) = addressIdOf value ∧ ∀ b ∈ a, b.Cleaned := by
  have hdash : ∀ n, 0 < n → Fits (some n) "—" := fun n hn =>
    ⟨by decide, fun w hw => by obtain rfl := Option.some.inj hw; exact hn⟩
  have hindia : Fits (some 120) "India" :=
    ⟨by decide, fun w hw => by obtain rfl := Option.some.inj hw; decide⟩
  have hempty : Fits (some 16) "" :=
    ⟨by decide, fun w hw => by obtain rfl := Option.some.inj hw; decide⟩
  by_cases htruthy : value.truthy
  · simp only [normalizeAddress, htruthy, if_true, bind_eq_ok, pure_eq_ok] at h
    obtain ⟨raw, hraw, rfl⟩ := h
    cases value <;> simp only [Json.dict, reduceCtorEq, Except.ok.injEq] at hraw
    subst hraw
    refine ⟨rfl, fun b hb => ?_⟩
    obtain rfl := Option.some.inj hb
    exact {
      line1 := (cleanText_fits 255 _).pyOr.getD (hdash 255 (by decide))
      line2 := cleanText_fits 255 _
      city := (cleanText_fits 120 _).pyOr.getD (hdash 120 (by decide))
      state := cleanText_fits 120 _
      country := (cleanText_fits 120 _).pyOr.getD hindia
      pinCode := (cleanText_fits 16 _).pyOr.getD hempty
      contactName := (cleanText_fits 255 _).pyOr
      contactPhone := cleanText_fits 32 _ }
  · simp only [normalizeAddress, htruthy] at h
    have hnone : a = none := (pure_eq_ok.mp h).symm
    subst hnone
    refine ⟨?_, fun b hb => by cases hb⟩
    -- an empty object has no id
    cases value <;> try rfl
    rename_i fields
    simp only [Json.truthy, Bool.not_eq_true, Bool.not_eq_false', List.isEmpty_iff] at htruthy
    subst htruthy
    rfl

/-- The addresses read from a list are cleaned, and their ids are those of the values. -/
theorem readAddresses_spec {defaultId : Json} {values : List Json}
    {read : List (Option NormalizedAddress)}
    (h : List.Forall₂ (fun value a => (do
      normalizeAddress value (sameId (Dict.get (← value.dict) "id") defaultId)) = .ok a)
      values read) :
    (∀ a ∈ read.filterMap id, a.Cleaned) ∧ ∀ gid : String,
      (some gid ∈ (read.filterMap id).map (·.externalId) ↔
        some gid ∈ values.map addressIdOf) := by
  induction h with
  | nil => simp
  | @cons value address values read hread _ ih =>
    obtain ⟨ihclean, ihids⟩ := ih
    obtain ⟨fields, -, haddress⟩ := bind_eq_ok.mp hread
    obtain ⟨hid, hclean⟩ := normalizeAddress_spec haddress
    cases address with
    | none =>
      rw [Option.bind_none] at hid
      refine ⟨ihclean, fun gid => ?_⟩
      show some gid ∈ (read.filterMap id).map (·.externalId) ↔
        some gid ∈ addressIdOf value :: values.map addressIdOf
      rw [ihids gid, ← hid]
      simp only [List.mem_cons, reduceCtorEq, false_or]
    | some a =>
      rw [Option.bind_some] at hid
      refine ⟨fun b hb => ?_, fun gid => ?_⟩
      · rcases List.mem_cons.mp hb with rfl | hb
        · exact hclean b rfl
        · exact ihclean b hb
      · show some gid ∈ a.externalId :: (read.filterMap id).map (·.externalId) ↔
          some gid ∈ addressIdOf value :: values.map addressIdOf
        simp only [List.mem_cons, hid, ihids gid]

/-- The addresses of a customer are cleaned, and their ids are those of the nodes. -/
theorem normalizeAddresses_spec {raw : Dict} {addresses : List NormalizedAddress}
    {values : List Json} (h : normalizeAddresses raw = .ok addresses)
    (hvalues : (raw.get "addresses").listOr = .ok values) :
    (∀ a ∈ addresses, a.Cleaned) ∧ ∀ gid : String,
      (some gid ∈ addresses.map (·.externalId) ↔
        some gid ∈ (values ++ [raw.get "defaultAddress"]).map addressIdOf) := by
  simp only [normalizeAddresses, bind_eq_ok, hvalues, Except.ok.injEq] at h
  obtain ⟨fields, -, values', rfl, read, hread, default, hdefault, hend⟩ := h
  obtain ⟨hclean, hids⟩ := readAddresses_spec (forall₂_of_mapM_eq_ok hread)
  obtain ⟨hid, hdefaultClean⟩ := normalizeAddress_spec hdefault
  simp only [List.map_append, List.map_singleton, List.mem_append, List.mem_singleton]
  cases default with
  | none =>
    rw [Option.bind_none] at hid
    have heq : read.filterMap id = addresses := pure_eq_ok.mp hend
    rw [← heq]
    refine ⟨hclean, fun gid => ?_⟩
    rw [← hid, hids gid]
    simp only [reduceCtorEq, or_false]
  | some a =>
    rw [Option.bind_some] at hid
    dsimp only at hend
    by_cases hseen : a.externalId ∈
        ((read.filterMap id).map (·.externalId)).filter Option.isSome
    · -- the default address is one of the list
      rw [if_pos hseen] at hend
      have heq : read.filterMap id = addresses := pure_eq_ok.mp hend
      rw [← heq]
      refine ⟨hclean, fun gid => ?_⟩
      rw [← hid, hids gid]
      constructor
      · exact .inl
      · intro hmem
        rcases hmem with hmem | hmem
        · exact hmem
        · rw [← hids gid, hmem]
          exact (List.mem_filter.mp hseen).1
    · rw [if_neg hseen] at hend
      have heq : read.filterMap id ++ [a] = addresses := pure_eq_ok.mp hend
      rw [← heq]
      refine ⟨fun b hb => ?_, fun gid => ?_⟩
      · rcases List.mem_append.mp hb with hb | hb
        · exact hclean b hb
        · rw [List.mem_singleton.mp hb]
          exact hdefaultClean a rfl
      · simp only [List.map_append, List.map_singleton, List.mem_append, List.mem_singleton, hid,
          hids gid]

end Addresses

/-! ## Section 5: The three records -/

section Records

variable [PyRepr]

/-- A customer can be stored exactly when the ids passed on can be. -/
theorem customer_insertable_iff [IsoFormat] {raw : Dict} {c : NormalizedCustomer}
    (h : normalizeCustomer raw = .ok c) : c.Insertable ↔ CustomerPassedFits raw := by
  simp only [normalizeCustomer, bind_eq_ok, pure_eq_ok] at h
  obtain ⟨addresses, haddresses, createdAt, -, updatedAt, -, rfl⟩ := h
  obtain ⟨values, hvalues⟩ : ∃ values, (raw.get "addresses").listOr = .ok values := by
    obtain ⟨-, -, values, hvalues, -⟩ := by
      simpa only [normalizeAddresses, bind_eq_ok] using haddresses
    exact ⟨values, hvalues⟩
  obtain ⟨hclean, hids⟩ := normalizeAddresses_spec haddresses hvalues
  unfold NormalizedCustomer.Insertable CustomerPassedFits
  refine and_congr ?_ ?_
  · simp only [AllInsertable, NormalizedCustomer.cells, customerPassed, List.forall_mem_cons,
      insertable_ofText_iff]
    constructor
    · intro hall
      exact ⟨hall.1, hall.2.1, fun c hc => by cases hc⟩
    · intro hpassed
      exact ⟨hpassed.1, hpassed.2.1, cleanText_fits 120 _, cleanText_fits 120 _,
        cleanText_fits 255 _, cleanText_fits 255 _, cleanText_fits 32 _,
        insertable_payload _ raw, fun c hc => by cases hc⟩
  · simp only [insertable_ofText_iff]
    constructor
    · intro hall values' hvalues' value hvalue gid hgid
      obtain rfl : values = values' := Except.ok.inj (hvalues.symm.trans hvalues')
      have hmem := (hids gid).mpr (List.mem_map.mpr ⟨value, hvalue, hgid⟩)
      obtain ⟨a, ha, hagid⟩ := List.mem_map.mp hmem
      exact (hclean a ha).allInsertable_iff.mp (hall a ha) gid hagid
    · intro hall a ha
      refine (hclean a ha).allInsertable_iff.mpr fun gid hgid => ?_
      obtain ⟨value, hvalue, hvgid⟩ :=
        List.mem_map.mp ((hids gid).mp (List.mem_map.mpr ⟨a, ha, hgid⟩))
      exact hall values hvalues value hvalue gid hvgid

theorem imageUrlOf_fits {image : Json} {imageUrl : Option String}
    (h : imageUrlOf image = .ok imageUrl) : OptionFits (some 2048) imageUrl := by
  simp only [imageUrlOf, bind_eq_ok, pure_eq_ok] at h
  obtain ⟨fields, -, rfl⟩ := h
  exact (cleanText_fits 2048 _).pyOr

theorem variant_insertable_iff [DecimalText] {node : Dict} {v : NormalizedVariant}
    (h : normalizeVariant node = .ok v) :
    AllInsertable v.cells ↔ AllInsertable (variantPassed node) ∧
      ∀ options, optionsOf node = .ok options →
        (Cell.mk "options" none (.obj options)).Insertable := by
  simp only [normalizeVariant, bind_eq_ok, pure_eq_ok] at h
  obtain ⟨options, hoptions, imageUrl, himage, rfl⟩ := h
  have himage' : OptionFits (some 2048) imageUrl := imageUrlOf_fits himage
  simp only [AllInsertable, NormalizedVariant.cells, variantPassed, List.forall_mem_cons,
    insertable_ofText_iff, hoptions, Except.ok.injEq, forall_eq']
  constructor
  · intro hall
    obtain ⟨hid, hvariant, hsku, htitle, hbarcode, hopts, -⟩ := hall
    exact ⟨⟨hid, hvariant, hsku, htitle, hbarcode, fun c hc => by cases hc⟩, hopts⟩
  · intro hpassed
    obtain ⟨⟨hid, hvariant, hsku, htitle, hbarcode, -⟩, hopts⟩ := hpassed
    exact ⟨hid, hvariant, hsku, htitle, hbarcode, hopts, insertable_payload _ node, himage',
      fun c hc => by cases hc⟩

/-- A product can be stored exactly when what it and its variants pass on can be. -/
theorem product_insertable_iff [PyText] [DecimalText] [IsoFormat] {raw : Dict}
    {p : NormalizedProduct} (h : normalizeProduct raw = .ok p) :
    p.Insertable ↔ ProductPassedFits raw := by
  simp only [normalizeProduct, bind_eq_ok, pure_eq_ok] at h
  obtain ⟨nodes, hnodes, variants, hvariants, imageUrl, himage, tags, htags, status, -, createdAt,
    -, updatedAt, -, rfl⟩ := h
  have himage' : OptionFits (some 2048) imageUrl := imageUrlOf_fits himage
  unfold NormalizedProduct.Insertable ProductPassedFits
  rw [show (∀ tags', joinTags (raw.get "tags") = .ok tags' →
      (Cell.mk "tags" (some 1000) tags').Insertable) ↔
      (Cell.mk "tags" (some 1000) tags).Insertable by simp [htags]]
  rw [← and_assoc]
  refine and_congr ?_ ?_
  · simp only [AllInsertable, NormalizedProduct.cells, productPassed, List.forall_mem_cons,
      insertable_ofText_iff]
    constructor
    · intro hall
      obtain ⟨hid, hproduct, htitle, hdescription, hvendor, htype, htags', -⟩ := hall
      exact ⟨⟨hid, hproduct, htitle, hdescription, hvendor, htype, fun c hc => by cases hc⟩, htags'⟩
    · intro hpassed
      obtain ⟨⟨hid, hproduct, htitle, hdescription, hvendor, htype, -⟩, htags'⟩ := hpassed
      exact ⟨hid, hproduct, htitle, hdescription, hvendor, htype, htags',
        insertable_payload _ raw, himage', fun c hc => by cases hc⟩
  · have hread := forall₂_of_mapM_eq_ok hvariants
    simp only [hnodes, Except.ok.injEq, forall_eq']
    exact forall_mem_iff_of_forall₂ hread fun node v hv => variant_insertable_iff hv

theorem lineItem_insertable_iff [DecimalText] {node : Dict} {i : NormalizedLineItem}
    (h : normalizeLineItem node = .ok i) :
    AllInsertable i.cells ↔ AllInsertable (lineItemPassed node) ∧
      ∀ variant, (node.get "variant").dictOr = .ok variant →
        (Cell.mk "shopify_variant_id" none
          (ofText (gidToExternalId (variant.get "id")))).Insertable := by
  simp only [normalizeLineItem, bind_eq_ok, pure_eq_ok] at h
  obtain ⟨quantity, -, unitPrice, -, total, -, variant, hvariant, rfl⟩ := h
  simp only [AllInsertable, NormalizedLineItem.cells, lineItemPassed, List.forall_mem_cons,
    insertable_ofText_iff, hvariant, Except.ok.injEq, forall_eq']
  constructor
  · intro hall
    obtain ⟨hid, hvariantId, hsku, hname, -⟩ := hall
    exact ⟨⟨hid, hsku, hname, fun c hc => by cases hc⟩, hvariantId⟩
  · intro hpassed
    obtain ⟨⟨hid, hsku, hname, -⟩, hvariantId⟩ := hpassed
    exact ⟨hid, hvariantId, hsku, hname, fun c hc => by cases hc⟩

/-- The address of an order can be stored exactly when its id can be. -/
theorem orderAddress_insertable_iff {value : Json} {isDefault : Bool}
    {a : Option NormalizedAddress} (h : normalizeAddress value isDefault = .ok a)
    (column : String) :
    AllInsertable (addressCells column a) ↔ OptionFits none (addressIdOf value) := by
  obtain ⟨hid, hclean⟩ := normalizeAddress_spec h
  rw [← hid]
  cases a with
  | none => simp [AllInsertable, addressCells, OptionFits]
  | some a => exact (hclean a rfl).addressCells_iff column

/-- An order can be stored exactly when what it and its line items pass on can be. -/
theorem order_insertable_iff [PyText] [DecimalText] [IsoFormat] {raw : Dict} {o : NormalizedOrder}
    (h : normalizeOrder raw = .ok o) : o.Insertable ↔ OrderPassedFits raw := by
  simp only [normalizeOrder, bind_eq_ok, pure_eq_ok] at h
  obtain ⟨customer, hcustomer, nodes, hnodes, items, hitems, createdAt, -, subtotal, -, discount, -,
    tax, -, shippingLine, -, shipping, -, total, -, payment, -, fulfillment, -, type, -, status,
    hstatus, shippingAddress, hshipping, billingAddress, hbilling, updatedAt, -, rfl⟩ := h
  have hlines := forall_mem_iff_of_forall₂ (forall₂_of_mapM_eq_ok hitems)
    fun node i hi => lineItem_insertable_iff hi
  unfold NormalizedOrder.Insertable OrderPassedFits
  dsimp only
  rw [hlines, orderAddress_insertable_iff hshipping, orderAddress_insertable_iff hbilling]
  simp only [AllInsertable, NormalizedOrder.cells, orderPassed, List.forall_mem_cons,
    insertable_ofText_iff, hcustomer, hstatus, hnodes, Except.ok.injEq, forall_eq']
  constructor
  · intro hall
    obtain ⟨⟨hid, horder, hnumber, hcustomerId, hcurrency, -, -, hstatus', -⟩, haddress,
      haddress', hlines'⟩ := hall
    exact ⟨⟨hid, horder, hnumber, hcurrency, haddress, haddress', fun c hc => by cases hc⟩,
      hcustomerId, hstatus', hlines'⟩
  · intro hpassed
    obtain ⟨⟨hid, horder, hnumber, hcurrency, haddress, haddress', -⟩, hcustomerId, hstatus',
      hlines'⟩ := hpassed
    exact ⟨⟨hid, horder, hnumber, hcustomerId, hcurrency, insertable_tags _ _,
      (cleanText_fits 5000 _).unlimited, hstatus', insertable_payload _ raw,
      fun c hc => by cases hc⟩, haddress, haddress', hlines'⟩

/-- A normalized order, customer or product has no NUL character in any text, and no text longer
than its column, exactly when that holds of the texts its normalizer passes on uncleaned. -/
theorem insertable_iff_passed [PyText] [DecimalText] [IsoFormat] (raw : Dict) :
    (∀ o, normalizeOrder raw = .ok o → (o.Insertable ↔ OrderPassedFits raw)) ∧
      (∀ c, normalizeCustomer raw = .ok c → (c.Insertable ↔ CustomerPassedFits raw)) ∧
      ∀ p, normalizeProduct raw = .ok p → (p.Insertable ↔ ProductPassedFits raw) :=
  ⟨fun _ h => order_insertable_iff h, fun _ h => customer_insertable_iff h,
    fun _ h => product_insertable_iff h⟩

end Records

/-- A node that has nothing but an id. -/
def bareNode : Dict := [("id", .str "gid://shopify/Product/7")]

/-- Every record of such a node can be stored. -/
theorem insertable_iff_passed_bareNode :
    (∃ o, normalizeOrder bareNode = .ok o ∧ o.Insertable) ∧
      (∃ c, normalizeCustomer bareNode = .ok c ∧ c.Insertable) ∧
      ∃ p, normalizeProduct bareNode = .ok p ∧ p.Insertable := by
  obtain ⟨horder, hcustomer, hproduct⟩ := insertable_iff_passed bareNode
  refine ⟨⟨_, rfl, (horder _ rfl).mpr ⟨by decide, ?_, ?_, ?_⟩⟩,
    ⟨_, rfl, (hcustomer _ rfl).mpr ⟨by decide, ?_⟩⟩,
    ⟨_, rfl, (hproduct _ rfl).mpr ⟨by decide, ?_, ?_⟩⟩⟩
  · intro customer h
    cases h
    decide
  · intro status h
    cases h
    decide
  · intro nodes h
    cases h
    simp
  · intro values h
    cases h
    decide
  · intro tags h
    cases h
    decide
  · intro nodes h
    cases h
    simp

/-- A product whose type has 121 characters, which Shopify allows. -/
def longType : Dict :=
  [("id", .str "gid://shopify/Product/7"), ("title", .str "Honey"),
    ("productType", .str (String.ofList (List.replicate 121 'x')))]

/-- It is normalized to a row that its table refuses. -/
theorem long_product_type_refused : ∃ p, normalizeProduct longType = .ok p ∧ ¬ p.Insertable := by
  refine ⟨_, rfl, fun h => ?_⟩
  have htype := h.1 ⟨"product_type", some 120, .str (String.ofList (List.replicate 121 'x'))⟩
    (List.mem_of_getElem? (i := 5) rfl)
  have hlength := (htype.2 _ rfl).2 120 rfl
  simp at hlength

end AyushOms.Shopify

import AyushOms.Lib.FirstMatch
import AyushOms.Shopify.Normalizer
import AyushOms.Shopify.TagPushes
import Mathlib.Data.Finset.Lattice.Lemmas

/-!
# The Channel of an Order and the Tags the OMS Pushes

`resolve_order_channel` scans the tags a pull has brought back for keywords, and what is brought
back includes what the OMS has pushed itself. Outcome tags have no keyword and the label of a
channel only that channel's own, so they never change the classification. The tag with the
telecaller's name is free text: a name with a keyword in it reclassifies the order.

## Main results

- `findSome?_of_arranged`: the first keyword of a list of tags with others inserted
- `channel_stable_of_names`: the runs in which the channel stays
- `telecaller_name_reclassifies`: one in which it does not
-/

namespace AyushOms.Shopify

open AyushOms.Lib AyushOms.Orders AyushOms.Telecalling

/-! ## Section 1: The channel a tag names -/

/-- The channel of the first keyword in a tag. -/
def tagChannel [PyText] (tag : String) : Option OrderChannel :=
  (shopifyTagChannelKeywords.find? fun keyword =>
    decide (keyword.1.toList <:+: (PyText.lower tag).toList)).map (·.2)

/-- A tag as a pull stores it; an empty one is dropped. -/
def readTag [PyRepr] (tag : String) : Option String :=
  pyOr (cleanText (some 255) (.str tag)) none

/-- The channel a tag of the store names once it has been pulled. -/
def readChannel [PyText] [PyRepr] (tag : String) : Option OrderChannel :=
  (readTag tag).bind tagChannel

/-- What a pull stores for a list of tags. -/
def pulledTags [PyRepr] (tags : List String) : List String := normalizeTags (.arr (tags.map .str))

/-- Lower-casing an ASCII text lower-cases its letters. -/
def PyTextAscii [PyText] : Prop :=
  ∀ text : String, (∀ c ∈ text.toList, c.toNat < 128) →
    PyText.lower text = String.ofList (text.toList.map Char.toLower)

theorem resolveOrderChannel_of_manual [PyText] {o : Order} (h : o.sourceSystem = some .manual) :
    resolveOrderChannel o = .manual := if_pos h

theorem resolveOrderChannel_of_not_manual [PyText] {o : Order}
    (h : o.sourceSystem ≠ some .manual) :
    resolveOrderChannel o = ((o.shopifyTags.getD []).findSome? tagChannel).getD .shopify := by
  rw [resolveOrderChannel, if_neg h]
  rfl

/-- The channel follows from the source and the stored tags. -/
theorem resolveOrderChannel_congr [PyText] {o o' : Order}
    (hsource : o'.sourceSystem = o.sourceSystem) (htags : o'.shopifyTags = o.shopifyTags) :
    resolveOrderChannel o' = resolveOrderChannel o := by
  rw [resolveOrderChannel, resolveOrderChannel, hsource, htags]

section Channels

variable [PyRepr]

theorem readTag_eq (tag : String) :
    readTag tag = pyOr (some (truncate (some 255) (removeNul tag))) none := by
  simp only [readTag, cleanText, pyStr]

theorem pulledTags_eq (tags : List String) : pulledTags tags = tags.filterMap readTag := by
  simp only [pulledTags, normalizeTags, List.filterMap_map]
  refine List.filterMap_congr fun tag _ => ?_
  simp only [Function.comp_apply, readTag]

variable [PyText]

/-- The channel of pulled tags, read off the store's. -/
theorem findSome?_pulledTags (tags : List String) :
    (pulledTags tags).findSome? tagChannel = tags.findSome? readChannel := by
  rw [pulledTags_eq]
  induction tags with
  | nil => rw [List.filterMap_nil, List.findSome?_nil, List.findSome?_nil]
  | cons tag tags ih =>
    rw [List.findSome?_cons]
    cases h : readTag tag with
    | none =>
      rw [List.filterMap_cons_none h, ih]
      simp [readChannel, h]
    | some t =>
      rw [List.filterMap_cons_some h, List.findSome?_cons, ih]
      simp [readChannel, h]

/-- The channel of an ASCII tag that a pull stores as it is. -/
theorem readChannel_ascii (hascii : PyTextAscii) {tag : String} (hread : readTag tag = some tag)
    (h : ∀ c ∈ tag.toList, c.toNat < 128) :
    readChannel tag = (shopifyTagChannelKeywords.find? fun keyword =>
      decide (keyword.1.toList <:+: tag.toList.map Char.toLower)).map (·.2) := by
  rw [readChannel, hread, Option.bind_some, tagChannel, hascii tag h, String.toList_ofList]

/-- The label of a channel names that channel or none, and outcome tags name none. -/
theorem readChannel_label (hascii : PyTextAscii) :
    (∀ label ∈ channelLabels, readChannel label.2 = none ∨ readChannel label.2 = some label.1) ∧
      ∀ p ∈ outcomeTags, readChannel p.2 = none := by
  have hread : ∀ tag ∈ channelLabels.map (·.2) ++ outcomeTags.map (·.2),
      pyOr (some (truncate (some 255) (removeNul tag))) none = some tag := by decide +kernel
  have hletters : ∀ tag ∈ channelLabels.map (·.2) ++ outcomeTags.map (·.2),
      ∀ c ∈ tag.toList, c.toNat < 128 := by
    have hall : ∀ tag ∈ channelLabels.map (·.2) ++ outcomeTags.map (·.2),
        tag.toList.all (fun c => decide (c.toNat < 128)) = true := by decide +kernel
    intro tag htag c hc
    exact of_decide_eq_true (List.all_eq_true.mp (hall tag htag) c hc)
  constructor
  · intro label hlabel
    have hmem : label.2 ∈ channelLabels.map (·.2) ++ outcomeTags.map (·.2) :=
      List.mem_append_left _ (List.mem_map_of_mem hlabel)
    rw [readChannel_ascii hascii ((readTag_eq _).trans (hread _ hmem)) (hletters _ hmem)]
    clear hmem
    revert label
    decide
  · intro p hp
    have hmem : p.2 ∈ channelLabels.map (·.2) ++ outcomeTags.map (·.2) :=
      List.mem_append_right _ (List.mem_map_of_mem hp)
    rw [readChannel_ascii hascii ((readTag_eq _).trans (hread _ hmem)) (hletters _ hmem)]
    clear hmem
    revert p
    decide

/-- No keyword stands for the channel of orders without one. -/
theorem readChannel_ne_shopify (tag : String) : readChannel tag ≠ some .shopify := by
  have hkeywords : ∀ keyword ∈ shopifyTagChannelKeywords, keyword.2 ≠ .shopify := by decide
  intro h
  obtain ⟨t, -, ht⟩ := Option.bind_eq_some_iff.mp h
  obtain ⟨keyword, hfind, hchannel⟩ := Option.map_eq_some_iff.mp ht
  exact hkeywords keyword (List.mem_of_find?_eq_some hfind) hchannel

end Channels

/-! ## Section 2: Pushes, pulls and other work -/

/-- The store, and the tags one of its orders has at Shopify. -/
structure TagMirror where
  oms : Oms
  tags : Finset String

/-- What can happen to an order's tags: a call is logged, the order is confirmed, or other work of
the OMS leaves a store, which may have read the tags back in some order. -/
inductive TagEvent where
  | call (c : TagCall)
  | confirm (c : TagPush)
  | work (w : Oms) (pulled : Option (List String))

/-- A procedure that pushes tags, run. -/
def TagMirror.push {ρ : Type} (s : TagMirror) (gid : String) (c : TagPush)
    (p : Oms → Staged Oms ρ) : TagMirror where
  oms := (p s.oms).final s.oms
  tags := receiveAll c.registry c.through gid s.tags (requestsOf (p s.oms) s.oms)

def mirrorStep [PyText] (orderId : UUID) (gid : String) (s : TagMirror) : TagEvent → TagMirror
  | .call c =>
    s.push gid c.toTagPush (syncCallTags c.registry orderId c.outcome c.actor c.session)
  | .confirm c => s.push gid c (syncConfirmationTag c.registry orderId c.actor c.session)
  | .work w _ => { s with oms := w }

/-- The order, as Shopify knows it. -/
def TagMirror.order (s : TagMirror) (orderId : UUID) : Option (Order × String) :=
  shopifyOrder (s.oms.db.orders.getOrder orderId)

/-- The tags are those at Shopify, in an order that keeps the relative order of the original
ones. -/
def Arranges (original : List String) (atShopify : Finset String) (tags : List String) : Prop :=
  (∀ tag, tag ∈ tags ↔ tag ∈ atShopify) ∧
    tags.filter (· ∈ original) = original.filter (· ∈ atShopify)

/-- Other work keeps the order, its source and its id at Shopify, and writes its tags only by
reading them back. -/
def WorkKeeps [PyRepr] (orderId : UUID) (original : List String) (s : TagMirror) :
    TagEvent → Prop
  | .work w pulled =>
    (∀ o id, s.order orderId = some (o, id) →
      ∃ o', shopifyOrder (w.db.orders.getOrder orderId) = some (o', id) ∧
        o'.sourceSystem = o.sourceSystem ∧
        o'.shopifyTags = (pulled.map pulledTags).or o.shopifyTags) ∧
    ∀ tags ∈ pulled, Arranges original s.tags tags
  | _ => True

/-- The condition on a confirmation: no tag it pushes names another channel than the order's. -/
def NamesSafe [PyText] [PyRepr] (orderId : UUID) (s : TagMirror) : TagEvent → Prop
  | .confirm _ => ∀ o id, s.order orderId = some (o, id) → o.sourceSystem = some .manual ∨
      ∀ tag ∈ confirmationTags (telecallerNameOf s.oms o),
        readChannel tag = none ∨ readChannel tag = some (resolveOrderChannel o)
  | _ => True

/-! ## Section 3: What a push does to the tags -/

section Pushes

variable {registry : Registry} {through : ShopifyRequest → String → Bool} {gid tag : String}
  {tags : Finset String} {requests : List ShopifyRequest}

/-- A tag that is there afterwards was there, or a request has added it. -/
theorem mem_of_mem_receiveAll (h : tag ∈ receiveAll registry through gid tags requests) :
    tag ∈ tags ∨ ∃ g names, .addTags g names ∈ requests ∧ tag ∈ names := by
  induction requests generalizing tags with
  | nil => exact .inl h
  | cons request requests ih =>
    rcases ih h with hmem | ⟨g, names, hadd, hnames⟩
    · cases request with
      | addTags g names =>
        by_cases hg : g = gid
        · simp only [receiveTags, hg, if_true, Finset.mem_union, mem_arriving] at hmem
          rcases hmem with hmem | ⟨hnames, -⟩
          · exact .inl hmem
          · exact .inr ⟨g, names, List.mem_cons_self, hnames⟩
        · exact .inl (by simpa [receiveTags, hg] using hmem)
      | removeTags g names =>
        by_cases hg : g = gid
        · simp only [receiveTags, hg, if_true, Finset.mem_sdiff] at hmem
          exact .inl hmem.1
        · exact .inl (by simpa [receiveTags, hg] using hmem)
      | _ => exact .inl hmem
    · exact .inr ⟨g, names, List.mem_cons_of_mem _ hadd, hnames⟩

/-- A tag that no request removes stays. -/
theorem mem_receiveAll (h : tag ∈ tags)
    (hremove : ∀ g names, .removeTags g names ∈ requests → tag ∉ names) :
    tag ∈ receiveAll registry through gid tags requests := by
  induction requests generalizing tags with
  | nil => exact h
  | cons request requests ih =>
    refine ih ?_ fun g names hmem => hremove g names (List.mem_cons_of_mem _ hmem)
    cases request with
    | addTags g names =>
      by_cases hg : g = gid
      · simp [receiveTags, hg, h]
      · simpa [receiveTags, hg] using h
    | removeTags g names =>
      have hnot := hremove g names List.mem_cons_self
      by_cases hg : g = gid
      · simp [receiveTags, hg, h, mem_arriving, hnot]
      · simpa [receiveTags, hg] using h
    | _ => exact h

variable {w : Oms} {orderId : UUID} {actor : Option UUID} {k : RequestSession}

/-- What a confirmation sends, if anything. -/
theorem requests_syncConfirmationTag {o : Order} {id : String}
    (h : shopifyOrder (w.db.orders.getOrder orderId) = some (o, id)) :
    ∀ request ∈ requestsOf (syncConfirmationTag registry orderId actor k w) w,
      request = .addTags (orderGid id) (confirmationTags (telecallerNameOf w o)) := by
  unfold syncConfirmationTag
  cases registry with
  | none =>
    rw [pushConfirmationTags_run_unregistered h, requestsOf_done]
    intro request hmem
    cases hmem
  | some adapter =>
    rw [pushConfirmationTags_run_some h, getAdapter_run_some]
    dsimp only
    rw [Proc.bind_run, bestEffort_run, Staged.andThen_commit, Staged.andThen_done, Proc.resume_ok]
    split
    · simp [requestsOf, final_auditOnly]
    · simp [requestsOf, Proc.pure_run]

/-- What a call sends, if anything. -/
theorem requests_syncCallTags [PyText] {outcome : TelecallingStatus} {o : Order} {id : String}
    (h : shopifyOrder (w.db.orders.getOrder orderId) = some (o, id)) :
    ∀ request ∈ requestsOf (syncCallTags registry orderId outcome actor k w) w,
      request = .addTags (orderGid id) (callTags o outcome).1 ∨
        request = .removeTags (orderGid id) (callTags o outcome).2 := by
  intro request hmem
  cases registry with
  | none =>
    rw [tagRequests_syncCallTags_of_not (.inl rfl)] at hmem
    cases hmem
  | some adapter =>
    rw [tagRequests_syncCallTags h] at hmem
    simpa using hmem

/-- A push changes no row. -/
theorem db_final_of_commits {p : OmsProc Unit}
    (h : p.Commits fun w w' => w'.db = w.db) (k : RequestSession) (w : Oms) :
    ((p k w).final w).db = w.db := by
  have hsteps : (p k w).Steps (fun w w' : Oms => w'.db = w.db) w := h k w
  refine hsteps.final ?_ ?_
  · exact fun _ => rfl
  · intro a b c hab hbc
    exact hbc.trans hab

end Pushes

/-! ## Section 4: The channel stays -/

section Stable

variable [PyText] [PyRepr]

/-- The order keeps its source and channel; what Shopify has beside the original tags names that
channel or none, and the original tags that name it are still there. -/
structure ChannelKept (orderId : UUID) (id : String) (original : List String)
    (source : Option SourceSystem) (channel : OrderChannel) (s : TagMirror) : Prop where
  order : ∃ o, s.order orderId = some (o, id) ∧ o.sourceSystem = source ∧
    resolveOrderChannel o = channel
  others : source ≠ some .manual → ∀ tag ∈ s.tags,
    tag ∈ original ∨ readChannel tag = none ∨ readChannel tag = some channel
  kept : source ≠ some .manual → ∀ tag ∈ original, readChannel tag = some channel → tag ∈ s.tags

variable {orderId : UUID} {id : String} {original : List String} {source : Option SourceSystem}
  {channel : OrderChannel} {s : TagMirror}

/-- The tags a call adds name the order's channel or none. -/
theorem readChannel_of_mem_added (hascii : PyTextAscii) {o : Order} {outcome : TelecallingStatus}
    {tag : String} (h : tag ∈ (callTags o outcome).1) :
    readChannel tag = none ∨ readChannel tag = some (resolveOrderChannel o) := by
  obtain ⟨hlabels, houtcomes⟩ := readChannel_label hascii
  rw [callTags_fst, List.mem_append] at h
  rcases h with hlabel | houtcome
  · exact hlabels (resolveOrderChannel o, tag) (mem_of_mem_ownLabel hlabel)
  · exact .inl (houtcomes (outcome, tag) (mem_of_mem_ownLabel houtcome))

/-- The tags it removes do not. -/
theorem readChannel_of_mem_removed (hascii : PyTextAscii) {o : Order}
    {outcome : TelecallingStatus} {tag : String} (h : tag ∈ (callTags o outcome).2) :
    readChannel tag ≠ some (resolveOrderChannel o) := by
  obtain ⟨hlabels, houtcomes⟩ := readChannel_label hascii
  rw [callTags_snd, List.mem_append] at h
  rcases h with hlabel | houtcome
  · obtain ⟨label, hmem, rfl⟩ := List.mem_map.mp hlabel
    obtain ⟨hmem, hne⟩ := List.mem_filter.mp hmem
    rcases hlabels label hmem with hnone | hsome
    · simp [hnone]
    · rw [hsome]
      exact fun heq => (bne_iff_ne.mp hne) (Option.some.inj heq)
  · obtain ⟨p, hmem, rfl⟩ := List.mem_map.mp (mem_map_of_mem_otherLabels houtcome)
    simp [houtcomes p hmem]

/-- A push keeps the channel when what it adds names that channel or none and what it removes
does not name it. -/
theorem ChannelKept.push {ρ : Type} (h : ChannelKept orderId id original source channel s)
    {gid : String} {c : TagPush} {p : Oms → Staged Oms ρ}
    (hdb : ((p s.oms).final s.oms).db = s.oms.db)
    (hadd : source ≠ some .manual → ∀ g names, .addTags g names ∈ requestsOf (p s.oms) s.oms →
      ∀ tag ∈ names, readChannel tag = none ∨ readChannel tag = some channel)
    (hremove : source ≠ some .manual → ∀ g names,
      .removeTags g names ∈ requestsOf (p s.oms) s.oms →
        ∀ tag ∈ names, readChannel tag ≠ some channel) :
    ChannelKept orderId id original source channel (s.push gid c p) where
  order := by
    have horder : (s.push gid c p).order orderId = s.order orderId := by
      show shopifyOrder (((p s.oms).final s.oms).db.orders.getOrder orderId) = _
      rw [hdb]
      rfl
    rw [horder]
    exact h.order
  others := by
    intro hsource tag htag
    rcases mem_of_mem_receiveAll htag with hold | ⟨g, names, hmem, hnames⟩
    · exact h.others hsource tag hold
    · exact .inr (hadd hsource g names hmem tag hnames)
  kept := by
    intro hsource tag htag hchannel
    exact mem_receiveAll (h.kept hsource tag htag hchannel) fun g names hmem hnames =>
      hremove hsource g names hmem tag hnames hchannel

/-- Reading the tags back gives the same channel. -/
theorem ChannelKept.pulled (h : ChannelKept orderId id original source channel s)
    (hsource : source ≠ some .manual)
    (horiginal : (original.findSome? readChannel).getD .shopify = channel) {tags : List String}
    (htags : Arranges original s.tags tags) :
    ((pulledTags tags).findSome? tagChannel).getD .shopify = channel := by
  rw [findSome?_pulledTags]
  have hfirst := findSome?_of_arranged htags.2
    (fun tag htag => h.others hsource tag ((htags.1 tag).mp htag))
    (fun tag htag c hc hread => by
      have hchannel : c = channel := by
        rw [← horiginal, hc]
        rfl
      rw [hchannel] at hread
      simpa using h.kept hsource tag htag hread)
  rcases hfirst with hsome | heq
  · rw [hsome]
    rfl
  · rw [heq]
    exact horiginal

/-- What one event keeps. -/
theorem channelKept_step (hascii : PyTextAscii)
    (horiginal : source ≠ some .manual →
      (original.findSome? readChannel).getD .shopify = channel)
    (h : ChannelKept orderId id original source channel s) (e : TagEvent)
    (hwork : WorkKeeps orderId original s e) (hnames : NamesSafe orderId s e) :
    ChannelKept orderId id original source channel (mirrorStep orderId (orderGid id) s e) := by
  obtain ⟨o, ho, hsource, hchannel⟩ := h.order
  cases e with
  | call c =>
    have hcommits := commits_syncCallTags (R := fun w w' => w'.db = w.db) (fun _ _ => rfl)
      (fun _ => rfl) c.registry orderId c.outcome c.actor
    refine h.push (db_final_of_commits hcommits c.session s.oms) ?_ ?_
    · intro _ g names hmem tag htag
      rcases requests_syncCallTags ho _ hmem with heq | heq
      · cases heq
        rw [← hchannel]
        exact readChannel_of_mem_added hascii htag
      · cases heq
    · intro _ g names hmem tag htag
      rcases requests_syncCallTags ho _ hmem with heq | heq
      · cases heq
      · cases heq
        rw [← hchannel]
        exact readChannel_of_mem_removed hascii htag
  | confirm c =>
    have hcommits : (syncConfirmationTag c.registry orderId c.actor).Commits
        fun w w' => w'.db = w.db :=
      commits_pushConfirmationTags (R := fun w w' => w'.db = w.db) (fun _ _ => rfl)
        (fun _ => rfl) _ _ _ _
    refine h.push (db_final_of_commits hcommits c.session s.oms) ?_ ?_
    · intro hmanual g names hmem tag htag
      cases requests_syncConfirmationTag ho _ hmem
      rcases hnames o id ho with hman | hsafe
      · exact absurd (hsource ▸ hman) hmanual
      · rw [← hchannel]
        exact hsafe tag htag
    · intro _ g names hmem
      cases requests_syncConfirmationTag ho _ hmem
  | work w pulled =>
    obtain ⟨hrow, hpulled⟩ := hwork
    obtain ⟨o', ho', hsource', htags'⟩ := hrow o id ho
    refine ⟨⟨o', ho', hsource'.trans hsource, ?_⟩, h.others, h.kept⟩
    by_cases hmanual : source = some .manual
    · rw [← hchannel, resolveOrderChannel_of_manual (hsource.trans hmanual),
        resolveOrderChannel_of_manual ((hsource'.trans hsource).trans hmanual)]
    · cases pulled with
      | none => rw [← hchannel, resolveOrderChannel_congr hsource' htags']
      | some tags =>
        have hne : o'.sourceSystem ≠ some .manual := by
          rw [hsource', hsource]
          exact hmanual
        rw [resolveOrderChannel_of_not_manual hne, htags']
        exact h.pulled hmanual (horiginal hmanual) (hpulled tags rfl)

/-- An order whose tags have been pulled keeps its channel through any calls, confirmations and
pulls, whatever the outcomes and however the pushes fail, as long as no confirmation pushes a name
that names another channel. -/
theorem channel_stable_of_names (hascii : PyTextAscii) (orderId : UUID) (original : List String)
    (s : TagMirror) (o : Order) (id : String) (ho : s.order orderId = some (o, id))
    (htags : o.shopifyTags = some (pulledTags original)) (hshop : s.tags = original.toFinset)
    (es : List TagEvent)
    (hrun : Along (mirrorStep orderId (orderGid id))
      (fun s e => WorkKeeps orderId original s e ∧ NamesSafe orderId s e) s es) :
    Throughout (mirrorStep orderId (orderGid id)) (fun s' => ∃ o',
      s'.order orderId = some (o', id) ∧ resolveOrderChannel o' = resolveOrderChannel o) s es := by
  have horiginal : o.sourceSystem ≠ some .manual →
      (original.findSome? readChannel).getD .shopify = resolveOrderChannel o := by
    intro hsource
    rw [resolveOrderChannel_of_not_manual hsource, htags, ← findSome?_pulledTags]
    rfl
  have hstart : ChannelKept orderId id original o.sourceSystem (resolveOrderChannel o) s := by
    refine ⟨⟨o, ho, rfl, rfl⟩, fun _ tag htag => ?_, fun _ tag htag _ => ?_⟩
    · rw [hshop, List.mem_toFinset] at htag
      exact .inl htag
    · rw [hshop, List.mem_toFinset]
      exact htag
  have hstep : ∀ s e, ChannelKept orderId id original o.sourceSystem (resolveOrderChannel o) s →
      WorkKeeps orderId original s e ∧ NamesSafe orderId s e →
      ChannelKept orderId id original o.sourceSystem (resolveOrderChannel o)
        (mirrorStep orderId (orderGid id) s e) :=
    fun s e hs he => channelKept_step hascii horiginal hs e he.1 he.2
  have hkept := throughout_of_along hstep hstart hrun
  intro pre hpre
  obtain ⟨o', ho', -, hchannel⟩ := (hkept pre hpre).order
  exact ⟨o', ho', hchannel⟩

end Stable

/-- An order with these tags, confirmed by the third user. -/
def confirmedOrder (tags : List String) : Order where
  id := 5
  orderNumber := "#1005"
  sourceSystem := some .shopify
  shopifyOrderId := some "4405"
  shopifyTags := some tags
  confirmedByTelecallerId := some 3

theorem nodup_confirmedOrder (tags : List String) :
    ([confirmedOrder tags].flatMap Order.keys).Nodup := by
  have h : ([confirmedOrder []].flatMap Order.keys).Nodup := by decide
  exact h

def confirmedStore (name : String) (tags : List String) : Oms where
  db := { orders := { orders := Table.ofList [confirmedOrder tags] (nodup_confirmedOrder tags) } }
  calls := { users := [{ id := 3, name := name }] }

/-- Before the confirmation. -/
def beforeConfirmation (name : String) : TagMirror := ⟨confirmedStore name [], ∅⟩

/-- The confirmation is pushed, and the two tags are read back. -/
def confirmAndPull (name tag : String) : List TagEvent :=
  [.confirm {
    registry := some (answering (.ok ()))
    actor := some 3
    session := .authenticated (some 3)
    through := fun _ _ => true },
   .work (confirmedStore name ["OMS Confirmed", tag]) (some ["OMS Confirmed", tag])]

/-- What happens is a confirmation and a pull of the tags it has pushed. -/
theorem workKeeps_confirmAndPull (name tag : String)
    (htags : confirmationTags (some name) = ["OMS Confirmed", tag])
    (hread : pulledTags ["OMS Confirmed", tag] = ["OMS Confirmed", tag]) :
    Along (mirrorStep 5 (orderGid "4405")) (WorkKeeps 5 []) (beforeConfirmation name)
      (confirmAndPull name tag) := by
  refine ⟨True.intro, ⟨fun o id ho => ?_, fun tags hpulled => ?_⟩, True.intro⟩
  · have hrow : some (confirmedOrder [], "4405") = some (o, id) := ho
    cases hrow
    refine ⟨confirmedOrder ["OMS Confirmed", tag], rfl, rfl, ?_⟩
    rw [Option.map_some, hread]
    rfl
  · cases hpulled
    have hshop : (mirrorStep 5 (orderGid "4405") (beforeConfirmation name) (.confirm {
        registry := some (answering (.ok ()))
        actor := some 3
        session := .authenticated (some 3)
        through := fun _ _ => true })).tags = ["OMS Confirmed", tag].toFinset := by
      rw [← htags]
      show ∅ ∪ arriving (.ok ()) _ (confirmationTags (some name)) = _
      rw [arriving_of_ok rfl, Finset.empty_union]
    rw [Arranges, hshop]
    simp

/-- A telecaller whose name has no keyword leaves the channel. -/
theorem channel_stable_of_names_ravi :
    ∃ o', (run (mirrorStep 5 (orderGid "4405")) (beforeConfirmation "Ravi")
      (confirmAndPull "Ravi" "Ravi confirmed by OMS")).order 5 = some (o', "4405") ∧
        resolveOrderChannel o' = .shopify := by
  have hnames : Along (mirrorStep 5 (orderGid "4405")) (NamesSafe 5) (beforeConfirmation "Ravi")
      (confirmAndPull "Ravi" "Ravi confirmed by OMS") := by
    refine ⟨fun o id ho => .inr ?_, True.intro, True.intro⟩
    have hrow : some (confirmedOrder [], "4405") = some (o, id) := ho
    cases hrow
    decide
  have hwork := workKeeps_confirmAndPull "Ravi" "Ravi confirmed by OMS" (by decide +kernel)
    (by decide +kernel)
  have hstable := channel_stable_of_names (fun _ _ => rfl) 5 [] (beforeConfirmation "Ravi")
    (confirmedOrder []) "4405" rfl (by decide) rfl _ (hwork.and hnames)
  exact hstable.final

/-- One whose name has a keyword makes an order of the store a marketplace order. -/
theorem telecaller_name_reclassifies :
    resolveOrderChannel (confirmedOrder []) = .shopify ∧
      Along (mirrorStep 5 (orderGid "4405")) (WorkKeeps 5 []) (beforeConfirmation "Amazon Kumar")
        (confirmAndPull "Amazon Kumar" "Amazon Kumar confirmed by OMS") ∧
      ∃ o', (run (mirrorStep 5 (orderGid "4405")) (beforeConfirmation "Amazon Kumar")
        (confirmAndPull "Amazon Kumar" "Amazon Kumar confirmed by OMS")).order 5 =
          some (o', "4405") ∧ resolveOrderChannel o' = .amazon :=
  ⟨by decide, workKeeps_confirmAndPull _ _ (by decide +kernel) (by decide +kernel),
    confirmedOrder ["OMS Confirmed", "Amazon Kumar confirmed by OMS"], rfl, by decide⟩

end AyushOms.Shopify

import AyushOms.Core.Values
import AyushOms.Lib.PageCrawl

/-!
# Shiprocket Lists

`ShiprocketAdapter.fetch_incremental` asks for a list newest first, page by page, and stops at a
page all of whose records are more than a day older than `since`. In a list that is ordered
newest first no later page has a record that is newer. The creation times are compared with a
`datetime` without time zone; a text with an offset is read as one with a time zone, and Python
does not compare the two.

## Main results

- `readsPage_of_naive`: what one page of an ordered list without time zones leads to
- `incremental_misses_nothing_iff`: which lists are read as far as needed
-/

namespace AyushOms.Sync

open AyushOms.Lib

/-! ## Section 1: Creation times -/

/-- What `_parse_datetime` uses of the standard library: `_ORDINAL_SUFFIX_RE.sub(r"\1", text)`, and
`strptime` with a format, whose result has no time zone. -/
class ShiprocketTimes where
  withoutOrdinals : String → String
  strptime : String → String → Option Int

/-- The formats of `_parse_datetime`. -/
def datetimeFormats : List String :=
  ["%Y-%m-%d %H:%M:%S", "%Y-%m-%dT%H:%M:%S", "%Y-%m-%d", "%d %b %Y %I:%M %p"]

/-- `text.replace("Z", "+00:00")`. -/
def zuluAsOffset (text : String) : String :=
  String.ofList (text.toList.flatMap fun c => if c = 'Z' then "+00:00".toList else [c])

section Times

variable [ShiprocketTimes] [IsoFormat]

/-- `_parse_datetime`. -/
def parseDatetime (value : Json) : Except PyException (Option Datetime) :=
  if value.truthy then do
    let normalized := ShiprocketTimes.withoutOrdinals (← value.text)
    match datetimeFormats.findSome? (ShiprocketTimes.strptime normalized) with
    | some reading => return some (.naive reading)
    | none => return IsoFormat.parse (zuluAsOffset normalized)
  else return none

/-- `_INCREMENTAL_TS_KEYS.get(entity_type, ("created_at",))`. -/
def incrementalTsKeys (entityType : String) : List String :=
  if entityType = "ndr" then ["ndr_raised_at", "created_at", "ndr_raised_date"]
  else ["created_at"]

/-- The loop of `_record_created_at`. -/
def firstDatetime (raw : Dict) : List String → Except PyException (Option Datetime)
  | [] => return none
  | key :: keys => do
    match ← parseDatetime (raw.get key) with
    | some parsed => return some parsed
    | none => firstDatetime raw keys

/-- `_record_created_at`. -/
def recordCreatedAt (entityType : String) (raw : Dict) : Except PyException (Option Datetime) :=
  firstDatetime raw (incrementalTsKeys entityType)

end Times

/-- `a < b`; a `datetime` with a time zone and one without are not compared. -/
def isBefore : Datetime → Datetime → Except PyException Bool
  | .naive a, .naive b => .ok (decide (a < b))
  | .aware a, .aware b => .ok (decide (a < b))
  | _, _ => .error wrongType

/-- `a >= b`. -/
def isNotBefore : Datetime → Datetime → Except PyException Bool
  | .naive a, .naive b => .ok (decide (b ≤ a))
  | .aware a, .aware b => .ok (decide (b ≤ a))
  | _, _ => .error wrongType

/-- What is compared with a time with a time zone has one. -/
theorem isNotBefore_aware {time time' : Datetime} (h : isNotBefore time time' = .ok true)
    (haware : ¬ ∃ reading, time' = .naive reading) : ∃ instant, time = .aware instant := by
  cases time' with
  | naive reading => exact absurd ⟨reading, rfl⟩ haware
  | aware instant =>
    cases time with
    | naive reading => cases h
    | aware instant' => exact ⟨instant', rfl⟩

/-- `_is_non_increasing`. -/
def isNonIncreasing : List Datetime → Except PyException Bool
  | earlier :: later :: rest => do
    if ← isNotBefore earlier later then isNonIncreasing (later :: rest) else return false
  | _ => return true

/-- `all(stamp < cutoff for stamp in known)`. -/
def allBefore (cutoff : Datetime) : List Datetime → Except PyException Bool
  | [] => return true
  | stamp :: rest => do
    if ← isBefore stamp cutoff then allBefore cutoff rest else return false

/-! ## Section 2: Pages -/

/-- The parameters of a request for a page; the last one stands for `_NEWEST_FIRST_PARAMS`. -/
structure PageParams where
  page : ℕ
  perPage : ℕ
  newestFirst : Bool
  deriving DecidableEq, Repr

/-- `client.request("GET", path, params)`; the error is the message of a `ShiprocketApiError`. -/
abbrev ShiprocketClient := String → PageParams → Except String Dict

/-- `_FETCH_ROUTES`. -/
def fetchRoutes : List (String × String × List String) :=
  [("ndr", "/ndr/all", ["data", "ndr"]), ("shipments", "/shipments", ["data", "shipments"])]

/-- The message for another list. -/
def unsupportedMessage (entityType : String) : String :=
  "Shiprocket adapter's generic fetch() only supports ['ndr', 'shipments'] " ++
    s!"(got '{entityType}') — tracking is OMS-shipment-driven, " ++
    "see app.integrations.shiprocket.sync."

/-- The records of an answer: the value of the first key that has one. -/
def answeredNodes (nodeKeys : List String) (data : Dict) : Except PyException (List Dict) :=
  match nodeKeys.find? fun key => (data.get key).truthy with
  | none => .ok []
  | some key =>
    match data.get key with
    | .arr values => values.mapM Json.dict
    | _ => .error wrongType

/-- `meta.get("total_pages")`. -/
def answeredTotal (data : Dict) : Except PyException Json :=
  match data.get "meta" with
  | .obj fields =>
    match fields.lookup "pagination" with
    | none => .ok .null
    | some pagination => do return (← pagination.dict).get "total_pages"
  | _ => .ok .null

/-- The number of pages, estimated where the answer does not give it. -/
def totalPages (page limit : ℕ) (nodes : List Dict) (reported : Json) : Except PyException Int :=
  if reported.truthy then
    match reported with
    | .int total => .ok total
    | .bool _ => .ok 1
    | _ => .error wrongType
  else .ok (if nodes.isEmpty then 1 else if limit ≤ nodes.length then page + 1 else page)

/-- `_fetch_list`; a cursor is the text of the number of a page, for which the number stands. -/
def fetchList (client : ShiprocketClient) (entityType : String) (cursor : Option ℕ) (limit : ℕ)
    (newestFirst : Bool) : Except PyException (Page Dict ℕ) :=
  match fetchRoutes.lookup entityType with
  | none => .error (.oms (.integration (unsupportedMessage entityType)))
  | some (path, nodeKeys) => do
    let page := cursor.getD 1
    let data ← (client path { page, perPage := limit, newestFirst }).mapError
      fun message => .oms (.integration message)
    let nodes ← answeredNodes nodeKeys data
    let total ← totalPages page limit nodes (← answeredTotal data)
    let hasMore := decide ((page : Int) < total) && !nodes.isEmpty
    return { nodes, nextCursor := if hasMore then some (page + 1) else none, hasMore }

/-- A `datetime` as a caller passes it: what the clock shows, and its offset when it has a time
zone. -/
structure ClockTime where
  reading : Int
  offset : Option Int := none
  deriving DecidableEq, Repr

/-- `_INCREMENTAL_STOP_MARGIN`, a day in microseconds. -/
def incrementalStopMargin : Int := 86400000000

/-- `since.replace(tzinfo=None) - _INCREMENTAL_STOP_MARGIN`. -/
def ClockTime.cutoff (since : ClockTime) : Datetime :=
  .naive (since.reading - incrementalStopMargin)

section Incremental

variable [ShiprocketTimes] [IsoFormat]

/-- `fetch_incremental`. -/
def fetchIncremental (client : ShiprocketClient) (entityType : String) (since : ClockTime)
    (limit : ℕ) (cursor : Option ℕ) : Except PyException (Page Dict ℕ) := do
  let page ← fetchList client entityType cursor limit true
  if page.nodes.isEmpty then return page
  else do
    let stamps ← page.nodes.mapM (recordCreatedAt entityType)
    let known := stamps.filterMap id
    if known.isEmpty then return page
    else if ← isNonIncreasing known then
      if ← allBefore since.cutoff known then
        return { nodes := page.nodes, nextCursor := none, hasMore := false }
      else return page
    else return page

end Incremental

/-! ## Section 3: Lists that do not change -/

/-- A list that does not change, in pages: the client answers with the records of the page asked
for, and with none after the last; it gives the number of pages, or every page but the last is
full. -/
structure StaticList (client : ShiprocketClient) (path : String) (nodeKeys : List String)
    (limit : ℕ) (pages : List (List Dict)) : Prop where
  nonempty : ∀ page ∈ pages, page ≠ []
  answers : ∀ n, ∃ data total,
    client path { page := n + 1, perPage := limit, newestFirst := true } = .ok data ∧
    answeredNodes nodeKeys data = .ok (pages.getD n []) ∧ answeredTotal data = .ok total ∧
    (total = .int pages.length ∨
      total.truthy = false ∧ ∀ m, m + 1 < pages.length → limit ≤ (pages.getD m []).length)

/-- The cursor with which the page at an index is asked for. -/
def cursorAt : ℕ → Option ℕ
  | 0 => none
  | n + 1 => some (n + 2)

theorem getD_cursorAt (n : ℕ) : (cursorAt n).getD 1 = n + 1 := by
  cases n with
  | zero => rfl
  | succ n => rfl

variable {client : ShiprocketClient} {entityType path : String} {nodeKeys : List String}
  {limit : ℕ} {pages : List (List Dict)}

theorem StaticList.isEmpty_page (hstatic : StaticList client path nodeKeys limit pages) (n : ℕ) :
    (pages.getD n []).isEmpty = true ↔ pages.length ≤ n := by
  rw [List.isEmpty_iff]
  constructor
  · intro hnone
    by_contra hlt
    rw [List.getD_eq_getElem _ _ (not_le.mp hlt)] at hnone
    exact hstatic.nonempty _ (List.getElem_mem (not_le.mp hlt)) hnone
  · exact List.getD_eq_default _ _

/-- When the number of pages, given or estimated, says that a page is the last one, it is. -/
theorem totalPages_last (hstatic : StaticList client path nodeKeys limit pages) {n : ℕ}
    {reported : Json} (hcount : reported = .int pages.length ∨ reported.truthy = false ∧
      ∀ m, m + 1 < pages.length → limit ≤ (pages.getD m []).length) :
    ∃ total, totalPages (n + 1) limit (pages.getD n []) reported = .ok total ∧
      (n < pages.length → ¬ ((n + 1 : ℕ) : Int) < total → pages.length ≤ n + 1) := by
  simp only [totalPages]
  rcases hcount with rfl | ⟨hfalsy, hfull⟩
  · by_cases htruthy : (Json.int pages.length).truthy = true
    · rw [if_pos htruthy]
      exact ⟨_, rfl, fun _ hle => by omega⟩
    · -- a list without pages
      have hzero : (pages.length : Int) = 0 := by simpa [Json.truthy] using htruthy
      rw [if_neg htruthy]
      exact ⟨_, rfl, fun _ _ => by omega⟩
  · rw [hfalsy, if_neg Bool.false_ne_true]
    refine ⟨_, rfl, fun hlt hle => ?_⟩
    by_contra hnext
    have hpresent : ¬ (pages.getD n []).isEmpty = true := fun hnone =>
      absurd ((hstatic.isEmpty_page n).mp hnone) (by omega)
    -- a full page says that there is another
    rw [if_neg hpresent, if_pos (hfull n (by omega))] at hle
    push_cast at hle
    omega

/-- One page of the list, and whether there is another. -/
theorem fetchList_page (hroute : fetchRoutes.lookup entityType = some (path, nodeKeys))
    (hstatic : StaticList client path nodeKeys limit pages) (n : ℕ) :
    ∃ page, fetchList client entityType (cursorAt n) limit true = .ok page ∧
      page.nodes = pages.getD n [] ∧
      (page.hasMore = true → n < pages.length ∧ page.nextCursor = cursorAt (n + 1)) ∧
      (page.hasMore = false → pages.length ≤ n + 1) := by
  obtain ⟨data, reported, hclient, hnodes, hreported, hcount⟩ := hstatic.answers n
  obtain ⟨total, htotal, hlast⟩ := totalPages_last hstatic (n := n) hcount
  let hasMore := decide (((n + 1 : ℕ) : Int) < total) && !(pages.getD n []).isEmpty
  refine ⟨⟨pages.getD n [], if hasMore then some (n + 1 + 1) else none, hasMore⟩, ?_, rfl,
    fun hmore => ?_, fun hnone => ?_⟩
  · simp only [fetchList, hroute, getD_cursorAt, hclient, Except.mapError]
    show (answeredNodes nodeKeys data >>= _) = _
    rw [hnodes]
    show (answeredTotal data >>= _) = _
    rw [hreported]
    show (totalPages (n + 1) limit (pages.getD n []) reported >>= _) = _
    rw [htotal]
    rfl
  · have hmore : hasMore = true := hmore
    refine ⟨?_, if_pos hmore⟩
    by_contra hle
    rw [Bool.and_eq_true, (hstatic.isEmpty_page n).mpr (not_lt.mp hle)] at hmore
    exact Bool.false_ne_true hmore.2
  · have hnone : hasMore = false := hnone
    by_cases hlt : n < pages.length
    · refine hlast hlt fun hnext => ?_
      have hpresent : (pages.getD n []).isEmpty = false := by
        refine Bool.eq_false_iff.mpr fun h => ?_
        exact absurd ((hstatic.isEmpty_page n).mp h) (by omega)
      have hmore : hasMore = true := by
        rw [Bool.and_eq_true, hpresent]
        exact ⟨decide_eq_true hnext, rfl⟩
      rw [hmore] at hnone
      cases hnone
    · omega

/-! ## Section 4: Lists ordered newest first -/

section Ordered

variable [ShiprocketTimes] [IsoFormat]

/-- The record has a creation time. -/
def HasTime (entityType : String) (raw : Dict) : Prop :=
  ∃ time, recordCreatedAt entityType raw = .ok (some time)

/-- It has one without a time zone. -/
def HasNaiveTime (entityType : String) (raw : Dict) : Prop :=
  ∃ reading, recordCreatedAt entityType raw = .ok (some (.naive reading))

/-- The first record is as new as the second, or newer. -/
def NotBefore (entityType : String) (raw raw' : Dict) : Prop :=
  ∃ time time', recordCreatedAt entityType raw = .ok (some time) ∧
    recordCreatedAt entityType raw' = .ok (some time') ∧ isNotBefore time time' = .ok true

/-- The record was created at the cutoff or after it; a time with a time zone is compared with
the instant of the cutoff. -/
def CreatedSince (entityType : String) (since : ClockTime) (raw : Dict) : Prop :=
  ∃ time, recordCreatedAt entityType raw = .ok (some time) ∧
    match time with
    | .naive reading => since.reading - incrementalStopMargin ≤ reading
    | .aware instant => since.reading - since.offset.getD 0 - incrementalStopMargin ≤ instant

/-- The creation times of a page. -/
theorem exists_stamps {records : List Dict} (h : ∀ raw ∈ records, HasTime entityType raw) :
    ∃ stamps, records.mapM (recordCreatedAt entityType) = .ok (stamps.map some) ∧
      List.Forall₂ (fun raw time => recordCreatedAt entityType raw = .ok (some time))
        records stamps := by
  induction records with
  | nil => exact ⟨[], rfl, .nil⟩
  | cons raw records ih =>
    obtain ⟨time, htime⟩ := h raw List.mem_cons_self
    obtain ⟨stamps, hmap, hstamps⟩ := ih fun raw' hraw' => h raw' (List.mem_cons_of_mem _ hraw')
    refine ⟨time :: stamps, ?_, .cons htime hstamps⟩
    rw [List.mapM_cons, htime, hmap]
    rfl

/-- A page of an ordered list is ordered. -/
theorem isNonIncreasing_of_notBefore {records : List Dict} {stamps : List Datetime}
    (hstamps : List.Forall₂ (fun raw time => recordCreatedAt entityType raw = .ok (some time))
      records stamps) (hsorted : records.Pairwise (NotBefore entityType)) :
    isNonIncreasing stamps = .ok true := by
  induction hstamps with
  | nil => rfl
  | @cons raw time records stamps htime hstamps ih =>
    obtain ⟨hfirst, hrest⟩ := List.pairwise_cons.mp hsorted
    cases hstamps with
    | nil => rfl
    | @cons raw' time' records stamps htime' hstamps =>
      obtain ⟨a, b, ha, hb, hle⟩ := hfirst raw' List.mem_cons_self
      rw [htime] at ha
      rw [htime'] at hb
      cases ha
      cases hb
      rw [isNonIncreasing, hle]
      exact ih hrest

/-- Without time zones the comparison with the cutoff goes through. -/
theorem allBefore_naive (cutoff : Int) {records : List Dict} {stamps : List Datetime}
    (hstamps : List.Forall₂ (fun raw time => recordCreatedAt entityType raw = .ok (some time))
      records stamps) (hnaive : ∀ raw ∈ records, HasNaiveTime entityType raw) :
    ∃ stop, allBefore (.naive cutoff) stamps = .ok stop ∧ (stop = true → ∀ raw ∈ records,
      ∃ reading < cutoff, recordCreatedAt entityType raw = .ok (some (.naive reading))) := by
  induction hstamps with
  | nil => exact ⟨true, rfl, by simp⟩
  | @cons raw time records stamps htime hstamps ih =>
    obtain ⟨reading, hreading⟩ := hnaive raw List.mem_cons_self
    obtain ⟨stop, hrest, hstop⟩ := ih fun raw' hraw' => hnaive raw' (List.mem_cons_of_mem _ hraw')
    have hsame := htime.symm.trans hreading
    cases hsame
    by_cases hlt : reading < cutoff
    · refine ⟨stop, ?_, fun h raw' hraw' => ?_⟩
      · rw [allBefore, isBefore, decide_eq_true hlt]
        exact hrest
      · rcases List.mem_cons.mp hraw' with rfl | hraw'
        · exact ⟨reading, hlt, hreading⟩
        · exact hstop h raw' hraw'
    · refine ⟨false, ?_, fun h => absurd h Bool.false_ne_true⟩
      rw [allBefore, isBefore, decide_eq_false hlt]
      rfl

theorem HasNaiveTime.hasTime {raw : Dict} (h : HasNaiveTime entityType raw) :
    HasTime entityType raw := by
  obtain ⟨reading, hreading⟩ := h
  exact ⟨_, hreading⟩

/-- On a page that is ordered the comparison with the cutoff decides. -/
theorem fetchIncremental_of_sorted (since : ClockTime) {cursor : Option ℕ} {page : Page Dict ℕ}
    (hfetch : fetchList client entityType cursor limit true = .ok page)
    {raw : Dict} (hraw : raw ∈ page.nodes)
    (htimes : ∀ raw ∈ page.nodes, HasTime entityType raw)
    (hsorted : page.nodes.Pairwise (NotBefore entityType)) :
    ∃ stamps, List.Forall₂ (fun raw time => recordCreatedAt entityType raw = .ok (some time))
        page.nodes stamps ∧
      fetchIncremental client entityType since limit cursor =
        (allBefore since.cutoff stamps).map fun stop =>
          if stop then { nodes := page.nodes, nextCursor := none, hasMore := false } else page := by
  obtain ⟨stamps, hmap, hstamps⟩ := exists_stamps htimes
  refine ⟨stamps, hstamps, ?_⟩
  have hnodes : page.nodes.isEmpty = false :=
    List.isEmpty_eq_false_iff.mpr (List.ne_nil_of_mem hraw)
  have hknown : (stamps.map some).filterMap id = stamps := by
    rw [List.filterMap_map]
    exact List.filterMap_some
  have hstamped : stamps.isEmpty = false := by
    rw [List.isEmpty_eq_false_iff, ← List.length_pos_iff, ← hstamps.length_eq]
    exact List.length_pos_of_mem hraw
  simp only [fetchIncremental, hfetch, bind, Except.bind, hnodes, Bool.false_eq_true, if_false,
    hmap, hknown, hstamped, isNonIncreasing_of_notBefore hstamps hsorted, if_true]
  cases allBefore since.cutoff stamps with
  | error e => rfl
  | ok stop => cases stop <;> rfl

section Naive

variable (hroute : fetchRoutes.lookup entityType = some (path, nodeKeys))
  (hstatic : StaticList client path nodeKeys limit pages)
  (hsorted : pages.flatten.Pairwise (NotBefore entityType))
  (hnaive : ∀ raw ∈ pages.flatten, HasNaiveTime entityType raw)

include hroute hstatic hsorted hnaive

/-- What a page of a list without time zones leads to. -/
theorem readsPage_of_naive (since : ClockTime) (n : ℕ) :
    ∃ page, ReadsPage (fetchIncremental client entityType since limit) cursorAt pages
      (CreatedSince entityType since) n page := by
  obtain ⟨page, hfetch, hnodes, hmore, hend⟩ := fetchList_page hroute hstatic n
  have hlast : page.hasMore = false → ∀ raw ∈ (pages.drop (n + 1)).flatten,
      ¬ CreatedSince entityType since raw := by
    intro hfalse
    rw [List.drop_eq_nil_of_le (hend hfalse)]
    simp
  -- the page as `fetchList` has it
  have hkept (h : fetchIncremental client entityType since limit (cursorAt n) = .ok page) :
      ∃ page, ReadsPage (fetchIncremental client entityType since limit) cursorAt pages
        (CreatedSince entityType since) n page := ⟨page, h, hnodes, hmore, hlast⟩
  rcases page.nodes.eq_nil_or_concat with hempty | ⟨_, oldest, hconcat⟩
  · refine hkept ?_
    simp only [fetchIncremental, hfetch, bind, Except.bind, hempty]
    rfl
  · have holdest : oldest ∈ page.nodes := by
      rw [hconcat]
      simp
    have hlt : n < pages.length := by
      by_contra hle
      rw [hnodes, List.getD_eq_default _ _ (not_lt.mp hle)] at holdest
      cases holdest
    have hsplit : pages.flatten =
        (pages.take n).flatten ++ (page.nodes ++ (pages.drop (n + 1)).flatten) := by
      rw [hnodes, List.getD_eq_getElem _ _ hlt, ← List.flatten_cons,
        ← List.drop_eq_getElem_cons hlt, ← List.flatten_append, List.take_append_drop]
    rw [hsplit] at hsorted hnaive
    obtain ⟨-, hfrom, -⟩ := List.pairwise_append.mp hsorted
    obtain ⟨hpage, -, hlater⟩ := List.pairwise_append.mp hfrom
    have hnaive' : ∀ raw ∈ page.nodes, HasNaiveTime entityType raw := fun raw hraw =>
      hnaive raw (List.mem_append_right _ (List.mem_append_left _ hraw))
    obtain ⟨stamps, hstamps, hdecides⟩ := fetchIncremental_of_sorted since hfetch holdest
      (fun raw hraw => (hnaive' raw hraw).hasTime) hpage
    obtain ⟨stop, hcompare, hstop⟩ :=
      allBefore_naive (since.reading - incrementalStopMargin) hstamps hnaive'
    rw [ClockTime.cutoff, hcompare] at hdecides
    cases stop with
    | false => exact hkept hdecides
    | true =>
      refine ⟨_, hdecides, hnodes, fun h => absurd h Bool.false_ne_true, fun _ raw hraw => ?_⟩
      -- what comes later is as old as the page's records, which are older than the cutoff
      obtain ⟨reading, hbefore, hreading⟩ := hstop rfl oldest holdest
      obtain ⟨time, time', htime, htime', hle⟩ := hlater oldest holdest raw hraw
      have hsame := htime.symm.trans hreading
      cases hsame
      intro hcreated
      obtain ⟨created, hcreated, hsince⟩ := hcreated
      have hsame := htime'.symm.trans hcreated
      cases hsame
      cases time' with
      | aware instant => cases hle
      | naive reading' =>
        have hle : reading' ≤ reading := by simpa [isNotBefore] using hle
        have hsince : since.reading - incrementalStopMargin ≤ reading' := hsince
        omega

end Naive

/-- The first page of a list with time zones is not compared with the cutoff. -/
theorem fetchIncremental_of_aware (hroute : fetchRoutes.lookup entityType = some (path, nodeKeys))
    (hstatic : StaticList client path nodeKeys limit pages)
    (htimes : ∀ raw ∈ pages.flatten, HasTime entityType raw)
    (hsorted : pages.flatten.Pairwise (NotBefore entityType)) {raw : Dict}
    (hraw : raw ∈ pages.flatten) (haware : ¬ HasNaiveTime entityType raw) (since : ClockTime) :
    fetchIncremental client entityType since limit none = .error wrongType := by
  obtain ⟨page, hfetch, hnodes, -, -⟩ := fetchList_page hroute hstatic 0
  cases pages with
  | nil => cases hraw
  | cons first later =>
    have hnodes : page.nodes = first := hnodes
    rw [List.flatten_cons, ← hnodes] at hraw htimes hsorted
    -- the newest record has a time zone, as the one at hand has
    cases hfirst : page.nodes with
    | nil => exact absurd (hnodes.symm.trans hfirst) (hstatic.nonempty _ List.mem_cons_self)
    | cons newest rest =>
      have hmem : newest ∈ page.nodes := by
        rw [hfirst]
        exact List.mem_cons_self
      obtain ⟨instant, hnewest⟩ :
          ∃ instant, recordCreatedAt entityType newest = .ok (some (.aware instant)) := by
        obtain ⟨time, htime⟩ := htimes raw hraw
        have hzone : ¬ ∃ reading, time = .naive reading := by
          intro ⟨reading, hreading⟩
          exact haware ⟨reading, hreading ▸ htime⟩
        rw [hfirst, List.cons_append] at hraw hsorted
        rcases List.mem_cons.mp hraw with rfl | hlater
        · cases time with
          | naive reading => exact absurd ⟨reading, rfl⟩ hzone
          | aware instant => exact ⟨instant, htime⟩
        · obtain ⟨time₀, time', hnewest, htime', hle⟩ :=
            (List.pairwise_cons.mp hsorted).1 raw hlater
          have hsame := htime'.symm.trans htime
          cases hsame
          obtain ⟨instant, rfl⟩ := isNotBefore_aware hle hzone
          exact ⟨instant, hnewest⟩
      obtain ⟨stamps, hstamps, hdecides⟩ := fetchIncremental_of_sorted since hfetch hmem
        (fun raw hraw => htimes raw (List.mem_append_left _ hraw))
        (List.pairwise_append.mp hsorted).1
      rw [hfirst] at hstamps
      cases hstamps with
      | cons htime hrest =>
        have hsame := htime.symm.trans hnewest
        cases hsame
        exact hdecides

end Ordered

/-! ## Section 5: What is read -/

/-- Paging through a list that is ordered newest first ends, and what it leaves unread was created
before the cutoff, exactly when no creation time in the list has a time zone. -/
theorem incremental_misses_nothing_iff [ShiprocketTimes] [IsoFormat] (client : ShiprocketClient)
    (entityType path : String) (nodeKeys : List String) (limit : ℕ) (pages : List (List Dict))
    (since : ClockTime) (hroute : fetchRoutes.lookup entityType = some (path, nodeKeys))
    (hstatic : StaticList client path nodeKeys limit pages)
    (htimes : ∀ raw ∈ pages.flatten, HasTime entityType raw)
    (hsorted : pages.flatten.Pairwise (NotBefore entityType)) :
    (∃ fuel nodes unread,
      follow (fetchIncremental client entityType since limit) fuel none = some (.ok nodes) ∧
      pages.flatten = nodes ++ unread ∧
      ∀ raw ∈ unread, ¬ CreatedSince entityType since raw) ↔
    ∀ raw ∈ pages.flatten, HasNaiveTime entityType raw := by
  constructor
  · intro hcovers raw hraw
    obtain ⟨fuel, nodes, -, hfollow, -, -⟩ := hcovers
    by_contra haware
    have hfetch := fetchIncremental_of_aware hroute hstatic htimes hsorted hraw haware since
    cases fuel with
    | zero => cases hfollow
    | succ fuel =>
      rw [follow_of_error hfetch] at hfollow
      cases hfollow
  · intro hnaive
    exact follow_covers (readsPage_of_naive hroute hstatic hsorted hnaive since) 0

/-- The texts `YYYY-MM-DDTHH:MM:SS`, in which there is no ordinal. -/
instance : ShiprocketTimes where
  withoutOrdinals text := text
  strptime text format :=
    match IsoFormat.parse text with
    | some (.naive reading) => if format = "%Y-%m-%dT%H:%M:%S" then some reading else none
    | _ => none

/-- A client that answers with the shipments of such pages. -/
def shipmentsClient (pages : List (List Dict)) : ShiprocketClient := fun _ params =>
  .ok [("data", .arr ((pages.getD (params.page - 1) []).map .obj)),
    ("meta", .obj [("pagination", .obj [("total_pages", .int pages.length)])])]

/-- A shipment as it is listed. -/
def listedShipment (createdAt : String) : Dict := [("id", .int 1), ("created_at", .str createdAt)]

theorem staticList_shipmentsClient {pages : List (List Dict)} (limit : ℕ)
    (h : ∀ page ∈ pages, page ≠ []) :
    StaticList (shipmentsClient pages) "/shipments" ["data", "shipments"] limit pages := by
  refine ⟨h, fun n => ⟨_, .int pages.length, rfl, ?_, rfl, .inl rfl⟩⟩
  show answeredNodes _ [("data", .arr ((pages.getD n []).map .obj)), _] = _
  have hdicts (page : List Dict) : (page.map Json.obj).mapM Json.dict = .ok page := by
    induction page with
    | nil => rfl
    | cons raw page ih =>
      rw [List.map_cons, List.mapM_cons, ih]
      rfl
  cases hpage : pages.getD n [] with
  | nil => rfl
  | cons raw page => exact hdicts (raw :: page)

/-- Two pages of one shipment each. -/
def twoShipments (newer older : String) : List (List Dict) :=
  [[listedShipment newer], [listedShipment older]]

theorem mem_twoShipments {newer older : String} {raw : Dict}
    (h : raw ∈ (twoShipments newer older).flatten) :
    raw = listedShipment newer ∨ raw = listedShipment older := by
  simpa [twoShipments] using h

theorem pairwise_twoShipments {newer older : String}
    (h : NotBefore "shipments" (listedShipment newer) (listedShipment older)) :
    (twoShipments newer older).flatten.Pairwise (NotBefore "shipments") := by
  simpa [twoShipments] using h

theorem nonempty_twoShipments (newer older : String) :
    ∀ page ∈ twoShipments newer older, page ≠ [] := by
  simp [twoShipments]

theorem incremental_misses_nothing_iff_clock :
    (∃ fuel nodes unread,
      follow (fetchIncremental (shipmentsClient
        (twoShipments "2026-07-01T10:00:00" "2026-05-01T10:00:00")) "shipments"
        ⟨1782900000000000, some 0⟩ 1) fuel none = some (.ok nodes) ∧
      (twoShipments "2026-07-01T10:00:00" "2026-05-01T10:00:00").flatten = nodes ++ unread ∧
      ∀ raw ∈ unread, ¬ CreatedSince "shipments" ⟨1782900000000000, some 0⟩ raw) ↔
    ∀ raw ∈ (twoShipments "2026-07-01T10:00:00" "2026-05-01T10:00:00").flatten,
      HasNaiveTime "shipments" raw := by
  refine incremental_misses_nothing_iff _ "shipments" "/shipments" ["data", "shipments"] 1 _ _ rfl
    (staticList_shipmentsClient 1 (nonempty_twoShipments _ _)) (fun raw hraw => ?_)
    (pairwise_twoShipments ⟨.naive 1782900000000000, .naive 1777629600000000, rfl, rfl, rfl⟩)
  rcases mem_twoShipments hraw with rfl | rfl
  · exact ⟨.naive 1782900000000000, rfl⟩
  · exact ⟨.naive 1777629600000000, rfl⟩

/-- A list with `Z` in its texts is ordered and its times are read, but the first page fails. -/
theorem zulu_list_never_read :
    let pages := twoShipments "2026-07-01T10:00:00Z" "2026-05-01T10:00:00Z"
    StaticList (shipmentsClient pages) "/shipments" ["data", "shipments"] 1 pages ∧
    (∀ raw ∈ pages.flatten, HasTime "shipments" raw) ∧
    pages.flatten.Pairwise (NotBefore "shipments") ∧
    ¬ ∃ fuel nodes unread,
      follow (fetchIncremental (shipmentsClient pages) "shipments" ⟨1782900000000000, some 0⟩ 1)
        fuel none = some (.ok nodes) ∧
      pages.flatten = nodes ++ unread ∧
      ∀ raw ∈ unread, ¬ CreatedSince "shipments" ⟨1782900000000000, some 0⟩ raw := by
  refine ⟨staticList_shipmentsClient 1 (nonempty_twoShipments _ _), fun raw hraw => ?_,
    pairwise_twoShipments ⟨.aware 1782900000000000, .aware 1777629600000000, rfl, rfl, rfl⟩, ?_⟩
  · rcases mem_twoShipments hraw with rfl | rfl
    · exact ⟨.aware 1782900000000000, rfl⟩
    · exact ⟨.aware 1777629600000000, rfl⟩
  · intro hread
    obtain ⟨fuel, nodes, unread, hfollow, -, -⟩ := hread
    have hfetch : fetchIncremental (shipmentsClient
        (twoShipments "2026-07-01T10:00:00Z" "2026-05-01T10:00:00Z")) "shipments"
        ⟨1782900000000000, some 0⟩ 1 none = .error wrongType := rfl
    cases fuel with
    | zero => cases hfollow
    | succ fuel =>
      rw [follow_of_error hfetch] at hfollow
      cases hfollow

end AyushOms.Sync

import AyushOms.Core.Base
import AyushOms.Lib.OffsetPages
import AyushOms.Lib.Run

/-!
# Next and Previous Order

`lib/telecaller-order-sequence.ts` and `lib/use-order-navigation.ts`: the list page records the
orders it shows, and on the page of one order J and K open the next and the previous one. At the
end of what is recorded one more page is fetched and put beside it. What is recorded is a stretch
of the list, but its page number is that of the page fetched last: a key is right as long as it
does not leave the stretch at its other end.

## Main results

- `Tab.window_after`: what is recorded is a stretch of the list
- `press_right_iff`: when a key opens the neighbour of the order in the whole list
-/

namespace AyushOms.Web

open AyushOms.Lib

/-! ## Section 1: The recorded sequence -/

/-- `OrderSequenceFilters`. -/
structure OrderSequenceFilters where
  callStatus : Option String := none
  dateFrom : Option String := none
  dateTo : Option String := none
  q : Option String := none
  pageSize : ℕ
  deriving DecidableEq, Repr

/-- `OrderSequenceState`. -/
structure OrderSequenceState where
  ids : List UUID
  page : ℤ
  totalPages : ℕ
  filters : OrderSequenceFilters
  deriving DecidableEq, Repr

/-- `mergeOrderSequencePage`. -/
def mergeOrderSequencePage (existing : Option OrderSequenceState) (page : OrderSequenceState) :
    OrderSequenceState :=
  match existing with
  | none => page
  | some existing =>
    if existing.filters ≠ page.filters then page
    else if page.page = existing.page then
      { existing with ids := page.ids, totalPages := page.totalPages }
    else if page.page = existing.page + 1 then { page with ids := existing.ids ++ page.ids }
    else if page.page = existing.page - 1 then { page with ids := page.ids ++ existing.ids }
    else page

/-! ## Section 2: The keys -/

/-- J is `1`, and K is `-1`. -/
inductive Direction where
  | next
  | previous
  deriving DecidableEq, Repr

def Direction.sign : Direction → ℤ
  | next => 1
  | previous => -1

/-- What a key does: it opens an order, or shows a toast. -/
inductive Outcome where
  | push (orderId : UUID)
  | info (text : String)
  | error (text : String)
  deriving DecidableEq, Repr

/-- The order that is shown afterwards. -/
def Outcome.shown (orderId : UUID) : Outcome → UUID
  | push target => target
  | info _ | error _ => orderId

/-- The toast where the list ends. -/
def Direction.atEnd : Direction → Outcome
  | next => .info "This is the last order."
  | previous => .info "This is the first order."

/-- The first or the last of the ids of a page. -/
def Direction.entry (direction : Direction) (ids : List UUID) : Option UUID :=
  match direction with
  | next => ids.head?
  | previous => ids.getLast?

/-- `ids[ids.indexOf(orderId) + direction]`, where there is such an index. -/
def neighbour (ids : List UUID) (orderId : UUID) (direction : Direction) : Option UUID :=
  (ids.idxOf? orderId).bind fun index =>
    match direction with
    | .next => ids[index + 1]?
    | .previous => if index = 0 then none else ids[index - 1]?

/-- `fetchMyOrders`: the ids of a page and `total_pages`, or nothing when it fails. -/
abbrev FetchMyOrders := OrderSequenceFilters → ℤ → Option (List UUID × ℕ)

/-- `go`, on the page of an order: the sequence it leaves, and what it does. -/
def go (fetchMyOrders : FetchMyOrders) (orderId : UUID) (sequence : Option OrderSequenceState)
    (direction : Direction) : Option OrderSequenceState × Outcome :=
  match sequence.filter fun s => s.ids.contains orderId with
  | none =>
    (sequence, .info "Open an order from “My Assigned Orders” to enable J/K navigation.")
  | some s =>
    match neighbour s.ids orderId direction with
    | some target => (sequence, .push target)
    | none =>
      let targetPage := s.page + direction.sign
      if targetPage < 1 ∨ s.totalPages < targetPage then (sequence, direction.atEnd)
      else
        match fetchMyOrders s.filters targetPage with
        | none =>
          (sequence, .error "Couldn't load the next order. Try again from the order list.")
        | some (ids, totalPages) =>
          (some (mergeOrderSequencePage sequence ⟨ids, targetPage, totalPages, s.filters⟩),
            ((direction.entry ids).map Outcome.push).getD direction.atEnd)

/-- One tab: its `sessionStorage`, and the order it shows, if it shows one. -/
structure Tab where
  sequence : Option OrderSequenceState := none
  orderId : Option UUID := none
  deriving DecidableEq, Repr

/-- The list page has loaded, an order is opened, or a key is pressed. -/
inductive TabEvent where
  | list (loaded : OrderSequenceState)
  | openOrder (orderId : UUID)
  | press (direction : Direction) (fetchMyOrders : FetchMyOrders)

namespace Tab

/-- A key on the page of an order. -/
def press (tab : Tab) (direction : Direction) (fetchMyOrders : FetchMyOrders) : Tab :=
  match tab.orderId with
  | none => tab
  | some orderId =>
    let (sequence, outcome) := go fetchMyOrders orderId tab.sequence direction
    ⟨sequence, some (outcome.shown orderId)⟩

/-- One event. -/
def step (tab : Tab) : TabEvent → Tab
  | .list loaded => ⟨some loaded, none⟩
  | .openOrder orderId => { tab with orderId := some orderId }
  | .press direction fetchMyOrders => tab.press direction fetchMyOrders

/-- The tab after a run. -/
def after (tab : Tab) (es : List TabEvent) : Tab := run step tab es

end Tab

/-! ## Section 3: The list on the server -/

/-- The orders of the telecaller under each choice of filters, in the order of the list. -/
structure MyOrders where
  orders : OrderSequenceFilters → List UUID
  nodup : ∀ filters, (orders filters).Nodup

namespace MyOrders

variable (my : MyOrders)

/-- `total_pages`. -/
def totalPages (filters : OrderSequenceFilters) : ℕ :=
  OffsetPages.pageCount (my.orders filters).length filters.pageSize

/-- The ids of one page, counted from one. -/
def page (filters : OrderSequenceFilters) (page : ℤ) : List UUID :=
  OffsetPages.slice filters.pageSize (my.orders filters) (page - 1).toNat

/-- The page of the list that an order stands on. -/
def pageOf (filters : OrderSequenceFilters) (orderId : UUID) : ℕ :=
  (my.orders filters).idxOf orderId / filters.pageSize + 1

/-- The list is as it was, and whatever reply there is comes from it. -/
def Unchanged : TabEvent → Prop
  | .list loaded => 0 < loaded.filters.pageSize ∧ 1 ≤ loaded.page ∧
      loaded.ids = my.page loaded.filters loaded.page ∧
      loaded.totalPages = my.totalPages loaded.filters
  | .openOrder _ => True
  | .press _ fetchMyOrders => ∀ filters page, fetchMyOrders filters page = none ∨
      fetchMyOrders filters page = some (my.page filters page, my.totalPages filters)

/-- The key stays within what is recorded, or leaves it from the page fetched last. -/
def LeavesFromLast (tab : Tab) (direction : Direction) : Prop :=
  ∀ s orderId, tab.sequence = some s → tab.orderId = some orderId → orderId ∈ s.ids →
    neighbour s.ids orderId direction = none → s.page = my.pageOf s.filters orderId

/-- What a key should do on the page of an order. -/
def expected (filters : OrderSequenceFilters) (orderId : UUID) (direction : Direction) : Outcome :=
  ((neighbour (my.orders filters) orderId direction).map Outcome.push).getD direction.atEnd

end MyOrders

/-! ## Section 4: What is recorded -/

section Lists

variable {xs : List UUID} {i : ℕ} {id : UUID}

theorem idxOf?_of_nodup (h : xs.Nodup) (hi : xs[i]? = some id) : xs.idxOf? id = some i := by
  obtain ⟨hlt, rfl⟩ := List.getElem?_eq_some_iff.mp hi
  refine List.idxOf?_eq_some_iff.mpr ⟨hlt, rfl, fun j hj heq => ?_⟩
  exact absurd (h.getElem_inj_iff.mp heq) (Nat.ne_of_lt hj)

theorem neighbour_next (h : xs.Nodup) (hi : xs[i]? = some id) :
    neighbour xs id .next = xs[i + 1]? := by
  rw [neighbour, idxOf?_of_nodup h hi, Option.bind_some]

theorem neighbour_previous (h : xs.Nodup) (hi : xs[i]? = some id) :
    neighbour xs id .previous = if i = 0 then none else xs[i - 1]? := by
  rw [neighbour, idxOf?_of_nodup h hi, Option.bind_some]

theorem getElem?_inj (h : xs.Nodup) {j : ℕ} (hi : xs[i]? = some id) (hj : xs[j]? = some id) :
    i = j := by
  obtain ⟨hi, rfl⟩ := List.getElem?_eq_some_iff.mp hi
  obtain ⟨hj, heq⟩ := List.getElem?_eq_some_iff.mp hj
  exact (h.getElem_inj_iff.mp heq).symm

end Lists

variable {my : MyOrders} {s : OrderSequenceState} {first more : ℕ}

/-- What is recorded is the pages of the list from one on; its page number is that of the first or
of the last of them. -/
structure Window (my : MyOrders) (s : OrderSequenceState) (first more : ℕ) : Prop where
  size : 0 < s.filters.pageSize
  ids : s.ids = OffsetPages.stretch s.filters.pageSize (my.orders s.filters) first (more + 1)
  page : s.page = (first + 1 : ℕ) ∨ s.page = (first + more + 1 : ℕ)
  totalPages : s.totalPages = my.totalPages s.filters
  loaded : more = 0 ∨ first + more < s.totalPages

/-- Where an order of the window stands in it and in the list. -/
structure At (my : MyOrders) (s : OrderSequenceState) (first more : ℕ) (orderId : UUID) (i : ℕ) :
    Prop where
  window : Window my s first more
  lt : i < (more + 1) * s.filters.pageSize
  here : s.ids[i]? = some orderId
  inList : (my.orders s.filters)[first * s.filters.pageSize + i]? = some orderId

variable {orderId : UUID} {i : ℕ}

theorem Window.at (h : Window my s first more) (hmem : orderId ∈ s.ids) :
    ∃ i, At my s first more orderId i := by
  obtain ⟨i, hi⟩ := List.mem_iff_getElem?.mp hmem
  have hlist := hi
  rw [h.ids, OffsetPages.getElem?_stretch] at hlist
  split at hlist
  · exact ⟨i, h, ‹_›, hi, hlist⟩
  · cases hlist

namespace At

theorem nodup (h : At my s first more orderId i) : s.ids.Nodup := by
  rw [h.window.ids]
  exact (my.nodup s.filters).sublist ((List.take_sublist _ _).trans (List.drop_sublist _ _))

theorem next (h : At my s first more orderId i) :
    neighbour s.ids orderId .next = if i + 1 < (more + 1) * s.filters.pageSize then
      neighbour (my.orders s.filters) orderId .next else none := by
  rw [neighbour_next h.nodup h.here, neighbour_next (my.nodup s.filters) h.inList, h.window.ids,
    OffsetPages.getElem?_stretch, Nat.add_assoc]

theorem previous (h : At my s first more orderId i) :
    neighbour s.ids orderId .previous = if i = 0 then none else
      neighbour (my.orders s.filters) orderId .previous := by
  rw [neighbour_previous h.nodup h.here, neighbour_previous (my.nodup s.filters) h.inList]
  split
  · rfl
  · rename_i hpos
    have hlt := h.lt
    rw [h.window.ids, OffsetPages.getElem?_stretch, if_pos (by omega), if_neg (by omega),
      Nat.add_sub_assoc (Nat.pos_of_ne_zero hpos)]

/-- A neighbour in what is recorded is the neighbour in the list. -/
theorem of_neighbour (h : At my s first more orderId i) {direction : Direction} {target : UUID}
    (hsome : neighbour s.ids orderId direction = some target) :
    neighbour (my.orders s.filters) orderId direction = some target := by
  cases direction with
  | next =>
    rw [h.next] at hsome
    split at hsome
    · exact hsome
    · cases hsome
  | previous =>
    rw [h.previous] at hsome
    split at hsome
    · cases hsome
    · exact hsome

theorem pageOf_eq (h : At my s first more orderId i) :
    my.pageOf s.filters orderId = first + i / s.filters.pageSize + 1 := by
  obtain ⟨hlt, hget⟩ := List.getElem?_eq_some_iff.mp h.inList
  rw [MyOrders.pageOf, ← hget, (my.nodup s.filters).idxOf_getElem, Nat.add_comm (first * _),
    Nat.add_mul_div_right _ _ h.window.size, Nat.add_comm first]

/-- An order without a next one in what is recorded stands on the last page of it. -/
theorem leaves_next (h : At my s first more orderId i)
    (hend : neighbour s.ids orderId .next = none) :
    i / s.filters.pageSize = more ∧ (i + 1 = (more + 1) * s.filters.pageSize ∨
      (my.orders s.filters).length = first * s.filters.pageSize + i + 1) := by
  have hsize := h.window.size
  have hlt := h.lt
  have hlist := (List.getElem?_eq_some_iff.mp h.inList).1
  rw [h.next, neighbour_next (my.nodup s.filters) h.inList] at hend
  have hlast : i + 1 = (more + 1) * s.filters.pageSize ∨
      (my.orders s.filters).length = first * s.filters.pageSize + i + 1 := by
    split at hend
    · have hle := List.getElem?_eq_none_iff.mp hend
      omega
    · omega
  refine ⟨Nat.div_eq_of_lt_le ?_ hlt, hlast⟩
  rcases h.window.loaded with rfl | hloaded
  · omega
  · rw [h.window.totalPages, MyOrders.totalPages, OffsetPages.lt_pageCount_iff hsize,
      Nat.add_mul] at hloaded
    rw [Nat.succ_mul] at hlast
    omega

/-- An order without a previous one in what is recorded stands at the front of it. -/
theorem leaves_previous (h : At my s first more orderId i)
    (hend : neighbour s.ids orderId .previous = none) : i = 0 := by
  have hlist := (List.getElem?_eq_some_iff.mp h.inList).1
  rw [h.previous, neighbour_previous (my.nodup s.filters) h.inList] at hend
  by_contra hpos
  rw [if_neg hpos, if_neg (by omega), List.getElem?_eq_none_iff] at hend
  omega

end At

/-! ## Section 5: Leaving what is recorded -/

/-- The fetches reach the server. -/
def Answered (my : MyOrders) (fetchMyOrders : FetchMyOrders) : Prop :=
  ∀ filters page, fetchMyOrders filters page = some (my.page filters page, my.totalPages filters)

variable {fetchMyOrders : FetchMyOrders} {direction : Direction}

theorem go_leaves (hmem : orderId ∈ s.ids) (hend : neighbour s.ids orderId direction = none) :
    go fetchMyOrders orderId (some s) direction =
      if s.page + direction.sign < 1 ∨ s.totalPages < s.page + direction.sign then
        (some s, direction.atEnd)
      else
        match fetchMyOrders s.filters (s.page + direction.sign) with
        | none =>
          (some s, .error "Couldn't load the next order. Try again from the order list.")
        | some (ids, totalPages) =>
          (some (mergeOrderSequencePage (some s)
              ⟨ids, s.page + direction.sign, totalPages, s.filters⟩),
            ((direction.entry ids).map Outcome.push).getD direction.atEnd) := by
  have hknown : (some s).filter (fun s => s.ids.contains orderId) = some s :=
    Option.filter_eq_some_iff.mpr ⟨rfl, by simpa using hmem⟩
  unfold go
  simp only [hknown, hend]

theorem go_answered (hanswered : Answered my fetchMyOrders) (hmem : orderId ∈ s.ids)
    (hend : neighbour s.ids orderId direction = none) :
    (go fetchMyOrders orderId (some s) direction).2 =
      if s.page + direction.sign < 1 ∨ s.totalPages < s.page + direction.sign then direction.atEnd
      else ((direction.entry (my.page s.filters (s.page + direction.sign))).map
        Outcome.push).getD direction.atEnd := by
  rw [go_leaves hmem hend, hanswered]
  split <;> rfl

theorem MyOrders.head?_page {filters : OrderSequenceFilters} (hsize : 0 < filters.pageSize)
    (k : ℕ) : (my.page filters (k + 1 : ℕ)).head? = (my.orders filters)[k * filters.pageSize]? := by
  rw [page, OffsetPages.head?_slice hsize]
  simp

theorem MyOrders.getLast?_page {filters : OrderSequenceFilters} (hsize : 0 < filters.pageSize)
    {k : ℕ} (hfull : (k + 1) * filters.pageSize ≤ (my.orders filters).length) :
    (my.page filters (k + 1 : ℕ)).getLast? =
      (my.orders filters)[(k + 1) * filters.pageSize - 1]? := by
  rw [page, ← OffsetPages.getLast?_slice hsize hfull]
  simp

theorem push_getD_eq_iff {o o' : Option UUID} :
    (o.map Outcome.push).getD direction.atEnd = (o'.map Outcome.push).getD direction.atEnd ↔
      o = o' := by
  cases o <;> cases o' <;> cases direction <;> simp [Direction.atEnd]

/-- A page is fetched when it is one of the list's. -/
theorem Window.reaches_iff (h : Window my s first more) (k : ℕ) :
    (¬ (((k + 1 : ℕ) : ℤ) < 1 ∨ (s.totalPages : ℤ) < (k + 1 : ℕ))) ↔
      k * s.filters.pageSize < (my.orders s.filters).length := by
  rw [h.totalPages, MyOrders.totalPages, ← OffsetPages.lt_pageCount_iff h.size]
  omega

/-- J past the end of what is recorded. -/
theorem At.next_right_iff (h : At my s first more orderId i)
    (hanswered : Answered my fetchMyOrders) (hend : neighbour s.ids orderId .next = none) :
    (go fetchMyOrders orderId (some s) .next).2 = my.expected s.filters orderId .next ↔
      s.page = my.pageOf s.filters orderId := by
  have hsize := h.window.size
  have hlt := h.lt
  have hlist := (List.getElem?_eq_some_iff.mp h.inList).1
  obtain ⟨hdiv, hlast⟩ := h.leaves_next hend
  have hsum : (first + more + 1) * s.filters.pageSize =
      first * s.filters.pageSize + (more + 1) * s.filters.pageSize := by
    rw [Nat.add_assoc, Nat.add_mul]
  rw [go_answered hanswered (List.mem_of_getElem? h.here) hend, MyOrders.expected,
    neighbour_next (my.nodup s.filters) h.inList, h.pageOf_eq, hdiv]
  by_cases hright : s.page = (first + more + 1 : ℕ)
  · refine iff_of_true ?_ hright
    have htarget : s.page + Direction.next.sign = ((first + more + 1) + 1 : ℕ) := by
      rw [hright]
      rfl
    rw [htarget]
    split
    · rename_i hout
      have hover := mt (h.window.reaches_iff (first + more + 1)).mpr (not_not.mpr hout)
      have hnone : (my.orders s.filters)[first * s.filters.pageSize + i + 1]? = none :=
        List.getElem?_eq_none_iff.mpr (by omega)
      rw [hnone]
      rfl
    · rename_i hin
      have hfits := (h.window.reaches_iff (first + more + 1)).mp hin
      have hindex : (first + more + 1) * s.filters.pageSize =
          first * s.filters.pageSize + i + 1 := by omega
      rw [Direction.entry, MyOrders.head?_page hsize, hindex]
  · -- the page fetched is recorded already, and entered at an order before this one
    refine iff_of_false (fun heq => ?_) hright
    have hpage : s.page = (first + 1 : ℕ) := h.window.page.resolve_right hright
    have hmore : more ≠ 0 := fun hzero => hright (by rw [hpage, hzero])
    have hloaded : (first + more) * s.filters.pageSize < (my.orders s.filters).length := by
      rw [← OffsetPages.lt_pageCount_iff hsize]
      exact Nat.lt_of_lt_of_eq (h.window.loaded.resolve_left hmore) h.window.totalPages
    have hbefore : (first + 1) * s.filters.pageSize ≤ (first + more) * s.filters.pageSize :=
      Nat.mul_le_mul_right _ (by omega)
    have hbehind : (first + more) * s.filters.pageSize ≤ first * s.filters.pageSize + i := by
      rw [Nat.add_mul, ← hdiv]
      exact Nat.add_le_add_left (Nat.div_mul_le_self _ _) _
    have htarget : s.page + Direction.next.sign = ((first + 1) + 1 : ℕ) := by
      rw [hpage]
      rfl
    have hin := (h.window.reaches_iff (first + 1)).mpr (Nat.lt_of_le_of_lt hbefore hloaded)
    rw [htarget, if_neg hin, Direction.entry, MyOrders.head?_page hsize, push_getD_eq_iff] at heq
    have hentry := List.getElem?_eq_getElem (Nat.lt_of_le_of_lt hbefore hloaded)
    have hsame := getElem?_inj (my.nodup s.filters) hentry (heq ▸ hentry)
    omega

/-- K past the front of what is recorded. -/
theorem At.previous_right_iff (h : At my s first more orderId i)
    (hanswered : Answered my fetchMyOrders) (hend : neighbour s.ids orderId .previous = none) :
    (go fetchMyOrders orderId (some s) .previous).2 = my.expected s.filters orderId .previous ↔
      s.page = my.pageOf s.filters orderId := by
  have hsize := h.window.size
  have hlist := (List.getElem?_eq_some_iff.mp h.inList).1
  obtain rfl := h.leaves_previous hend
  rw [go_answered hanswered (List.mem_of_getElem? h.here) hend, MyOrders.expected,
    neighbour_previous (my.nodup s.filters) h.inList, h.pageOf_eq, Nat.zero_div, Nat.add_zero]
  by_cases hright : s.page = (first + 1 : ℕ)
  · refine iff_of_true ?_ hright
    have htarget : s.page + Direction.previous.sign = (first : ℕ) := by
      rw [hright, Direction.sign]
      omega
    rw [htarget]
    cases first with
    | zero =>
      rw [if_pos (.inl (by decide)), if_pos (Nat.zero_mul _)]
      rfl
    | succ k =>
      have hin := (h.window.reaches_iff k).mpr (by
        rw [Nat.succ_mul] at hlist
        omega)
      have hpos : (k + 1) * s.filters.pageSize ≠ 0 :=
        Nat.mul_ne_zero (Nat.succ_ne_zero k) (Nat.ne_of_gt hsize)
      rw [if_neg hin, Direction.entry, MyOrders.getLast?_page hsize (Nat.le_of_lt hlist),
        if_neg hpos, Nat.add_zero]
  · -- the page fetched is recorded already, and entered at an order behind this one
    refine iff_of_false (fun heq => ?_) hright
    have hpage : s.page = (first + more + 1 : ℕ) := h.window.page.resolve_left hright
    have hmore : more ≠ 0 := fun hzero => hright (by rw [hpage, hzero])
    obtain ⟨k, hk⟩ : ∃ k, first + more = k + 1 := ⟨first + more - 1, by omega⟩
    have hloaded : (k + 1) * s.filters.pageSize < (my.orders s.filters).length := by
      rw [← OffsetPages.lt_pageCount_iff hsize, ← hk]
      exact Nat.lt_of_lt_of_eq (h.window.loaded.resolve_left hmore) h.window.totalPages
    have hbehind : (first + 1) * s.filters.pageSize ≤ (k + 1) * s.filters.pageSize :=
      Nat.mul_le_mul_right _ (by omega)
    have htarget : s.page + Direction.previous.sign = (k + 1 : ℕ) := by
      rw [hpage, hk, Direction.sign]
      omega
    have hin := (h.window.reaches_iff k).mpr (by
      rw [Nat.succ_mul] at hloaded
      omega)
    rw [htarget, if_neg hin, Direction.entry, MyOrders.getLast?_page hsize (Nat.le_of_lt hloaded),
      push_getD_eq_iff] at heq
    have hentry := List.getElem?_eq_getElem
      (Nat.lt_of_le_of_lt (Nat.sub_le ((k + 1) * s.filters.pageSize) 1) hloaded)
    rw [hentry] at heq
    split at heq
    · cases heq
    · have hsame := getElem?_inj (my.nodup s.filters) hentry heq.symm
      rw [Nat.succ_mul first] at hbehind
      omega

theorem go_of_neighbour (hmem : orderId ∈ s.ids) {target : UUID}
    (hsome : neighbour s.ids orderId direction = some target) :
    go fetchMyOrders orderId (some s) direction = (some s, .push target) := by
  have hknown : (some s).filter (fun s => s.ids.contains orderId) = some s :=
    Option.filter_eq_some_iff.mpr ⟨rfl, by simpa using hmem⟩
  unfold go
  simp only [hknown, hsome]

/-- On an order that is recorded, a key is right exactly when it does not leave what is recorded,
or does so from the page fetched last. -/
theorem Window.go_right_iff (h : Window my s first more) (hmem : orderId ∈ s.ids)
    (hanswered : Answered my fetchMyOrders) :
    (go fetchMyOrders orderId (some s) direction).2 = my.expected s.filters orderId direction ↔
      (neighbour s.ids orderId direction = none → s.page = my.pageOf s.filters orderId) := by
  obtain ⟨i, hat⟩ := h.at hmem
  cases hneighbour : neighbour s.ids orderId direction with
  | some target =>
    refine iff_of_true ?_ (fun hnone => by cases hnone)
    rw [go_of_neighbour hmem hneighbour, MyOrders.expected, hat.of_neighbour hneighbour]
    rfl
  | none =>
    cases direction with
    | next => exact (hat.next_right_iff hanswered hneighbour).trans (by simp)
    | previous => exact (hat.previous_right_iff hanswered hneighbour).trans (by simp)

/-! ## Section 6: What is recorded stays a stretch of the list -/

/-- The page fetched last is the one a key in this direction goes on from. -/
def Faces (s : OrderSequenceState) (first more : ℕ) : Direction → Prop
  | .next => s.page = (first + more + 1 : ℕ)
  | .previous => s.page = (first + 1 : ℕ)

theorem merge_next (s : OrderSequenceState) (ids : List UUID) (totalPages : ℕ) :
    mergeOrderSequencePage (some s) ⟨ids, s.page + 1, totalPages, s.filters⟩ =
      ⟨s.ids ++ ids, s.page + 1, totalPages, s.filters⟩ := by
  have hne : s.page + 1 ≠ s.page := by omega
  simp [mergeOrderSequencePage, hne]

theorem merge_previous (s : OrderSequenceState) (ids : List UUID) (totalPages : ℕ) :
    mergeOrderSequencePage (some s) ⟨ids, s.page + -1, totalPages, s.filters⟩ =
      ⟨ids ++ s.ids, s.page + -1, totalPages, s.filters⟩ := by
  have hne : s.page + -1 ≠ s.page ∧ s.page + -1 ≠ s.page + 1 := by omega
  rw [mergeOrderSequencePage, if_neg (not_not.mpr rfl), if_neg hne.1, if_neg hne.2,
    if_pos Int.sub_eq_add_neg.symm]

theorem Window.extend_next (h : Window my s first more) (hpage : s.page = (first + more + 1 : ℕ))
    (hfits : (first + more + 1) * s.filters.pageSize < (my.orders s.filters).length) :
    Window my ⟨s.ids ++ my.page s.filters (s.page + 1), s.page + 1, my.totalPages s.filters,
      s.filters⟩ first (more + 1) := by
  have hindex : (s.page + 1 - 1).toNat = first + (more + 1) := by omega
  refine ⟨h.size, ?_, .inr ?_, rfl, .inr ?_⟩
  · show s.ids ++ my.page s.filters (s.page + 1) = _
    rw [h.ids, MyOrders.page, hindex, OffsetPages.stretch_append_slice]
  · show s.page + 1 = _
    omega
  · exact (OffsetPages.lt_pageCount_iff h.size).mpr hfits

theorem Window.extend_previous {k : ℕ} (h : Window my s (k + 1) more)
    (hpage : s.page = (k + 1 + 1 : ℕ))
    (hfits : (k + 1 + more) * s.filters.pageSize < (my.orders s.filters).length) :
    Window my ⟨my.page s.filters (s.page + -1) ++ s.ids, s.page + -1, my.totalPages s.filters,
      s.filters⟩ k (more + 1) := by
  have hindex : (s.page + -1 - 1).toNat = k := by omega
  refine ⟨h.size, ?_, .inl ?_, rfl, .inr ?_⟩
  · show my.page s.filters (s.page + -1) ++ s.ids = _
    rw [h.ids, MyOrders.page, hindex, OffsetPages.slice_append_stretch]
  · show s.page + -1 = _
    omega
  · rw [Nat.add_comm more, ← Nat.add_assoc]
    exact (OffsetPages.lt_pageCount_iff h.size).mpr hfits

theorem mem_of_neighbour {ids : List UUID} {target : UUID}
    (h : neighbour ids orderId direction = some target) : target ∈ ids := by
  obtain ⟨index, _, hget⟩ := Option.bind_eq_some_iff.mp h
  cases direction with
  | next => exact List.mem_of_getElem? hget
  | previous =>
    dsimp only at hget
    split at hget
    · cases hget
    · exact List.mem_of_getElem? hget

theorem mem_of_push {ids : List UUID} {target : UUID}
    (h : ((direction.entry ids).map Outcome.push).getD direction.atEnd = .push target) :
    target ∈ ids := by
  have hpush : ((direction.entry ids).map Outcome.push).getD direction.atEnd =
      ((some target).map Outcome.push).getD direction.atEnd := h
  have hentry := push_getD_eq_iff.mp hpush
  cases direction with
  | next => exact List.mem_of_mem_head? hentry
  | previous => exact List.mem_of_getLast? hentry

/-- What a key leaves recorded, when the list is as it was and the key does not leave what is
recorded at the wrong end. -/
structure Kept (my : MyOrders) (s : OrderSequenceState) (first more : ℕ) (direction : Direction)
    (result : Option OrderSequenceState × Outcome) (s' : OrderSequenceState)
    (first' more' : ℕ) : Prop where
  recorded : result.1 = some s'
  window : Window my s' first' more'
  filters : s'.filters = s.filters
  faces : Faces s first more direction → Faces s' first' more' direction
  known : ∀ orderId ∈ s.ids, orderId ∈ s'.ids
  target : ∀ target, result.2 = .push target → target ∈ s'.ids

theorem Kept.same (h : Window my s first more) {outcome : Outcome}
    (htarget : ∀ target, outcome = .push target → target ∈ s.ids) :
    Kept my s first more direction (some s, outcome) s first more :=
  ⟨rfl, h, rfl, id, fun _ => id, htarget⟩

theorem Window.go_kept (h : Window my s first more) (hmem : orderId ∈ s.ids)
    (hreplies : my.Unchanged (.press direction fetchMyOrders))
    (hguard : neighbour s.ids orderId direction = none → s.page = my.pageOf s.filters orderId) :
    ∃ s' first' more', Kept my s first more direction
      (go fetchMyOrders orderId (some s) direction) s' first' more' := by
  obtain ⟨i, hat⟩ := h.at hmem
  cases hneighbour : neighbour s.ids orderId direction with
  | some target =>
    rw [go_of_neighbour hmem hneighbour]
    refine ⟨s, first, more, .same h fun target' htarget => ?_⟩
    cases htarget
    exact mem_of_neighbour hneighbour
  | none =>
    have hpage := hguard hneighbour
    rw [hat.pageOf_eq] at hpage
    rw [go_leaves hmem hneighbour]
    split
    · refine ⟨s, first, more, .same h fun target htarget => ?_⟩
      cases direction <;> cases htarget
    · rename_i hin
      rcases hreplies s.filters (s.page + direction.sign) with hnone | hsome
      · rw [hnone]
        exact ⟨s, first, more, .same h fun target htarget => (by cases htarget)⟩
      · rw [hsome]
        cases direction with
        | next =>
          rw [(hat.leaves_next hneighbour).1] at hpage
          have htarget : s.page + Direction.next.sign = ((first + more + 1) + 1 : ℕ) := by
            rw [hpage]
            rfl
          rw [htarget] at hin
          dsimp only [Direction.sign]
          rw [merge_next]
          refine ⟨_, first, more + 1, rfl, h.extend_next hpage ((h.reaches_iff _).mp hin), rfl,
            fun _ => ?_, fun id hold => List.mem_append_left _ hold, fun target hpush =>
              List.mem_append_right _ (mem_of_push hpush)⟩
          show s.page + 1 = _
          omega
        | previous =>
          obtain rfl := hat.leaves_previous hneighbour
          rw [Nat.zero_div, Nat.add_zero] at hpage
          cases first with
          | zero =>
            rw [hpage, Direction.sign] at hin
            exact absurd (.inl (by decide)) hin
          | succ k =>
            have hlist := (List.getElem?_eq_some_iff.mp hat.inList).1
            have hfits : (k + 1 + more) * s.filters.pageSize < (my.orders s.filters).length := by
              rcases h.loaded with rfl | hloaded
              · exact hlist
              · rw [← OffsetPages.lt_pageCount_iff h.size]
                exact Nat.lt_of_lt_of_eq hloaded h.totalPages
            dsimp only [Direction.sign]
            rw [merge_previous]
            refine ⟨_, k, more + 1, rfl, h.extend_previous hpage hfits, rfl, fun _ => ?_,
              fun id hold => List.mem_append_right _ hold, fun target hpush =>
                List.mem_append_left _ (mem_of_push hpush)⟩
            show s.page + -1 = _
            omega

/-! ## Section 7: Whole runs -/

variable {tab : Tab} {e : TabEvent}

/-- What is recorded is a stretch of the list. -/
def Tab.Follows (my : MyOrders) (tab : Tab) : Prop :=
  ∀ s, tab.sequence = some s → ∃ first more, Window my s first more

/-- The list is as it was, and a key does not leave what is recorded at the wrong end. -/
def Steady (my : MyOrders) (tab : Tab) (e : TabEvent) : Prop :=
  my.Unchanged e ∧ ∀ direction fetchMyOrders, e = .press direction fetchMyOrders →
    my.LeavesFromLast tab direction

theorem window_listed {loaded : OrderSequenceState} (h : my.Unchanged (.list loaded)) :
    Window my loaded (loaded.page - 1).toNat 0 := by
  obtain ⟨hsize, hpage, hids, htotal⟩ := h
  refine ⟨hsize, ?_, .inl ?_, htotal, .inl rfl⟩
  · rw [hids, MyOrders.page, OffsetPages.stretch_one]
  · omega

theorem go_of_unknown {sequence : Option OrderSequenceState}
    (h : ∀ s, sequence = some s → orderId ∉ s.ids) :
    (go fetchMyOrders orderId sequence direction).1 = sequence := by
  have hnone : sequence.filter (fun s => s.ids.contains orderId) = none := by
    rw [Option.filter_eq_none_iff]
    intro s hs
    simpa using h s hs
  unfold go
  rw [hnone]

theorem Tab.Follows.step (h : tab.Follows my) (he : Steady my tab e) :
    (tab.step e).Follows my := by
  cases e with
  | list loaded =>
    intro s hs
    cases hs
    exact ⟨_, 0, window_listed he.1⟩
  | openOrder orderId => exact h
  | press direction fetchMyOrders =>
    cases horder : tab.orderId with
    | none => simpa only [Tab.step, Tab.press, horder] using h
    | some orderId =>
      simp only [Tab.step, Tab.press, horder]
      intro s' hs'
      by_cases hknown : ∃ s, tab.sequence = some s ∧ orderId ∈ s.ids
      · obtain ⟨s, hs, hmem⟩ := hknown
        obtain ⟨first, more, hwindow⟩ := h s hs
        obtain ⟨kept, first', more', hkept⟩ := hwindow.go_kept hmem he.1
          (he.2 direction fetchMyOrders rfl s orderId hs horder hmem)
        rw [← hs] at hkept
        obtain rfl := Option.some.inj (hs'.symm.trans hkept.recorded)
        exact ⟨first', more', hkept.window⟩
      · have hsame : (go fetchMyOrders orderId tab.sequence direction).1 = tab.sequence :=
          go_of_unknown fun s hs hmem => hknown ⟨s, hs, hmem⟩
        exact h s' (hsame.symm.trans hs')

/-- In every run over a list that stays as it is, and in which no key leaves what is recorded at
the wrong end, a key pressed on a recorded order opens its neighbour in the whole list, or reports
that there is none, exactly when it does not leave what is recorded at the wrong end itself. -/
theorem press_right_iff {es : List TabEvent} (hes : Along Tab.step (Steady my) {} es)
    (hs : (Tab.after {} es).sequence = some s) (horder : (Tab.after {} es).orderId = some orderId)
    (hmem : orderId ∈ s.ids) (hanswered : Answered my fetchMyOrders) :
    (go fetchMyOrders orderId (some s) direction).2 = my.expected s.filters orderId direction ↔
      my.LeavesFromLast (Tab.after {} es) direction := by
  have hfollows : (Tab.after {} es).Follows my :=
    (throughout_of_along (fun _ _ h he => h.step he) (fun s hs => (by cases hs)) hes).final
  obtain ⟨first, more, hwindow⟩ := hfollows s hs
  rw [hwindow.go_right_iff hmem hanswered]
  constructor
  · intro hleaves s' orderId' hs' horder' _ hend
    obtain rfl := Option.some.inj (hs.symm.trans hs')
    obtain rfl := Option.some.inj (horder.symm.trans horder')
    exact hleaves hend
  · intro hleaves
    exact hleaves s orderId hs horder hmem

/-! ## Section 8: One key, again and again -/

/-- So many places on in the list, as far as it goes. -/
def Direction.along (length : ℕ) (i m : ℕ) : Direction → ℕ
  | next => min (i + m) (length - 1)
  | previous => i - m

theorem along_succ {length i : ℕ} (direction : Direction) (m : ℕ) :
    direction.along length i (m + 1) = direction.along length (direction.along length i m) 1 := by
  cases direction with
  | next =>
    simp only [Direction.along]
    omega
  | previous =>
    simp only [Direction.along]
    omega

theorem expected_shown {filters : OrderSequenceFilters}
    (hi : (my.orders filters)[i]? = some orderId) (direction : Direction) :
    (my.orders filters)[direction.along (my.orders filters).length i 1]? =
      some ((my.expected filters orderId direction).shown orderId) := by
  have hlt := (List.getElem?_eq_some_iff.mp hi).1
  cases direction with
  | next =>
    rw [MyOrders.expected, neighbour_next (my.nodup filters) hi, Direction.along]
    cases hnext : (my.orders filters)[i + 1]? with
    | none =>
      have hend := List.getElem?_eq_none_iff.mp hnext
      rw [show min (i + 1) ((my.orders filters).length - 1) = i by omega, hi]
      rfl
    | some target =>
      have hmore := (List.getElem?_eq_some_iff.mp hnext).1
      rw [show min (i + 1) ((my.orders filters).length - 1) = i + 1 by omega, hnext]
      rfl
  | previous =>
    rw [MyOrders.expected, neighbour_previous (my.nodup filters) hi, Direction.along]
    split
    · rename_i hzero
      rw [hzero, Nat.zero_sub, ← hzero, hi]
      rfl
    · rw [List.getElem?_eq_getElem (Nat.lt_of_le_of_lt (Nat.sub_le i 1) hlt)]
      rfl

/-- A tab that follows the list in one direction, at a place of it. -/
def Walks (my : MyOrders) (filters : OrderSequenceFilters) (direction : Direction) (i : ℕ)
    (tab : Tab) : Prop :=
  ∃ s first more orderId, tab.sequence = some s ∧ Window my s first more ∧
    Faces s first more direction ∧ s.filters = filters ∧ orderId ∈ s.ids ∧
      tab.orderId = some orderId ∧ (my.orders filters)[i]? = some orderId

theorem Window.leaves_of_faces (h : Window my s first more) (hfaces : Faces s first more direction)
    (hmem : orderId ∈ s.ids) (hend : neighbour s.ids orderId direction = none) :
    s.page = my.pageOf s.filters orderId := by
  obtain ⟨i, hat⟩ := h.at hmem
  rw [hat.pageOf_eq]
  cases direction with
  | next =>
    rw [(hat.leaves_next hend).1]
    exact hfaces
  | previous =>
    rw [hat.leaves_previous hend, Nat.zero_div, Nat.add_zero]
    exact hfaces

theorem Walks.press {filters : OrderSequenceFilters} (h : Walks my filters direction i tab)
    (hanswered : Answered my fetchMyOrders) :
    Walks my filters direction (direction.along (my.orders filters).length i 1)
      (tab.press direction fetchMyOrders) := by
  obtain ⟨s, first, more, orderId, hs, hwindow, hfaces, rfl, hmem, horder, hi⟩ := h
  have hleaves := hwindow.leaves_of_faces hfaces hmem
  have hright := (hwindow.go_right_iff hmem hanswered).mpr hleaves
  obtain ⟨s', first', more', hkept⟩ :=
    hwindow.go_kept hmem (fun filters page => .inr (hanswered filters page)) hleaves
  simp only [Tab.press, horder, hs]
  refine ⟨s', first', more', _, hkept.recorded, hkept.window, hkept.faces hfaces, hkept.filters,
    ?_, rfl, ?_⟩
  · cases houtcome : (go fetchMyOrders orderId (some s) direction).2 with
    | push target => exact hkept.target target houtcome
    | info _ | error _ => exact hkept.known orderId hmem
  · rw [hright]
    exact expected_shown hi direction

/-- One key pressed `m` times on an order of the list page opens the order so many places on in
the whole list, whatever page it stands on, and stays where the list ends. -/
theorem keys_walk {loaded : OrderSequenceState} (hloaded : my.Unchanged (.list loaded))
    (hmem : orderId ∈ loaded.ids) (hi : (my.orders loaded.filters)[i]? = some orderId)
    (hanswered : Answered my fetchMyOrders) (direction : Direction) (m : ℕ) :
    (Tab.after {} (.list loaded :: .openOrder orderId ::
      List.replicate m (.press direction fetchMyOrders))).orderId =
        (my.orders loaded.filters)[direction.along (my.orders loaded.filters).length i m]? := by
  have hstart : Walks my loaded.filters direction
      (direction.along (my.orders loaded.filters).length i 0) ⟨some loaded, some orderId⟩ := by
    have hwindow := window_listed hloaded
    have hplace : direction.along (my.orders loaded.filters).length i 0 = i := by
      have hlt := (List.getElem?_eq_some_iff.mp hi).1
      cases direction with
      | next =>
        simp only [Direction.along]
        omega
      | previous => rfl
    rw [hplace]
    refine ⟨loaded, _, 0, orderId, rfl, hwindow, ?_, rfl, hmem, rfl, hi⟩
    cases direction <;> exact hwindow.page.elim id id
  have hwalk : ∀ m, Walks my loaded.filters direction
      (direction.along (my.orders loaded.filters).length i m)
      (Tab.after ⟨some loaded, some orderId⟩
        (List.replicate m (.press direction fetchMyOrders))) := by
    intro m
    induction m with
    | zero => exact hstart
    | succ m ih =>
      rw [List.replicate_succ', Tab.after, run_append, along_succ]
      exact ih.press hanswered
  obtain ⟨_, _, _, id, _, _, _, _, _, horder, hplace⟩ := hwalk m
  exact horder.trans hplace.symm

/-! ## Section 9: A small list -/

/-- Five orders, under any filters. -/
def smallOrders : MyOrders where
  orders _ := [11, 12, 13, 14, 15]
  nodup _ := by decide

def smallFetch : FetchMyOrders := fun filters page =>
  some (smallOrders.page filters page, smallOrders.totalPages filters)

/-- The first page of two. -/
def smallPage : OrderSequenceState := ⟨[11, 12], 1, 3, { pageSize := 2 }⟩

theorem unchanged_smallPage : smallOrders.Unchanged (.list smallPage) :=
  ⟨by decide, by decide, rfl, rfl⟩

theorem keys_walk_small :
    (Tab.after {} [.list smallPage, .openOrder 12, .press .next smallFetch,
      .press .next smallFetch, .press .next smallFetch, .press .next smallFetch]).orderId =
        some 15 :=
  keys_walk unchanged_smallPage (by decide)
    (rfl : (smallOrders.orders smallPage.filters)[1]? = some 12) (fun _ _ => rfl) .next 4

/-- Over the page break with J, and back to the first order with K. -/
def smallTurn : List TabEvent :=
  [.list smallPage, .openOrder 12, .press .next smallFetch, .press .previous smallFetch,
    .press .previous smallFetch]

theorem steady_smallPress {tab : Tab} {direction : Direction}
    (h : smallOrders.LeavesFromLast tab direction) :
    Steady smallOrders tab (.press direction smallFetch) :=
  ⟨fun _ _ => .inr rfl, fun _ _ heq => (by cases heq; exact h)⟩

theorem press_right_iff_small :
    (go smallFetch 11 (some ⟨[11, 12, 13, 14], 2, 3, { pageSize := 2 }⟩) .previous).2 =
        .info "This is the first order." ↔
      smallOrders.LeavesFromLast (Tab.after {} smallTurn) .previous := by
  have hsteady : Along Tab.step (Steady smallOrders) {} smallTurn := by
    refine ⟨⟨unchanged_smallPage, nofun⟩, ⟨True.intro, nofun⟩, steady_smallPress ?_,
      steady_smallPress ?_, steady_smallPress ?_, True.intro⟩
    all_goals
      intro s orderId hs horder _ hend
      cases hs
      cases horder
    · rfl
    · cases hend
    · cases hend
  exact press_right_iff hsteady rfl rfl (by decide) fun _ _ => rfl

/-- K on the first order after that opens one further on. -/
example : (go smallFetch 11 (some ⟨[11, 12, 13, 14], 2, 3, { pageSize := 2 }⟩) .previous).2 =
    .push 12 := rfl

end AyushOms.Web

import Mathlib.Data.List.Basic
import Mathlib.Data.List.GetD

/-!
# Following Cursors

A source hands out its elements page by page. Each page says whether there is more, and where;
whoever reads it goes on with the cursor of each page until one says that there is not. The
reader may stop before the last page when nothing on the pages that follow is wanted.

## Main results

- `follow_covers`: a reader that stops only there has read everything that is wanted, once
-/

namespace AyushOms.Lib

variable {α κ ε : Type*}

/-- A page: its elements, and how to go on. -/
structure Page (α κ : Type*) where
  nodes : List α
  nextCursor : Option κ
  hasMore : Bool
  deriving DecidableEq, Repr

/-- Reading on from a cursor for so many pages; `none` when the last of them says that there is
more. -/
def follow (fetch : Option κ → Except ε (Page α κ)) :
    ℕ → Option κ → Option (Except ε (List α))
  | 0, _ => none
  | fuel + 1, cursor =>
    match fetch cursor with
    | .error e => some (.error e)
    | .ok page =>
      if page.hasMore then
        (follow fetch fuel page.nextCursor).map fun rest => rest.map (page.nodes ++ ·)
      else some (.ok page.nodes)

variable {fetch : Option κ → Except ε (Page α κ)}

theorem follow_of_error {cursor : Option κ} {e : ε} (h : fetch cursor = .error e) (fuel : ℕ) :
    follow fetch (fuel + 1) cursor = some (.error e) := by
  simp only [follow, h]

theorem follow_of_last {cursor : Option κ} {page : Page α κ} (h : fetch cursor = .ok page)
    (hlast : page.hasMore = false) (fuel : ℕ) :
    follow fetch (fuel + 1) cursor = some (.ok page.nodes) := by
  simp only [follow, h, hlast, Bool.false_eq_true, if_false]

theorem follow_of_more {cursor : Option κ} {page : Page α κ} (h : fetch cursor = .ok page)
    (hmore : page.hasMore = true) {fuel : ℕ} {rest : List α}
    (hrest : follow fetch fuel page.nextCursor = some (.ok rest)) :
    follow fetch (fuel + 1) cursor = some (.ok (page.nodes ++ rest)) := by
  simp only [follow, h, hmore, if_true, hrest, Option.map_some]
  rfl

/-- A page of a list of pages is read as it is; it sends on to the next one, or nothing on the
pages after it is wanted. -/
structure ReadsPage (fetch : Option κ → Except ε (Page α κ)) (position : ℕ → Option κ)
    (pages : List (List α)) (Wanted : α → Prop) (n : ℕ) (page : Page α κ) : Prop where
  fetched : fetch (position n) = .ok page
  nodes : page.nodes = pages.getD n []
  more : page.hasMore = true → n < pages.length ∧ page.nextCursor = position (n + 1)
  last : page.hasMore = false → ∀ a ∈ (pages.drop (n + 1)).flatten, ¬ Wanted a

/-- Following the cursors of such pages ends, and nothing is wanted of what has not been read. -/
theorem follow_covers {position : ℕ → Option κ} {pages : List (List α)} {Wanted : α → Prop}
    (hreads : ∀ n, ∃ page, ReadsPage fetch position pages Wanted n page) (n : ℕ) :
    ∃ fuel nodes unread, follow fetch fuel (position n) = some (.ok nodes) ∧
      (pages.drop n).flatten = nodes ++ unread ∧ ∀ a ∈ unread, ¬ Wanted a := by
  obtain ⟨left, hleft⟩ : ∃ left, pages.length ≤ n + left := ⟨pages.length, by omega⟩
  -- by induction on the pages that are left
  induction left generalizing n with
  | zero =>
    have hleft : pages.length ≤ n := hleft
    obtain ⟨page, hpage⟩ := hreads n
    have hlast : page.hasMore = false := by
      by_contra hmore
      have hlt := (hpage.more (by simpa using hmore)).1
      omega
    have hnone : page.nodes = [] := by
      rw [hpage.nodes, List.getD_eq_default _ _ hleft]
    refine ⟨1, [], [], ?_, ?_, by simp⟩
    · rw [← hnone]
      exact follow_of_last hpage.fetched hlast 0
    · rw [List.drop_eq_nil_of_le hleft]
      rfl
  | succ left ih =>
    obtain ⟨page, hpage⟩ := hreads n
    have hhere : (pages.drop n).flatten = page.nodes ++ (pages.drop (n + 1)).flatten := by
      rw [hpage.nodes]
      by_cases hlt : n < pages.length
      · rw [List.drop_eq_getElem_cons hlt, List.flatten_cons, List.getD_eq_getElem _ _ hlt]
      · have hle : pages.length ≤ n := Nat.le_of_not_lt hlt
        rw [List.drop_eq_nil_of_le hle, List.drop_eq_nil_of_le (by omega),
          List.getD_eq_default _ _ hle]
        rfl
    cases hmore : page.hasMore with
    | false =>
      exact ⟨1, page.nodes, (pages.drop (n + 1)).flatten, follow_of_last hpage.fetched hmore 0,
        hhere, hpage.last hmore⟩
    | true =>
      obtain ⟨-, hcursor⟩ := hpage.more hmore
      obtain ⟨fuel, nodes, unread, hfollow, hnodes, hunread⟩ := ih (n + 1) (by omega)
      rw [← hcursor] at hfollow
      refine ⟨fuel + 1, page.nodes ++ nodes, unread,
        follow_of_more hpage.fetched hmore hfollow, ?_, hunread⟩
      rw [hhere, hnodes, List.append_assoc]

end AyushOms.Lib

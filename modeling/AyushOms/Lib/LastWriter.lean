import Mathlib.Order.Lattice

/-!
# Registers that Keep the Newest Version

A register is offered versions that carry a stamp, in any order and any number of times. It
refuses a version whose stamp is below that of what it holds and takes any other. What it
holds at first is not a version: only its stamp, the floor, is known.

## Main results

- `LastWriter.foldl_offer`: the order of the offers does not matter, the register ends as if
  only the newest version had been offered
-/

namespace AyushOms.Lib

namespace LastWriter

variable {τ α : Type*} [LinearOrder τ] (stamp : α → τ) (floor : Option τ)

/-- The version is refused: its stamp is below the one the register has. -/
def Stale (held : Option α) (a : α) : Prop :=
  ∃ t ∈ (held.map stamp).or floor, stamp a < t

instance (held : Option α) (a : α) : Decidable (Stale stamp floor held a) :=
  inferInstanceAs (Decidable (∃ t ∈ (held.map stamp).or floor, stamp a < t))

/-- What the register holds after an offer; `none` is what it held at first. -/
def offer (held : Option α) (a : α) : Option α :=
  if Stale stamp floor held a then held else some a

variable {stamp floor} {as : List α} {newest : α}

theorem stale_none {a : α} : Stale stamp floor none a ↔ ∃ t ∈ floor, stamp a < t := by
  simp [Stale]

theorem stale_some {a b : α} : Stale stamp floor (some b) a ↔ stamp a < stamp b := by
  simp [Stale]

/-- The version held was offered, and is not below the floor. -/
def Taken (stamp : α → τ) (floor : Option τ) (as : List α) (held : Option α) : Prop :=
  ∀ b ∈ held, b ∈ as ∧ ∀ t ∈ floor, t ≤ stamp b

theorem Taken.offer {held : Option α} (h : Taken stamp floor as held) {a : α} (ha : a ∈ as) :
    Taken stamp floor as (offer stamp floor held a) := by
  intro b hb
  unfold LastWriter.offer at hb
  split at hb
  · exact h b hb
  · rename_i hfresh
    obtain rfl : a = b := Option.some.inj hb
    refine ⟨ha, fun t ht => ?_⟩
    -- a version that was taken is above the floor, or above one that is
    cases hheld : held with
    | none =>
      rw [hheld, stale_none] at hfresh
      exact not_lt.mp fun hlt => hfresh ⟨t, ht, hlt⟩
    | some c =>
      rw [hheld, stale_some, not_lt] at hfresh
      exact ((h c hheld).2 t ht).trans hfresh

theorem Taken.foldl {held : Option α} (h : Taken stamp floor as held) {offers : List α}
    (hoffers : ∀ a ∈ offers, a ∈ as) :
    Taken stamp floor as (offers.foldl (LastWriter.offer stamp floor) held) := by
  induction offers generalizing held with
  | nil => exact h
  | cons a offers ih =>
    obtain ⟨ha, hrest⟩ := List.forall_mem_cons.mp hoffers
    exact ih (h.offer ha) hrest

/-- Whatever is held when the newest version arrives, it is treated as if it came first. -/
theorem offer_newest {held : Option α} (h : Taken stamp floor as held)
    (hmax : ∀ a ∈ as, stamp a ≤ stamp newest) :
    offer stamp floor held newest = offer stamp floor none newest := by
  cases hheld : held with
  | none => rfl
  | some b =>
    obtain ⟨hb, hfloor⟩ := h b hheld
    have hsome : ¬ Stale stamp floor (some b) newest := by
      rw [stale_some]
      exact not_lt.mpr (hmax b hb)
    have hnone : ¬ Stale stamp floor none newest := by
      rw [stale_none]
      rintro ⟨t, ht, hlt⟩
      exact absurd hlt (not_lt.mpr ((hfloor t ht).trans (hmax b hb)))
    rw [offer, offer, if_neg hsome, if_neg hnone]

/-- Once the newest version has been offered, nothing changes the register. -/
theorem offer_after_newest (hmax : ∀ a ∈ as, stamp a ≤ stamp newest)
    (honly : ∀ a ∈ as, stamp a = stamp newest → a = newest) {a : α} (ha : a ∈ as) :
    offer stamp floor (offer stamp floor none newest) a = offer stamp floor none newest := by
  by_cases hstale : Stale stamp floor none newest
  · -- below the floor, and so is every other version
    have hstale' : Stale stamp floor none a := by
      obtain ⟨t, ht, hlt⟩ := stale_none.mp hstale
      exact stale_none.mpr ⟨t, ht, (hmax a ha).trans_lt hlt⟩
    rw [offer, offer, if_pos hstale, if_pos hstale']
  · rw [offer, offer, if_neg hstale]
    split
    · rfl
    · rename_i hfresh
      rw [stale_some, not_lt] at hfresh
      rw [honly a ha (le_antisymm (hmax a ha) hfresh)]

/-- Offered in any order, the versions leave the register as the newest of them alone does. -/
theorem foldl_offer (hmem : newest ∈ as) (hmax : ∀ a ∈ as, stamp a ≤ stamp newest)
    (honly : ∀ a ∈ as, stamp a = stamp newest → a = newest) :
    as.foldl (offer stamp floor) none = offer stamp floor none newest := by
  obtain ⟨before, after, rfl⟩ := List.append_of_mem hmem
  have hbefore : ∀ a ∈ before, a ∈ before ++ newest :: after := fun a ha =>
    List.mem_append_left _ ha
  have hafter : ∀ a ∈ after, a ∈ before ++ newest :: after := fun a ha =>
    List.mem_append_right _ (List.mem_cons_of_mem _ ha)
  have htaken : Taken stamp floor (before ++ newest :: after)
      (before.foldl (offer stamp floor) none) :=
    Taken.foldl nofun hbefore
  rw [List.foldl_append, List.foldl_cons, offer_newest htaken hmax]
  clear htaken hbefore
  generalize before ++ newest :: after = as at hmax honly hafter
  induction after with
  | nil => rfl
  | cons a after ih =>
    obtain ⟨ha, hrest⟩ := List.forall_mem_cons.mp hafter
    rw [List.foldl_cons, offer_after_newest hmax honly ha]
    exact ih (by simp) hrest

end LastWriter

end AyushOms.Lib

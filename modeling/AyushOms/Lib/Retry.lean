import AyushOms.Lib.Run
import Mathlib.Data.List.Count

/-!
# Loops that Try Again

A loop sends a request and waits for the reply. A reply may be a result, an error that no further
attempt would cure, one that another attempt may cure, or the refusal of a credential that can be
renewed. The loop gives up after a number of curable errors, and renews the credential once.

## Main results

- `run_hear_going_iff`: the replies after which the loop is still going
- `Settles.of_next`: the loop ends with the first reply that it does not survive
- `Settles.length_le`: how many replies it waits for
-/

namespace AyushOms.Lib

universe u v w

/-! ## Section 1: The loop -/

/-- What a reply means. -/
inductive Verdict (ε : Type u) (α : Type v) where
  | done (result : α)
  | stop (error : ε)
  | again (error : ε)
  | renew (error : ε)

/-- How often the loop has failed so far, and whether it has renewed its credential. -/
structure Attempts where
  failed : ℕ := 0
  renewed : Bool := false
  deriving DecidableEq, Repr

/-- The loop waits for its next reply, or is over. -/
inductive Progress (ε : Type u) (α : Type v) where
  | going (attempts : Attempts)
  | ended (result : Except ε α)

namespace Verdict

variable {ε : Type u} {α : Type v}

/-- What the loop ends with when the reply is its last. -/
def result : Verdict ε α → Except ε α
  | done a => .ok a
  | stop e | again e | renew e => .error e

def isAgain : Verdict ε α → Bool
  | again _ => true
  | _ => false

def isRenew : Verdict ε α → Bool
  | renew _ => true
  | _ => false

end Verdict

/-- What the loop makes of a reply. -/
def Attempts.next {ε : Type u} {α : Type v} (maxRetries : ℕ) (attempts : Attempts) :
    Verdict ε α → Progress ε α
  | .done a => .ended (.ok a)
  | .stop e => .ended (.error e)
  | .again e =>
    if maxRetries < attempts.failed + 1 then .ended (.error e)
    else .going { attempts with failed := attempts.failed + 1 }
  | .renew e =>
    if attempts.renewed then .ended (.error e) else .going { attempts with renewed := true }

/-- A loop that goes on has met a failure, or a refusal for the first time. -/
theorem Attempts.of_next_going {ε : Type u} {α : Type v} {maxRetries : ℕ}
    {attempts attempts' : Attempts} {verdict : Verdict ε α}
    (h : attempts.next maxRetries verdict = .going attempts') :
    (verdict.isAgain = true ∧ verdict.isRenew = false ∧ attempts.failed < maxRetries ∧
      attempts' = { attempts with failed := attempts.failed + 1 }) ∨
    (verdict.isRenew = true ∧ attempts.renewed = false ∧
      attempts' = { attempts with renewed := true }) := by
  cases verdict with
  | done _ | stop _ => cases h
  | again _ =>
    simp only [Attempts.next] at h
    split at h
    · cases h
    · rename_i hmore
      cases h
      exact .inl ⟨rfl, rfl, Nat.lt_of_succ_le (Nat.not_lt.mp hmore), rfl⟩
  | renew _ =>
    simp only [Attempts.next] at h
    split at h
    · cases h
    · rename_i hfirst
      cases h
      exact .inr ⟨rfl, Bool.not_eq_true _ ▸ hfirst, rfl⟩

/-- The first refusal does not end a loop. -/
theorem Attempts.renewed_of_next_ended {ε : Type u} {α : Type v} {maxRetries : ℕ}
    {attempts : Attempts} {verdict : Verdict ε α} {result : Except ε α}
    (h : attempts.next maxRetries verdict = .ended result) (hrenew : verdict.isRenew = true) :
    attempts.renewed = true := by
  cases verdict with
  | done _ | stop _ | again _ => cases hrenew
  | renew _ =>
    simp only [Attempts.next] at h
    split at h
    · assumption
    · cases h

section Loop

variable {ρ : Type w} {ε : Type u} {α : Type v} (judge : ρ → Verdict ε α) (maxRetries : ℕ)

/-- The loop hears a reply. -/
def Progress.hear : Progress ε α → ρ → Progress ε α
  | .going attempts, r => attempts.next maxRetries (judge r)
  | .ended result, _ => .ended result

/-- The errors among the replies that another attempt may cure. -/
def failures (replies : List ρ) : ℕ := replies.countP fun r => (judge r).isAgain

/-- The refusals of the credential among the replies. -/
def refusals (replies : List ρ) : ℕ := replies.countP fun r => (judge r).isRenew

/-- The loop goes on after these replies: none settles the request, no more than `maxRetries` are
failures and no more than one is a refusal. -/
structure Survived (replies : List ρ) : Prop where
  unsettled : ∀ r ∈ replies, (judge r).isAgain = true ∨ (judge r).isRenew = true
  failures_le : failures judge replies ≤ maxRetries
  refusals_le : refusals judge replies ≤ 1

variable {judge maxRetries}

/-! ## Section 2: What the loop survives -/

theorem failures_of_append (rs rs' : List ρ) :
    failures judge (rs ++ rs') = failures judge rs + failures judge rs' :=
  List.countP_append

theorem refusals_of_append (rs rs' : List ρ) :
    refusals judge (rs ++ rs') = refusals judge rs + refusals judge rs' :=
  List.countP_append

theorem failures_cons (r : ρ) (rs : List ρ) :
    failures judge (r :: rs) = failures judge rs + if (judge r).isAgain then 1 else 0 :=
  List.countP_cons

theorem refusals_cons (r : ρ) (rs : List ρ) :
    refusals judge (r :: rs) = refusals judge rs + if (judge r).isRenew then 1 else 0 :=
  List.countP_cons

theorem Survived.nil : Survived judge maxRetries [] where
  unsettled r hr := by cases hr
  failures_le := Nat.zero_le _
  refusals_le := Nat.zero_le _

theorem Survived.left {rs rs' : List ρ} (h : Survived judge maxRetries (rs ++ rs')) :
    Survived judge maxRetries rs where
  unsettled r hr := h.unsettled r (List.mem_append_left _ hr)
  failures_le := by
    have hle := h.failures_le
    rw [failures_of_append] at hle
    exact Nat.le_trans (Nat.le_add_right _ _) hle
  refusals_le := by
    have hle := h.refusals_le
    rw [refusals_of_append] at hle
    exact Nat.le_trans (Nat.le_add_right _ _) hle

/-- Every reply a loop survives is a failure or a refusal. -/
theorem Survived.length_eq {replies : List ρ} (h : Survived judge maxRetries replies) :
    replies.length = failures judge replies + refusals judge replies := by
  have hall := h.unsettled
  clear h
  induction replies with
  | nil => rfl
  | cons r rest ih =>
    have htail := ih fun r' hr' => hall r' (List.mem_cons_of_mem _ hr')
    have hhead := hall r List.mem_cons_self
    rw [failures_cons, refusals_cons, List.length_cons, htail]
    cases hr : judge r with
    | done a | stop e =>
      rw [hr] at hhead
      rcases hhead with hhead | hhead <;> cases hhead
    | again e | renew e =>
      simp only [Verdict.isAgain, Verdict.isRenew, if_true, Bool.false_eq_true, if_false]
      omega

/-- One more reply. -/
theorem hear_survived {rs : List ρ} {r : ρ} (h : Survived judge maxRetries rs) :
    (Survived judge maxRetries (rs ++ [r]) ∧
      Attempts.next maxRetries ⟨failures judge rs, 0 < refusals judge rs⟩ (judge r) =
        .going ⟨failures judge (rs ++ [r]), 0 < refusals judge (rs ++ [r])⟩) ∨
    (¬ Survived judge maxRetries (rs ++ [r]) ∧
      Attempts.next maxRetries ⟨failures judge rs, 0 < refusals judge rs⟩ (judge r) =
        .ended (judge r).result) := by
  have hfailures : failures judge (rs ++ [r]) =
      failures judge rs + if (judge r).isAgain then 1 else 0 := by
    rw [failures_of_append, failures_cons]
    exact congrArg _ (Nat.zero_add _)
  have hrefusals : refusals judge (rs ++ [r]) =
      refusals judge rs + if (judge r).isRenew then 1 else 0 := by
    rw [refusals_of_append, refusals_cons]
    exact congrArg _ (Nat.zero_add _)
  have hmem : ∀ h' : Survived judge maxRetries (rs ++ [r]),
      (judge r).isAgain = true ∨ (judge r).isRenew = true := fun h' =>
    h'.unsettled r (List.mem_append_right _ List.mem_cons_self)
  have hunsettled : (judge r).isAgain = true ∨ (judge r).isRenew = true →
      ∀ r' ∈ rs ++ [r], (judge r').isAgain = true ∨ (judge r').isRenew = true := by
    intro hr r' hr'
    rcases List.mem_append.mp hr' with hold | hnew
    · exact h.unsettled r' hold
    · rwa [List.mem_singleton.mp hnew]
  cases hverdict : judge r with
  | done a | stop e =>
    refine .inr ⟨fun h' => ?_, rfl⟩
    have hr := hmem h'
    rw [hverdict] at hr
    rcases hr with hr | hr <;> cases hr
  | again e =>
    rw [hverdict] at hfailures hrefusals hunsettled
    simp only [Verdict.isAgain, Verdict.isRenew, if_true, Bool.false_eq_true, if_false,
      Nat.add_zero] at hfailures hrefusals
    rw [hfailures, hrefusals]
    by_cases hmore : maxRetries < failures judge rs + 1
    · refine .inr ⟨fun h' => ?_, by simp only [Attempts.next, hmore, if_true]; rfl⟩
      have hle := h'.failures_le
      rw [hfailures] at hle
      exact absurd hmore (Nat.not_lt.mpr hle)
    · refine .inl ⟨⟨hunsettled (.inl rfl), ?_, ?_⟩, by
        simp only [Attempts.next, hmore, if_false]⟩
      · rw [hfailures]
        exact Nat.not_lt.mp hmore
      · rw [hrefusals]
        exact h.refusals_le
  | renew e =>
    rw [hverdict] at hfailures hrefusals hunsettled
    simp only [Verdict.isAgain, Verdict.isRenew, if_true, Bool.false_eq_true, if_false,
      Nat.add_zero] at hfailures hrefusals
    rw [hfailures, hrefusals]
    by_cases hbefore : 0 < refusals judge rs
    · refine .inr ⟨fun h' => ?_, by simp [Attempts.next, hbefore, Verdict.result]⟩
      have hle := h'.refusals_le
      omega
    · refine .inl ⟨⟨hunsettled (.inr rfl), ?_, ?_⟩, by simp [Attempts.next, hbefore]⟩
      · rw [hfailures]
        exact h.failures_le
      · omega

variable (judge maxRetries) in
/-- Where the loop is after the replies. -/
theorem run_hear (rs : List ρ) :
    (Survived judge maxRetries rs ∧ run (Progress.hear judge maxRetries) (.going {}) rs =
      .going ⟨failures judge rs, 0 < refusals judge rs⟩) ∨
    ∃ pre r post, rs = pre ++ r :: post ∧ Survived judge maxRetries pre ∧
      ¬ Survived judge maxRetries (pre ++ [r]) ∧
      run (Progress.hear judge maxRetries) (.going {}) rs = .ended (judge r).result := by
  -- by induction on the replies from the last one on
  induction rs using List.reverseRecOn with
  | nil => exact .inl ⟨.nil, rfl⟩
  | append_singleton rs r ih =>
    rw [run_append, run_cons, run_nil]
    rcases ih with ⟨hsurvived, hrun⟩ | ⟨pre, r', post, rfl, hpre, hr', hrun⟩
    · rw [hrun]
      rcases hear_survived (r := r) hsurvived with ⟨hmore, hnext⟩ | ⟨hlast, hnext⟩
      · exact .inl ⟨hmore, hnext⟩
      · exact .inr ⟨rs, r, [], rfl, hsurvived, hlast, hnext⟩
    · rw [hrun]
      exact .inr ⟨pre, r', post ++ [r], by rw [List.append_assoc]; rfl, hpre, hr', rfl⟩

theorem run_hear_going_iff {rs : List ρ} {attempts : Attempts} :
    run (Progress.hear judge maxRetries) (.going {}) rs = .going attempts ↔
      Survived judge maxRetries rs ∧
        attempts = ⟨failures judge rs, 0 < refusals judge rs⟩ := by
  constructor
  · intro hgoing
    rcases run_hear judge maxRetries rs with
      ⟨hsurvived, hrun⟩ | ⟨_, _, _, _, _, _, hrun⟩
    · rw [hrun] at hgoing
      cases hgoing
      exact ⟨hsurvived, rfl⟩
    · rw [hrun] at hgoing
      cases hgoing
  · rintro ⟨hsurvived, rfl⟩
    rcases run_hear judge maxRetries rs with
      ⟨_, hrun⟩ | ⟨pre, r, post, rfl, _, hlast, _⟩
    · exact hrun
    · -- a part of what is survived is survived
      rw [← List.singleton_append, ← List.append_assoc] at hsurvived
      exact absurd hsurvived.left hlast

/-! ## Section 3: How many replies -/

/-- The last reply settles the request: the loop survives those before it, and ends with it. -/
def Settles (judge : ρ → Verdict ε α) (maxRetries : ℕ) (replies : List ρ)
    (result : Except ε α) : Prop :=
  ∃ pre r, replies = pre ++ [r] ∧ Survived judge maxRetries pre ∧
    ¬ Survived judge maxRetries (pre ++ [r]) ∧ result = (judge r).result

theorem Settles.of_next {rs : List ρ} {attempts : Attempts} {r : ρ} {result : Except ε α}
    (hgoing : run (Progress.hear judge maxRetries) (.going {}) rs = .going attempts)
    (hnext : attempts.next maxRetries (judge r) = .ended result) :
    Settles judge maxRetries (rs ++ [r]) result := by
  obtain ⟨hsurvived, rfl⟩ := run_hear_going_iff.mp hgoing
  rcases hear_survived (r := r) hsurvived with ⟨_, hmore⟩ | ⟨hlast, hended⟩
  · rw [hmore] at hnext
    cases hnext
  · rw [hended] at hnext
    cases hnext
    exact ⟨rs, r, rfl, hsurvived, hlast, rfl⟩

theorem Survived.length_le {rs : List ρ} (h : Survived judge maxRetries rs) :
    rs.length ≤ maxRetries + 1 := by
  rw [h.length_eq]
  exact Nat.add_le_add h.failures_le h.refusals_le

/-- The loop is over by the time it has heard so many replies. -/
theorem Settles.length_le {rs : List ρ} {result : Except ε α}
    (h : Settles judge maxRetries rs result) : rs.length ≤ maxRetries + 2 := by
  obtain ⟨pre, r, rfl, hpre, _⟩ := h
  rw [List.length_append, List.length_singleton]
  exact Nat.succ_le_succ hpre.length_le

end Loop

end AyushOms.Lib

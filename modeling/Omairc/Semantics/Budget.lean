import Mathlib.Data.Finset.Card

/-!
# A budget with claims

Some keys are open. Each opens within a budget, or claims a request of its own that is
outstanding, so there are never more of them than the budget and the outstanding requests
together.
-/

namespace Omairc.Semantics

universe u v

variable {Key : Type u} {Request : Type v}

/-- The open keys without a claim fit the budget, and no two of the others claim the same
outstanding request. -/
structure Account (budget : Nat) (opens : Finset Key) (outstanding : Finset Request)
    (claims : Key → Option Request) : Prop where
  within : (opens.filter fun key => (claims key).isNone).card ≤ budget
  waits : ∀ key ∈ opens, ∀ request, claims key = some request → request ∈ outstanding
  single : ∀ first ∈ opens, ∀ second ∈ opens, ∀ request, claims first = some request →
    claims second = some request → first = second

namespace Account

variable {budget : Nat} {opens fewer : Finset Key} {outstanding later : Finset Request}
  {claims changed : Key → Option Request}

/-- Nothing is open. -/
theorem empty (outstanding : Finset Request) (claims : Key → Option Request) :
    Account budget ∅ outstanding claims where
  within := by simp
  waits := by simp
  single := by simp

/-- There are no more open keys than the budget and the outstanding requests together. -/
theorem bounded [DecidableEq Request] (account : Account budget opens outstanding claims) :
    opens.card ≤ budget + outstanding.card := by
  have claiming : (opens.filter fun key => ¬ (claims key).isNone).card ≤ outstanding.card := by
    have injective : Set.InjOn claims (opens.filter fun key => ¬ (claims key).isNone) := by
      intro first firstOpen second secondOpen same
      obtain ⟨firstOpen, claimed⟩ := Finset.mem_filter.mp (Finset.mem_coe.mp firstOpen)
      obtain ⟨secondOpen, -⟩ := Finset.mem_filter.mp (Finset.mem_coe.mp secondOpen)
      obtain ⟨request, claimed⟩ := Option.ne_none_iff_exists'.mp (mt Option.isNone_iff_eq_none.mpr claimed)
      exact account.single first firstOpen second secondOpen request claimed (same ▸ claimed)
    have listed : (opens.filter fun key => ¬ (claims key).isNone).image claims ⊆
        outstanding.image some := by
      intro claim member
      obtain ⟨key, chosen, rfl⟩ := Finset.mem_image.mp member
      obtain ⟨member, claimed⟩ := Finset.mem_filter.mp chosen
      obtain ⟨request, claimed⟩ := Option.ne_none_iff_exists'.mp (mt Option.isNone_iff_eq_none.mpr claimed)
      rw [claimed]
      exact Finset.mem_image_of_mem some (account.waits key member request claimed)
    calc (opens.filter fun key => ¬ (claims key).isNone).card
        = ((opens.filter fun key => ¬ (claims key).isNone).image claims).card :=
          (Finset.card_image_of_injOn injective).symm
      _ ≤ (outstanding.image some).card := Finset.card_le_card listed
      _ ≤ outstanding.card := Finset.card_image_le
  have split := opens.card_filter_add_card_filter_not fun key => (claims key).isNone
  have within := account.within
  omega

/-- Keys close, and no request ends whose claiming key stays open. -/
theorem closes (account : Account budget opens outstanding claims) (closed : fewer ⊆ opens)
    (kept : ∀ key ∈ fewer, changed key = claims key)
    (waits : ∀ key ∈ fewer, ∀ request, claims key = some request → request ∈ later) :
    Account budget fewer later changed where
  within := by
    refine (Finset.card_le_card ?_).trans account.within
    intro key member
    obtain ⟨member, unclaimed⟩ := Finset.mem_filter.mp member
    rw [kept key member] at unclaimed
    exact Finset.mem_filter.mpr ⟨closed member, unclaimed⟩
  waits key member request claimed := by
    rw [kept key member] at claimed
    exact waits key member request claimed
  single first firstOpen second secondOpen request claimed same := by
    rw [kept first firstOpen] at claimed
    rw [kept second secondOpen] at same
    exact account.single first (closed firstOpen) second (closed secondOpen) request claimed same

/-- A key opens within the budget, or with a claim of its own. -/
theorem opening [DecidableEq Key] (account : Account budget opens outstanding claims) {key : Key}
    (fresh : key ∉ opens) (kept : ∀ other ∈ opens, changed other = claims other)
    (admitted : changed key = none ∧ opens.card < budget ∨
      ∃ request, changed key = some request ∧ request ∈ outstanding ∧
        ∀ other ∈ opens, claims other ≠ some request) :
    Account budget (insert key opens) outstanding changed where
  within := by
    rcases admitted with ⟨unclaimed, room⟩ | ⟨request, claimed, -⟩
    · calc ((insert key opens).filter fun key => (changed key).isNone).card
          ≤ (insert key opens).card := Finset.card_filter_le _ _
        _ ≤ opens.card + 1 := Finset.card_insert_le _ _
        _ ≤ budget := room
    · refine (Finset.card_le_card ?_).trans account.within
      intro other member
      obtain ⟨member, unclaimed⟩ := Finset.mem_filter.mp member
      rcases Finset.mem_insert.mp member with rfl | member
      · rw [claimed] at unclaimed
        cases unclaimed
      · rw [kept other member] at unclaimed
        exact Finset.mem_filter.mpr ⟨member, unclaimed⟩
  waits other member request claimed := by
    rcases Finset.mem_insert.mp member with rfl | member
    · rcases admitted with ⟨unclaimed, -⟩ | ⟨own, claims', listed, -⟩
      · rw [claimed] at unclaimed
        cases unclaimed
      · rw [claimed] at claims'
        cases claims'
        exact listed
    · rw [kept other member] at claimed
      exact account.waits other member request claimed
  single first firstOpen second secondOpen request claimed same := by
    have other {held : Key} (member : held ∈ opens) (own : changed key = some request)
        (taken : changed held = some request) : False := by
      rw [kept held member] at taken
      rcases admitted with ⟨unclaimed, -⟩ | ⟨asked, claims', -, distinct⟩
      · rw [own] at unclaimed
        cases unclaimed
      · rw [own] at claims'
        cases claims'
        exact distinct held member taken
    rcases Finset.mem_insert.mp firstOpen with own | firstOpen
    · rw [own] at claimed ⊢
      rcases Finset.mem_insert.mp secondOpen with both | secondOpen
      · exact both.symm
      · exact (other secondOpen claimed same).elim
    · rcases Finset.mem_insert.mp secondOpen with own | secondOpen
      · rw [own] at same
        exact (other firstOpen same claimed).elim
      · rw [kept first firstOpen] at claimed
        rw [kept second secondOpen] at same
        exact account.single first firstOpen second secondOpen request claimed same

end Account

end Omairc.Semantics

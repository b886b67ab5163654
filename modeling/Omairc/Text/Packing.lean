import Mathlib.Data.List.Basic

/-!
# Packing a list into batches

The items of a list go into the current batch as long as it still fits with them, and
begin the next batch when it does not. No item is lost, and every batch fits when each
item fits alone.
-/

namespace Omairc.Text

variable {α : Type} {Fits Within : List α → Bool}

/-- The batches of a list of items, after some that share the first batch. -/
def packed (Fits : List α → Bool) (batch : List α) : List α → List (List α)
  | [] => [batch]
  | item :: rest =>
      if Fits (batch ++ [item]) then packed Fits (batch ++ [item]) rest
      else batch :: packed Fits [item] rest

/-- Every item stands in the batches, in order. -/
theorem packed_flatten (Fits : List α → Bool) (batch items : List α) :
    (packed Fits batch items).flatten = batch ++ items := by
  induction items generalizing batch with
  | nil => simp [packed]
  | cons item rest inductionHypothesis =>
      rw [packed]
      split
      · rw [inductionHypothesis, List.append_assoc, List.singleton_append]
      · rw [List.flatten_cons, inductionHypothesis, List.singleton_append]

/-- The first batch starts with the items that share it. -/
theorem packed_head (Fits : List α → Bool) (batch items : List α) :
    ∃ more rest, packed Fits batch items = (batch ++ more) :: rest := by
  induction items generalizing batch with
  | nil => exact ⟨[], [], by rw [packed, List.append_nil]⟩
  | cons item rest inductionHypothesis =>
      rw [packed]
      split
      · obtain ⟨more, later, first⟩ := inductionHypothesis (batch ++ [item])
        exact ⟨item :: more, later, by rw [first, List.append_assoc, List.singleton_append]⟩
      · exact ⟨[], _, by rw [List.append_nil]⟩

/-- Every batch fits, when each item fits alone and the first batch does so far. -/
theorem packed_fits {batch items : List α} (fits : Fits batch = true)
    (alone : ∀ item ∈ items, Fits [item] = true) :
    ∀ packet ∈ packed Fits batch items, Fits packet = true := by
  induction items generalizing batch with
  | nil =>
      intro packet present
      rw [packed, List.mem_singleton] at present
      exact present ▸ fits
  | cons item rest inductionHypothesis =>
      have later (other : α) (present : other ∈ rest) : Fits [other] = true :=
        alone other (List.mem_cons_of_mem _ present)
      rw [packed]
      split
      · rename_i grown
        exact inductionHypothesis grown later
      · intro packet present
        rcases List.mem_cons.mp present with rfl | present
        · exact fits
        · exact inductionHypothesis (alone item List.mem_cons_self) later packet present

/-- No batch is empty, when each item fits alone and the first batch holds an item or is about
to. -/
theorem packed_ne_nil {batch items : List α} (alone : ∀ item ∈ items, Fits [item] = true)
    (some : batch ≠ [] ∨ items ≠ []) : ∀ packet ∈ packed Fits batch items, packet ≠ [] := by
  induction items generalizing batch with
  | nil =>
      intro packet present
      rw [packed, List.mem_singleton] at present
      exact present ▸ some.resolve_right (not_not_intro rfl)
  | cons item rest inductionHypothesis =>
      have later (other : α) (present : other ∈ rest) : Fits [other] = true :=
        alone other (List.mem_cons_of_mem _ present)
      rw [packed]
      split
      · exact inductionHypothesis later (.inl (by simp))
      · rename_i full
        have held : batch ≠ [] := by
          rintro rfl
          exact full (alone item List.mem_cons_self)
        intro packet present
        rcases List.mem_cons.mp present with rfl | present
        · exact held
        · exact inductionHypothesis later (.inl (by simp)) packet present

/-- The batches of a limit meet a smaller one exactly when packing to the smaller limit cuts the
list at the same places. -/
theorem packed_eq_iff {batch items : List α} (smaller : ∀ packet, Within packet = true → Fits packet = true)
    (shorter : ∀ packet more, Within (packet ++ more) = true → Within packet = true)
    (fits : Within batch = true) (alone : ∀ item ∈ items, Within [item] = true) :
    packed Within batch items = packed Fits batch items ↔
      ∀ packet ∈ packed Fits batch items, Within packet = true := by
  constructor
  · intro same packet present
    exact packed_fits fits alone packet (same ▸ present)
  · intro within
    induction items generalizing batch with
    | nil => rfl
    | cons item rest inductionHypothesis =>
        have later (other : α) (present : other ∈ rest) : Within [other] = true :=
          alone other (List.mem_cons_of_mem _ present)
        rw [packed] at within
        rw [packed, packed]
        by_cases grown : Fits (batch ++ [item]) = true
        · -- The first batch starts with what it holds now, so that fits the smaller limit too.
          rw [if_pos grown] at within
          obtain ⟨more, others, first⟩ := packed_head Fits (batch ++ [item]) rest
          have inside : Within (batch ++ [item]) = true :=
            shorter _ more (within _ (first ▸ List.mem_cons_self))
          rw [if_pos grown, if_pos inside]
          exact inductionHypothesis inside later within
        · rw [if_neg grown] at within
          rw [if_neg grown, if_neg (mt (smaller _) grown)]
          rw [inductionHypothesis (alone item List.mem_cons_self) later fun packet present =>
            within packet (List.mem_cons_of_mem _ present)]

end Omairc.Text

import Mathlib.Order.Defs.LinearOrder
import Omairc.Controller.ChannelList

/-!
# The rows of a channel list

A request holds every channel once, under the newest row the server sent for it. What is
shown is a permutation of that in the order of the overlay.
-/

namespace Omairc.ChannelList

open Omairc.Irc Omairc.Text

/-- The element a search finds, with what stands around it, and what takes its place. -/
theorem set_first {Element : Type} {elements : List Element} {check : Element → Bool}
    {index : Nat} (found : elements.findIdx? check = some index) :
    ∃ (top : List Element) (old : Element) (bottom : List Element),
      elements = top ++ old :: bottom ∧ elements.find? check = some old ∧ check old = true ∧
      (∀ element ∈ top, check element = false) ∧
      ∀ element, elements.set index element = top ++ element :: bottom := by
  induction elements generalizing index with
  | nil => cases found
  | cons first rest inductionHypothesis =>
      rw [List.findIdx?_cons] at found
      by_cases checked : check first = true
      · rw [if_pos checked] at found
        cases found
        exact ⟨[], first, rest, rfl, List.find?_cons_of_pos checked, checked, nofun, fun _ => rfl⟩
      · rw [if_neg checked] at found
        obtain ⟨inner, within, rfl⟩ := Option.map_eq_some_iff.mp found
        obtain ⟨top, old, bottom, split, first_, holds, above, replaced⟩ :=
          inductionHypothesis within
        refine ⟨first :: top, old, bottom, congrArg (first :: ·) split, ?_, holds, ?_, ?_⟩
        · rw [List.find?_cons_of_neg checked]
          exact first_
        · intro element listed
          rcases List.mem_cons.mp listed with rfl | later
          · exact Bool.eq_false_iff.mpr checked
          · exact above element later
        · intro element
          rw [List.set_cons_succ, replaced]
          rfl

section Rows

variable [Platform] {left middle right : ListedChannel} {rows : List ListedChannel}

theorem sameChannel_iff : sameChannel left right = true ↔
    Platform.toLowercase left.name = Platform.toLowercase right.name := beq_iff_eq

theorem sameChannel_comm : sameChannel left right = sameChannel right left := by
  apply Bool.eq_iff_iff.mpr
  rw [sameChannel_iff, sameChannel_iff]
  exact eq_comm

/-- What is not the channel of one row is not the channel of a row that is. -/
theorem sameChannel_apart (apart : sameChannel left middle = false)
    (same : sameChannel middle right = true) : sameChannel left right = false := by
  rw [Bool.eq_false_iff] at apart ⊢
  intro alike
  apply apart
  rw [sameChannel_iff] at same alike ⊢
  exact alike.trans same.symm

/-- Every channel stands once. -/
def Distinct (rows : List ListedChannel) : Prop :=
  rows.Pairwise fun left right => sameChannel left right = false

theorem Distinct.perm {others : List ListedChannel} (distinct : Distinct rows)
    (same : rows.Perm others) : Distinct others :=
  (List.Perm.pairwise_iff (fun apart => sameChannel_comm.trans apart) same).mp distinct

/-- A row in the place of its channel keeps every channel once. -/
theorem Distinct.replace {top bottom : List ListedChannel} {old row : ListedChannel}
    (distinct : Distinct (top ++ old :: bottom)) (same : sameChannel old row = true) :
    Distinct (top ++ row :: bottom) := by
  obtain ⟨above, below, across⟩ := List.pairwise_append.mp distinct
  obtain ⟨under, rest⟩ := List.pairwise_cons.mp below
  refine List.pairwise_append.mpr ⟨above, List.pairwise_cons.mpr ⟨?_, rest⟩, ?_⟩
  · intro other listed
    rw [sameChannel_comm]
    exact sameChannel_apart (sameChannel_comm.trans (under other listed)) same
  · intro first high other low
    rcases List.mem_cons.mp low with rfl | later
    · exact sameChannel_apart (across first high old (List.mem_cons_self ..)) same
    · exact across first high other (List.mem_cons_of_mem _ later)

/-- Storing a row adds it at the end, drops it at the cap, or puts it in the place of the row
of its channel. -/
theorem storeRow_cases (rows : List ListedChannel) (row : ListedChannel) :
    ((∀ existing ∈ rows, sameChannel existing row = false) ∧
      storeRow rows row = (if rows.length < channelListMaxRows then rows ++ [row] else rows, false)) ∨
    ∃ (top : List ListedChannel) (old : ListedChannel) (bottom : List ListedChannel),
      rows = top ++ old :: bottom ∧ rows.find? (sameChannel · row) = some old ∧
      sameChannel old row = true ∧ storeRow rows row = (top ++ row :: bottom, true) := by
  unfold storeRow
  cases found : rows.findIdx? fun existing => sameChannel existing row with
  | none => exact .inl ⟨List.findIdx?_eq_none_iff.mp found, rfl⟩
  | some index =>
      obtain ⟨top, old, bottom, split, first, same, _, replaced⟩ := set_first found
      exact .inr ⟨top, old, bottom, split, first, same, congrArg (·, true) (replaced row)⟩

theorem storeRow_distinct (distinct : Distinct rows) (row : ListedChannel) :
    Distinct (storeRow rows row).1 := by
  rcases storeRow_cases rows row with ⟨fresh, stored⟩ | ⟨top, old, bottom, rfl, _, same, stored⟩
  · rw [stored]
    dsimp only
    split
    · refine List.pairwise_append.mpr ⟨distinct, List.pairwise_singleton .., ?_⟩
      intro first listed other last
      rw [List.mem_singleton.mp last]
      exact fresh first listed
    · exact distinct
  · rw [stored]
    exact distinct.replace same

theorem storeRow_length (bounded : rows.length ≤ channelListMaxRows) (row : ListedChannel) :
    (storeRow rows row).1.length ≤ channelListMaxRows := by
  rcases storeRow_cases rows row with ⟨_, stored⟩ | ⟨top, old, bottom, rfl, _, _, stored⟩
  · rw [stored]
    dsimp only
    split
    · rw [List.length_append, List.length_singleton]
      omega
    · exact bounded
  · rw [stored]
    simp only [List.length_append, List.length_cons] at bounded ⊢
    exact bounded

/-- A stored row is the only one of its channel. -/
theorem storeRow_newest (distinct : Distinct rows) {row other : ListedChannel}
    (listed : other ∈ (storeRow rows row).1) (same : sameChannel other row = true) :
    other = row := by
  rcases storeRow_cases rows row with ⟨fresh, stored⟩ | ⟨top, old, bottom, rfl, _, named, stored⟩
  · rw [stored] at listed
    dsimp only at listed
    split at listed
    · rcases List.mem_append.mp listed with before | last
      · exact absurd same (Bool.eq_false_iff.mp (fresh other before))
      · exact List.mem_singleton.mp last
    · exact absurd same (Bool.eq_false_iff.mp (fresh other listed))
  · rw [stored] at listed
    obtain ⟨_, below, across⟩ := List.pairwise_append.mp (distinct.replace named)
    rcases List.mem_append.mp listed with high | low
    · exact absurd same (Bool.eq_false_iff.mp (across other high row (List.mem_cons_self ..)))
    · rcases List.mem_cons.mp low with rfl | later
      · rfl
      · have apart := (List.pairwise_cons.mp below).1 other later
        rw [sameChannel_comm] at apart
        exact absurd same (Bool.eq_false_iff.mp apart)

/-- The rows of an answer, each channel once under its newest row. -/
def collect (answer : List ListedChannel) : List ListedChannel :=
  answer.foldl (fun rows row => if row.name = "" then rows else (storeRow rows row).1) []

theorem collect_append (answer : List ListedChannel) (row : ListedChannel) :
    collect (answer ++ [row]) =
      if row.name = "" then collect answer else (storeRow (collect answer) row).1 := by
  rw [collect, List.foldl_append]
  rfl

/-- An answer that names every channel once, in rows under the cap. -/
structure Answered (answer : List ListedChannel) : Prop where
  distinct : Distinct answer
  named : ∀ row ∈ answer, row.name ≠ ""
  bounded : answer.length ≤ channelListMaxRows

/-- The rows of such an answer are stored as they came. -/
theorem Answered.collect {answer : List ListedChannel} (answered : Answered answer) :
    ChannelList.collect answer = answer := by
  obtain ⟨distinct, named, bounded⟩ := answered
  induction answer using List.reverseRecOn with
  | nil => rfl
  | append_singleton before row inductionHypothesis =>
      obtain ⟨apart, _, across⟩ := List.pairwise_append.mp distinct
      rw [List.length_append, List.length_singleton] at bounded
      have kept := inductionHypothesis apart
        (fun other listed => named other (List.mem_append_left _ listed)) (by omega)
      rw [collect_append, if_neg (named row (List.mem_append_right _ (List.mem_singleton_self row))),
        kept]
      rcases storeRow_cases before row with ⟨_, stored⟩ | ⟨top, old, bottom, rfl, _, same, _⟩
      · rw [stored]
        exact if_pos (by omega)
      · have there : old ∈ top ++ old :: bottom :=
          List.mem_append_right _ (List.mem_cons_self ..)
        exact absurd same (Bool.eq_false_iff.mp (across old there row (List.mem_singleton_self row)))

end Rows

section Order

variable [Platform] {rows others : List ListedChannel}

instance : Std.TransCmp channelOrder := by
  have users : Std.TransCmp fun left right : ListedChannel => compare right.users left.users :=
    inferInstanceAs
      (Std.TransCmp fun left right : ListedChannel => compareOn ListedChannel.users right left)
  have names : Std.TransCmp fun left right : ListedChannel =>
      compare (Platform.toLowercase left.name) (Platform.toLowercase right.name) :=
    inferInstanceAs
      (Std.TransCmp (compareOn fun row : ListedChannel => Platform.toLowercase row.name))
  exact inferInstanceAs (Std.TransCmp (compareLex
    (fun left right : ListedChannel => compare right.users left.users)
    (fun left right : ListedChannel =>
      compare (Platform.toLowercase left.name) (Platform.toLowercase right.name))))

theorem channelOrder_swap (left right : ListedChannel) :
    channelOrder right left = (channelOrder left right).swap := Std.OrientedCmp.eq_swap

/-- The rows stand in the order of the overlay. -/
def InOrder (rows : List ListedChannel) : Prop :=
  rows.Pairwise fun left right => (channelOrder left right).isLE = true

theorem sortRows_inOrder (rows : List ListedChannel) : InOrder (sortRows rows) := by
  have total : Std.Total fun left right : ListedChannel =>
      (channelOrder left right).isLE = true := by
    refine ⟨fun left right => ?_⟩
    rw [channelOrder_swap left right]
    cases channelOrder left right
    · exact .inl rfl
    · exact .inl rfl
    · exact .inr rfl
  have transitive : IsTrans ListedChannel fun left right =>
      (channelOrder left right).isLE = true :=
    ⟨fun _ _ _ first second => Std.TransCmp.isLE_trans first second⟩
  exact List.pairwise_insertionSort _ rows

theorem sortRows_perm (rows : List ListedChannel) : (sortRows rows).Perm rows :=
  List.perm_insertionSort ..

/-- A row that compares with every other one as the row in its place did keeps the order. -/
theorem InOrder.replace {top bottom : List ListedChannel} {old row : ListedChannel}
    (ordered : InOrder (top ++ old :: bottom))
    (alike : ∀ other ∈ top ++ bottom, channelOrder other old = channelOrder other row) :
    InOrder (top ++ row :: bottom) := by
  obtain ⟨above, below, across⟩ := List.pairwise_append.mp ordered
  obtain ⟨under, rest⟩ := List.pairwise_cons.mp below
  refine List.pairwise_append.mpr ⟨above, List.pairwise_cons.mpr ⟨?_, rest⟩, ?_⟩
  · intro other listed
    have lower := under other listed
    rw [channelOrder_swap other] at lower ⊢
    rw [← alike other (List.mem_append_right _ listed)]
    exact lower
  · intro first high other low
    rcases List.mem_cons.mp low with rfl | later
    · rw [← alike first (List.mem_append_left _ high)]
      exact across first high old (List.mem_cons_self ..)
    · exact across first high other (List.mem_cons_of_mem _ later)

end Order

end Omairc.ChannelList

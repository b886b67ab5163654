import Mathlib.Data.List.DropRight
import Mathlib.Data.List.TakeWhile

/-!
# Reading lines from the end

A reader that wants the last lines of a file reads it backward in chunks, and keeps the
bytes in front of the first separator it saw until the chunk before them is read. What it
gathers is what splitting the whole file gives: the last of the lines that are accepted.
-/

namespace Omairc.Text

universe u v

variable {α : Type u} [DecidableEq α] {β : Type v}

/-- Keep a line if it is accepted, and tell whether that was the last one wanted. -/
def takeLine (accept : List α → Option β) (limit : Nat) (raw : List α) (lines : List β) :
    List β × Bool :=
  match accept raw with
  | none => (lines, false)
  | some line => (lines ++ [line], lines.length + 1 = limit)

/-- The part in front of the last separator. -/
def beforeLast (separator : α) (pending : List α) : List α :=
  (pending.rdropWhile (· ≠ separator)).dropLast

/-- The part behind the last separator. -/
def afterLast (separator : α) (pending : List α) : List α := pending.rtakeWhile (· ≠ separator)

/-- The last separator cuts a list. -/
theorem beforeLast_append {separator : α} {pending : List α} (present : separator ∈ pending) :
    pending = beforeLast separator pending ++ separator :: afterLast separator pending ∧
      separator ∉ afterLast separator pending := by
  induction pending using List.reverseRecOn with
  | nil => cases present
  | append_singleton front last inductionHypothesis =>
      unfold beforeLast afterLast
      by_cases here : last = separator
      · rw [List.rdropWhile_concat_neg _ _ _ (by simp [here]),
          List.rtakeWhile_concat_neg _ _ _ (by simp [here]), List.dropLast_concat, here]
        exact ⟨rfl, List.not_mem_nil⟩
      · have earlier : separator ∈ front := by
          rcases List.mem_append.mp present with earlier | last
          · exact earlier
          · exact absurd (List.mem_singleton.mp last).symm here
        obtain ⟨shape, absent⟩ := inductionHypothesis earlier
        rw [List.rdropWhile_concat_pos _ _ _ (by simp [here]),
          List.rtakeWhile_concat_pos _ _ _ (by simp [here])]
        refine ⟨?_, ?_⟩
        · conv_lhs => rw [shape]
          rw [List.append_assoc, List.cons_append]
          rfl
        · rw [List.mem_append, List.mem_singleton]
          rintro (inside | last)
          · exact absent inside
          · exact here last.symm

/-- Take the lines of what is pending, from the last one on, until enough are kept. -/
def takePending (accept : List α → Option β) (separator : α) (limit : Nat) (pending : List α)
    (lines : List β) : List α × List β :=
  if _present : separator ∈ pending then
    match takeLine accept limit (afterLast separator pending) lines with
    | (lines, true) => (beforeLast separator pending, lines)
    | (lines, false) =>
        takePending accept separator limit (beforeLast separator pending) lines
  else (pending, lines)
termination_by pending.length
decreasing_by
  have size := congrArg List.length (beforeLast_append _present).1
  rw [List.length_append, List.length_cons] at size
  omega

/-- Read chunks from the end until enough lines are kept. What is left is a position, what is
pending behind it, and the lines, the last one first. -/
def readChunks (accept : List α → Option β) (separator : α) (chunkSize limit : Nat)
    (content : List α) (position : Nat) (pending : List α) (lines : List β) :
    Nat × List α × List β :=
  if chunkSize = 0 then (position, pending, lines)
  else if 0 < position ∧ lines.length < limit then
    let chunk := (content.take position).drop (position - min position chunkSize)
    let (pending, lines) := takePending accept separator limit (chunk ++ pending) lines
    readChunks accept separator chunkSize limit content (position - min position chunkSize)
      pending lines
  else (position, pending, lines)
termination_by position
decreasing_by omega

/-- The last lines that are accepted, in order. -/
def readTail (accept : List α → Option β) (separator : α) (chunkSize limit : Nat)
    (content : List α) : List β :=
  let (position, pending, lines) :=
    readChunks accept separator chunkSize limit content content.length [] []
  (if position = 0 ∧ lines.length < limit then (takeLine accept limit pending lines).1
    else lines).reverse

section Invariant

variable {accept : List α → Option β} {separator : α} {chunkSize limit : Nat}

/-- What was read of a file: the part in front is still to be read, and the lines are those
accepted behind it, as long as there are not enough. -/
structure Gathered (accept : List α → Option β) (separator : α) (limit : Nat) (content : List α)
    (front : List α) (lines : List β) : Prop where
  pieces : ∃ behind, content.splitOn separator = front.splitOn separator ++ behind ∧
    lines.reverse = behind.filterMap accept
  within : lines.length ≤ limit

/-- One more line behind what is still to be read. -/
theorem Gathered.takeLine {content front raw : List α} {lines : List β}
    (gathered : Gathered accept separator limit content (front ++ separator :: raw) lines)
    (absent : separator ∉ raw) (room : lines.length < limit) :
    Gathered accept separator limit content front (Text.takeLine accept limit raw lines).1 ∧
      ((Text.takeLine accept limit raw lines).2 = true ↔
        (Text.takeLine accept limit raw lines).1.length = limit) := by
  obtain ⟨behind, pieces, kept⟩ := gathered.pieces
  rw [List.splitOn_append_cons_self, List.splitOn_eq_singleton absent, List.append_assoc,
    List.singleton_append] at pieces
  unfold Text.takeLine
  cases taken : accept raw with
  | none =>
      refine ⟨⟨⟨raw :: behind, pieces, ?_⟩, gathered.within⟩, ?_⟩
      · rw [List.filterMap_cons_none taken]
        exact kept
      · exact ⟨nofun, fun full => absurd full room.ne⟩
  | some line =>
      refine ⟨⟨⟨raw :: behind, pieces, ?_⟩, ?_⟩, ?_⟩
      · rw [List.filterMap_cons_some taken, List.reverse_append, kept]
        rfl
      · rw [List.length_append]
        exact room
      · simp

/-- The lines of what is pending. -/
theorem Gathered.takePending {content front pending : List α} {lines : List β}
    (gathered : Gathered accept separator limit content (front ++ pending) lines)
    (room : lines.length < limit) :
    Gathered accept separator limit content
        (front ++ (Text.takePending accept separator limit pending lines).1)
        (Text.takePending accept separator limit pending lines).2 ∧
      ((Text.takePending accept separator limit pending lines).2.length < limit →
        separator ∉ (Text.takePending accept separator limit pending lines).1) := by
  fun_induction Text.takePending accept separator limit pending lines with
  | case1 pending lines present kept taken =>
      obtain ⟨shape, absent⟩ := beforeLast_append present
      rw [shape, ← List.append_assoc] at gathered
      obtain ⟨next, full⟩ := gathered.takeLine absent room
      rw [taken] at next full
      exact ⟨next, fun short => absurd (full.mp rfl) short.ne⟩
  | case2 pending lines present kept taken inductionHypothesis =>
      obtain ⟨shape, absent⟩ := beforeLast_append present
      rw [shape, ← List.append_assoc] at gathered
      obtain ⟨next, full⟩ := gathered.takeLine absent room
      rw [taken] at next full
      exact inductionHypothesis next
        (lt_of_le_of_ne next.within fun reached => Bool.false_ne_true (full.mpr reached))
  | case3 pending lines absent => exact ⟨gathered, fun _ => absent⟩

/-- The chunks in front of what is pending. -/
theorem Gathered.readChunks (positive : chunkSize ≠ 0) {content pending : List α} {position : Nat}
    {lines : List β}
    (gathered : Gathered accept separator limit content (content.take position ++ pending) lines)
    (clean : lines.length < limit → separator ∉ pending) :
    let ended := Text.readChunks accept separator chunkSize limit content position pending lines
    Gathered accept separator limit content (content.take ended.1 ++ ended.2.1) ended.2.2 ∧
      (ended.2.2.length < limit → ended.1 = 0 ∧ separator ∉ ended.2.1) := by
  fun_induction Text.readChunks accept separator chunkSize limit content position pending lines with
  | case1 position pending lines zero => exact absurd zero positive
  | case2 position pending lines _ more chunk pending' lines' taken inductionHypothesis =>
      have cut : content.take position =
          content.take (position - min position chunkSize) ++ chunk := by
        have shorter : content.take (position - min position chunkSize) =
            (content.take position).take (position - min position chunkSize) := by
          rw [List.take_take, min_eq_left (Nat.sub_le _ _)]
        rw [shorter, List.take_append_drop]
      rw [cut, List.append_assoc] at gathered
      obtain ⟨next, absent⟩ := gathered.takePending more.2
      rw [taken] at next absent
      exact inductionHypothesis next absent
  | case3 position pending lines _ done =>
      refine ⟨gathered, fun short => ⟨?_, clean short⟩⟩
      by_contra ahead
      exact done ⟨Nat.pos_of_ne_zero ahead, short⟩

/-- Reading from the end gives the last lines that splitting the whole file and accepting gives. -/
theorem readTail_eq (positive : chunkSize ≠ 0) (accept : List α → Option β) (separator : α)
    (limit : Nat) (content : List α) :
    readTail accept separator chunkSize limit content =
      ((content.splitOn separator).filterMap accept).rtake limit := by
  have start : Gathered accept separator limit content (content.take content.length ++ []) [] :=
    ⟨⟨[], by rw [List.take_length, List.append_nil, List.append_nil], rfl⟩, Nat.zero_le _⟩
  obtain ⟨gathered, finished⟩ := start.readChunks positive fun _ => List.not_mem_nil
  unfold readTail
  generalize Text.readChunks accept separator chunkSize limit content content.length [] [] = ended
    at gathered finished
  obtain ⟨position, pending, lines⟩ := ended
  dsimp only at gathered finished ⊢
  obtain ⟨behind, pieces, kept⟩ := gathered.pieces
  by_cases short : lines.length < limit
  · obtain ⟨rfl, absent⟩ := finished short
    rw [if_pos ⟨rfl, short⟩, pieces, List.take_zero, List.nil_append,
      List.splitOn_eq_singleton absent, List.singleton_append]
    have size := congrArg List.length kept
    rw [List.length_reverse] at size
    unfold takeLine
    cases taken : accept pending with
    | none =>
        rw [List.filterMap_cons_none taken, List.rtake, ← size, Nat.sub_eq_zero_of_le short.le]
        exact kept
    | some line =>
        rw [List.filterMap_cons_some taken, List.rtake, List.length_cons, ← size,
          Nat.sub_eq_zero_of_le short, List.drop_zero, ← kept]
        exact List.reverse_append
  · have full : lines.length = limit := le_antisymm gathered.within (Nat.le_of_not_lt short)
    rw [if_neg fun more => short more.2, pieces, List.filterMap_append, ← kept, List.rtake,
      List.length_append, List.length_reverse, full, Nat.add_sub_cancel, List.drop_left]

end Invariant

end Omairc.Text

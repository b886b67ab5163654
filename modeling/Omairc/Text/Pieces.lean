import Omairc.Text.Tiling

/-!
# Pieces found in a text

A scan goes through a text from left to right, skips what it passes by and reports the pieces that
it finds with their ranges of byte offsets. Such ranges are between characters, not empty and one
behind the other.
-/

namespace Omairc.Text

/-- How many bytes characters take. -/
def byteSize (chars : List Char) : Nat := (encode chars).length

@[simp] theorem byteSize_nil : byteSize [] = 0 := rfl

@[simp] theorem byteSize_append (front back : List Char) :
    byteSize (front ++ back) = byteSize front + byteSize back := by
  rw [byteSize, encode_append, List.length_append]
  rfl

/-- Characters take bytes. -/
theorem byteSize_pos {chars : List Char} (full : chars ≠ []) : 0 < byteSize chars := by
  obtain ⟨char, rest, rfl⟩ := List.exists_cons_of_ne_nil full
  obtain ⟨lead, more, bytes, _⟩ := utf8EncodeChar_cases char
  rw [byteSize, encode_cons, bytes]
  simp

/-- Two cuts of one text: the text between them is what the later cut has in front and the earlier
one behind. -/
theorem exists_between {front back later rest : List Char} (same : front ++ back = later ++ rest)
    (before : byteSize front ≤ byteSize later) :
    ∃ between, later = front ++ between ∧ back = between ++ rest := by
  rcases List.append_eq_append_iff.mp same with ⟨between, ahead, behind⟩ | ⟨more, ahead, behind⟩
  · exact ⟨between, ahead, behind⟩
  · have empty : more = [] := by
      by_contra full
      have positive := byteSize_pos full
      rw [ahead, byteSize_append] at before
      omega
    subst empty
    rw [List.append_nil] at ahead
    rw [List.nil_append] at behind
    exact ⟨[], by rw [List.append_nil, ahead], behind.symm⟩

/-- The characters from a byte offset on. -/
def dropBytes : Nat → List Char → List Char
  | _, [] => []
  | offset, char :: rest => if offset = 0 then char :: rest
      else dropBytes (offset - byteSize [char]) rest

/-- The characters up to a byte offset. -/
def takeBytes : Nat → List Char → List Char
  | _, [] => []
  | offset, char :: rest => if offset = 0 then []
      else char :: takeBytes (offset - byteSize [char]) rest

/-- The characters in a range of byte offsets. -/
def Span.text (chars : List Char) (span : Span) : List Char :=
  takeBytes (span.stop - span.start) (dropBytes span.start chars)

theorem dropBytes_append (front back : List Char) :
    dropBytes (byteSize front) (front ++ back) = back := by
  induction front with
  | nil => cases back <;> simp [dropBytes]
  | cons char front inductionHypothesis =>
      have positive := byteSize_pos (List.cons_ne_nil char front)
      rw [List.cons_append, dropBytes, if_neg (by omega), ← List.singleton_append, byteSize_append,
        Nat.add_sub_cancel_left]
      exact inductionHypothesis

theorem takeBytes_append (front back : List Char) :
    takeBytes (byteSize front) (front ++ back) = front := by
  induction front with
  | nil => cases back <;> simp [takeBytes]
  | cons char front inductionHypothesis =>
      have positive := byteSize_pos (List.cons_ne_nil char front)
      rw [List.cons_append, takeBytes, if_neg (by omega), ← List.singleton_append (l := front),
        byteSize_append, Nat.add_sub_cancel_left, inductionHypothesis]
      rfl

/-- The range of a piece that stands behind some text. -/
def Span.of (front piece : List Char) : Span :=
  ⟨byteSize front, byteSize front + byteSize piece⟩

/-- A piece is read at its range. -/
theorem Span.text_of (front piece back : List Char) :
    (Span.of front piece).text (front ++ (piece ++ back)) = piece := by
  rw [Span.text, Span.of, Nat.add_sub_cancel_left, dropBytes_append, takeBytes_append]

/-- What a scan finds from an offset on. Each piece has a property, which may depend on what follows
it. -/
inductive Finds (isPiece : List Char → List Char → Prop) :
    Nat → List Char → List (Span × List Char) → Prop
  | nil (offset : Nat) (rest : List Char) : Finds isPiece offset rest []
  | skip {offset : Nat} {finds : List (Span × List Char)} (front rest : List Char)
      (behind : Finds isPiece (offset + byteSize front) rest finds) :
      Finds isPiece offset (front ++ rest) finds
  | piece {offset : Nat} {finds : List (Span × List Char)} (piece rest : List Char)
      (full : piece ≠ []) (holds : isPiece piece rest)
      (behind : Finds isPiece (offset + byteSize piece) rest finds) :
      Finds isPiece offset (piece ++ rest) ((⟨offset, offset + byteSize piece⟩, piece) :: finds)

namespace Finds

variable {isPiece : List Char → List Char → Prop} {offset : Nat} {rest : List Char}
  {finds : List (Span × List Char)}

/-- A piece is the front of what the scan takes. -/
theorem front {offset : Nat} (taken rest : List Char)
    (behind : Finds isPiece (offset + byteSize taken) rest finds) {trimmed : List Char}
    (begins : trimmed <+: taken) (full : trimmed ≠ [])
    (holds : ∀ off, taken = trimmed ++ off → isPiece trimmed (off ++ rest)) :
    Finds isPiece offset (taken ++ rest)
      ((⟨offset, offset + byteSize trimmed⟩, trimmed) :: finds) := by
  obtain ⟨off, rfl⟩ := begins
  rw [byteSize_append, ← Nat.add_assoc] at behind
  rw [List.append_assoc]
  exact .piece trimmed (off ++ rest) full (holds off rfl) (.skip off rest behind)

/-- Where a piece stands. -/
theorem placed (found : Finds isPiece offset rest finds) {find : Span × List Char}
    (listed : find ∈ finds) :
    ∃ front back, rest = front ++ (find.2 ++ back) ∧ find.2 ≠ [] ∧ isPiece find.2 back ∧
      find.1 = ⟨offset + byteSize front, offset + byteSize front + byteSize find.2⟩ := by
  induction found with
  | nil => cases listed
  | skip skipped rest _ inductionHypothesis =>
      obtain ⟨front, back, rfl, full, holds, range⟩ := inductionHypothesis listed
      refine ⟨skipped ++ front, back, (List.append_assoc _ _ _).symm, full, holds, ?_⟩
      rw [range, byteSize_append, ← Nat.add_assoc]
  | piece piece rest full holds _ inductionHypothesis =>
      rcases List.mem_cons.mp listed with rfl | listed
      · exact ⟨[], rest, rfl, full, holds, rfl⟩
      · obtain ⟨front, back, rfl, full, holds, range⟩ := inductionHypothesis listed
        refine ⟨piece ++ front, back, (List.append_assoc _ _ _).symm, full, holds, ?_⟩
        rw [range, byteSize_append, ← Nat.add_assoc]

/-- The pieces stand one behind the other. -/
theorem apart (found : Finds isPiece offset rest finds) :
    finds.Pairwise fun first second => first.1.stop ≤ second.1.start := by
  induction found with
  | nil => exact List.Pairwise.nil
  | skip _ _ _ inductionHypothesis => exact inductionHypothesis
  | piece piece rest _ _ behind inductionHypothesis =>
      refine List.pairwise_cons.mpr ⟨?_, inductionHypothesis⟩
      intro later listed
      obtain ⟨front, _, _, _, _, range⟩ := behind.placed listed
      rw [range]
      exact Nat.le_add_right _ _

/-- Where a piece of a whole text stands. -/
theorem placed_of {text : List Char} (found : Finds isPiece 0 text finds)
    {find : Span × List Char} (listed : find ∈ finds) :
    ∃ front back, text = front ++ (find.2 ++ back) ∧ find.2 ≠ [] ∧ isPiece find.2 back ∧
      find.1 = Span.of front find.2 := by
  obtain ⟨front, back, shape, full, holds, range⟩ := found.placed listed
  refine ⟨front, back, shape, full, holds, ?_⟩
  rw [range, Nat.zero_add, Span.of]

end Finds

/-! ## Trimmed ends -/

/-- A reversed text without the characters at its end that are dropped one at a time, as long as
`drops` says so of the last character and the text up to it. -/
def trimBack (drops : Char → List Char → Bool) : List Char → List Char
  | [] => []
  | last :: before =>
      if drops last (last :: before) then trimBack drops before else last :: before

/-- A text without the characters at its end that are dropped. -/
def trimEnd (drops : Char → List Char → Bool) (raw : List Char) : List Char :=
  (trimBack drops raw.reverse).reverse

/-- A trimmed text begins the text. -/
theorem trimEnd_prefix (drops : Char → List Char → Bool) (raw : List Char) :
    trimEnd drops raw <+: raw := by
  have suffix : ∀ back : List Char, trimBack drops back <:+ back := by
    intro back
    induction back with
    | nil => exact List.suffix_refl []
    | cons last before inductionHypothesis =>
        rw [trimBack]
        split
        · exact inductionHypothesis.trans (List.suffix_cons last before)
        · exact List.suffix_refl _
  rw [← List.reverse_suffix, trimEnd, List.reverse_reverse]
  exact suffix raw.reverse

/-- A text with a kept last character is trimmed at no end. -/
theorem trimEnd_of_kept {drops : Char → List Char → Bool} (front : List Char) {last : Char}
    (kept : ∀ upTo, drops last upTo = false) : trimEnd drops (front ++ [last]) = front ++ [last] := by
  rw [trimEnd, List.reverse_append, List.reverse_singleton, List.singleton_append, trimBack,
    if_neg (by rw [kept]; decide), List.reverse_cons, List.reverse_reverse]

end Omairc.Text

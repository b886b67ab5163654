import Omairc.Irc.CommandBuilder
import Omairc.Text.Utf8

/-!
# Splitting a body

What a body split promises: the chunks are texts, each fits its frame, and joined again
they are the body. A body that cannot be split has no such chunks at all.
-/

namespace Omairc.Irc

open Omairc.Text

/-- The chunks of a body: between two of them stands nothing, or one space. -/
inductive Rejoins : List Bytes → Bytes → Prop where
  | last (chunk : Bytes) : Rejoins [chunk] chunk
  | soft {chunk : Bytes} {chunks : List Bytes} {rest : Bytes} (rejoins : Rejoins chunks rest) :
      Rejoins (chunk :: chunks) (chunk ++ 32 :: rest)
  | hard {chunk : Bytes} {chunks : List Bytes} {rest : Bytes} (rejoins : Rejoins chunks rest) :
      Rejoins (chunk :: chunks) (chunk ++ rest)

/-- A chunk is text, is not empty, and its line is one the frame builder accepts. -/
structure Sends (lead suffix : Bytes) (features : IrcServerFeatures) (chunk : Bytes) : Prop where
  nonempty : chunk ≠ []
  text : ∃ text, utf8 text = chunk
  fits : lead.length + chunk.length + suffix.length + crlfBytes ≤ features.lineLength
  accepted : line (lead ++ chunk ++ suffix) features = .ok (lead ++ chunk ++ suffix ++ crlf)

/-- A body that can be sent at all: in some chunks, cut anywhere. -/
def Sendable (lead body suffix : Bytes) (features : IrcServerFeatures) : Prop :=
  ∃ chunks, Rejoins chunks body ∧ ∀ chunk ∈ chunks, Sends lead suffix features chunk

/-- A space is no part of a character of several bytes. -/
theorem not_isContinuation_space : isContinuation 32 = false := by decide

/-- The characters of a chunked body stand in its chunks, or are spaces between them. -/
theorem Rejoins.characters {chunks : List Bytes} {body : Bytes} (rejoins : Rejoins chunks body)
    (texts : ∀ chunk ∈ chunks, ∃ text, utf8 text = chunk) {characters : List Char}
    (encoded : encode characters = body) {character : Char} (listed : character ∈ characters) :
    character = ' ' ∨ ∃ chunk ∈ chunks, (String.utf8EncodeChar character).length ≤ chunk.length := by
  have within {own : List Char} (member : character ∈ own) :
      (String.utf8EncodeChar character).length ≤ (encode own).length := by
    obtain ⟨before, after, rfl⟩ := List.append_of_mem member
    rw [encode_append, encode_cons, List.length_append, List.length_append]
    omega
  induction rejoins generalizing characters with
  | last chunk =>
      refine .inr ⟨chunk, List.mem_singleton_self chunk, ?_⟩
      rw [← encoded]
      exact within listed
  | @soft chunk chunks rest rejoins inductionHypothesis =>
      obtain ⟨text, rfl⟩ := texts chunk List.mem_cons_self
      obtain ⟨before, after, rfl, same, behind⟩ := encode_cut encoded not_isContinuation_space
      obtain ⟨others, rfl, rest⟩ := encode_eq_cons behind (by decide)
      rcases List.mem_append.mp listed with own | spaced
      · refine .inr ⟨_, List.mem_cons_self, ?_⟩
        rw [← same]
        exact within own
      · rcases List.mem_cons.mp spaced with rfl | later
        · exact .inl rfl
        · rcases inductionHypothesis (fun other member => texts other (List.mem_cons_of_mem _ member))
            rest later with space | ⟨other, member, fits⟩
          · exact .inl space
          · exact .inr ⟨other, List.mem_cons_of_mem _ member, fits⟩
  | @hard chunk chunks rest rejoins inductionHypothesis =>
      obtain ⟨text, rfl⟩ := texts chunk List.mem_cons_self
      rw [utf8_eq_encode] at encoded
      obtain ⟨after, rfl, rest⟩ := encode_behind encoded
      rcases List.mem_append.mp listed with own | later
      · refine .inr ⟨_, List.mem_cons_self, ?_⟩
        rw [utf8_eq_encode]
        exact within own
      · rcases inductionHypothesis (fun other member => texts other (List.mem_cons_of_mem _ member))
          rest later with space | ⟨other, member, fits⟩
        · exact .inl space
        · exact .inr ⟨other, List.mem_cons_of_mem _ member, fits⟩

/-- The last space of a window of a body is a space of the body. -/
theorem lastSpace_parts {body : Bytes} {maxBody space : Nat}
    (found : lastSpace (body.take maxBody) = some space) :
    body = body.take space ++ 32 :: body.drop (space + 1) := by
  obtain ⟨fromEnd, present, rfl⟩ := Option.map_eq_some_iff.mp found
  obtain ⟨shape, -, inside⟩ := position_eq_some present
  have window := congrArg List.reverse shape
  simp only [List.reverse_reverse, List.reverse_append, List.reverse_cons, List.append_assoc,
    List.singleton_append] at window
  rw [List.length_reverse] at inside
  have front : ((body.take maxBody).reverse.drop (fromEnd + 1)).reverse.length =
      (body.take maxBody).length - 1 - fromEnd := by
    rw [List.length_reverse, List.length_drop, List.length_reverse]
    omega
  have whole := List.take_append_drop maxBody body
  rw [window, List.append_assoc, List.cons_append] at whole
  rw [← front]
  generalize ((body.take maxBody).reverse.drop (fromEnd + 1)).reverse = before at whole
  generalize ((body.take maxBody).reverse.take fromEnd).reverse ++ body.drop maxBody = behind
    at whole
  rw [← whole]
  simp

/-- The last space of a window of a body stands inside both. -/
theorem lastSpace_lt {body : Bytes} {maxBody space : Nat}
    (found : lastSpace (body.take maxBody) = some space) : space < maxBody ∧ space < body.length := by
  obtain ⟨fromEnd, present, rfl⟩ := Option.map_eq_some_iff.mp found
  obtain ⟨-, -, inside⟩ := position_eq_some present
  rw [List.length_reverse] at inside
  rw [List.length_take] at inside ⊢
  omega

/-- Backing up stops before a byte that starts a character. -/
theorem backUp_succ {body : Bytes} {cut take : Nat} (stops : backUp body cut = take + 1) :
    isContinuation (body[take + 1]?.getD 0) = false := by
  fun_induction backUp body cut with
  | case1 => cases stops
  | case2 cut continues inductionHypothesis => exact inductionHypothesis stops
  | case3 cut starts =>
      cases stops
      exact Bool.eq_false_iff.mpr starts

/-- A cut that was backed up stands before a byte that starts a character. -/
theorem backUp_parts {body : Bytes} {maxBody take : Nat} (long : ¬body.length ≤ maxBody)
    (stops : backUp body maxBody = take + 1) :
    ∃ start back, body.drop (take + 1) = start :: back ∧ isContinuation start = false := by
  have within := backUp_le body maxBody
  have inside : take + 1 < body.length := by omega
  have starts := backUp_succ stops
  rw [List.getElem?_eq_getElem inside, Option.getD_some] at starts
  exact ⟨_, _, (List.getElem_cons_drop inside).symm, starts⟩

/-- Backing up to the start passes only bytes that continue a character. -/
theorem backUp_zero {body : Bytes} {cut place : Nat} (starts : backUp body cut = 0)
    (positive : 0 < place) (within : place ≤ cut) :
    isContinuation (body[place]?.getD 0) = true := by
  fun_induction backUp body cut with
  | case1 => omega
  | case2 cut continues inductionHypothesis =>
      rcases Nat.le_succ_iff.mp within with earlier | rfl
      · exact inductionHypothesis starts earlier
      · exact continues
  | case3 => cases starts

/-- The chunks of a split are texts, and joined again they are the body. -/
theorem splitChunks_rejoins {maxBody : Nat} {body : Bytes} {chunks : List Bytes}
    {characters : List Char} (encoded : encode characters = body) (some : body ≠ [])
    (split : splitChunks maxBody body = .some chunks) :
    Rejoins chunks body ∧ ∀ chunk ∈ chunks, ∃ own, encode own = chunk := by
  fun_induction splitChunks maxBody body generalizing chunks characters with
  | case1 => exact absurd rfl some
  | case2 body _ fits =>
      cases split
      exact ⟨.last body, by simpa using ⟨characters, encoded⟩⟩
  | case3 body _ long space found inductionHypothesis =>
      obtain ⟨rest, restSplit, rfl⟩ := Option.map_eq_some_iff.mp split
      have parts := lastSpace_parts found
      obtain ⟨before, after, rfl, front, behind⟩ :=
        encode_cut (encoded.trans parts) not_isContinuation_space
      obtain ⟨others, rfl, back⟩ := encode_eq_cons behind (by decide)
      have left : body.drop (space + 2) ≠ [] := by
        have bound := lastSpace_lt found
        rw [ne_eq, List.drop_eq_nil_iff]
        omega
      obtain ⟨rejoins, texts⟩ := inductionHypothesis back left restSplit
      refine ⟨?_, List.forall_mem_cons.mpr ⟨⟨before, front⟩, texts⟩⟩
      have joined : Rejoins (body.take (space + 1) :: rest)
          (body.take (space + 1) ++ 32 :: body.drop (space + 2)) := .soft rejoins
      rwa [← parts] at joined
  | case4 => cases split
  | case5 body _ long take cutBack found inductionHypothesis =>
      obtain ⟨rest, restSplit, rfl⟩ := Option.map_eq_some_iff.mp split
      obtain ⟨start, back, shape, starts⟩ := backUp_parts long cutBack
      have parts := (List.take_append_drop (take + 1) body).symm
      rw [shape] at parts
      obtain ⟨before, after, rfl, front, behind⟩ := encode_cut (encoded.trans parts) starts
      rw [← shape] at behind
      have left : body.drop (take + 1) ≠ [] := by
        rw [shape]
        exact List.cons_ne_nil _ _
      obtain ⟨rejoins, texts⟩ := inductionHypothesis behind left restSplit
      refine ⟨?_, List.forall_mem_cons.mpr ⟨⟨before, front⟩, texts⟩⟩
      have joined : Rejoins (body.take (take + 1) :: rest)
          (body.take (take + 1) ++ body.drop (take + 1)) := .hard rejoins
      rwa [List.take_append_drop] at joined

/-- A split fails at a character that is wider than a chunk. -/
theorem splitChunks_eq_none {maxBody : Nat} {body : Bytes} {characters : List Char}
    (encoded : encode characters = body) (refused : splitChunks maxBody body = none) :
    ∃ character ∈ characters, maxBody < (String.utf8EncodeChar character).length := by
  fun_induction splitChunks maxBody body generalizing characters with
  | case1 => cases refused
  | case2 => cases refused
  | case3 body _ long space found inductionHypothesis =>
      obtain ⟨before, after, rfl, front, behind⟩ :=
        encode_cut (encoded.trans (lastSpace_parts found)) not_isContinuation_space
      obtain ⟨others, rfl, back⟩ := encode_eq_cons behind (by decide)
      obtain ⟨character, listed, wide⟩ :=
        inductionHypothesis back (Option.map_eq_none_iff.mp refused)
      exact ⟨character, by simp [listed], wide⟩
  | case4 body some long cutBack found =>
      cases characters with
      | nil => exact absurd encoded.symm some
      | cons character rest =>
          refine ⟨character, List.mem_cons_self, Nat.lt_of_not_le fun narrow => ?_⟩
          -- Otherwise the character behind this one is a place to cut.
          obtain ⟨lead, tail, shape, -, -⟩ := utf8EncodeChar_cases character
          cases rest with
          | nil =>
              rw [encode_cons, encode_nil, List.append_nil] at encoded
              rw [encoded] at narrow
              exact long narrow
          | cons behind others =>
              obtain ⟨start, more, next, starts, -⟩ := utf8EncodeChar_cases behind
              have place : body[(String.utf8EncodeChar character).length]? = .some start := by
                rw [← encoded, encode_cons, encode_cons, next]
                simp
              have continues := backUp_zero cutBack (by rw [shape]; simp) narrow
              rw [place, Option.getD_some, starts] at continues
              cases continues
  | case5 body _ long take cutBack found inductionHypothesis =>
      obtain ⟨start, back, shape, starts⟩ := backUp_parts long cutBack
      have parts := (List.take_append_drop (take + 1) body).symm
      rw [shape] at parts
      obtain ⟨before, after, rfl, -, behind⟩ := encode_cut (encoded.trans parts) starts
      rw [← shape] at behind
      obtain ⟨character, listed, wide⟩ :=
        inductionHypothesis behind (Option.map_eq_none_iff.mp refused)
      exact ⟨character, List.mem_append_right _ listed, wide⟩

section Trailing

variable {lead body suffix chunk : Bytes} {features : IrcServerFeatures}

/-- Room for one byte beside the wrapper, and no forbidden byte anywhere. -/
def Splits (lead body suffix : Bytes) (features : IrcServerFeatures) : Prop :=
  body ≠ [] ∧ containsForbidden lead = false ∧ containsForbidden body = false ∧
    containsForbidden suffix = false ∧ lead.length + suffix.length + 3 ≤ features.lineLength

/-- The longest chunk that stands in one frame beside its wrapper. -/
def maxBody (lead suffix : Bytes) (features : IrcServerFeatures) : Nat :=
  features.lineLength - lead.length - suffix.length - crlfBytes

/-- A body that splits is cut into chunks. -/
theorem splitTrailingParam_of_splits (splits : Splits lead body suffix features) :
    splitTrailingParam lead body suffix features =
      (splitChunks (maxBody lead suffix features) body).getD [] := by
  obtain ⟨some, cleanLead, cleanBody, cleanSuffix, room⟩ := splits
  unfold splitTrailingParam
  have filled : body.isEmpty = false := List.isEmpty_eq_false_iff.mpr some
  have wide : ¬(features.lineLength < 3 ∨
      lead.length + suffix.length + 3 > features.lineLength) := by omega
  simp only [filled, cleanLead, cleanBody, cleanSuffix, Bool.or_false, Bool.false_eq_true, if_false,
    Bool.or_eq_true, decide_eq_true_eq, wide]
  rfl

/-- Nothing else is cut. -/
theorem splitTrailingParam_of_not_splits (refused : ¬Splits lead body suffix features) :
    splitTrailingParam lead body suffix features = [] := by
  unfold splitTrailingParam
  dsimp only
  split
  · rfl
  · rename_i clean
    simp only [Bool.or_eq_true, List.isEmpty_iff, not_or, Bool.not_eq_true] at clean
    rw [if_pos]
    by_contra wide
    simp only [Bool.or_eq_true, decide_eq_true_eq, not_or, Nat.not_lt] at wide
    exact refused ⟨clean.1.1.1, clean.1.1.2, clean.1.2, clean.2, wide.2⟩

/-- A chunk of a body that splits is sent when it is text that fits. -/
theorem Sends.of_part (splits : Splits lead body suffix features) (nonempty : chunk ≠ [])
    (text : ∃ text, utf8 text = chunk) (fits : chunk.length ≤ maxBody lead suffix features)
    (part : chunk ⊆ body) : Sends lead suffix features chunk := by
  obtain ⟨-, cleanLead, cleanBody, cleanSuffix, room⟩ := splits
  have whole : lead.length + chunk.length + suffix.length + crlfBytes ≤ features.lineLength := by
    unfold maxBody at fits
    unfold crlfBytes at fits ⊢
    omega
  refine ⟨nonempty, text, whole, line_eq_ok_iff.mpr ⟨by simp [nonempty], ?_, ?_, rfl⟩⟩
  · simp [cleanLead, cleanSuffix, containsForbidden_subset cleanBody part]
  · rw [List.length_append, List.length_append]
    exact whole

/-- A wrapper with room leaves room for a byte. -/
theorem maxBody_pos (splits : Splits lead body suffix features) :
    1 ≤ maxBody lead suffix features := by
  obtain ⟨-, -, -, -, room⟩ := splits
  unfold maxBody crlfBytes
  omega

/-- What can be sent at all is clean, and has room for a byte beside the wrapper. -/
theorem Sendable.splits (sendable : Sendable lead body suffix features) :
    Splits lead body suffix features := by
  obtain ⟨chunks, rejoins, sends⟩ := sendable
  have clean {chunk : Bytes} (listed : chunk ∈ chunks) : containsForbidden lead = false ∧
      containsForbidden chunk = false ∧ containsForbidden suffix = false := by
    obtain ⟨-, clean, -, -⟩ := line_eq_ok_iff.mp (sends chunk listed).accepted
    simpa [and_assoc] using clean
  have bodyClean : containsForbidden body = false := by
    clear sends
    induction rejoins with
    | last chunk => exact (clean (List.mem_singleton_self chunk)).2.1
    | soft rejoins inductionHypothesis =>
        have rest := inductionHypothesis fun listed => clean (List.mem_cons_of_mem _ listed)
        simp only [containsForbidden_append, containsForbidden_cons, rest,
          (clean List.mem_cons_self).2.1]
        decide
    | hard rejoins inductionHypothesis =>
        have rest := inductionHypothesis fun listed => clean (List.mem_cons_of_mem _ listed)
        simp only [containsForbidden_append, rest, (clean List.mem_cons_self).2.1, Bool.or_self]
  have first : ∃ chunk ∈ chunks, chunk ⊆ body := by
    cases rejoins with
    | last chunk => exact ⟨body, List.mem_singleton_self body, List.Subset.refl body⟩
    | soft rejoins => exact ⟨_, List.mem_cons_self, List.subset_append_left _ _⟩
    | hard rejoins => exact ⟨_, List.mem_cons_self, List.subset_append_left _ _⟩
  obtain ⟨chunk, listed, part⟩ := first
  obtain ⟨cleanLead, -, cleanSuffix⟩ := clean listed
  have filled := List.length_pos_iff.mpr (sends chunk listed).nonempty
  have fits := (sends chunk listed).fits
  unfold crlfBytes at fits
  refine ⟨?_, cleanLead, bodyClean, cleanSuffix, by omega⟩
  rintro rfl
  exact (sends chunk listed).nonempty (List.subset_nil.mp part)

end Trailing

/-- The chunks of a split are nonempty texts that each fit a frame the builder accepts.
Joined again, with one space for each space that was dropped, they are the body. There are
none exactly when no chunks at all would send the body. -/
theorem splitTrailingParam_chunks (lead body suffix : String) (features : IrcServerFeatures) :
    (∀ chunk ∈ splitTrailingParam (utf8 lead) (utf8 body) (utf8 suffix) features,
      Sends (utf8 lead) (utf8 suffix) features chunk) ∧
    (splitTrailingParam (utf8 lead) (utf8 body) (utf8 suffix) features ≠ [] →
      Rejoins (splitTrailingParam (utf8 lead) (utf8 body) (utf8 suffix) features) (utf8 body)) ∧
    (splitTrailingParam (utf8 lead) (utf8 body) (utf8 suffix) features = [] ↔
      ¬Sendable (utf8 lead) (utf8 body) (utf8 suffix) features) := by
  by_cases splits : Splits (utf8 lead) (utf8 body) (utf8 suffix) features
  · rw [splitTrailingParam_of_splits splits]
    cases split : splitChunks (maxBody (utf8 lead) (utf8 suffix) features) (utf8 body) with
    | none =>
        refine ⟨by simp, by simp, iff_of_true rfl ?_⟩
        rintro ⟨chunks, rejoins, sends⟩
        obtain ⟨character, listed, wide⟩ := splitChunks_eq_none (utf8_eq_encode body).symm split
        rcases rejoins.characters (fun chunk member => (sends chunk member).text)
          (utf8_eq_encode body).symm listed with rfl | ⟨chunk, member, within⟩
        · exact absurd wide (Nat.not_lt.mpr (maxBody_pos splits))
        · have fits := (sends chunk member).fits
          unfold maxBody at wide
          omega
    | some chunks =>
        obtain ⟨rejoins, texts⟩ := splitChunks_rejoins (utf8_eq_encode body).symm splits.1 split
        have sends : ∀ chunk ∈ chunks, Sends (utf8 lead) (utf8 suffix) features chunk := by
          intro chunk listed
          obtain ⟨nonempty, fits, part⟩ := mem_splitChunks split chunk listed
          obtain ⟨own, encoded⟩ := texts chunk listed
          refine .of_part splits nonempty ⟨String.ofList own, ?_⟩ fits part
          rw [utf8_eq_encode, String.toList_ofList, encoded]
        have some : chunks ≠ [] := by
          rintro rfl
          cases rejoins
        exact ⟨sends, fun _ => rejoins, by simpa [some] using ⟨chunks, rejoins, sends⟩⟩
  · rw [splitTrailingParam_of_not_splits splits]
    refine ⟨by simp, by simp, by simpa using fun sendable => splits (Sendable.splits sendable)⟩

end Omairc.Irc

import Mathlib.Data.List.Perm.Basic
import Omairc.Irc.Reducer.Frames

/-!
# Numbered rows

The law between rows, the msgids that are known and the next sequence: sequences are
distinct and below the next one, no msgid stands on two rows, and every msgid on a row is
known. It is kept by pushing a row of the next sequence, by forgetting a row, and by
every change that leaves sequences and msgids alone.
-/

namespace Omairc.Irc.Reducer

open Omairc.Text

/-- What the law reads of a row. -/
def rowMark (message : Message) : Int × MsgId := (message.sequence, message.msgid)

/-- Rows whose sequences are distinct and below the next one, and whose msgids are known
and stand on one row each. -/
structure Numbered (rows : List Message) (ids : Finset MsgId) (next : Int) : Prop where
  sequences : (rows.map Message.sequence).Nodup
  below : ∀ row ∈ rows, row.sequence < next
  msgids : rows.Pairwise fun first second => first.msgid = second.msgid → first.msgid = ""
  known : ∀ row ∈ rows, row.msgid ≠ "" → row.msgid ∈ ids

namespace Numbered

variable {rows changed : List Message} {ids known : Finset MsgId} {next later : Int}
  {row : Message}

theorem empty (ids : Finset MsgId) (next : Int) : Numbered [] ids next :=
  ⟨List.nodup_nil, by simp, List.Pairwise.nil, by simp⟩

/-- The law does not depend on the order of the rows. -/
theorem perm (numbered : Numbered rows ids next) (same : rows.Perm changed) :
    Numbered changed ids next where
  sequences := (same.map Message.sequence).nodup_iff.mp numbered.sequences
  below := fun row listed => numbered.below row (same.mem_iff.mpr listed)
  msgids := by
    refine (same.pairwise_iff ?_).mp numbered.msgids
    intro first second apart shared
    rw [shared]
    exact apart shared.symm
  known := fun row listed => numbered.known row (same.mem_iff.mpr listed)

/-- More known msgids and a later next sequence keep the law. -/
theorem mono (numbered : Numbered rows ids next) (more : ids ⊆ known) (grown : next ≤ later) :
    Numbered rows known later where
  sequences := numbered.sequences
  below := fun row listed => lt_of_lt_of_le (numbered.below row listed) grown
  msgids := numbered.msgids
  known := fun row listed carried => more (numbered.known row listed carried)

/-- Rows with the same sequences and msgids obey the law alike. -/
theorem congr (numbered : Numbered rows ids next)
    (same : changed.map rowMark = rows.map rowMark) : Numbered changed ids next := by
  have sequences : ∀ list : List Message,
      list.map Message.sequence = (list.map rowMark).map Prod.fst := by
    intro list
    rw [List.map_map]
    rfl
  have marked : ∀ row ∈ changed, ∃ before ∈ rows,
      before.sequence = row.sequence ∧ before.msgid = row.msgid := by
    intro row listed
    have present : rowMark row ∈ rows.map rowMark := by
      rw [← same]
      exact List.mem_map_of_mem listed
    obtain ⟨before, there, equal⟩ := List.mem_map.mp present
    exact ⟨before, there, congrArg Prod.fst equal, congrArg Prod.snd equal⟩
  refine ⟨?_, ?_, ?_, ?_⟩
  · rw [sequences, same, ← sequences]
    exact numbered.sequences
  · intro row listed
    obtain ⟨before, there, sequence, _⟩ := marked row listed
    rw [← sequence]
    exact numbered.below before there
  · have apart : (rows.map rowMark).Pairwise fun first second =>
        first.2 = second.2 → first.2 = "" := List.pairwise_map.mpr numbered.msgids
    rw [← same] at apart
    exact List.pairwise_map.mp apart
  · intro row listed carried
    obtain ⟨before, there, _, msgid⟩ := marked row listed
    rw [← msgid] at carried ⊢
    exact numbered.known before there carried

/-- A row of the next sequence with a fresh msgid keeps the law. -/
theorem push (numbered : Numbered rows ids next) (row : Message) (fresh : row.msgid ≠ "" → row.msgid ∉ ids)
    (numbers : row.sequence = next) :
    Numbered (rows ++ [row]) (if row.msgid = "" then ids else insert row.msgid ids) (next + 1) where
  sequences := by
    rw [List.map_append, List.map_singleton]
    refine List.nodup_append.mpr ⟨numbered.sequences, List.nodup_singleton _, ?_⟩
    intro sequence listed other last
    obtain ⟨before, there, rfl⟩ := List.mem_map.mp listed
    rw [List.mem_singleton.mp last]
    have less := numbered.below before there
    omega
  below := by
    intro other listed
    rcases List.mem_append.mp listed with before | last
    · have less := numbered.below other before
      omega
    · rw [List.mem_singleton.mp last]
      omega
  msgids := by
    refine List.pairwise_append.mpr ⟨numbered.msgids, List.pairwise_singleton _ _, ?_⟩
    intro before there last final shared
    rw [List.mem_singleton.mp final] at shared
    by_contra carried
    refine fresh (fun blank => carried (shared.trans blank)) ?_
    rw [← shared]
    exact numbered.known before there carried
  known := by
    intro other listed carried
    rcases List.mem_append.mp listed with before | last
    · have there := numbered.known other before carried
      split
      · exact there
      · exact Finset.mem_insert_of_mem there
    · rw [List.mem_singleton.mp last] at carried ⊢
      rw [if_neg carried]
      exact Finset.mem_insert_self _ _

/-- A row that goes, with its msgid, leaves the law. -/
theorem forget (numbered : Numbered (row :: rows) ids next) :
    Numbered rows (if row.msgid = "" then ids else ids.erase row.msgid) next where
  sequences := (List.nodup_cons.mp numbered.sequences).2
  below := fun other listed => numbered.below other (List.mem_cons_of_mem _ listed)
  msgids := (List.pairwise_cons.mp numbered.msgids).2
  known := by
    intro other listed carried
    have there := numbered.known other (List.mem_cons_of_mem _ listed) carried
    split
    · exact there
    · refine Finset.mem_erase.mpr ⟨fun shared => ?_, there⟩
      have blank := (List.pairwise_cons.mp numbered.msgids).1 other listed shared.symm
      exact carried (shared.trans blank)

end Numbered

variable {Disk : Type}

/-- The msgids that stay known when rows go. -/
def forgottenIds (ids : Finset MsgId) (rows : List Message) : Finset MsgId :=
  rows.foldl (fun ids row => if row.msgid = "" then ids else ids.erase row.msgid) ids

/-- Forgetting a msgid changes the known msgids. -/
theorem forgetTranscriptMsgid_conv (facts : Facts Disk) (conv : ConversationState)
    (msgid : MsgId) :
    (forgetTranscriptMsgid facts conv msgid).2 =
      { conv with
        messageIds := if msgid = "" then conv.messageIds else conv.messageIds.erase msgid } := by
  unfold forgetTranscriptMsgid
  split
  · rfl
  · rfl

/-- Forgetting rows changes the known msgids. -/
theorem forgetRows_eq (facts : Facts Disk) (conv : ConversationState) (rows : List Message) :
    (forgetRows facts conv rows).2 =
      { conv with messageIds := forgottenIds conv.messageIds rows } := by
  unfold forgetRows forgottenIds
  induction rows generalizing facts conv with
  | nil => rfl
  | cons row rest inductionHypothesis =>
      rw [List.foldl_cons, List.foldl_cons]
      have step := inductionHypothesis (forgetTranscriptMsgid facts conv row.msgid).1
        (forgetTranscriptMsgid facts conv row.msgid).2
      refine step.trans ?_
      rw [forgetTranscriptMsgid_conv]

/-- Rows that go, with their msgids, leave the law. -/
theorem Numbered.forgetRows {gone kept : List Message} {ids : Finset MsgId} {next : Int}
    (numbered : Numbered (gone ++ kept) ids next) :
    Numbered kept (forgottenIds ids gone) next := by
  induction gone generalizing ids with
  | nil => exact numbered
  | cons row rest inductionHypothesis => exact inductionHypothesis numbered.forget

/-- The transcript obeys the law. -/
def ConversationState.Numbered (conv : ConversationState) : Prop :=
  Reducer.Numbered conv.messages conv.messageIds conv.nextSequence

/-- The law of a transcript, and its cap. -/
structure TranscriptLaw (conv : ConversationState) : Prop where
  numbered : conv.Numbered
  capped : conv.messages.length ≤ maxMessages

/-- The law does not read the key and the target. -/
theorem TranscriptLaw.renamed {conv : ConversationState} (law : TranscriptLaw conv)
    (key : ConversationKey) (target : String) : TranscriptLaw { conv with key, target } :=
  ⟨law.numbered, law.capped⟩

section Operations

variable {facts : Facts Disk} {conv : ConversationState}

/-- The transcript the cap leaves, from the head or from the tail. -/
theorem capWithPolicy_cases (facts : Facts Disk) (conv : ConversationState)
    (dropFromHead : Bool) :
    (conv.messages.length ≤ maxMessages ∧ (capWithPolicy facts conv dropFromHead).2 = conv) ∨
    (maxMessages < conv.messages.length ∧ ∃ gone kept channel trimmed,
      (gone ++ kept).Perm conv.messages ∧ kept.length = maxMessages ∧
      (capWithPolicy facts conv dropFromHead).2 =
        { conv with
          messages := kept, trimmed, channel
          messageIds := forgottenIds conv.messageIds gone }) := by
  unfold capWithPolicy
  by_cases fits : conv.messages.length ≤ maxMessages
  · exact .inl ⟨fits, by rw [if_pos fits]⟩
  · refine .inr ⟨Nat.lt_of_not_le fits, ?_⟩
    rw [if_neg fits]
    have extra : maxMessages + (conv.messages.length - maxMessages) = conv.messages.length := by
      omega
    dsimp only
    split
    · refine ⟨conv.messages.take (conv.messages.length - maxMessages),
        conv.messages.drop (conv.messages.length - maxMessages), ?_⟩
      rw [forgetRows_eq, List.take_append_drop, List.length_drop]
      split
      · split
        · exact ⟨_, _, .refl _, by omega, rfl⟩
        · exact ⟨_, _, .refl _, by omega, rfl⟩
      · exact ⟨_, _, .refl _, by omega, rfl⟩
    · refine ⟨conv.messages.drop (conv.messages.length - (conv.messages.length - maxMessages)),
        conv.messages.take (conv.messages.length - (conv.messages.length - maxMessages)),
        conv.channel, conv.trimmed, ?_, ?_, ?_⟩
      · refine List.perm_append_comm.trans ?_
        rw [List.take_append_drop]
      · rw [List.length_take]
        omega
      · rw [forgetRows_eq]

/-- Capping a numbered transcript gives one that obeys the law. -/
theorem capWithPolicy_law (numbered : conv.Numbered) (facts : Facts Disk) (dropFromHead : Bool) :
    TranscriptLaw (capWithPolicy facts conv dropFromHead).2 := by
  rcases capWithPolicy_cases facts conv dropFromHead with
    ⟨fits, same⟩ | ⟨_, gone, kept, channel, trimmed, parts, size, same⟩
  · rw [same]
    exact ⟨numbered, fits⟩
  · rw [same]
    exact ⟨(numbered.perm parts.symm).forgetRows, size.le⟩

/-- Learning a msgid keeps rows numbered. -/
theorem know_messageIds (conv : ConversationState) (msgid : MsgId) :
    (conv.know msgid).messageIds =
      if msgid = "" then conv.messageIds else insert msgid conv.messageIds := by
  unfold ConversationState.know
  split
  · rfl
  · rfl

theorem know_messages (conv : ConversationState) (msgid : MsgId) :
    (conv.know msgid).messages = conv.messages := by
  unfold ConversationState.know
  split
  · rfl
  · rfl

theorem know_nextSequence (conv : ConversationState) (msgid : MsgId) :
    (conv.know msgid).nextSequence = conv.nextSequence := by
  unfold ConversationState.know
  split
  · rfl
  · rfl

theorem know_more (conv : ConversationState) (msgid : MsgId) :
    conv.messageIds ⊆ (conv.know msgid).messageIds := by
  rw [know_messageIds]
  split
  · exact Finset.Subset.refl _
  · exact Finset.subset_insert _ _

/-- Admitting a fresh row keeps the transcript numbered. -/
theorem admitMessage_numbered (numbered : conv.Numbered) (row : Message)
    (fresh : row.msgid ≠ "" → row.msgid ∉ conv.messageIds) :
    (admitMessage (conv.know row.msgid) row).Numbered := by
  have pushed := Numbered.push numbered { row with sequence := conv.nextSequence } fresh rfl
  unfold ConversationState.Numbered admitMessage
  rw [know_messages, know_nextSequence]
  dsimp only
  rw [know_messageIds]
  exact pushed

/-- The transcript without its newest row. -/
theorem dropLastTranscriptRow_eq (facts : Facts Disk) {last : Message}
    (newest : conv.messages.getLast? = some last) :
    (dropLastTranscriptRow facts conv).2 =
      ConversationState.moveAnchor
        { conv with
          messages := conv.messages.dropLast
          messageIds :=
            if last.msgid = "" then conv.messageIds else conv.messageIds.erase last.msgid }
        fun anchor => if anchor - conv.trimmed > conv.messages.length - 1 then anchor - 1
          else anchor := by
  unfold dropLastTranscriptRow
  rw [newest]
  dsimp only
  rw [forgetTranscriptMsgid_conv]

/-- Nothing is dropped from an empty transcript. -/
theorem dropLastTranscriptRow_none (facts : Facts Disk) (empty : conv.messages.getLast? = none) :
    (dropLastTranscriptRow facts conv).2 = conv := by
  unfold dropLastTranscriptRow
  rw [empty]

/-- Dropping the newest row keeps the law. -/
theorem dropLastTranscriptRow_law (law : TranscriptLaw conv) (facts : Facts Disk) :
    TranscriptLaw (dropLastTranscriptRow facts conv).2 := by
  cases newest : conv.messages.getLast? with
  | none =>
      rw [dropLastTranscriptRow_none facts newest]
      exact law
  | some last =>
      rw [dropLastTranscriptRow_eq facts newest]
      obtain ⟨before, whole⟩ := List.getLast?_eq_some_iff.mp newest
      have numbered : Numbered (last :: before) conv.messageIds conv.nextSequence :=
        law.numbered.perm (by
          rw [whole]
          exact List.perm_append_comm)
      have capped := law.capped
      rw [whole, List.length_append] at capped
      unfold ConversationState.moveAnchor ConversationState.onChannel
      rw [whole, List.dropLast_concat]
      exact ⟨numbered.forget, Nat.le_of_add_right_le capped⟩

/-- Rewriting the newest row keeps the law. -/
theorem rewriteLast_law (law : TranscriptLaw conv) {last : Message}
    (newest : conv.messages.getLast? = some last) (body : String) :
    TranscriptLaw { conv with
      messages := conv.messages.dropLast ++ [{ last with body }] } := by
  obtain ⟨before, whole⟩ := List.getLast?_eq_some_iff.mp newest
  have same : (conv.messages.dropLast ++ [{ last with body }]).map rowMark =
      conv.messages.map rowMark := by
    rw [whole, List.dropLast_concat, List.map_append, List.map_append]
    rfl
  refine ⟨law.numbered.congr same, ?_⟩
  have sizes := congrArg List.length same
  rw [List.length_map, List.length_map] at sizes
  exact sizes.le.trans law.capped

end Operations

end Omairc.Irc.Reducer

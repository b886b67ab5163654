import Omairc.Irc.Reducer.Rows

/-!
# Badges

The law of the unread and mention counts of a conversation and of its unread boundary.
Sequences are handed out from zero, one to each row that arrives, so a boundary below the
next sequence is the sequence of a row that arrived.
-/

namespace Omairc.Irc.Reducer

open Omairc.Text

variable {Disk : Type}

/-- A sequence that was handed out. -/
def ConversationState.Issued (conv : ConversationState) (sequence : Int) : Prop :=
  0 ≤ sequence ∧ sequence < conv.nextSequence

/-- No more mentions than unread rows, a boundary for every unread count, at the sequence of
a row that arrived, and no mentions while muted. -/
structure ConversationState.Badged (conv : ConversationState) : Prop where
  mentions : conv.mentions ≤ conv.unread
  marked : 0 < conv.unread → conv.unreadMark.isSome = true
  arrived : ∀ mark, conv.unreadMark = some mark → conv.Issued mark
  silent : conv.muted = true → conv.mentions = 0
  issued : ∀ row ∈ conv.messages, conv.Issued row.sequence
  counted : 0 ≤ conv.nextSequence

namespace ConversationState.Badged

variable {conv : ConversationState}

/-- The law reads the counts, the boundary, the mute and the sequences alone. -/
theorem recast (badged : conv.Badged) {typing : StringMap TypingHint}
    {readMarker : Option Instant} {historyPageCapTail : Bool} :
    ({ conv with typing, readMarker, historyPageCapTail } : ConversationState).Badged :=
  ⟨badged.mentions, badged.marked, badged.arrived, badged.silent, badged.issued, badged.counted⟩

/-- The law does not read the key and the target. -/
theorem renamed (badged : conv.Badged) (key : ConversationKey) (target : String) :
    ({ conv with key, target } : ConversationState).Badged :=
  ⟨badged.mentions, badged.marked, badged.arrived, badged.silent, badged.issued, badged.counted⟩

/-- A boundary at a row that arrived keeps the law. -/
theorem planted (badged : conv.Badged) {sequence : Int} (issued : conv.Issued sequence) :
    ({ conv with unreadMark := some sequence } : ConversationState).Badged := by
  refine ⟨badged.mentions, fun _ => rfl, ?_, badged.silent, badged.issued, badged.counted⟩
  rintro _ ⟨⟩
  exact issued

/-- One more unread row keeps the law, once there is a boundary. -/
theorem bumped (badged : conv.Badged) (mark : conv.unreadMark.isSome = true) (hit : Prop)
    [Decidable hit] :
    ({ conv with
      unread := conv.unread + 1
      mentions := if hit ∧ conv.muted = false then conv.mentions + 1 else conv.mentions
      } : ConversationState).Badged := by
  have below := badged.mentions
  refine ⟨?_, fun _ => mark, badged.arrived, fun muted => ?_, badged.issued, badged.counted⟩
  · dsimp only
    split
    · omega
    · omega
  · have muted : conv.muted = true := muted
    dsimp only
    rw [if_neg fun both => by rw [muted] at both; cases both.2]
    exact badged.silent muted

/-- Counting one unread row keeps the law. -/
theorem countUnread (badged : conv.Badged) (selected live windowInactive : Bool) {sequence : Int}
    (issued : conv.Issued sequence) (reason : Option ChatLineReason) :
    (countUnread conv selected live windowInactive sequence reason).Badged := by
  unfold Reducer.countUnread
  split
  · exact badged
  · split
    · exact badged
    · dsimp only
      have bounded : (if conv.unread = 0 ∧ (selected && !live && conv.unreadMark.isSome) = false then
          { conv with unreadMark := some sequence } else conv).Badged ∧
        (if conv.unread = 0 ∧ (selected && !live && conv.unreadMark.isSome) = false then
          { conv with unreadMark := some sequence } else conv).unreadMark.isSome = true := by
        split
        · exact ⟨badged.planted issued, rfl⟩
        · rename_i old
          refine ⟨badged, ?_⟩
          by_cases none_ : conv.unread = 0
          · have held : (selected && !live && conv.unreadMark.isSome) = true := by
              by_contra absent
              rw [Bool.not_eq_true] at absent
              exact old ⟨none_, absent⟩
            exact (Bool.and_eq_true_iff.mp held).2
          · exact badged.marked (Nat.pos_of_ne_zero none_)
      generalize (if conv.unread = 0 ∧ (selected && !live && conv.unreadMark.isSome) = false then
        { conv with unreadMark := some sequence } else conv) = bounded_ at bounded
      split
      · exact bounded.1
      · exact bounded.1.bumped bounded.2 _

/-- Zeroed counts keep the law. -/
theorem zeroed (badged : conv.Badged) {unreadMark : Option Int}
    (kept : ∀ mark, unreadMark = some mark → conv.unreadMark = some mark) :
    ({ conv with unread := 0, mentions := 0, unreadMark } : ConversationState).Badged :=
  ⟨Nat.le_refl 0, fun positive => absurd positive (Nat.lt_irrefl 0),
    fun mark there => badged.arrived mark (kept mark there), fun _ => rfl, badged.issued,
    badged.counted⟩

variable [CharacterClasses]

/-- The accounting of an arrival keeps the law. -/
theorem noteChatArrival (badged : conv.Badged) (facts : Facts Disk) (key : ConversationKey)
    {arrival : ChatArrival} (issued : conv.Issued arrival.sequence) :
    (noteChatArrival facts conv key arrival).2.Badged := by
  unfold Reducer.noteChatArrival
  dsimp only
  split
  · exact badged
  · split
    · exact badged
    · split
      · exact badged
      · exact badged.countUnread _ _ _ issued _

/-- Counting one row against the marker keeps the law. -/
theorem recountRow (badged : conv.Badged) (facts : Facts Disk) (key : ConversationKey)
    {message : Message} (issued : conv.Issued message.sequence) :
    (recountRow facts key conv message).Badged := by
  unfold Reducer.recountRow
  dsimp only
  split
  · exact badged
  · split
    · exact badged
    · split
      · exact badged
      · exact badged.countUnread _ _ _ issued _

end ConversationState.Badged

/-- The rows that the cap leaves, from the head on. -/
theorem capMessages_rows (facts : Facts Disk) (conv : ConversationState) :
    (capMessages facts conv).2.messages =
      conv.messages.drop (conv.messages.length - maxMessages) := by
  unfold capMessages capWithPolicy
  split
  · rename_i fits
    rw [Nat.sub_eq_zero_of_le fits]
    rfl
  · rw [if_pos rfl]
    dsimp only
    rw [forgetRows_eq]
    split
    · split
      · rfl
      · rfl
    · rfl

/-- The cap leaves the newest row where it is. -/
theorem capMessages_newest (facts : Facts Disk) (conv : ConversationState) :
    (capMessages facts conv).2.messages.getLast? = conv.messages.getLast? := by
  have positive : 0 < maxMessages := by
    unfold maxMessages
    decide
  rw [capMessages_rows, List.getLast?_drop]
  split
  · rename_i empty
    rw [List.eq_nil_of_length_eq_zero (by omega : conv.messages.length = 0)]
    rfl
  · rfl

/-- The row that was admitted is the newest. -/
theorem admitLogged_newest [Storage Disk] (facts : Facts Disk) (conv : ConversationState)
    (message : Message) :
    (admitLogged facts conv message).2.messages.getLast? =
      some { message with sequence := conv.nextSequence } :=
  (capMessages_newest ..).trans List.getLast?_concat

end Omairc.Irc.Reducer

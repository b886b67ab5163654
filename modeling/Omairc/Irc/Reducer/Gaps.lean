import Omairc.Irc.Reducer.Moves
import Omairc.Irc.Reducer.SpliceLaw

/-!
# The gap of a history anchor

An anchor splits a transcript into the rows ahead of it and the rows behind it. A change
keeps the gap when every row that is ahead afterwards was ahead before or is newer, and
the rows behind are ones that were behind, in their order, followed by newer ones. Rows
are told apart by their sequences.
-/

namespace Omairc.Irc.Reducer

open Omairc.Text

/-- The rows ahead of a transcript position and behind it, and the next sequence. -/
structure Gap where
  ahead : List Int
  behind : List Int
  next : Int

/-- The gap is still between the same rows. -/
structure Gap.Kept (before now : Gap) : Prop where
  later : before.next ≤ now.next
  ahead : ∀ sequence ∈ now.ahead, sequence ∈ before.ahead ∨ before.next ≤ sequence
  behind : ∃ kept added, now.behind = kept ++ added ∧ kept.Sublist before.behind ∧
    ∀ sequence ∈ added, before.next ≤ sequence

namespace Gap.Kept

variable {first second third : Gap}

theorem refl (gap : Gap) : gap.Kept gap where
  later := le_rfl
  ahead := fun _ => .inl
  behind := ⟨gap.behind, [], (List.append_nil _).symm, .refl _, by simp⟩

theorem trans (before : first.Kept second) (after : second.Kept third) : first.Kept third where
  later := before.later.trans after.later
  ahead := by
    intro sequence listed
    rcases after.ahead sequence listed with there | newer
    · exact before.ahead sequence there
    · exact .inr (before.later.trans newer)
  behind := by
    obtain ⟨kept, added, secondRows, fewer, new⟩ := before.behind
    obtain ⟨still, more, thirdRows, subset, newer⟩ := after.behind
    rw [secondRows] at subset
    obtain ⟨old, recent, parts, oldRows, recentRows⟩ := List.sublist_append_iff.mp subset
    refine ⟨old, recent ++ more, ?_, oldRows.trans fewer, ?_⟩
    · rw [thirdRows, parts, List.append_assoc]
    · intro sequence listed
      rcases List.mem_append.mp listed with here | there
      · exact new sequence (recentRows.subset here)
      · exact before.later.trans (newer sequence there)

/-- Fewer rows on either side, and newer ones at the end, keep the gap. -/
theorem shrink {ahead behind kept added : List Int} {next : Int} (later : first.next ≤ next)
    (fewerAhead : ahead.Sublist first.ahead) (parts : behind = kept ++ added)
    (fewerBehind : kept.Sublist first.behind) (new : ∀ sequence ∈ added, first.next ≤ sequence) :
    first.Kept { ahead, behind, next } where
  later := later
  ahead := fun _ listed => .inl (fewerAhead.subset listed)
  behind := ⟨kept, added, parts, fewerBehind, new⟩

end Gap.Kept

namespace ConversationState

variable (conv : ConversationState)

/-- The anchor stands in front of the row of an index, or at the end. -/
structure AnchoredAt (index : Nat) : Prop where
  anchor : conv.anchor = some ((conv.trimmed : Int) + index)
  inside : index ≤ conv.messages.length

/-- The gap in front of the row of an index. -/
def gapAt (index : Nat) : Gap :=
  { ahead := (conv.messages.take index).map Message.sequence
    behind := (conv.messages.drop index).map Message.sequence
    next := conv.nextSequence }

/-- An anchor names a row or the end. -/
def Usable : Prop := ∀ anchor, conv.anchor = some anchor → ∃ index, conv.AnchoredAt index

/-- What is left of a conversation has an anchor in the same gap, or none. -/
def KeepsGap (touched : ConversationState) : Prop :=
  ∀ anchor, touched.anchor = some anchor →
    ∃ index moved, conv.AnchoredAt index ∧ touched.AnchoredAt moved ∧
      (conv.gapAt index).Kept (touched.gapAt moved)

variable {conv} {touched next : ConversationState} {index other : Nat}

theorem AnchoredAt.unique (first : conv.AnchoredAt index) (second : conv.AnchoredAt other) :
    index = other := by
  have same := first.anchor.symm.trans second.anchor
  rw [Option.some.injEq] at same
  omega

/-- A usable anchor is between the trimmed rows and the end. -/
theorem AnchoredAt.bounds (anchored : conv.AnchoredAt index) {anchor : Int}
    (named : conv.anchor = some anchor) :
    conv.trimmed ≤ anchor ∧ anchor ≤ conv.trimmed + conv.messages.length := by
  have same := anchored.anchor.symm.trans named
  have inside := anchored.inside
  rw [Option.some.injEq] at same
  omega

/-- An anchor between the trimmed rows and the end is usable. -/
theorem Usable.of_bounds
    (bounds : ∀ anchor, conv.anchor = some anchor →
      (conv.trimmed : Int) ≤ anchor ∧ anchor ≤ conv.trimmed + conv.messages.length) :
    conv.Usable := by
  intro anchor named
  obtain ⟨first, last⟩ := bounds anchor named
  refine ⟨(anchor - conv.trimmed).toNat, ?_, by omega⟩
  rw [named]
  congr 1
  omega

theorem KeepsGap.refl (usable : conv.Usable) : conv.KeepsGap conv := by
  intro anchor named
  obtain ⟨index, anchored⟩ := usable anchor named
  exact ⟨index, index, anchored, anchored, .refl _⟩

theorem KeepsGap.usable (keeps : conv.KeepsGap touched) : touched.Usable := by
  intro anchor named
  obtain ⟨_, moved, _, anchored, _⟩ := keeps anchor named
  exact ⟨moved, anchored⟩

theorem KeepsGap.trans (first : conv.KeepsGap touched) (second : touched.KeepsGap next) :
    conv.KeepsGap next := by
  intro anchor named
  obtain ⟨middle, last, middleAnchored, lastAnchored, kept⟩ := second anchor named
  obtain ⟨index, moved, anchored, movedAnchored, before⟩ := first _ middleAnchored.anchor
  have same := movedAnchored.unique middleAnchored
  subst same
  exact ⟨index, last, anchored, lastAnchored, before.trans kept⟩

/-- A conversation with no anchor keeps any gap. -/
theorem KeepsGap.of_none (none : touched.anchor = none) : conv.KeepsGap touched := by
  intro anchor named
  rw [none] at named
  cases named

/-- Rows with the same sequences around the same anchor keep the gap. -/
theorem KeepsGap.congr (usable : conv.Usable) (anchor : touched.anchor = conv.anchor)
    (trimmed : touched.trimmed = conv.trimmed)
    (rows : touched.messages.map Message.sequence = conv.messages.map Message.sequence)
    (later : conv.nextSequence ≤ touched.nextSequence) : conv.KeepsGap touched := by
  intro position named
  rw [anchor] at named
  obtain ⟨index, anchored⟩ := usable position named
  have sizes := congrArg List.length rows
  rw [List.length_map, List.length_map] at sizes
  refine ⟨index, index, anchored, ⟨?_, ?_⟩, ?_⟩
  · rw [anchor, trimmed]
    exact anchored.anchor
  · rw [sizes]
    exact anchored.inside
  · refine Gap.Kept.shrink later ?_ (List.append_nil _).symm ?_ (by simp)
    · rw [List.map_take, rows, ← List.map_take]
      exact .refl _
    · rw [List.map_drop, rows, ← List.map_drop]
      exact .refl _

theorem moveAnchor_anchor (move : Int → Int) :
    (conv.moveAnchor move).anchor = conv.anchor.map move := by
  unfold moveAnchor onChannel anchor
  cases conv.channel with
  | none => rfl
  | some channel =>
      cases named : channel.historyAnchor with
      | none => simp [named]
      | some anchor => simp [named]

theorem dropAnchor_anchor : conv.dropAnchor.anchor = none := by
  unfold dropAnchor onChannel anchor
  cases conv.channel with
  | none => rfl
  | some channel => rfl

/-- A change of the channel half that keeps its anchor keeps the anchor. -/
theorem onChannel_anchor {change : ChannelState → ChannelState}
    (kept : ∀ channel, conv.channel = some channel →
      (change channel).historyAnchor = channel.historyAnchor) :
    (conv.onChannel change).anchor = conv.anchor := by
  unfold onChannel anchor
  cases whole : conv.channel with
  | none => rfl
  | some channel =>
      have same := kept channel whole
      simp [same]

end ConversationState

open ConversationState

variable {Disk : Type} {conv : ConversationState}

section Rows

theorem know_anchor (conv : ConversationState) (msgid : MsgId) :
    (conv.know msgid).anchor = conv.anchor := by
  unfold ConversationState.know
  split
  · rfl
  · rfl

theorem know_trimmed (conv : ConversationState) (msgid : MsgId) :
    (conv.know msgid).trimmed = conv.trimmed := by
  unfold ConversationState.know
  split
  · rfl
  · rfl

/-- A row admitted at the tail keeps the gap. -/
theorem admitMessage_keepsGap (usable : conv.Usable) (row : Message) :
    conv.KeepsGap (admitMessage (conv.know row.msgid) row) := by
  intro anchor named
  have same : (admitMessage (conv.know row.msgid) row).anchor = conv.anchor :=
    know_anchor conv row.msgid
  have trimmed : (admitMessage (conv.know row.msgid) row).trimmed = conv.trimmed :=
    know_trimmed conv row.msgid
  have rows : (admitMessage (conv.know row.msgid) row).messages =
      conv.messages ++ [{ row with sequence := conv.nextSequence }] := by
    rw [admitMessage, know_messages, know_nextSequence]
  have next : (admitMessage (conv.know row.msgid) row).nextSequence = conv.nextSequence + 1 := by
    rw [admitMessage, know_nextSequence]
  rw [same] at named
  obtain ⟨index, anchored⟩ := usable anchor named
  have inside := anchored.inside
  refine ⟨index, index, anchored, ⟨?_, ?_⟩, ?_⟩
  · rw [same, trimmed]
    exact anchored.anchor
  · rw [rows, List.length_append]
    omega
  · rw [gapAt, gapAt, rows, next, List.take_append_of_le_length inside,
      List.drop_append_of_le_length inside]
    refine Gap.Kept.shrink (by dsimp only; omega) (.refl _) List.map_append (.refl _) ?_
    intro sequence listed
    rw [List.map_singleton, List.mem_singleton] at listed
    exact listed ▸ le_rfl

/-- The cap at the head keeps the gap, or drops the anchor with the rows around it. -/
theorem capMessages_keepsGap (usable : conv.Usable) (facts : Facts Disk) :
    conv.KeepsGap (capMessages facts conv).2 := by
  unfold capMessages capWithPolicy
  split
  · exact .refl usable
  · rename_i exceeds
    rw [if_pos rfl]
    dsimp only
    rw [forgetRows_eq]
    generalize extra : conv.messages.length - maxMessages = gone
    cases named : conv.anchor with
    | none =>
        have none : ({ conv with
            messageIds := forgottenIds conv.messageIds (conv.messages.take gone)
            messages := conv.messages.drop gone
            trimmed := conv.trimmed + gone } : ConversationState).anchor = none := named
        rw [none]
        exact .of_none none
    | some anchor =>
        have some : ({ conv with
            messageIds := forgottenIds conv.messageIds (conv.messages.take gone)
            messages := conv.messages.drop gone
            trimmed := conv.trimmed + gone } : ConversationState).anchor = some anchor := named
        rw [some]
        dsimp only
        split
        · exact .of_none dropAnchor_anchor
        · rename_i kept
          intro position _
          obtain ⟨index, anchored⟩ := usable anchor named
          have inside := anchored.inside
          have equal := anchored.anchor.symm.trans named
          rw [Option.some.injEq] at equal
          have after : gone ≤ index := by omega
          refine ⟨index, index - gone, anchored, ⟨?_, ?_⟩, ?_⟩
          · rw [some, ← equal]
            congr 1
            dsimp only
            omega
          · dsimp only
            rw [List.length_drop]
            omega
          · refine Gap.Kept.shrink le_rfl ?_ (List.append_nil _).symm ?_ (by simp)
            · rw [← List.drop_take]
              exact (List.drop_sublist ..).map _
            · rw [List.drop_drop, Nat.add_sub_cancel' after]
              exact .refl _

/-- The cap at the tail keeps a gap that is within the cap. -/
theorem capMessagesPreferTail_keepsGap (usable : conv.Usable) (facts : Facts Disk)
    (fits : ∀ anchor, conv.anchor = some anchor → anchor - conv.trimmed ≤ maxMessages) :
    conv.KeepsGap (capMessagesPreferTail facts conv).2 := by
  unfold capMessagesPreferTail capWithPolicy
  split
  · exact .refl usable
  · rename_i exceeds
    rw [if_neg Bool.false_ne_true]
    dsimp only
    rw [forgetRows_eq]
    intro position named
    obtain ⟨index, anchored⟩ := usable position named
    have within := fits _ anchored.anchor
    have size : conv.messages.length - (conv.messages.length - maxMessages) = maxMessages := by
      omega
    refine ⟨index, index, anchored, ⟨anchored.anchor, ?_⟩, ?_⟩
    · dsimp only
      rw [List.length_take]
      omega
    · rw [gapAt, gapAt]
      dsimp only
      rw [size, List.take_take, min_eq_left (by omega), List.drop_take]
      exact Gap.Kept.shrink le_rfl (.refl _) (List.append_nil _).symm
        ((List.take_sublist ..).map _) (by simp)

/-- Dropping the newest row keeps the gap. -/
theorem dropLastTranscriptRow_keepsGap (usable : conv.Usable) (facts : Facts Disk) :
    conv.KeepsGap (dropLastTranscriptRow facts conv).2 := by
  cases newest : conv.messages.getLast? with
  | none =>
      rw [dropLastTranscriptRow_none facts newest]
      exact .refl usable
  | some last =>
      rw [dropLastTranscriptRow_eq facts newest]
      obtain ⟨before, whole⟩ := List.getLast?_eq_some_iff.mp newest
      rw [whole, List.dropLast_concat]
      intro position named
      rw [moveAnchor_anchor] at named
      obtain ⟨anchor, was, _⟩ := Option.map_eq_some_iff.mp named
      obtain ⟨index, anchored⟩ := usable anchor was
      have inside := anchored.inside
      rw [whole, List.length_append, List.length_singleton] at inside
      have there : ({ conv with
          messages := before
          messageIds :=
            if last.msgid = "" then conv.messageIds else conv.messageIds.erase last.msgid } :
          ConversationState).anchor = some ((conv.trimmed : Int) + index) := anchored.anchor
      rcases Nat.lt_or_eq_of_le inside with ahead | final
      · refine ⟨index, index, anchored, ⟨?_, Nat.le_of_lt_succ ahead⟩, ?_⟩
        · rw [moveAnchor_anchor, there, Option.map_some, List.length_append,
            List.length_singleton, if_neg (by omega)]
          rfl
        · rw [gapAt, whole, List.take_append_of_le_length (Nat.le_of_lt_succ ahead),
            List.drop_append_of_le_length (Nat.le_of_lt_succ ahead), List.map_append]
          exact Gap.Kept.shrink le_rfl (.refl _) (List.append_nil _).symm
            (List.sublist_append_left ..) (by simp)
      · subst final
        refine ⟨_, before.length, anchored, ⟨?_, le_rfl⟩, ?_⟩
        · rw [moveAnchor_anchor, there, Option.map_some, List.length_append,
            List.length_singleton, if_pos (by omega)]
          congr 1
          dsimp only [moveAnchor, onChannel]
          omega
        · rw [gapAt, whole, List.take_of_length_le (by simp)]
          refine Gap.Kept.shrink le_rfl ?_ (List.append_nil _).symm ?_ (by simp)
          · dsimp only [moveAnchor, onChannel]
            rw [List.take_length]
            exact (List.sublist_append_left ..).map _
          · dsimp only [moveAnchor, onChannel]
            rw [List.drop_length]
            exact List.nil_sublist _

/-- A row that goes from in front of the anchor keeps the gap. -/
theorem eraseIdx_keepsGap (usable : conv.Usable) (messageIds : Finset MsgId) {index : Nat}
    (ahead : ∀ other, conv.AnchoredAt other → index < other) {touched : ConversationState}
    (same : touched = ConversationState.moveAnchor
      { conv with messageIds, messages := conv.messages.eraseIdx index }
      fun anchor => if anchor - conv.trimmed > index then anchor - 1 else anchor) :
    conv.KeepsGap touched ∧ ∀ other, touched.AnchoredAt other → index ≤ other := by
  subst same
  have parts : ∀ anchor, (ConversationState.moveAnchor
      { conv with messageIds, messages := conv.messages.eraseIdx index }
      fun anchor => if anchor - conv.trimmed > index then anchor - 1 else anchor).anchor =
        some anchor →
      ∃ other, conv.AnchoredAt other ∧ anchor = (conv.trimmed : Int) + (other - 1 : Nat) := by
    intro anchor named
    rw [moveAnchor_anchor] at named
    obtain ⟨was, there, moved⟩ := Option.map_eq_some_iff.mp named
    obtain ⟨other, anchored⟩ := usable was there
    have past := ahead other anchored
    have equal := there.symm.trans anchored.anchor
    rw [Option.some.injEq] at equal
    rw [if_pos (by omega)] at moved
    exact ⟨other, anchored, by omega⟩
  constructor
  · intro anchor named
    obtain ⟨other, anchored, equal⟩ := parts anchor named
    have past := ahead other anchored
    have inside := anchored.inside
    refine ⟨other, other - 1, anchored, ⟨named.trans (congrArg some equal), ?_⟩, ?_⟩
    · dsimp only [moveAnchor, onChannel]
      rw [List.length_eraseIdx_of_lt (by omega)]
      omega
    · rw [gapAt, gapAt]
      dsimp only [moveAnchor, onChannel]
      have size : (conv.messages.take other).length = other := by
        rw [List.length_take, min_eq_left inside]
      have erased : conv.messages.eraseIdx index =
          (conv.messages.take other).eraseIdx index ++ conv.messages.drop other := by
        rw [← List.eraseIdx_append_of_lt_length (by omega), List.take_append_drop]
      have less : ((conv.messages.take other).eraseIdx index).length = other - 1 := by
        rw [List.length_eraseIdx_of_lt (by omega), size]
      rw [erased, List.take_left' less, List.drop_left' less]
      exact Gap.Kept.shrink le_rfl ((List.eraseIdx_sublist ..).map _) (List.append_nil _).symm
        (.refl _) (by simp)
  · intro other anchored
    obtain ⟨before, was, equal⟩ := parts _ anchored.anchor
    have past := ahead before was
    dsimp only [moveAnchor, onChannel] at equal
    omega

end Rows

section Splices

/-- What a running splice keeps of the gap of the conversation it started from: the splice
point is in front of the anchor, and the run is newer than every row there was. -/
structure SpliceGap (conv : ConversationState) (splice : Splice Disk) : Prop where
  keeps : conv.KeepsGap splice.conv
  inFront : ∀ index, splice.conv.AnchoredAt index → splice.at_ ≤ index
  grown : conv.nextSequence ≤ splice.conv.nextSequence
  newer : ∀ row ∈ splice.run, conv.nextSequence ≤ row.sequence
  capTail : splice.conv.historyPageCapTail = conv.historyPageCapTail

namespace SpliceGap

variable {splice : Splice Disk}

/-- A change that keeps the rows and the anchor, and adds newer rows to the run. -/
theorem congr (gap : SpliceGap conv splice) {next : Splice Disk}
    (anchor : next.conv.anchor = splice.conv.anchor)
    (trimmed : next.conv.trimmed = splice.conv.trimmed)
    (rows : next.conv.messages.map Message.sequence = splice.conv.messages.map Message.sequence)
    (later : splice.conv.nextSequence ≤ next.conv.nextSequence)
    (capTail : next.conv.historyPageCapTail = splice.conv.historyPageCapTail)
    (point : next.at_ = splice.at_)
    (run : ∀ row ∈ next.run, (∃ before ∈ splice.run, before.sequence = row.sequence) ∨
      row.sequence = splice.conv.nextSequence) :
    SpliceGap conv next where
  keeps := gap.keeps.trans (.congr gap.keeps.usable anchor trimmed rows later)
  inFront := by
    intro index anchored
    have sizes := congrArg List.length rows
    rw [List.length_map, List.length_map] at sizes
    rw [point]
    refine gap.inFront index ⟨?_, ?_⟩
    · rw [← anchor, ← trimmed]
      exact anchored.anchor
    · rw [← sizes]
      exact anchored.inside
  grown := gap.grown.trans later
  newer := by
    intro row listed
    rcases run row listed with ⟨before, there, same⟩ | same
    · rw [← same]
      exact gap.newer before there
    · rw [same]
      exact gap.grown
  capTail := capTail.trans gap.capTail

theorem know (gap : SpliceGap conv splice) (msgid : MsgId) :
    SpliceGap conv (splice.know msgid) := by
  refine gap.congr (know_anchor ..) (know_trimmed ..) ?_ (know_nextSequence ..).ge ?_ rfl
    fun row listed => .inl ⟨row, listed, rfl⟩
  · exact congrArg _ (know_messages splice.conv msgid)
  · unfold Splice.know ConversationState.know
    dsimp only
    split
    · rfl
    · rfl

/-- A row added to the run keeps the gap. -/
theorem pushed (gap : SpliceGap conv splice) (row : Message)
    (numbers : row.sequence = splice.conv.nextSequence) (facts : Facts Disk) :
    SpliceGap conv
      { splice with
        facts
        conv := { splice.conv with nextSequence := splice.conv.nextSequence + 1 }
        run := splice.run ++ [row] } := by
  refine gap.congr rfl rfl rfl (Int.le_add_of_nonneg_right (by decide)) rfl rfl ?_
  intro other listed
  rcases List.mem_append.mp listed with before | last
  · exact .inl ⟨other, before, rfl⟩
  · rw [List.mem_singleton.mp last]
    exact .inr numbers

/-- A fold into the run keeps the gap. -/
theorem foldRun (gap : SpliceGap conv splice) {line : ReplayMembership}
    {result : Splice Disk × MembershipReplayResult} (folded : splice.foldRun line = some result) :
    SpliceGap conv result.1 := by
  obtain ⟨before, row, whole, ⟨rewritten, joined, rfl⟩ | ⟨_, rfl⟩⟩ := foldRun_cases folded
  · obtain ⟨_, _, same⟩ := foldInto_cases joined
    refine gap.congr rfl rfl rfl le_rfl rfl rfl ?_
    intro other listed
    rw [whole]
    rcases List.mem_append.mp listed with there | last
    · exact .inl ⟨other, List.mem_append_left _ there, rfl⟩
    · rw [List.mem_singleton.mp last, same]
      exact .inl ⟨row, List.mem_append_right _ (List.mem_singleton_self _), rfl⟩
  · rw [forgetTranscriptMsgid_conv]
    refine gap.congr rfl rfl rfl le_rfl rfl rfl ?_
    intro other listed
    rw [whole]
    exact .inl ⟨other, List.mem_append_left _ listed, rfl⟩

/-- A fold into the row above the splice point keeps the gap. -/
theorem foldTranscript (gap : SpliceGap conv splice) {line : ReplayMembership}
    {result : Splice Disk × MembershipReplayResult}
    (folded : splice.foldTranscript line = some result) : SpliceGap conv result.1 := by
  obtain ⟨index, row, above, there, ⟨rewritten, joined, rfl⟩ | ⟨_, rfl⟩⟩ := foldTranscript_cases folded
  · obtain ⟨_, _, same⟩ := foldInto_cases joined
    obtain ⟨inside, equal⟩ := List.getElem?_eq_some_iff.mp there
    refine gap.congr rfl rfl ?_ le_rfl rfl rfl fun other listed => .inl ⟨other, listed, rfl⟩
    have mapped : index < (splice.conv.messages.map Message.sequence).length := by simpa using inside
    have sequence : rewritten.sequence = (splice.conv.messages.map Message.sequence)[index] := by
      rw [List.getElem_map, equal, same]
    dsimp only
    rw [List.map_set, sequence]
    exact List.set_getElem_self _
  · have ahead : ∀ other, splice.conv.AnchoredAt other → index < other := by
      intro other anchored
      have point := gap.inFront other anchored
      omega
    rw [forgetTranscriptMsgid_conv]
    obtain ⟨kept, inFront⟩ := eraseIdx_keepsGap gap.keeps.usable _ ahead rfl
    exact ⟨gap.keeps.trans kept, inFront, gap.grown, gap.newer, gap.capTail⟩

/-- A membership line keeps the gap. -/
theorem admitMembershipReplay (gap : SpliceGap conv splice) (line : ReplayMembership) :
    SpliceGap conv (admitMembershipReplay splice line).1 := by
  rcases admitMembershipReplay_cases splice line with hidden | folded | folded | ⟨showEach, added⟩
  · rw [hidden]
    exact gap
  · exact gap.foldTranscript folded
  · exact gap.foldRun folded
  · rw [added]
    exact gap.pushed _ rfl splice.facts

variable [CharacterClasses]

/-- One replay line keeps the gap. -/
theorem admitReplayLine (gap : SpliceGap conv splice) (networkId : String) (line : ReplayLine) :
    SpliceGap conv (admitReplayLine splice networkId line).1 := by
  unfold Reducer.admitReplayLine
  split
  · exact gap
  · split
    · exact gap
    · split
      · exact (gap.know line.msgid).admitMembershipReplay (membershipOf line)
      · split
        · exact gap
        · exact (gap.know line.msgid).pushed _ (know_nextSequence ..).symm _

/-- The lines of a batch keep the gap. -/
theorem admitReplayLines (gap : SpliceGap conv splice) (networkId : String)
    (lines : List ReplayLine) : SpliceGap conv (admitReplayLines networkId splice lines).1 := by
  unfold Reducer.admitReplayLines
  generalize ([] : List PendingNote) = notes
  induction lines generalizing splice notes with
  | nil => exact gap
  | cons line rest inductionHypothesis =>
      exact inductionHypothesis (gap.admitReplayLine networkId line) _

omit [CharacterClasses] in
/-- Putting the run in place keeps the gap. -/
theorem landed (gap : SpliceGap conv splice) : conv.KeepsGap splice.landed := by
  intro anchor named
  unfold Splice.landed at named
  rw [moveAnchor_anchor] at named
  obtain ⟨before, there, moved⟩ := Option.map_eq_some_iff.mp named
  obtain ⟨index, place, anchored, placed, kept⟩ := gap.keeps before there
  have point := gap.inFront place placed
  have inside := placed.inside
  have equal := placed.anchor.symm.trans there
  rw [Option.some.injEq] at equal
  have first : min splice.at_ splice.conv.messages.length = splice.at_ := by omega
  have rows : splice.landed.messages = (splice.conv.messages.take splice.at_ ++ splice.run ++
      (splice.conv.messages.drop splice.at_).take (place - splice.at_)) ++
        splice.conv.messages.drop place := by
    have rest : (splice.conv.messages.drop splice.at_).drop (place - splice.at_) =
        splice.conv.messages.drop place := by
      rw [List.drop_drop, Nat.add_sub_cancel' point]
    rw [List.append_assoc, ← rest, List.take_append_drop]
    change splice.inserted.messages = _
    unfold Splice.inserted
    rw [first]
  have size : (splice.conv.messages.take splice.at_ ++ splice.run ++
      (splice.conv.messages.drop splice.at_).take (place - splice.at_)).length =
        place + splice.run.length := by
    rw [List.length_append, List.length_append, List.length_take, List.length_take,
      List.length_drop]
    omega
  refine ⟨index, place + splice.run.length, anchored, ⟨?_, ?_⟩, ?_⟩
  · unfold Splice.landed
    rw [moveAnchor_anchor, there, Option.map_some, ← equal]
    congr 1
    change _ = (splice.conv.trimmed : Int) + _
    omega
  · rw [rows, List.length_append, size]
    exact Nat.le_add_right ..
  · refine ⟨?_, ?_, ?_⟩
    · exact gap.grown
    · unfold gapAt
      rw [rows, List.take_left' size]
      intro sequence listed
      obtain ⟨row, present, rfl⟩ := List.mem_map.mp listed
      have old : row ∈ splice.conv.messages.take place →
          row.sequence ∈ (conv.gapAt index).ahead ∨ conv.nextSequence ≤ row.sequence :=
        fun present => kept.ahead row.sequence (List.mem_map_of_mem present)
      have parts : splice.conv.messages.take place = splice.conv.messages.take splice.at_ ++
          (splice.conv.messages.drop splice.at_).take (place - splice.at_) := by
        rw [← List.take_add, Nat.add_sub_cancel' point]
      rcases List.mem_append.mp present with early | late
      · rcases List.mem_append.mp early with top | ran
        · refine old ?_
          rw [parts]
          exact List.mem_append_left _ top
        · exact .inr (gap.newer row ran)
      · refine old ?_
        rw [parts]
        exact List.mem_append_right _ late
    · unfold gapAt
      rw [rows, List.drop_left' size]
      exact kept.behind

end SpliceGap

/-- An armed tail cap leaves the anchor its place: the rows ahead of it and the rows of the
page are within the cap. -/
def TailFits [CharacterClasses] (facts : Facts Disk) (conv : ConversationState)
    (event : HistoryEvent) : Prop :=
  event.kind = .chat → conv.historyPageCapTail = true →
    ∀ start, spliceStart conv event .consume = (conv, some start) →
      let splice := (admitReplayLines event.conversation.networkId { facts, conv, at_ := start }
        event.lines).1
      ∀ anchor, splice.conv.anchor = some anchor →
        anchor - splice.conv.trimmed + splice.run.length ≤ maxMessages

/-- An anchor names the index it stands at. -/
theorem spliceIndex_anchoredAt {index : Nat} {anchor : Int} (anchored : conv.AnchoredAt index)
    (named : conv.anchor = some anchor) : spliceIndex conv anchor = some index := by
  have equal := anchored.anchor.symm.trans named
  have inside := anchored.inside
  rw [Option.some.injEq] at equal
  unfold spliceIndex
  dsimp only
  rw [if_neg (by omega), ← equal]
  congr 1
  omega

/-- A channel with an anchor has it in its channel half. -/
theorem anchor_eq_some {channel : ChannelState} (whole : conv.channel = some channel) :
    conv.anchor = channel.historyAnchor.map TranscriptAnchor.sequence := by
  rw [ConversationState.anchor, whole, Option.bind_some]

/-- A batch that consumes a usable anchor lands at it. -/
theorem takeSpliceIndex_anchoredAt {index : Nat} (anchored : conv.AnchoredAt index) :
    takeSpliceIndex conv = (conv, some index) := by
  have there := anchored.anchor
  unfold takeSpliceIndex
  split
  · rename_i direct
    rw [ConversationState.anchor, direct] at there
    cases there
  · rename_i channel whole
    rw [anchor_eq_some whole] at there
    split
    · rename_i missing
      rw [missing] at there
      cases there
    · rename_i anchor found
      have named : conv.anchor = some anchor.sequence := by
        rw [anchor_eq_some whole, found]
        rfl
      rw [spliceIndex_anchoredAt anchored named]

/-- A batch that keeps a usable anchor lands at it. -/
theorem peekSpliceIndex_anchoredAt {index : Nat} (anchored : conv.AnchoredAt index) :
    peekSpliceIndex conv = some index := by
  have there := anchored.anchor
  unfold peekSpliceIndex
  split
  · rename_i direct
    rw [ConversationState.anchor, direct] at there
    cases there
  · rename_i channel whole
    rw [anchor_eq_some whole] at there
    split
    · rename_i missing
      rw [missing] at there
      cases there
    · rename_i anchor found
      refine spliceIndex_anchoredAt anchored ?_
      rw [anchor_eq_some whole, found]
      rfl

/-- A splice starts in front of the anchor. -/
theorem spliceStart_inFront {event : HistoryEvent} {anchorUse : AnchorUse}
    {started : ConversationState} {start : Nat}
    (starts : spliceStart conv event anchorUse = (started, some start)) {index : Nat}
    (anchored : conv.AnchoredAt index) : start ≤ index := by
  unfold spliceStart at starts
  rw [takeSpliceIndex_anchoredAt anchored, peekSpliceIndex_anchoredAt anchored] at starts
  cases anchorUse with
  | keep =>
      cases starts
      exact le_rfl
  | consume =>
      dsimp only at starts
      split at starts
      · cases starts
        exact Nat.zero_le _
      · cases starts
        exact le_rfl

/-- The batch of a splice that consumes the anchor leaves the tail cap its place. -/
theorem SpliceGap.placed [Storage Disk] {splice : Splice Disk} (gap : SpliceGap conv splice)
    (event : HistoryEvent) (previousSize : Nat)
    (fits : event.kind = .chat → conv.historyPageCapTail = true →
      ∀ anchor, splice.conv.anchor = some anchor →
        anchor - splice.conv.trimmed + splice.run.length ≤ maxMessages) :
    conv.KeepsGap (splice.placed event previousSize).2 := by
  obtain ⟨spliceEpoch, ⟨_, same⟩ | ⟨armed, page, same⟩⟩ := placed_cases splice event previousSize
  · rw [same]
    have epoch : conv.KeepsGap { splice.landed with spliceEpoch } :=
      gap.landed.trans (.congr gap.landed.usable rfl rfl rfl le_rfl)
    exact epoch.trans (capMessages_keepsGap epoch.usable _)
  · rw [same]
    have epoch : conv.KeepsGap { splice.landed with spliceEpoch, historyPageCapTail := false } :=
      gap.landed.trans (.congr gap.landed.usable rfl rfl rfl le_rfl)
    refine epoch.trans (capMessagesPreferTail_keepsGap epoch.usable _ ?_)
    intro anchor named
    have named : splice.landed.anchor = some anchor := named
    unfold Splice.landed at named
    rw [moveAnchor_anchor] at named
    obtain ⟨before, there, moved⟩ := Option.map_eq_some_iff.mp named
    have within := fits page (gap.capTail.symm.trans armed) before there
    change anchor - (splice.conv.trimmed : Int) ≤ _
    omega

variable [CharacterClasses] [Storage Disk]

/-- A splice keeps the gap when the tail cap leaves the anchor its place. -/
theorem spliceHistory_keepsGap (usable : conv.Usable) {facts : Facts Disk} {event : HistoryEvent}
    {anchorUse : AnchorUse} (fits : TailFits facts conv event)
    (consumed : event.kind = .chat → anchorUse = .consume) :
    conv.KeepsGap (spliceHistory facts conv event anchorUse).2 := by
  rcases spliceStart_cases conv event anchorUse with kept | stopped
  · unfold spliceHistory
    split
    · rename_i started stops
      rw [stops] at kept
      have same : conv = started := kept.symm
      subst same
      exact .refl usable
    · rename_i started point starts
      rw [starts] at kept
      have same : conv = started := kept.symm
      subst same
      have begun : SpliceGap conv ({ facts, conv, at_ := point } : Splice Disk) :=
        ⟨.refl usable, fun _ anchored => spliceStart_inFront starts anchored, le_rfl,
          by simp, rfl⟩
      have lines := begun.admitReplayLines event.conversation.networkId event.lines
      have within : event.kind = .chat → conv.historyPageCapTail = true → _ :=
        fun page armed => fits page armed point (consumed page ▸ starts)
      dsimp only at within ⊢
      generalize admitReplayLines event.conversation.networkId
        ({ facts, conv, at_ := point } : Splice Disk) event.lines = outcome at lines within ⊢
      split
      · obtain ⟨_, same⟩ := disarmTailCap_cases outcome.1.conv event
        rw [same]
        exact lines.keeps.trans (.congr lines.keeps.usable rfl rfl rfl le_rfl)
      · have still : SpliceGap conv { outcome.1 with
            facts := rememberQuery outcome.1.facts outcome.1.conv event } :=
          ⟨lines.keeps, lines.inFront, lines.grown, lines.newer, lines.capTail⟩
        have placed := still.placed event conv.messages.length within
        obtain ⟨_, _, _, same⟩ := noteRun_cases event outcome.1.run
          (Splice.placed { outcome.1 with
            facts := rememberQuery outcome.1.facts outcome.1.conv event } event
            conv.messages.length).1
          (Splice.placed { outcome.1 with
            facts := rememberQuery outcome.1.facts outcome.1.conv event } event
            conv.messages.length).2
        rw [same]
        exact placed.trans (.congr placed.usable rfl rfl rfl le_rfl)
  · unfold spliceHistory
    rw [stopped]
    exact .of_none dropAnchor_anchor

omit [CharacterClasses] in
/-- A run placed with an armed tail cap strands an anchor that it pushes past the cap. -/
theorem placed_stranded (splice : Splice Disk) {event : HistoryEvent} (page : event.kind = .chat)
    (armed : splice.conv.historyPageCapTail = true) {index : Nat}
    (anchored : splice.conv.AnchoredAt index) (exceeds : maxMessages < index + splice.run.length)
    (previousSize : Nat) : ¬(splice.placed event previousSize).2.Usable := by
  obtain ⟨spliceEpoch, ⟨unarmed, _⟩ | ⟨_, _, same⟩⟩ := placed_cases splice event previousSize
  · exact absurd ⟨armed, page⟩ unarmed
  · have size : splice.landed.messages.length =
        splice.conv.messages.length + splice.run.length := by
      change splice.inserted.messages.length = _
      unfold Splice.inserted
      rw [List.length_append, List.length_append, List.length_take, List.length_drop]
      omega
    have inside := anchored.inside
    have moved : splice.landed.anchor =
        some ((splice.landed.trimmed : Int) + index + splice.run.length) := by
      unfold Splice.landed
      rw [moveAnchor_anchor]
      have there : splice.inserted.anchor = some ((splice.conv.trimmed : Int) + index) :=
        anchored.anchor
      rw [there]
      rfl
    intro usable
    rw [same] at usable
    unfold capMessagesPreferTail capWithPolicy at usable
    have full : ¬splice.landed.messages.length ≤ maxMessages := by omega
    rw [if_neg full, if_neg Bool.false_ne_true] at usable
    dsimp only at usable
    rw [forgetRows_eq] at usable
    obtain ⟨kept, still⟩ := usable _ moved
    have place := still.anchor.symm.trans moved
    have last := still.inside
    dsimp only at place last
    rw [List.length_take] at last
    rw [Option.some.injEq] at place
    omega

/-- A page that consumes the anchor keeps it usable only when the tail cap leaves it its
place. -/
theorem spliceHistory_strands (law : TranscriptLaw conv) (usable : conv.Usable)
    {facts : Facts Disk} {event : HistoryEvent} (strands : ¬TailFits facts conv event) :
    ¬(spliceHistory facts conv event .consume).2.Usable := by
  obtain ⟨page, armed, start, starts, anchor, named, exceeds⟩ : event.kind = .chat ∧
      conv.historyPageCapTail = true ∧ ∃ start, spliceStart conv event .consume = (conv, some start) ∧
        ∃ anchor, (admitReplayLines event.conversation.networkId { facts, conv, at_ := start }
            event.lines).1.conv.anchor = some anchor ∧
          maxMessages < anchor - (admitReplayLines event.conversation.networkId
              { facts, conv, at_ := start } event.lines).1.conv.trimmed +
            (admitReplayLines event.conversation.networkId { facts, conv, at_ := start }
              event.lines).1.run.length := by
    unfold TailFits at strands
    dsimp only at strands
    push Not at strands
    exact strands
  have begun : SpliceGap conv ({ facts, conv, at_ := start } : Splice Disk) :=
    ⟨.refl usable, fun _ anchored => spliceStart_inFront starts anchored, le_rfl, by simp, rfl⟩
  have numbered : SpliceLaw ({ facts, conv, at_ := start } : Splice Disk) := by
    refine ⟨?_, law.capped⟩
    unfold Splice.rows
    rw [List.append_nil]
    exact law.numbered
  have gap := begun.admitReplayLines event.conversation.networkId event.lines
  have capped := (numbered.admitReplayLines event.conversation.networkId event.lines).capped
  unfold spliceHistory
  rw [starts]
  dsimp only
  generalize admitReplayLines event.conversation.networkId
    ({ facts, conv, at_ := start } : Splice Disk) event.lines = outcome at gap capped named exceeds ⊢
  obtain ⟨index, anchored⟩ := gap.keeps.usable anchor named
  have bounds := anchored.bounds named
  have place := anchored.anchor.symm.trans named
  rw [Option.some.injEq] at place
  have filled : outcome.1.run ≠ [] := by
    intro empty
    rw [empty] at exceeds
    simp only [List.length_nil] at exceeds
    omega
  rw [if_neg filled]
  have stranded := placed_stranded
    { outcome.1 with facts := rememberQuery outcome.1.facts outcome.1.conv event } page
    (gap.capTail.trans armed) anchored (by dsimp only; omega) conv.messages.length
  obtain ⟨_, _, _, same⟩ := noteRun_cases event outcome.1.run
    (Splice.placed { outcome.1 with
      facts := rememberQuery outcome.1.facts outcome.1.conv event } event
      conv.messages.length).1
    (Splice.placed { outcome.1 with
      facts := rememberQuery outcome.1.facts outcome.1.conv event } event
      conv.messages.length).2
  rw [same]
  intro kept
  refine stranded fun position there => ?_
  obtain ⟨place, still⟩ := kept position there
  exact ⟨place, still.anchor, still.inside⟩

end Splices

end Omairc.Irc.Reducer

import Omairc.Irc.Reducer.TranscriptRuns

/-!
# Badges along every run

Every move keeps the law of the counts of every conversation, and the muted flag in step with
the muted keys, as long as a renamed conversation brings no mentions into a muted one, no
unread rows without their boundary, and no flag that the key it moves to does not have.
-/

namespace Omairc.Irc.Reducer

open Omairc.Text

/-- A change that counts nothing: the counts, the boundary and the mute stay, and every row
has a sequence that stood before or was handed out since. -/
structure ConversationState.Uncounted (conv later : ConversationState) : Prop where
  unread : later.unread = conv.unread
  mentions : later.mentions = conv.mentions
  unreadMark : later.unreadMark = conv.unreadMark
  muted : later.muted = conv.muted
  grown : conv.nextSequence ≤ later.nextSequence
  rows : ∀ row ∈ later.messages, (∃ before ∈ conv.messages, before.sequence = row.sequence) ∨
    conv.nextSequence ≤ row.sequence ∧ row.sequence < later.nextSequence

namespace ConversationState.Uncounted

variable {conv middle later : ConversationState}

theorem refl (conv : ConversationState) : conv.Uncounted conv :=
  ⟨rfl, rfl, rfl, rfl, le_rfl, fun row listed => .inl ⟨row, listed, rfl⟩⟩

theorem trans (first : conv.Uncounted middle) (second : middle.Uncounted later) :
    conv.Uncounted later where
  unread := second.unread.trans first.unread
  mentions := second.mentions.trans first.mentions
  unreadMark := second.unreadMark.trans first.unreadMark
  muted := second.muted.trans first.muted
  grown := first.grown.trans second.grown
  rows := by
    intro row listed
    rcases second.rows row listed with ⟨before, there, same⟩ | ⟨newer, less⟩
    · rw [← same]
      rcases first.rows before there with old | ⟨newer, less⟩
      · exact .inl old
      · exact .inr ⟨newer, less.trans_le second.grown⟩
    · exact .inr ⟨first.grown.trans newer, less⟩

/-- A change that counts nothing takes no sequence back. -/
theorem issued (alike : conv.Uncounted later) {sequence : Int} (issued : conv.Issued sequence) :
    later.Issued sequence :=
  ⟨issued.1, issued.2.trans_le alike.grown⟩

/-- A change that counts nothing keeps the law. -/
theorem badged (alike : conv.Uncounted later) (badged : conv.Badged) : later.Badged where
  mentions := by
    rw [alike.mentions, alike.unread]
    exact badged.mentions
  marked := by
    rw [alike.unread, alike.unreadMark]
    exact badged.marked
  arrived := by
    intro mark there
    rw [alike.unreadMark] at there
    exact alike.issued (badged.arrived mark there)
  silent := by
    rw [alike.muted, alike.mentions]
    exact badged.silent
  issued := by
    intro row listed
    rcases alike.rows row listed with ⟨before, there, same⟩ | ⟨newer, less⟩
    · rw [← same]
      exact alike.issued (badged.issued before there)
    · exact ⟨badged.counted.trans newer, less⟩
  counted := badged.counted.trans alike.grown

end ConversationState.Uncounted

section Operations

variable {Disk : Type}

theorem know_uncounted (conv : ConversationState) (msgid : MsgId) :
    conv.Uncounted (conv.know msgid) := by
  unfold ConversationState.know
  split
  · exact .refl conv
  · exact ⟨rfl, rfl, rfl, rfl, le_rfl, fun row listed => .inl ⟨row, listed, rfl⟩⟩

theorem know_unreadMark (conv : ConversationState) (msgid : MsgId) :
    (conv.know msgid).unreadMark = conv.unreadMark :=
  (know_uncounted conv msgid).unreadMark

theorem admitMessage_uncounted (conv : ConversationState) (row : Message) :
    conv.Uncounted (admitMessage conv row) := by
  have grown : conv.nextSequence < conv.nextSequence + 1 := Int.lt_succ _
  refine ⟨rfl, rfl, rfl, rfl, grown.le, fun other listed => ?_⟩
  rcases List.mem_append.mp listed with before | last
  · exact .inl ⟨other, before, rfl⟩
  · rw [List.mem_singleton.mp last]
    exact .inr ⟨le_rfl, grown⟩

theorem capWithPolicy_uncounted (facts : Facts Disk) (conv : ConversationState)
    (dropFromHead : Bool) : conv.Uncounted (capWithPolicy facts conv dropFromHead).2 := by
  rcases capWithPolicy_cases facts conv dropFromHead with
    ⟨_, same⟩ | ⟨_, gone, kept, channel, trimmed, parts, _, same⟩
  · rw [same]
    exact .refl conv
  · rw [same]
    refine ⟨rfl, rfl, rfl, rfl, le_rfl, fun row listed => .inl ⟨row, ?_, rfl⟩⟩
    exact parts.mem_iff.mp (List.mem_append_right gone listed)

theorem dropLastTranscriptRow_uncounted (facts : Facts Disk) (conv : ConversationState) :
    conv.Uncounted (dropLastTranscriptRow facts conv).2 := by
  cases newest : conv.messages.getLast? with
  | none =>
      rw [dropLastTranscriptRow_none facts newest]
      exact .refl conv
  | some last =>
      rw [dropLastTranscriptRow_eq facts newest]
      exact ⟨rfl, rfl, rfl, rfl, le_rfl,
        fun row listed => .inl ⟨row, List.dropLast_subset _ listed, rfl⟩⟩

/-- A splice seen as one transcript: the rows there are, and those of the run. -/
def Splice.whole (splice : Splice Disk) : ConversationState :=
  { splice.conv with messages := splice.rows }

variable (splice : Splice Disk)

theorem splice_know_uncounted (msgid : MsgId) :
    splice.whole.Uncounted (splice.know msgid).whole := by
  have same := know_uncounted splice.conv msgid
  refine ⟨same.unread, same.mentions, same.unreadMark, same.muted, same.grown, fun row listed => ?_⟩
  unfold Splice.whole Splice.rows Splice.know at listed
  dsimp only at listed
  rw [know_messages] at listed
  exact .inl ⟨row, listed, rfl⟩

/-- A row added to the run is of the next sequence. -/
theorem splice_pushed_uncounted (row : Message) (numbers : row.sequence = splice.conv.nextSequence)
    (facts : Facts Disk) :
    splice.whole.Uncounted (Splice.whole
      { splice with
        facts
        conv := { splice.conv with nextSequence := splice.conv.nextSequence + 1 }
        run := splice.run ++ [row] }) := by
  have grown : splice.conv.nextSequence < splice.conv.nextSequence + 1 := Int.lt_succ _
  refine ⟨rfl, rfl, rfl, rfl, grown.le, fun other listed => ?_⟩
  unfold Splice.whole Splice.rows at listed
  dsimp only at listed
  rw [← List.append_assoc] at listed
  rcases List.mem_append.mp listed with before | last
  · exact .inl ⟨other, before, rfl⟩
  · rw [List.mem_singleton.mp last, numbers]
    exact .inr ⟨le_rfl, grown⟩

theorem foldRun_uncounted {line : ReplayMembership}
    {result : Splice Disk × MembershipReplayResult} (folded : splice.foldRun line = some result) :
    splice.whole.Uncounted result.1.whole := by
  obtain ⟨before, row, whole, ⟨rewritten, joined, rfl⟩ | ⟨_, rfl⟩⟩ := foldRun_cases folded
  · obtain ⟨_, _, same⟩ := foldInto_cases joined
    refine ⟨rfl, rfl, rfl, rfl, le_rfl, fun other listed => .inl ?_⟩
    unfold Splice.whole Splice.rows at listed ⊢
    dsimp only at listed ⊢
    rw [whole, ← List.append_assoc]
    rw [← List.append_assoc] at listed
    rcases List.mem_append.mp listed with there | last
    · exact ⟨other, List.mem_append_left _ there, rfl⟩
    · refine ⟨row, List.mem_append_right _ (List.mem_singleton_self row), ?_⟩
      rw [List.mem_singleton.mp last, same]
  · rw [forgetTranscriptMsgid_conv]
    refine ⟨rfl, rfl, rfl, rfl, le_rfl, fun other listed => .inl ⟨other, ?_, rfl⟩⟩
    unfold Splice.whole Splice.rows at listed ⊢
    dsimp only at listed ⊢
    rw [whole, ← List.append_assoc]
    exact List.mem_append_left _ listed

theorem foldTranscript_uncounted {line : ReplayMembership}
    {result : Splice Disk × MembershipReplayResult}
    (folded : splice.foldTranscript line = some result) :
    splice.whole.Uncounted result.1.whole := by
  obtain ⟨index, row, _, there, ⟨rewritten, joined, rfl⟩ | ⟨_, rfl⟩⟩ := foldTranscript_cases folded
  · obtain ⟨_, _, same⟩ := foldInto_cases joined
    refine ⟨rfl, rfl, rfl, rfl, le_rfl, fun other listed => .inl ?_⟩
    rcases List.mem_append.mp listed with changed | ran
    · rcases List.mem_or_eq_of_mem_set changed with before | rfl
      · exact ⟨other, List.mem_append_left _ before, rfl⟩
      · refine ⟨row, List.mem_append_left _ (List.mem_of_getElem? there), ?_⟩
        rw [same]
    · exact ⟨other, List.mem_append_right _ ran, rfl⟩
  · rw [forgetTranscriptMsgid_conv]
    refine ⟨rfl, rfl, rfl, rfl, le_rfl, fun other listed => .inl ⟨other, ?_, rfl⟩⟩
    rcases List.mem_append.mp listed with left | ran
    · exact List.mem_append_left _ (List.mem_of_mem_eraseIdx left)
    · exact List.mem_append_right _ ran

theorem admitMembershipReplay_uncounted (line : ReplayMembership) :
    splice.whole.Uncounted (admitMembershipReplay splice line).1.whole := by
  rcases admitMembershipReplay_cases splice line with hidden | folded | folded | ⟨showEach, added⟩
  · rw [hidden]
    exact .refl _
  · exact foldTranscript_uncounted splice folded
  · exact foldRun_uncounted splice folded
  · rw [added]
    exact splice_pushed_uncounted splice _ rfl splice.facts

variable [CharacterClasses]

theorem admitReplayLine_uncounted (networkId : String) (line : ReplayLine) :
    splice.whole.Uncounted (admitReplayLine splice networkId line).1.whole := by
  unfold admitReplayLine
  split
  · exact .refl _
  · split
    · exact .refl _
    · have learned := splice_know_uncounted splice line.msgid
      split
      · exact learned.trans (admitMembershipReplay_uncounted ..)
      · split
        · exact .refl _
        · exact learned.trans
            (splice_pushed_uncounted (splice.know line.msgid) _ (know_nextSequence ..).symm _)

theorem admitReplayLines_uncounted (networkId : String) (lines : List ReplayLine) :
    splice.whole.Uncounted (admitReplayLines networkId splice lines).1.whole := by
  unfold admitReplayLines
  generalize ([] : List PendingNote) = notes
  induction lines generalizing splice notes with
  | nil => exact .refl _
  | cons line rest inductionHypothesis =>
      exact (admitReplayLine_uncounted splice networkId line).trans (inductionHypothesis _ _)

/-- Noting the rows of a run, each of a sequence that was handed out, keeps the law. -/
theorem noteRun_badged (event : HistoryEvent) {run : List Message} (facts : Facts Disk)
    {conv : ConversationState} (badged : conv.Badged)
    (issued : ∀ row ∈ run, conv.Issued row.sequence) : (noteRun event run facts conv).2.Badged := by
  unfold noteRun
  induction run generalizing facts conv with
  | nil => exact badged
  | cons row rest inductionHypothesis =>
      rw [List.foldl_cons]
      have later : ∀ other ∈ rest, conv.Issued other.sequence :=
        fun other listed => issued other (List.mem_cons_of_mem _ listed)
      split
      · exact inductionHypothesis facts badged later
      · have own := issued row List.mem_cons_self
        generalize whole : ({ author := row.author, body := row.body, kind := row.kind
                              msgid := row.msgid, sequence := row.sequence
                              serverTime := row.serverTime, origin := .replay
                              history := some event } : ChatArrival) = arrival
        have arrived : conv.Issued arrival.sequence := by
          rw [← whole]
          exact own
        obtain ⟨_, _, _, same⟩ := noteChatArrival_cases facts conv event.conversation arrival
        have still : ∀ other ∈ rest,
            (noteChatArrival facts conv event.conversation arrival).2.Issued other.sequence := by
          rw [same]
          exact later
        exact inductionHypothesis _ (badged.noteChatArrival facts event.conversation arrived) still

omit [CharacterClasses] in
/-- A run in place is the rows of the splice. -/
theorem landed_uncounted : splice.whole.Uncounted splice.landed := by
  refine ⟨rfl, rfl, rfl, rfl, le_rfl, fun row listed => .inl ⟨row, ?_, rfl⟩⟩
  rcases List.mem_append.mp listed with early | below
  · rcases List.mem_append.mp early with above | ran
    · exact List.mem_append_left _ (List.mem_of_mem_take above)
    · exact List.mem_append_right _ ran
  · exact List.mem_append_left _ (List.mem_of_mem_drop below)

omit [CharacterClasses] in
theorem placed_uncounted [Storage Disk] (event : HistoryEvent) (previousSize : Nat) :
    splice.whole.Uncounted (splice.placed event previousSize).2 := by
  have landed := landed_uncounted splice
  obtain ⟨spliceEpoch, ⟨_, same⟩ | ⟨_, _, same⟩⟩ := placed_cases splice event previousSize
  · rw [same]
    have epoch : splice.whole.Uncounted { splice.landed with spliceEpoch } :=
      ⟨landed.unread, landed.mentions, landed.unreadMark, landed.muted, landed.grown, landed.rows⟩
    exact epoch.trans (capWithPolicy_uncounted ..)
  · rw [same]
    have epoch : splice.whole.Uncounted
        { splice.landed with spliceEpoch, historyPageCapTail := false } :=
      ⟨landed.unread, landed.mentions, landed.unreadMark, landed.muted, landed.grown, landed.rows⟩
    exact epoch.trans (capWithPolicy_uncounted ..)

/-- A splice keeps the law of the counts. -/
theorem spliceHistory_badged [Storage Disk] (facts : Facts Disk) {conv : ConversationState}
    (badged : conv.Badged) (event : HistoryEvent) (anchorUse : AnchorUse) :
    (spliceHistory facts conv event anchorUse).2.Badged := by
  rcases spliceStart_cases conv event anchorUse with kept | stopped
  · unfold spliceHistory
    split
    · rename_i started stops
      rw [stops] at kept
      have same : conv = started := kept.symm
      subst same
      exact badged
    · rename_i started point starts
      rw [starts] at kept
      have same : conv = started := kept.symm
      subst same
      have begun : (Splice.whole { facts, conv, at_ := point }).Badged := by
        unfold Splice.whole Splice.rows
        rw [List.append_nil]
        exact badged
      have lines := (admitReplayLines_uncounted { facts, conv, at_ := point }
        event.conversation.networkId event.lines).badged begun
      dsimp only
      generalize admitReplayLines event.conversation.networkId
        ({ facts, conv, at_ := point } : Splice Disk) event.lines = outcome at lines ⊢
      split
      · obtain ⟨historyPageCapTail, same⟩ := disarmTailCap_cases outcome.1.conv event
        rw [same]
        have rows : outcome.1.whole.Uncounted { outcome.1.conv with historyPageCapTail } :=
          ⟨rfl, rfl, rfl, rfl, le_rfl,
            fun row listed => .inl ⟨row, List.mem_append_left _ listed, rfl⟩⟩
        exact rows.badged lines
      · have placed := placed_uncounted { outcome.1 with
          facts := rememberQuery outcome.1.facts outcome.1.conv event } event conv.messages.length
        have lines : (Splice.whole { outcome.1 with
          facts := rememberQuery outcome.1.facts outcome.1.conv event }).Badged := lines
        exact noteRun_badged event _ (placed.badged lines) fun row ran =>
          placed.issued (lines.issued row (List.mem_append_right _ ran))
  · unfold spliceHistory
    rw [stopped]
    have dropped : conv.Uncounted conv.dropAnchor :=
      ⟨rfl, rfl, rfl, rfl, le_rfl, fun row listed => .inl ⟨row, listed, rfl⟩⟩
    exact dropped.badged badged

end Operations

section Moves

variable {Disk : Type} [CharacterClasses] [Storage Disk] {rules : Rules Disk}

/-- A touch keeps the law of the counts. -/
theorem Touch.badged {facts : Facts Disk} {conv touched : ConversationState}
    (touch : Touch rules facts conv touched) (badged : conv.Badged) : touched.Badged := by
  have alike : ∀ later : ConversationState, later.unread = conv.unread →
      later.mentions = conv.mentions → later.unreadMark = conv.unreadMark →
      later.muted = conv.muted → later.nextSequence = conv.nextSequence →
      (∀ row ∈ later.messages, ∃ before ∈ conv.messages, before.sequence = row.sequence) →
      later.Badged := fun later unread mentions unreadMark muted next rows =>
    ConversationState.Uncounted.badged
      ⟨unread, mentions, unreadMark, muted, next.ge, fun row listed => .inl (rows row listed)⟩ badged
  cases touch with
  | counted typing unread mentions unreadMark readMarker historyPageCapTail kept =>
      exact kept badged
  | flagged mentioned =>
      refine alike _ rfl rfl rfl rfl rfl fun row listed => ?_
      obtain ⟨before, there, rfl⟩ := List.mem_map.mp listed
      exact ⟨before, there, rfl⟩
  | roster => exact alike _ rfl rfl rfl rfl rfl fun row listed => ⟨row, listed, rfl⟩
  | unanchored => exact alike _ rfl rfl rfl rfl rfl fun row listed => ⟨row, listed, rfl⟩
  | anchored => exact alike _ rfl rfl rfl rfl rfl fun row listed => ⟨row, listed, rfl⟩
  | admitted row =>
      exact ((know_uncounted conv row.msgid).trans ((admitMessage_uncounted ..).trans
        (capWithPolicy_uncounted ..))).badged badged
  | rewritten last body newest =>
      refine alike _ rfl rfl rfl rfl rfl fun row listed => ?_
      rcases List.mem_append.mp listed with before | final
      · exact ⟨row, List.dropLast_subset _ before, rfl⟩
      · rw [List.mem_singleton.mp final]
        exact ⟨last, List.mem_of_getLast? newest, rfl⟩
  | dropped => exact (dropLastTranscriptRow_uncounted facts conv).badged badged
  | spliced event anchorUse => exact spliceHistory_badged facts badged event anchorUse
  | cleared => exact alike _ rfl rfl rfl rfl rfl fun row listed => absurd listed List.not_mem_nil
  | retargeted => exact alike _ rfl rfl rfl rfl rfl fun row listed => ⟨row, listed, rfl⟩

/-- A touch keeps the mute. -/
theorem Touch.muted {facts : Facts Disk} {conv touched : ConversationState}
    (touch : Touch rules facts conv touched) : touched.muted = conv.muted := by
  cases touch with
  | counted => rfl
  | flagged => rfl
  | roster => rfl
  | unanchored => rfl
  | anchored => rfl
  | admitted row =>
      exact congrArg Identity.muted
        ((capWithPolicy_identity facts (admitMessage (conv.know row.msgid) row) true).trans
          (know_identity conv row.msgid))
  | rewritten => rfl
  | dropped => exact congrArg Identity.muted (dropLastTranscriptRow_identity facts conv)
  | spliced event anchorUse =>
      exact congrArg Identity.muted (spliceHistory_identity facts conv event anchorUse)
  | cleared => rfl
  | retargeted => rfl

theorem Touches.badged {facts changed : Facts Disk} {conv touched : ConversationState}
    (touches : Touches rules facts conv changed touched) (badged : conv.Badged) :
    touched.Badged := by
  induction touches with
  | refl => exact badged
  | framed prior same inductionHypothesis => exact inductionHypothesis
  | touch prior touch inductionHypothesis => exact touch.badged inductionHypothesis

theorem Touches.muted {facts changed : Facts Disk} {conv touched : ConversationState}
    (touches : Touches rules facts conv changed touched) : touched.muted = conv.muted := by
  induction touches with
  | refl => rfl
  | framed prior same inductionHypothesis => exact inductionHypothesis
  | touch prior touch inductionHypothesis => exact touch.muted.trans inductionHypothesis

/-- A conversation read back from the log counts nothing. -/
theorem hydrateFromLog_badged (facts : Facts Disk) (key : ConversationKey)
    (displayTarget : String) :
    (hydrateFromLog facts (freshConversation facts key displayTarget)).2.Badged := by
  have fresh : (freshConversation facts key displayTarget).Badged := by
    refine ⟨le_rfl, nofun, nofun, fun _ => rfl, fun row listed => ?_, le_rfl⟩
    exact absurd listed List.not_mem_nil
  have line : ∀ (state : Facts Disk × ConversationState) (line : TranscriptLine),
      state.2.Uncounted (hydrateLine state line).2 := by
    intro state line
    unfold hydrateLine
    dsimp only
    split
    · exact .refl _
    · split
      · exact .refl _
      · exact (know_uncounted ..).trans (admitMessage_uncounted ..)
  unfold hydrateFromLog
  split
  · exact fresh
  · refine (capWithPolicy_uncounted _ _ true).badged ?_
    have begun : (facts, freshConversation facts key displayTarget).2.Badged := fresh
    exact List.foldlRecOn
      (motive := fun state : Facts Disk × ConversationState => state.2.Badged) _ hydrateLine
      begun fun state badged next _ => (line state next).badged badged

end Moves

section Merges

variable {Disk : Type}

/-- A renamed conversation fits the one it is merged into: no mentions come together under a
mute, and unread rows bring a boundary. -/
structure BadgesMerge (existing moved : ConversationState) : Prop where
  silent : existing.muted = true ∨ moved.muted = true → existing.mentions + moved.mentions = 0
  marked : 0 < moved.unread → existing.unreadMark.isSome = true ∨
    ∃ row ∈ moved.messages, moved.unreadMark = some row.sequence ∧ existing.takesOver row = true

/-- What taking over the rows of a renamed conversation leaves: the counts as they were, and a
boundary of the existing rows or of one taken over. -/
theorem mergeRows_badged (movedMark : Option Int) {rows : List Message}
    (apart : rows.Pairwise fun first second => first.msgid = second.msgid → first.msgid = "")
    {existing : ConversationState} (badged : existing.Badged) :
    (rows.foldl (mergeRow movedMark) existing).Badged ∧
    (rows.foldl (mergeRow movedMark) existing).unread = existing.unread ∧
    (rows.foldl (mergeRow movedMark) existing).mentions = existing.mentions ∧
    (rows.foldl (mergeRow movedMark) existing).muted = existing.muted ∧
    (existing.unreadMark.isSome = true ∨ (∃ row ∈ rows, movedMark = some row.sequence ∧
        existing.takesOver row = true) →
      (rows.foldl (mergeRow movedMark) existing).unreadMark.isSome = true) := by
  induction rows generalizing existing with
  | nil => exact ⟨badged, rfl, rfl, rfl, fun marked => marked.elim id fun ⟨_, absent, _⟩ =>
      absurd absent List.not_mem_nil⟩
  | cons row rest inductionHypothesis =>
      obtain ⟨others, apart⟩ := List.pairwise_cons.mp apart
      have later : ∀ other ∈ rest, (mergeRow movedMark existing row).takesOver other =
          existing.takesOver other :=
        fun other listed => mergeRow_takesOver movedMark existing (others other listed)
      rw [List.foldl_cons]
      by_cases known : row.msgid ≠ "" ∧ row.msgid ∈ existing.messageIds
      · have stays : mergeRow movedMark existing row = existing := if_pos known
        have skipped : existing.takesOver row = false := by
          simpa [ConversationState.takesOver] using known
        rw [stays]
        obtain ⟨kept, unread, mentions, muted, marked⟩ := inductionHypothesis apart badged
        refine ⟨kept, unread, mentions, muted, fun found => marked (found.imp_right ?_)⟩
        rintro ⟨other, listed, own, taken⟩
        rcases List.mem_cons.mp listed with rfl | later
        · exact absurd (skipped.symm.trans taken) Bool.false_ne_true
        · exact ⟨other, later, own, taken⟩
      · have admitted : (admitMessage (existing.know row.msgid) row).Badged :=
          ((know_uncounted ..).trans (admitMessage_uncounted ..)).badged badged
        have alike := (know_uncounted existing row.msgid).trans (admitMessage_uncounted _ row)
        have own : (admitMessage (existing.know row.msgid) row).Issued
            (existing.know row.msgid).nextSequence :=
          ⟨((know_uncounted ..).badged badged).counted, Int.lt_succ _⟩
        have whole : mergeRow movedMark existing row =
            { admitMessage (existing.know row.msgid) row with
              unreadMark :=
                if existing.unreadMark = none ∧ movedMark = some row.sequence then
                  some (existing.know row.msgid).nextSequence
                else existing.unreadMark } := by
          rw [mergeRow, if_neg known]
          dsimp only
          rw [know_unreadMark]
          rfl
        have merged : (mergeRow movedMark existing row).Badged := by
          rw [whole]
          split
          · exact admitted.planted own
          · rw [← alike.unreadMark]
            exact admitted
        obtain ⟨kept, unread, mentions, muted, marked⟩ := inductionHypothesis apart merged
        refine ⟨kept, ?_, ?_, ?_, fun found => marked ?_⟩
        · rw [unread, whole]
          exact alike.unread
        · rw [mentions, whole]
          exact alike.mentions
        · rw [muted, whole]
          exact alike.muted
        · rcases found with there | ⟨other, listed, mark, taken⟩
          · refine .inl ?_
            rw [whole]
            dsimp only
            split
            · rfl
            · exact there
          · rcases List.mem_cons.mp listed with rfl | after
            · refine .inl ?_
              rw [whole]
              dsimp only
              split
              · rfl
              · rename_i old
                exact Option.isSome_iff_ne_none.mpr fun none => old ⟨none, mark⟩
            · exact .inr ⟨other, after, mark, (later other after).trans taken⟩

/-- A merge that fits keeps the law, and the merged conversation is muted when either was. -/
theorem mergeConversation_badged (facts : Facts Disk) {existing moved : ConversationState}
    (badged : existing.Badged) (own : moved.Badged) (law : TranscriptLaw moved)
    (fits : BadgesMerge existing moved) (newNick : String) :
    (mergeConversation facts existing moved newNick).2.Badged ∧
      (mergeConversation facts existing moved newNick).2.muted = (existing.muted || moved.muted) := by
  obtain ⟨rows, unread, mentions, muted, marked⟩ :=
    mergeRows_badged moved.unreadMark law.numbered.msgids badged
  unfold mergeConversation
  dsimp only
  generalize moved.messages.foldl (mergeRow moved.unreadMark) existing = merged
    at rows unread mentions muted marked ⊢
  have alike := capWithPolicy_uncounted facts merged true
  have kept := alike.badged rows
  unfold capMessages
  generalize (capWithPolicy facts merged true).2 = capped at alike kept ⊢
  have sameUnread := alike.unread.trans unread
  have sameMentions := alike.mentions.trans mentions
  have sameMuted := alike.muted.trans muted
  refine ⟨⟨?_, ?_, kept.arrived, ?_, kept.issued, kept.counted⟩, ?_⟩
  · have below := badged.mentions
    have moves := own.mentions
    dsimp only
    omega
  · intro positive
    dsimp only at positive ⊢
    rw [alike.unreadMark]
    by_cases brought : 0 < moved.unread
    · exact marked (fits.marked brought)
    · exact marked (.inl (badged.marked (by omega)))
  · intro silenced
    dsimp only at silenced ⊢
    rw [sameMuted, Bool.or_eq_true] at silenced
    rw [sameMentions]
    exact fits.silent silenced
  · rw [sameMuted]

end Merges

section Runs

variable {Disk : Type} [Platform] [CharacterClasses] [Storage Disk]

/-- The rules under which the badges of renamed conversations fit where they move to: the
mutes of the two keys agree, and a merge fits. -/
def badging : Rules Disk where
  moves := fun facts oldKey newKey existing moved =>
    match existing with
    | none => newKey ∈ facts.mutedKeys → oldKey ∈ facts.mutedKeys
    | some existing => BadgesMerge existing moved

/-- The law of the counts of every conversation, with the muted flag of each in step with the
muted keys. -/
structure BadgeLaw (reducer : EventReducer Disk) : Prop where
  badged : ∀ (key : ConversationKey) (conv : ConversationState),
    reducer.conversations[key]? = some conv → conv.Badged
  muted : ∀ (key : ConversationKey) (conv : ConversationState),
    reducer.conversations[key]? = some conv →
      (conv.muted = true ↔ key ∈ reducer.facts.mutedKeys)

variable {reducer next : EventReducer Disk}

omit [Platform] [CharacterClasses] [Storage Disk] in
/-- One conversation changed, or opened, under the same muted keys. -/
theorem BadgeLaw.put (law : BadgeLaw reducer) {key : ConversationKey} {conv : ConversationState}
    {facts : Facts Disk} (badged : conv.Badged) (same : facts.mutedKeys = reducer.facts.mutedKeys)
    (muted : conv.muted = true ↔ key ∈ reducer.facts.mutedKeys) :
    BadgeLaw { facts, conversations := reducer.conversations.insert key conv } where
  badged := by
    intro other found listed
    rcases insert_found listed with ⟨_, rfl⟩ | ⟨_, before⟩
    · exact badged
    · exact law.badged other found before
  muted := by
    intro other found listed
    change _ ↔ other ∈ facts.mutedKeys
    rw [same]
    rcases insert_found listed with ⟨rfl, rfl⟩ | ⟨_, before⟩
    · exact muted
    · exact law.muted other found before

omit [Platform] [CharacterClasses] [Storage Disk] in
/-- A mute moves with the conversation it was set on. -/
theorem moveDirect_mutedKeys {oldKey : ConversationKey} {conv : ConversationState}
    (found : reducer.conversations[oldKey]? = some conv)
    {change : Facts Disk → ConversationState → Facts Disk × ConversationState}
    (framed : Framed reducer.facts (change reducer.facts conv).1) (newKey : ConversationKey)
    (newNick : String) :
    ((reducer.onConversation oldKey change).moveDirect oldKey newKey newNick).facts.mutedKeys =
      if oldKey ∈ reducer.facts.mutedKeys then insert newKey (reducer.facts.mutedKeys.erase oldKey)
      else reducer.facts.mutedKeys := by
  have changed : reducer.onConversation oldKey change =
      { facts := (change reducer.facts conv).1
        conversations := reducer.conversations.insert oldKey (change reducer.facts conv).2 } := by
    unfold EventReducer.onConversation
    rw [found]
  rw [changed, moveDirect_eq _ Std.TreeMap.getElem?_insert_self]
  dsimp only
  generalize (change reducer.facts conv).1 = facts at framed ⊢
  have landed := landConversation_framed (moveMute facts oldKey newKey)
    ((reducer.conversations.insert oldKey (change reducer.facts conv).2).erase oldKey)[newKey]?
    { (change reducer.facts conv).2 with key := newKey, target := newNick } newNick
  have followed : ∀ landed : Facts Disk,
      (followSelection landed oldKey newKey).mutedKeys = landed.mutedKeys := by
    intro landed
    unfold followSelection
    split
    · rfl
    · rfl
  rw [followed, landed.mutedKeys]
  unfold moveMute
  rw [framed.mutedKeys]
  split
  · rfl
  · exact framed.mutedKeys

omit [Platform] [CharacterClasses] [Storage Disk] in
/-- Muting flags the conversation of the key as it flags the key. -/
theorem BadgeLaw.setMuted (law : BadgeLaw reducer) (key : ConversationKey) (muted : Bool) :
    BadgeLaw (reducer.setMuted key muted) := by
  unfold EventReducer.setMuted
  split
  · exact law
  · dsimp only
    have others : ∀ other : ConversationKey, other ≠ key →
        (other ∈ (if muted = true then insert key reducer.facts.mutedKeys
          else reducer.facts.mutedKeys.erase key) ↔ other ∈ reducer.facts.mutedKeys) := by
      intro other apart
      cases muted with
      | true => simp [apart]
      | false => simp [apart]
    have own : muted = true ↔ key ∈ (if muted = true then insert key reducer.facts.mutedKeys
        else reducer.facts.mutedKeys.erase key) := by
      cases muted with
      | true => simp
      | false => simp
    generalize (if muted = true then insert key reducer.facts.mutedKeys
      else reducer.facts.mutedKeys.erase key) = mutedKeys at others own ⊢
    unfold EventReducer.modify EventReducer.onConversation
    cases found : reducer.conversations[key]? with
    | none =>
        refine ⟨law.badged, fun other conv listed => ?_⟩
        have apart : other ≠ key := by
          rintro rfl
          rw [found] at listed
          cases listed
        exact (law.muted other conv listed).trans (others other apart).symm
    | some conv =>
        have before := law.badged key conv found
        have changed : ({ conv with muted, mentions := if muted then 0 else conv.mentions } :
            ConversationState).Badged := by
          refine ⟨?_, before.marked, before.arrived, fun silenced => if_pos silenced, before.issued,
            before.counted⟩
          dsimp only
          split
          · exact Nat.zero_le _
          · exact before.mentions
        refine ⟨fun other later listed => ?_, fun other later listed => ?_⟩
        · rcases insert_found listed with ⟨_, rfl⟩ | ⟨_, old⟩
          · exact changed
          · exact law.badged other later old
        · rcases insert_found listed with ⟨rfl, rfl⟩ | ⟨apart, old⟩
          · exact own
          · exact (law.muted other later old).trans (others other apart).symm

/-- A move under which the badges fit keeps the law. -/
theorem Move.badgeLaw (move : Move badging reducer next) (transcripts : Transcripts reducer)
    (law : BadgeLaw reducer) : BadgeLaw next := by
  cases move with
  | facts framed =>
      exact ⟨law.badged, fun key conv found => by rw [framed.mutedKeys]; exact law.muted key conv found⟩
  | hold => exact ⟨law.badged, law.muted⟩
  | touch found touches =>
      refine law.put (touches.badged (law.badged _ _ found)) touches.facts_framed.mutedKeys ?_
      rw [touches.muted]
      exact law.muted _ _ found
  | create displayTarget missing =>
      rename_i key _
      refine law.put (hydrateFromLog_badged ..) (hydrateFromLog_framed ..).mutedKeys ?_
      have same : (hydrateFromLog reducer.facts
          (freshConversation reducer.facts key displayTarget)).2.muted =
          (freshConversation reducer.facts key displayTarget).muted :=
        congrArg Identity.muted (hydrateFromLog_identity ..)
      rw [same]
      exact decide_eq_true_iff
  | remove key =>
      have same : (reducer.removeConversation key).facts.mutedKeys = reducer.facts.mutedKeys := by
        unfold EventReducer.removeConversation
        dsimp only
        split
        · rfl
        · rfl
      refine ⟨fun other conv listed => law.badged other conv (erase_found listed).2,
        fun other conv listed => ?_⟩
      rw [same]
      exact law.muted other conv (erase_found listed).2
  | forget networkId =>
      by_cases named : networkId = ""
      · rw [EventReducer.forgetNetwork, if_pos named]
        exact law
      · rw [forgetNetwork_eq reducer named]
        refine ⟨fun other conv listed => law.badged other conv (filter_found listed).2,
          fun other conv listed => ?_⟩
        obtain ⟨apart, before⟩ := filter_found listed
        refine (law.muted other conv before).trans ?_
        have apart : other.networkId ≠ networkId := by simpa using apart
        simp [apart]
  | rename newNick caption found direct differs permitted moves =>
      rename_i oldKey conv
      have captioned := appendEvent_touches badging reducer.facts { conv with target := newNick }
        caption true true
      have badged := captioned.badged ((law.badged oldKey conv found).renamed conv.key newNick)
      have rows := captioned.law ((transcripts oldKey conv found).renamed conv.key newNick)
      have muted : (appendEvent reducer.facts { conv with target := newNick } caption true
          true).2.muted = true ↔ oldKey ∈ reducer.facts.mutedKeys := by
        rw [captioned.muted]
        exact law.muted oldKey conv found
      have keys := @moveDirect_mutedKeys _ reducer oldKey conv found (fun facts conv =>
        appendEvent facts { conv with target := newNick } caption true true)
        captioned.facts_framed (reducer.conversationKey oldKey.networkId newNick) newNick
      generalize reducer.conversationKey oldKey.networkId newNick = newKey at differs moves keys ⊢
      refine ⟨fun other after listed => ?_, fun other after listed => ?_⟩
      · rcases moveDirect_found found differs _ newNick listed with
          ⟨rfl, ⟨_, rfl⟩ | ⟨existing, there, rfl⟩⟩ | ⟨_, _, old⟩
        · exact badged.renamed _ newNick
        · rw [there] at moves
          exact (mergeConversation_badged _ (law.badged _ existing there)
            (badged.renamed _ newNick) (rows.renamed _ newNick)
            ⟨moves.silent, moves.marked⟩ newNick).1
        · exact law.badged other after old
      · rw [keys]
        rcases moveDirect_found found differs _ newNick listed with
          ⟨rfl, ⟨absent, rfl⟩ | ⟨existing, there, rfl⟩⟩ | ⟨apart, own, old⟩
        · rw [absent] at moves
          refine muted.trans ?_
          split
          · rename_i silenced
            simp [silenced]
          · rename_i heard
            exact ⟨fun silenced => absurd silenced heard, moves⟩
        · rw [there] at moves
          have merged := (mergeConversation_badged (moveMute (appendEvent reducer.facts
            { conv with target := newNick } caption true true).1 oldKey other)
            (law.badged _ existing there) (badged.renamed other newNick)
            (rows.renamed other newNick) ⟨moves.silent, moves.marked⟩ newNick).2
          rw [merged, Bool.or_eq_true, law.muted _ existing there]
          refine (or_congr_right muted).trans ?_
          split
          · rename_i silenced
            simp [silenced]
          · rename_i heard
            simp [heard]
        · refine (law.muted other after old).trans ?_
          split
          · simp [apart, own]
          · rfl
  | features => exact ⟨law.badged, law.muted⟩
  | mute key muted => exact law.setMuted key muted
  | select => exact ⟨law.badged, law.muted⟩

/-- The badges of a direct conversation that a NICK moves fit where it moves to. Moved on its
own, it comes to a key that is muted only if its own key is. Merged, it brings no mentions
together with a mute, and unread rows only with a boundary, of the existing rows or of a row
that is taken over. -/
def BadgesFit (reducer : EventReducer Disk) (call : Call Disk) : Prop :=
  Lands badging reducer call

/-- What every run keeps whose renamed conversations fit. -/
structure CountLaw (reducer : EventReducer Disk) : Prop where
  run : RunLaw reducer
  badges : BadgeLaw reducer

theorem CountLaw.step {call : Call Disk} (law : CountLaw reducer) (fits : BadgesFit reducer call)
    (transition : reducer.step call = some next) : CountLaw next := by
  refine ⟨law.run.step transition, ?_⟩
  cases transition
  have chain : Chain badging reducer (reducer.perform call) :=
    law.run.follow ⟨fun _ _ _ => trivial, fun _ => trivial, fun _ => trivial⟩ fits
  have moves : ∀ {middle : EventReducer Disk}, Chain badging reducer middle →
      Transcripts middle ∧ BadgeLaw middle := by
    intro middle path
    induction path with
    | refl => exact ⟨law.run.transcripts, law.badges⟩
    | tail prior move inductionHypothesis =>
        exact ⟨move.transcripts inductionHypothesis.1,
          move.badgeLaw inductionHypothesis.1 inductionHypothesis.2⟩
  exact (moves chain).2

theorem CountLaw.of_runs {disk : Disk} {final : EventReducer Disk}
    (runs : Semantics.Runs EventReducer.step BadgesFit (start disk) final) : CountLaw final := by
  refine runs.invariant CountLaw ⟨.initial disk, ⟨fun key conv found => ?_, fun key conv found => ?_⟩⟩
    CountLaw.step
  · rw [start, Std.TreeMap.getElem?_emptyc] at found
    cases found
  · rw [start, Std.TreeMap.getElem?_emptyc] at found
    cases found

/-- In every state that is reached by calls whose renamed conversations fit where they move
to, a conversation has no more mentions than unread rows, a boundary at the sequence of a row
that arrived when it has unread rows, the flag of its key among the muted ones, and no
mentions while it is muted. -/
theorem badge_invariant {disk : Disk} {final : EventReducer Disk}
    (runs : Semantics.Runs EventReducer.step BadgesFit (start disk) final)
    {key : ConversationKey} {conv : ConversationState}
    (found : final.conversations[key]? = some conv) :
    conv.mentions ≤ conv.unread ∧
    (0 < conv.unread → ∃ mark, conv.unreadMark = some mark ∧ conv.Issued mark) ∧
    (conv.muted = true ↔ key ∈ final.facts.mutedKeys) ∧
    (conv.muted = true → conv.mentions = 0) := by
  have law := (CountLaw.of_runs runs).badges
  have badged := law.badged key conv found
  refine ⟨badged.mentions, fun positive => ?_, law.muted key conv found, badged.silent⟩
  obtain ⟨mark, there⟩ := Option.isSome_iff_exists.mp (badged.marked positive)
  exact ⟨mark, there, badged.arrived mark there⟩

end Runs

section Witness

local instance badgePlatform : Platform := Session.reference
local instance badgeClasses : CharacterClasses := asciiClasses
local instance badgeStorage : Storage Memory := memory

/-- A peer under its new nick. -/
def badgeKey : ConversationKey := { networkId := "net", normalizedTarget := "ann" }

/-- Two peers name the user, the first takes the nick of the second. -/
def mentioned : EventReducer Memory :=
  (start {}).performAll [eventAt (.welcome "net" "me"),
    eventAt (.message (chatLine "net" "ann" "ann" "me: hello" "a")),
    eventAt (.message (chatLine "net" "bob" "bob" "hi" "b"))]

/-- The call that merges the two conversations. -/
def mergingNick : Call Memory := eventAt (.nick "net" "bob" "ann")

/-- What the rules ask of a NICK, tested on the conversations it merges. -/
theorem movesRenamed_of_test {reducer : EventReducer Memory} {oldNick newNick : String}
    (tested : ((reducer.renameEverywhere "net" oldNick newNick).conversations[
      reducer.conversationKey "net" newNick]?).any (fun existing =>
        existing.unreadMark.isSome && existing.muted == false) = true)
    (unmuted : ((reducer.renameEverywhere "net" oldNick newNick).conversations[
      reducer.conversationKey "net" oldNick]?).all (fun conv => conv.muted == false) = true) :
    MovesRenamed badging reducer "net" oldNick newNick := by
  intro conv found _ _
  obtain ⟨existing, there, fits⟩ := Session.exists_of_any tested
  rw [there]
  rw [found] at unmuted
  have heard : conv.muted = false := by simpa using unmuted
  have fits : existing.unreadMark.isSome = true ∧ existing.muted = false := by simpa using fits
  refine ⟨fun silenced => ?_, fun _ => .inl fits.1⟩
  have same : (appendEvent (reducer.renameEverywhere "net" oldNick newNick).facts
      { conv with target := newNick } (nickLine oldNick newNick) true true).2.muted = conv.muted :=
    congrArg Identity.muted (appendEvent_identity ..)
  rcases silenced with own | moved
  · rw [fits.2] at own
    cases own
  · rw [same, heard] at moved
    cases moved

/-- The counts of two conversations add up when a peer takes the nick of another. -/
theorem badge_invariant_merged :
    ∃ (final : EventReducer Memory) (conv : ConversationState),
      Semantics.Runs EventReducer.step BadgesFit (start {}) final ∧
      final.conversations[badgeKey]? = some conv ∧
      conv.unread = 2 ∧ conv.mentions = 1 ∧
      (0 < conv.unread → ∃ mark, conv.unreadMark = some mark ∧ conv.Issued mark) := by
  have shown : ((mentioned.perform mergingNick).conversations[badgeKey]?).any (fun conv =>
      decide (conv.unread = 2 ∧ conv.mentions = 1)) = true := by
    decide +kernel
  have free : ∀ (reducer : EventReducer Memory) (line : ChatLine), LandsLine badging reducer line :=
    fun _ _ _ _ _ _ => trivial
  have arrived : Semantics.Runs EventReducer.step BadgesFit (start ({} : Memory)) mentioned :=
    EventReducer.runs_perform (EventReducer.runs_perform (EventReducer.runs_perform .refl
      (eventAt (.welcome "net" "me")) trivial)
      (eventAt (.message (chatLine "net" "ann" "ann" "me: hello" "a"))) (free _ _))
      (eventAt (.message (chatLine "net" "bob" "bob" "hi" "b"))) (free _ _)
  have runs : Semantics.Runs EventReducer.step BadgesFit (start ({} : Memory))
      (mentioned.perform mergingNick) :=
    EventReducer.runs_perform arrived mergingNick
      (movesRenamed_of_test (by decide +kernel) (by decide +kernel))
  generalize mentioned.perform mergingNick = final at shown runs
  obtain ⟨conv, found, tested⟩ := Session.exists_of_any shown
  obtain ⟨unread, mentions⟩ := of_decide_eq_true tested
  exact ⟨final, conv, runs, found, unread, mentions, (badge_invariant runs found).2.1⟩

/-- A muted peer takes the nick of one whose line mentions the user. -/
def mutedMerge : EventReducer Memory :=
  (mentioned.perform (.setMuted { networkId := "net", normalizedTarget := "bob" } true)).perform
    mergingNick

/-- The merged conversation is muted and counts a mention. -/
theorem badge_invariant_muted_merge :
    ¬∀ (final : EventReducer Memory) (key : ConversationKey) (conv : ConversationState),
      Semantics.Runs EventReducer.step Semantics.unguarded (start {}) final →
      final.conversations[key]? = some conv →
      conv.mentions ≤ conv.unread ∧
      (0 < conv.unread → ∃ mark, conv.unreadMark = some mark ∧ conv.Issued mark) ∧
      (conv.muted = true ↔ key ∈ final.facts.mutedKeys) ∧
      (conv.muted = true → conv.mentions = 0) := by
  intro claim
  have shown : (mutedMerge.conversations[badgeKey]?).any (fun conv =>
      decide (conv.muted = true ∧ conv.mentions ≠ 0)) = true := by
    decide +kernel
  have runs : Semantics.Runs EventReducer.step Semantics.unguarded (start ({} : Memory))
      mutedMerge :=
    ((EventReducer.runs_performAll (start {}) [eventAt (.welcome "net" "me"),
      eventAt (.message (chatLine "net" "ann" "ann" "me: hello" "a")),
      eventAt (.message (chatLine "net" "bob" "bob" "hi" "b"))]).step trivial rfl).step trivial rfl
  generalize mutedMerge = final at shown runs
  obtain ⟨conv, found, tested⟩ := Session.exists_of_any shown
  obtain ⟨muted, counts⟩ := of_decide_eq_true tested
  exact counts ((claim final badgeKey conv runs found).2.2.2 muted)

end Witness

end Omairc.Irc.Reducer

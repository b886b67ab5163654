import Omairc.Irc.Reducer.Rows

/-!
# The law of a splice

While a splice runs, the rows of the transcript and of the run together are numbered, so
that the transcript obeys its law once the run is in place and capped.
-/

namespace Omairc.Irc.Reducer

open Omairc.Text

variable {Disk : Type}

/-- A fold into a row rewrites its body. -/
theorem foldInto_cases {facts : Facts Disk} {networkId : String} {row : Message} {body : String}
    {rewritten : Message} (folded : foldInto facts networkId row body = some (some rewritten)) :
    row.kind = .event ∧ row.collapsible = true ∧
      rewritten = { row with body := (foldMembership row.body body (facts.equals networkId)).body } := by
  unfold foldInto at folded
  split at folded
  · cases folded
  · rename_i caption
    rw [not_or, not_not, Bool.not_eq_false] at caption
    dsimp only at folded
    split at folded
    · cases folded
    · cases folded
      exact ⟨caption.1, caption.2, rfl⟩

/-- A fold into the run rewrites its last row or takes it away. -/
theorem foldRun_cases {splice : Splice Disk} {line : ReplayMembership}
    {result : Splice Disk × MembershipReplayResult} (folded : splice.foldRun line = some result) :
    ∃ before row, splice.run = before ++ [row] ∧
      ((∃ rewritten,
          foldInto splice.facts splice.conv.key.networkId row line.body = some (some rewritten) ∧
          result = ({ splice with run := before ++ [rewritten] }, {})) ∨
        (foldInto splice.facts splice.conv.key.networkId row line.body = some none ∧
          result =
            ({ splice with
              facts := (forgetTranscriptMsgid splice.facts splice.conv row.msgid).1
              conv := (forgetTranscriptMsgid splice.facts splice.conv row.msgid).2
              run := before }, { dropped := true, droppedSequence := row.sequence }))) := by
  unfold Splice.foldRun at folded
  split at folded
  · cases folded
  · rename_i row newest
    obtain ⟨before, whole⟩ := List.getLast?_eq_some_iff.mp newest
    refine ⟨before, row, whole, ?_⟩
    rw [whole, List.dropLast_concat] at folded
    split at folded
    · cases folded
    · rename_i rewritten joined
      cases folded
      exact .inl ⟨rewritten, joined, rfl⟩
    · rename_i gone
      cases folded
      exact .inr ⟨gone, rfl⟩

/-- A fold into the transcript rewrites the row above the splice point or takes it
away. -/
theorem foldTranscript_cases {splice : Splice Disk} {line : ReplayMembership}
    {result : Splice Disk × MembershipReplayResult}
    (folded : splice.foldTranscript line = some result) :
    ∃ index row, splice.at_ = index + 1 ∧ splice.conv.messages[index]? = some row ∧
      ((∃ rewritten,
          foldInto splice.facts splice.conv.key.networkId row line.body = some (some rewritten) ∧
          result =
            ({ splice with
              conv := { splice.conv with
                messages := splice.conv.messages.set index rewritten } }, {})) ∨
        (foldInto splice.facts splice.conv.key.networkId row line.body = some none ∧
          result =
            ({ splice with
              facts := (forgetTranscriptMsgid splice.facts splice.conv row.msgid).1
              conv := ConversationState.moveAnchor
                { (forgetTranscriptMsgid splice.facts splice.conv row.msgid).2 with
                  messages := splice.conv.messages.eraseIdx index }
                fun anchor => if anchor - splice.conv.trimmed > index then anchor - 1 else anchor
              at_ := index }, { dropped := true, droppedSequence := row.sequence }))) := by
  unfold Splice.foldTranscript at folded
  split at folded
  · cases folded
  · rename_i inside
    rw [not_or] at inside
    dsimp only at folded
    split at folded
    · cases folded
    · rename_i row there
      refine ⟨splice.at_ - 1, row, (Nat.succ_pred inside.1).symm, there, ?_⟩
      split at folded
      · cases folded
      · rename_i rewritten joined
        cases folded
        exact .inl ⟨rewritten, joined, rfl⟩
      · rename_i gone
        cases folded
        refine .inr ⟨gone, ?_⟩
        rw [forgetTranscriptMsgid_conv]

/-- A membership line is hidden, folded into the row it joins, or added to the run. -/
theorem admitMembershipReplay_cases (splice : Splice Disk) (line : ReplayMembership) :
    admitMembershipReplay splice line = (splice, {}) ∨
    splice.foldTranscript line = some (admitMembershipReplay splice line) ∨
    splice.foldRun line = some (admitMembershipReplay splice line) ∨
    ∃ showEach, admitMembershipReplay splice line = splice.addMembership line showEach := by
  unfold admitMembershipReplay
  dsimp only
  split
  · exact .inl rfl
  · split
    · exact .inr (.inr (.inr ⟨_, rfl⟩))
    · split
      · cases folded : splice.foldTranscript line with
        | none => exact .inr (.inr (.inr ⟨_, rfl⟩))
        | some result => exact .inr (.inl rfl)
      · cases folded : splice.foldRun line with
        | none => exact .inr (.inr (.inr ⟨_, rfl⟩))
        | some result => exact .inr (.inr (.inl rfl))

/-- The rows of a splice are numbered, and the transcript is within its cap. -/
structure SpliceLaw (splice : Splice Disk) : Prop where
  numbered : Numbered splice.rows splice.conv.messageIds splice.conv.nextSequence
  capped : splice.conv.messages.length ≤ maxMessages

namespace SpliceLaw

variable {splice : Splice Disk}

/-- Learning a msgid keeps the law. -/
theorem know (law : SpliceLaw splice) (msgid : MsgId) : SpliceLaw (splice.know msgid) where
  numbered := by
    unfold Splice.know Splice.rows
    dsimp only
    rw [know_messages, know_nextSequence]
    exact law.numbered.mono (know_more ..) le_rfl
  capped := by
    unfold Splice.know
    dsimp only
    rw [know_messages]
    exact law.capped

/-- A row that carries a freshly learned msgid keeps the law. -/
theorem pushed (law : SpliceLaw splice) (row : Message)
    (fresh : row.msgid ≠ "" → row.msgid ∉ splice.conv.messageIds)
    (numbers : row.sequence = splice.conv.nextSequence) (facts : Facts Disk) :
    SpliceLaw
      { splice with
        facts
        conv := { splice.conv.know row.msgid with nextSequence := splice.conv.nextSequence + 1 }
        run := splice.run ++ [row] } where
  numbered := by
    have pushed := law.numbered.push row fresh numbers
    unfold Splice.rows at pushed ⊢
    dsimp only
    rw [know_messages, know_messageIds, ← List.append_assoc]
    exact pushed
  capped := by
    dsimp only
    rw [know_messages]
    exact law.capped

/-- A membership line added under a freshly learned msgid keeps the law. -/
theorem addMembership (law : SpliceLaw splice) (line : ReplayMembership)
    (fresh : line.msgid ≠ "" → line.msgid ∉ splice.conv.messageIds) (showEach : Bool) :
    SpliceLaw ((splice.know line.msgid).addMembership line showEach).1 := by
  have pushed := law.pushed
    { kind := .event, body := line.body, time := line.timestamp, serverTime := line.serverTime
      msgid := line.msgid, origin := .replay, collapsible := !showEach
      sequence := splice.conv.nextSequence } fresh rfl splice.facts
  unfold Splice.addMembership Splice.know
  dsimp only
  rw [know_nextSequence]
  exact pushed

/-- A row of a splice that goes, with its msgid, leaves the law. -/
theorem dropped (law : SpliceLaw splice) {row : Message} {kept messages run : List Message}
    (parts : splice.rows.Perm (row :: kept)) (left : messages ++ run = kept)
    (fewer : messages.length ≤ splice.conv.messages.length) (facts : Facts Disk)
    (channel : Option ChannelState) (point : Nat) :
    SpliceLaw
      { splice with
        facts, run, at_ := point
        conv := { (forgetTranscriptMsgid splice.facts splice.conv row.msgid).2 with
          messages, channel } } where
  numbered := by
    have kept := (law.numbered.perm parts).forget
    unfold Splice.rows
    rw [forgetTranscriptMsgid_conv, left]
    exact kept
  capped := fewer.trans law.capped

/-- A fold into the run keeps the law. -/
theorem foldRun (law : SpliceLaw splice) {line : ReplayMembership}
    {result : Splice Disk × MembershipReplayResult} (folded : splice.foldRun line = some result) :
    SpliceLaw result.1 := by
  obtain ⟨before, row, whole, ⟨rewritten, joined, rfl⟩ | ⟨_, rfl⟩⟩ := foldRun_cases folded
  · obtain ⟨_, _, same⟩ := foldInto_cases joined
    refine ⟨law.numbered.congr ?_, law.capped⟩
    unfold Splice.rows
    rw [whole, List.map_append, List.map_append, List.map_append, List.map_append, same]
    rfl
  · have parts : splice.rows.Perm (row :: (splice.conv.messages ++ before)) := by
      unfold Splice.rows
      rw [whole, ← List.append_assoc]
      exact List.perm_append_comm
    have dropped := law.dropped parts rfl le_rfl
      (forgetTranscriptMsgid splice.facts splice.conv row.msgid).1 splice.conv.channel splice.at_
    rw [forgetTranscriptMsgid_conv] at dropped ⊢
    exact dropped

/-- A fold into the transcript keeps the law. -/
theorem foldTranscript (law : SpliceLaw splice) {line : ReplayMembership}
    {result : Splice Disk × MembershipReplayResult}
    (folded : splice.foldTranscript line = some result) : SpliceLaw result.1 := by
  obtain ⟨index, row, _, there, ⟨rewritten, joined, rfl⟩ | ⟨_, rfl⟩⟩ := foldTranscript_cases folded
  · obtain ⟨_, _, same⟩ := foldInto_cases joined
    obtain ⟨inside, equal⟩ := List.getElem?_eq_some_iff.mp there
    refine ⟨law.numbered.congr ?_, ?_⟩
    · have marks : (splice.conv.messages.set index rewritten).map rowMark =
          splice.conv.messages.map rowMark := by
        rw [List.map_set, same, ← equal]
        have mapped : index < (splice.conv.messages.map rowMark).length := by simpa using inside
        have mark : rowMark { splice.conv.messages[index] with
            body := (foldMembership splice.conv.messages[index].body line.body
              (splice.facts.equals splice.conv.key.networkId)).body } =
            (splice.conv.messages.map rowMark)[index] := by
          rw [List.getElem_map]
          rfl
        rw [mark]
        exact List.set_getElem_self _
      unfold Splice.rows
      rw [List.map_append, List.map_append, marks]
    · dsimp only
      rw [List.length_set]
      exact law.capped
  · obtain ⟨inside, equal⟩ := List.getElem?_eq_some_iff.mp there
    have parts : splice.rows.Perm
        (row :: (splice.conv.messages.eraseIdx index ++ splice.run)) := by
      unfold Splice.rows
      rw [← equal, ← List.cons_append]
      exact (List.getElem_cons_eraseIdx_perm inside).symm.append_right _
    have fewer : (splice.conv.messages.eraseIdx index).length ≤ splice.conv.messages.length :=
      (List.eraseIdx_sublist ..).length_le
    exact law.dropped parts rfl fewer _ _ index

/-- A membership line under a freshly learned msgid keeps the law. -/
theorem admitMembershipReplay (law : SpliceLaw splice) (line : ReplayMembership)
    (fresh : line.msgid ≠ "" → line.msgid ∉ splice.conv.messageIds) :
    SpliceLaw (admitMembershipReplay (splice.know line.msgid) line).1 := by
  rcases admitMembershipReplay_cases (splice.know line.msgid) line with
    hidden | folded | folded | ⟨showEach, added⟩
  · rw [hidden]
    exact law.know line.msgid
  · exact (law.know line.msgid).foldTranscript folded
  · exact (law.know line.msgid).foldRun folded
  · rw [added]
    exact law.addMembership line fresh showEach

variable [CharacterClasses]

/-- One replay line keeps the law. -/
theorem admitReplayLine (law : SpliceLaw splice) (networkId : String) (line : ReplayLine) :
    SpliceLaw (admitReplayLine splice networkId line).1 := by
  unfold Reducer.admitReplayLine
  split
  · exact law
  · rename_i unknown
    have fresh : line.msgid ≠ "" → line.msgid ∉ splice.conv.messageIds :=
      fun carried known => unknown ⟨carried, known⟩
    split
    · exact law
    · split
      · exact law.admitMembershipReplay (membershipOf line) fresh
      · split
        · exact law
        · have pushed := law.pushed (chatRow splice networkId line) fresh rfl
            (splice.addChat networkId line).facts
          unfold Splice.addChat Splice.know at pushed ⊢
          dsimp only at pushed ⊢
          rw [know_nextSequence]
          exact pushed

/-- The lines of a batch keep the law. -/
theorem admitReplayLines (law : SpliceLaw splice) (networkId : String) (lines : List ReplayLine) :
    SpliceLaw (admitReplayLines networkId splice lines).1 := by
  unfold Reducer.admitReplayLines
  generalize ([] : List PendingNote) = notes
  induction lines generalizing splice notes with
  | nil => exact law
  | cons line rest inductionHypothesis =>
      exact inductionHypothesis (law.admitReplayLine networkId line) _

end SpliceLaw

section Added

variable [CharacterClasses]

omit [CharacterClasses] in
/-- A row of another kind or with another text does not show a line. -/
theorem showsReplayLine_other {line : ReplayLine} {kind : MessageKind} {mapping : IrcCaseMapping}
    {row : Message} (differs : row.kind ≠ kind ∨ row.body ≠ line.body) :
    showsReplayLine line kind mapping row = false := by
  unfold showsReplayLine sameReplayLine
  split
  · rfl
  · rfl

/-- A line with no msgid that no row shows joins the run. -/
theorem admitReplayLine_added (splice : Splice Disk) (networkId : String) {line : ReplayLine}
    (blank : line.msgid = "") (chat : line.kind ≠ .event)
    (fresh : ∀ row ∈ splice.rows, showsReplayLine line (chatKind line.kind)
      (splice.facts.caseMapping networkId) row = false) :
    admitReplayLine splice networkId line =
      (splice.addChat networkId line, .added splice.conv.nextSequence) := by
  have unseen : matchedSequence splice (showsReplayLine line (chatKind line.kind)
      (splice.facts.caseMapping networkId)) = none := by
    unfold matchedSequence
    rw [List.find?_eq_none.mpr fun row listed => Bool.eq_false_iff.mp (fresh row listed)]
    rfl
  have open_ : splice.facts.channelContextBlocksDm splice.conv.key splice.conv.isChannel
      line.msgid = false := by
    unfold Facts.channelContextBlocksDm
    rw [if_pos (.inr blank)]
  unfold admitReplayLine
  rw [if_neg fun known => known.1 blank, open_, if_neg Bool.false_ne_true, if_neg chat, unseen]

end Added

section Placing

variable {conv : ConversationState}

/-- The transcript with the run in place is numbered. -/
theorem landed_numbered {splice : Splice Disk} (law : SpliceLaw splice) :
    splice.landed.Numbered := by
  have placed : splice.inserted.messages.Perm splice.rows := by
    unfold Splice.inserted Splice.rows
    dsimp only
    generalize min splice.at_ splice.conv.messages.length = point
    have split := List.take_append_drop point splice.conv.messages
    calc splice.conv.messages.take point ++ splice.run ++ splice.conv.messages.drop point
        _ = splice.conv.messages.take point ++
            (splice.run ++ splice.conv.messages.drop point) := List.append_assoc ..
        List.Perm _ (splice.conv.messages.take point ++
            (splice.conv.messages.drop point ++ splice.run)) :=
          List.perm_append_comm.append_left _
        _ = splice.conv.messages ++ splice.run := by rw [← List.append_assoc, split]
  exact law.numbered.perm placed.symm

/-- Placing a run gives a transcript that obeys the law. -/
theorem placed_law [Storage Disk] {splice : Splice Disk} (law : SpliceLaw splice)
    (event : HistoryEvent) (previousSize : Nat) :
    TranscriptLaw (splice.placed event previousSize).2 := by
  have numbered := landed_numbered law
  obtain ⟨spliceEpoch, ⟨_, same⟩ | ⟨_, _, same⟩⟩ := placed_cases splice event previousSize
  · rw [same]
    have epoch : ({ splice.landed with spliceEpoch } : ConversationState).Numbered := numbered
    exact capWithPolicy_law epoch _ true
  · rw [same]
    have epoch : ({ splice.landed with spliceEpoch, historyPageCapTail := false } :
      ConversationState).Numbered := numbered
    exact capWithPolicy_law epoch _ false

variable [CharacterClasses]

/-- Noting a run changes no row. -/
theorem noteRun_cases (event : HistoryEvent) (run : List Message) (facts : Facts Disk)
    (conv : ConversationState) :
    ∃ unread mentions unreadMark,
      (noteRun event run facts conv).2 = { conv with unread, mentions, unreadMark } := by
  unfold noteRun
  induction run generalizing facts conv with
  | nil => exact ⟨_, _, _, rfl⟩
  | cons message rest inductionHypothesis =>
      rw [List.foldl_cons]
      split
      · exact inductionHypothesis facts conv
      · obtain ⟨unread, mentions, unreadMark, same⟩ := inductionHypothesis
          (noteChatArrival facts conv event.conversation
            { author := message.author, body := message.body, kind := message.kind
              msgid := message.msgid, sequence := message.sequence
              serverTime := message.serverTime, origin := .replay, history := some event }).1
          (noteChatArrival facts conv event.conversation
            { author := message.author, body := message.body, kind := message.kind
              msgid := message.msgid, sequence := message.sequence
              serverTime := message.serverTime, origin := .replay, history := some event }).2
        obtain ⟨_, _, _, first⟩ := noteChatArrival_cases facts conv event.conversation
          { author := message.author, body := message.body, kind := message.kind
            msgid := message.msgid, sequence := message.sequence
            serverTime := message.serverTime, origin := .replay, history := some event }
        refine ⟨unread, mentions, unreadMark, same.trans ?_⟩
        rw [first]

omit [CharacterClasses] in
/-- Disarming changes no row. -/
theorem disarmTailCap_cases (conv : ConversationState) (event : HistoryEvent) :
    ∃ historyPageCapTail, disarmTailCap conv event = { conv with historyPageCapTail } := by
  unfold disarmTailCap
  split
  · exact ⟨_, rfl⟩
  · exact ⟨_, rfl⟩

omit [CharacterClasses] in
/-- Starting a splice changes no row. -/
theorem spliceStart_cases (conv : ConversationState) (event : HistoryEvent)
    (anchorUse : AnchorUse) :
    (spliceStart conv event anchorUse).1 = conv ∨
      (spliceStart conv event anchorUse) = (conv.dropAnchor, none) := by
  unfold spliceStart takeSpliceIndex
  split
  · split
    · exact .inl rfl
    · split
      · exact .inl rfl
      · split
        · exact .inl rfl
        · split
          · exact .inr rfl
          · exact .inl rfl
  · exact .inl rfl

variable [Storage Disk]

/-- A splice keeps the law of its transcript. -/
theorem spliceHistory_law (law : TranscriptLaw conv) (facts : Facts Disk) (event : HistoryEvent)
    (anchorUse : AnchorUse) : TranscriptLaw (spliceHistory facts conv event anchorUse).2 := by
  rcases spliceStart_cases conv event anchorUse with kept | stopped
  · unfold spliceHistory
    split
    · rename_i started stops
      rw [stops] at kept
      have same : conv = started := kept.symm
      subst same
      exact law
    · rename_i started point starts
      rw [starts] at kept
      have same : conv = started := kept.symm
      subst same
      have begun : SpliceLaw ({ facts, conv, at_ := point } : Splice Disk) := by
        refine ⟨?_, law.capped⟩
        unfold Splice.rows
        rw [List.append_nil]
        exact law.numbered
      have lines := begun.admitReplayLines event.conversation.networkId event.lines
      dsimp only
      generalize admitReplayLines event.conversation.networkId
        ({ facts, conv, at_ := point } : Splice Disk) event.lines = outcome at lines ⊢
      split
      · rename_i empty
        obtain ⟨_, same⟩ := disarmTailCap_cases outcome.1.conv event
        rw [same]
        have numbered := lines.numbered
        unfold Splice.rows at numbered
        rw [empty, List.append_nil] at numbered
        exact ⟨numbered, lines.capped⟩
      · have still : SpliceLaw { outcome.1 with
            facts := rememberQuery outcome.1.facts outcome.1.conv event } :=
          ⟨lines.numbered, lines.capped⟩
        have placed := placed_law still event conv.messages.length
        obtain ⟨_, _, _, same⟩ := noteRun_cases event outcome.1.run
          (Splice.placed { outcome.1 with
            facts := rememberQuery outcome.1.facts outcome.1.conv event } event
            conv.messages.length).1
          (Splice.placed { outcome.1 with
            facts := rememberQuery outcome.1.facts outcome.1.conv event } event
            conv.messages.length).2
        rw [same]
        exact ⟨placed.numbered, placed.capped⟩
  · unfold spliceHistory
    rw [stopped]
    exact ⟨law.numbered, law.capped⟩

end Placing

end Omairc.Irc.Reducer

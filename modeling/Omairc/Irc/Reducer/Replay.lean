import Omairc.Irc.Reducer.Placement

/-!
# Splicing a batch twice

A line is settled when a splice would leave it out: its msgid is known, a channel claims
it, or a row shows it. Every line of a batch settles at its turn and stays settled, unless
a caption that carries its msgid is cancelled away. A batch of settled lines changes no
row.
-/

namespace Omairc.Irc.Reducer

open Omairc.Text

variable {Disk : Type}

/-- The row a membership line would fold into: the last of the run, or the one above the
splice point. -/
def Splice.captionAbove (splice : Splice Disk) : Option Message :=
  if splice.run = [] then
    if splice.at_ = 0 ∨ splice.conv.messages.length < splice.at_ then none
    else splice.conv.messages[splice.at_ - 1]?
  else splice.run.getLast?

/-- Whether the msgid of a line is known. -/
def Splice.knows (splice : Splice Disk) (line : ReplayLine) : Bool :=
  line.msgid ≠ "" ∧ line.msgid ∈ splice.conv.messageIds

/-- Whether a channel claims the msgid of a line, so that a direct message refuses it. -/
def Splice.blocks (splice : Splice Disk) (line : ReplayLine) : Bool :=
  splice.facts.channelContextBlocksDm splice.conv.key splice.conv.isChannel line.msgid

/-- The caption that a line of a batch cancels away at its turn. -/
def Splice.cancelled (splice : Splice Disk) (line : ReplayLine) : Option Message :=
  if line.kind = .event ∧ splice.knows line = false ∧ splice.blocks line = false ∧
      splice.facts.membershipNoise = .folded then
    splice.captionAbove.filter fun row =>
      (foldInto splice.facts splice.conv.key.networkId row line.body).any Option.isNone
  else none

section Law

variable [CharacterClasses]

/-- Whether no line of a batch cancels away a caption that carries its own msgid or that of
an earlier line. -/
def sparesMsgids (networkId : String) :
    Splice Disk → List ReplayLine → List ReplayLine → Bool
  | _, _, [] => true
  | splice, earlier, line :: rest =>
      (splice.cancelled line).all (fun caption => (earlier ++ [line]).all fun other =>
        caption.msgid ≠ other.msgid) &&
        sparesMsgids networkId (admitReplayLine splice networkId line).1 (earlier ++ [line]) rest

/-- A splice would leave a line out. -/
def LineSettled (splice : Splice Disk) (networkId : String) (line : ReplayLine) : Prop :=
  splice.knows line = true ∨ splice.blocks line = true ∨
    line.kind ≠ .event ∧ ∃ row ∈ splice.rows, showsReplayLine line (chatKind line.kind)
      (splice.facts.caseMapping networkId) row = true

/-- A settled line leaves a splice alone. -/
theorem LineSettled.stays {splice : Splice Disk} {networkId : String} {line : ReplayLine}
    (settled : LineSettled splice networkId line) :
    (admitReplayLine splice networkId line).1 = splice := by
  unfold admitReplayLine
  split
  · rfl
  · rename_i unknown
    split
    · rfl
    · rename_i open_
      rcases settled with knows | blocks | ⟨chat, row, listed, shows⟩
      · exact absurd (of_decide_eq_true knows) unknown
      · exact absurd blocks open_
      · rw [if_neg chat]
        split
        · rfl
        · rename_i unmatched
          unfold matchedSequence at unmatched
          rw [Option.map_eq_none_iff, List.find?_eq_none] at unmatched
          exact absurd shows (unmatched row listed)

/-- A batch of settled lines leaves a splice alone. -/
theorem settled_lines {splice : Splice Disk} {networkId : String} {lines : List ReplayLine}
    (settled : ∀ line ∈ lines, LineSettled splice networkId line) :
    (admitReplayLines networkId splice lines).1 = splice := by
  unfold admitReplayLines
  generalize ([] : List PendingNote) = notes
  induction lines generalizing notes with
  | nil => rfl
  | cons line rest inductionHypothesis =>
      have stays := (settled line List.mem_cons_self).stays
      rw [List.foldl_cons]
      dsimp only
      rw [stays]
      exact inductionHypothesis (fun other listed => settled other (List.mem_cons_of_mem _ listed)) _

section Steps

omit [CharacterClasses] in
/-- What a membership line does to the msgids that are known, and to the claims: it forgets
those of the caption it cancels away. -/
theorem admitMembershipReplay_forgets (splice : Splice Disk) (line : ReplayMembership) :
    ((admitMembershipReplay splice line).1.facts = splice.facts ∧
      (admitMembershipReplay splice line).1.conv.messageIds = splice.conv.messageIds) ∨
    ∃ caption, splice.facts.membershipNoise = .folded ∧ splice.captionAbove = some caption ∧
      foldInto splice.facts splice.conv.key.networkId caption line.body = some none ∧
      (admitMembershipReplay splice line).1.facts =
        (forgetTranscriptMsgid splice.facts splice.conv caption.msgid).1 ∧
      (admitMembershipReplay splice line).1.conv.messageIds =
        (forgetTranscriptMsgid splice.facts splice.conv caption.msgid).2.messageIds := by
  unfold admitMembershipReplay
  dsimp only
  split
  · exact .inl ⟨rfl, rfl⟩
  · rename_i shown
    by_cases each : splice.facts.membershipNoise = .every
    · rw [if_pos (decide_eq_true each)]
      exact .inl ⟨rfl, rfl⟩
    · have folds : splice.facts.membershipNoise = .folded := by
        cases noise : splice.facts.membershipNoise with
        | folded => rfl
        | every => exact absurd noise each
        | hidden => exact absurd noise shown
      rw [if_neg (by rw [decide_eq_true_iff]; exact each)]
      by_cases empty : splice.run = []
      · rw [if_pos empty]
        cases folded : splice.foldTranscript line with
        | none => exact .inl ⟨rfl, rfl⟩
        | some result =>
            obtain ⟨index, row, above, there, ⟨_, _, rfl⟩ | ⟨gone, rfl⟩⟩ :=
              foldTranscript_cases folded
            · exact .inl ⟨rfl, rfl⟩
            · refine .inr ⟨row, folds, ?_, gone, rfl, rfl⟩
              obtain ⟨inside, _⟩ := List.getElem?_eq_some_iff.mp there
              unfold Splice.captionAbove
              rw [if_pos empty, above, if_neg (by omega)]
              exact there
      · rw [if_neg empty]
        cases folded : splice.foldRun line with
        | none => exact .inl ⟨rfl, rfl⟩
        | some result =>
            obtain ⟨before, row, whole, ⟨_, _, rfl⟩ | ⟨gone, rfl⟩⟩ := foldRun_cases folded
            · exact .inl ⟨rfl, rfl⟩
            · refine .inr ⟨row, folds, ?_, gone, rfl, rfl⟩
              unfold Splice.captionAbove
              rw [if_neg empty, whole, List.getLast?_concat]

omit [CharacterClasses] in
theorem know_captionAbove (splice : Splice Disk) (msgid : MsgId) :
    (splice.know msgid).captionAbove = splice.captionAbove := by
  unfold Splice.captionAbove Splice.know
  dsimp only
  rw [know_messages]

omit [CharacterClasses] in
/-- A conversation of the same identity is a channel when the other is. -/
theorem identity_isChannel {conv touched : ConversationState}
    (same : touched.identity = conv.identity) : touched.isChannel = conv.isChannel := by
  have channels : touched.dropAnchor.channel = conv.dropAnchor.channel :=
    (congrArg Identity.channel same :)
  have sides := congrArg Option.isSome channels
  unfold ConversationState.dropAnchor ConversationState.onChannel at sides
  rw [Option.isSome_map, Option.isSome_map] at sides
  exact sides

omit [CharacterClasses] in
/-- Forgetting another msgid keeps one known. -/
theorem forget_known {facts : Facts Disk} {conv : ConversationState} {gone msgid : MsgId}
    (other : gone ≠ msgid) (there : msgid ∈ conv.messageIds) :
    msgid ∈ (forgetTranscriptMsgid facts conv gone).2.messageIds := by
  rw [forgetTranscriptMsgid_conv]
  dsimp only
  split
  · exact there
  · exact Finset.mem_erase.mpr ⟨other.symm, there⟩

omit [CharacterClasses] in
/-- Forgetting another msgid keeps a claim. -/
theorem forget_claim {facts : Facts Disk} {conv : ConversationState} {gone msgid : MsgId}
    (other : gone ≠ msgid) :
    (forgetTranscriptMsgid facts conv gone).1.channelContextMsgids msgid =
      facts.channelContextMsgids msgid := by
  unfold forgetTranscriptMsgid Facts.releaseChannelContext
  split
  · rfl
  · split
    · exact Function.update_of_ne other.symm ..
    · rfl

/-- What one line does to the msgids that are known and to the claims: nothing, or it learns
its own msgid and forgets that of the caption it cancels away. -/
theorem admitReplayLine_known {splice : Splice Disk} {networkId : String} {line : ReplayLine}
    {msgid : MsgId}
    (spared : ∀ caption, splice.cancelled line = some caption → caption.msgid ≠ msgid) :
    (¬LineSettled splice networkId line → msgid ∈ (splice.know line.msgid).conv.messageIds →
      msgid ∈ (admitReplayLine splice networkId line).1.conv.messageIds) ∧
    (splice.conv.isChannel = false →
      (admitReplayLine splice networkId line).1.facts.channelContextMsgids msgid =
        splice.facts.channelContextMsgids msgid) := by
  unfold admitReplayLine
  split
  · rename_i known
    exact ⟨fun fresh => absurd (.inl (decide_eq_true known)) fresh, fun _ => rfl⟩
  · rename_i unknown
    split
    · rename_i blocked
      exact ⟨fun fresh => absurd (.inr (.inl blocked)) fresh, fun _ => rfl⟩
    · rename_i open_
      split
      · rename_i event
        dsimp only
        rcases admitMembershipReplay_forgets (splice.know line.msgid) (membershipOf line) with
          ⟨facts, ids⟩ | ⟨caption, folds, above, gone, facts, ids⟩
        · rw [facts, ids]
          exact ⟨fun _ => id, fun _ => rfl⟩
        · rw [know_captionAbove] at above
          have key : (splice.know line.msgid).conv.key = splice.conv.key :=
            congrArg Identity.key (know_identity splice.conv line.msgid)
          rw [key] at gone
          have other : caption.msgid ≠ msgid := by
            refine spared caption ?_
            have taken : (foldInto splice.facts splice.conv.key.networkId caption
                line.body).any Option.isNone = true := by
              have same : foldInto splice.facts splice.conv.key.networkId caption line.body =
                  some none := gone
              rw [same]
              rfl
            unfold Splice.cancelled
            rw [if_pos ⟨event, decide_eq_false unknown, Bool.eq_false_of_not_eq_true open_, folds⟩,
              above, Option.filter_some, if_pos taken]
          rw [facts, ids]
          exact ⟨fun _ there => forget_known other there, fun _ => forget_claim other⟩
      · rename_i chat
        split
        · rename_i sequence matched
          refine ⟨fun fresh => absurd (.inr (.inr ⟨chat, ?_⟩)) fresh, fun _ => rfl⟩
          unfold matchedSequence at matched
          obtain ⟨row, found, _⟩ := Option.map_eq_some_iff.mp matched
          exact ⟨row, List.mem_of_find?_eq_some found, List.find?_some found⟩
        · refine ⟨fun _ => id, fun direct => ?_⟩
          have key : (splice.know line.msgid).conv.isChannel = false := by
            rw [← direct]
            exact identity_isChannel (know_identity splice.conv line.msgid)
          unfold Splice.addChat Facts.claimChannelContext
          dsimp only
          rw [if_pos (.inr (.inl key))]
          rfl

/-- A line changes no chat row of the run there was. -/
theorem admitReplayLine_spoken (splice : Splice Disk) (networkId : String) (line : ReplayLine) :
    ∃ added, (admitReplayLine splice networkId line).1.run.filter spoken =
      splice.run.filter spoken ++ added := by
  unfold admitReplayLine
  split
  · exact ⟨[], (List.append_nil _).symm⟩
  · split
    · exact ⟨[], (List.append_nil _).symm⟩
    · split
      · refine ⟨[], ?_⟩
        dsimp only
        rw [admitMembershipReplay_spoken, List.append_nil]
        rfl
      · split
        · exact ⟨[], (List.append_nil _).symm⟩
        · exact ⟨_, List.filter_append ..⟩

variable {splice : Splice Disk} {networkId : String} {line other : ReplayLine}
  {original : List Message} {start : Nat} {next : Int}

/-- A line settles at its turn, unless it cancels a caption of its own msgid. -/
theorem admitReplayLine_settles (named : line.msgid ≠ "")
    (spared : ∀ caption, splice.cancelled line = some caption → caption.msgid ≠ line.msgid) :
    LineSettled (admitReplayLine splice networkId line).1 networkId line := by
  by_cases settled : LineSettled splice networkId line
  · rw [settled.stays]
    exact settled
  · refine .inl (decide_eq_true ⟨named, (admitReplayLine_known spared).1 settled ?_⟩)
    unfold Splice.know
    dsimp only
    rw [know_messageIds, if_neg named]
    exact Finset.mem_insert_self _ _

/-- A settled line stays settled, unless a caption of its msgid is cancelled. -/
theorem LineSettled.kept (settled : LineSettled splice networkId other)
    (landing : Landing original start next splice)
    (spared : ∀ caption, splice.cancelled line = some caption → caption.msgid ≠ other.msgid) :
    LineSettled (admitReplayLine splice networkId line).1 networkId other := by
  by_cases skipped : LineSettled splice networkId line
  · rw [skipped.stays]
    exact settled
  have learned : other.msgid ∈ (splice.know line.msgid).conv.messageIds →
      other.msgid ∈ (admitReplayLine splice networkId line).1.conv.messageIds :=
    (admitReplayLine_known spared).1 skipped
  have claims : splice.conv.isChannel = false →
      (admitReplayLine splice networkId line).1.facts.channelContextMsgids other.msgid =
        splice.facts.channelContextMsgids other.msgid := (admitReplayLine_known spared).2
  have identity := admitReplayLine_identity splice networkId line
  rcases settled with knows | blocks | ⟨chat, row, listed, shows⟩
  · obtain ⟨named, there⟩ := of_decide_eq_true knows
    exact .inl (decide_eq_true ⟨named, learned (know_more _ _ there)⟩)
  · refine .inr (.inl ?_)
    have key : (admitReplayLine splice networkId line).1.conv.key = splice.conv.key :=
      congrArg Identity.key identity
    unfold Splice.blocks Facts.channelContextBlocksDm at blocks ⊢
    rw [identity_isChannel identity, key]
    split at blocks
    · cases blocks
    · rename_i direct
      rw [not_or, Bool.not_eq_true] at direct
      rw [claims direct.1]
      split
      · rename_i refused
        rcases refused with channel | blank
        · exact absurd channel (Bool.eq_false_iff.mp direct.1)
        · exact absurd blank direct.2
      · exact blocks
  · refine .inr (.inr ⟨chat, row, ?_, ?_⟩)
    · have heard : spoken row = true := by
        by_contra quiet
        rw [showsReplayLine_quiet (Bool.eq_false_of_not_eq_true quiet)] at shows
        cases shows
      have after := (landing.admitReplayLine networkId line).spoken
      rw [← landing.spoken] at after
      obtain ⟨added, run⟩ := admitReplayLine_spoken splice networkId line
      rcases List.mem_append.mp listed with stored | ran
      · have still : row ∈ (admitReplayLine splice networkId line).1.conv.messages.filter spoken := by
          rw [after]
          exact List.mem_filter.mpr ⟨stored, heard⟩
        exact List.mem_append_left _ (List.mem_of_mem_filter still)
      · have still : row ∈ (admitReplayLine splice networkId line).1.run.filter spoken := by
          rw [run]
          exact List.mem_append_left _ (List.mem_filter.mpr ⟨ran, heard⟩)
        exact List.mem_append_right _ (List.mem_of_mem_filter still)
    · rw [(admitReplayLine_framed splice networkId line).caseMapping]
      exact shows

end Steps

section Batches

variable {original : List Message} {start : Nat} {next : Int}

/-- The lines of a batch are all settled after the last of them. -/
theorem admitReplayLines_settle {splice : Splice Disk} (networkId : String)
    (landing : Landing original start next splice) {earlier lines : List ReplayLine}
    (settled : ∀ line ∈ earlier, LineSettled splice networkId line)
    (named : ∀ line ∈ lines, line.msgid ≠ "")
    (spared : sparesMsgids networkId splice earlier lines = true) (notes : List PendingNote) :
    Landing original start next (lines.foldl (fun state line =>
      let (splice, outcome) := admitReplayLine state.1 networkId line
      (splice, notesAfter state.2 line outcome)) (splice, notes)).1 ∧
    ∀ line ∈ earlier ++ lines, LineSettled (lines.foldl (fun state line =>
      let (splice, outcome) := admitReplayLine state.1 networkId line
      (splice, notesAfter state.2 line outcome)) (splice, notes)).1 networkId line := by
  induction lines generalizing splice earlier notes with
  | nil =>
      rw [List.append_nil]
      exact ⟨landing, settled⟩
  | cons line rest inductionHypothesis =>
      rw [sparesMsgids, Bool.and_eq_true] at spared
      have apart : ∀ other ∈ earlier ++ [line], ∀ caption, splice.cancelled line = some caption →
          caption.msgid ≠ other.msgid := by
        intro other listed caption gone
        have all := spared.1
        rw [gone, Option.all_some] at all
        exact of_decide_eq_true (List.all_eq_true.mp all other listed)
      have still : ∀ other ∈ earlier ++ [line],
          LineSettled (admitReplayLine splice networkId line).1 networkId other := by
        intro other listed
        rcases List.mem_append.mp listed with before | last
        · exact (settled other before).kept landing (apart other listed)
        · rw [List.mem_singleton.mp last] at listed ⊢
          exact admitReplayLine_settles (named line List.mem_cons_self) (apart line listed)
      have whole := inductionHypothesis (landing.admitReplayLine networkId line) still
        (fun other listed => named other (List.mem_cons_of_mem _ listed)) spared.2
        (notesAfter notes line (admitReplayLine splice networkId line).2)
      rw [List.append_assoc] at whole
      exact whole

variable [Storage Disk]

/-- Facts that a replay line is read with alike. -/
structure SameReading (facts other : Facts Disk) : Prop where
  features : other.features = facts.features
  currentNicks : other.currentNicks = facts.currentNicks
  highlightWords : other.highlightWords = facts.highlightWords
  membershipNoise : other.membershipNoise = facts.membershipNoise
  claims : other.channelContextMsgids = facts.channelContextMsgids

namespace SameReading

omit [CharacterClasses] [Storage Disk]

variable {facts middle other : Facts Disk}

theorem refl (facts : Facts Disk) : SameReading facts facts := ⟨rfl, rfl, rfl, rfl, rfl⟩

theorem symm (same : SameReading facts other) : SameReading other facts where
  features := same.features.symm
  currentNicks := same.currentNicks.symm
  highlightWords := same.highlightWords.symm
  membershipNoise := same.membershipNoise.symm
  claims := same.claims.symm

theorem trans (first : SameReading facts middle) (second : SameReading middle other) :
    SameReading facts other where
  features := second.features.trans first.features
  currentNicks := second.currentNicks.trans first.currentNicks
  highlightWords := second.highlightWords.trans first.highlightWords
  membershipNoise := second.membershipNoise.trans first.membershipNoise
  claims := second.claims.trans first.claims

end SameReading

omit [Storage Disk] in
/-- The arrivals of a run leave the reading of later lines alone. -/
theorem noteRun_reading (event : HistoryEvent) (run : List Message) (facts : Facts Disk)
    (conv : ConversationState) : SameReading facts (noteRun event run facts conv).1 := by
  unfold noteRun
  refine List.foldlRecOn (motive := fun state : Facts Disk × ConversationState =>
    SameReading facts state.1) _ _ (.refl facts) ?_
  intro state same message _
  refine same.trans ?_
  split
  · exact .refl _
  · unfold noteChatArrival plantMention plantInbox
    dsimp only
    repeat' split
    all_goals exact ⟨rfl, rfl, rfl, rfl, rfl⟩

omit [CharacterClasses] in
/-- The log of a run leaves the reading of later lines alone. -/
theorem logged_reading (splice : Splice Disk) : SameReading splice.facts splice.logged := by
  unfold Splice.logged
  split
  · unfold persistMessagesPrepend
    dsimp only
    split
    · exact .refl _
    · exact ⟨rfl, rfl, rfl, rfl, rfl⟩
  · refine List.foldlRecOn (motive := fun facts : Facts Disk =>
      SameReading splice.facts facts) _ _ (.refl _) ?_
    intro facts same message _
    refine same.trans ?_
    unfold persistMessage
    split
    · exact .refl _
    · exact ⟨rfl, rfl, rfl, rfl, rfl⟩

/-- Later lines are read as the lines of a batch left it, when the rows of the batch
fit. -/
theorem spliceHistory_reading {facts : Facts Disk} {conv : ConversationState}
    {event : HistoryEvent} {anchorUse : AnchorUse} {start : Nat}
    (starts : spliceStart conv event anchorUse = (conv, some start)) {last : Splice Disk}
    (lines : (admitReplayLines event.conversation.networkId { facts, conv, at_ := start }
      event.lines).1 = last)
    (fits : last.rows.length ≤ maxMessages) :
    SameReading last.facts (spliceHistory facts conv event anchorUse).1 := by
  have remembered : SameReading last.facts (rememberQuery last.facts last.conv event) := by
    unfold rememberQuery
    split
    · exact ⟨rfl, rfl, rfl, rfl, rfl⟩
    · exact .refl _
  have kept : ∀ (notes : List PendingNote) (facts : Facts Disk) (conv : ConversationState),
      SameReading facts (keepNotes event notes facts conv) := by
    intro notes facts conv
    unfold keepNotes
    dsimp only
    split
    · exact ⟨rfl, rfl, rfl, rfl, rfl⟩
    · exact ⟨rfl, rfl, rfl, rfl, rfl⟩
  unfold spliceHistory
  rw [starts]
  dsimp only
  rw [lines]
  split
  · exact remembered.trans (kept ..)
  · obtain ⟨_, _, placed⟩ := placed_fits { last with
      facts := rememberQuery last.facts last.conv event } event conv.messages.length fits
    rw [placed]
    have logged := remembered.trans
      (logged_reading { last with facts := rememberQuery last.facts last.conv event })
    exact (logged.trans (noteRun_reading ..)).trans (kept ..)

/-- The splice a batch starts, if it has a splice point. -/
def spliceBegun (facts : Facts Disk) (conv : ConversationState) (event : HistoryEvent)
    (anchorUse : AnchorUse) : Option (Splice Disk) :=
  match spliceStart conv event anchorUse with
  | (_, none) => none
  | (conv, some start) => some { facts, conv, at_ := start }

/-- The rows of a splice are within the cap before it trims. -/
def SpliceFits (facts : Facts Disk) (conv : ConversationState) (event : HistoryEvent)
    (anchorUse : AnchorUse) : Prop :=
  ∀ splice, spliceBegun facts conv event anchorUse = some splice →
    (admitReplayLines event.conversation.networkId splice event.lines).1.rows.length ≤ maxMessages

/-- No line of a batch cancels away a caption that carries its own msgid or that of an
earlier line. -/
def SpliceSpares (facts : Facts Disk) (conv : ConversationState) (event : HistoryEvent)
    (anchorUse : AnchorUse) : Prop :=
  ∀ splice, spliceBegun facts conv event anchorUse = some splice →
    sparesMsgids event.conversation.networkId splice [] event.lines = true

/-- A batch of settled lines changes no row, wherever it is spliced. -/
theorem spliceHistory_settled {facts : Facts Disk} {conv : ConversationState}
    {event : HistoryEvent} (settled : ∀ point, ∀ line ∈ event.lines,
      LineSettled { facts, conv, at_ := point } event.conversation.networkId line)
    (anchorUse : AnchorUse) :
    (spliceHistory facts conv event anchorUse).2.messages = conv.messages := by
  cases starts : spliceStart conv event anchorUse with
  | mk started point =>
      cases point with
      | none =>
          unfold spliceHistory
          rw [starts]
          rcases spliceStart_cases conv event anchorUse with kept | stopped
          · rw [starts] at kept
            exact congrArg ConversationState.messages kept
          · rw [starts] at stopped
            have same : started.messages = conv.dropAnchor.messages :=
              congrArg (fun outcome => outcome.1.messages) stopped
            exact same
      | some start =>
          obtain ⟨rfl, _⟩ := spliceStart_inside starts
          unfold spliceHistory
          rw [starts]
          dsimp only
          rw [settled_lines (settled start), if_pos rfl]
          obtain ⟨_, same⟩ := disarmTailCap_cases started event
          rw [same]

omit [CharacterClasses] [Storage Disk] in
/-- A batch that finds no splice point finds none the second time. -/
theorem spliceStart_again {conv started : ConversationState} {event : HistoryEvent}
    {anchorUse : AnchorUse} (stops : spliceStart conv event anchorUse = (started, none)) :
    (spliceStart started event anchorUse).2 = none := by
  rcases spliceStart_cases conv event anchorUse with kept | stopped
  · rw [stops] at kept
    have same : started = conv := kept
    rw [same, stops]
  · rw [stops, Prod.mk.injEq] at stopped
    rw [stopped.1]
    cases anchorUse with
    | keep =>
        have same : (conv, peekSpliceIndex conv) = (started, none) := stops
        rw [Prod.mk.injEq] at same
        rw [← stopped.1, ← same.1]
        exact same.2
    | consume =>
        unfold spliceStart at stops ⊢
        dsimp only at stops ⊢
        split at stops
        · cases stops
        · rename_i newer
          rw [if_neg newer]
          unfold takeSpliceIndex at stops ⊢
          cases whole : conv.channel with
          | none =>
              rw [whole] at stops
              cases stops
          | some channel =>
              unfold ConversationState.dropAnchor ConversationState.onChannel
              dsimp only
              rw [whole]
              rfl

/-- What a splice leaves settled stays so for the next one. -/
theorem LineSettled.again {facts : Facts Disk} {conv : ConversationState} {event : HistoryEvent}
    {anchorUse : AnchorUse} {start : Nat}
    (starts : spliceStart conv event anchorUse = (conv, some start)) {last : Splice Disk}
    (lines : (admitReplayLines event.conversation.networkId { facts, conv, at_ := start }
      event.lines).1 = last)
    (fits : last.rows.length ≤ maxMessages) {networkId : String} {line : ReplayLine}
    (settled : LineSettled last networkId line) (point : Nat) :
    LineSettled
      { facts := (spliceHistory facts conv event anchorUse).1
        conv := (spliceHistory facts conv event anchorUse).2, at_ := point } networkId line := by
  obtain ⟨rows, ids⟩ := spliceHistory_fits starts lines fits
  have claims := (spliceHistory_reading starts lines fits).claims
  have identity : (spliceHistory facts conv event anchorUse).2.identity = last.conv.identity := by
    rw [spliceHistory_identity, ← lines, admitReplayLines_identity]
  have key : (spliceHistory facts conv event anchorUse).2.key = last.conv.key :=
    congrArg Identity.key identity
  have mapping : (spliceHistory facts conv event anchorUse).1.caseMapping networkId =
      last.facts.caseMapping networkId := by
    rw [(spliceHistory_framed facts conv event anchorUse).caseMapping, ← lines,
      (admitReplayLines_framed ..).caseMapping]
  rcases settled with knows | blocks | ⟨chat, row, listed, shows⟩
  · refine .inl ?_
    unfold Splice.knows at knows ⊢
    rw [ids]
    exact knows
  · refine .inr (.inl ?_)
    unfold Splice.blocks Facts.channelContextBlocksDm at blocks ⊢
    rw [identity_isChannel identity, key, claims]
    exact blocks
  · refine .inr (.inr ⟨chat, row, ?_, ?_⟩)
    · have stored : row ∈ (spliceHistory facts conv event anchorUse).2.messages := by
        rw [rows]
        unfold Splice.inserted
        dsimp only
        rcases List.mem_append.mp listed with there | ran
        · rw [← List.take_append_drop (min last.at_ last.conv.messages.length)
            last.conv.messages] at there
          rcases List.mem_append.mp there with above | below
          · exact List.mem_append_left _ (List.mem_append_left _ above)
          · exact List.mem_append_right _ below
        · exact List.mem_append_left _ (List.mem_append_right _ ran)
      exact List.mem_append_left _ stored
    · rw [mapping]
      exact shows

/-- A batch whose lines all carry msgids, spliced a second time at once, leaves the rows as
they are, while the cap is not reached and no line cancels away a caption that carries its
own msgid or that of an earlier line. -/
theorem replay_idempotent {facts : Facts Disk} {conv : ConversationState} {event : HistoryEvent}
    {anchorUse : AnchorUse} (named : ∀ line ∈ event.lines, line.msgid ≠ "")
    (fits : SpliceFits facts conv event anchorUse)
    (spares : SpliceSpares facts conv event anchorUse) :
    (spliceHistory (spliceHistory facts conv event anchorUse).1
      (spliceHistory facts conv event anchorUse).2 event anchorUse).2.messages =
        (spliceHistory facts conv event anchorUse).2.messages := by
  cases starts : spliceStart conv event anchorUse with
  | mk started point =>
      cases point with
      | none =>
          have first : spliceHistory facts conv event anchorUse = (facts, started) := by
            unfold spliceHistory
            rw [starts]
          rw [first]
          cases again : spliceStart started event anchorUse with
          | mk stopped point =>
              have nowhere := spliceStart_again starts
              rw [again] at nowhere
              have same : point = none := nowhere
              subst same
              unfold spliceHistory
              rw [again]
              rcases spliceStart_cases started event anchorUse with kept | dropped
              · rw [again] at kept
                exact congrArg ConversationState.messages kept
              · rw [again, Prod.mk.injEq] at dropped
                dsimp only
                rw [dropped.1]
                rfl
      | some start =>
          obtain ⟨rfl, inside⟩ := spliceStart_inside starts
          have begun : spliceBegun facts started event anchorUse =
              some { facts, conv := started, at_ := start } := by
            unfold spliceBegun
            rw [starts]
          obtain ⟨_, settled⟩ := admitReplayLines_settle event.conversation.networkId
            (Landing.begin facts inside) (List.forall_mem_nil _) named (spares _ begun) []
          exact spliceHistory_settled (fun point line listed =>
            LineSettled.again starts rfl (fits _ begun) (settled line listed) point) anchorUse

end Batches

end Law

section Witness

local instance replayPlatform : Platform := Session.reference
local instance replayClasses : CharacterClasses := asciiClasses
local instance replayStorage : Storage Memory := memory

/-- The facts of a client that has just started. -/
def plainFacts : Facts Memory := { disk := {} }

/-- A channel the user is in, with one line. -/
def quietChannel : ConversationState :=
  { key := { networkId := "net", normalizedTarget := "#c" }, target := "#c"
    messages := [
      { kind := .message, author := "ann", body := "hi", time := 10 ^ 9, msgid := "a" }]
    messageIds := {"a"}
    nextSequence := 1
    channel := some { joined := true } }

/-- An older page with these lines. -/
def pageOf (lines : List ReplayLine) : HistoryEvent :=
  { conversation := quietChannel.key, target := "#c", olderPage := true, lines }

/-- Two peers join, one leaves, and one speaks. -/
def busyPage : HistoryEvent :=
  pageOf [{ body := "bob joined", timestamp := 1, kind := .event, msgid := "b" },
    { body := "eve joined", timestamp := 2, kind := .event, msgid := "c" },
    { author := "eve", body := "hello", timestamp := 3, msgid := "d" },
    { body := "bob left", timestamp := 4, kind := .event, msgid := "e" }]

/-- The captions and the line stand once, however often the page comes. -/
theorem replay_idempotent_busy :
    (spliceHistory plainFacts quietChannel busyPage .consume).2.messages.map Message.body =
        ["bob, eve joined", "hello", "bob left", "hi"] ∧
      (spliceHistory (spliceHistory plainFacts quietChannel busyPage .consume).1
        (spliceHistory plainFacts quietChannel busyPage .consume).2 busyPage .consume).2.messages =
          (spliceHistory plainFacts quietChannel busyPage .consume).2.messages := by
  have begun : spliceBegun plainFacts quietChannel busyPage .consume =
      some { facts := plainFacts, conv := quietChannel, at_ := 0 } := rfl
  refine ⟨by decide +kernel, replay_idempotent (by decide +kernel) ?_ ?_⟩
  · intro splice starts
    rw [begun, Option.some.injEq] at starts
    rw [← starts]
    unfold maxMessages
    decide
  · intro splice starts
    rw [begun, Option.some.injEq] at starts
    rw [← starts]
    decide

/-- A peer leaves and comes back at once. -/
def returnedPage : HistoryEvent :=
  pageOf [{ body := "bob left", timestamp := 1, kind := .event, msgid := "b" },
    { body := "bob joined", timestamp := 2, kind := .event, msgid := "c" }]

/-- The page of a peer that leaves and comes back adds no row, and a caption the second
time: the first msgid went with the caption it stood on. -/
theorem replay_forgets_departure :
    ¬∀ (facts : Facts Memory) (conv : ConversationState) (event : HistoryEvent)
      (anchorUse : AnchorUse), (∀ line ∈ event.lines, line.msgid ≠ "") →
      (event.lines.map ReplayLine.msgid).Nodup → SpliceFits facts conv event anchorUse →
      (spliceHistory (spliceHistory facts conv event anchorUse).1
        (spliceHistory facts conv event anchorUse).2 event anchorUse).2.messages =
          (spliceHistory facts conv event anchorUse).2.messages := by
  intro claim
  have begun : spliceBegun plainFacts quietChannel returnedPage .consume =
      some { facts := plainFacts, conv := quietChannel, at_ := 0 } := rfl
  have fits : SpliceFits plainFacts quietChannel returnedPage .consume := by
    intro splice starts
    rw [begun, Option.some.injEq] at starts
    rw [← starts]
    unfold maxMessages
    decide
  have same := claim plainFacts quietChannel returnedPage .consume (by decide)
    (by decide) fits
  have differs : ¬(spliceHistory (spliceHistory plainFacts quietChannel returnedPage .consume).1
      (spliceHistory plainFacts quietChannel returnedPage .consume).2 returnedPage
        .consume).2.messages =
          (spliceHistory plainFacts quietChannel returnedPage .consume).2.messages := by
    decide +kernel
  exact differs same

end Witness

end Omairc.Irc.Reducer

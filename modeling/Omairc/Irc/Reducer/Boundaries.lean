import Omairc.Irc.Reducer.Gaps
import Omairc.Irc.Reducer.Replay
import Omairc.Irc.Reducer.Stamps

/-!
# Where one batch ends and the next begins

A splice whose run is partly in place already goes on as the splice that still holds the
whole run: the caption that one folds in the transcript is the one the other folds in its
run. So lines may come in one batch or in several, and a held batch may be spliced when
the join lands.
-/

namespace Omairc.Irc.Reducer

open Omairc.Text

variable {Disk : Type}

/-- A batch that starts here keeps landing here: at the anchor, or at the end when there is
no anchor. -/
def ConversationState.StandsAt (conv : ConversationState) (point : Nat) : Prop :=
  conv.AnchoredAt point ∨ conv.anchor = none ∧ point = conv.messages.length

namespace ConversationState.StandsAt

variable {conv later : ConversationState} {point : Nat}

theorem inside (stands : conv.StandsAt point) : point ≤ conv.messages.length := by
  rcases stands with anchored | ⟨_, rfl⟩
  · exact anchored.inside
  · exact le_rfl

/-- An anchor names the point. -/
theorem named (stands : conv.StandsAt point) {anchor : Int} (there : conv.anchor = some anchor) :
    anchor = conv.trimmed + point := by
  rcases stands with anchored | ⟨missing, _⟩
  · exact Option.some.inj (there.symm.trans anchored.anchor)
  · rw [missing] at there
    cases there

/-- The same anchor in as many rows. -/
theorem congr (stands : conv.StandsAt point) (anchor : later.anchor = conv.anchor)
    (trimmed : later.trimmed = conv.trimmed)
    (size : later.messages.length = conv.messages.length) : later.StandsAt point := by
  rcases stands with anchored | ⟨missing, last⟩
  · refine .inl ⟨?_, ?_⟩
    · rw [anchor, trimmed]
      exact anchored.anchor
    · rw [size]
      exact anchored.inside
  · exact .inr ⟨anchor.trans missing, last.trans size.symm⟩

/-- An anchor that moves with the rows above it. -/
theorem moved (stands : conv.StandsAt point) {next : Nat}
    (anchor : later.anchor = conv.anchor.map fun anchor => anchor + ((next : Int) - point))
    (trimmed : later.trimmed = conv.trimmed)
    (size : later.messages.length + point = conv.messages.length + next) :
    later.StandsAt next := by
  have inside := stands.inside
  rcases stands with anchored | ⟨missing, last⟩
  · refine .inl ⟨?_, by omega⟩
    rw [anchor, anchored.anchor, trimmed, Option.map_some]
    congr 1
    omega
  · refine .inr ⟨?_, by omega⟩
    rw [anchor, missing]
    rfl

end ConversationState.StandsAt

open ConversationState

section Starts

variable {conv later : ConversationState} {event : HistoryEvent} {anchorUse : AnchorUse}
  {start point : Nat}

/-- A batch that is no older page starts where later batches keep landing. -/
theorem spliceStart_stands (newer : event.olderPage = false)
    (starts : spliceStart conv event anchorUse = (conv, some start)) : conv.StandsAt start := by
  have indexed : ∀ {anchor : Int} {index : Nat}, conv.anchor = some anchor →
      spliceIndex conv anchor = some index → conv.StandsAt index := by
    intro anchor index named found
    unfold spliceIndex at found
    dsimp only at found
    split at found
    · cases found
    · cases found
      refine .inl ⟨?_, by omega⟩
      rw [named]
      congr 1
      omega
  have direct : conv.channel = none → conv.StandsAt conv.messages.length := by
    intro whole
    refine .inr ⟨?_, rfl⟩
    rw [ConversationState.anchor, whole]
    rfl
  unfold spliceStart takeSpliceIndex peekSpliceIndex at starts
  rw [newer] at starts
  cases anchorUse with
  | consume =>
      dsimp only at starts
      rw [if_neg fun page => Bool.false_ne_true page.2] at starts
      split at starts
      · rename_i whole
        cases starts
        exact direct whole
      · rename_i channel whole
        split at starts
        · cases starts
        · rename_i anchor found
          split at starts
          · cases congrArg Prod.snd starts
          · rename_i index there
            cases starts
            refine indexed ?_ there
            rw [anchor_eq_some whole, found]
            rfl
  | keep =>
      rw [Prod.mk.injEq] at starts
      obtain ⟨_, there⟩ := starts
      split at there
      · rename_i whole
        cases there
        exact direct whole
      · rename_i channel whole
        split at there
        · rename_i missing
          split at there
          · cases there
            refine .inr ⟨?_, rfl⟩
            rw [anchor_eq_some whole, missing]
            rfl
          · cases there
        · rename_i anchor found
          refine indexed ?_ there
          rw [anchor_eq_some whole, found]
          rfl

/-- A conversation with the same channel half has a splice point where that of the other is,
as far as its anchor tells. -/
theorem spliceStart_of_stands (newer : event.olderPage = false)
    (starts : spliceStart conv event anchorUse = (conv, some start))
    (identity : later.identity = conv.identity)
    (anchor : later.anchor.isSome = conv.anchor.isSome) (stands : later.StandsAt point) :
    spliceStart later event anchorUse = (later, some point) := by
  rcases stands with anchored | ⟨missing, rfl⟩
  · unfold spliceStart
    rw [newer]
    cases anchorUse with
    | consume =>
        dsimp only
        rw [if_neg fun page => Bool.false_ne_true page.2, takeSpliceIndex_anchoredAt anchored]
    | keep =>
        dsimp only
        rw [peekSpliceIndex_anchoredAt anchored]
  · rw [missing] at anchor
    have none : conv.anchor = none := by
      rw [← Option.not_isSome_iff_eq_none, ← anchor]
      exact Bool.false_ne_true
    have halves : later.dropAnchor.channel = conv.dropAnchor.channel :=
      congrArg Identity.channel identity
    unfold ConversationState.dropAnchor ConversationState.onChannel at halves
    dsimp only at halves
    unfold spliceStart takeSpliceIndex peekSpliceIndex at starts ⊢
    rw [newer] at starts ⊢
    cases whole : conv.channel with
    | none =>
        rw [whole, Option.map_none, Option.map_eq_none_iff] at halves
        rw [halves]
        cases anchorUse with
        | consume =>
            dsimp only
            rw [if_neg fun page => Bool.false_ne_true page.2]
        | keep => rfl
    | some channel =>
        rw [whole, Option.map_some, Option.map_eq_some_iff] at halves
        obtain ⟨half, there, same⟩ := halves
        rw [anchor_eq_some whole, Option.map_eq_none_iff] at none
        rw [anchor_eq_some there, Option.map_eq_none_iff] at missing
        have joined : half.joined = channel.joined := by
          injection same
        rw [whole] at starts
        dsimp only at starts
        rw [none] at starts
        rw [there]
        dsimp only
        rw [missing]
        cases anchorUse with
        | consume =>
            dsimp only at starts
            rw [if_neg fun page => Bool.false_ne_true page.2] at starts
            cases starts
        | keep =>
            dsimp only at starts ⊢
            rw [joined]
            split at starts
            · rename_i inside
              rw [if_pos inside]
            · cases starts

end Starts

section Folds

variable {splice : Splice Disk} {line : ReplayMembership}

/-- A fold into a run that ends with a row is one into that row. -/
theorem foldRun_concat {before : List Message} {row : Message}
    (whole : splice.run = before ++ [row]) :
    splice.foldRun line =
      (foldInto splice.facts splice.conv.key.networkId row line.body).map fun
        | some rewritten => ({ splice with run := before ++ [rewritten] }, {})
        | none =>
            ({ splice with
              facts := (forgetTranscriptMsgid splice.facts splice.conv row.msgid).1
              conv := (forgetTranscriptMsgid splice.facts splice.conv row.msgid).2
              run := before }, { dropped := true, droppedSequence := row.sequence }) := by
  unfold Splice.foldRun
  rw [whole, List.getLast?_concat, List.dropLast_concat]
  dsimp only
  cases foldInto splice.facts splice.conv.key.networkId row line.body with
  | none => rfl
  | some outcome =>
      cases outcome with
      | none => rfl
      | some rewritten => rfl

/-- A fold above the splice point is one into the row there. -/
theorem foldTranscript_above {index : Nat} {row : Message} (above : splice.at_ = index + 1)
    (there : splice.conv.messages[index]? = some row) :
    splice.foldTranscript line =
      (foldInto splice.facts splice.conv.key.networkId row line.body).map fun
        | some rewritten =>
            ({ splice with
              conv := { splice.conv with
                messages := splice.conv.messages.set index rewritten } }, {})
        | none =>
            ({ splice with
              facts := (forgetTranscriptMsgid splice.facts splice.conv row.msgid).1
              conv := ConversationState.moveAnchor
                { (forgetTranscriptMsgid splice.facts splice.conv row.msgid).2 with
                  messages := splice.conv.messages.eraseIdx index }
                fun anchor => if anchor - splice.conv.trimmed > index then anchor - 1 else anchor
              at_ := index }, { dropped := true, droppedSequence := row.sequence }) := by
  obtain ⟨inside, _⟩ := List.getElem?_eq_some_iff.mp there
  unfold Splice.foldTranscript
  rw [if_neg (by omega), above, Nat.add_sub_cancel]
  dsimp only
  rw [there]
  dsimp only
  cases foldInto splice.facts splice.conv.key.networkId row line.body with
  | none => rfl
  | some outcome =>
      cases outcome with
      | none =>
          rw [forgetTranscriptMsgid_conv]
          rfl
      | some rewritten => rfl

/-- Nothing folds above the top. -/
theorem foldTranscript_top (top : splice.at_ = 0) : splice.foldTranscript line = none := by
  unfold Splice.foldTranscript
  rw [if_pos (.inl top)]

end Folds

namespace SameReading

variable {facts other : Facts Disk}

theorem caseMapping (same : SameReading facts other) (networkId : String) :
    other.caseMapping networkId = facts.caseMapping networkId := by
  unfold Facts.caseMapping Facts.isupport
  rw [same.features]

theorem foldInto (same : SameReading facts other) (networkId : String) (row : Message)
    (body : String) :
    Reducer.foldInto other networkId row body = Reducer.foldInto facts networkId row body := by
  have equals : other.equals networkId = facts.equals networkId := by
    funext left right
    rw [Facts.equals, same.caseMapping]
    rfl
  unfold Reducer.foldInto
  rw [equals]

theorem blocks (same : SameReading facts other) (key : ConversationKey) (isChannel : Bool)
    (msgid : MsgId) :
    other.channelContextBlocksDm key isChannel msgid =
      facts.channelContextBlocksDm key isChannel msgid := by
  unfold Facts.channelContextBlocksDm
  rw [same.claims]

theorem claim (same : SameReading facts other) (home : ConversationKey) (isChannel : Bool)
    (msgid : MsgId) (only : Bool) :
    SameReading (facts.claimChannelContext home isChannel msgid only)
      (other.claimChannelContext home isChannel msgid only) := by
  unfold Facts.claimChannelContext
  split
  · exact same
  · refine ⟨same.features, same.currentNicks, same.highlightWords, same.membershipNoise, ?_⟩
    dsimp only
    rw [same.claims]

theorem forget (same : SameReading facts other) {conv later : ConversationState}
    (key : later.key = conv.key) (msgid : MsgId) :
    SameReading (forgetTranscriptMsgid facts conv msgid).1
      (forgetTranscriptMsgid other later msgid).1 := by
  unfold forgetTranscriptMsgid Facts.releaseChannelContext
  rw [key, same.claims]
  split
  · exact same
  · dsimp only
    split
    · exact ⟨same.features, same.currentNicks, same.highlightWords, same.membershipNoise, rfl⟩
    · exact same

theorem highlight [CharacterClasses] (same : SameReading facts other)
    (networkId author : String) (kind : MessageKind) (body : String) :
    other.transcriptHighlight networkId author kind body =
      facts.transcriptHighlight networkId author kind body := by
  unfold Facts.transcriptHighlight Facts.isMention Facts.isNickMention Facts.isHighlightHit
    Facts.isSelf Facts.normalize Facts.equals
  rw [same.currentNicks, same.highlightWords, same.caseMapping]

end SameReading

/-- A splice goes on with the first rows of the run in place already, where another one still
holds the whole run. -/
structure Resumed (placed : List Message) (whole part : Splice Disk) : Prop where
  reading : SameReading whole.facts part.facts
  run : whole.run = placed ++ part.run
  point : part.at_ = whole.at_ + placed.length
  stands : whole.conv.StandsAt whole.at_
  messages : part.conv.messages =
    whole.conv.messages.take whole.at_ ++ placed ++ whole.conv.messages.drop whole.at_
  anchor : part.conv.anchor = whole.conv.anchor.map (· + (placed.length : Int))
  identity : part.conv.identity = whole.conv.identity
  messageIds : part.conv.messageIds = whole.conv.messageIds
  nextSequence : part.conv.nextSequence = whole.conv.nextSequence
  trimmed : part.conv.trimmed = whole.conv.trimmed

namespace Resumed

variable {placed : List Message} {whole part : Splice Disk}

theorem key (resumed : Resumed placed whole part) : part.conv.key = whole.conv.key :=
  congrArg Identity.key resumed.identity

/-- Both hold the same rows. -/
theorem rows (resumed : Resumed placed whole part) : part.rows.Perm whole.rows := by
  unfold Splice.rows
  rw [resumed.messages, resumed.run]
  conv_rhs => rw [← List.take_append_drop whole.at_ whole.conv.messages]
  rw [List.append_assoc, List.append_assoc, List.append_assoc]
  refine List.Perm.append_left _ ?_
  rw [← List.append_assoc, ← List.append_assoc]
  exact List.perm_append_comm.append_right _

/-- The splice that goes on stands behind the rows in place. -/
theorem stands_part (resumed : Resumed placed whole part) : part.conv.StandsAt part.at_ := by
  have inside := resumed.stands.inside
  have point := resumed.point
  refine resumed.stands.moved ?_ resumed.trimmed ?_
  · rw [resumed.anchor]
    refine Option.map_congr fun anchor _ => ?_
    omega
  · rw [resumed.messages, List.length_append, List.length_append, List.length_take_of_le inside,
      List.length_drop]
    omega

/-- Other rows after those in place. -/
theorem withRun (resumed : Resumed placed whole part) (run : List Message) :
    Resumed placed { whole with run := placed ++ run } { part with run } :=
  { resumed with run := rfl }

theorem know (resumed : Resumed placed whole part) (msgid : MsgId) :
    Resumed placed (whole.know msgid) (part.know msgid) where
  reading := resumed.reading
  run := resumed.run
  point := resumed.point
  stands := resumed.stands.congr (know_anchor ..) (know_trimmed ..)
    (congrArg List.length (know_messages whole.conv msgid))
  messages := by
    unfold Splice.know
    rw [know_messages, know_messages]
    exact resumed.messages
  anchor := by
    unfold Splice.know
    rw [know_anchor, know_anchor]
    exact resumed.anchor
  identity := by
    unfold Splice.know
    rw [know_identity, know_identity]
    exact resumed.identity
  messageIds := by
    unfold Splice.know
    rw [know_messageIds, know_messageIds, resumed.messageIds]
  nextSequence := by
    unfold Splice.know
    rw [know_nextSequence, know_nextSequence]
    exact resumed.nextSequence
  trimmed := by
    unfold Splice.know
    rw [know_trimmed, know_trimmed]
    exact resumed.trimmed

/-- A row that joins both runs. -/
theorem pushed (resumed : Resumed placed whole part) (row : Message) {facts other : Facts Disk}
    (reading : SameReading facts other) :
    Resumed placed
      { whole with
        facts
        conv := { whole.conv with nextSequence := whole.conv.nextSequence + 1 }
        run := whole.run ++ [row] }
      { part with
        facts := other
        conv := { part.conv with nextSequence := part.conv.nextSequence + 1 }
        run := part.run ++ [row] } where
  reading := reading
  run := by
    dsimp only
    rw [resumed.run, List.append_assoc]
  point := resumed.point
  stands := resumed.stands.congr rfl rfl rfl
  messages := resumed.messages
  anchor := resumed.anchor
  identity := resumed.identity
  messageIds := resumed.messageIds
  nextSequence := congrArg (· + 1) resumed.nextSequence
  trimmed := resumed.trimmed

/-- A msgid that both forget. -/
theorem forget (resumed : Resumed placed whole part) (msgid : MsgId) :
    Resumed placed
      { whole with
        facts := (forgetTranscriptMsgid whole.facts whole.conv msgid).1
        conv := (forgetTranscriptMsgid whole.facts whole.conv msgid).2 }
      { part with
        facts := (forgetTranscriptMsgid part.facts part.conv msgid).1
        conv := (forgetTranscriptMsgid part.facts part.conv msgid).2 } := by
  rw [forgetTranscriptMsgid_conv, forgetTranscriptMsgid_conv]
  refine { resumed with
    reading := resumed.reading.forget resumed.key msgid
    stands := resumed.stands.congr rfl rfl rfl
    identity := resumed.identity
    messageIds := ?_ }
  dsimp only
  rw [resumed.messageIds]

/-- The last row in place takes another text: above the splice point in one splice, in the
run of the other. -/
theorem rewritten {before : List Message} {row : Message}
    (resumed : Resumed (before ++ [row]) whole part) (bare : part.run = [])
    (rewritten : Message) :
    Resumed (before ++ [rewritten]) { whole with run := before ++ [rewritten] }
      { part with
        conv := { part.conv with
          messages := part.conv.messages.set (whole.at_ + before.length) rewritten } } where
  reading := resumed.reading
  run := by
    dsimp only
    rw [bare, List.append_nil]
  point := by
    have point := resumed.point
    rw [List.length_append] at point ⊢
    exact point
  stands := resumed.stands
  messages := by
    have first : (whole.conv.messages.take whole.at_ ++ before).length =
        whole.at_ + before.length := by
      rw [List.length_append, List.length_take_of_le resumed.stands.inside]
    dsimp only
    rw [resumed.messages, ← List.append_assoc, ← List.append_assoc, ← first, List.append_assoc _ [row],
      List.set_append_right _ _ le_rfl, Nat.sub_self, List.append_assoc _ [rewritten]]
    rfl
  anchor := by
    have anchor := resumed.anchor
    rw [List.length_append] at anchor ⊢
    exact anchor
  identity := resumed.identity
  messageIds := resumed.messageIds
  nextSequence := resumed.nextSequence
  trimmed := resumed.trimmed

/-- The last row in place goes: above the splice point in one splice, out of the run of the
other. -/
theorem dropped {before : List Message} {row : Message}
    (resumed : Resumed (before ++ [row]) whole part) (bare : part.run = []) :
    Resumed before
      { whole with run := before }
      { part with
        conv := ConversationState.moveAnchor
          { part.conv with
            messages := part.conv.messages.eraseIdx (whole.at_ + before.length) }
          fun anchor =>
            if anchor - part.conv.trimmed > ((whole.at_ + before.length : Nat) : Int) then anchor - 1
            else anchor
        at_ := whole.at_ + before.length } where
  reading := resumed.reading
  run := by
    dsimp only
    rw [bare, List.append_nil]
  point := rfl
  stands := resumed.stands
  messages := by
    have first : (whole.conv.messages.take whole.at_ ++ before).length =
        whole.at_ + before.length := by
      rw [List.length_append, List.length_take_of_le resumed.stands.inside]
    change part.conv.messages.eraseIdx _ = _
    rw [resumed.messages, ← List.append_assoc, ← first, List.append_assoc _ [row],
      List.eraseIdx_append_of_length_le le_rfl, Nat.sub_self]
    rfl
  anchor := by
    rw [moveAnchor_anchor]
    change part.conv.anchor.map _ = _
    rw [resumed.anchor, resumed.trimmed, List.length_append, List.length_singleton,
      Option.map_map]
    refine Option.map_congr fun anchor named => ?_
    have there := resumed.stands.named named
    dsimp only [Function.comp_apply]
    rw [if_pos (by omega)]
    omega
  identity := (moveAnchor_identity ..).trans resumed.identity
  messageIds := resumed.messageIds
  nextSequence := resumed.nextSequence
  trimmed := resumed.trimmed

/-- The row above the splice point takes another text in both. -/
theorem rewrittenAbove (resumed : Resumed [] whole part) (index : Nat) (rewritten : Message) :
    Resumed []
      { whole with
        conv := { whole.conv with messages := whole.conv.messages.set index rewritten } }
      { part with
        conv := { part.conv with messages := part.conv.messages.set index rewritten } } where
  reading := resumed.reading
  run := resumed.run
  point := resumed.point
  stands := resumed.stands.congr rfl rfl List.length_set
  messages := by
    dsimp only
    rw [resumed.messages, List.append_nil, List.append_nil, List.take_append_drop,
      List.take_append_drop]
  anchor := resumed.anchor
  identity := resumed.identity
  messageIds := resumed.messageIds
  nextSequence := resumed.nextSequence
  trimmed := resumed.trimmed

/-- The row above the splice point goes in both. -/
theorem droppedAbove (resumed : Resumed [] whole part) {index : Nat}
    (above : whole.at_ = index + 1) :
    Resumed []
      { whole with
        conv := ConversationState.moveAnchor
          { whole.conv with messages := whole.conv.messages.eraseIdx index }
          fun anchor => if anchor - whole.conv.trimmed > index then anchor - 1 else anchor
        at_ := index }
      { part with
        conv := ConversationState.moveAnchor
          { part.conv with messages := part.conv.messages.eraseIdx index }
          fun anchor => if anchor - part.conv.trimmed > index then anchor - 1 else anchor
        at_ := index } where
  reading := resumed.reading
  run := resumed.run
  point := rfl
  stands := by
    have inside := resumed.stands.inside
    refine resumed.stands.moved ?_ rfl ?_
    · rw [moveAnchor_anchor]
      change whole.conv.anchor.map _ = _
      refine Option.map_congr fun anchor named => ?_
      have there := resumed.stands.named named
      dsimp only
      rw [if_pos (by omega)]
      omega
    · change (whole.conv.messages.eraseIdx index).length + whole.at_ =
        whole.conv.messages.length + index
      rw [List.length_eraseIdx_of_lt (by omega)]
      omega
  messages := by
    change part.conv.messages.eraseIdx index =
      (whole.conv.messages.eraseIdx index).take index ++ [] ++
        (whole.conv.messages.eraseIdx index).drop index
    rw [resumed.messages, List.append_nil, List.append_nil, List.take_append_drop,
      List.take_append_drop]
  anchor := by
    rw [moveAnchor_anchor, moveAnchor_anchor]
    change part.conv.anchor.map _ = (whole.conv.anchor.map _).map _
    rw [resumed.anchor, resumed.trimmed, Option.map_map, Option.map_map]
    refine Option.map_congr fun anchor _ => ?_
    simp
  identity := by
    rw [moveAnchor_identity, moveAnchor_identity]
    exact resumed.identity
  messageIds := resumed.messageIds
  nextSequence := resumed.nextSequence
  trimmed := resumed.trimmed

end Resumed

/-- Two splices go on alike: one has the first rows of the run of the other in place. -/
def Alike (whole part : Splice Disk) : Prop := ∃ placed, Resumed placed whole part

namespace Resumed

variable {placed : List Message} {whole part : Splice Disk} {line : ReplayMembership}

theorem alike (resumed : Resumed placed whole part) : Alike whole part := ⟨placed, resumed⟩

/-- Folds into the same row have the same outcome, and go on alike when each outcome does. -/
theorem rel_fold {outcome : Option (Option Message)}
    {first second : Option Message → Splice Disk × MembershipReplayResult}
    (rewritten : ∀ row, Alike (first (some row)).1 (second (some row)).1)
    (gone : Alike (first none).1 (second none).1) :
    Option.Rel (fun whole part => Alike whole.1 part.1) (outcome.map first) (outcome.map second) := by
  cases outcome with
  | none => exact .none
  | some change =>
      refine .some ?_
      cases change with
      | none => exact gone
      | some row => exact rewritten row

/-- Both fold into the same row of their runs. -/
theorem foldRun (resumed : Resumed placed whole part) {before : List Message} {row : Message}
    (last : part.run = before ++ [row]) :
    Option.Rel (fun whole part => Alike whole.1 part.1) (whole.foldRun line)
      (part.foldRun line) := by
  have long : whole.run = (placed ++ before) ++ [row] := by
    rw [resumed.run, last, List.append_assoc]
  rw [foldRun_concat last, foldRun_concat long, resumed.reading.foldInto, resumed.key]
  refine rel_fold (fun rewritten => ?_) ?_
  · have after := resumed.withRun (before ++ [rewritten])
    rw [← List.append_assoc] at after
    exact after.alike
  · exact ((resumed.forget row.msgid).withRun before).alike

/-- One folds into the last row in place, the other into the last row of its run. -/
theorem foldBoundary (resumed : Resumed placed whole part) (bare : part.run = [])
    (some : placed ≠ []) :
    Option.Rel (fun whole part => Alike whole.1 part.1) (whole.foldRun line)
      (part.foldTranscript line) := by
  obtain ⟨before, row, rfl⟩ := (List.eq_nil_or_concat' placed).resolve_left some
  have long : whole.run = before ++ [row] := by
    rw [resumed.run, bare, List.append_nil]
  have above : part.at_ = (whole.at_ + before.length) + 1 := by
    rw [resumed.point, List.length_append]
    rfl
  have there : part.conv.messages[whole.at_ + before.length]? = .some row := by
    have first : (whole.conv.messages.take whole.at_ ++ before).length =
        whole.at_ + before.length := by
      rw [List.length_append, List.length_take_of_le resumed.stands.inside]
    rw [resumed.messages, ← List.append_assoc, ← first, List.append_assoc _ [row],
      List.getElem?_append_right le_rfl, Nat.sub_self]
    rfl
  rw [foldRun_concat long, foldTranscript_above above there, resumed.reading.foldInto, resumed.key]
  refine rel_fold (fun rewritten => (resumed.rewritten bare rewritten).alike) ?_
  have after := (resumed.forget row.msgid).dropped bare
  dsimp only at after ⊢
  rw [forgetTranscriptMsgid_conv, forgetTranscriptMsgid_conv] at after ⊢
  exact after.alike

/-- Both fold into the row above the same splice point. -/
theorem foldAbove (resumed : Resumed [] whole part) :
    Option.Rel (fun whole part => Alike whole.1 part.1) (whole.foldTranscript line)
      (part.foldTranscript line) := by
  have point : part.at_ = whole.at_ := resumed.point
  have messages : part.conv.messages = whole.conv.messages := by
    rw [resumed.messages, List.append_nil, List.take_append_drop]
  cases top : whole.at_ with
  | zero =>
      rw [foldTranscript_top top, foldTranscript_top (point.trans top)]
      exact .none
  | succ index =>
      have inside := resumed.stands.inside
      obtain ⟨row, there⟩ : ∃ row, whole.conv.messages[index]? = .some row :=
        ⟨_, List.getElem?_eq_getElem (by omega)⟩
      rw [foldTranscript_above top there,
        foldTranscript_above (point.trans top) (messages ▸ there), resumed.reading.foldInto,
        resumed.key]
      refine rel_fold (fun rewritten => (resumed.rewrittenAbove index rewritten).alike) ?_
      have after := (resumed.forget row.msgid).droppedAbove top
      dsimp only at after ⊢
      rw [forgetTranscriptMsgid_conv, forgetTranscriptMsgid_conv] at after ⊢
      exact after.alike

end Resumed

namespace Alike

variable {whole part : Splice Disk}

theorem know (alike : Alike whole part) (msgid : MsgId) :
    Alike (whole.know msgid) (part.know msgid) := by
  obtain ⟨placed, resumed⟩ := alike
  exact (resumed.know msgid).alike

/-- A membership line meets the same caption in both. -/
theorem admitMembershipReplay (alike : Alike whole part) (line : ReplayMembership) :
    Alike (admitMembershipReplay whole line).1 (admitMembershipReplay part line).1 := by
  obtain ⟨placed, resumed⟩ := alike
  have added : ∀ showEach,
      Alike (whole.addMembership line showEach).1 (part.addMembership line showEach).1 := by
    intro showEach
    unfold Splice.addMembership
    dsimp only
    rw [resumed.nextSequence]
    have after := resumed.pushed
      { kind := .event, body := line.body, time := line.timestamp, serverTime := line.serverTime
        msgid := line.msgid, origin := .replay, collapsible := !showEach
        sequence := whole.conv.nextSequence } resumed.reading
    rw [resumed.nextSequence] at after
    exact after.alike
  have folded : Option.Rel (fun whole part => Alike whole.1 part.1)
      (if whole.run = [] then whole.foldTranscript line else whole.foldRun line)
      (if part.run = [] then part.foldTranscript line else part.foldRun line) := by
    rcases List.eq_nil_or_concat' part.run with bare | ⟨before, row, last⟩
    · rw [if_pos bare]
      by_cases empty : placed = []
      · subst empty
        rw [if_pos (resumed.run.trans bare)]
        exact resumed.foldAbove
      · rw [if_neg (by rw [resumed.run, bare, List.append_nil]; exact empty)]
        exact resumed.foldBoundary bare empty
    · rw [if_neg (by rw [resumed.run, last]; simp), if_neg (by rw [last]; simp)]
      exact resumed.foldRun last
  unfold Reducer.admitMembershipReplay
  dsimp only
  rw [resumed.reading.membershipNoise]
  split
  · exact resumed.alike
  · split
    · exact added _
    · generalize (if whole.run = [] then whole.foldTranscript line else whole.foldRun line) = first
        at folded ⊢
      generalize (if part.run = [] then part.foldTranscript line else part.foldRun line) = second
        at folded ⊢
      cases folded with
      | none => exact added _
      | some both => exact both

/-- Both hold a row that satisfies a predicate, or neither does. -/
theorem matched (alike : Alike whole part) (matching : Message → Bool) :
    matchedSequence part matching = none ↔ matchedSequence whole matching = none := by
  obtain ⟨placed, resumed⟩ := alike
  unfold matchedSequence
  rw [Option.map_eq_none_iff, Option.map_eq_none_iff, List.find?_eq_none, List.find?_eq_none]
  exact ⟨fun unmatched row listed => unmatched row (resumed.rows.mem_iff.mpr listed),
    fun unmatched row listed => unmatched row (resumed.rows.mem_iff.mp listed)⟩

variable [CharacterClasses]

/-- A chat line joins both runs as the same row. -/
theorem addChat (alike : Alike whole part) (networkId : String) (line : ReplayLine) :
    Alike (whole.addChat networkId line) (part.addChat networkId line) := by
  obtain ⟨placed, resumed⟩ := alike
  have row : chatRow part networkId line = chatRow whole networkId line := by
    unfold chatRow
    dsimp only
    rw [resumed.reading.highlight, resumed.nextSequence]
  have known := resumed.know line.msgid
  have reading : SameReading
      (whole.facts.claimChannelContext (whole.know line.msgid).conv.key
        (whole.know line.msgid).conv.isChannel line.msgid line.onlyVisibleToYou)
      (part.facts.claimChannelContext (part.know line.msgid).conv.key
        (part.know line.msgid).conv.isChannel line.msgid line.onlyVisibleToYou) := by
    rw [known.key, identity_isChannel known.identity]
    exact resumed.reading.claim ..
  have after := known.pushed (chatRow whole networkId line) reading
  unfold Splice.addChat
  dsimp only
  rw [row]
  exact after.alike

/-- A replay line has the same outcome in both. -/
theorem admitReplayLine (alike : Alike whole part) (networkId : String) (line : ReplayLine) :
    Alike (admitReplayLine whole networkId line).1 (admitReplayLine part networkId line).1 := by
  obtain ⟨placed, resumed⟩ := alike
  unfold Reducer.admitReplayLine
  rw [resumed.messageIds, resumed.key, identity_isChannel resumed.identity,
    resumed.reading.blocks, resumed.reading.caseMapping]
  split
  · exact resumed.alike
  · split
    · exact resumed.alike
    · split
      · exact (resumed.alike.know line.msgid).admitMembershipReplay (membershipOf line)
      · have matched := resumed.alike.matched (showsReplayLine line (chatKind line.kind)
          (whole.facts.caseMapping networkId))
        split
        · rename_i there
          split
          · exact resumed.alike
          · rename_i missing
            rw [matched, there] at missing
            cases missing
        · rename_i missing
          split
          · rename_i there
            rw [matched.mpr missing] at there
            cases there
          · exact resumed.alike.addChat networkId line

end Alike

section Lines

variable [CharacterClasses]

/-- The splice after some lines, apart from their notes. -/
theorem admitReplayLines_splice (networkId : String) (splice : Splice Disk)
    (lines : List ReplayLine) :
    (admitReplayLines networkId splice lines).1 =
      lines.foldl (fun splice line => (admitReplayLine splice networkId line).1) splice := by
  unfold admitReplayLines
  generalize ([] : List PendingNote) = notes
  induction lines generalizing splice notes with
  | nil => rfl
  | cons line rest inductionHypothesis => exact inductionHypothesis ..

/-- Lines in two parts are taken one part after the other. -/
theorem admitReplayLines_append (networkId : String) (splice : Splice Disk)
    (first second : List ReplayLine) :
    (admitReplayLines networkId splice (first ++ second)).1 =
      (admitReplayLines networkId (admitReplayLines networkId splice first).1 second).1 := by
  rw [admitReplayLines_splice, admitReplayLines_splice, admitReplayLines_splice,
    List.foldl_append]

theorem Alike.admitReplayLines {whole part : Splice Disk} (alike : Alike whole part)
    (networkId : String) (lines : List ReplayLine) :
    Alike (admitReplayLines networkId whole lines).1
      (admitReplayLines networkId part lines).1 := by
  rw [admitReplayLines_splice, admitReplayLines_splice]
  induction lines generalizing whole part with
  | nil => exact alike
  | cons line rest inductionHypothesis =>
      exact inductionHypothesis (alike.admitReplayLine networkId line)

end Lines

/-- The rows of a splice with its run in place. -/
theorem landed_messages {splice : Splice Disk} (inside : splice.at_ ≤ splice.conv.messages.length) :
    splice.landed.messages = splice.conv.messages.take splice.at_ ++ splice.run ++
      splice.conv.messages.drop splice.at_ := by
  change splice.inserted.messages = _
  unfold Splice.inserted
  rw [min_eq_left inside]

/-- Once a splice has put its run in place, the next one resumes from there. -/
theorem Resumed.landed {placed : List Message} {whole part : Splice Disk}
    (resumed : Resumed placed whole part) {facts : Facts Disk}
    (reading : SameReading part.facts facts)
    (unread mentions : Nat) (unreadMark : Option Int) (spliceEpoch : Nat)
    (historyPageCapTail : Bool) :
    Resumed whole.run whole
      { facts
        conv := { part.landed with unread, mentions, unreadMark, spliceEpoch, historyPageCapTail }
        at_ := whole.at_ + whole.run.length } where
  reading := resumed.reading.trans reading
  run := (List.append_nil _).symm
  point := rfl
  stands := resumed.stands
  messages := by
    have first : (whole.conv.messages.take whole.at_ ++ placed).length = part.at_ := by
      rw [List.length_append, List.length_take_of_le resumed.stands.inside, resumed.point]
    have inside : part.at_ ≤ part.conv.messages.length := by
      rw [resumed.messages, List.length_append, first]
      exact Nat.le_add_right ..
    change part.landed.messages = _
    rw [landed_messages inside, resumed.messages, List.take_left' first, List.drop_left' first,
      resumed.run, List.append_assoc _ placed]
  anchor := by
    change part.landed.anchor = _
    unfold Splice.landed
    rw [moveAnchor_anchor]
    change part.conv.anchor.map _ = _
    rw [resumed.anchor, resumed.run, Option.map_map, List.length_append]
    refine Option.map_congr fun anchor _ => ?_
    dsimp only [Function.comp_apply]
    omega
  identity := (landed_identity part).trans resumed.identity
  messageIds := resumed.messageIds
  nextSequence := resumed.nextSequence
  trimmed := resumed.trimmed

/-- Two conversations with the same transcript: the rows, the known msgids and the place where
the next batch lands. -/
structure SameTranscript (conv other : ConversationState) : Prop where
  messages : other.messages = conv.messages
  messageIds : other.messageIds = conv.messageIds
  anchor : other.anchor = conv.anchor

section Batches

variable [CharacterClasses] [Storage Disk]

/-- Splice batches of one kind one after another. -/
def spliceEach (facts : Facts Disk) (conv : ConversationState) (event : HistoryEvent)
    (anchorUse : AnchorUse) (batches : List (List ReplayLine)) : Facts Disk × ConversationState :=
  batches.foldl (fun state lines =>
    spliceHistory state.1 state.2 { event with lines } anchorUse) (facts, conv)

variable {facts other : Facts Disk} {conv : ConversationState} {event : HistoryEvent}
  {anchorUse : AnchorUse} {start : Nat}

/-- One more batch: what it leaves resumes the splice of all the lines so far. -/
theorem Resumed.spliced {placed : List Message} {whole last : Splice Disk}
    {later : ConversationState} {point : Nat}
    (resumed : Resumed placed whole { facts := other, conv := later, at_ := point })
    (starts : spliceStart later event anchorUse = (later, some point))
    (taken : (admitReplayLines event.conversation.networkId whole event.lines).1 = last)
    (fits : last.rows.length ≤ maxMessages) :
    Resumed last.run last
      { facts := (spliceHistory other later event anchorUse).1
        conv := (spliceHistory other later event anchorUse).2
        at_ := last.at_ + last.run.length } := by
  obtain ⟨placed, after⟩ := resumed.alike.admitReplayLines event.conversation.networkId event.lines
  rw [taken] at after
  rw [← after.rows.length_eq] at fits
  have reading := spliceHistory_reading starts rfl fits
  obtain ⟨unread, mentions, unreadMark, spliceEpoch, historyPageCapTail, landed⟩ :=
    spliceHistory_landed starts rfl fits
  rw [landed]
  exact after.landed reading unread mentions unreadMark spliceEpoch historyPageCapTail

omit [CharacterClasses] [Storage Disk] in
/-- A membership line moves an anchor or leaves it, and drops none. -/
theorem admitMembershipReplay_anchored (splice : Splice Disk) (line : ReplayMembership) :
    (admitMembershipReplay splice line).1.conv.anchor.isSome = splice.conv.anchor.isSome := by
  rcases admitMembershipReplay_cases splice line with hidden | folded | folded | ⟨showEach, added⟩
  · rw [hidden]
  · obtain ⟨_, _, _, _, ⟨_, _, same⟩ | ⟨_, same⟩⟩ := foldTranscript_cases folded
    · rw [same]
      rfl
    · rw [same, forgetTranscriptMsgid_conv]
      dsimp only
      rw [moveAnchor_anchor, Option.isSome_map]
      rfl
  · obtain ⟨_, _, _, ⟨_, _, same⟩ | ⟨_, same⟩⟩ := foldRun_cases folded
    · rw [same]
    · rw [same, forgetTranscriptMsgid_conv]
      rfl
  · rw [added]
    rfl

omit [Storage Disk] in
/-- A replay line drops no anchor. -/
theorem admitReplayLine_anchored (splice : Splice Disk) (networkId : String) (line : ReplayLine) :
    (admitReplayLine splice networkId line).1.conv.anchor.isSome =
      splice.conv.anchor.isSome := by
  have known : (splice.know line.msgid).conv.anchor.isSome = splice.conv.anchor.isSome :=
    congrArg Option.isSome (know_anchor splice.conv line.msgid)
  unfold admitReplayLine
  split
  · rfl
  · split
    · rfl
    · split
      · exact (admitMembershipReplay_anchored ..).trans known
      · split
        · rfl
        · exact known

omit [Storage Disk] in
theorem admitReplayLines_anchored (networkId : String) (splice : Splice Disk)
    (lines : List ReplayLine) :
    (admitReplayLines networkId splice lines).1.conv.anchor.isSome =
      splice.conv.anchor.isSome := by
  rw [admitReplayLines_splice]
  induction lines generalizing splice with
  | nil => rfl
  | cons line rest inductionHypothesis =>
      exact (inductionHypothesis _).trans (admitReplayLine_anchored ..)

/-- The splice of all the lines of some batches. -/
def joinedSplice (facts : Facts Disk) (conv : ConversationState) (event : HistoryEvent)
    (start : Nat) (batches : List (List ReplayLine)) : Splice Disk :=
  taken facts conv { event with lines := batches.flatten } start

omit [CharacterClasses] [Storage Disk] in
/-- Two splices begin alike. -/
theorem Resumed.begun (newer : event.olderPage = false)
    (starts : spliceStart conv event anchorUse = (conv, some start))
    (reading : SameReading facts other) :
    Resumed [] ({ facts, conv, at_ := start } : Splice Disk)
      { facts := other, conv, at_ := start } where
  reading := reading
  run := rfl
  point := rfl
  stands := spliceStart_stands newer starts
  messages := by
    dsimp only
    rw [List.append_nil, List.take_append_drop]
  anchor := by
    change conv.anchor = conv.anchor.map (· + ((0 : Nat) : Int))
    simp
  identity := rfl
  messageIds := rfl
  nextSequence := rfl
  trimmed := rfl

omit [Storage Disk] in
/-- Facts that are read alike give as many rows. -/
theorem joinedSplice_size (newer : event.olderPage = false)
    (starts : spliceStart conv event anchorUse = (conv, some start))
    (reading : SameReading facts other) (batches : List (List ReplayLine)) :
    (joinedSplice other conv event start batches).rows.length =
      (joinedSplice facts conv event start batches).rows.length := by
  obtain ⟨_, resumed⟩ := (Resumed.begun newer starts reading).alike.admitReplayLines
    event.conversation.networkId batches.flatten
  exact resumed.rows.length_eq

/-- After some batches the transcript is the one in which the splice of all their lines has its
run in place. -/
theorem spliceEach_resumes (newer : event.olderPage = false)
    (starts : spliceStart conv event anchorUse = (conv, some start))
    (reading : SameReading facts other) {batches : List (List ReplayLine)}
    (fits : ∀ held, held <+: batches →
      (joinedSplice facts conv event start held).rows.length ≤ maxMessages) :
    Resumed (joinedSplice facts conv event start batches).run
      (joinedSplice facts conv event start batches)
      { facts := (spliceEach other conv event anchorUse batches).1
        conv := (spliceEach other conv event anchorUse batches).2
        at_ := (joinedSplice facts conv event start batches).at_ +
          (joinedSplice facts conv event start batches).run.length } := by
  induction batches using List.reverseRecOn with
  | nil =>
      exact Resumed.begun newer starts reading
  | append_singleton earlier lines inductionHypothesis =>
      have before := inductionHypothesis fun held first =>
        fits held (first.trans (List.prefix_append ..))
      have identity := before.identity
      have anchor := congrArg Option.isSome before.anchor
      rw [Option.isSome_map] at anchor
      have taken : (admitReplayLines event.conversation.networkId
          (joinedSplice facts conv event start earlier) lines).1 =
            joinedSplice facts conv event start (earlier ++ [lines]) := by
        unfold joinedSplice taken
        rw [List.flatten_append, List.flatten_singleton]
        exact (admitReplayLines_append ..).symm
      have each : spliceEach other conv event anchorUse (earlier ++ [lines]) =
          spliceHistory (spliceEach other conv event anchorUse earlier).1
            (spliceEach other conv event anchorUse earlier).2 { event with lines } anchorUse := by
        unfold spliceEach
        rw [List.foldl_append]
        rfl
      rw [each]
      have starts := spliceStart_of_stands newer starts
        (identity.trans (admitReplayLines_identity ..))
        (anchor.trans (admitReplayLines_anchored ..)) before.stands_part
      have fits := fits _ (List.prefix_refl _)
      exact @Resumed.spliced _ _ _ _ { event with lines } _ _ _ _ _ _ before starts taken fits

/-- The last of the batches leaves the transcript that all their lines in one batch leave. -/
theorem spliceEach_sameTranscript (newer : event.olderPage = false)
    (starts : spliceStart conv event anchorUse = (conv, some start))
    (reading : SameReading facts other) {batches : List (List ReplayLine)}
    (fits : ∀ held, held <+: batches →
      (joinedSplice facts conv event start held).rows.length ≤ maxMessages) :
    SameTranscript
      (spliceHistory facts conv { event with lines := batches.flatten } anchorUse).2
      (spliceEach other conv event anchorUse batches).2 := by
  have each := spliceEach_resumes newer starts reading fits
  have inside := each.stands.inside
  obtain ⟨_, _, _, _, _, landed⟩ := @spliceHistory_landed _ _ _ facts conv
    { event with lines := batches.flatten } anchorUse start starts
    (joinedSplice facts conv event start batches) rfl (fits batches (List.prefix_refl _))
  rw [landed]
  exact
    { messages := each.messages.trans (landed_messages inside).symm
      messageIds := each.messageIds
      anchor := each.anchor.trans (moveAnchor_anchor _).symm }

/-- A batch without lines leaves the transcript as it is. -/
theorem spliceHistory_nothing (starts : spliceStart conv event anchorUse = (conv, some start))
    (fits : conv.messages.length ≤ maxMessages) :
    SameTranscript conv (spliceHistory facts conv { event with lines := [] } anchorUse).2 := by
  have rows : ({ facts, conv, at_ := start } : Splice Disk).rows.length ≤ maxMessages := by
    unfold Splice.rows
    rw [List.append_nil]
    exact fits
  obtain ⟨_, _, _, _, _, landed⟩ := @spliceHistory_landed _ _ _ facts conv
    { event with lines := [] } anchorUse start starts { facts, conv, at_ := start } rfl rows
  rw [landed, landed_empty rfl]
  exact ⟨rfl, rfl, rfl⟩

namespace EventReducer

/-- Hold batches of one kind one after another. -/
def holdEach (reducer : EventReducer Disk) (event : HistoryEvent)
    (batches : List (List ReplayLine)) : EventReducer Disk :=
  batches.foldl (fun reducer lines => reducer.holdPendingPlayback { event with lines }) reducer

omit [CharacterClasses] [Storage Disk] in
/-- What is held is one batch with all their lines. -/
theorem holdEach_held (reducer : EventReducer Disk) {event : HistoryEvent}
    (free : reducer.facts.pendingPlayback[event.conversation]? = none)
    (batches : List (List ReplayLine)) :
    ∃ pendingPlayback : KeyMap HistoryEvent,
      reducer.holdEach event batches =
        { reducer with facts.pendingPlayback := pendingPlayback } ∧
      pendingPlayback[event.conversation]? =
        if batches.flatten = [] then none else some { event with lines := batches.flatten } := by
  induction batches using List.reverseRecOn with
  | nil => exact ⟨reducer.facts.pendingPlayback, rfl, free⟩
  | append_singleton earlier lines inductionHypothesis =>
      obtain ⟨pendingPlayback, held, found⟩ := inductionHypothesis
      have each : reducer.holdEach event (earlier ++ [lines]) =
          (reducer.holdEach event earlier).holdPendingPlayback { event with lines } := by
        unfold holdEach
        rw [List.foldl_append]
        rfl
      rw [each, held, List.flatten_append, List.flatten_singleton]
      unfold holdPendingPlayback
      by_cases empty : lines = []
      · rw [if_pos empty]
        refine ⟨pendingPlayback, rfl, ?_⟩
        rw [empty, List.append_nil]
        exact found
      · rw [if_neg empty, if_neg (by simp [empty])]
        dsimp only
        rw [found]
        refine ⟨_, rfl, ?_⟩
        rw [Std.TreeMap.getElem?_insert_self]
        split_ifs with none
        · rw [none]
          rfl
        · rfl

end EventReducer

/-- Batch boundaries do not matter. Batches of one kind that are no older pages, spliced one
after another from a splice point while the rows stay within the cap, leave the rows, the
known msgids and the splice anchor that one batch with all their lines leaves; and holding
them until the join agrees with splicing them as they come. -/
theorem batch_boundaries (newer : event.olderPage = false)
    (starts : spliceStart conv event anchorUse = (conv, some start))
    {batches : List (List ReplayLine)}
    (fits : ∀ held, held <+: batches →
      (joinedSplice facts conv event start held).rows.length ≤ maxMessages) :
    SameTranscript
        (spliceHistory facts conv { event with lines := batches.flatten } anchorUse).2
        (spliceEach facts conv event anchorUse batches).2 ∧
      ∀ reducer : EventReducer Disk, anchorUse = .keep → reducer.facts = facts →
        reducer.conversations[event.conversation]? = some conv →
        reducer.facts.pendingPlayback[event.conversation]? = none →
        ∃ released,
          ((reducer.holdEach event batches).releasePendingPlayback
            event.conversation).conversations[event.conversation]? = some released ∧
          SameTranscript released (spliceEach facts conv event anchorUse batches).2 := by
  refine ⟨spliceEach_sameTranscript newer starts (.refl _) fits, ?_⟩
  rintro reducer rfl rfl found free
  obtain ⟨pendingPlayback, held, there⟩ := reducer.holdEach_held free batches
  rw [held]
  unfold EventReducer.releasePendingPlayback
  dsimp only
  rw [there]
  split_ifs with empty
  · refine ⟨conv, found, ?_⟩
    have each := spliceEach_sameTranscript newer starts (.refl reducer.facts) fits
    rw [empty] at each
    have rows : (conv.messages ++ []).length ≤ maxMessages := fits [] List.nil_prefix
    rw [List.append_nil] at rows
    have still := @spliceHistory_nothing _ _ _ reducer.facts _ event _ _ starts rows
    exact ⟨each.messages.trans still.messages, each.messageIds.trans still.messageIds,
      each.anchor.trans still.anchor⟩
  · unfold EventReducer.forgetPlayback EventReducer.spliceInto EventReducer.onConversation
    dsimp only
    rw [found]
    refine ⟨_, Std.TreeMap.getElem?_insert_self, ?_⟩
    have reading : SameReading
        { reducer.facts with
          pendingPlayback := pendingPlayback.erase event.conversation } reducer.facts :=
      ⟨rfl, rfl, rfl, rfl, rfl⟩
    refine spliceEach_sameTranscript newer starts reading fun held first => ?_
    rw [joinedSplice_size newer starts reading.symm]
    exact fits held first

end Batches

section Witness

local instance boundariesPlatform : Platform := Session.reference
local instance boundariesClasses : CharacterClasses := asciiClasses
local instance boundariesStorage : Storage Memory := memory

/-- A channel the user just joined, with the anchor in front of the join line. -/
def joinedChannel : ConversationState :=
  { key := { networkId := "net", normalizedTarget := "#a" }, target := "#a"
    messages := [
      { kind := .message, author := "bob", body := "old", time := 10 ^ 9, msgid := "a" },
      { kind := .event, body := "me joined", sequence := 1 }]
    messageIds := {"a"}
    nextSequence := 2
    channel := some { joined := true, historyAnchor := some { sequence := 1 } } }

/-- Playback of that channel. -/
def playback : HistoryEvent :=
  { conversation := joinedChannel.key, target := "#a", kind := .bouncerPlayback, lines := [] }

/-- A leave in one batch, and in the next one the return of the same nick and a line. -/
def splitLines : List (List ReplayLine) :=
  [[{ body := "bob quit", timestamp := 2 * 10 ^ 9, kind := .event, msgid := "b" }],
    [{ body := "bob joined", timestamp := 3 * 10 ^ 9, kind := .event, msgid := "c" },
      { author := "ann", body := "hello", timestamp := 4 * 10 ^ 9, msgid := "d" }]]

/-- A reducer that knows the channel. -/
def joinedReducer : EventReducer Memory :=
  { conversations := (∅ : Store).insert joinedChannel.key joinedChannel, facts := { disk := {} } }

/-- The caption of the first batch goes with the second, as it does in one batch and in a
held one. -/
theorem batch_boundaries_caption :
    (spliceEach ({ disk := {} } : Facts Memory) joinedChannel playback .keep
        splitLines).2.messages.map Message.body = ["old", "hello", "me joined"] ∧
      SameTranscript
        (spliceHistory ({ disk := {} } : Facts Memory) joinedChannel
          { playback with lines := splitLines.flatten } .keep).2
        (spliceEach ({ disk := {} } : Facts Memory) joinedChannel playback .keep splitLines).2 ∧
      ∃ released,
        ((joinedReducer.holdEach playback splitLines).releasePendingPlayback
          playback.conversation).conversations[playback.conversation]? = some released ∧
        SameTranscript released
          (spliceEach ({ disk := {} } : Facts Memory) joinedChannel playback .keep
            splitLines).2 := by
  have starts : spliceStart joinedChannel playback .keep = (joinedChannel, some 1) := rfl
  have free : joinedReducer.facts.pendingPlayback[playback.conversation]? = none :=
    Std.TreeMap.getElem?_emptyc
  have fits : ∀ held ∈ splitLines.inits,
      (joinedSplice ({ disk := {} } : Facts Memory) joinedChannel playback 1 held).rows.length ≤
        maxMessages := by
    unfold maxMessages
    decide
  have joins := batch_boundaries rfl starts fun held first =>
    fits held ((List.mem_inits _ _).mpr first)
  exact ⟨by decide +kernel, joins.1,
    joins.2 joinedReducer rfl rfl Std.TreeMap.getElem?_insert_self free⟩

end Witness

end Omairc.Irc.Reducer

import Omairc.Irc.Reducer.Transcript

/-!
# Splicing replay batches

Where a bouncer or CHATHISTORY batch lands in a transcript, the dedup and the folding its
lines go through, and what the batch leaves in the facts of the network.
-/

namespace Omairc.Irc.Reducer

open Omairc.Text

variable {Disk : Type}

/-- Whether a splice consumes the history anchor or keeps it. -/
inductive AnchorUse
  | consume
  | keep

/-- The transcript index an absolute position names, if a row or the end stands there. -/
def spliceIndex (conv : ConversationState) (anchor : Int) : Option Nat :=
  let index := anchor - conv.trimmed
  if index < 0 ∨ (conv.messages.length : Int) < index then none else some index.toNat

/-- Where the next line of a batch lands. A direct message, or a joined channel with no
anchor, splices at the tail. A channel with neither a join nor an anchor cannot splice. -/
def peekSpliceIndex (conv : ConversationState) : Option Nat :=
  match conv.channel with
  | none => some conv.messages.length
  | some channel =>
      match channel.historyAnchor with
      | none => if channel.joined then some conv.messages.length else none
      | some anchor => spliceIndex conv anchor.sequence

/-- Where a batch lands, dropping an anchor that no longer names a row. A usable anchor
stays, so that each page of a chain lands at it. -/
def takeSpliceIndex (conv : ConversationState) : ConversationState × Option Nat :=
  match conv.channel with
  | none => (conv, some conv.messages.length)
  | some channel =>
      match channel.historyAnchor with
      | none => (conv, none)
      | some anchor =>
          match spliceIndex conv anchor.sequence with
          | none => (conv.dropAnchor, none)
          | some index => (conv, some index)

/-- Where a batch starts to land under an anchor use. -/
def spliceStart (conv : ConversationState) (event : HistoryEvent) (anchorUse : AnchorUse) :
    ConversationState × Option Nat :=
  match anchorUse with
  | .consume =>
      if event.kind = .chat ∧ event.olderPage then (conv, some 0) else takeSpliceIndex conv
  | .keep => (conv, peekSpliceIndex conv)

/-- Every row of a splice: those of the transcript, then those of the run. -/
def Splice.rows (splice : Splice Disk) : List Message := splice.conv.messages ++ splice.run

/-- The sequence of the first row that satisfies a predicate. -/
def matchedSequence (splice : Splice Disk) (matching : Message → Bool) : Option Int :=
  (splice.rows.find? matching).map Message.sequence

/-- Whether a stored row and a replay line are the same chat line. -/
def sameReplayLine (message : Message) (line : ReplayLine) (kind : MessageKind)
    (mapping : IrcCaseMapping) : Bool :=
  if message.kind ≠ kind ∨ message.body ≠ line.body then false
  else if message.time = zeroTime ∨ line.timestamp = zeroTime then false
  else if timestampMillis message.time ≠ timestampMillis line.timestamp then false
  else mapping.equals message.author line.author

/-- Whether a row already shows a replay line: the same chat line, under a msgid that does
not contradict it. -/
def showsReplayLine (line : ReplayLine) (kind : MessageKind) (mapping : IrcCaseMapping)
    (message : Message) : Bool :=
  if line.msgid ≠ "" ∧ message.msgid ≠ "" ∧ message.msgid ≠ line.msgid then false
  else sameReplayLine message line kind mapping

/-- What became of one replay line. -/
inductive LineOutcome
  /-- Its msgid was known. The sequence is that of the row that carries it, if one does. -/
  | known (sequence : Option Int)
  /-- A channel claimed its msgid, so that a direct message refuses it. -/
  | refused
  /-- A row showed it already. -/
  | shown (sequence : Int)
  /-- It became a row. -/
  | added (sequence : Int)
  /-- It folded into a caption, or was hidden. -/
  | folded
  /-- It took the caption before it away. -/
  | cancelled (droppedSequence : Int)

/-- Record the msgid of a line as known. -/
def Splice.know (splice : Splice Disk) (msgid : MsgId) : Splice Disk :=
  { splice with conv := splice.conv.know msgid }

/-- The row kind of a replayed chat line. -/
def chatKind : MessageKindTag → MessageKind
  | .emote => .action
  | _ => .message

/-- The membership half of a replay line. -/
def membershipOf (line : ReplayLine) : ReplayMembership :=
  { body := line.body, timestamp := line.timestamp, msgid := line.msgid
    serverTime := line.serverTime }

/-- The outcome of a placed membership line. -/
def membershipOutcome (result : MembershipReplayResult) : LineOutcome :=
  if result.addedRow then .added result.sequence
  else if result.dropped then .cancelled result.droppedSequence
  else .folded

section Lines

variable [CharacterClasses]

/-- The row of a replayed chat line. -/
def chatRow (splice : Splice Disk) (networkId : String) (line : ReplayLine) : Message :=
  let kind := chatKind line.kind
  { kind, author := line.author, body := line.body, time := line.timestamp
    serverTime := line.serverTime, msgid := line.msgid, origin := .replay
    mentioned := splice.facts.transcriptHighlight networkId line.author kind line.body
    sequence := splice.conv.nextSequence, onlyVisibleToYou := line.onlyVisibleToYou }

/-- Add a chat line to the run. -/
def Splice.addChat (splice : Splice Disk) (networkId : String) (line : ReplayLine) :
    Splice Disk :=
  let row := chatRow splice networkId line
  let splice := splice.know line.msgid
  { splice with
    conv := { splice.conv with nextSequence := splice.conv.nextSequence + 1 }
    run := splice.run ++ [row]
    facts := splice.facts.claimChannelContext splice.conv.key splice.conv.isChannel line.msgid
      line.onlyVisibleToYou }

/-- Take one replay line into a splice. -/
def admitReplayLine (splice : Splice Disk) (networkId : String) (line : ReplayLine) :
    Splice Disk × LineOutcome :=
  if line.msgid ≠ "" ∧ line.msgid ∈ splice.conv.messageIds then
    (splice, .known (matchedSequence splice fun message => message.msgid == line.msgid))
  else if splice.facts.channelContextBlocksDm splice.conv.key splice.conv.isChannel line.msgid then
    (splice, .refused)
  else if line.kind = .event then
    let (splice, result) := admitMembershipReplay (splice.know line.msgid) (membershipOf line)
    (splice, membershipOutcome result)
  else
    match matchedSequence splice (showsReplayLine line (chatKind line.kind)
        (splice.facts.caseMapping networkId)) with
    | some sequence => (splice, .shown sequence)
    | none => (splice.addChat networkId line, .added splice.conv.nextSequence)

end Lines

/-- The bookkeeping owed to one replay line once the run is in place. -/
structure PendingNote where
  sequence : Int
  serverTime : Option Instant
  keepWithoutRow : Bool := false

/-- The notes after one more line. -/
def notesAfter (notes : List PendingNote) (line : ReplayLine) :
    LineOutcome → List PendingNote
  | .known none | .refused => notes
  | .known (some sequence) | .shown sequence | .added sequence =>
      notes ++ [{ sequence, serverTime := line.serverTime }]
  | .folded => notes ++ [{ sequence := 0, serverTime := line.serverTime, keepWithoutRow := true }]
  | .cancelled dropped =>
      (notes.map fun note =>
        if note.sequence = dropped then { note with keepWithoutRow := true } else note) ++
          [{ sequence := 0, serverTime := line.serverTime, keepWithoutRow := true }]

/-- Insert the run at the splice point. -/
def Splice.inserted (splice : Splice Disk) : ConversationState :=
  let point := min splice.at_ splice.conv.messages.length
  { splice.conv with
    messages := splice.conv.messages.take point ++ splice.run ++ splice.conv.messages.drop point }

/-- Log the run: at the head of the log when it landed at the top. -/
def Splice.logged [Storage Disk] (splice : Splice Disk) : Facts Disk :=
  if splice.at_ = 0 then persistMessagesPrepend splice.facts splice.conv splice.run
  else splice.run.foldl (fun facts message => persistMessage facts splice.conv message) splice.facts

/-- Put a nonempty run in place. Every replayed line is older than the join line, so an
anchor keeps naming the join line, shifted forward by what landed. -/
def Splice.placed [Storage Disk] (splice : Splice Disk) (event : HistoryEvent)
    (previousSize : Nat) : Facts Disk × ConversationState :=
  let facts := splice.logged
  let conv := splice.inserted.moveAnchor (· + splice.run.length)
  let conv :=
    if splice.at_ ≠ previousSize then { conv with spliceEpoch := conv.spliceEpoch + 1 } else conv
  if conv.historyPageCapTail ∧ event.kind = .chat then
    capMessagesPreferTail facts { conv with historyPageCapTail := false }
  else capMessages facts conv

/-- Note the arrival of every chat row of a run. -/
def noteRun [CharacterClasses] (event : HistoryEvent) (run : List Message)
    (facts : Facts Disk) (conv : ConversationState) : Facts Disk × ConversationState :=
  run.foldl (fun state message =>
    if message.kind = .event then state
    else
      noteChatArrival state.1 state.2 event.conversation
        { author := message.author, body := message.body, kind := message.kind
          msgid := message.msgid, sequence := message.sequence
          serverTime := message.serverTime, origin := .replay, history := some event })
    (facts, conv)

/-- An empty run disarms the tail cap, unless the page held membership lines only: those
can be hidden or folded away, and the reader is still paging. -/
def disarmTailCap (conv : ConversationState) (event : HistoryEvent) : ConversationState :=
  if event.kind = .chat ∧ (conv.historyPageCapTail ∨ event.olderPage) ∧
      ¬(event.lines ≠ [] ∧ event.lines.all fun line => line.kind = .event) then
    { conv with historyPageCapTail := false }
  else conv

/-- Keep the notes whose rows are still there. -/
def keepNotes (event : HistoryEvent) (notes : List PendingNote) (facts : Facts Disk)
    (conv : ConversationState) : Facts Disk :=
  let kept := notes.filter fun note =>
    note.keepWithoutRow || conv.messages.any fun message => message.sequence == note.sequence
  let facts :=
    { facts with
      keptReplay := facts.keptReplay ++ kept.filterMap fun note =>
        note.serverTime.map fun serverTime =>
          { networkId := event.conversation.networkId, target := event.target, serverTime } }
  if kept ≠ [] ∧ event.kind = .bouncerPlayback ∧ conv.isChannel then
    { facts with keptPlaybackChannel := insert conv.key facts.keptPlaybackChannel }
  else facts

/-- Remember a bouncer query that held a line from the user. -/
def rememberQuery (facts : Facts Disk) (conv : ConversationState) (event : HistoryEvent) :
    Facts Disk :=
  if event.lines.any fun line => facts.bouncerQueryOwnLine event line.author then
    { facts with
      rememberedQueries := facts.rememberedQueries ++
        [{ networkId := event.conversation.networkId
           target := if event.target = "" then conv.target else event.target }] }
  else facts

variable [CharacterClasses]

/-- Take the lines of a batch into a splice, one after another. -/
def admitReplayLines (networkId : String) (splice : Splice Disk) (lines : List ReplayLine) :
    Splice Disk × List PendingNote :=
  lines.foldl (fun state line =>
    let (splice, outcome) := admitReplayLine state.1 networkId line
    (splice, notesAfter state.2 line outcome)) (splice, [])

/-- Merge a replay batch into a transcript position: drop the lines that are known or
shown already, fold membership lines into captions, place what is left, note the
arrivals and record the lines kept. -/
def spliceHistory [Storage Disk] (facts : Facts Disk) (conv : ConversationState)
    (event : HistoryEvent) (anchorUse : AnchorUse) : Facts Disk × ConversationState :=
  match spliceStart conv event anchorUse with
  | (conv, none) => (facts, conv)
  | (conv, some start) =>
      let (splice, notes) := admitReplayLines event.conversation.networkId
        { facts, conv, at_ := start } event.lines
      let splice := { splice with facts := rememberQuery splice.facts splice.conv event }
      let (facts, conv) :=
        if splice.run = [] then (splice.facts, disarmTailCap splice.conv event)
        else
          let (facts, conv) := splice.placed event conv.messages.length
          noteRun event splice.run facts conv
      (keepNotes event notes facts conv, conv)

end Omairc.Irc.Reducer

import Omairc.Irc.Reducer.Facts

/-!
# Transcripts

Admitting rows, the row cap, the log, live chat, event and error rows, the unread and
mention accounting of an arriving line, and the folding of membership lines.
-/

namespace Omairc.Irc.Reducer

open Omairc.Text

variable {Disk : Type}

/-- Append a row and assign its sequence. -/
def admitMessage (conv : ConversationState) (message : Message) : ConversationState :=
  { conv with
    messages := conv.messages ++ [{ message with sequence := conv.nextSequence }]
    nextSequence := conv.nextSequence + 1 }

/-- Record a msgid as known. -/
def ConversationState.know (conv : ConversationState) (msgid : MsgId) : ConversationState :=
  if msgid = "" then conv else { conv with messageIds := insert msgid conv.messageIds }

/-- Forget a msgid that leaves the transcript. -/
def forgetTranscriptMsgid (facts : Facts Disk) (conv : ConversationState) (msgid : MsgId) :
    Facts Disk × ConversationState :=
  if msgid = "" then (facts, conv)
  else
    (facts.releaseChannelContext conv.key msgid,
      { conv with messageIds := conv.messageIds.erase msgid })

/-- Forget the msgids of rows that leave the transcript. -/
def forgetRows (facts : Facts Disk) (conv : ConversationState) (rows : List Message) :
    Facts Disk × ConversationState :=
  rows.foldl (fun state message => forgetTranscriptMsgid state.1 state.2 message.msgid)
    (facts, conv)

/-- Trim the transcript to the cap, from the head or from the tail. -/
def capWithPolicy (facts : Facts Disk) (conv : ConversationState) (dropFromHead : Bool) :
    Facts Disk × ConversationState :=
  if conv.messages.length ≤ maxMessages then (facts, conv)
  else
    let extra := conv.messages.length - maxMessages
    if dropFromHead then
      let (facts, conv) := forgetRows facts conv (conv.messages.take extra)
      let trimmed := conv.trimmed + extra
      let conv := { conv with messages := conv.messages.drop extra, trimmed }
      match conv.anchor with
      | some anchor => (facts, if anchor < trimmed then conv.dropAnchor else conv)
      | none => (facts, conv)
    else
      let start := conv.messages.length - extra
      let (facts, conv) := forgetRows facts conv (conv.messages.drop start)
      (facts, { conv with messages := conv.messages.take start })

/-- Trim the oldest rows. -/
def capMessages (facts : Facts Disk) (conv : ConversationState) : Facts Disk × ConversationState :=
  capWithPolicy facts conv true

/-- Trim the newest rows, as a page of older lines does. -/
def capMessagesPreferTail (facts : Facts Disk) (conv : ConversationState) :
    Facts Disk × ConversationState :=
  capWithPolicy facts conv false

/-- Remove the newest row, forgetting its msgid and moving an anchor that sat past it. -/
def dropLastTranscriptRow (facts : Facts Disk) (conv : ConversationState) :
    Facts Disk × ConversationState :=
  match conv.messages.getLast? with
  | none => (facts, conv)
  | some last =>
      let (facts, conv) := forgetTranscriptMsgid facts conv last.msgid
      let removedIndex : Int := conv.messages.length - 1
      let conv := { conv with messages := conv.messages.dropLast }
      (facts, conv.moveAnchor fun anchor =>
        if anchor - conv.trimmed > removedIndex then anchor - 1 else anchor)

/-- Whether a row kind is written to the log. -/
def persistableKind : MessageKind → Bool
  | .message | .notice | .action | .event => true
  | _ => false

/-- The stored token of a row kind. Errors persist as events. -/
def kindToken : MessageKind → String
  | .action => "action"
  | .event | .error => "event"
  | .whois => "whois"
  | .notice => "notice"
  | .message => "message"

/-- The row kind a stored token names. -/
def kindFromToken : String → Option MessageKind
  | "action" => some .action
  | "event" => some .event
  | "notice" => some .notice
  | "message" => some .message
  | _ => none

/-- The log entry of a row. -/
def transcriptLine (message : Message) : TranscriptLine :=
  { timestamp := message.time, author := message.author, kind := kindToken message.kind
    body := message.body, msgid := message.msgid, onlyVisibleToYou := message.onlyVisibleToYou }

/-- The reasons for surfacing a chat line. -/
inductive ChatLineReason
  | nickMention
  | highlight
  | direct
  deriving DecidableEq

/-- Which reason a chat line carries: a nick hit, a highlight hit, or a direct message. -/
def classifyChatLine (isChannel : Bool) (kind : MessageKind) (selfAuthor nickHit highlightHit : Bool) :
    Option ChatLineReason :=
  if (kind ≠ .message ∧ kind ≠ .action) ∨ selfAuthor then none
  else if nickHit then some .nickMention
  else if highlightHit then some .highlight
  else if !isChannel then some .direct
  else none

/-- The inbox kind of a reason. -/
def inboxKindFor : ChatLineReason → InboxKind
  | .nickMention => .mention
  | .highlight => .highlight
  | .direct => .direct

/-- A time in whole milliseconds. -/
def timestampMillis (time : Instant) : Int := time / 10 ^ 6

/-- Whether a line sent at a time is already read under a marker. -/
def covered (marker serverTime : Option Instant) : Bool :=
  match marker, serverTime with
  | some marker, some serverTime => !decide (timestampMillis marker < timestampMillis serverTime)
  | _, _ => false

/-- One live chat line, before its row exists. -/
structure ChatLine where
  key : ConversationKey
  displayTarget : String
  author : String
  body : String
  timestamp : Instant
  serverTime : Option Instant
  kind : MessageKind
  msgid : MsgId
  onlyVisibleToYou : Bool

/-- What the accounting needs of an admitted chat row. -/
structure ChatArrival where
  author : String
  body : String
  kind : MessageKind
  msgid : MsgId
  sequence : Int
  serverTime : Option Instant
  origin : Origin
  /-- The batch the row came from. None for a live line. -/
  history : Option HistoryEvent

/-- One membership line of a replay batch, before it meets the transcript. -/
structure ReplayMembership where
  body : String
  timestamp : Instant
  msgid : MsgId
  serverTime : Option Instant

/-- Where a replayed membership line landed. -/
structure MembershipReplayResult where
  addedRow : Bool := false
  sequence : Int := 0
  dropped : Bool := false
  droppedSequence : Int := 0

section Log

variable [Storage Disk]

/-- Append one row to the log when it is of a persistable kind. -/
def persistMessage (facts : Facts Disk) (conv : ConversationState) (message : Message) :
    Facts Disk :=
  if facts.log = false ∨ persistableKind message.kind = false then facts
  else
    { facts with
      disk := Storage.append facts.disk conv.key.networkId conv.key.normalizedTarget
        (facts.caseMapping conv.key.networkId) (transcriptLine message) }

/-- Write rows at the head of the log, oldest first. -/
def persistMessagesPrepend (facts : Facts Disk) (conv : ConversationState)
    (messages : List Message) : Facts Disk :=
  let lines := (messages.filter fun message => persistableKind message.kind).map transcriptLine
  if facts.log = false ∨ lines = [] then facts
  else
    { facts with
      disk := Storage.prepend facts.disk conv.key.networkId conv.key.normalizedTarget
        (facts.caseMapping conv.key.networkId) lines }

/-- Admit one row of the log, unless its kind is unknown or its msgid is present or
blocked. -/
def hydrateLine [CharacterClasses] (state : Facts Disk × ConversationState)
    (line : TranscriptLine) : Facts Disk × ConversationState :=
  let (facts, conv) := state
  match kindFromToken line.kind with
  | none => state
  | some kind =>
      if line.msgid ≠ "" ∧ (line.msgid ∈ conv.messageIds ∨
          facts.channelContextBlocksDm conv.key conv.isChannel line.msgid) then state
      else
        let conv := conv.know line.msgid
        let mentioned := facts.transcriptHighlight conv.key.networkId line.author kind line.body
        let conv := admitMessage conv
          { kind, author := line.author, body := line.body, time := line.timestamp
            msgid := line.msgid, origin := .replay, mentioned
            onlyVisibleToYou := line.onlyVisibleToYou }
        (facts.claimChannelContext conv.key conv.isChannel line.msgid line.onlyVisibleToYou, conv)

/-- Load the stored tail of a new conversation. -/
def hydrateFromLog [CharacterClasses] (facts : Facts Disk) (conv : ConversationState) :
    Facts Disk × ConversationState :=
  if facts.log = false then (facts, conv)
  else
    let lines := Storage.readTail facts.disk conv.key.networkId conv.key.normalizedTarget
      (facts.caseMapping conv.key.networkId) maxMessages
    let (facts, conv) := lines.foldl hydrateLine (facts, conv)
    capMessages facts conv

/-- Admit a row at the tail, log it and cap the transcript. -/
def admitLogged (facts : Facts Disk) (conv : ConversationState) (message : Message) :
    Facts Disk × ConversationState :=
  let row := { message with sequence := conv.nextSequence }
  let conv := admitMessage conv message
  capMessages (persistMessage facts conv row) conv

/-- Add one event row. Membership lines follow the noise setting: folded lines merge into
the caption above, a leave that the same nick undoes at once is dropped, every line
stays separate when shown each, and hidden lines are skipped. -/
def appendEvent (facts : Facts Disk) (conv : ConversationState) (body : String)
    (collapsible membership : Bool) : Facts Disk × ConversationState :=
  let noise := facts.membershipNoise
  if membership ∧ noise = .hidden then (facts, conv)
  else
    let collapsible := if membership ∧ noise = .every then false else collapsible
    let admitted := admitLogged facts conv { kind := .event, body, collapsible }
    match conv.messages.getLast? with
    | none => admitted
    | some last =>
        if membership ∧ noise = .folded ∧ last.kind = .event ∧ last.collapsible then
          let folded := foldMembership last.body body (facts.equals conv.key.networkId)
          let rewritten :=
            { conv with messages := conv.messages.dropLast ++ [{ last with body := folded.body }] }
          if folded.kind = .cancel then
            if folded.dropRow then dropLastTranscriptRow facts conv else (facts, rewritten)
          else if collapsible then (facts, rewritten)
          else admitted
        else admitted

end Log

/-- Fold one replayed membership line into a caption row. There is no result when the row
is no caption; otherwise the row is rewritten, or dropped. -/
def foldInto (facts : Facts Disk) (networkId : String) (row : Message) (body : String) :
    Option (Option Message) :=
  if row.kind ≠ .event ∨ row.collapsible = false then none
  else
    let folded := foldMembership row.body body (facts.equals networkId)
    if folded.kind = .cancel ∧ folded.dropRow then some none
    else some (some { row with body := folded.body })

/-- A splice while it runs: the facts, the transcript, the run of new rows and the splice
point. -/
structure Splice (Disk : Type) where
  facts : Facts Disk
  conv : ConversationState
  run : List Message := []
  at_ : Nat

/-- Add a membership line to the run as a row of its own. -/
def Splice.addMembership (splice : Splice Disk) (line : ReplayMembership) (showEach : Bool) :
    Splice Disk × MembershipReplayResult :=
  let sequence := splice.conv.nextSequence
  let row : Message :=
    { kind := .event, body := line.body, time := line.timestamp, serverTime := line.serverTime
      msgid := line.msgid, origin := .replay, collapsible := !showEach, sequence }
  ({ splice with
    conv := { splice.conv with nextSequence := sequence + 1 }
    run := splice.run ++ [row] }, { addedRow := true, sequence })

/-- Fold a membership line into the last row of the run, if that is a caption. -/
def Splice.foldRun (splice : Splice Disk) (line : ReplayMembership) :
    Option (Splice Disk × MembershipReplayResult) :=
  match splice.run.getLast? with
  | none => none
  | some row =>
      match foldInto splice.facts splice.conv.key.networkId row line.body with
      | none => none
      | some (some rewritten) =>
          some ({ splice with run := splice.run.dropLast ++ [rewritten] }, {})
      | some none =>
          let (facts, conv) := forgetTranscriptMsgid splice.facts splice.conv row.msgid
          some ({ splice with facts, conv, run := splice.run.dropLast },
            { dropped := true, droppedSequence := row.sequence })

/-- Fold a membership line into the row above the splice point, if that is a caption. The
point and an anchor past the row move when the row goes. -/
def Splice.foldTranscript (splice : Splice Disk) (line : ReplayMembership) :
    Option (Splice Disk × MembershipReplayResult) :=
  if splice.at_ = 0 ∨ splice.conv.messages.length < splice.at_ then none
  else
    let index := splice.at_ - 1
    match splice.conv.messages[index]? with
    | none => none
    | some row =>
        match foldInto splice.facts splice.conv.key.networkId row line.body with
        | none => none
        | some (some rewritten) =>
            some ({ splice with
              conv := { splice.conv with
                messages := splice.conv.messages.set index rewritten } }, {})
        | some none =>
            let (facts, conv) := forgetTranscriptMsgid splice.facts splice.conv row.msgid
            let conv := { conv with messages := conv.messages.eraseIdx index }
            let conv := conv.moveAnchor fun anchor =>
              if anchor - conv.trimmed > index then anchor - 1 else anchor
            some ({ splice with facts, conv, at_ := index },
              { dropped := true, droppedSequence := row.sequence })

/-- Place one replayed membership line into the run, or fold it into the caption it
joins. -/
def admitMembershipReplay (splice : Splice Disk) (line : ReplayMembership) :
    Splice Disk × MembershipReplayResult :=
  let noise := splice.facts.membershipNoise
  if noise = .hidden then (splice, {})
  else
    let showEach := decide (noise = .every)
    let folded :=
      if showEach then none
      else if splice.run = [] then splice.foldTranscript line
      else splice.foldRun line
    folded.getD (splice.addMembership line showEach)

variable [CharacterClasses]

/-- Plant the mention of a chat row that carries a reason. -/
def plantMention (facts : Facts Disk) (conv : ConversationState) (networkId : String)
    (arrival : ChatArrival) (reason : Option ChatLineReason) : Facts Disk :=
  if reason.isSome ∧ conv.muted = false then
    { facts with
      mentionArrival := some
        { author := arrival.author, body := arrival.body, networkId, target := conv.target
          msgid := arrival.msgid } }
  else facts

/-- Plant the inbox item of a live chat row: the inbox waits for the conversations the
user does not look at. Direct messages never enter it. -/
def plantInbox (facts : Facts Disk) (conv : ConversationState) (networkId : String)
    (selected : Bool) (arrival : ChatArrival) (reason : Option ChatLineReason) : Facts Disk :=
  match reason with
  | none => facts
  | some why =>
      if arrival.origin = .live ∧ conv.muted = false ∧ selected = false ∧ why ≠ .direct then
        { facts with
          inboxArrival := some
            { kind := inboxKindFor why, actor := arrival.author, body := arrival.body, networkId
              target := conv.target, msgid := arrival.msgid } }
      else facts

/-- Count one unread chat row. Selected live chat is unread only while unfocused. Replay
while unfocused is backlog, and focused replay plants the boundary without counting. -/
def countUnread (conv : ConversationState) (selected live windowInactive : Bool)
    (sequence : Int) (reason : Option ChatLineReason) : ConversationState :=
  if selected ∧ live ∧ windowInactive = false then conv
  else if selected ∧ live = false ∧ windowInactive then conv
  else
    let holdFocusedReplayMark := selected && !live && conv.unreadMark.isSome
    let conv :=
      if conv.unread = 0 ∧ holdFocusedReplayMark = false then
        { conv with unreadMark := some sequence }
      else conv
    if selected ∧ live = false then conv
    else
      { conv with
        unread := conv.unread + 1
        mentions :=
          if (reason = some .nickMention ∨ reason = some .highlight) ∧ conv.muted = false then
            conv.mentions + 1
          else conv.mentions }

/-- Plant the arrivals of an admitted chat row and advance the unread accounting. -/
def noteChatArrival (facts : Facts Disk) (conv : ConversationState) (key : ConversationKey)
    (arrival : ChatArrival) : Facts Disk × ConversationState :=
  let network := key.networkId
  let selfAuthor := facts.isSelf network arrival.author ||
    arrival.history.any fun history =>
      facts.bouncerQueryOwnLine history arrival.author ||
        facts.bouncerChannelOwnLine history arrival.author
  let nickHit := facts.isNickMention network arrival.body
  let highlightHit := !nickHit && facts.isHighlightHit network arrival.body
  let reason := classifyChatLine conv.isChannel arrival.kind selfAuthor nickHit highlightHit
  if arrival.history.any HistoryEvent.olderPage then (facts, conv)
  else if selfAuthor then (facts, conv)
  else if covered conv.readMarker arrival.serverTime then (facts, conv)
  else
    let selected := facts.selected == some key
    let facts := plantMention facts conv network arrival reason
    let facts := plantInbox facts conv network selected arrival reason
    (facts, countUnread conv selected (decide (arrival.origin = .live)) facts.windowInactive
      arrival.sequence reason)

/-- Add one row of a kind that is neither logged nor folded. -/
def appendPlain (facts : Facts Disk) (conv : ConversationState) (kind : MessageKind)
    (body : String) : Facts Disk × ConversationState :=
  capMessages facts (admitMessage conv { kind, body })

/-- Add one WHOIS row. -/
def appendWhois (facts : Facts Disk) (conv : ConversationState) (body : String) :
    Facts Disk × ConversationState :=
  appendPlain facts conv .whois body

/-- Add one error row. -/
def appendError (facts : Facts Disk) (conv : ConversationState) (body : String) :
    Facts Disk × ConversationState :=
  appendPlain facts conv .error body

end Omairc.Irc.Reducer

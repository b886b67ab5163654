import Omairc.Irc.Reducer.Splice

/-!
# The conversation store

Creating a row under its cause, dropping and closing rows, the selection and the unread
accounting, and what is forgotten with a network.
-/

namespace Omairc.Irc.Reducer

open Omairc.Text

variable {Disk : Type}

/-- Folds translated events into conversation state. -/
structure EventReducer (Disk : Type) where
  conversations : Store := ∅
  facts : Facts Disk

/-- Whether a target names a network service rather than a person. -/
def targetLooksLikeService [Platform] (target : String) (features : IrcServerFeatures) : Bool :=
  isServiceIdentity target "" features.channelTypes

/-- An empty conversation for a key. -/
def freshConversation (facts : Facts Disk) (key : ConversationKey) (displayTarget : String) :
    ConversationState :=
  { key, target := displayTarget, muted := key ∈ facts.mutedKeys
    channel := if facts.isChannel key.networkId key.normalizedTarget then some {} else none }

/-- Keep a channel row and mark it not joined. -/
def leftState (conv : ConversationState) : ConversationState :=
  let conv := conv.onChannel fun channel =>
    { channel with
      joined := false, historyAnchor := none, members := ∅, namesSyncing := false
      namesSyncStarted := none }
  { conv with historyPageCapTail := false }

namespace EventReducer

/-- Change one conversation together with the facts. A missing one is left alone. -/
def onConversation (reducer : EventReducer Disk) (key : ConversationKey)
    (change : Facts Disk → ConversationState → Facts Disk × ConversationState) :
    EventReducer Disk :=
  match reducer.conversations[key]? with
  | none => reducer
  | some conv =>
      let (facts, conv) := change reducer.facts conv
      { facts, conversations := reducer.conversations.insert key conv }

/-- Change one conversation. -/
def modify (reducer : EventReducer Disk) (key : ConversationKey)
    (change : ConversationState → ConversationState) : EventReducer Disk :=
  reducer.onConversation key fun facts conv => (facts, change conv)

/-- Change the conversations in the order of their keys, together with the facts. -/
def sweep (reducer : EventReducer Disk)
    (change : Facts Disk → ConversationState → Facts Disk × ConversationState) :
    EventReducer Disk :=
  reducer.conversations.toList.foldl (fun swept (key, conv) =>
    let (facts, conv) := change swept.facts conv
    { facts, conversations := swept.conversations.insert key conv }) reducer

/-- Change the conversations of one network in the order of their keys. -/
def sweepNetwork (reducer : EventReducer Disk) (networkId : String)
    (change : Facts Disk → ConversationState → Facts Disk × ConversationState) :
    EventReducer Disk :=
  reducer.sweep fun facts conv =>
    if conv.key.networkId = networkId then change facts conv else (facts, conv)

/-- The conversation of a network and target, normalized under the mapping of the
network. -/
def conversationKey (reducer : EventReducer Disk) (networkId target : String) :
    ConversationKey :=
  { networkId, normalizedTarget := reducer.facts.normalize networkId target }

/-- Forget the held batches of one network. -/
def dropPendingPlayback (reducer : EventReducer Disk) (networkId : String) :
    EventReducer Disk :=
  if networkId = "" then reducer
  else
    { reducer with
      facts.pendingPlayback :=
        reducer.facts.pendingPlayback.filter fun key _ => key.networkId ≠ networkId }

/-- Forget the channels of one network whose playback was kept. -/
def dropKeptPlayback (reducer : EventReducer Disk) (networkId : String) : EventReducer Disk :=
  if networkId = "" then reducer
  else
    { reducer with
      facts.keptPlaybackChannel :=
        reducer.facts.keptPlaybackChannel.filter fun key => key.networkId ≠ networkId }

/-- Forget the closed channels of one network. -/
def clearClosedNetwork (reducer : EventReducer Disk) (networkId : String) :
    EventReducer Disk :=
  if networkId = "" then reducer
  else
    { reducer with
      facts.closedChannels :=
        reducer.facts.closedChannels.filter fun key => key.networkId ≠ networkId }

/-- Remove one conversation, with the selection and the claims that named it. -/
def removeConversation (reducer : EventReducer Disk) (key : ConversationKey) :
    EventReducer Disk :=
  let facts :=
    if reducer.facts.selected = some key then { reducer.facts with selected := none }
    else reducer.facts
  { conversations := reducer.conversations.erase key, facts := facts.clearChannelContextHome key }

/-- Remove a direct message. Refuses a channel or a missing row. -/
def dropDirectMessage (reducer : EventReducer Disk) (key : ConversationKey) :
    EventReducer Disk × Bool :=
  match reducer.conversations[key]? with
  | none => (reducer, false)
  | some conv => if conv.isChannel then (reducer, false) else (reducer.removeConversation key, true)

/-- Remove a channel. Refuses a direct message or a missing row. -/
def dropChannel (reducer : EventReducer Disk) (key : ConversationKey) :
    EventReducer Disk × Bool :=
  match reducer.conversations[key]? with
  | none => (reducer, false)
  | some conv => if conv.isChannel then (reducer.removeConversation key, true) else (reducer, false)

/-- Mark a channel as left. The PART echo still appends the leave line. -/
def markChannelLeft (reducer : EventReducer Disk) (key : ConversationKey) :
    EventReducer Disk × Bool :=
  match reducer.conversations[key]? with
  | none => (reducer, false)
  | some conv =>
      if conv.isChannel then
        (reducer.modify key fun conv => { leftState conv with typing := ∅ }, true)
      else (reducer, false)

/-- Drop every fact about one network. -/
def forgetNetwork (reducer : EventReducer Disk) (networkId : String) : EventReducer Disk :=
  if networkId = "" then reducer
  else
    let reducer := reducer.dropPendingPlayback networkId
    let reducer := reducer.dropKeptPlayback networkId
    let reducer :=
      { reducer with
        facts.queryRestorePending := reducer.facts.queryRestorePending.erase networkId }
    let reducer := reducer.clearClosedNetwork networkId
    let facts := reducer.facts.clearChannelContextNetwork networkId
    { conversations := reducer.conversations.filter fun key _ => key.networkId ≠ networkId
      facts := { facts with
        features := Function.update facts.features networkId none
        currentNicks := Function.update facts.currentNicks networkId none
        selfNicks := Function.update facts.selfNicks networkId []
        highlightWords := Function.update facts.highlightWords networkId none
        presence := Function.update facts.presence networkId none
        selfAway := facts.selfAway.erase networkId
        mutedKeys := facts.mutedKeys.filter fun key => key.networkId ≠ networkId
        selected := facts.selected.filter fun key => key.networkId ≠ networkId } }

/-- Empty a transcript and keep its msgids, so that a replay cannot put a line back. -/
def clearMessages (reducer : EventReducer Disk) (key : ConversationKey) : EventReducer Disk :=
  reducer.modify key fun conv =>
    ConversationState.dropAnchor
      { conv with
        trimmed := conv.trimmed + conv.messages.length
        messages := []
        spliceEpoch := conv.spliceEpoch + 1 }

/-- Record the muted flag. Muting clears the mentions. -/
def setMuted (reducer : EventReducer Disk) (key : ConversationKey) (muted : Bool) :
    EventReducer Disk :=
  if key.networkId = "" ∨ key.normalizedTarget = "" then reducer
  else
    let mutedKeys :=
      if muted then insert key reducer.facts.mutedKeys else reducer.facts.mutedKeys.erase key
    ({ reducer with facts.mutedKeys := mutedKeys }).modify key fun conv =>
      { conv with muted, mentions := if muted then 0 else conv.mentions }

/-- Record the selected conversation and clear its counts, keeping the boundary when
nothing new arrived. -/
def markSelected (reducer : EventReducer Disk) (key : ConversationKey) : EventReducer Disk :=
  if reducer.facts.selected = some key then reducer
  else
    ({ reducer with facts.selected := some key }).modify key fun conv =>
      { conv with
        unreadMark := if conv.unread = 0 then none else conv.unreadMark
        unread := 0
        mentions := 0 }

/-- Clear the counts of one conversation, keeping the boundary. -/
def markRead (reducer : EventReducer Disk) (key : ConversationKey) : EventReducer Disk :=
  reducer.modify key fun conv => { conv with unread := 0, mentions := 0 }

/-- Clear the counts of every conversation. -/
def markAllRead (reducer : EventReducer Disk) : EventReducer Disk :=
  reducer.sweep fun facts conv => (facts, { conv with unread := 0, mentions := 0 })

/-- Arm tail-first trimming for the next splice of a page. -/
def markHistoryPageCapTail (reducer : EventReducer Disk) (key : ConversationKey) :
    EventReducer Disk :=
  reducer.modify key fun conv => { conv with historyPageCapTail := true }

/-- Disarm tail-first trimming. -/
def clearHistoryPageCapTail (reducer : EventReducer Disk) (key : ConversationKey) :
    EventReducer Disk :=
  reducer.modify key fun conv => { conv with historyPageCapTail := false }

/-- Forget the selected conversation. -/
def clearSelection (reducer : EventReducer Disk) : EventReducer Disk :=
  { reducer with facts.selected := none }

/-- Choose how membership lines show. Lines already on screen keep their form. -/
def setMembershipNoise (reducer : EventReducer Disk) (noise : MembershipNoise) :
    EventReducer Disk :=
  { reducer with facts.membershipNoise := noise }

/-- Record whether the window has focus. -/
def setWindowActive (reducer : EventReducer Disk) (active : Bool) : EventReducer Disk :=
  { reducer with facts.windowInactive := !active }

/-- Wire or unwire the transcript log. -/
def setConversationLog (reducer : EventReducer Disk) (wired : Bool) : EventReducer Disk :=
  { reducer with facts.log := wired }

/-- Wire the closed list. -/
def setClosedPersistence (reducer : EventReducer Disk) : EventReducer Disk :=
  { reducer with facts.closedStore := true }

/-- Release a NAMES sync that has run too long. -/
def releaseStaleNamesSync (reducer : EventReducer Disk) (key : Option ConversationKey)
    (now : Instant) : EventReducer Disk :=
  match key with
  | none => reducer
  | some key =>
      reducer.modify key fun conv =>
        conv.onChannel fun channel =>
          if channel.namesSyncing = false ∨
              (channel.namesSyncStarted.any fun started =>
                decide (now - started < staleNamesSync)) then channel
          else { channel with namesSyncing := false, namesSyncStarted := none }

/-- Drop every typing hint on one network. -/
def clearTypingFacts (reducer : EventReducer Disk) (networkId : String) : EventReducer Disk :=
  reducer.sweepNetwork networkId fun facts conv => (facts, { conv with typing := ∅ })

/-- Drop away or metadata facts of every nick of one network. -/
def clearPresenceFacts (reducer : EventReducer Disk) (networkId : String)
    (away metadata : Bool) : EventReducer Disk :=
  match reducer.facts.presence networkId with
  | none => reducer
  | some _ =>
      { reducer with
        facts := reducer.facts.onPresence networkId fun presence =>
          let presence := if away then presence.clearAway else presence
          if metadata then presence.clearMetadata else presence }

/-- Take the mention the last event planted. -/
def takeMentionArrival (reducer : EventReducer Disk) :
    EventReducer Disk × Option MentionArrival :=
  ({ reducer with facts.mentionArrival := none }, reducer.facts.mentionArrival)

/-- Take the inbox item the last event planted. -/
def takeInboxArrival (reducer : EventReducer Disk) : EventReducer Disk × Option InboxArrival :=
  ({ reducer with facts.inboxArrival := none }, reducer.facts.inboxArrival)

/-- Take the bouncer queries worth remembering. -/
def takeRememberedQueries (reducer : EventReducer Disk) :
    EventReducer Disk × List RememberedQuery :=
  ({ reducer with facts.rememberedQueries := [] }, reducer.facts.rememberedQueries)

/-- Take the kept replay lines. -/
def takeKeptReplay (reducer : EventReducer Disk) : EventReducer Disk × List KeptReplay :=
  ({ reducer with facts.keptReplay := [] }, reducer.facts.keptReplay)

/-- Hold a batch, or extend the one already held, until its conversation can take it. -/
def holdPendingPlayback (reducer : EventReducer Disk) (event : HistoryEvent) :
    EventReducer Disk :=
  if event.lines = [] then reducer
  else
    let held :=
      match reducer.facts.pendingPlayback[event.conversation]? with
      | none => event
      | some held => { held with lines := held.lines ++ event.lines }
    { reducer with
      facts.pendingPlayback := reducer.facts.pendingPlayback.insert event.conversation held }

/-- Forget one held batch. -/
def forgetPlayback (reducer : EventReducer Disk) (key : ConversationKey) : EventReducer Disk :=
  { reducer with facts.pendingPlayback := reducer.facts.pendingPlayback.erase key }

section Closed

variable [Storage Disk]

/-- Whether a close recorded on disk still refuses a channel. -/
def persistedClosed (reducer : EventReducer Disk) (key : ConversationKey) : Bool :=
  if reducer.facts.closedStore = false ∨ key.networkId = "" ∨ key.normalizedTarget = "" then false
  else
    Storage.contains reducer.facts.disk key.networkId key.normalizedTarget
      (reducer.facts.caseMapping key.networkId)

/-- Record that the user closed a channel, so that catch-up cannot bring the row back. -/
def noteClosed (reducer : EventReducer Disk) (key : ConversationKey) : EventReducer Disk :=
  if key.networkId = "" ∨ key.normalizedTarget = "" then reducer
  else
    let facts := { reducer.facts with closedChannels := insert key reducer.facts.closedChannels }
    if facts.closedStore then
      { reducer with
        facts := { facts with
          disk := Storage.add facts.disk key.networkId key.normalizedTarget
            (facts.caseMapping key.networkId) } }
    else { reducer with facts }

/-- Forget a closed channel, so that an explicit join may open it. -/
def clearClosed (reducer : EventReducer Disk) (key : ConversationKey) : EventReducer Disk :=
  let facts := { reducer.facts with closedChannels := reducer.facts.closedChannels.erase key }
  if facts.closedStore then
    { reducer with
      facts := { facts with
        disk := Storage.remove facts.disk key.networkId key.normalizedTarget
          (facts.caseMapping key.networkId) } }
  else { reducer with facts }

end Closed

section Rows

variable [CharacterClasses]

/-- Derive the mention flags of one network again. -/
def refreshMentions (reducer : EventReducer Disk) (networkId : String) : EventReducer Disk :=
  reducer.sweepNetwork networkId fun facts conv =>
    (facts, { conv with
      messages := conv.messages.map fun message =>
        { message with
          mentioned :=
            facts.transcriptHighlight networkId message.author message.kind message.body } })

/-- Record the features of one network. -/
def setServerFeatures (reducer : EventReducer Disk) (networkId : String)
    (features : Isupport) : EventReducer Disk :=
  ({ reducer with
    facts.features := Function.update reducer.facts.features networkId (some features)
    }).refreshMentions networkId

/-- Replace the highlight words of one network. An empty list clears them. -/
def setHighlightWords (reducer : EventReducer Disk) (networkId : String)
    (words : List String) : EventReducer Disk :=
  if networkId = "" then reducer
  else
    let kept := if words = [] then none else some words
    ({ reducer with
      facts.highlightWords := Function.update reducer.facts.highlightWords networkId kept
      }).refreshMentions networkId

variable [Platform] [Storage Disk]

/-- Create the conversation of a key when its cause may insert one, and tell whether it
exists. An existing conversation always wins. A closed channel stays closed until an
explicit join clears its mark. -/
def ensureKey (reducer : EventReducer Disk) (key : ConversationKey) (displayTarget : String)
    (cause : IrcConversationCause) : EventReducer Disk × Bool :=
  if reducer.conversations.contains key then (reducer, true)
  else
    let features := (reducer.facts.isupport key.networkId).features
    let targetIsChannel := features.isChannel key.normalizedTarget
    if cause.inserts targetIsChannel (targetLooksLikeService displayTarget features) = false then
      (reducer, false)
    else if targetIsChannel ∧ (reducer.facts.isClosed key ∨ reducer.persistedClosed key) then
      (reducer, false)
    else
      let (facts, conv) :=
        hydrateFromLog reducer.facts (freshConversation reducer.facts key displayTarget)
      ({ facts, conversations := reducer.conversations.insert key conv }, true)

/-- Splice a batch into an existing conversation. -/
def spliceInto (reducer : EventReducer Disk) (key : ConversationKey) (event : HistoryEvent)
    (anchorUse : AnchorUse) : EventReducer Disk :=
  reducer.onConversation key fun facts conv => spliceHistory facts conv event anchorUse

/-- Splice a held batch into a conversation that now exists, keeping the anchor. -/
def releasePendingPlayback (reducer : EventReducer Disk) (key : ConversationKey) :
    EventReducer Disk :=
  match reducer.facts.pendingPlayback[key]? with
  | none => reducer
  | some event => (reducer.forgetPlayback key).spliceInto key event .keep

/-- Splice a held query batch, creating its conversation for a line from the peer. -/
def releaseQuery (reducer : EventReducer Disk) (key : ConversationKey) :
    EventReducer Disk × Bool :=
  match reducer.facts.pendingPlayback[key]? with
  | none => (reducer, false)
  | some event =>
      let reducer := reducer.forgetPlayback key
      if reducer.conversations.contains key then (reducer.spliceInto key event .consume, true)
      else if reducer.facts.replayFromPeer event = false ∨
          reducer.facts.replayOnlyRepeatsPersistedIds event then (reducer, false)
      else
        let (reducer, exists_) := reducer.ensureKey key event.target .inboundOther
        if exists_ then (reducer.spliceInto key event .consume, true) else (reducer, false)

/-- Mark the restore of a network finished and splice its held query batches. Tells
whether anything changed. -/
def releasePendingQueryPlayback (reducer : EventReducer Disk) (networkId : String) :
    EventReducer Disk × Bool :=
  if networkId = "" then (reducer, false)
  else
    let reducer :=
      { reducer with
        facts.queryRestorePending := reducer.facts.queryRestorePending.erase networkId }
    let keys := reducer.facts.pendingPlayback.keys.filter fun key =>
      key.networkId == networkId && !reducer.facts.isChannel networkId key.normalizedTarget
    keys.foldl (fun (reducer, changed) key =>
      let (reducer, spliced) := reducer.releaseQuery key
      (reducer, changed || spliced)) (reducer, false)

/-- Append a query batch onto a held one and splice when the combined batch has a peer
line. There is no result when none is held. -/
def absorbPendingQueryPlayback (reducer : EventReducer Disk) (event : HistoryEvent) :
    Option (EventReducer Disk) :=
  let key := event.conversation
  (reducer.facts.pendingPlayback[key]?).map fun entry =>
    let held := { entry with lines := entry.lines ++ event.lines }
    let reducer :=
      { reducer with facts.pendingPlayback := reducer.facts.pendingPlayback.insert key held }
    let settled :=
      if key.networkId ∈ reducer.facts.queryRestorePending then reducer
      else reducer.forgetPlayback key
    if reducer.facts.replayFromPeer held = false then settled
    else if reducer.conversations.contains key then
      (reducer.forgetPlayback key).spliceInto key held .consume
    else if reducer.facts.replayOnlyRepeatsPersistedIds held then settled
    else
      let (reducer, exists_) := reducer.ensureKey key held.target .inboundOther
      if exists_ then (reducer.forgetPlayback key).spliceInto key held .consume else reducer

/-- Route one replay batch. A bouncer channel batch waits for the self-join. A bouncer
query batch joins a held one. Everything else splices now, creating a missing
conversation only for a line from the peer. -/
def reduceHistory (reducer : EventReducer Disk) (event : HistoryEvent) : EventReducer Disk :=
  let key := event.conversation
  let channelTarget := reducer.facts.isChannel key.networkId key.normalizedTarget
  if event.kind = .bouncerPlayback ∧ channelTarget then
    let joined := (reducer.conversations[key]?).any fun conv =>
      conv.channel.any ChannelState.joined
    if joined then reducer.spliceInto key event .keep else reducer.holdPendingPlayback event
  else
    let absorbed :=
      if event.kind = .bouncerPlayback then reducer.absorbPendingQueryPlayback event else none
    match absorbed with
    | some reducer => reducer
    | none =>
        if reducer.conversations.contains key then reducer.spliceInto key event .consume
        else if channelTarget ∨ event.kind = .chat then reducer
        else if reducer.facts.replayFromPeer event = false then
          if event.kind = .bouncerPlayback ∧
              key.networkId ∈ reducer.facts.queryRestorePending then
            reducer.holdPendingPlayback event
          else reducer
        else if reducer.facts.replayOnlyRepeatsPersistedIds event then reducer
        else
          let (reducer, exists_) := reducer.ensureKey key event.target .inboundOther
          if exists_ then reducer.spliceInto key event .consume else reducer

end Rows

end EventReducer

end Omairc.Irc.Reducer

import Omairc.Irc.Reducer.Conversations
import Omairc.Storage.PlaybackTimes

/-!
# Playback and history catch-up

At registration the stored times become the snapshot of the connection. Every catch-up of the
connection starts from it: the PLAY lines to a ZNC bouncer, and CHATHISTORY for a joined channel
or an open direct message. Inbound lines and kept replay lines raise the stored times, which the
next connection resumes from.
-/

namespace Omairc.Playback

open Omairc.Text Omairc.Irc Omairc.Irc.Reducer Omairc.Session

/-! ## The conversation of an inbound line -/

/-- Whether a line to a nick reaches a person. -/
def nickIsRoutable (nick : String) : Bool :=
  nick ≠ "" &&
    !nick.toList.any fun mark => decide (mark.toNat < 0x20) || " ,*?!@.$:".toList.contains mark

/-- Whether a target names the network rather than a person. -/
def isNetworkNoticeTarget (target : String) : Bool :=
  target = "" || target = "*" || eqIgnoreAsciiCase target "AUTH"

/-- Whether the source can take a reply. The pseudo-clients of a bouncer cannot. -/
def routableSource (message : IrcMessage) : Bool :=
  match message.msgPrefix with
  | some source => source.nick.isEmpty || nickIsRoutable (wireText source.nick)
  | none => true

section Lines

variable [Platform]

/-- Whether the source of a message is a network service. -/
def isServiceSource (message : IrcMessage) (features : IrcServerFeatures) : Bool :=
  message.msgPrefix.any fun source =>
    isServiceIdentity (wireText source.nick) (wireText source.host) features.channelTypes

/-- The conversation an inbound message belongs to: its channel, or the other side of a direct
message. -/
def conversationFor (networkId target : String) (message : IrcMessage) (currentNick : String)
    (features : IrcServerFeatures) : Option ConversationKey :=
  let key (name : String) : ConversationKey :=
    { networkId, normalizedTarget := features.caseMapping.normalize name }
  if routableSource message = false then none
  else if features.isChannel target then some (key target)
  else if isNetworkNoticeTarget target || !(message.msgPrefix.any IrcPrefix.isUser) ||
      isServiceSource message features then none
  else
    let sender := prefixNick message
    if sender = "" then none
    else if features.caseMapping.equals target currentNick then some (key sender)
    else if features.caseMapping.equals sender currentNick then some (key target)
    else none

end Lines

/-! ## The coordinator -/

/-- One catch-up request. `bound` is the time to resume from, or none for the beginning. -/
inductive CatchUp
  | playAll
  | play (target : String) (bound : Option Instant)
  | after (target : String) (bound : Instant)
  | latest (target : String)
  | targets (lower upper : Instant)
  deriving DecidableEq

/-- The stamp of a PLAY line: seconds with three decimals, or zero for the beginning. -/
def playStampAt (bound : Option Instant) : String :=
  match bound with
  | none => "0"
  | some time =>
      if time = zeroTime then "0"
      else
        let magnitude := (timestampMillis time).natAbs
        let fraction := toString (magnitude % 1000)
        let padded := String.ofList (List.replicate (3 - fraction.length) '0') ++ fraction
        (if timestampMillis time < 0 then "-" else "") ++
          toString (magnitude / 1000) ++ "." ++ padded

/-- The line of a PLAY request. -/
def playLine (target : String) (bound : Option Instant) : String :=
  "ZNC *playback PLAY " ++ target ++ " " ++ playStampAt bound

/-- What was asked with CHATHISTORY on this connection. -/
structure CatchUpSent where
  targets : Bool := false
  targetsRetried : Bool := false
  asked : StringMap Bool := ∅
  discovered : StringMap Bool := ∅
  targetsLower : Option Instant := none
  targetsExtraPages : Nat := 0

/-- The PLAY lines that were sent on this connection. -/
structure ZncPlaybackSent where
  all : Bool := false
  queries : Bool := false
  targets : StringSet := ∅

/-- The session of a network: whether it is registered, and which requests it takes. -/
structure PlaybackLink where
  registered : Bool := true
  accepts : CatchUp → Bool := fun _ => true

/-- The playback state of every network, with the stored times. -/
structure PlaybackCoordinator where
  times : PlaybackTimeStore := {}
  playbackSnapshot : StringMap (List PlaybackTargetTime) := ∅
  zncPlaybackSent : StringMap ZncPlaybackSent := ∅
  zncAutojoin : StringMap (List String) := ∅
  zncJoinedChannels : StringMap (List String) := ∅
  catchUpSent : StringMap CatchUpSent := ∅

/-- The features of a network as the reducer holds them. -/
def serverFeatures {Disk : Type} (reducer : EventReducer Disk) (networkId : String) :
    IrcServerFeatures :=
  (reducer.facts.isupport networkId).features

/-- The normalized name of a target. -/
def normalizedTarget {Disk : Type} (reducer : EventReducer Disk) (networkId target : String) :
    String :=
  (reducer.conversationKey networkId target).normalizedTarget

/-- Whether a target is a direct message worth keeping. -/
def persistableDirectTarget [Platform] {Disk : Type} (reducer : EventReducer Disk)
    (networkId target : String) : Bool :=
  networkId ≠ "" && target ≠ "" && !(serverFeatures reducer networkId).isChannel target &&
    !targetLooksLikeService target (serverFeatures reducer networkId)

namespace PlaybackCoordinator

variable {Disk : Type}

/-! ### The connection -/

/-- The welcome of a connection takes the snapshot. -/
def onRegistered (coordinator : PlaybackCoordinator) (networkId : String)
    (autojoinChannels : List String) : PlaybackCoordinator :=
  { coordinator with
    playbackSnapshot :=
      coordinator.playbackSnapshot.insert networkId (coordinator.times.targets networkId)
    zncAutojoin := coordinator.zncAutojoin.insert networkId autojoinChannels
    zncJoinedChannels := coordinator.zncJoinedChannels.erase networkId }

/-- Everything of the connection ends with it. -/
def onLeftRegistration (coordinator : PlaybackCoordinator) (networkId : String) :
    PlaybackCoordinator :=
  { coordinator with
    zncPlaybackSent := coordinator.zncPlaybackSent.erase networkId
    playbackSnapshot := coordinator.playbackSnapshot.erase networkId
    zncAutojoin := coordinator.zncAutojoin.erase networkId
    zncJoinedChannels := coordinator.zncJoinedChannels.erase networkId
    catchUpSent := coordinator.catchUpSent.erase networkId }

/-- A network that is removed loses its times and its snapshot. -/
def dropNetwork (coordinator : PlaybackCoordinator) (networkId : String) : PlaybackCoordinator :=
  { coordinator with
    times := coordinator.times.forget networkId
    playbackSnapshot := coordinator.playbackSnapshot.erase networkId }

/-- Whether the moved instant takes the place of the standing one in a snapshot. -/
def laterInstant (moved standing : Instant) : Bool :=
  moved ≠ zeroTime && (standing = zeroTime || decide (standing < moved))

/-- Rename a target in the snapshot. -/
def rekey (coordinator : PlaybackCoordinator) (mapping : IrcCaseMapping)
    (networkId oldTarget newTarget : String) : PlaybackCoordinator :=
  match coordinator.playbackSnapshot[networkId]? with
  | none => coordinator
  | some rows =>
      if oldTarget = "" ∨ newTarget = "" then coordinator
      else
        { coordinator with
          playbackSnapshot := coordinator.playbackSnapshot.insert networkId
            (rekeyedRows laterInstant rows oldTarget newTarget mapping) }

/-- Rename a target in the store and in the snapshot. -/
def rekeyTarget (coordinator : PlaybackCoordinator) (mapping : IrcCaseMapping)
    (networkId oldTarget newTarget : String) : PlaybackCoordinator :=
  { coordinator with
    times := (coordinator.times.rekey networkId oldTarget newTarget mapping).1 }.rekey mapping
      networkId oldTarget newTarget

/-- Record a self-JOIN. -/
def noteJoinedChannel (coordinator : PlaybackCoordinator) (mapping : IrcCaseMapping)
    (networkId channel : String) : PlaybackCoordinator :=
  if networkId = "" ∨ channel = "" then coordinator
  else
    let channels := (coordinator.zncJoinedChannels[networkId]?).getD []
    if channels.any fun existing => mapping.equals existing channel then coordinator
    else
      { coordinator with
        zncJoinedChannels :=
          coordinator.zncJoinedChannels.insert networkId (channels ++ [channel]) }

/-! ### The snapshot -/

/-- The instant of a target in the snapshot. -/
def playbackSnapshotTime (coordinator : PlaybackCoordinator) (networkId target : String)
    (mapping : IrcCaseMapping) : Option Instant :=
  (coordinator.playbackSnapshot[networkId]?).bind fun rows =>
    if target = "" then none else timeOfTarget rows target mapping

/-- Whether the welcome of this connection took the snapshot. -/
def snapshotTaken (coordinator : PlaybackCoordinator) (networkId : String) : Bool :=
  coordinator.playbackSnapshot.contains networkId

/-- What a self-JOIN resumes from: the snapshot, and before the welcome the stored time. -/
def historyResumeInstant (coordinator : PlaybackCoordinator) (networkId target : String)
    (mapping : IrcCaseMapping) : Option Instant :=
  match coordinator.playbackSnapshotTime networkId target mapping with
  | some time => some time
  | none =>
      if coordinator.snapshotTaken networkId then none
      else coordinator.times.noted networkId target mapping

/-- The newest instant of the snapshot. -/
def newestSnapshot (coordinator : PlaybackCoordinator) (networkId : String) : Option Instant :=
  (coordinator.playbackSnapshot[networkId]?).bind fun rows =>
    ((rows.filter fun row => row.time ≠ zeroTime).map PlaybackTime.time).max?

/-! ### What was sent -/

/-- The PLAY lines a network was sent. -/
def sentOf (coordinator : PlaybackCoordinator) (networkId : String) : ZncPlaybackSent :=
  (coordinator.zncPlaybackSent[networkId]?).getD {}

/-- Change what a network was sent. -/
def markSent (coordinator : PlaybackCoordinator) (networkId : String)
    (change : ZncPlaybackSent → ZncPlaybackSent) : PlaybackCoordinator :=
  { coordinator with
    zncPlaybackSent :=
      coordinator.zncPlaybackSent.insert networkId (change (coordinator.sentOf networkId)) }

def markAll (coordinator : PlaybackCoordinator) (networkId : String) : PlaybackCoordinator :=
  coordinator.markSent networkId fun sent => { sent with all := true }

def markQueries (coordinator : PlaybackCoordinator) (networkId : String) : PlaybackCoordinator :=
  coordinator.markSent networkId fun sent => { sent with queries := true }

def markTarget (coordinator : PlaybackCoordinator) (networkId normalized : String) :
    PlaybackCoordinator :=
  coordinator.markSent networkId fun sent => { sent with targets := sent.targets.insert normalized }

/-- Whether a PLAY line of this connection covers a target. -/
def zncPlaybackCovers (coordinator : PlaybackCoordinator) (networkId normalized : String) : Bool :=
  (coordinator.zncPlaybackSent[networkId]?).any fun sent =>
    sent.all || sent.queries || sent.targets.contains normalized

/-- Change what a network was asked with CHATHISTORY. -/
def markAsked (coordinator : PlaybackCoordinator) (networkId : String)
    (change : CatchUpSent → CatchUpSent) : PlaybackCoordinator :=
  { coordinator with
    catchUpSent := coordinator.catchUpSent.insert networkId
      (change ((coordinator.catchUpSent[networkId]?).getD {})) }

def markCatchUp (coordinator : PlaybackCoordinator) (networkId normalized : String) :
    PlaybackCoordinator :=
  coordinator.markAsked networkId fun sent =>
    { sent with asked := sent.asked.insert normalized true }

def catchUpAsked (coordinator : PlaybackCoordinator) (networkId normalized : String) : Bool :=
  (coordinator.catchUpSent[networkId]?).any fun sent => (sent.asked[normalized]?).getD false

/-! ### Notes -/

/-- Whether a line may raise the time of a target. With ZNC playback a target waits for the PLAY
line that covers it. -/
def mayNotePlaybackTime (coordinator : PlaybackCoordinator) (reducer : EventReducer Disk)
    (networkId target : String) (zncPlaybackCap : Bool) : Bool :=
  if networkId = "" ∨ target = "" then false
  else if zncPlaybackCap = false then true
  else coordinator.zncPlaybackCovers networkId (normalizedTarget reducer networkId target)

/-- Record the time of a target. -/
def note (coordinator : PlaybackCoordinator) (networkId target : String) (time : Instant)
    (mapping : IrcCaseMapping) : PlaybackCoordinator :=
  { coordinator with times := (coordinator.times.note networkId target time mapping).1 }

/-- Record the times of the replay lines the reducer kept. -/
def noteKeptReplay (coordinator : PlaybackCoordinator) (reducer : EventReducer Disk)
    (zncPlaybackCap : String → Bool) : PlaybackCoordinator :=
  reducer.facts.keptReplay.foldl (fun coordinator line =>
    if coordinator.mayNotePlaybackTime reducer line.networkId line.target
        (zncPlaybackCap line.networkId) then
      coordinator.note line.networkId line.target line.serverTime
        (serverFeatures reducer line.networkId).caseMapping
    else coordinator) coordinator

section Clock

variable [Platform]

/-- The target whose time an inbound line raises, and the time of the line. -/
def clockNote (coordinator : PlaybackCoordinator) (reducer : EventReducer Disk)
    (networkId : String) (message : IrcMessage) (currentNick : String) (zncPlaybackCap : Bool) :
    Option (String × Instant) :=
  if networkId = "" ∨ message.command ≠ "PRIVMSG" ∨ message.params.length < 2 then none
  else
    match serverTimeOf message with
    | none => none
    | some time =>
        if (parseCtcpRequest (message.textParam 1)).any fun request =>
            !eqIgnoreAsciiCase request.command "ACTION" then none
        else
          let features := serverFeatures reducer networkId
          let wireTarget := message.textParam 0
          if (conversationFor networkId wireTarget message currentNick features).isNone then none
          else
            let sender := prefixNick message
            let channel := features.isChannel wireTarget
            let selfLine := features.caseMapping.equals sender currentNick
            let displayTarget := if channel || selfLine then wireTarget else sender
            if displayTarget = "" then none
            else if !channel && (!nickIsRoutable displayTarget ||
                targetLooksLikeService displayTarget features) then none
            else if selfLine &&
                !reducer.conversations.contains
                  (reducer.conversationKey networkId displayTarget) then none
            else if coordinator.mayNotePlaybackTime reducer networkId displayTarget
                zncPlaybackCap then some (displayTarget, time)
            else none

/-- Record the time of an inbound line. -/
def notePlaybackClock (coordinator : PlaybackCoordinator) (reducer : EventReducer Disk)
    (networkId : String) (message : IrcMessage) (currentNick : String) (zncPlaybackCap : Bool) :
    PlaybackCoordinator :=
  match coordinator.clockNote reducer networkId message currentNick zncPlaybackCap with
  | none => coordinator
  | some (target, time) =>
      coordinator.note networkId target time (serverFeatures reducer networkId).caseMapping

end Clock

end PlaybackCoordinator

/-! ## Requests -/

/-- A pass over requests: what was asked so far, and whether the pass goes on. -/
structure Asking where
  coordinator : PlaybackCoordinator
  asked : List CatchUp := []
  going : Bool := true

namespace Asking

/-- Ask, and mark what was asked. The pass stops at a request the session does not take. -/
def send (asking : Asking) (link : PlaybackLink) (request : CatchUp)
    (mark : PlaybackCoordinator → PlaybackCoordinator) : Asking :=
  if asking.going = false then asking
  else if link.accepts request then
    { asking with coordinator := mark asking.coordinator, asked := asking.asked ++ [request] }
  else { asking with going := false }

variable {Disk : Type} (asking : Asking) (reducer : EventReducer Disk) (networkId : String)
  (link : PlaybackLink)

/-- Ask for a row of the snapshot from its instant, unless a PLAY line covers the target. -/
def playRow (row : PlaybackTargetTime) : Asking :=
  let normalized := normalizedTarget reducer networkId row.target
  if asking.coordinator.zncPlaybackCovers networkId normalized then asking
  else
    asking.send link (.play row.target (some row.time)) fun coordinator =>
      coordinator.markTarget networkId normalized

/-- Ask for a target from the beginning, when the snapshot has no instant for it. -/
def playFromStart (target : String) : Asking :=
  let normalized := normalizedTarget reducer networkId target
  if (asking.coordinator.playbackSnapshotTime networkId target
      (serverFeatures reducer networkId).caseMapping).isSome then asking
  else if asking.coordinator.zncPlaybackCovers networkId normalized then asking
  else
    asking.send link (.play target none) fun coordinator =>
      coordinator.markTarget networkId normalized

end Asking

namespace PlaybackCoordinator

variable {Disk : Type}

/-- Ask for the buffer of a joined channel, until a batch of it was kept. -/
def requestChannelPlayback (coordinator : PlaybackCoordinator) (reducer : EventReducer Disk)
    (networkId : String) (link : PlaybackLink) (channel : String)
    (zncPlaybackCap motdSeen : Bool) : PlaybackCoordinator × List CatchUp :=
  if channel = "" ∨ link.registered = false ∨ motdSeen = false ∨ zncPlaybackCap = false then
    (coordinator, [])
  else if (serverFeatures reducer networkId).isChannel channel = false then (coordinator, [])
  else if networkId ≠ "" ∧
      reducer.conversationKey networkId channel ∈ reducer.facts.keptPlaybackChannel then
    (coordinator, [])
  else
    let request := CatchUp.play channel (coordinator.playbackSnapshotTime networkId channel
      (serverFeatures reducer networkId).caseMapping)
    if link.accepts request then
      (coordinator.markTarget networkId (normalizedTarget reducer networkId channel), [request])
    else (coordinator, [])

section Requests

variable [Platform]

/-- Ask a bouncer for the buffers it may hold: the rows of the snapshot, the open queries and the
channels without one, and then all of them. -/
def requestBuffers (coordinator : PlaybackCoordinator) (reducer : EventReducer Disk)
    (networkId : String) (link : PlaybackLink) (restoredDirects : List String) : Asking :=
  let stored := (coordinator.playbackSnapshot[networkId]?).getD []
  let asking : Asking := { coordinator }
  if stored = [] then
    if (coordinator.sentOf networkId).targets.isEmpty then
      asking.send link .playAll fun coordinator => coordinator.markAll networkId
    else asking
  else
    let rows := stored.foldl (fun asking row => asking.playRow reducer networkId link row) asking
    let directs := restoredDirects.foldl (fun asking nick =>
      if persistableDirectTarget reducer networkId nick &&
          reducer.conversations.contains (reducer.conversationKey networkId nick) then
        asking.playFromStart reducer networkId link nick
      else asking) rows
    let channels := ((coordinator.zncAutojoin[networkId]?).getD []).foldl (fun asking channel =>
      if channel ≠ "" ∧ (serverFeatures reducer networkId).isChannel channel then
        asking.playFromStart reducer networkId link channel
      else asking) directs
    if (channels.coordinator.sentOf networkId).queries then channels
    else channels.send link .playAll fun coordinator => coordinator.markQueries networkId

/-- Send the PLAY lines of a connection, once the MOTD ended. -/
def request (coordinator : PlaybackCoordinator) (reducer : EventReducer Disk) (networkId : String)
    (link : PlaybackLink) (restoredDirects : List String) (zncPlaybackCap motdSeen : Bool) :
    PlaybackCoordinator × List CatchUp :=
  if link.registered = false ∨ motdSeen = false ∨ zncPlaybackCap = false ∨
      (coordinator.sentOf networkId).all = true then (coordinator, [])
  else
    let buffers := coordinator.requestBuffers reducer networkId link restoredDirects
    if buffers.going = false then (buffers.coordinator, buffers.asked)
    else
      ((buffers.coordinator.zncJoinedChannels[networkId]?).getD []).foldl (fun asked channel =>
        let channelAsked := asked.1.requestChannelPlayback reducer networkId link channel
          zncPlaybackCap motdSeen
        (channelAsked.1, asked.2 ++ channelAsked.2)) (buffers.coordinator, buffers.asked)

/-- The CHATHISTORY request of an open direct message. -/
def directRequest (coordinator : PlaybackCoordinator) (reducer : EventReducer Disk)
    (networkId target : String) : CatchUp :=
  match coordinator.playbackSnapshotTime networkId target
      (serverFeatures reducer networkId).caseMapping with
  | some time => .after target time
  | none => .latest target

/-- Ask for the open direct messages. One that the session does not take is passed over. -/
def requestDirects (coordinator : PlaybackCoordinator) (reducer : EventReducer Disk)
    (networkId : String) (link : PlaybackLink) (restoredDirects : List String) :
    PlaybackCoordinator × List CatchUp :=
  restoredDirects.foldl (fun asked nick =>
    let normalized := normalizedTarget reducer networkId nick
    let request := asked.1.directRequest reducer networkId nick
    if persistableDirectTarget reducer networkId nick &&
        reducer.conversations.contains (reducer.conversationKey networkId nick) &&
        !asked.1.catchUpAsked networkId normalized && link.accepts request then
      (asked.1.markCatchUp networkId normalized, asked.2 ++ [request])
    else asked) (coordinator, [])

/-- The upper end of a TARGETS query whose clock is behind its lower end. -/
def farTime : Instant := 253370764800 * 10 ^ 9

/-- Catch up with CHATHISTORY, once the MOTD ended: the open direct messages, and then which
targets have newer lines. -/
def requestCatchUp (coordinator : PlaybackCoordinator) (reducer : EventReducer Disk)
    (networkId : String) (link : PlaybackLink) (restoredDirects : List String)
    (chatHistory motdSeen : Bool) (now : Instant) : PlaybackCoordinator × List CatchUp :=
  if link.registered = false ∨ motdSeen = false ∨ chatHistory = false ∨
      ((coordinator.catchUpSent[networkId]?).any fun sent => sent.targets) = true then
    (coordinator, [])
  else
    let (coordinator, asked) :=
      coordinator.requestDirects reducer networkId link restoredDirects
    match coordinator.newestSnapshot networkId with
    | none => (coordinator.markAsked networkId fun sent => { sent with targets := true }, asked)
    | some newest =>
        if now = zeroTime then
          (coordinator.markAsked networkId fun sent => { sent with targets := true }, asked)
        else
          let lower := newest - 10 ^ 9
          let upper := if lower < now + 10 * 10 ^ 9 then now + 10 * 10 ^ 9 else farTime
          if link.accepts (.targets lower upper) then
            (coordinator.markAsked networkId fun sent =>
              { sent with targets := true, targetsLower := some lower },
              asked ++ [.targets lower upper])
          else (coordinator, asked)

/-- Allow one more TARGETS query after a failure. -/
def retryTargets (coordinator : PlaybackCoordinator) (networkId : String) :
    PlaybackCoordinator × Bool :=
  match coordinator.catchUpSent[networkId]? with
  | none => (coordinator, false)
  | some sent =>
      if sent.targetsRetried then (coordinator, false)
      else
        (coordinator.markAsked networkId fun sent =>
          { sent with targetsRetried := true, targets := false }, true)

/-- Ask for the next page of targets, twice at most. -/
def noteTargetsPage (coordinator : PlaybackCoordinator) (networkId : String) (link : PlaybackLink)
    (targets : List HistoryTarget) (historyEnded : Bool) (limit : Nat) :
    PlaybackCoordinator × List CatchUp :=
  if limit = 0 ∨ historyEnded = true ∨ targets.length < limit then (coordinator, [])
  else
    let sent := (coordinator.catchUpSent[networkId]?).getD {}
    match sent.targetsLower, (targets.filterMap HistoryTarget.latest).min? with
    | some lower, some oldest =>
        if sent.targetsExtraPages < 2 ∧ lower < oldest ∧
            link.accepts (.targets lower oldest) = true then
          (coordinator.markAsked networkId fun sent =>
            { sent with targetsExtraPages := sent.targetsExtraPages + 1 },
            [.targets lower oldest])
        else (coordinator, [])
    | _, _ => (coordinator, [])

end Requests

end PlaybackCoordinator

/-! ## Discovered targets -/

/-- Whether a name is listed under a mapping. -/
def listContains (rows : List String) (target : String) (mapping : IrcCaseMapping) : Bool :=
  rows.any fun row => mapping.equals row target

/-- A pass over the targets that the server named. -/
structure Discovery (Disk : Type) where
  coordinator : PlaybackCoordinator
  reducer : EventReducer Disk
  asked : List CatchUp := []
  created : Nat := 0

/-- What a pass over targets is read with: the network, its session, our nick, and the direct
messages that are open or were dismissed. -/
structure DiscoveryContext where
  networkId : String
  link : PlaybackLink
  currentNick : String
  restoredDirects : List String
  dismissedDirects : List String
  features : IrcServerFeatures
  newest : Option Instant

namespace Discovery

variable {Disk : Type} [Platform]

/-- Whether a named target may be asked for. -/
def eligible (discovery : Discovery Disk) (context : DiscoveryContext) (name : String) : Bool :=
  name ≠ "" && !context.features.isChannel name && nickIsRoutable name &&
    !targetLooksLikeService name context.features &&
    !(context.currentNick ≠ "" &&
      context.features.caseMapping.equals name context.currentNick) &&
    !listContains context.dismissedDirects name context.features.caseMapping &&
    !discovery.coordinator.catchUpAsked context.networkId
      (normalizedTarget discovery.reducer context.networkId name)

/-- Ask for a direct message that stands open. -/
def askOpen (discovery : Discovery Disk) (context : DiscoveryContext) (name : String) :
    Discovery Disk :=
  let request := discovery.coordinator.directRequest discovery.reducer context.networkId name
  if context.link.accepts request then
    { discovery with
      coordinator := discovery.coordinator.markCatchUp context.networkId
        (normalizedTarget discovery.reducer context.networkId name)
      asked := discovery.asked ++ [request] }
  else discovery

/-- Open a direct message and ask for it, from its own time or else from a second before the
newest one. A request the session does not take leaves no empty row. -/
def openDirect [CharacterClasses] [Reducer.Storage Disk] (discovery : Discovery Disk) (context : DiscoveryContext)
    (newest : Instant) (name : String) : Discovery Disk :=
  let key := discovery.reducer.conversationKey context.networkId name
  match discovery.reducer.ensureKey key name .inboundOther with
  | (refused, false) => { discovery with reducer := refused }
  | (opened, true) =>
      let request := CatchUp.after name
        ((discovery.coordinator.playbackSnapshotTime context.networkId name
          (serverFeatures opened context.networkId).caseMapping).getD (newest - 10 ^ 9))
      if context.link.accepts request then
        { coordinator := discovery.coordinator.markAsked context.networkId fun sent =>
            { sent with
              asked := sent.asked.insert key.normalizedTarget true
              discovered := sent.discovered.insert key.normalizedTarget true }
          reducer := opened
          asked := discovery.asked ++ [request]
          created := discovery.created + 1 }
      else if (opened.conversations[key]?).any fun conv => conv.messages.isEmpty then
        { discovery with reducer := (opened.dropDirectMessage key).1 }
      else { discovery with reducer := opened }

/-- One named target. -/
def visit [CharacterClasses] [Reducer.Storage Disk] (discovery : Discovery Disk) (context : DiscoveryContext)
    (name : String) : Discovery Disk :=
  let key := discovery.reducer.conversationKey context.networkId name
  if discovery.eligible context name = false then discovery
  else if discovery.reducer.conversations.contains key then discovery.askOpen context name
  else if listContains context.restoredDirects name context.features.caseMapping then discovery
  else
    match context.newest with
    | none => discovery
    | some newest =>
        if persistableDirectTarget discovery.reducer context.networkId name then
          discovery.openDirect context newest name
        else discovery

end Discovery

/-- Open and ask for the direct messages that the server named. -/
def PlaybackCoordinator.noteDiscoveredTargets {Disk : Type} [Platform] [CharacterClasses]
    [Reducer.Storage Disk] (coordinator : PlaybackCoordinator) (reducer : EventReducer Disk) (networkId : String)
    (link : PlaybackLink) (targets : List HistoryTarget) (currentNick : String)
    (restoredDirects dismissedDirects : List String) : Discovery Disk :=
  if link.registered = false then { coordinator, reducer }
  else
    let context : DiscoveryContext :=
      { networkId, link, currentNick, restoredDirects, dismissedDirects
        features := serverFeatures reducer networkId
        newest := coordinator.newestSnapshot networkId }
    targets.foldl (fun discovery row => discovery.visit context row.name) { coordinator, reducer }

end Omairc.Playback

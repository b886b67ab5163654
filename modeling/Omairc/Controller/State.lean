import Mathlib.Data.List.Sort
import Omairc.Irc.Reducer.Agreement
import Omairc.Storage.CaseLists

/-!
# The state of the controller

The reducer with the selection, the mutes and the cancelled joins that the controller keeps
beside it, and the lines it hands to the sessions of its networks.
-/

namespace Omairc

open Omairc.Irc Omairc.Irc.Reducer Omairc.Storage Omairc.Text

/-- The transcript log, with one stream for each network and target. -/
class TranscriptLog (Log : Type) where
  /-- Store one line at the end. -/
  append : Log → String → String → IrcCaseMapping → TranscriptLine → Log
  /-- Store lines at the front, oldest first. -/
  prepend : Log → String → String → IrcCaseMapping → List TranscriptLine → Log
  /-- The most recent lines, oldest first, up to a number of them. -/
  readTail : Log → String → String → IrcCaseMapping → Nat → List TranscriptLine

/-- What the reducer and the controller share on disk: the log and the closed list. -/
structure Stored (Log : Type) where
  log : Log
  closed : CaseListStore := {}

variable {Log : Type}

instance [TranscriptLog Log] : Storage (Stored Log) where
  append disk networkId target mapping line :=
    { disk with log := TranscriptLog.append disk.log networkId target mapping line }
  prepend disk networkId target mapping lines :=
    { disk with log := TranscriptLog.prepend disk.log networkId target mapping lines }
  readTail disk := TranscriptLog.readTail disk.log
  contains disk := disk.closed.contains
  add disk networkId target mapping :=
    { disk with closed := (disk.closed.add networkId target mapping).1 }
  remove disk networkId target mapping :=
    { disk with closed := (disk.closed.remove networkId target mapping).1 }

/-- What a send carries. -/
inductive Outgoing
  | say
  | action
  | notice
  deriving DecidableEq

/-- A line handed to a session. -/
inductive ClientLine
  | join (target : IrcJoinTarget)
  | part (channel : String)
  | chat (kind : Outgoing) (target text : String)

/-- The session of a network as the controller sees it: whether it is registered, its nick,
the channel of its pending invite, what the server negotiated, and which lines it writes. -/
structure Link where
  registered : Bool := true
  nick : String := ""
  pendingInvite : Option String := none
  echoMessage : Bool := false
  accepts : ClientLine → Bool := fun _ => true

/-- The surface a command is typed on. -/
inductive ComposerSurface
  | conversation
  | status

/-- What became of a command. -/
inductive CommandOutcome
  | sent
  | refused
  | wrongScope
  | notConnected

/-- The controller. -/
structure Controller (Log : Type) where
  reducer : EventReducer (Stored Log)
  currentNicks : String → Option String := fun _ => none
  selected : Option ConversationKey := none
  /-- The display target of the selection, kept for a conversation that does not exist. -/
  selectedTarget : String := ""
  consoleNetwork : String := ""
  consoleOpen : Bool := false
  networkOrder : List String := []
  mutes : CaseListStore := {}
  /-- The channels a part or a close cancelled while their JOIN was in flight. -/
  cancelledJoins : Finset ConversationKey := ∅
  /-- The networks that have a session. -/
  sessions : Finset String := ∅
  /-- The lines the sessions took, oldest first, with their networks. -/
  written : List (String × ClientLine) := []

namespace Controller

/-- Change the reducer. -/
def onReducer (controller : Controller Log)
    (change : EventReducer (Stored Log) → EventReducer (Stored Log)) : Controller Log :=
  { controller with reducer := change controller.reducer }

/-- The conversation under a key. -/
def find (controller : Controller Log) (key : ConversationKey) : Option ConversationState :=
  controller.reducer.conversations[key]?

/-- The features of a network. -/
def features (controller : Controller Log) (networkId : String) : IrcServerFeatures :=
  (controller.reducer.facts.isupport networkId).features

/-- The case mapping of a network. -/
def caseMapping (controller : Controller Log) (networkId : String) : IrcCaseMapping :=
  controller.reducer.facts.caseMapping networkId

/-- The nick a network's session holds, or empty before registration. -/
def currentNick (controller : Controller Log) (networkId : String) : String :=
  (controller.currentNicks networkId).getD ""

/-- The display target of the selected conversation. -/
def shownTarget (controller : Controller Log) : String :=
  match controller.selected.bind controller.find with
  | some conv => conv.target
  | none => controller.selectedTarget

/-- Whether the selected conversation is a channel. -/
def isChannel (controller : Controller Log) : Bool :=
  controller.selected.any fun key =>
    (controller.features key.networkId).isChannel controller.shownTarget

/-- The network a verb reads its session from. -/
def surfaceNetwork (controller : Controller Log) : ComposerSurface → String
  | .status => controller.consoleNetwork
  | .conversation => (controller.selected.map ConversationKey.networkId).getD ""

/-- Whether a channel is joined, if the conversation under a key is a channel. -/
def channelJoined (controller : Controller Log) (key : ConversationKey) : Option Bool :=
  ((controller.find key).bind ConversationState.channel).map ChannelState.joined

/-- Whether the selection is a channel that is not joined. -/
def selectedChannelLeft (controller : Controller Log) : Bool :=
  (controller.selected.bind controller.channelJoined) == some false

/-- Hand a line to the session of a network. -/
def write (controller : Controller Log) (networkId : String) (line : ClientLine) :
    Controller Log :=
  { controller with written := controller.written ++ [(networkId, line)] }

/-- Whether a target is a direct message worth keeping. -/
def persistableDirectTarget [Platform] (controller : Controller Log) (networkId target : String) :
    Bool :=
  networkId ≠ "" && target ≠ "" && !(controller.features networkId).isChannel target &&
    !targetLooksLikeService target (controller.features networkId)

/-- Change the closed list. -/
def onClosed (controller : Controller Log) (change : CaseListStore → CaseListStore) :
    Controller Log :=
  controller.onReducer fun reducer =>
    { reducer with
      facts.disk := { reducer.facts.disk with closed := change reducer.facts.disk.closed } }

/-- A direct message the user opened or wrote in is no longer closed. -/
def rememberOpenDirect [Platform] (controller : Controller Log) (networkId target : String) :
    Controller Log :=
  let conv := controller.find (controller.reducer.conversationKey networkId target)
  if controller.persistableDirectTarget networkId target = false ∨
      conv.any ConversationState.isChannel then controller
  else
    let stored := ((conv.map ConversationState.target).filter (· ≠ "")).getD target
    controller.onClosed fun closed =>
      (closed.remove networkId stored (controller.caseMapping networkId)).1

/-- A direct message the user closed is closed on disk. -/
def forgetOpenDirect (controller : Controller Log) (networkId target : String) :
    Controller Log :=
  if networkId = "" ∨ target = "" then controller
  else
    controller.onClosed fun closed =>
      (closed.add networkId target (controller.caseMapping networkId)).1

section Sidebar

/-- A network's place in an order. One it does not name sorts after every one it does. -/
def networkRank (networkId : String) (order : List String) : Nat :=
  order.findIdx (· == networkId)

/-- Channels come first, then direct messages. -/
def groupRank (conv : Option ConversationState) : Nat :=
  if conv.any ConversationState.isChannel then 0 else 2

/-- The order of two display targets, whatever their case. -/
def compareCaseInsensitive [Platform] (left right : String) : Ordering :=
  compare (Platform.toLowercase left) (Platform.toLowercase right)

/-- The order of two rows in the sidebar. -/
def compareRows [Platform] (store : Store) (order : List String)
    (left right : ConversationKey) : Ordering :=
  let shown (key : ConversationKey) : String :=
    ((store[key]?).map ConversationState.target).getD key.normalizedTarget
  (compare (networkRank left.networkId order) (networkRank right.networkId order)).then
    ((compare left.networkId right.networkId).then
      ((compare (groupRank store[left]?) (groupRank store[right]?)).then
        ((compareCaseInsensitive (shown left) (shown right)).then (compareKeys left right))))

/-- Every conversation in the order of the sidebar. With no order given, the networks are
sorted. -/
def sidebarOrderWithNetworks [Platform] (store : Store) (networkOrder : List String) :
    List ConversationKey :=
  let order :=
    if networkOrder = [] then
      (store.keys.map ConversationKey.networkId).dedup.insertionSort (· ≤ ·)
    else networkOrder
  store.keys.insertionSort fun left right => (compareRows store order left right).isLE

/-- The row that takes the selection when another is dropped: the next one of its network,
the previous one, then the next or the previous one of any network. -/
def neighborAfterDrop (ordered : List ConversationKey) (dropping : ConversationKey) :
    Option ConversationKey :=
  match ordered.findIdx? (· == dropping) with
  | none => ordered.getLast?
  | some index =>
      let next := ordered[index + 1]?
      let previous := if index = 0 then none else ordered[index - 1]?
      let inside (key : ConversationKey) : Bool := key.networkId == dropping.networkId
      (next.filter inside).or ((previous.filter inside).or (next.or previous))

end Sidebar

end Controller

end Omairc

import Omairc.Irc.Reducer.State
import Omairc.Irc.Source

/-!
# Facts

The queries over the facts of a network: its features, the user's nicks, mentions,
presence and the authorship of replayed lines, with the claims that keep a line shown
to the user alone out of a direct message.
-/

namespace Omairc.Irc.Reducer

open Omairc.Text

/-- Whether a character counts as part of a nick for mention boundaries. -/
def isIdentifierChar [CharacterClasses] (character : Char) : Bool :=
  CharacterClasses.isAlphabetic character || CharacterClasses.isNumeric character ||
    ['-', '_', '[', ']', '\\', '`', '^', '{', '}', '|', '~'].contains character

/-- Whether a word appears in a body on identifier boundaries. Both are normalized. -/
def containsWord [CharacterClasses] (body word : String) : Bool :=
  let text := body.toList
  let sought := word.toList
  if sought = [] ∨ text.length < sought.length then false
  else
    (List.range (text.length - sought.length + 1)).any fun position =>
      let ends := position + sought.length
      decide ((text.drop position).take sought.length = sought) &&
        (position == 0 || !((text[position - 1]?).any isIdentifierChar)) &&
        (ends == text.length || !((text[ends]?).any isIdentifierChar))

namespace Facts

variable {Disk : Type}

/-- The features of a network, or the default when it never sent any. -/
def isupport (facts : Facts Disk) (networkId : String) : Isupport :=
  (facts.features networkId).getD {}

/-- The case mapping of a network. -/
def caseMapping (facts : Facts Disk) (networkId : String) : IrcCaseMapping :=
  (facts.isupport networkId).features.caseMapping

/-- Case-map an identifier under the mapping of the network. -/
def normalize (facts : Facts Disk) (networkId identifier : String) : String :=
  (facts.caseMapping networkId).normalize identifier

/-- Compare two identifiers under the mapping of the network. -/
def equals (facts : Facts Disk) (networkId left right : String) : Bool :=
  (facts.caseMapping networkId).equals left right

/-- Whether a nick is the current one of the network. -/
def isSelf (facts : Facts Disk) (networkId nick : String) : Bool :=
  (facts.currentNicks networkId).any fun current => facts.equals networkId current nick

/-- Whether a normalized target is a channel of the network. -/
def isChannel (facts : Facts Disk) (networkId normalizedTarget : String) : Bool :=
  (facts.isupport networkId).features.isChannel normalizedTarget

/-- Record that a channel admitted a line only the user can see. -/
def claimChannelContext (facts : Facts Disk) (home : ConversationKey) (isChannel : Bool)
    (msgid : MsgId) (onlyVisibleToYou : Bool) : Facts Disk :=
  if msgid = "" ∨ isChannel = false ∨ onlyVisibleToYou = false then facts
  else
    { facts with
      channelContextMsgids := Function.update facts.channelContextMsgids msgid (some home) }

/-- Drop a claim when the msgid leaves the channel that filed it. -/
def releaseChannelContext (facts : Facts Disk) (home : ConversationKey) (msgid : MsgId) :
    Facts Disk :=
  if msgid = "" then facts
  else if facts.channelContextMsgids msgid = some home then
    { facts with channelContextMsgids := Function.update facts.channelContextMsgids msgid none }
  else facts

/-- Whether a msgid is claimed by a channel of the network, so that a direct message must
not admit it. -/
def channelContextBlocksDm (facts : Facts Disk) (key : ConversationKey) (isChannel : Bool)
    (msgid : MsgId) : Bool :=
  if isChannel ∨ msgid = "" then false
  else (facts.channelContextMsgids msgid).any fun home => home.networkId == key.networkId

/-- Forget every claim on one network. -/
def clearChannelContextNetwork (facts : Facts Disk) (networkId : String) : Facts Disk :=
  { facts with
    channelContextMsgids := fun msgid =>
      (facts.channelContextMsgids msgid).filter fun home => home.networkId ≠ networkId }

/-- Forget every claim that pointed at one conversation. -/
def clearChannelContextHome (facts : Facts Disk) (home : ConversationKey) : Facts Disk :=
  { facts with
    channelContextMsgids := fun msgid =>
      (facts.channelContextMsgids msgid).filter fun claimed => claimed ≠ home }

/-- Whether a channel is in the closed set. -/
def isClosed (facts : Facts Disk) (key : ConversationKey) : Bool := key ∈ facts.closedChannels

/-- Record a nick the network welcomed or the user changed away from. -/
def rememberSelfNick (facts : Facts Disk) (networkId nick : String) : Facts Disk :=
  if networkId = "" ∨ nick = "" then facts
  else
    { facts with
      selfNicks := Function.update facts.selfNicks networkId
        ((facts.selfNicks networkId).insert nick) }

/-- Change the presence of one network. -/
def onPresence (facts : Facts Disk) (networkId : String)
    (change : NetworkPresence → NetworkPresence) : Facts Disk :=
  { facts with
    presence := Function.update facts.presence networkId
      (some (change ((facts.presence networkId).getD ∅))) }

/-- The stored presence of a normalized nick. -/
def presenceOf (facts : Facts Disk) (networkId normalizedNick : String) : NickPresence :=
  ((facts.presence networkId).map fun presence => presence.lookup normalizedNick).getD {}

/-- The stored presence of a nick. -/
def nickPresence (facts : Facts Disk) (networkId nick : String) : NickPresence :=
  if networkId = "" ∨ nick = "" then {}
  else facts.presenceOf networkId (facts.normalize networkId nick)

/-- The account, only when it adds information. -/
def displayAccount (facts : Facts Disk) (networkId nick : String) : String :=
  let account := (facts.nickPresence networkId nick).account
  if account = "" ∨ nick = "" then ""
  else if facts.equals networkId account nick then ""
  else account

/-- Whether an author in a bouncer query batch is a previous nick of the user rather than
the peer. -/
def bouncerQueryOwnLine (facts : Facts Disk) (event : HistoryEvent) (author : String) : Bool :=
  if event.kind ≠ .bouncerPlayback ∨ author = "" then false
  else if facts.isChannel event.conversation.networkId event.conversation.normalizedTarget then
    false
  else !facts.equals event.conversation.networkId author event.target

/-- Whether an author in a bouncer channel batch is one of the user's nicks. -/
def bouncerChannelOwnLine (facts : Facts Disk) (event : HistoryEvent) (author : String) : Bool :=
  let network := event.conversation.networkId
  if event.kind ≠ .bouncerPlayback ∨ author = "" then false
  else if !facts.isChannel network event.conversation.normalizedTarget then false
  else (facts.selfNicks network).any fun own => facts.equals network own author

/-- Whether a batch holds a line from the peer. -/
def replayFromPeer (facts : Facts Disk) (event : HistoryEvent) : Bool :=
  let network := event.conversation.networkId
  let bouncerQuery := event.kind == .bouncerPlayback &&
    !facts.isChannel network event.conversation.normalizedTarget
  event.lines.any fun line =>
    line.author ≠ "" &&
      if bouncerQuery then !facts.bouncerQueryOwnLine event line.author
      else !facts.isSelf network line.author

/-- Whether every line carries a msgid the log already stores. -/
def replayOnlyRepeatsPersistedIds [Storage Disk] (facts : Facts Disk) (event : HistoryEvent) :
    Bool :=
  if facts.log = false then false
  else if event.lines = [] ∨ event.lines.any (fun line => line.msgid = "") then false
  else
    let network := event.conversation.networkId
    let stored := Storage.readTail facts.disk network event.conversation.normalizedTarget
      (facts.caseMapping network) maxMessages
    event.lines.all fun line => stored.any fun saved => saved.msgid = line.msgid

variable [CharacterClasses]

/-- Whether a body names the current nick as a word. -/
def isNickMention (facts : Facts Disk) (networkId body : String) : Bool :=
  (facts.currentNicks networkId).any fun current =>
    containsWord (facts.normalize networkId body) (facts.normalize networkId current)

/-- Whether a body names one of the highlight words of the network. -/
def isHighlightHit (facts : Facts Disk) (networkId body : String) : Bool :=
  ((facts.highlightWords networkId).getD []).any fun word =>
    containsWord (facts.normalize networkId body) (facts.normalize networkId word)

/-- A nick or highlight hit. -/
def isMention (facts : Facts Disk) (networkId body : String) : Bool :=
  facts.isNickMention networkId body || facts.isHighlightHit networkId body

/-- Whether a transcript row is another author's chat line that mentions the user. -/
def transcriptHighlight (facts : Facts Disk) (networkId author : String) (kind : MessageKind)
    (body : String) : Bool :=
  if kind ≠ .message ∧ kind ≠ .action then false
  else if facts.isSelf networkId author then false
  else facts.isMention networkId body

end Facts

/-- Whether a normalized nick is a member of any channel of the network. -/
def isVisible (store : Store) (networkId normalizedNick : String) : Bool :=
  store.toList.any fun (_, conv) =>
    conv.key.networkId == networkId &&
      conv.channel.any fun channel => channel.members.contains normalizedNick

end Omairc.Irc.Reducer

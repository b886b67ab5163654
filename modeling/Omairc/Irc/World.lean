import Omairc.Irc.CommandBuilder
import Omairc.Irc.PrefixChanges
import Omairc.Irc.ServerFeatures
import Omairc.Session.Events

/-!
# Transcript rows and translated events

The rows of a transcript, the keys conversations are filed under, and the translated
facts that the reducer folds into them.
-/

namespace Omairc.Irc

open Omairc.Text

/-- An IRCv3 `msgid`. Empty when the server sent none. -/
abbrev MsgId := String

/-- A conversation: a network and a normalized target. -/
structure ConversationKey where
  networkId : String
  normalizedTarget : String
  deriving DecidableEq

/-- The kind of one transcript row. -/
inductive MessageKind
  | message
  | notice
  | action
  | event
  | error
  | whois
  deriving DecidableEq

/-- Whether a row came from the live stream or from a replay batch. -/
inductive Origin
  | live
  | replay
  deriving DecidableEq

/-- The zero instant: an event line has no time and carries this value. -/
def zeroTime : Instant := -8334601228800 * 10 ^ 9

/-- One transcript row. -/
structure Message where
  kind : MessageKind
  author : String := ""
  body : String
  time : Instant := zeroTime
  serverTime : Option Instant := none
  msgid : MsgId := ""
  origin : Origin := .live
  mentioned : Bool := false
  collapsible : Bool := false
  sequence : Int := 0
  onlyVisibleToYou : Bool := false
  deriving DecidableEq

/-- Whether a replayed line is a chat line, an emote, or a join, part, quit or nick. -/
inductive MessageKindTag
  | chat
  | emote
  | event
  deriving DecidableEq

/-- One line inside a replay batch. -/
structure ReplayLine where
  author : String := ""
  body : String
  timestamp : Instant
  kind : MessageKindTag := .chat
  msgid : MsgId := ""
  serverTime : Option Instant := none
  onlyVisibleToYou : Bool := false

/-- One completed replay batch. -/
structure HistoryEvent where
  conversation : ConversationKey
  target : String
  lines : List ReplayLine
  kind : Session.HistoryKind := .chat
  /-- Whether it is a solicited page of older lines. -/
  olderPage : Bool := false

/-- Why a conversation is being touched. -/
inductive IrcConversationCause
  | quietSend
  | inboundSelf
  | userOpen
  | channelState
  | inboundOther
  | restore

/-- Whether a cause may create a conversation. -/
def IrcConversationCause.inserts (cause : IrcConversationCause)
    (targetIsChannel targetLooksLikeService : Bool) : Bool :=
  match cause with
  | .userOpen => !targetIsChannel
  | .channelState => targetIsChannel
  | .inboundOther => targetIsChannel || !targetLooksLikeService
  | .restore => !targetIsChannel && !targetLooksLikeService
  | .quietSend | .inboundSelf => false

/-- A set of rank letters, one bit for each of `a` to `z`. -/
abbrev IrcPrefixSet := UInt32

/-- The bit of a rank letter. Other bytes have none. -/
def bitFor (letter : UInt8) : UInt32 :=
  if isAsciiLowercase letter then 1 <<< (letter - 97).toUInt32 else 0

/-- A rank set with one change applied. -/
def applyChange (ranks : IrcPrefixSet) (change : IrcPrefixChange) : IrcPrefixSet :=
  let bit := bitFor change.letter
  if bit = 0 then ranks else if change.grant then ranks ||| bit else ranks &&& ~~~bit

/-- One NAMES entry. -/
structure Name where
  nick : String
  ranks : IrcPrefixSet

/-- An away notice and its reason. -/
structure Away where
  reason : String := ""

/-- A delivered chat line. -/
structure ChatEvent where
  conversation : ConversationKey
  author : String
  body : String
  timestamp : Instant
  serverTime : Option Instant := none
  target : String
  msgid : MsgId := ""
  onlyVisibleToYou : Bool := false

/-- One translated fact. -/
inductive Event
  | welcome (networkId currentNick : String)
  | message (line : ChatEvent)
  | notice (line : ChatEvent)
  | action (line : ChatEvent)
  | join (networkId channel nick : String) (account realname : Option String)
  | part (networkId channel nick : String)
  | quit (networkId nick : String)
  | nick (networkId oldNick newNick : String)
  | kick (networkId channel target author reason : String)
  | topic (networkId channel topic : String) (keepExistingTopic : Bool)
  | names (networkId channel : String) (names : List Name) (complete : Bool)
  | mode (networkId target author mode : String) (arguments : List String)
  | away (networkId nick : String) (away : Option Away) (realname : Option String)
      (realnameOnly : Bool)
  | selfAway (networkId : String) (away : Bool)
  | memberMetadata (networkId nick key value : String)
  | account (networkId nick account : String)
  | typing (conversation : ConversationKey) (nick : String) (phase : TypingPhase)
      (receivedAt : Instant)
  | history (batch : HistoryEvent)
  | whoisTranscript (destination : ConversationKey) (formattedBody : String)
  | channelError (networkId channel body : String)
  | nickFacts (networkId nick : String) (realname : Option String) (serverOperator : Option Bool)

/-- A replay line the reducer kept. -/
structure KeptReplay where
  networkId : String
  target : String
  serverTime : Instant

/-- A bouncer query whose splice kept a line from the user. -/
structure RememberedQuery where
  networkId : String
  target : String

/-- A mention handed to the controller. -/
structure MentionArrival where
  author : String
  body : String
  networkId : String
  target : String
  msgid : MsgId

/-- The kinds of inbox items the reducer raises. -/
inductive InboxKind
  | mention
  | highlight
  | direct
  | kick

/-- An inbox item handed to the controller. -/
structure InboxArrival where
  kind : InboxKind
  actor : String
  body : String
  networkId : String
  target : String
  msgid : MsgId

end Omairc.Irc

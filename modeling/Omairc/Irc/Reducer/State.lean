import Mathlib.Data.Finset.Basic
import Omairc.Irc.MembershipNoise
import Omairc.Irc.NickPresence

/-!
# The state of the reducer

One transcript with its live state, the channel half of it, and the facts about each
network that events are folded against.
-/

namespace Omairc.Irc.Reducer

open Omairc.Text

/-- The transcript cap of a conversation. -/
@[irreducible] def maxMessages : Nat := 2000

/-- How long a NAMES sync may run before it is released, in nanoseconds. -/
def staleNamesSync : Int := 30000 * 10 ^ 6

/-- One channel member as stored. -/
structure MemberState where
  displayNick : String
  ranks : IrcPrefixSet := 0

/-- A logical transcript position: the one a replay batch is spliced at. -/
structure TranscriptAnchor where
  sequence : Int

/-- The channel half of a conversation. A direct message has none. -/
structure ChannelState where
  members : StringMap MemberState := ∅
  topic : String := ""
  joined : Bool := false
  namesSyncing : Bool := false
  namesSyncStarted : Option Instant := none
  historyAnchor : Option TranscriptAnchor := none

/-- One conversation transcript with its live state. -/
structure ConversationState where
  key : ConversationKey
  /-- The display target: the channel name, or the current nick of the peer. -/
  target : String
  messages : List Message := []
  typing : StringMap TypingHint := ∅
  unread : Nat := 0
  mentions : Nat := 0
  unreadMark : Option Int := none
  readMarker : Option Instant := none
  muted : Bool := false
  /-- Rows trimmed off the head, so that an absolute position less this is an index. -/
  trimmed : Nat := 0
  messageIds : Finset MsgId := ∅
  spliceEpoch : Nat := 0
  nextSequence : Int := 0
  /-- Drops an overfull transcript from the tail after an older page lands. -/
  historyPageCapTail : Bool := false
  channel : Option ChannelState := none

/-- Whether a conversation is a channel. -/
def ConversationState.isChannel (conv : ConversationState) : Bool := conv.channel.isSome

/-- Change the channel half of a conversation, if it has one. -/
def ConversationState.onChannel (conv : ConversationState)
    (change : ChannelState → ChannelState) : ConversationState :=
  { conv with channel := conv.channel.map change }

/-- The history anchor of a conversation, if it has one. -/
def ConversationState.anchor (conv : ConversationState) : Option Int :=
  conv.channel.bind fun channel => channel.historyAnchor.map TranscriptAnchor.sequence

/-- Move the history anchor, if there is one. -/
def ConversationState.moveAnchor (conv : ConversationState) (move : Int → Int) :
    ConversationState :=
  conv.onChannel fun channel =>
    { channel with historyAnchor := channel.historyAnchor.map fun anchor =>
        { sequence := move anchor.sequence } }

/-- Drop the history anchor. -/
def ConversationState.dropAnchor (conv : ConversationState) : ConversationState :=
  conv.onChannel fun channel => { channel with historyAnchor := none }

/-- Keys are ordered by network, then by target. -/
def compareKeys : ConversationKey → ConversationKey → Ordering :=
  compareLex (compareOn ConversationKey.networkId) (compareOn ConversationKey.normalizedTarget)

instance : Std.TransCmp compareKeys :=
  inferInstanceAs (Std.TransCmp (compareLex _ _))

instance : Std.LawfulEqCmp compareKeys where
  eq_of_compare := by
    intro first second same
    have parts : compare first.networkId second.networkId = .eq ∧
        compare first.normalizedTarget second.normalizedTarget = .eq := by
      simpa [compareKeys, compareLex, compareOn, Ordering.then_eq_eq] using same
    obtain ⟨network, target⟩ := parts
    cases first
    cases second
    rw [Std.LawfulEqCmp.compare_eq_iff_eq] at network target
    simp_all

/-- A map with conversations as keys. -/
abbrev KeyMap (Value : Type) := Std.TreeMap ConversationKey Value compareKeys

/-- Every conversation, under its key. -/
abbrev Store := KeyMap ConversationState

/-- The features of one network: what addresses and case mapping are read with, and what
MODE lines are read with. -/
structure Isupport where
  features : IrcServerFeatures := {}
  modes : ModeFeatures := .new

/-- One persisted transcript entry. -/
structure TranscriptLine where
  timestamp : Instant
  author : String
  kind : String
  body : String
  msgid : String
  onlyVisibleToYou : Bool
  deriving DecidableEq

/-- The storage a reducer is wired to: the transcript log, with one stream for each
network and target, and the list of closed channels that survives a welcome. -/
class Storage (Disk : Type) where
  /-- Store one line at the end. -/
  append : Disk → String → String → IrcCaseMapping → TranscriptLine → Disk
  /-- Store lines at the front, oldest first. -/
  prepend : Disk → String → String → IrcCaseMapping → List TranscriptLine → Disk
  /-- The most recent lines, oldest first, up to a number of them. -/
  readTail : Disk → String → String → IrcCaseMapping → Nat → List TranscriptLine
  /-- Whether a target is closed on a network under a mapping. -/
  contains : Disk → String → String → IrcCaseMapping → Bool
  /-- Record a target as closed. -/
  add : Disk → String → String → IrcCaseMapping → Disk
  /-- Forget a closed target. -/
  remove : Disk → String → String → IrcCaseMapping → Disk

/-- The Unicode classes that word boundaries are read with. -/
class CharacterClasses where
  isAlphabetic : Char → Bool
  isNumeric : Char → Bool

/-- What the reducer knows about the networks it folds events for. -/
structure Facts (Disk : Type) where
  disk : Disk
  features : String → Option Isupport := fun _ => none
  currentNicks : String → Option String := fun _ => none
  selfNicks : String → List String := fun _ => []
  highlightWords : String → Option (List String) := fun _ => none
  presence : String → Option NetworkPresence := fun _ => none
  selfAway : Finset String := ∅
  selected : Option ConversationKey := none
  windowInactive : Bool := false
  membershipNoise : MembershipNoise := .folded
  mutedKeys : Finset ConversationKey := ∅
  /-- Whether a transcript log is wired. -/
  log : Bool := false
  /-- Whether a closed list is wired. -/
  closedStore : Bool := false
  pendingPlayback : KeyMap HistoryEvent := ∅
  keptPlaybackChannel : Finset ConversationKey := ∅
  keptReplay : List KeptReplay := []
  rememberedQueries : List RememberedQuery := []
  queryRestorePending : Finset String := ∅
  closedChannels : Finset ConversationKey := ∅
  mentionArrival : Option MentionArrival := none
  inboxArrival : Option InboxArrival := none
  /-- The msgids a channel filed as visible to the user alone. A direct message must
  refuse them while the claim holds. -/
  channelContextMsgids : MsgId → Option ConversationKey := fun _ => none

end Omairc.Irc.Reducer

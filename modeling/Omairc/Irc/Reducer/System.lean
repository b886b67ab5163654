import Omairc.Irc.Reducer.Handlers
import Omairc.Semantics.Execution

/-!
# Runs of the reducer

Every call its owner can make, as one step. The storage is shared with the rest of the
client, so what it holds may change between any two calls.
-/

namespace Omairc.Irc.Reducer

open Omairc.Text

variable {Disk : Type}

/-- One call of the owner of a reducer. -/
inductive Call (Disk : Type)
  | apply (event : Event) (now : Instant)
  | ensureConversation (key : ConversationKey) (displayTarget : String)
      (cause : IrcConversationCause)
  | dropDirectMessage (key : ConversationKey)
  | dropChannel (key : ConversationKey)
  | noteClosed (key : ConversationKey)
  | clearClosed (key : ConversationKey)
  | markChannelLeft (key : ConversationKey)
  | forgetNetwork (networkId : String)
  | clearMessages (key : ConversationKey)
  | setMuted (key : ConversationKey) (muted : Bool)
  | markSelected (key : ConversationKey)
  | markRead (key : ConversationKey)
  | markAllRead
  | markHistoryPageCapTail (key : ConversationKey)
  | clearHistoryPageCapTail (key : ConversationKey)
  | clearSelection
  | setMembershipNoise (noise : MembershipNoise)
  | setWindowActive (active : Bool)
  | setConversationLog (wired : Bool)
  | setClosedPersistence
  | setServerFeatures (networkId : String) (features : Isupport)
  | setHighlightWords (networkId : String) (words : List String)
  | releaseStaleNamesSync (key : Option ConversationKey) (now : Instant)
  | clearTypingFacts (networkId : String)
  | clearPresenceFacts (networkId : String) (away metadata : Bool)
  | applyServerReadMarker (key : ConversationKey) (marker : Option Instant)
  | releasePendingQueryPlayback (networkId : String)
  | takeMentionArrival
  | takeInboxArrival
  | takeRememberedQueries
  | takeKeptReplay
  /-- The storage changed under the reducer. -/
  | storageChanged (disk : Disk)

namespace EventReducer

variable [Platform] [CharacterClasses] [Storage Disk]

/-- What one call leaves of the reducer. -/
def perform (reducer : EventReducer Disk) : Call Disk → EventReducer Disk
  | .apply event now => reducer.apply event now
  | .ensureConversation key displayTarget cause => (reducer.ensureKey key displayTarget cause).1
  | .dropDirectMessage key => (reducer.dropDirectMessage key).1
  | .dropChannel key => (reducer.dropChannel key).1
  | .noteClosed key => reducer.noteClosed key
  | .clearClosed key => reducer.clearClosed key
  | .markChannelLeft key => (reducer.markChannelLeft key).1
  | .forgetNetwork networkId => reducer.forgetNetwork networkId
  | .clearMessages key => reducer.clearMessages key
  | .setMuted key muted => reducer.setMuted key muted
  | .markSelected key => reducer.markSelected key
  | .markRead key => reducer.markRead key
  | .markAllRead => reducer.markAllRead
  | .markHistoryPageCapTail key => reducer.markHistoryPageCapTail key
  | .clearHistoryPageCapTail key => reducer.clearHistoryPageCapTail key
  | .clearSelection => reducer.clearSelection
  | .setMembershipNoise noise => reducer.setMembershipNoise noise
  | .setWindowActive active => reducer.setWindowActive active
  | .setConversationLog wired => reducer.setConversationLog wired
  | .setClosedPersistence => reducer.setClosedPersistence
  | .setServerFeatures networkId features => reducer.setServerFeatures networkId features
  | .setHighlightWords networkId words => reducer.setHighlightWords networkId words
  | .releaseStaleNamesSync key now => reducer.releaseStaleNamesSync key now
  | .clearTypingFacts networkId => reducer.clearTypingFacts networkId
  | .clearPresenceFacts networkId away metadata =>
      reducer.clearPresenceFacts networkId away metadata
  | .applyServerReadMarker key marker => reducer.applyServerReadMarker key marker
  | .releasePendingQueryPlayback networkId => (reducer.releasePendingQueryPlayback networkId).1
  | .takeMentionArrival => reducer.takeMentionArrival.1
  | .takeInboxArrival => reducer.takeInboxArrival.1
  | .takeRememberedQueries => reducer.takeRememberedQueries.1
  | .takeKeptReplay => reducer.takeKeptReplay.1
  | .storageChanged disk => { reducer with facts.disk := disk }

/-- One call as a step. Every call is possible in every state. -/
def step (reducer : EventReducer Disk) (call : Call Disk) : Option (EventReducer Disk) :=
  some (reducer.perform call)

end EventReducer

/-- The reducer as it starts over a storage. -/
def start (disk : Disk) : EventReducer Disk := { facts := { disk } }

end Omairc.Irc.Reducer

import Omairc.Controller.Intents
import Omairc.Semantics.Execution

/-!
# Runs of the controller

Every intent of the user and every delivery of a session, as one step. A session delivers
only while the controller has it.
-/

namespace Omairc

open Omairc.Irc Omairc.Irc.Reducer Omairc.Storage Omairc.Text

variable {Log : Type}

namespace Controller

/-- One intent of the user, or one change of the shell around the controller. -/
inductive Intent
  | revealConversation (networkId target : String)
  | selectConversation (networkId target : String)
  | openStatus (networkId : String)
  | leaveStatus
  | openDirect (nick : String)
  | query (surface : ComposerSurface) (link : Link) (nick text : String) (now : Instant)
  | closeSelected
  | closeConversation (networkId target : String)
  | joinChannel (link : Link) (networkId channel : String)
  | join (surface : ComposerSurface) (link : Link) (argument : String)
  | part (surface : ComposerSurface) (link : Link) (channel : String)
  | say (link : Link) (text : String) (now : Instant)
  | action (link : Link) (text : String) (now : Instant)
  | send (link : Link) (networkId target text : String) (kind : Outgoing) (now : Instant)
  | mute (networkId target : String) (muted : Bool)
  | clear (networkId target : String)
  | markAllRead
  | setWindowActive (active : Bool)
  | setMembershipNoise (noise : MembershipNoise)
  | setHighlightWords (networkId : String) (words : List String)
  | setNetworkOrder (order : List String)
  | requestOlderHistory
  | followEnd
  | restoreDirects (networkId : String) (targets : List String)
  | createSession (networkId : String) (words : List String)
  | discardSession (networkId : String)
  | restartDemo (networkId : String) (words : List String)
  | forgetNetwork (networkId : String)
  | restart

/-- One delivery of a session. -/
inductive Delivery
  | registered (nick : String)
  | isupport (message : IrcMessage)
  | endMotd (targets : Option (List String))
  | translated (link : Link) (event : Event)
  | discovered (name : String) (requested : Bool)
  | emptyDirect (target : String)
  | capabilities (away metadata typing : Bool)
  | readMarker (target : String) (marker : Option Instant)
  | olderPageFailed (target : String)

/-- One step. -/
inductive Label
  | intent (intent : Intent)
  | deliver (networkId : String) (delivery : Delivery) (now : Instant)

variable [Platform] [CharacterClasses] [TranscriptLog Log]

/-- What an intent leaves of the controller. -/
def intend (controller : Controller Log) : Intent → Controller Log
  | .revealConversation networkId target => controller.revealConversation networkId target
  | .selectConversation networkId target => controller.select networkId target
  | .openStatus networkId => controller.openStatus networkId
  | .leaveStatus => controller.leaveStatus
  | .openDirect nick => (controller.openDirect nick).1
  | .query surface link nick text now =>
      (controller.dispatchQuery link (controller.surfaceNetwork surface) nick text now).1
  | .closeSelected => controller.closeSelected.1
  | .closeConversation networkId target => (controller.closeConversation networkId target).1
  | .joinChannel link networkId channel => (controller.joinChannel link networkId channel).1
  | .join surface link argument =>
      (controller.dispatchJoin link (controller.surfaceNetwork surface) argument).1
  | .part surface link channel =>
      (controller.dispatchPart link (controller.surfaceNetwork surface) channel).1
  | .say link text now => (controller.sendSelectedMessage link text now).1
  | .action link text now => (controller.dispatchAction link text now).1
  | .send link networkId target text kind now =>
      (controller.quietSend link networkId target text kind now).1
  | .mute networkId target muted => (controller.applyMute networkId target muted).1
  | .clear networkId target =>
      controller.onReducer fun reducer =>
        reducer.clearMessages (reducer.conversationKey networkId target)
  | .markAllRead => controller.onReducer EventReducer.markAllRead
  | .setWindowActive active =>
      controller.onReducer fun reducer =>
        match controller.selected with
        | some key =>
            if active then (reducer.setWindowActive active).markRead key
            else reducer.setWindowActive active
        | none => reducer.setWindowActive active
  | .setMembershipNoise noise => controller.onReducer (·.setMembershipNoise noise)
  | .setHighlightWords networkId words => controller.onReducer (·.setHighlightWords networkId words)
  | .setNetworkOrder networkOrder => { controller with networkOrder }
  | .requestOlderHistory =>
      controller.onReducer fun reducer =>
        (controller.selected.map reducer.markHistoryPageCapTail).getD reducer
  | .followEnd =>
      controller.onReducer fun reducer =>
        (controller.selected.map reducer.clearHistoryPageCapTail).getD reducer
  | .restoreDirects networkId targets =>
      if networkId ∈ controller.sessions then controller.restoreOpenDirects networkId targets
      else controller
  | .createSession networkId words => controller.createSession networkId words
  | .discardSession networkId => controller.discardSession networkId
  | .restartDemo networkId words => controller.restartDemo networkId words
  | .forgetNetwork networkId => controller.forgetNetwork networkId
  | .restart => controller.restart

/-- What a delivery leaves of the controller. -/
def deliver (controller : Controller Log) (networkId : String) (now : Instant) :
    Delivery → Controller Log
  | .registered nick => controller.onRegistered networkId nick now
  | .isupport message => controller.applyIsupport networkId message
  | .endMotd targets => controller.endMotd networkId targets
  | .translated link event => controller.handleEvent link (controller.address event) now
  | .discovered name requested => controller.noteDiscoveredTarget networkId name requested
  | .emptyDirect target => controller.dropEmptyDirect networkId target
  | .capabilities away metadata typing =>
      controller.onReducer fun reducer =>
        let cleared :=
          if away ∨ metadata then reducer.clearPresenceFacts networkId away metadata else reducer
        if typing then cleared.clearTypingFacts networkId else cleared
  | .readMarker target marker =>
      controller.onReducer fun reducer =>
        reducer.applyServerReadMarker (reducer.conversationKey networkId target) marker
  | .olderPageFailed target =>
      controller.onReducer fun reducer =>
        reducer.clearHistoryPageCapTail (reducer.conversationKey networkId target)

/-- Whether a session may deliver something: an event belongs to the network of the
session. -/
def Delivery.fits (networkId : String) : Delivery → Bool
  | .translated _ event => event.networkId == networkId
  | _ => true

/-- One step of the controller. -/
def step (controller : Controller Log) : Label → Option (Controller Log)
  | .intent intent => some (controller.intend intent)
  | .deliver networkId delivery now =>
      if networkId ∈ controller.sessions ∧ delivery.fits networkId then
        some (controller.deliver networkId now delivery)
      else none

end Controller

end Omairc

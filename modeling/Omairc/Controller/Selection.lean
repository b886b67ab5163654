import Omairc.Controller.State

/-!
# The selection intents

Which conversation or console the transcript shows, what the user opens and closes, and the
neighbour that takes the selection of a dropped row.
-/

namespace Omairc

open Omairc.Irc Omairc.Irc.Reducer Omairc.Storage Omairc.Text

variable {Log : Type}

namespace Controller

/-- Select a conversation and leave the console. -/
def select (controller : Controller Log) (networkId target : String) : Controller Log :=
  if networkId = "" ∨ target = "" then controller
  else
    let key := controller.reducer.conversationKey networkId target
    let reducer :=
      match controller.selected with
      | some previous =>
          if previous ≠ key then controller.reducer.clearHistoryPageCapTail previous
          else controller.reducer
      | none => controller.reducer
    { controller with
      consoleNetwork := networkId
      consoleOpen := false
      selected := some key
      selectedTarget := target
      reducer := reducer.markSelected key }

/-- Drop the selection. -/
def clearSelected (controller : Controller Log) : Controller Log :=
  { controller with
    selected := none
    selectedTarget := ""
    reducer := controller.reducer.clearSelection }

/-- Select the console of a network. -/
def openStatus (controller : Controller Log) (networkId : String) : Controller Log :=
  if networkId = "" then controller
  else { controller with consoleNetwork := networkId, consoleOpen := true }

/-- Leave the console for the selected conversation. -/
def leaveStatus (controller : Controller Log) : Controller Log :=
  { controller with consoleOpen := false }

section Opening

variable [Platform] [CharacterClasses] [TranscriptLog Log]

/-- Create the conversation of a target when its cause may insert one, and tell whether it
exists. -/
def ensureConversation (controller : Controller Log) (networkId target : String)
    (cause : IrcConversationCause) : Controller Log × Bool :=
  let key := controller.reducer.conversationKey networkId target
  let (reducer, exists_) := controller.reducer.ensureKey key target cause
  ({ controller with reducer }, exists_)

/-- Open or create a conversation and select it. -/
def revealConversation (controller : Controller Log) (networkId target : String) :
    Controller Log :=
  if networkId = "" ∨ target = "" then controller
  else if (controller.find (controller.reducer.conversationKey networkId target)).isSome then
    controller.select networkId target
  else
    let (opened, exists_) := controller.ensureConversation networkId target .userOpen
    if exists_ then (opened.rememberOpenDirect networkId target).select networkId target else opened

/-- Open a direct message on a network as the user asked, and select it. -/
def openQuery (controller : Controller Log) (networkId nick : String) : Controller Log × Bool :=
  let (opened, exists_) := controller.ensureConversation networkId nick .userOpen
  if exists_ then ((opened.rememberOpenDirect networkId nick).select networkId nick, true)
  else (opened, false)

/-- Open a direct message on the network of the selection. -/
def openDirect (controller : Controller Log) (nick : String) : Controller Log × Bool :=
  match controller.selected with
  | none => (controller, false)
  | some key => if nick = "" then (controller, false) else controller.openQuery key.networkId nick

/-- Open a channel the user just joined, and select it. An explicit join brings a closed
channel back. -/
def openJoinedChannel (controller : Controller Log) (networkId channel : String) :
    Controller Log :=
  if networkId = "" ∨ channel = "" then controller
  else
    let key := controller.reducer.conversationKey networkId channel
    let (opened, exists_) :=
      (controller.onReducer fun reducer => reducer.clearClosed key).ensureConversation networkId
        channel .channelState
    if exists_ then opened.select networkId channel else opened

end Opening

section Closing

/-- Mark a channel left in the reducer. -/
def markChannelLeft (controller : Controller Log) (networkId channel : String) :
    Controller Log :=
  if networkId = "" ∨ channel = "" then controller
  else
    controller.onReducer fun reducer =>
      (reducer.markChannelLeft (reducer.conversationKey networkId channel)).1

/-- Take a conversation out of the reducer, with its mute. -/
def dropRow (controller : Controller Log) (key : ConversationKey) : Controller Log :=
  controller.onReducer fun reducer =>
    if (controller.find key).any ConversationState.isChannel then
      ((reducer.setMuted key false).dropChannel key).1
    else ((reducer.setMuted key false).dropDirectMessage key).1

/-- The row that takes the selection when another is dropped. -/
def neighbor [Platform] (controller : Controller Log) (key : ConversationKey) :
    Option ConversationKey :=
  neighborAfterDrop
    (sidebarOrderWithNetworks controller.reducer.conversations controller.networkOrder) key

/-- Remove a conversation's row. Its neighbour takes the selection when the row had it, and
the selection is cleared when there is none. -/
def dropAndReselect [Platform] (controller : Controller Log) (key : ConversationKey) :
    Controller Log :=
  let dropped := controller.dropRow key
  if controller.selected = some key then
    match controller.neighbor key with
    | some next =>
        dropped.select next.networkId
          (((dropped.find next).map ConversationState.target).getD next.normalizedTarget)
    | none => dropped.clearSelected
  else dropped

/-- Dismiss a channel row by its name, and tell whether there was one. -/
def dismissChannel [Platform] (controller : Controller Log) (networkId channel : String) :
    Controller Log × Bool :=
  let key := controller.reducer.conversationKey networkId channel
  if networkId = "" ∨ channel = "" then (controller, false)
  else if (controller.find key).any ConversationState.isChannel then
    (controller.dropAndReselect key, true)
  else (controller, false)

/-- Close one row. A channel closes only once it is left, and a JOIN still in flight must
not reopen it. A direct message is dropped. -/
def closeKey [Platform] [TranscriptLog Log] (controller : Controller Log)
    (key : ConversationKey) : Controller Log × Bool :=
  match (controller.find key).filter ConversationState.isChannel with
  | some conv =>
      if controller.channelJoined key ≠ some false then (controller, false)
      else
        let display := if conv.target = "" then key.normalizedTarget else conv.target
        ({ controller with
            cancelledJoins := insert key controller.cancelledJoins
            reducer := controller.reducer.noteClosed key }).dismissChannel key.networkId display
  | none =>
      let display :=
        (((controller.find key).map ConversationState.target).filter (· ≠ "")).getD
          key.normalizedTarget
      ((controller.forgetOpenDirect key.networkId display).dropAndReselect key, true)

/-- Close what the user has selected. -/
def closeSelected [Platform] [TranscriptLog Log] (controller : Controller Log) :
    Controller Log × Bool :=
  match controller.selected with
  | none => (controller, false)
  | some key => controller.closeKey key

/-- Close the named conversation, selected or not. -/
def closeConversation [Platform] [TranscriptLog Log] (controller : Controller Log)
    (networkId target : String) : Controller Log × Bool :=
  let key := controller.reducer.conversationKey networkId target
  if networkId = "" ∨ target = "" then (controller, false)
  else if (controller.find key).isNone then (controller, false)
  else controller.closeKey key

end Closing

end Controller

end Omairc

import Omairc.Irc.Reducer.Conversations

/-!
# The server read marker

A newer marker clears the badges it covers: the unread and mention counts are taken again
over the whole transcript.
-/

namespace Omairc.Irc.Reducer

open Omairc.Text

variable {Disk : Type}

/-- The time a row is read by under the marker: its server time, or the stored time of a
replayed row that has none. -/
def readTime (message : Message) : Option Instant :=
  message.serverTime.or
    (if message.origin = .replay ∧ message.time ≠ zeroTime then some message.time else none)

/-- Whether a row of this kind counts as unread. -/
def MessageKind.counted : MessageKind → Bool
  | .message | .action | .notice => true
  | _ => false

/-- The newest server time of a chat line, in whole milliseconds. -/
def latestServerMessageTime (conv : ConversationState) : Option Instant :=
  conv.messages.reverse.findSome? fun message =>
    message.serverTime.bind fun serverTime =>
      if MessageKind.counted message.kind then some (readMarkerTimeMillis serverTime) else none

variable [CharacterClasses]

/-- Count one row against the stored marker. -/
def recountRow (facts : Facts Disk) (key : ConversationKey) (conv : ConversationState)
    (message : Message) : ConversationState :=
  let network := key.networkId
  if MessageKind.counted message.kind = false then conv
  else if facts.isSelf network message.author then conv
  else if covered conv.readMarker (readTime message) then conv
  else
    let nickHit := facts.isNickMention network message.body
    let highlightHit := !nickHit && facts.isHighlightHit network message.body
    let reason := classifyChatLine conv.isChannel message.kind false nickHit highlightHit
    countUnread conv (facts.selected == some key) (decide (message.origin = .live))
      facts.windowInactive message.sequence reason

/-- Count the unread rows and mentions from the start of the transcript. -/
def recountUnreadFromReadMarker (facts : Facts Disk) (conv : ConversationState)
    (key : ConversationKey) : ConversationState :=
  conv.messages.foldl (recountRow facts key)
    { conv with unread := 0, mentions := 0, unreadMark := none }

namespace EventReducer

/-- Store a newer marker and count again. A marker that is not newer, or none, changes
nothing. -/
def applyServerReadMarker (reducer : EventReducer Disk) (key : ConversationKey)
    (marker : Option Instant) : EventReducer Disk :=
  match marker with
  | none => reducer
  | some time =>
      let marker := readMarkerTimeMillis time
      reducer.modify key fun conv =>
        if (conv.readMarker).any fun current => !readMarkerTimeAfter marker current then conv
        else
          recountUnreadFromReadMarker reducer.facts { conv with readMarker := some marker } key

end EventReducer

end Omairc.Irc.Reducer

import Mathlib.Data.List.Sort
import Mathlib.Logic.Function.Basic
import Omairc.Irc.Message
import Omairc.Platform

/-!
# The channel list

The requests of `/list`, one for each network, with their rows and idle timers, and the
overlay that shows one of them. A LIST answer streams back as 321, one 322 for each channel
and 323, and names no request.
-/

namespace Omairc.ChannelList

open Omairc.Irc Omairc.Text

/-- The cap on cached rows. -/
def channelListMaxRows : Nat := 8000

/-- The text that a timed-out request leaves. -/
def channelListTimeoutText : String := "Channel list timed out. Try /list again."

/-- One channel as a LIST answer gives it. -/
structure ListedChannel where
  name : String
  users : Nat := 0
  topic : String := ""
  deriving DecidableEq

/-- What a request did: it started a load, found one running, or reused a finished one. -/
inductive RequestKind
  | start
  | loading
  | cached

/-- The request of one network. -/
structure ChannelListState where
  mask : String := ""
  rows : List ListedChannel := []
  complete : Bool := false
  loading : Bool := false
  error : String := ""
  pendingMask : Option String := none
  /-- The end of a timed-out load is still to come, so the next one is swallowed. -/
  drainTimedOutEnd : Bool := false

/-- The requests of every network. A timer is the generation it was armed under. -/
structure ChannelListRequests where
  states : String → Option ChannelListState := fun _ => none
  timers : String → Option Nat := fun _ => none
  generation : Nat := 0
  /-- The timers that fired, oldest first. -/
  expiries : List (String × Nat) := []

/-- What the end of a load did. -/
structure FinishResult where
  completed : Bool := false
  pendingMask : Option String := none

section Rows

variable [Platform]

/-- Whether two masks are the same after trimming, whatever their case. -/
def sameMask (left right : String) : Bool :=
  Platform.toLowercase (trim left) == Platform.toLowercase (trim right)

/-- Whether two channels are the same, whatever their case. -/
def sameChannel (left right : ListedChannel) : Bool :=
  Platform.toLowercase left.name == Platform.toLowercase right.name

/-- Store one row. It replaces the row of its channel, and a new one past the cap is
dropped. Tells whether a row was replaced. -/
def storeRow (rows : List ListedChannel) (row : ListedChannel) : List ListedChannel × Bool :=
  match rows.findIdx? fun existing => sameChannel existing row with
  | some index => (rows.set index row, true)
  | none => (if rows.length < channelListMaxRows then rows ++ [row] else rows, false)

/-- Most users first, then the channel name, whatever its case. -/
def channelOrder (left right : ListedChannel) : Ordering :=
  (compare right.users left.users).then
    (compare (Platform.toLowercase left.name) (Platform.toLowercase right.name))

/-- The rows in the order of the overlay. -/
def sortRows (rows : List ListedChannel) : List ListedChannel :=
  rows.insertionSort fun left right => (channelOrder left right).isLE

end Rows

namespace ChannelListRequests

/-- Stop the timer of a network. -/
def stop (requests : ChannelListRequests) (networkId : String) : ChannelListRequests :=
  { requests with timers := Function.update requests.timers networkId none }

/-- Arm the timer of a network. -/
def arm (requests : ChannelListRequests) (networkId : String) : ChannelListRequests :=
  { requests with
    generation := requests.generation + 1
    timers := Function.update requests.timers networkId (some (requests.generation + 1)) }

/-- Replace the request of a network. -/
def put (requests : ChannelListRequests) (networkId : String) (entry : ChannelListState) :
    ChannelListRequests :=
  { requests with states := Function.update requests.states networkId (some entry) }

/-- Whether a network is loading. -/
def isLoading (requests : ChannelListRequests) (networkId : String) : Bool :=
  (requests.states networkId).any ChannelListState.loading

/-- Drop the timer and the request of a network. -/
def forget (requests : ChannelListRequests) (networkId : String) : ChannelListRequests :=
  { requests.stop networkId with states := Function.update requests.states networkId none }

/-- Drop a load that never reached the wire. -/
def cancelStart (requests : ChannelListRequests) (networkId : String) : ChannelListRequests :=
  requests.forget networkId

/-- A fresh load. It still drains the end of a timed-out one. -/
def insertLoad [Platform] (requests : ChannelListRequests) (networkId mask : String) :
    ChannelListRequests :=
  let drain := (requests.states networkId).any ChannelListState.drainTimedOutEnd
  (requests.put networkId { mask, loading := true, drainTimedOutEnd := drain }).arm networkId

/-- Start a load, or join the one that runs. Another mask waits until it is done. A finished
request for the same mask is reused unless a refresh is asked for. -/
def request [Platform] (requests : ChannelListRequests) (networkId mask : String)
    (refresh : Bool) : ChannelListRequests × RequestKind :=
  match requests.states networkId with
  | none => (requests.insertLoad networkId mask, .start)
  | some entry =>
      if entry.loading then
        let pendingMask := if sameMask entry.mask mask then none else some mask
        (requests.put networkId { entry with pendingMask }, .loading)
      else if !refresh && entry.complete && sameMask entry.mask mask then (requests, .cached)
      else (requests.insertLoad networkId mask, .start)

/-- Store one row of a load. One without a channel name, or outside a load, is ignored.
Tells whether a row was replaced. -/
def row [Platform] (requests : ChannelListRequests) (networkId : String) (row : ListedChannel) :
    ChannelListRequests × Bool :=
  match requests.states networkId with
  | none => (requests, false)
  | some entry =>
      if row.name = "" ∨ entry.loading = false then (requests, false)
      else
        let (rows, replaced) := storeRow entry.rows row
        ((requests.arm networkId).put networkId { entry with rows }, replaced)

/-- The server still streams, so the idle window of a load starts over. -/
def activity (requests : ChannelListRequests) (networkId : String) : ChannelListRequests :=
  if requests.isLoading networkId then requests.arm networkId else requests

/-- The end of a load. The stale end of a timed-out load is drained. A mask that waited is
handed back when it is another one. -/
def finish [Platform] (requests : ChannelListRequests) (networkId : String) :
    ChannelListRequests × FinishResult :=
  match requests.states networkId with
  | none => (requests, {})
  | some entry =>
      if entry.loading = false then
        (requests.put networkId { entry with drainTimedOutEnd := false }, {})
      else if entry.drainTimedOutEnd then
        ((requests.put networkId { entry with drainTimedOutEnd := false }).arm networkId, {})
      else
        ((requests.stop networkId).put networkId
            { entry with pendingMask := none, loading := false, complete := true, error := "" },
          { completed := true
            pendingMask := entry.pendingMask.filter fun pending => !sameMask pending entry.mask })

/-- Fail a load. A timed-out one leaves its end to drain. Tells whether a load failed. -/
def fail (requests : ChannelListRequests) (networkId text : String) (timedOut : Bool) :
    ChannelListRequests × Bool :=
  match requests.states networkId with
  | none => (requests, false)
  | some entry =>
      if entry.loading = false then (requests, false)
      else
        ((requests.stop networkId).put networkId
          { entry with
            loading := false
            complete := false
            pendingMask := none
            error := text
            drainTimedOutEnd := entry.drainTimedOutEnd || timedOut }, true)

/-- The first of the fired timers that is still armed, and what is left behind it. -/
def takeCurrent (timers : String → Option Nat) :
    List (String × Nat) → Option String × List (String × Nat)
  | [] => (none, [])
  | (networkId, generation) :: rest =>
      if timers networkId = some generation then (some networkId, rest)
      else takeCurrent timers rest

/-- Take the next timeout that is still current. Its timer is cleared. -/
def takeExpiry (requests : ChannelListRequests) : ChannelListRequests × Option String :=
  let (current, expiries) := takeCurrent requests.timers requests.expiries
  let taken := { requests with expiries }
  match current with
  | some networkId => (taken.stop networkId, some networkId)
  | none => (taken, none)

/-- A timer fires. -/
def fire (requests : ChannelListRequests) (networkId : String) (generation : Nat) :
    ChannelListRequests :=
  { requests with expiries := requests.expiries ++ [(networkId, generation)] }

end ChannelListRequests

/-- The overlay. -/
structure ChannelListView where
  /-- Whether the overlay is showing. -/
  opened : Bool := false
  networkId : String := ""
  mask : String := ""
  rows : List ListedChannel := []
  loading : Bool := false
  complete : Bool := false
  cached : Bool := false
  error : String := ""

namespace ChannelListView

/-- Show rows, capped and sorted, with their flags. -/
def shows [Platform] (view : ChannelListView) (networkId mask : String)
    (rows : List ListedChannel) (complete loading cached : Bool) (error : String) :
    ChannelListView :=
  { view with
    networkId, mask, rows := sortRows (rows.take channelListMaxRows), complete, loading, cached
    error }

/-- Start over for a streamed load. -/
def beginLoad (view : ChannelListView) (networkId mask : String) : ChannelListView :=
  { view with
    networkId, mask, rows := [], complete := false, loading := true, cached := false, error := "" }

/-- Mark the overlay failed. Its rows stay. -/
def fail (view : ChannelListView) (text : String) : ChannelListView :=
  { view with loading := false, complete := false, cached := false, error := text }

/-- Take one streamed row: put it where its channel stands, or add it and sort. -/
def appendRow [Platform] (view : ChannelListView) (row : ListedChannel) (replaced : Bool) :
    ChannelListView :=
  if replaced then
    match view.rows.findIdx? fun existing => eqIgnoreAsciiCase existing.name row.name with
    | some index => { view with rows := view.rows.set index row }
    | none => view
  else if view.rows.length ≥ channelListMaxRows then view
  else { view with rows := sortRows (view.rows ++ [row]) }

/-- Forget the network and the rows. -/
def clear (view : ChannelListView) : ChannelListView :=
  if view.rows = [] ∧ view.networkId = "" ∧ view.error = "" ∧ view.loading = false ∧
      view.complete = false then view
  else
    { view with
      rows := [], networkId := "", mask := "", error := "", loading := false, complete := false
      cached := false }

end ChannelListView

/-- A network's session as a list request sees it: whether it is registered, and which
lines it writes. -/
structure ListSession where
  registered : Bool := true
  accepts : String → Bool := fun _ => true

/-- The line of a LIST, when its mask fits one line and the session writes it. -/
def ListSession.list (session : ListSession) (mask : String) : Bool :=
  let trimmed := trim mask
  if trimmed.toList.any fun character => character = '\r' ∨ character = '\n' then false
  else if trimmed = "" then session.accepts "LIST"
  else session.accepts ("LIST " ++ trimmed)

/-- What became of a list request. -/
inductive ListOutcome
  | sent
  | refused
  | notConnected

/-- The channel-list part of the controller: the requests, the overlay, and the LIST lines
the sessions took with their masks, oldest first. -/
structure ChannelLists where
  requests : ChannelListRequests := {}
  view : ChannelListView := {}
  written : List (String × String) := []

namespace ChannelLists

variable [Platform]

/-- Write the LIST of a fresh load and open the overlay on it. A refused write unwinds
both. -/
def beginChannelListLoad (lists : ChannelLists) (session : ListSession)
    (networkId mask : String) : ChannelLists × Bool :=
  let requests := (lists.requests.request networkId mask true).1
  let view := { lists.view.beginLoad networkId mask with opened := true }
  if session.list mask then
    ({ requests, view, written := lists.written ++ [(networkId, mask)] }, true)
  else
    ({ lists with
        requests := requests.cancelStart networkId
        view := { view.clear with opened := false } }, false)

/-- Run a list request. It starts a load, joins the one that runs, or shows the cache. -/
def startChannelList (lists : ChannelLists) (session : Option ListSession)
    (networkId mask : String) : ChannelLists × ListOutcome :=
  if networkId = "" then (lists, .refused)
  else
    match session.filter ListSession.registered with
    | none => (lists, .notConnected)
    | some session =>
        let mask := trim mask
        let same := (lists.requests.states networkId).any fun found => sameMask found.mask mask
        let refresh := lists.view.opened && (lists.view.networkId == networkId) && same
        let (requests, kind) := lists.requests.request networkId mask refresh
        match requests.states networkId with
        | none => ({ lists with requests }, .refused)
        | some found =>
            match kind with
            | .loading =>
                ({ lists with
                    requests
                    view :=
                      { lists.view.shows networkId found.mask found.rows false true false
                          found.error with opened := true } }, .sent)
            | .cached =>
                ({ lists with
                    requests
                    view :=
                      { lists.view.shows networkId found.mask found.rows true false true "" with
                        opened := true } }, .sent)
            | .start =>
                let (begun, wrote) :=
                  { lists with requests }.beginChannelListLoad session networkId mask
                (begun, if wrote then .sent else .refused)

/-- The end of a load. A mask that waited starts the next one, or else the overlay shows
the finished rows when it is on the network. -/
def finishChannelList (lists : ChannelLists) (session : Option ListSession)
    (networkId : String) : ChannelLists :=
  let (requests, result) := lists.requests.finish networkId
  let finished := { lists with requests }
  if result.completed = false then finished
  else
    match requests.states networkId with
    | none => finished
    | some cache =>
        if cache.loading then finished
        else
          let shown (current : ChannelLists) : ChannelLists :=
            if current.view.networkId = networkId then
              { current with
                view := current.view.shows networkId cache.mask cache.rows true false false "" }
            else current
          match result.pendingMask, session.filter ListSession.registered with
          | some pending, some session =>
              let (begun, wrote) := finished.beginChannelListLoad session networkId pending
              if wrote then begun else shown begun
          | _, _ => shown finished

/-- The text of a failure numeric of a running LIST, if the message is one. -/
def failureText (message : IrcMessage) : Option String :=
  let tryAgain := message.command = "263"
  let tooMany := message.command = "416"
  let errorNumeric := startsWithChar message.command '4' ∨ startsWithChar message.command '5'
  let mentionsList := message.params.any fun param => eqIgnoreAsciiCase (wireText param) "LIST"
  if byteLength message.command ≠ 3 ∨ ¬(tryAgain ∨ tooMany ∨ errorNumeric) ∨
      (tryAgain ∧ mentionsList = false) ∨ (errorNumeric ∧ ¬tooMany ∧ mentionsList = false) then none
  else
    let text := (message.params.getLast?.map wireText).getD ""
    some
      (if text ≠ "" then text
      else if tryAgain then "Server load is too heavy. Try /list again."
      else if tooMany then "Too many channel matches. Try a narrower /list."
      else "Channel list failed. Try /list again.")

/-- Fail a load, and the overlay when it is on the network. -/
def failChannelList (lists : ChannelLists) (networkId text : String) (timedOut : Bool) :
    ChannelLists :=
  let (requests, failed) := lists.requests.fail networkId text timedOut
  if failed ∧ lists.view.networkId = networkId then
    { lists with requests, view := lists.view.fail text }
  else { lists with requests }

/-- The row of a 322, when the line carries a channel and a count. -/
def listedRow (message : IrcMessage) : Option ListedChannel :=
  if message.params.length < 3 then none
  else
    some
      { name := message.textParam 1
        users := (parseUnsigned (2 ^ 64) (message.textParam 2)).getD 0
        topic := message.textParam 3 }

/-- Take one row into the request, and into the overlay while it shows the load. -/
def takeRow (lists : ChannelLists) (networkId : String) (row : ListedChannel) : ChannelLists :=
  let (requests, replaced) := lists.requests.row networkId row
  if lists.view.opened ∧ lists.view.networkId = networkId ∧ lists.view.loading then
    { lists with requests, view := lists.view.appendRow row replaced }
  else { lists with requests }

/-- Handle 321, 322, 323 and the failure numerics. -/
def handleChannelListMessage (lists : ChannelLists) (session : Option ListSession)
    (networkId : String) (message : IrcMessage) : ChannelLists :=
  if message.command = "322" then
    match listedRow message with
    | some row => lists.takeRow networkId row
    | none => lists
  else if message.command = "321" then
    { lists with requests := lists.requests.activity networkId }
  else if message.command = "323" then lists.finishChannelList session networkId
  else if lists.requests.isLoading networkId then
    match failureText message with
    | some text => lists.failChannelList networkId text false
    | none => lists
  else lists

/-- Run one idle timeout, if one is due. -/
def runChannelListExpiry (lists : ChannelLists) : ChannelLists :=
  let (requests, due) := lists.requests.takeExpiry
  match due with
  | none => { lists with requests }
  | some networkId =>
      { lists with requests }.failChannelList networkId channelListTimeoutText true

/-- Close the overlay. Its rows stay. -/
def dismissChannelList (lists : ChannelLists) : ChannelLists :=
  { lists with view := { lists.view with opened := false } }

/-- Drop the request of a network, and close the overlay when it shows it. -/
def forgetChannelList (lists : ChannelLists) (networkId : String) : ChannelLists :=
  let forgotten := { lists with requests := lists.requests.forget networkId }
  if lists.view.networkId = networkId then
    { forgotten with view := { lists.view.clear with opened := false } }
  else forgotten

/-- One step of the channel list. -/
inductive Label
  | request (networkId mask : String) (session : Option ListSession)
  | dismiss
  | message (networkId : String) (message : IrcMessage) (session : Option ListSession)
  | fire (networkId : String)
  | expire
  | forget (networkId : String)

/-- One step. A timer fires only while it is armed. -/
def step (lists : ChannelLists) : Label → Option ChannelLists
  | .request networkId mask session => some (lists.startChannelList session networkId mask).1
  | .dismiss => some lists.dismissChannelList
  | .message networkId message session =>
      some (lists.handleChannelListMessage session networkId message)
  | .fire networkId =>
      (lists.requests.timers networkId).map fun generation =>
        { lists with requests := lists.requests.fire networkId generation }
  | .expire => some lists.runChannelListExpiry
  | .forget networkId => some (lists.forgetChannelList networkId)

end ChannelLists

end Omairc.ChannelList

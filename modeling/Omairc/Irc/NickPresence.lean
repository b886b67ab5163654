import Omairc.Irc.Presence
import Omairc.Irc.World

/-!
# Presence and typing facts

What the client tracks for each nick of a network, the store that forgets entries with
nothing to say, and the typing hints a conversation holds. Nicks are the folded
spelling.
-/

namespace Omairc.Irc

open Omairc.Text

/-- The presence tracked for one nick. -/
structure NickPresence where
  away : Option Away := none
  /-- Canonical metadata keys with their values. -/
  keys : StringMap String := ∅
  account : String := ""
  accountKnown : Bool := false
  realname : String := ""
  serverOperator : Bool := false

/-- Whether the presence carries no fact worth keeping. -/
def NickPresence.isDefault (presence : NickPresence) : Bool :=
  presence.away.isNone && presence.keys.isEmpty && presence.account == "" &&
    !presence.accountKnown && presence.realname == "" && !presence.serverOperator

variable [Platform]

/-- Whether a realname is worth matching. A mandatory realname is often a placeholder. -/
def meaningfulRealname (realname nick : String) : Bool :=
  if realname = "" ∨ realname = nick then false
  else !(["realname", "unknown", "fullname"].contains (Platform.toLowercase realname))

/-- The presence of the nicks of one network. -/
abbrev NetworkPresence := StringMap NickPresence

namespace NetworkPresence

omit [Platform]

/-- The stored presence of a nick. -/
def lookup (presence : NetworkPresence) (nick : String) : NickPresence := presence.getD nick {}

/-- Forget an entry that became default. -/
def eraseIfDefault (presence : NetworkPresence) (nick : String) : NetworkPresence :=
  if (presence.lookup nick).isDefault then presence.erase nick else presence

/-- Store away state. `none` clears it. -/
def setAway (presence : NetworkPresence) (nick : String) (away : Option Away) :
    NetworkPresence :=
  if nick = "" then presence
  else eraseIfDefault (presence.insert nick { presence.lookup nick with away }) nick

/-- Store one metadata value. An empty value on a known key clears it. -/
def setMetadata (presence : NetworkPresence) (nick key value : String) : NetworkPresence :=
  if nick = "" then presence
  else
    match canonicalKey key with
    | none => presence
    | some stored =>
        let found := presence.lookup nick
        if value = "" then
          if presence.contains nick then
            eraseIfDefault (presence.insert nick { found with keys := found.keys.erase stored })
              nick
          else presence
        else presence.insert nick { found with keys := found.keys.insert stored value }

/-- Store the services account. `*` and an empty value clear it. -/
def setAccount (presence : NetworkPresence) (nick account : String) : NetworkPresence :=
  if nick = "" then presence
  else
    let shown := if account = "" ∨ account = "*" then "" else account
    eraseIfDefault
      (presence.insert nick { presence.lookup nick with accountKnown := true, account := shown })
      nick

/-- Store whether a nick is a server operator. -/
def setServerOperator (presence : NetworkPresence) (nick : String) (operator : Bool) :
    NetworkPresence :=
  if nick = "" then presence
  else
    eraseIfDefault (presence.insert nick { presence.lookup nick with serverOperator := operator })
      nick

/-- Store the realname. An empty value clears it. -/
def setRealname (presence : NetworkPresence) (nick realname : String) : NetworkPresence :=
  if nick = "" then presence
  else if realname = "" then
    if presence.contains nick then
      eraseIfDefault (presence.insert nick { presence.lookup nick with realname := "" }) nick
    else presence
  else presence.insert nick { presence.lookup nick with realname }

/-- Move the presence from one nick to another, replacing any entry there. -/
def rekey (presence : NetworkPresence) (source target : String) : NetworkPresence :=
  if source = target then presence
  else
    let cleared := presence.erase target
    match cleared[source]? with
    | none => cleared
    | some found => (cleared.erase source).insert target found

/-- Drop away state everywhere, forgetting the nicks that become default. -/
def clearAway (presence : NetworkPresence) : NetworkPresence :=
  (presence.map fun _ found => { found with away := none }).filter fun _ found => !found.isDefault

/-- Drop metadata everywhere, forgetting the nicks that become default. -/
def clearMetadata (presence : NetworkPresence) : NetworkPresence :=
  (presence.map fun _ found => { found with keys := ∅ }).filter fun _ found => !found.isDefault

end NetworkPresence

/-- Which hold a stored hint uses. -/
inductive TypingClock
  | active
  | paused

/-- A stored typing hint. -/
structure TypingHint where
  clock : TypingClock
  receivedAt : Option Instant
  displayNick : String

omit [Platform]

/-- How long a hint is held, in nanoseconds: six seconds when active, thirty when
paused. -/
def TypingClock.hold : TypingClock → Int
  | .active => 6000 * 10 ^ 6
  | .paused => 30000 * 10 ^ 6

/-- The hint to store for a phase. -/
def storedTypingHint (phase : TypingPhase) (receivedAt : Instant) (displayNick : String) :
    Option TypingHint :=
  match phase with
  | .done => none
  | .active => some { clock := .active, receivedAt := some receivedAt, displayNick }
  | .paused => some { clock := .paused, receivedAt := some receivedAt, displayNick }

/-- Whether a hint is still stored at a time. -/
def typingHintRetained (hint : TypingHint) (now : Instant) : Bool :=
  match hint.receivedAt with
  | none => false
  | some received => decide (now < received + hint.clock.hold)

end Omairc.Irc

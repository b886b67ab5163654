import Omairc.Session.Autojoin
import Omairc.Session.Lifecycle
import Omairc.Session.Publish

/-!
# Registration

The PASS, NICK and USER burst, the fallback of a colliding nick, the advertised
features and the welcome.
-/

namespace Omairc.Session

open Omairc.Text Omairc.Irc

/-- The text of a registration that never completes. -/
def registrationTimeoutMessage : String := "The server didn't respond"

/-- The lines of the registration burst, when every field can be sent. -/
def registrationLines (config : SessionConfig) (sendPass : Bool) (features : IrcServerFeatures) :
    Option (List Bytes) :=
  match nick config.nick features, user config.username config.realname features with
  | .ok nickLine, .ok userLine =>
      if sendPass then
        match pass config.password features with
        | .ok passLine => some [passLine, nickLine, userLine]
        | .error _ => none
      else some [nickLine, userLine]
  | _, _ => none

/-- The nick a collision falls back to, with the next step. -/
def nickFallback (configured : String) : RegistrationNick → Option (String × RegistrationNick)
  | .configured => some (configured ++ "_", .underscore)
  | .underscore => some (configured ++ "2", .digit)
  | .digit => none

/-- The history page size under an advertised maximum. Zero means there is none. -/
def cappedHistoryLimit (maximum : Int) : Nat :=
  if maximum > 0 then min historyLimit maximum.toNat else historyLimit

namespace Core

variable (core : Core)

/-- Send PASS, NICK and USER, once. -/
def sendRegistration : Core :=
  if core.registrationSent then core
  else
    let sendPass := core.config.password ≠ "" &&
      (!core.sasl.requested || core.config.nickservPassword ≠ "")
    match registrationLines core.config sendPass core.features with
    | none =>
        core.fail .registration "IRC registration fields contain invalid characters" false
    | some lines =>
        { lines.foldl sendLine core with registrationSent := true }.setState .registering

/-- Retry a colliding nick; false when no fallback is left. -/
def tryRegistrationNickFallback : Core × Bool :=
  if !core.registrationSent then (core, false)
  else
    match nickFallback core.config.nick core.registrationNick with
    | none => (core, false)
    | some (fallback, next) =>
        match nick fallback core.features with
        | .error _ => (core, false)
        | .ok built =>
            ({ core with registrationNick := next, nickname := fallback }.sendLine built, true)

/-- Apply one ISUPPORT token. -/
def applyIsupportToken (core : Core) (token : String) : Core :=
  let applied := { core with features := core.features.applyToken token }
  match stripLead "CHANTYPES=" token with
  | some value => { applied with channelTypes := value }
  | none =>
      match (stripLead "CHATHISTORY=" token).bind parseInt64 with
      | some maximum => { applied with historyLimit := cappedHistoryLimit maximum }
      | none => applied

/-- Apply an ISUPPORT line. -/
def applyIsupport (message : IrcMessage) : Core :=
  if message.command ≠ "005" || message.params.length ≤ 2 then core
  else
    ((List.range' 1 (message.params.length - 2)).map message.textParam).foldl applyIsupportToken
      core

/-- Identify with NickServ after the welcome, when a password is set and SASL did not run. -/
def identify : Core :=
  if core.config.nickservPassword = "" || core.sasl.succeeded ||
      core.sasl.mechanism = some .scramSha256 then core
  else
    let warned := if core.tlsEnabled then core
      else
        core.emit (.lifecycle core.networkId .alert "identify"
          "NickServ identify will be sent in clear text" core.now)
    (warned.sendPrivmsgLocked "NickServ" ("IDENTIFY " ++ core.config.nickservPassword)).1

/-- Join one autojoin channel after the welcome. -/
def joinAutojoinChannel (core : Core) (channel : String) : Core :=
  let invalid : SessionEvent :=
    .errorOccurred core.networkId .protocol "Invalid autojoin channel"
  match IrcJoinTarget.make channel (core.autojoinKeyFor channel) {} with
  | none => core.emit invalid
  | some target =>
      match core.joinLocked target with
      | (joined, true) => joined
      | (refused, false) => refused.emit invalid

/-- Whether a welcome arrives while SCRAM is still outstanding. -/
def scramOutstanding : Bool :=
  core.sasl.mechanism = some .scramSha256 && !core.sasl.succeeded &&
    (core.sasl.pending || core.state = .sasl || core.sasl.exchangeStarted)

/-- Handle the welcome numeric. -/
def handleWelcome (message : IrcMessage) : Core :=
  if core.state = .registered ∨ core.state = .failed then core
  else if core.scramOutstanding then
    core.fail .authentication "SASL authentication failed" false
  else
    let assigned := message.textParam 0
    let named := if assigned ≠ "" then { core with nickname := assigned } else core
    let settled :=
      (({ named with connection := named.connection.resetRetries }.cancelTimer
        .capability).cancelTimer .registration)
    let welcomed :=
      ({ settled with caps := settled.caps.abandonOutstanding.1 }.setState .registered).emit
        (.registered core.networkId)
    let identified := welcomed.armPingWatchdog.subscribeToMemberMetadata.identify
    identified.autojoinChannels.foldl joinAutojoinChannel identified

/-- The registration deadline passed before the welcome. -/
def onRegistrationTimeout : Core :=
  if core.state = .registered ∨ core.state = .failed then core
  else core.fail .network registrationTimeoutMessage true

end Core

end Omairc.Session

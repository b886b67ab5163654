import Omairc.Text.Strings

/-!
# The words of `/autoaway`

The settings, the requests, and the texts of the query, the confirmations and the Status
lines. The runtime holds the timers.
-/

namespace Omairc.Irc

open Omairc.Text

/-- The shortest accepted timeout, in seconds. -/
def autoawayMinTimeoutSeconds : Int := 30

/-- The longest accepted timeout, in seconds. -/
def autoawayMaxTimeoutSeconds : Int := 2147483

/-- What a `/autoaway` argument asks for. -/
inductive AutoawayKind
  | query
  | disable
  | enableOn
  | setTimeout
  | setDefaultReason
  | clearDefaultReason
  | usage

/-- A parsed `/autoaway` argument. -/
structure AutoawayRequest where
  kind : AutoawayKind
  timeoutSeconds : Int := 0
  text : String := ""

/-- The auto-away settings. -/
structure AutoawayConfig where
  enabled : Bool := false
  timeoutSeconds : Int := 0
  defaultReason : String := ""
  oneShotReason : String := ""

/-- A whole number of hours, minutes or seconds. -/
def formatAutoawayDuration (seconds : Int) : String :=
  if 3600 ≤ seconds ∧ seconds % 3600 = 0 then
    let hours := seconds / 3600
    if hours = 1 then "1 hour" else s!"{hours} hours"
  else if 60 ≤ seconds ∧ seconds % 60 = 0 then
    let minutes := seconds / 60
    if minutes = 1 then "1 minute" else s!"{minutes} minutes"
  else if seconds = 1 then "1 second"
  else s!"{seconds} seconds"

/-- The settings of an auto-away that is on. -/
def formatEnabled (config : AutoawayConfig) (includeDefaultWithOneShot : Bool) : String :=
  let duration := formatAutoawayDuration config.timeoutSeconds
  if config.oneShotReason ≠ "" then
    let text := s!"Auto-away in {duration}: {config.oneShotReason} (this time only)"
    if includeDefaultWithOneShot && config.defaultReason ≠ "" then
      text ++ s!", reason: {config.defaultReason}"
    else text
  else
    let text := s!"Auto-away {duration}"
    if config.defaultReason ≠ "" then text ++ s!", reason: {config.defaultReason}" else text

/-- The settings of an auto-away that is off. -/
def formatDisabled (config : AutoawayConfig) (includeTimeout : Bool) : String :=
  let timeout :=
    if includeTimeout && decide (0 < config.timeoutSeconds) then
      s!", {formatAutoawayDuration config.timeoutSeconds}"
    else ""
  let once :=
    if config.oneShotReason ≠ "" then s!": {config.oneShotReason} (this time only)" else ""
  let reason := if config.defaultReason ≠ "" then s!", reason: {config.defaultReason}" else ""
  "Auto-away off" ++ timeout ++ once ++ reason

/-- The reply to a query. -/
def formatAutoawayQuery (config : AutoawayConfig) : String :=
  if !config.enabled then formatDisabled config true else formatEnabled config true

/-- The reply to a change. -/
def formatAutoawayConfirmation (config : AutoawayConfig) : String :=
  if !config.enabled then formatDisabled config false else formatEnabled config false

/-- The Status line of a trip. -/
def formatAutoawayTrippedStatus (reason : String) : String :=
  if trim reason = "" then "Auto-away triggered." else s!"Auto-away triggered: {trim reason}"

/-- The Status line of a network that is brought back. -/
def formatAutoawayClearedStatus : String := "Auto-away cleared — back online."

/-- The usage line. -/
def autoawayUsage : String := "/autoaway [off|on|duration [reason]|reason [text]]"

/-- The grace period before auto-away trips: a twentieth of the timeout between 5 and 10
seconds, and none for a timeout that is not positive. -/
def autoawayGraceSeconds (timeoutSeconds : Int) : Int :=
  if timeoutSeconds ≤ 0 then 0 else max 5 (min 10 (timeoutSeconds / 20))

/-- A positive timeout has a grace period. -/
theorem autoawayGraceSeconds_pos {timeoutSeconds : Int} (positive : 0 < timeoutSeconds) :
    0 < autoawayGraceSeconds timeoutSeconds := by
  unfold autoawayGraceSeconds
  rw [if_neg (by omega)]
  omega

end Omairc.Irc

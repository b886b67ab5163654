import Omairc.Session.Handshake

/-!
# What one line does to the lifecycle

A CAP line may also act on an STS advertisement, and a welcome registers. `LineChange`
sums up every line: a handshake, an STS upgrade, a welcome, a retried failure, or a
restart of the watchdog.
-/

namespace Omairc.Session

open Omairc.Text Omairc.Irc

/-- Whether more lines follow a CAP LS. -/
def isContinued (message : IrcMessage) (index : Nat) : Bool :=
  message.params.length > index + 1 && message.textParam (index + 1) = "*"

/-- An STS advertisement over TLS is kept: a policy is stored or cleared for the host.
Over plaintext, and without a usable value, nothing changes. -/
structure StsNoted (core changed : Core) : Prop where
  control : changed.toControl =
    { core.toControl with
      stsOperations := changed.stsOperations
      stsDuration := changed.stsDuration }
  timers : changed.timers = core.timers
  effects : changed.effects = core.effects
  features : changed.features = core.features
  operations :
    (changed.stsOperations = core.stsOperations ∧ changed.stsDuration = core.stsDuration) ∨
      core.tlsEnabled = true ∧
        ((changed.stsOperations = core.stsOperations ++ [.clear core.config.host] ∧
            changed.stsDuration = none) ∨
          ∃ duration, changed.stsOperations =
              core.stsOperations ++ [.store core.config.host core.port duration core.now] ∧
            changed.stsDuration = some duration)

/-- The plaintext connection is given up for a TLS one to a port. -/
structure Upgraded (core : Core) (port : UInt16) (changed : Core) : Prop where
  plaintext : core.tlsEnabled = false
  link : changed.link = { core.link with port, tlsEnabled := true }
  state : changed.state = .stsUpgrading
  timers : changed.timers = core.timers
  effects : changed.effects = core.effects ++ [.shutdown]

namespace Core

variable (core : Core)

/-- A plaintext session upgrades to the advertised port. -/
theorem handleStsAdvertisement_upgrade {advertisement : Option StsAdvertisement} {port : UInt16}
    (plaintext : core.tlsEnabled = false) (settled : core.state ≠ .stsUpgrading)
    (advertised : advertisement.bind StsAdvertisement.port = some port) :
    core.handleStsAdvertisement advertisement = core.beginStsUpgrade port := by
  obtain ⟨value, rfl, offered⟩ := Option.bind_eq_some_iff.mp advertised
  simp [handleStsAdvertisement, plaintext, offered, settled]

/-- Without an upgrade an advertisement is at most noted. -/
theorem handleStsAdvertisement_noted {advertisement : Option StsAdvertisement}
    (secure : core.tlsEnabled = true ∨ advertisement.bind StsAdvertisement.port = none) :
    StsNoted core (core.handleStsAdvertisement advertisement) := by
  have unchanged : StsNoted core core := ⟨rfl, rfl, rfl, rfl, .inl ⟨rfl, rfl⟩⟩
  cases advertisement with
  | none => exact unchanged
  | some value =>
      simp only [handleStsAdvertisement]
      by_cases tls : core.tlsEnabled = true
      · rw [if_neg (by simp [tls])]
        split
        · exact unchanged
        · rename_i duration offered
          split
          · exact ⟨rfl, rfl, rfl, rfl, .inr ⟨tls, .inl ⟨rfl, rfl⟩⟩⟩
          · exact ⟨rfl, rfl, rfl, rfl, .inr ⟨tls, .inr ⟨duration, rfl, rfl⟩⟩⟩
      · have unoffered : value.port = none := (secure.resolve_left tls)
        simpa [tls, unoffered] using unchanged

theorem beginStsUpgrade_upgraded (plaintext : core.tlsEnabled = false) (port : UInt16) :
    Upgraded core port (core.beginStsUpgrade port) where
  plaintext := plaintext
  link := by simp [beginStsUpgrade, Control.link]
  state := by simp [beginStsUpgrade]
  timers := by simp [beginStsUpgrade]
  effects := by simp [beginStsUpgrade]

/-- The STS advertisement that a CAP line acts on. -/
def capAdvertisement (message : IrcMessage) : Option StsAdvertisement :=
  match message.paramIndex "LS" with
  | some index =>
      if isContinued message index then none
      else (parseStsAdvertisement (capabilityTokens message index)).or core.pendingSts
  | none =>
      if !core.capabilityListSeen then none
      else
        (message.paramIndex "NEW").bind fun index =>
          parseStsAdvertisement (capabilityTokens message index)

/-- The port a CAP line upgrades a plaintext session to. -/
def upgradePort (message : IrcMessage) : Option UInt16 :=
  if core.tlsEnabled then none else (core.capAdvertisement message).bind StsAdvertisement.port

end Core

/-- A change of the negotiation's ledgers that may note an STS advertisement. -/
structure StsChange (core changed : Core) : Prop where
  link : changed.link =
    { core.link with
      stsOperations := changed.stsOperations
      stsDuration := changed.stsDuration }
  state : changed.state = core.state
  timers : changed.timers = core.timers
  effects : changed.effects = core.effects
  operations :
    (changed.stsOperations = core.stsOperations ∧ changed.stsDuration = core.stsDuration) ∨
      core.tlsEnabled = true ∧
        ((changed.stsOperations = core.stsOperations ++ [.clear core.config.host] ∧
            changed.stsDuration = none) ∨
          ∃ duration, changed.stsOperations =
              core.stsOperations ++ [.store core.config.host core.port duration core.now] ∧
            changed.stsDuration = some duration)

namespace StsChange

variable {core middle changed : Core}

/-- A change of the ledgers alone. -/
theorem of_eq (link : changed.link = core.link) (state : changed.state = core.state)
    (timers : changed.timers = core.timers) (effects : changed.effects = core.effects) :
    StsChange core changed where
  link := by
    rw [link]
    exact congrArg (fun link : Link =>
      { core.link with stsOperations := link.stsOperations, stsDuration := link.stsDuration })
      link.symm
  state := state
  timers := timers
  effects := effects
  operations := .inl ⟨congrArg Link.stsOperations link, congrArg Link.stsDuration link⟩

/-- An advertisement noted after a change of the ledgers. -/
theorem of_noted (link : middle.link = core.link) (state : middle.state = core.state)
    (timers : middle.timers = core.timers) (effects : middle.effects = core.effects)
    (noted : StsNoted middle changed) : StsChange core changed where
  link := by
    rw [← link]
    exact congrArg Control.link noted.control
  state := (congrArg Control.state noted.control).trans state
  timers := noted.timers.trans timers
  effects := noted.effects.trans effects
  operations := by
    have tls : middle.tlsEnabled = core.tlsEnabled := congrArg Link.tlsEnabled link
    have host : middle.config = core.config := congrArg Link.config link
    have port : middle.port = core.port := congrArg Link.port link
    have operations : middle.stsOperations = core.stsOperations := congrArg Link.stsOperations link
    have duration : middle.stsDuration = core.stsDuration := congrArg Link.stsDuration link
    have readings : middle.readings = core.readings := congrArg Link.readings link
    have now : middle.now = core.now := congrArg Readings.now readings
    rw [← tls, ← host, ← port, ← operations, ← duration, ← now]
    exact noted.operations

end StsChange

namespace Core

variable (core : Core)

/-- What a CAP line does: it upgrades, or goes on with the negotiation. -/
inductive CapOutcome (core : Core) (message : IrcMessage) : Core → Prop
  | settles {noted changed : Core} (silent : core.upgradePort message = none)
      (sts : StsChange core noted) (change : Handshake noted changed) :
      CapOutcome core message changed
  | upgrades {port : UInt16} {changed : Core} (advertised : core.upgradePort message = some port)
      (upgrade : Upgraded core port changed) : CapOutcome core message changed

/-- A handler of the handshake alone, for a line without an advertisement to act on. -/
theorem CapOutcome.of_handshake {core changed : Core} {message : IrcMessage}
    (silent : core.capAdvertisement message = none) (change : Handshake core changed) :
    CapOutcome core message changed := by
  refine .settles ?_ (.of_eq rfl rfl rfl rfl) change
  simp [upgradePort, silent]

/-- The stage that a CAP LS or NEW ends in, after its advertisement was looked at. -/
theorem cap_advertisement_outcome (listed : Core) {noted : Core} {message : IrcMessage}
    {advertisement : Option StsAdvertisement} (link : listed.link = core.link)
    (state : listed.state = core.state) (timers : listed.timers = core.timers)
    (effects : listed.effects = core.effects) (settled : core.state ≠ .stsUpgrading)
    (acted : core.capAdvertisement message = advertisement)
    (secured : noted = listed.handleStsAdvertisement advertisement) :
    (core.upgradePort message = none ∧ StsChange core noted) ∨
      ∃ port, core.upgradePort message = some port ∧ Upgraded core port noted := by
  have tls : listed.tlsEnabled = core.tlsEnabled := congrArg Link.tlsEnabled link
  subst secured
  cases upgrade : core.upgradePort message with
  | none =>
      refine .inl ⟨rfl, .of_noted link state timers effects (handleStsAdvertisement_noted _ ?_)⟩
      rw [upgradePort, acted] at upgrade
      split at upgrade
      · rename_i enabled
        exact .inl (tls.trans enabled)
      · exact .inr upgrade
  | some port =>
      refine .inr ⟨port, rfl, ?_⟩
      rw [upgradePort, acted] at upgrade
      split at upgrade
      · cases upgrade
      · rename_i plaintext
        have plaintext : listed.tlsEnabled = false := by simpa [tls] using plaintext
        rw [listed.handleStsAdvertisement_upgrade plaintext (by rw [state]; exact settled) upgrade]
        have upgraded := listed.beginStsUpgrade_upgraded plaintext port
        exact ⟨tls ▸ plaintext, by rw [upgraded.link, link], upgraded.state,
          upgraded.timers.trans timers, by rw [upgraded.effects, effects]⟩

variable [Platform]

theorem listed_toControl (tokens : List String) :
    (core.listed tokens).toControl =
      { core.toControl with
        capabilityListSeen := true
        caps := core.caps.advertise tokens
        pendingSts := (parseStsAdvertisement tokens).or core.pendingSts } := by
  simp [listed]

/-- What `CAP LS` does. -/
theorem handleCapLs_outcome {message : IrcMessage} {index : Nat}
    (settled : core.state ≠ .stsUpgrading) (subcommand : message.paramIndex "LS" = some index) :
    CapOutcome core message (core.handleCapLs message index) := by
  have control := core.listed_toControl (capabilityTokens message index)
  have link : (core.listed (capabilityTokens message index)).link = core.link :=
    (congrArg Control.link control).trans rfl
  have state : (core.listed (capabilityTokens message index)).state = core.state :=
    (congrArg Control.state control).trans rfl
  rw [handleCapLs_eq]
  simp only
  change CapOutcome core message (if isContinued message index then _ else _)
  split
  · rename_i continued
    refine .of_handshake ?_ (.proceeds (.of_eq link state (by simp [listed]) (by simp [listed])))
    simp [capAdvertisement, subcommand, continued]
  · rename_i complete
    have acted : core.capAdvertisement message =
        (core.listed (capabilityTokens message index)).pendingSts := by
      rw [congrArg Control.pendingSts control]
      simp [capAdvertisement, subcommand, complete]
    rcases core.cap_advertisement_outcome _ link state (by simp [listed]) (by simp [listed]) settled
      acted rfl with ⟨silent, sts⟩ | ⟨port, advertised, upgrade⟩
    · rw [if_neg (by rw [sts.state]; exact settled)]
      exact .settles silent sts (requestCapabilities_handshake _)
    · rw [if_pos upgrade.state]
      exact .upgrades advertised upgrade

/-- What `CAP NEW` does. -/
theorem handleCapNew_outcome {message : IrcMessage} {index : Nat}
    (settled : core.state ≠ .stsUpgrading) (seen : core.capabilityListSeen = true)
    (unlisted : message.paramIndex "LS" = none)
    (subcommand : message.paramIndex "NEW" = some index) :
    CapOutcome core message (core.handleCapNew message index) := by
  have acted : core.capAdvertisement message =
      parseStsAdvertisement (capabilityTokens message index) := by
    simp [capAdvertisement, unlisted, seen, subcommand]
  unfold handleCapNew
  simp only
  generalize noted : Core.handleStsAdvertisement _ _ = secured
  have kept := secured.noteMetadata_toControl (capabilityTokens message index)
  have state : (secured.noteMetadata (capabilityTokens message index)).state = secured.state :=
    congrArg Control.state kept
  rcases core.cap_advertisement_outcome
    { core with caps := core.caps.advertise (capabilityTokens message index) }
    rfl rfl rfl rfl settled acted noted.symm with ⟨silent, sts⟩ | ⟨port, advertised, upgrade⟩
  · rw [if_neg (by rw [state, sts.state]; exact settled)]
    refine .settles silent ?_ (requestCapabilities_handshake _)
    exact ⟨(congrArg Control.link kept).trans (by rw [kept]; exact sts.link), state.trans sts.state,
      by simp [sts.timers], by simp [sts.effects], by rw [kept]; exact sts.operations⟩
  · rw [if_pos (state.trans upgrade.state)]
    exact .upgrades advertised ⟨upgrade.plaintext, (congrArg Control.link kept).trans upgrade.link,
      state.trans upgrade.state, by simp [upgrade.timers], by simp [upgrade.effects]⟩

/-- Every CAP line goes on with the negotiation, fails, or upgrades. -/
theorem handleCap_outcome (message : IrcMessage) (settled : core.state ≠ .stsUpgrading) :
    CapOutcome core message (core.handleCap message) := by
  unfold handleCap
  split
  · rename_i index listing
    exact core.handleCapLs_outcome settled listing
  · rename_i unlisted
    split
    · rename_i unseen
      refine .of_handshake ?_ (.proceeds (.refl core))
      simp [capAdvertisement, unlisted, unseen]
    · rename_i seen
      have seen : core.capabilityListSeen = true := by simpa using seen
      split
      · rename_i index offering
        exact core.handleCapNew_outcome settled seen unlisted offering
      · rename_i unoffered
        have silent : core.capAdvertisement message = none := by
          simp [capAdvertisement, unlisted, seen, unoffered]
        split
        · rw [handleCapDel_eq]
          refine .of_handshake silent (Handshake.after (requestCapabilities_handshake _) ?_)
          exact Negotiated.after (.of_peripheral (core.withdrawn_peripheral _)) rfl rfl rfl rfl
        · split
          · exact .of_handshake silent (.proceeds (core.handleCapAck_negotiated message _))
          · split
            · exact .of_handshake silent (core.handleCapNak_handshake message _)
            · exact .of_handshake silent (.proceeds (.refl core))

end Core

/-- The session registered: retries are forgotten, requests that wait are given up, the
registration deadline is off, and what a registered session writes first is queued. -/
structure Welcomed (core changed : Core) : Prop where
  control : changed.toControl =
    { core.toControl with
      connection := core.connection.resetRetries
      caps := core.caps.abandonOutstanding.1
      ping := .watching
      state := .registered }
  registrationTimer : changed.timers .registration = none
  reconnectTimer : changed.timers .reconnect = core.timers .reconnect
  writes : ∃ frames, changed.effects = core.effects ++ queuedWrites frames ∧
    ∀ frame ∈ frames, IsFrame frame

namespace Core

variable (core : Core)

/-- The subscription is peripheral while registered. -/
theorem subscribeToMemberMetadata_peripheral (registered : core.state = .registered) :
    Peripheral IsFrame core core.subscribeToMemberMetadata := by
  have change := core.subscribeToMemberMetadata_negotiated
  obtain ⟨frames, queued, framed⟩ := change.writes
  refine ⟨?_, fun slot _ => ?_, frames, queued, framed, fun _ => registered⟩
  all_goals
    unfold subscribeToMemberMetadata
    simp only
    repeat' split
  all_goals simp

theorem identify_peripheral : Peripheral IsFrame core core.identify := by
  unfold identify
  simp only
  split
  · exact .refl core
  · refine Peripheral.trans ?_ (sendPrivmsgLocked_peripheral _ _ _)
    split
    · exact .refl core
    · exact .emit core _

theorem joinAutojoinChannel_peripheral (channel : String) :
    Peripheral IsFrame core (core.joinAutojoinChannel channel) := by
  unfold joinAutojoinChannel
  simp only
  split
  · exact .emit core _
  · split
    · rename_i result
      exact (core.joinLocked_peripheral _).of_result result
    · rename_i result
      exact ((core.joinLocked_peripheral _).of_result result).trans (.emit _ _)

/-- The session at the moment the welcome registers it. -/
def welcomed (core : Core) (message : IrcMessage) : Core :=
  let assigned := message.textParam 0
  let named := if assigned ≠ "" then { core with nickname := assigned } else core
  let settled :=
    (({ named with connection := named.connection.resetRetries }.cancelTimer
      .capability).cancelTimer .registration)
  ({ settled with caps := settled.caps.abandonOutstanding.1 }.setState .registered).emit
    (.registered core.networkId)

/-- The session once it wrote what a registered session writes first. -/
def settledIn (core : Core) : Core :=
  let identified := core.armPingWatchdog.subscribeToMemberMetadata.identify
  identified.autojoinChannels.foldl joinAutojoinChannel identified

theorem welcomed_toControl (message : IrcMessage) :
    (core.welcomed message).toControl =
      { core.toControl with
        connection := core.connection.resetRetries
        caps := core.caps.abandonOutstanding.1
        state := .registered } := by
  unfold welcomed
  simp only [emit_toControl, setState_toControl]
  split
  all_goals rfl

/-- The welcome turns the deadlines of the handshake off and queues nothing itself. -/
theorem welcomed_timers_effects (message : IrcMessage) :
    (core.welcomed message).timers .registration = none ∧
      (core.welcomed message).timers .reconnect = core.timers .reconnect ∧
      (core.welcomed message).effects = core.effects := by
  unfold welcomed
  simp only [emit_timers, setState_timers, emit_effects, setState_effects]
  split
  all_goals simp [cancelTimer, Function.update]

/-- A registered session arms its watchdog and goes on peripherally. -/
theorem settledIn_peripheral (registered : core.state = .registered) :
    Peripheral IsFrame core.armPingWatchdog core.settledIn := by
  have armed : core.armPingWatchdog.state = .registered := by
    rw [armPingWatchdog, if_neg (by simp [registered])]
    exact registered
  have identified :=
    (core.armPingWatchdog.subscribeToMemberMetadata_peripheral armed).trans
      (identify_peripheral _)
  exact identified.trans (.foldl joinAutojoinChannel_peripheral _ _)

/-- What a welcome does, by the state it finds. -/
inductive WelcomeOutcome (core : Core) : Core → Prop
  | late (ended : core.state = .registered ∨ core.state = .failed) : WelcomeOutcome core core
  | outstanding (running : core.state ≠ .registered ∧ core.state ≠ .failed)
      (unverified : core.scramOutstanding = true) :
      WelcomeOutcome core (core.fail .authentication "SASL authentication failed" false)
  | registers {changed : Core} (running : core.state ≠ .registered ∧ core.state ≠ .failed)
      (settled : core.scramOutstanding = false) (welcome : Welcomed core changed) :
      WelcomeOutcome core changed

theorem settledIn_welcomed (message : IrcMessage) :
    Welcomed core (core.welcomed message).settledIn := by
  have control := core.welcomed_toControl message
  have registered : (core.welcomed message).state = .registered :=
    (congrArg Control.state control).trans rfl
  obtain ⟨registration, reconnect, effects⟩ := core.welcomed_timers_effects message
  have change := settledIn_peripheral _ registered
  have armed : (core.welcomed message).armPingWatchdog.toControl =
      { (core.welcomed message).toControl with ping := .watching } := by
    rw [armPingWatchdog, if_neg (by simp [registered])]
    rfl
  obtain ⟨frames, queued, framed, -⟩ := change.writes
  refine ⟨?_, ?_, ?_, frames, ?_, framed⟩
  · rw [change.control, armed, control]
  · rw [change.timers _ (by decide), armPingWatchdog_timers _ (by decide), registration]
  · rw [change.timers _ (by decide), armPingWatchdog_timers _ (by decide), reconnect]
  · rw [queued, armPingWatchdog_effects, effects]

theorem handleWelcome_outcome (message : IrcMessage) :
    WelcomeOutcome core (core.handleWelcome message) := by
  unfold handleWelcome
  split
  · rename_i ended
    exact .late ended
  · rename_i running
    have running := not_or.mp running
    split
    · rename_i unverified
      exact .outstanding running unverified
    · rename_i settled
      exact .registers running (by simpa using settled) (core.settledIn_welcomed message)

variable [Platform]

/-- What one line does to the lifecycle of a session. -/
inductive LineChange (core : Core) (frame : Bytes) : Core → Prop
  | handshake {changed : Core} (change : Handshake core changed) : LineChange core frame changed
  | settles {message : IrcMessage} {noted changed : Core} (taken : core.Takes frame message)
      (command : message.command = "CAP") (silent : core.upgradePort message = none)
      (sts : StsChange core noted) (change : Handshake noted changed) :
      LineChange core frame changed
  | upgrades {message : IrcMessage} {port : UInt16} {changed : Core}
      (taken : core.Takes frame message) (command : message.command = "CAP")
      (advertised : core.upgradePort message = some port) (upgrade : Upgraded core port changed) :
      LineChange core frame changed
  | watchdog {message : IrcMessage} :
      LineChange core frame (core.reportInbound message).armPingWatchdog
  | welcomes {message : IrcMessage} {changed : Core} (taken : core.Takes frame message)
      (command : message.command = "001")
      (running : core.state ≠ .registered ∧ core.state ≠ .failed)
      (settled : core.scramOutstanding = false) (welcome : Welcomed core changed) :
      LineChange core frame changed
  | retries {message : IrcMessage} (text : String) (finished : core.registrationHandshake = false) :
      LineChange core frame
        (((core.reportInbound message).emitMessageReceived message).fail .network text true)

omit [Platform] in
/-- Reporting a line is a change of the events alone. -/
theorem reportInbound_negotiated (message : IrcMessage) :
    Negotiated core (core.reportInbound message) := .of_eq rfl rfl rfl rfl

omit [Platform] in
/-- Answering a PING writes one frame: the token holds no line terminator. -/
theorem answerPing_negotiated {frame : Bytes} {message : IrcMessage}
    (parsed : parse frame = .ok message) : Negotiated core (core.answerPing message) := by
  unfold answerPing
  split
  · exact .of_eq rfl rfl rfl rfl
  · rename_i token last
    have clean := params_clean_of_parse parsed token (List.mem_of_getLast? last)
    have verb : containsForbidden (utf8 "PONG :") = false := by decide
    exact .sendLine core (isFrame_append_crlf (by simp [verb, clean]))

/-- Every line changes the lifecycle in one of the listed ways. -/
theorem handleFrame_change (frame : Bytes) (settled : core.state ≠ .stsUpgrading) :
    LineChange core frame (core.handleFrame frame) := by
  have outcome := core.handleFrame_outcome frame
  revert outcome
  generalize core.handleFrame frame = changed
  intro outcome
  cases outcome with
  | peripheral change => exact .handshake (.proceeds (.of_peripheral change))
  | @ping message taken command =>
      exact .handshake (.proceeds ((core.reportInbound_negotiated message).trans
        (answerPing_negotiated _ taken.1)))
  | pong taken command => exact .watchdog
  | @cap message taken command =>
      have outcome := handleCap_outcome (core.reportInbound message) message settled
      revert outcome
      generalize (core.reportInbound message).handleCap message = changed
      intro outcome
      cases outcome with
      | settles silent sts change =>
          exact .settles taken command silent
            ⟨sts.link, sts.state, sts.timers, sts.effects, sts.operations⟩ change
      | upgrades advertised upgrade =>
          exact .upgrades taken command advertised
            ⟨upgrade.plaintext, upgrade.link, upgrade.state, upgrade.timers, upgrade.effects⟩
  | @authenticate message taken command =>
      exact .handshake (Handshake.after (handleAuthenticate_handshake _ message)
        (core.reportInbound_negotiated message))
  | @welcome message taken command =>
      have outcome := handleWelcome_outcome (core.reportInbound message) message
      revert outcome
      generalize (core.reportInbound message).handleWelcome message = changed
      intro outcome
      cases outcome with
      | late ended => exact .handshake (.proceeds (core.reportInbound_negotiated message))
      | outstanding running unverified =>
          exact .handshake (.fails (core.reportInbound_negotiated message) _ _)
      | registers running unverified welcome =>
          exact .welcomes taken command running unverified
            ⟨welcome.control, welcome.registrationTimer, welcome.reconnectTimer, welcome.writes⟩
  | @saslSuccess message taken command =>
      exact .handshake (Handshake.after (handleSaslSuccess_handshake _)
        (core.reportInbound_negotiated message))
  | @rejected message text taken command =>
      exact .handshake (.fails (core.reportInbound_negotiated message) _ _)
  | @withoutCap message taken command listing =>
      exact .handshake (Handshake.after (registerWithoutCap_handshake _)
        (core.reportInbound_negotiated message))
  | @refused message taken command unregistered =>
      exact .handshake (Handshake.after (handleRefusal_handshake _ message)
        (core.reportInbound_negotiated message))
  | @error message taken command =>
      have received : Negotiated core ((core.reportInbound message).emitMessageReceived message) :=
        (core.reportInbound_negotiated message).trans (.of_eq rfl rfl rfl rfl)
      have same : ((core.reportInbound message).emitMessageReceived message).registrationHandshake =
        core.registrationHandshake := rfl
      rw [handleError]
      simp only [same]
      split
      · exact .handshake (.fails received _ _)
      · rename_i finished
        exact .retries _ (Bool.eq_false_iff.mpr finished)

omit [Platform] in
/-- A line changes neither the configuration nor the readings nor the transport. -/
theorem LineChange.surroundings {core changed : Core} {frame : Bytes}
    (change : LineChange core frame changed) :
    changed.config = core.config ∧ changed.readings = core.readings ∧
      changed.transport = core.transport := by
  have of_link {noted changed : Core} (link : changed.link =
      { noted.link with connection := changed.connection }) :
      changed.config = noted.config ∧ changed.readings = noted.readings ∧
        changed.transport = noted.transport :=
    ⟨congrArg Link.config link, congrArg Link.readings link, congrArg Link.transport link⟩
  cases change with
  | handshake change => exact of_link change.link
  | settles taken command silent sts change =>
      obtain ⟨config, readings, transport⟩ := of_link change.link
      exact ⟨config.trans (congrArg Link.config sts.link),
        readings.trans (congrArg Link.readings sts.link),
        transport.trans (congrArg Link.transport sts.link)⟩
  | upgrades taken command advertised upgrade =>
      exact ⟨congrArg Link.config upgrade.link, congrArg Link.readings upgrade.link,
        congrArg Link.transport upgrade.link⟩
  | @watchdog message =>
      rcases (core.reportInbound message).armPingWatchdog_toControl with kept | ⟨-, armed⟩
      · exact ⟨congrArg Control.config kept, congrArg Control.readings kept,
          congrArg Control.transport kept⟩
      · exact ⟨(congrArg Control.config armed).trans rfl,
          (congrArg Control.readings armed).trans rfl,
          (congrArg Control.transport armed).trans rfl⟩
  | welcomes taken command running settled welcome =>
      exact ⟨(congrArg Control.config welcome.control).trans rfl,
        (congrArg Control.readings welcome.control).trans rfl,
        (congrArg Control.transport welcome.control).trans rfl⟩
  | retries text finished => exact of_link (fail_link _ _ _ _)

end Core

end Omairc.Session

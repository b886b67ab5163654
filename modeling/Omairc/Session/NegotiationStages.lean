import Omairc.Session.CapRouting

/-!
# The stages of a negotiation, exactly

A CAP line applies its tokens, asks for what it can, registers once, and closes the
negotiation when nothing is outstanding. Each stage is given here by the lifecycle part
it leaves and the effects it queues.
-/

namespace Omairc.Session

open Omairc.Text Omairc.Irc

namespace Core

variable (core : Core)

/-- Writing frames leaves the lifecycle as it is. -/
@[simp] theorem foldl_sendLine_toControl (lines : List Bytes) (core : Core) :
    (lines.foldl sendLine core).toControl = core.toControl := by
  induction lines generalizing core with
  | nil => rfl
  | cons first rest inductionHypothesis =>
      rw [List.foldl_cons, inductionHypothesis, sendLine_toControl]

/-! ## Asking -/

/-- The lines a request round writes. -/
def requestLines (request : IrcCapabilityRequest) : List Bytes :=
  request.lines.map fun text => utf8 ("CAP REQ :" ++ text) ++ crlf

/-- A request round writes its lines and waits for their answers. -/
theorem sendRequest_eq (request : IrcCapabilityRequest) :
    core.sendRequest request =
      if request.lines = [] then core
      else
        ((requestLines request).foldl sendLine
          (if core.registrationSent then core else core.setState .capReq)).armTimer .capability
            (fromMillis core.config.capabilityTimeoutMs) := by
  rw [sendRequest, requestLines, List.foldl_map]
  simp only [List.isEmpty_iff]

/-- A request round moves the state, before registration was sent. -/
theorem sendRequest_toControl (request : IrcCapabilityRequest) :
    (core.sendRequest request).toControl =
      { core.toControl with
        state := if request.lines = [] ∨ core.registrationSent = true then core.state
          else .capReq } := by
  rw [sendRequest_eq]
  split
  · rename_i none
    simp [none]
  · rename_i some
    rw [armTimer_toControl, foldl_sendLine_toControl]
    cases core.registrationSent
    all_goals simp [some]

/-- The lifecycle part after a request round. -/
theorem requested_toControl :
    core.requested.toControl =
      { core.toControl with
        caps := core.caps.takeRequest.1
        sasl := noteRequest core.sasl core.caps.takeRequest.2
        state := if core.caps.takeRequest.2.lines = [] ∨ core.registrationSent = true then
            core.state
          else .capReq } := by
  unfold requested
  rw [sendRequest_toControl]

/-! ## Registering -/

/-- What registering sends, when it was not sent yet. -/
def registrationFrames (core : Core) : Option (List Bytes) :=
  registrationLines core.config
    (core.config.password ≠ "" && (!core.sasl.requested || core.config.nickservPassword ≠ ""))
    core.features

/-- Registering is done once. -/
theorem sendRegistration_of_sent (sent : core.registrationSent = true) :
    core.sendRegistration = core := by
  rw [sendRegistration, if_pos sent]

theorem sendRegistration_of_unsent (unsent : core.registrationSent = false) :
    core.sendRegistration =
      match core.registrationFrames with
      | none => core.fail .registration "IRC registration fields contain invalid characters" false
      | some lines =>
          { lines.foldl sendLine core with registrationSent := true }.setState .registering := by
  rw [sendRegistration, if_neg (by simp [unsent])]
  rfl

/-! ## Closing -/

/-- The negotiation is open, registration was sent, and nothing is outstanding. -/
def closesNegotiation : Bool :=
  !core.capabilityNegotiationEnded && core.state ≠ .registered && core.registrationSent &&
    core.caps.settled && !core.sasl.pending

/-- Closing the negotiation writes CAP END, once nothing is outstanding. -/
theorem endCapabilityNegotiation_eq :
    core.endCapabilityNegotiation =
      if core.closesNegotiation then
        ({ core with capabilityNegotiationEnded := true }.cancelTimer .capability).sendLine
          (utf8 "CAP END" ++ crlf)
      else core := by
  unfold endCapabilityNegotiation closesNegotiation
  cases core.capabilityNegotiationEnded
  all_goals cases core.registrationSent
  all_goals cases core.caps.settled
  all_goals cases core.sasl.pending
  all_goals by_cases registered : core.state = .registered
  all_goals simp [registered]

@[simp] theorem endCapabilityNegotiation_toControl :
    core.endCapabilityNegotiation.toControl =
      { core.toControl with
        capabilityNegotiationEnded :=
          core.capabilityNegotiationEnded || core.closesNegotiation } := by
  rw [endCapabilityNegotiation_eq]
  split
  · rename_i closes
    simp [closes]
  · rename_i open'
    simp [open']

@[simp] theorem endCapabilityNegotiation_state :
    core.endCapabilityNegotiation.state = core.state :=
  (congrArg Control.state core.endCapabilityNegotiation_toControl).trans rfl

/-! ## A round -/

@[simp] theorem requested_registrationSent :
    core.requested.registrationSent = core.registrationSent :=
  (congrArg Control.registrationSent core.requested_toControl).trans rfl

/-- Once registration was sent, a round keeps the state. -/
theorem requestCapabilities_state_of_sent (sent : core.registrationSent = true) :
    core.requestCapabilities.state = core.state := by
  have asked : core.requested.registrationSent = true := core.requested_registrationSent.trans sent
  have kept : core.requested.state = core.state := by
    have moved := congrArg Control.state core.requested_toControl
    simpa only [sent, or_true, if_true] using moved
  rw [requestCapabilities_eq, endCapabilityNegotiation_state, sendRegistration_of_sent _ asked, kept]

/-- Registering for the first time fails, or waits for the welcome. -/
theorem sendRegistration_state_of_unsent (unsent : core.registrationSent = false) :
    core.sendRegistration.state = .registering ∨ core.sendRegistration.state = .failed := by
  rw [core.sendRegistration_of_unsent unsent]
  cases core.registrationFrames with
  | none => exact .inr (by simp)
  | some lines => exact .inl (by simp)

/-- Before registration was sent, a round registers or fails. -/
theorem requestCapabilities_state_of_unsent (unsent : core.registrationSent = false) :
    core.requestCapabilities.state = .registering ∨ core.requestCapabilities.state = .failed := by
  rw [requestCapabilities_eq, endCapabilityNegotiation_state]
  exact core.requested.sendRegistration_state_of_unsent
    (core.requested_registrationSent.trans unsent)

end Core

/-! ## The tokens of a CAP line -/

/-- What the tokens of a subcommand make of the negotiation. -/
def CapSubcommand.apply (caps : IrcCapabilityNegotiation) (tokens : List String) :
    CapSubcommand → IrcCapabilityNegotiation
  | .ls | .new => caps.advertise tokens
  | .del => caps.withdraw tokens
  | .ack => (caps.acknowledge tokens).1
  | .nak => (caps.reject tokens).1

/-- The session after the tokens of a CAP line that begins no upgrade. -/
structure Staged (core : Core) (caps : IrcCapabilityNegotiation) (staged : Core) : Prop where
  control : ∃ capabilityListSeen pendingSts stsOperations stsDuration,
    staged.toControl =
      { core.toControl with
        caps
        capabilityListSeen
        pendingSts
        stsOperations
        stsDuration }
  timers : ∀ slot, slot ≠ .label → staged.timers slot = core.timers slot
  writes : ∃ frames, staged.effects = core.effects ++ queuedWrites frames ∧
    (∀ frame ∈ frames, IsFrame frame) ∧ (frames ≠ [] → core.state = .registered)

namespace Staged

variable {core noted staged : Core} {caps : IrcCapabilityNegotiation}

/-- A peripheral change of the session under its new negotiation. -/
theorem of_peripheral (change : Peripheral IsFrame { core with caps } staged) :
    Staged core caps staged where
  control := ⟨core.capabilityListSeen, core.pendingSts, core.stsOperations, core.stsDuration,
    change.control⟩
  timers := change.timers
  writes := change.writes

/-- An advertisement that is noted after the tokens. -/
theorem of_noted {listed : Core} (list : Staged core caps listed) (noted : StsNoted listed staged) :
    Staged core caps staged where
  control := by
    obtain ⟨seen, pendingSts, operations, duration, control⟩ := list.control
    refine ⟨seen, pendingSts, staged.stsOperations, staged.stsDuration, ?_⟩
    rw [noted.control, control]
  timers := fun slot other => by rw [noted.timers, list.timers slot other]
  writes := by rw [noted.effects]; exact list.writes

theorem state (stage : Staged core caps staged) : staged.state = core.state := by
  obtain ⟨seen, pendingSts, operations, duration, control⟩ := stage.control
  exact (congrArg Control.state control).trans rfl

theorem registrationSent (stage : Staged core caps staged) :
    staged.registrationSent = core.registrationSent := by
  obtain ⟨seen, pendingSts, operations, duration, control⟩ := stage.control
  exact (congrArg Control.registrationSent control).trans rfl

end Staged

namespace Core

variable (core : Core)

/-- A line that begins no upgrade has its advertisement noted. -/
theorem noted_of_silent {listed : Core} {message : IrcMessage}
    {advertisement : Option StsAdvertisement} (tls : listed.tlsEnabled = core.tlsEnabled)
    (acted : core.capAdvertisement message = advertisement)
    (silent : core.upgradePort message = none) :
    StsNoted listed (listed.handleStsAdvertisement advertisement) := by
  refine listed.handleStsAdvertisement_noted ?_
  rw [upgradePort, acted] at silent
  rw [tls]
  by_cases secure : core.tlsEnabled = true
  · exact .inl secure
  · rw [if_neg secure] at silent
    exact .inr silent

variable [Platform]

/-- What a subcommand makes of the session once its tokens are applied. -/
def finishCapSubcommand (core staged : Core) (message : IrcMessage) :
    CapSubcommand × Nat → Core
  | (.ls, index) => if isContinued message index then staged else staged.requestCapabilities
  | (.new, _) | (.del, _) => staged.requestCapabilities
  | (.ack, index) =>
      if .sasl ∈ (core.caps.acknowledge (capabilityTokens message index)).2 ∧
          core.sasl.exchangeStarted = false then
        staged.beginSaslExchange
      else if core.state = .registered then
        staged.subscribeToMemberMetadata.endCapabilityNegotiation
      else staged.endCapabilityNegotiation
  | (.nak, index) =>
      if .sasl ∈ (core.caps.reject (capabilityTokens message index)).2 then
        { staged with sasl.pending := false }.fail .authentication
          "Server rejected the SASL capability" false
      else staged.requestCapabilities

/-- A CAP line that begins no upgrade applies its tokens and goes on with the
negotiation. -/
theorem handleCapSubcommand_staged {message : IrcMessage} {subcommand : CapSubcommand}
    {index : Nat} (settled : core.state ≠ .stsUpgrading)
    (routed : core.capRoute message = some (subcommand, index))
    (silent : core.upgradePort message = none) :
    ∃ staged, Staged core (subcommand.apply core.caps (capabilityTokens message index)) staged ∧
      core.handleCapSubcommand message (subcommand, index) =
        core.finishCapSubcommand staged message (subcommand, index) := by
  have advertised := core.capAdvertisement_eq message
  rw [routed] at advertised
  cases subcommand with
  | ls =>
      have control := core.listed_toControl (capabilityTokens message index)
      have list : Staged core (core.caps.advertise (capabilityTokens message index))
          (core.listed (capabilityTokens message index)) := by
        refine ⟨⟨true, _, core.stsOperations, core.stsDuration, control⟩, ?_, [], ?_, ?_, ?_⟩
        all_goals simp [listed, queuedWrites]
      rw [handleCapSubcommand, handleCapLs_eq]
      simp only [finishCapSubcommand]
      change ∃ staged, _ ∧ (if isContinued message index = true then _ else _) = _
      cases continued : isContinued message index with
      | true =>
          refine ⟨_, list, ?_⟩
          rw [if_pos rfl, if_pos rfl]
      | false =>
          have acted : core.capAdvertisement message =
              (core.listed (capabilityTokens message index)).pendingSts := by
            rw [congrArg Control.pendingSts control, advertised]
            simp [continued]
          have noted := core.noted_of_silent
            ((congrArg Control.tlsEnabled control).trans rfl) acted silent
          have stage := list.of_noted noted
          refine ⟨_, stage, ?_⟩
          rw [if_neg Bool.false_ne_true, if_neg Bool.false_ne_true,
            if_neg (by rw [stage.state]; exact settled)]
  | new =>
      rw [handleCapSubcommand, handleCapNew]
      simp only [finishCapSubcommand]
      have list : Staged core (core.caps.advertise (capabilityTokens message index))
          { core with caps := core.caps.advertise (capabilityTokens message index) } :=
        .of_peripheral (.refl _)
      have noted : StsNoted { core with caps := core.caps.advertise (capabilityTokens message index) }
          (handleStsAdvertisement
            { core with caps := core.caps.advertise (capabilityTokens message index) }
            (parseStsAdvertisement (capabilityTokens message index))) :=
        core.noted_of_silent rfl advertised silent
      have stage := list.of_noted noted
      revert stage
      generalize Core.handleStsAdvertisement _ _ = secured
      intro stage
      have kept : Staged core (core.caps.advertise (capabilityTokens message index))
          (secured.noteMetadata (capabilityTokens message index)) := by
        obtain ⟨control, timers, writes⟩ := stage
        exact ⟨by rw [noteMetadata_toControl]; exact control,
          by rw [noteMetadata_timers]; exact timers, by rw [noteMetadata_effects]; exact writes⟩
      refine ⟨_, kept, ?_⟩
      rw [if_neg (by rw [kept.state]; exact settled)]
  | del =>
      exact ⟨_, .of_peripheral (core.withdrawn_peripheral (capabilityTokens message index)), rfl⟩
  | ack =>
      have stage : Staged core (core.caps.acknowledge (capabilityTokens message index)).1
          (core.acknowledged (capabilityTokens message index)) :=
        .of_peripheral (core.acknowledged_peripheral _)
      refine ⟨_, stage, ?_⟩
      rw [handleCapSubcommand, handleCapAck_eq]
      simp only [finishCapSubcommand, stage.state]
  | nak =>
      have stage : Staged core (core.caps.reject (capabilityTokens message index)).1
          (core.refused (capabilityTokens message index)) := .of_peripheral (.of_eq rfl rfl rfl)
      refine ⟨_, stage, ?_⟩
      rw [handleCapSubcommand, handleCapNak_eq]
      rfl

end Core

end Omairc.Session

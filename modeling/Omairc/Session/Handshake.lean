import Omairc.Session.Failure
import Omairc.Session.Inbound
import Omairc.Session.LineFrames

/-!
# What negotiation and registration change

The handlers of CAP, SASL and registration touch the ledgers of the handshake, move
the state between its handshake states, and write frames. `Link` is the rest of the
lifecycle, which only a failure, an STS advertisement or the welcome changes.
-/

namespace Omairc.Session

open Omairc.Text Omairc.Irc

/-- The part of the lifecycle that a handshake leaves as it is. -/
structure Link where
  config : SessionConfig
  readings : Readings
  transport : Transport
  connection : Connection
  port : UInt16
  tlsEnabled : Bool
  stsOperations : List StsOperation
  stsDuration : Option Int

/-- The link part of a session. -/
def Control.link (control : Control) : Link where
  config := control.config
  readings := control.readings
  transport := control.transport
  connection := control.connection
  port := control.port
  tlsEnabled := control.tlsEnabled
  stsOperations := control.stsOperations
  stsDuration := control.stsDuration

namespace Core

variable (core : Core)

theorem scheduleReconnect_link :
    core.scheduleReconnect.link =
      { core.link with connection := core.scheduleReconnect.connection } := by
  rw [Control.link, scheduleReconnect_toControl]
  split_ifs
  all_goals rfl

/-- A failure changes nothing of the link but the lifecycle decisions. -/
theorem fail_link (kind : ErrorKind) (message : String) (reconnect : Bool) :
    (core.fail kind message reconnect).link =
      { core.link with connection := (core.fail kind message reconnect).connection } := by
  cases reconnect with
  | false =>
      rw [Control.link, fail_fatal_toControl]
      rfl
  | true =>
      by_cases inFlight : core.transport.state.inFlight = true
      · rw [Control.link, fail_retry_inFlight_toControl _ _ _ inFlight]
        rfl
      · rw [fail_retry_idle _ _ _ (by simpa using inFlight), scheduleReconnect_link]
        simp [Control.link]

end Core

/-- The states a handshake moves to. -/
def SessionState.inHandshake : SessionState → Bool
  | .capReq | .sasl | .registering => true
  | _ => false

/-- A change a handshake makes without failing. -/
structure Negotiated (core changed : Core) : Prop where
  link : changed.link = core.link
  state : changed.state = core.state ∨ changed.state.inHandshake = true
  timers : ∀ slot, slot ≠ .label → slot ≠ .capability → changed.timers slot = core.timers slot
  writes : ∃ frames, changed.effects = core.effects ++ queuedWrites frames ∧
    ∀ frame ∈ frames, IsFrame frame

namespace Negotiated

variable {core middle changed : Core}

/-- A change of the negotiation's own ledgers. -/
theorem of_eq (link : changed.link = core.link) (state : changed.state = core.state)
    (timers : changed.timers = core.timers) (effects : changed.effects = core.effects) :
    Negotiated core changed where
  link := link
  state := .inl state
  timers := fun _ _ _ => by rw [timers]
  writes := ⟨[], by simp [effects], by simp⟩

theorem refl (core : Core) : Negotiated core core := of_eq rfl rfl rfl rfl

/-- Changes of a handshake compose. -/
theorem trans (first : Negotiated core middle) (second : Negotiated middle changed) :
    Negotiated core changed where
  link := second.link.trans first.link
  state := by
    rcases second.state with kept | moved
    · rw [kept]
      exact first.state
    · exact .inr moved
  timers := fun slot label capability =>
    (second.timers slot label capability).trans (first.timers slot label capability)
  writes := by
    obtain ⟨front, frontQueued, frontFrames⟩ := first.writes
    obtain ⟨back, backQueued, backFrames⟩ := second.writes
    refine ⟨front ++ back, by simp [backQueued, frontQueued], fun frame written => ?_⟩
    rcases List.mem_append.mp written with early | late
    · exact frontFrames frame early
    · exact backFrames frame late

/-- A change of the ledgers before one of a handshake. -/
theorem after (second : Negotiated middle changed) (link : middle.link = core.link)
    (state : middle.state = core.state) (timers : middle.timers = core.timers)
    (effects : middle.effects = core.effects) : Negotiated core changed :=
  (of_eq link state timers effects).trans second

/-- A change of the ledgers after one of a handshake. -/
theorem before (first : Negotiated core middle) (link : changed.link = middle.link)
    (state : changed.state = middle.state) (timers : changed.timers = middle.timers)
    (effects : changed.effects = middle.effects) : Negotiated core changed :=
  first.trans (of_eq link state timers effects)

/-- A peripheral change is one that a handshake may make. -/
theorem of_peripheral (change : Peripheral IsFrame core changed) : Negotiated core changed where
  link := congrArg Control.link change.control
  state := .inl change.state
  timers := fun slot label _ => change.timers slot label
  writes := by
    obtain ⟨frames, queued, framed, -⟩ := change.writes
    exact ⟨frames, queued, framed⟩

/-- Writing a frame. -/
theorem sendLine (core : Core) {built : Bytes} (frame : IsFrame built) :
    Negotiated core (core.sendLine built) where
  link := by simp
  state := .inl (by simp)
  timers := fun _ _ _ => by simp
  writes := ⟨[built], by rw [core.sendLine_effects (ne_nil_of_isFrame frame)]; rfl, by simpa using frame⟩

/-- Writing frames in order. -/
theorem sendLines {lines : List Bytes} (frames : ∀ frame ∈ lines, IsFrame frame) (core : Core) :
    Negotiated core (lines.foldl Core.sendLine core) := by
  induction lines generalizing core with
  | nil => exact .refl core
  | cons first rest inductionHypothesis =>
      exact (sendLine core (frames first List.mem_cons_self)).trans
        (inductionHypothesis (fun frame within => frames frame (List.mem_cons_of_mem _ within)) _)

/-- Moving to a state of the handshake. -/
theorem setState (core : Core) {state : SessionState} (moves : state.inHandshake = true) :
    Negotiated core (core.setState state) where
  link := by
    simp only [Core.setState_toControl]
    rfl
  state := .inr (by simpa using moves)
  timers := fun _ _ _ => by simp
  writes := ⟨[], by simp, by simp⟩

/-- Arming the capability timer. -/
theorem armCapability (core : Core) (delay : Nat) :
    Negotiated core (core.armTimer .capability delay) where
  link := rfl
  state := .inl rfl
  timers := fun _ _ capability => core.armTimer_timers_of_ne capability delay
  writes := ⟨[], by simp, by simp⟩

/-- Turning the capability timer off. -/
theorem cancelCapability (core : Core) : Negotiated core (core.cancelTimer .capability) where
  link := rfl
  state := .inl rfl
  timers := fun _ _ capability => core.cancelTimer_timers_of_ne capability
  writes := ⟨[], by simp, by simp⟩

end Negotiated

/-- How a handler of the handshake ends: it proceeds, or it fails for good. -/
inductive Handshake (core : Core) : Core → Prop
  | proceeds {changed : Core} (change : Negotiated core changed) : Handshake core changed
  | fails {ended : Core} (change : Negotiated core ended) (kind : ErrorKind) (text : String) :
      Handshake core (ended.fail kind text false)

namespace Handshake

variable {core middle changed : Core}

/-- A handler after a change of the handshake. -/
theorem after (second : Handshake middle changed) (first : Negotiated core middle) :
    Handshake core changed := by
  cases second with
  | proceeds change => exact .proceeds (first.trans change)
  | fails change kind text => exact .fails (first.trans change) kind text

/-- A handler changes nothing of the link but, when it fails, the lifecycle decisions. -/
theorem link (change : Handshake core changed) :
    changed.link = { core.link with connection := changed.connection } := by
  cases change with
  | proceeds change =>
      have same : changed.connection = core.connection := congrArg Link.connection change.link
      rw [change.link, same]
      rfl
  | fails change kind text => rw [Core.fail_link, change.link]

end Handshake

namespace Core

variable (core : Core)

theorem sendRegistration_handshake : Handshake core core.sendRegistration := by
  unfold sendRegistration
  simp only
  split
  · exact .proceeds (.refl core)
  · split
    · exact .fails (.refl core) _ _
    · rename_i lines built
      have sent := Negotiated.sendLines (isFrame_of_registrationLines built) core
      refine .proceeds (Negotiated.trans ?_ (.setState _ rfl))
      exact sent.before rfl rfl rfl rfl

theorem endCapabilityNegotiation_negotiated : Negotiated core core.endCapabilityNegotiation := by
  unfold endCapabilityNegotiation
  repeat' split
  · exact .refl core
  · exact .refl core
  · refine Negotiated.trans ?_ (.sendLine _ (isFrame_append_crlf (by decide)))
    exact (Negotiated.cancelCapability _).after rfl rfl rfl rfl

theorem sendRequest_negotiated {request : IrcCapabilityRequest}
    (clean : ∀ text ∈ request.lines, containsForbidden (utf8 text) = false) :
    Negotiated core (core.sendRequest request) := by
  have moved : Negotiated core
      (if core.registrationSent then core else core.setState .capReq) := by
    split
    · exact .refl core
    · exact .setState core rfl
  unfold sendRequest
  simp only
  split
  · exact .refl core
  · refine Negotiated.trans (moved.trans ?_) (.armCapability _ _)
    rw [← List.foldl_map (f := fun text : String => utf8 ("CAP REQ :" ++ text) ++ crlf)
      (g := sendLine)]
    refine Negotiated.sendLines (fun frame present => ?_) _
    obtain ⟨text, within, rfl⟩ := List.mem_map.mp present
    exact isFrame_capReq (clean text within)

/-- Before registration was sent, negotiation does not end. -/
theorem endCapabilityNegotiation_of_unsent (unsent : core.registrationSent = false) :
    core.endCapabilityNegotiation = core := by
  simp [endCapabilityNegotiation, unsent]

/-- The session after the request lines of a round. -/
def requested (core : Core) : Core :=
  { core with
    caps := core.caps.takeRequest.1
    sasl := noteRequest core.sasl core.caps.takeRequest.2 }.sendRequest core.caps.takeRequest.2

theorem requestCapabilities_eq :
    core.requestCapabilities = core.requested.sendRegistration.endCapabilityNegotiation := by
  unfold requestCapabilities requested
  generalize core.caps.takeRequest = round
  rfl

theorem requested_negotiated : Negotiated core core.requested := by
  have clean := takeRequest_lines_clean core.caps
  unfold requested
  generalize core.caps.takeRequest = round at clean ⊢
  exact (sendRequest_negotiated _ clean).after rfl rfl rfl rfl

theorem requestCapabilities_handshake : Handshake core core.requestCapabilities := by
  rw [requestCapabilities_eq]
  refine Handshake.after ?_ core.requested_negotiated
  generalize core.requested = core
  unfold sendRegistration
  simp only
  split
  · exact .proceeds core.endCapabilityNegotiation_negotiated
  · rename_i unsent
    split
    · rw [endCapabilityNegotiation_of_unsent _ (by simpa using unsent)]
      exact .fails (.refl core) _ _
    · rename_i lines built
      have sent := Negotiated.sendLines (isFrame_of_registrationLines built) core
      refine .proceeds (Negotiated.trans ?_ (endCapabilityNegotiation_negotiated _))
      refine Negotiated.trans ?_ (.setState _ rfl)
      exact sent.before rfl rfl rfl rfl

/-! ## The members of the metadata subscription -/

theorem subscribeToMemberMetadata_negotiated :
    Negotiated core core.subscribeToMemberMetadata := by
  have known : ∀ text ∈ subscribedKeys, containsForbidden (utf8 text) = false := by decide
  have verb : containsForbidden (utf8 "METADATA * SUB ") = false := by decide
  unfold subscribeToMemberMetadata
  simp only
  repeat' split
  · exact .refl core
  · exact .refl core
  · refine .sendLine core (isFrame_append_crlf ?_)
    have keys : containsForbidden (utf8 (joinTexts " " (subscriptionKeys core.metadata.maxSubs))) =
        false := by
      refine containsForbidden_joinTexts (by decide) fun text present => known text ?_
      cases limit : core.metadata.maxSubs with
      | none => simpa [limit, subscriptionKeys] using present
      | some count =>
          rw [limit] at present
          exact List.mem_of_mem_take present
    simp [verb, keys]

/-! ## The handlers of SASL and registration -/

theorem beginSaslExchange_negotiated : Negotiated core core.beginSaslExchange := by
  have started : Negotiated core
      ({ core with sasl.exchangeStarted := true }.setState .sasl) :=
    (Negotiated.setState _ rfl).after rfl rfl rfl rfl
  unfold beginSaslExchange
  simp only
  split
  · refine Negotiated.trans ?_ (.sendLine _ (isFrame_append_crlf (by decide)))
    exact started.before rfl rfl rfl rfl
  · exact started.trans (.sendLine _ (isFrame_append_crlf (by decide)))

theorem registerWithoutCap_handshake : Handshake core core.registerWithoutCap := by
  refine Handshake.after (sendRegistration_handshake _) ?_
  exact (Negotiated.cancelCapability _).after rfl rfl rfl rfl

theorem onCapabilityTimeout_negotiated : Negotiated core core.onCapabilityTimeout := by
  unfold onCapabilityTimeout
  generalize core.caps.abandonOutstanding = round
  simp only
  refine Negotiated.trans ?_ (endCapabilityNegotiation_negotiated _)
  refine Negotiated.trans ?_ (.of_peripheral (publishCapabilities_peripheral _))
  exact .of_eq rfl rfl rfl rfl

theorem handleSaslSuccess_handshake : Handshake core core.handleSaslSuccess := by
  unfold handleSaslSuccess
  repeat' split
  · exact .proceeds (.refl core)
  · exact .proceeds (.refl core)
  · exact .fails (.refl core) _ _
  · refine .proceeds (Negotiated.trans ?_ (.setState _ rfl))
    exact (endCapabilityNegotiation_negotiated _).after rfl rfl rfl rfl

theorem tryRegistrationNickFallback_negotiated :
    Negotiated core core.tryRegistrationNickFallback.1 := by
  unfold tryRegistrationNickFallback
  repeat' split
  · exact .refl core
  · exact .refl core
  · exact .refl core
  · rename_i built accepted
    exact (Negotiated.sendLine _ (isFrame_of_nick accepted)).after rfl rfl rfl rfl

variable [Platform]

theorem handleRefusal_handshake (message : IrcMessage) :
    Handshake core (core.handleRefusal message) := by
  have tried := core.tryRegistrationNickFallback_negotiated
  unfold handleRefusal
  simp only
  split
  · split
    · rename_i result
      rw [result] at tried
      exact .proceeds tried
    · rename_i result
      rw [result] at tried
      exact .fails tried _ _
  · exact .fails (.refl core) _ _

theorem sendSaslResponse_negotiated (raw : Bytes) : Negotiated core (core.sendSaslResponse raw) :=
  .sendLines (fun _ => isFrame_of_encodeSaslFrames) core

theorem handleScramAuthenticate_handshake (payload : Bytes) :
    Handshake core (core.handleScramAuthenticate payload) := by
  unfold handleScramAuthenticate
  split
  · exact .proceeds (.refl core)
  · rename_i exchange running
    generalize exchange.takePayload payload core.config.saslAccountName core.config.saslSecret
      core.readings.entropy = taken
    simp only
    split
    · refine .proceeds (Negotiated.trans ?_ (sendSaslResponse_negotiated _ _))
      exact .of_eq rfl rfl rfl rfl
    · exact .proceeds (.of_eq rfl rfl rfl rfl)
    · refine .fails ?_ _ _
      exact .of_eq rfl rfl rfl rfl

theorem handleAuthenticate_handshake (message : IrcMessage) :
    Handshake core (core.handleAuthenticate message) := by
  unfold handleAuthenticate
  simp only
  split_ifs
  · exact .proceeds (.refl core)
  · exact .fails (.refl core) _ _
  · exact core.handleScramAuthenticate_handshake _
  · exact .proceeds (.refl core)
  · exact .proceeds (core.sendSaslResponse_negotiated _)

/-! ## The subcommands of CAP

Each handler applies the tokens of its line, and then goes on with the negotiation.
The stages in between are named, with what they change. -/

/-- The session after the tokens of a CAP LS. -/
def listed (core : Core) (tokens : List String) : Core :=
  { core with
    capabilityListSeen := true
    caps := core.caps.advertise tokens
    pendingSts := (parseStsAdvertisement tokens).or core.pendingSts }.noteMetadata tokens

/-- The session after the tokens of a CAP DEL. -/
def withdrawn (core : Core) (tokens : List String) : Core :=
  let withdrawn :=
    { core with
      caps := core.caps.withdraw tokens
      readMarkerToken := core.readMarkerToken.filter fun token =>
        !tokens.contains token.text }.publishCapabilities
  let limited := if .memberMetadata ∉ withdrawn.caps.enabled then { withdrawn with metadata := {} }
    else withdrawn
  if limited.replayEnabled .chat then limited else limited.abandonHistoryRequests

/-- The session after the tokens of a CAP ACK. -/
def acknowledged (core : Core) (tokens : List String) : Core :=
  (({ core with caps := (core.caps.acknowledge tokens).1 }.noteReadMarkerAck tokens
    (core.caps.acknowledge tokens).2).noteAcknowledgedMetadata tokens).publishCapabilities

/-- The session after the tokens of a CAP NAK. -/
def refused (core : Core) (tokens : List String) : Core :=
  { core with caps := (core.caps.reject tokens).1 }

@[simp] theorem noteMetadata_toControl (tokens : List String) :
    (core.noteMetadata tokens).toControl = core.toControl := by
  unfold noteMetadata
  split
  all_goals rfl

@[simp] theorem noteMetadata_timers (tokens : List String) :
    (core.noteMetadata tokens).timers = core.timers := by
  unfold noteMetadata
  split
  all_goals rfl

@[simp] theorem noteMetadata_effects (tokens : List String) :
    (core.noteMetadata tokens).effects = core.effects := by
  unfold noteMetadata
  split
  all_goals rfl

omit [Platform] in
/-- The tokens of a CAP DEL are dropped from the negotiation. -/
theorem withdrawn_peripheral (tokens : List String) :
    Peripheral IsFrame { core with caps := core.caps.withdraw tokens } (core.withdrawn tokens) := by
  have published : Peripheral IsFrame { core with caps := core.caps.withdraw tokens }
      ({ core with
        caps := core.caps.withdraw tokens
        readMarkerToken := core.readMarkerToken.filter fun token =>
          !tokens.contains token.text }.publishCapabilities) :=
    (publishCapabilities_peripheral _).after rfl rfl rfl
  unfold withdrawn
  simp only
  revert published
  generalize Core.publishCapabilities _ = withdrawn
  intro published
  have limited : Peripheral IsFrame { core with caps := core.caps.withdraw tokens }
      (if .memberMetadata ∉ withdrawn.caps.enabled then { withdrawn with metadata := {} }
        else withdrawn) := by
    split
    · exact published.before rfl rfl rfl
    · exact published
  revert limited
  generalize (if .memberMetadata ∉ withdrawn.caps.enabled then { withdrawn with metadata := {} }
    else withdrawn) = left
  intro limited
  split
  · exact limited
  · exact limited.trans (abandonHistoryRequests_peripheral _)

/-- The tokens of a CAP ACK are enabled in the negotiation. -/
theorem acknowledged_peripheral (tokens : List String) :
    Peripheral IsFrame { core with caps := (core.caps.acknowledge tokens).1 }
      (core.acknowledged tokens) := by
  unfold acknowledged
  generalize core.caps.acknowledge tokens = round
  have marked : Peripheral IsFrame { core with caps := round.1 }
      ({ core with caps := round.1 }.noteReadMarkerAck tokens round.2) := by
    unfold noteReadMarkerAck
    split
    all_goals exact .of_eq rfl rfl rfl
  refine Peripheral.trans ?_ (publishCapabilities_peripheral _)
  refine marked.trans ?_
  unfold noteAcknowledgedMetadata
  repeat' split
  all_goals exact .of_eq rfl rfl rfl

/-- What `CAP LS` does: a line that others follow only lists its tokens. -/
theorem handleCapLs_eq (message : IrcMessage) (index : Nat) :
    core.handleCapLs message index =
      let listed := core.listed (capabilityTokens message index)
      if message.params.length > index + 1 && message.textParam (index + 1) = "*" then listed
      else
        let secured := listed.handleStsAdvertisement listed.pendingSts
        if secured.state = .stsUpgrading then secured else secured.requestCapabilities := rfl

omit [Platform] in
theorem handleCapDel_eq (message : IrcMessage) (index : Nat) :
    core.handleCapDel message index =
      (core.withdrawn (capabilityTokens message index)).requestCapabilities := rfl

theorem handleCapAck_eq (message : IrcMessage) (index : Nat) :
    core.handleCapAck message index =
      let tokens := capabilityTokens message index
      let acknowledged := core.acknowledged tokens
      if .sasl ∈ (core.caps.acknowledge tokens).2 ∧ core.sasl.exchangeStarted = false then
        acknowledged.beginSaslExchange
      else if acknowledged.state = .registered then
        acknowledged.subscribeToMemberMetadata.endCapabilityNegotiation
      else acknowledged.endCapabilityNegotiation := by
  unfold handleCapAck acknowledged
  simp only

omit [Platform] in
theorem handleCapNak_eq (message : IrcMessage) (index : Nat) :
    core.handleCapNak message index =
      let tokens := capabilityTokens message index
      if .sasl ∈ (core.caps.reject tokens).2 then
        { core.refused tokens with sasl.pending := false }.fail .authentication
          "Server rejected the SASL capability" false
      else (core.refused tokens).requestCapabilities := by
  unfold handleCapNak refused
  simp only

theorem handleCapAck_negotiated (message : IrcMessage) (index : Nat) :
    Negotiated core (core.handleCapAck message index) := by
  rw [handleCapAck_eq]
  simp only
  generalize capabilityTokens message index = tokens
  have acknowledged : Negotiated core (core.acknowledged tokens) :=
    Negotiated.after (.of_peripheral (core.acknowledged_peripheral tokens)) rfl rfl rfl rfl
  split_ifs
  · exact acknowledged.trans (beginSaslExchange_negotiated _)
  · exact (acknowledged.trans (subscribeToMemberMetadata_negotiated _)).trans
      (endCapabilityNegotiation_negotiated _)
  · exact acknowledged.trans (endCapabilityNegotiation_negotiated _)

omit [Platform] in
theorem handleCapNak_handshake (message : IrcMessage) (index : Nat) :
    Handshake core (core.handleCapNak message index) := by
  rw [handleCapNak_eq]
  simp only
  generalize capabilityTokens message index = tokens
  split
  · refine .fails ?_ _ _
    exact .of_eq rfl rfl rfl rfl
  · refine Handshake.after (requestCapabilities_handshake _) ?_
    exact .of_eq rfl rfl rfl rfl

end Core

end Omairc.Session

import Omairc.Session.CapRouting
import Omairc.Session.Ledgers
import Omairc.Session.Steps

/-!
# Every step moves the ledgers

Each handler, entry point and step of the system is a sequence of ledger moves. An
invariant of the ledgers that every move keeps therefore holds in every reachable
session.
-/

namespace Omairc.Session

open Omairc.Text Omairc.Irc

namespace Core

/-! ## Registration and the welcome -/

variable {unsettled : Prop} (core : Core)

theorem beginCapabilityNegotiation_quiet : Quiet core core.beginCapabilityNegotiation :=
  ((core.setState_quiet _).trans (sendLine_quiet _ _)).trans (armTimer_quiet _ (by decide) _)

theorem onConnected_quiet : Quiet core core.onConnected := by
  unfold onConnected
  split
  · exact core.beginCapabilityNegotiation_quiet
  · exact .refl core

theorem onEncrypted_quiet : Quiet core core.onEncrypted := by
  unfold onEncrypted
  split
  · exact core.beginCapabilityNegotiation_quiet
  · exact .refl core

theorem onCapabilityTimeout_quiet : Quiet core core.onCapabilityTimeout := by
  unfold onCapabilityTimeout
  generalize core.caps.abandonOutstanding = round
  refine Quiet.trans ?_ (endCapabilityNegotiation_quiet _)
  exact (publishCapabilities_quiet _).after rfl

theorem identify_quiet : Quiet core core.identify := by
  unfold identify
  simp only
  split
  · exact .refl core
  · refine Quiet.trans ?_ (sendPrivmsgLocked_quiet _ _ _)
    split
    · exact .refl core
    · exact .emit core ⟨rfl, rfl⟩

theorem joinAutojoinChannel_quiet (channel : String) :
    Quiet core (core.joinAutojoinChannel channel) := by
  unfold joinAutojoinChannel
  simp only
  repeat' split
  · exact .emit core ⟨rfl, rfl⟩
  · rename_i result
    exact (core.joinLocked_quiet _).of_result result
  · rename_i result
    exact ((core.joinLocked_quiet _).of_result result).trans (.emit _ ⟨rfl, rfl⟩)

theorem settledIn_quiet : Quiet core core.settledIn := by
  unfold settledIn
  refine Quiet.trans ?_ (.foldl joinAutojoinChannel_quiet _ _)
  exact (core.armPingWatchdog_quiet.trans (subscribeToMemberMetadata_quiet _)).trans
    (identify_quiet _)

theorem welcomed_quiet (message : IrcMessage) : Quiet core (core.welcomed message) := by
  have registration : TimerSlot.registration ≠ .label := by decide
  have capability : TimerSlot.capability ≠ .label := by decide
  have named : Quiet core
      (if message.textParam 0 ≠ "" then { core with nickname := message.textParam 0 } else core) := by
    split
    all_goals rfl
  unfold welcomed
  simp only
  revert named
  generalize (if message.textParam 0 ≠ "" then { core with nickname := message.textParam 0 }
    else core) = assigned
  intro named
  have settled : Quiet core
      (({ assigned with connection := assigned.connection.resetRetries }.cancelTimer
        .capability).cancelTimer .registration) :=
    (Quiet.trans (named.before rfl) (cancelTimer_quiet _ capability)).trans
      (cancelTimer_quiet _ registration)
  revert settled
  generalize Core.cancelTimer _ .registration = cleared
  intro settled
  refine Quiet.trans ?_ (.emit _ ⟨rfl, rfl⟩)
  exact Quiet.trans (settled.before rfl) (setState_quiet _ _)

theorem tryRegistrationNickFallback_quiet : Quiet core core.tryRegistrationNickFallback.1 := by
  unfold tryRegistrationNickFallback
  repeat' split
  any_goals exact .refl core
  exact (sendLine_quiet _ _).after rfl

theorem beginSaslExchange_quiet : Quiet core core.beginSaslExchange := by
  have started : Quiet core ({ core with sasl.exchangeStarted := true }.setState .sasl) :=
    (setState_quiet _ _).after rfl
  unfold beginSaslExchange
  simp only
  split
  · exact (started.before rfl).trans (sendLine_quiet _ _)
  · exact started.trans (sendLine_quiet _ _)

variable [Platform]

theorem handleWelcome_moves (message : IrcMessage) :
    LineMoves unsettled core (core.handleWelcome message) := by
  unfold handleWelcome
  split
  · exact .refl core
  · split
    · exact core.fail_moves _ _ _
    · exact .of_quiet ((core.welcomed_quiet message).trans (settledIn_quiet _))

theorem registerWithoutCap_moves : LineMoves unsettled core core.registerWithoutCap := by
  have capability : TimerSlot.capability ≠ .label := by decide
  refine LineMoves.trans ?_ (sendRegistration_moves _)
  exact .of_quiet ((cancelTimer_quiet _ capability).after rfl)

theorem onRegistrationTimeout_moves : LineMoves unsettled core core.onRegistrationTimeout := by
  unfold onRegistrationTimeout
  split
  · exact .refl core
  · exact core.fail_moves _ _ _

theorem onPingWatchdogFired_moves : LineMoves unsettled core core.onPingWatchdogFired := by
  unfold onPingWatchdogFired
  simp only
  repeat' split
  · exact .refl core
  · refine .of_quiet (Quiet.trans ?_ (armTimer_quiet _ (by decide) _))
    exact (sendLine_quiet _ _).after rfl
  · exact (fail_moves _ _ _ _).after rfl
  · exact .of_quiet rfl

theorem handleRefusal_moves (message : IrcMessage) :
    LineMoves unsettled core (core.handleRefusal message) := by
  unfold handleRefusal
  simp only
  repeat' split
  · rename_i result
    exact .of_quiet (core.tryRegistrationNickFallback_quiet.of_result result)
  · rename_i result
    exact (LineMoves.of_quiet (core.tryRegistrationNickFallback_quiet.of_result result)).trans
      (fail_moves _ _ _ _)
  · exact core.fail_moves _ _ _

theorem handleError_moves (message : IrcMessage) : LineMoves unsettled core (core.handleError message) := by
  have received : LineMoves unsettled core (core.emitMessageReceived message) :=
    .of_quiet (core.emitMessageReceived_quiet message)
  unfold handleError
  simp only
  split
  · exact received.trans (fail_moves _ _ _ _)
  · exact received.trans (fail_moves _ _ _ _)

/-! ## CAP and SASL -/

theorem noteMetadata_quiet (tokens : List String) : Quiet core (core.noteMetadata tokens) := by
  unfold noteMetadata
  split
  all_goals rfl

theorem handleCapLs_moves (message : IrcMessage) (index : Nat) :
    LineMoves unsettled core (core.handleCapLs message index) := by
  have listed : Quiet core (core.listed (capabilityTokens message index)) :=
    (noteMetadata_quiet _ _).after rfl
  have secured := listed.trans (handleStsAdvertisement_quiet _
    (core.listed (capabilityTokens message index)).pendingSts)
  rw [handleCapLs_eq]
  simp only
  repeat' split
  · exact .of_quiet listed
  · exact .of_quiet secured
  · exact (LineMoves.of_quiet secured).trans (requestCapabilities_moves _)

theorem handleCapNew_moves (message : IrcMessage) (index : Nat) :
    LineMoves unsettled core (core.handleCapNew message index) := by
  have secured : Quiet core
      (({ core with caps := core.caps.advertise (capabilityTokens message index)
        }.handleStsAdvertisement (parseStsAdvertisement (capabilityTokens message index))
        ).noteMetadata (capabilityTokens message index)) := by
    refine Quiet.trans ?_ (noteMetadata_quiet _ _)
    exact (handleStsAdvertisement_quiet _ _).after rfl
  unfold handleCapNew
  simp only
  split
  · exact .of_quiet secured
  · exact (LineMoves.of_quiet secured).trans (requestCapabilities_moves _)

theorem withdrawn_moves (tokens : List String) : LineMoves unsettled core (core.withdrawn tokens) := by
  have published : Quiet core
      ({ core with
        caps := core.caps.withdraw tokens
        readMarkerToken := core.readMarkerToken.filter fun token =>
          !tokens.contains token.text }.publishCapabilities) :=
    (publishCapabilities_quiet _).after rfl
  unfold withdrawn
  simp only
  revert published
  generalize Core.publishCapabilities _ = withdrawn
  intro published
  have limited : Quiet core
      (if .memberMetadata ∉ withdrawn.caps.enabled then { withdrawn with metadata := {} }
        else withdrawn) := by
    split
    · exact published.before rfl
    · exact published
  revert limited
  generalize (if .memberMetadata ∉ withdrawn.caps.enabled then { withdrawn with metadata := {} }
    else withdrawn) = left
  intro limited
  split
  · exact .of_quiet limited
  · exact (LineMoves.of_quiet limited).trans (.single (.history .abandons))

theorem acknowledged_quiet (tokens : List String) : Quiet core (core.acknowledged tokens) := by
  unfold acknowledged
  refine Quiet.trans ?_ (publishCapabilities_quiet _)
  unfold noteAcknowledgedMetadata noteReadMarkerAck
  repeat' split
  all_goals rfl

theorem handleCapAck_moves (message : IrcMessage) (index : Nat) :
    LineMoves unsettled core (core.handleCapAck message index) := by
  rw [handleCapAck_eq]
  simp only
  have acknowledged := core.acknowledged_quiet (capabilityTokens message index)
  split_ifs
  · exact .of_quiet (Quiet.trans acknowledged (beginSaslExchange_quiet _))
  · refine .of_quiet (Quiet.trans ?_ (endCapabilityNegotiation_quiet _))
    exact Quiet.trans acknowledged (subscribeToMemberMetadata_quiet _)
  · exact .of_quiet (Quiet.trans acknowledged (endCapabilityNegotiation_quiet _))

omit [Platform] in
theorem refused_quiet (tokens : List String) : Quiet core (core.refused tokens) := rfl

theorem handleCapNak_moves (message : IrcMessage) (index : Nat) :
    LineMoves unsettled core (core.handleCapNak message index) := by
  rw [handleCapNak_eq]
  simp only
  have refused := core.refused_quiet (capabilityTokens message index)
  revert refused
  generalize core.refused (capabilityTokens message index) = rejected
  intro refused
  have settled : Quiet core { rejected with sasl.pending := false } := refused
  split_ifs
  · exact (LineMoves.of_quiet settled).trans (fail_moves _ _ _ _)
  · exact (LineMoves.of_quiet refused).trans (requestCapabilities_moves _)

theorem handleCapSubcommand_moves (message : IrcMessage) (found : CapSubcommand × Nat) :
    LineMoves unsettled core (core.handleCapSubcommand message found) := by
  obtain ⟨subcommand, index⟩ := found
  cases subcommand with
  | ls => exact core.handleCapLs_moves message index
  | new => exact core.handleCapNew_moves message index
  | del =>
      rw [handleCapSubcommand, handleCapDel_eq]
      exact (core.withdrawn_moves _).trans (requestCapabilities_moves _)
  | ack => exact core.handleCapAck_moves message index
  | nak => exact core.handleCapNak_moves message index

theorem handleCap_moves (message : IrcMessage) : LineMoves unsettled core (core.handleCap message) := by
  rw [handleCap_eq]
  cases core.capRoute message with
  | none => exact .refl core
  | some found => exact core.handleCapSubcommand_moves message found

theorem sendSaslResponse_quiet (raw : Bytes) : Quiet core (core.sendSaslResponse raw) :=
  .foldl sendLine_quiet _ core

theorem handleScramAuthenticate_moves (payload : Bytes) :
    LineMoves unsettled core (core.handleScramAuthenticate payload) := by
  unfold handleScramAuthenticate
  split
  · exact .refl core
  · rename_i exchange running
    generalize exchange.takePayload payload core.config.saslAccountName core.config.saslSecret
      core.readings.entropy = taken
    simp only
    split
    · refine .of_quiet (Quiet.trans ?_ (sendSaslResponse_quiet _ _))
      rfl
    · exact .of_quiet rfl
    · refine LineMoves.trans (.of_quiet ?_) (fail_moves _ _ _ _)
      rfl

theorem handleAuthenticate_moves (message : IrcMessage) :
    LineMoves unsettled core (core.handleAuthenticate message) := by
  unfold handleAuthenticate
  simp only
  split_ifs
  · exact .refl core
  · exact core.fail_moves _ _ _
  · exact core.handleScramAuthenticate_moves _
  · exact .refl core
  · exact .of_quiet (core.sendSaslResponse_quiet _)

theorem handleSaslSuccess_moves : LineMoves unsettled core core.handleSaslSuccess := by
  unfold handleSaslSuccess
  repeat' split
  any_goals exact .refl core
  · exact core.fail_moves _ _ _
  · refine .of_quiet (Quiet.trans ?_ (setState_quiet _ _))
    refine Quiet.trans ?_ (endCapabilityNegotiation_quiet _)
    rfl

/-! ## Messages -/

theorem requestChannelHistory_moves (channel : String) :
    LineMoves True core (core.requestChannelHistory channel) := by
  have latest (core : Core) : LineMoves True core (core.requestHistoryLatest channel).1 :=
    .single (.history (.latest channel))
  unfold requestChannelHistory
  split_ifs
  · exact .refl core
  · exact .refl core
  · split
    · rename_i time resumed
      have asked : LineMoves True core (core.requestHistoryAfter channel time).1 :=
        .single (.history (.after channel time trivial))
      split
      · rename_i sent result
        exact asked.of_result result
      · rename_i refused result
        exact (asked.of_result result).trans (latest refused)
    · exact latest core

/-- A joined channel's history is asked for under a new generation, and then no ledger moves. -/
theorem noteSelfJoin_quiet (channel : String) :
    Quiet ((core.bumpHistoryGeneration channel).requestChannelHistory channel)
      (core.noteSelfJoin channel) := by
  have recorded := recordAutojoin_quiet
    ((core.bumpHistoryGeneration channel).requestChannelHistory channel) channel true
  unfold noteSelfJoin
  simp only
  repeat' split
  · exact recorded.before rfl
  · exact recorded
  · exact recorded

theorem noteSelfLeave_moves (channel : String) :
    LineMoves unsettled core (core.noteSelfLeave channel) := by
  refine LineMoves.trans ?_ (.of_quiet (recordAutojoin_quiet _ _ _))
  exact (LineMoves.single (.history (.bumps channel))).trans (.single (.history (.forgets channel)))

theorem noteMembership_moves (message : IrcMessage) (selfPrefixed : Bool)
    (steady : ¬ (message.command = "JOIN" ∧ selfPrefixed = true)) :
    LineMoves unsettled core (core.noteMembership message selfPrefixed) := by
  unfold noteMembership
  simp only
  rw [if_neg steady]
  split_ifs
  any_goals exact .refl core
  · exact core.noteSelfLeave_moves _
  · exact core.noteSelfLeave_moves _
  · exact .of_quiet (core.dropStoredAutojoinKey_quiet _)

/-- Whether a message is this session's own JOIN of a channel. -/
def joins (message : IrcMessage) : Bool :=
  message.command = "JOIN" && core.selfPrefixed message && message.textParam 0 ≠ ""

/-- A JOIN is delivered, and the session follows its own. -/
theorem deliverMessage_of_join {message : IrcMessage} (join : message.command = "JOIN") :
    core.deliverMessage message =
      ((core.emitMessageReceived message).noteMembership message
        (core.selfPrefixed message)).finishRequestLabel ((message.tagText "label").getD "") := by
  have unrenamed : core.noteNickChange message = core := by
    simp [noteNickChange, join]
  simp only [deliverMessage, unrenamed]
  rw [if_neg (by simp [join]), if_neg (by simp [join])]
  rfl

/-- This session's own JOIN asks for the channel's history under a new generation. -/
theorem deliverMessage_joins {message : IrcMessage} (joined : core.joins message = true) :
    LineMoves unsettled
      (((core.emitMessageReceived message).bumpHistoryGeneration
        (message.textParam 0)).requestChannelHistory (message.textParam 0))
      (core.deliverMessage message) := by
  simp only [joins, Bool.and_eq_true, decide_eq_true_eq] at joined
  obtain ⟨⟨join, self⟩, named⟩ := joined
  rw [core.deliverMessage_of_join join, noteMembership, if_pos ⟨join, self⟩, if_neg named]
  exact (LineMoves.of_quiet (noteSelfJoin_quiet _ _)).trans (.single (.label (.finishes _)))

theorem deliverMessage_moves {message : IrcMessage} (steady : core.joins message = false) :
    LineMoves unsettled core (core.deliverMessage message) := by
  have received (core : Core) : LineMoves unsettled core (core.emitMessageReceived message) :=
    .of_quiet (core.emitMessageReceived_quiet message)
  by_cases join : message.command = "JOIN"
  · rw [core.deliverMessage_of_join join]
    refine LineMoves.trans (LineMoves.trans (received core) ?_) (.single (.label (.finishes _)))
    by_cases self : core.selfPrefixed message = true
    · have unnamed : message.textParam 0 = "" := by
        simpa [joins, join, self] using steady
      rw [noteMembership, if_pos ⟨join, self⟩, if_pos unnamed]
      exact .refl _
    · exact noteMembership_moves _ message _ fun both => self both.2
  · have renamed : LineMoves unsettled core (core.noteNickChange message) :=
      .of_quiet (core.noteNickChange_quiet message)
    unfold deliverMessage
    simp only
    revert renamed
    generalize core.noteNickChange message = renamed
    intro moved
    have failed : LineMoves unsettled core (if message.command = "FAIL" then
        (renamed.handleChatHistoryFail message).handleReadMarkerFail message else renamed) := by
      split
      · exact (moved.trans (.single (.history (.fails message)))).trans
          (.single (.marker (.fails message)))
      · exact moved
    revert failed
    generalize (if message.command = "FAIL" then
      (renamed.handleChatHistoryFail message).handleReadMarkerFail message else renamed) = answered
    intro failed
    have probed : LineMoves unsettled core
        (if message.command = "366" ∧ message.params.length ≥ 2 then
          answered.probeChannelAway (message.textParam 1) else answered) := by
      split
      · exact failed.trans (.of_quiet (probeChannelAway_quiet _ _))
      · exact failed
    refine LineMoves.trans ?_ (.single (.label (.finishes _)))
    refine LineMoves.trans ?_ (noteMembership_moves _ message _ fun both => join both.1)
    exact probed.trans (received _)

theorem answerCtcp_quiet (message : IrcMessage) : Quiet core (core.answerCtcp message).1 := by
  unfold answerCtcp
  split
  · exact .refl core
  · simp only
    repeat' split
    any_goals exact .refl core
    all_goals
      rename_i result
      have allowed : Quiet core (core.allowCtcpReply (prefixNick message)).1 := by
        unfold allowCtcpReply
        simp only
        split
        all_goals rfl
    · exact allowed.of_result result
    · exact (allowed.of_result result).trans (sendTrailingBody_quiet _ _ _ _ _)

theorem consumeCtcp_quiet (message : IrcMessage) : Quiet core (core.consumeCtcp message).1 := by
  unfold consumeCtcp
  split
  · exact core.answerCtcp_quiet message
  · exact .refl core

omit [Platform] in
/-- The bookkeeping before routing changes no ledger but the features. -/
theorem prepareMessage_ledgers (message : IrcMessage) :
    (core.prepareMessage message).ledgers =
      { core.ledgers with features := (core.prepareMessage message).features } := by
  have token (core : Core) (token : String) :
      (core.applyIsupportToken token).ledgers =
        { core.ledgers with features := (core.applyIsupportToken token).features } := by
    unfold applyIsupportToken
    simp only
    repeat' split
    all_goals rfl
  have tokens (texts : List String) (core : Core) :
      (texts.foldl applyIsupportToken core).ledgers =
        { core.ledgers with features := (texts.foldl applyIsupportToken core).features } := by
    induction texts generalizing core with
    | nil => rfl
    | cons text rest inductionHypothesis =>
        rw [List.foldl_cons, inductionHypothesis, token]
  have featured (core : Core) : (core.applyIsupport message).ledgers =
      { core.ledgers with features := (core.applyIsupport message).features } := by
    unfold applyIsupport
    split
    · rfl
    · exact tokens _ core
  have ended (core : Core) : (core.noteWelcomeEnd message).ledgers =
      { core.ledgers with features := (core.noteWelcomeEnd message).features } := by
    unfold noteWelcomeEnd
    split
    all_goals rfl
  have reported : ((core.noteInvite message).reportInbound message).ledgers = core.ledgers :=
    (core.noteInvite_quiet message).trans (reportInbound_quiet _ message)
  rw [prepareMessage, ended, featured, reported]

theorem handleCommand_moves {message : IrcMessage} (steady : core.joins message = false) :
    LineMoves unsettled core (core.handleCommand message) := by
  unfold handleCommand
  simp only
  split
  · exact core.handleCap_moves message
  split
  · exact core.handleAuthenticate_moves message
  split
  · exact core.handleWelcome_moves message
  split
  · exact core.handleSaslSuccess_moves
  split
  · exact .of_quiet (core.handleMetadataSyncLater_quiet message)
  split
  · exact core.fail_moves _ _ _
  split
  · exact core.registerWithoutCap_moves
  split
  · exact core.fail_moves _ _ _
  split
  · exact core.handleRefusal_moves message
  split
  · exact core.handleError_moves message
  exact core.deliverMessage_moves steady

/-- A JOIN is routed to its delivery. -/
theorem routeMessage_of_join {message : IrcMessage} (join : message.command = "JOIN") :
    core.routeMessage message = core.deliverMessage message := by
  have unmarked : core.deliverReadMarker message = (core, false) := by
    rw [deliverReadMarker, if_pos (by simp [join])]
  have unqueried : core.consumeCtcp message = (core, false) := by
    rw [consumeCtcp, if_neg (by simp [join])]
  have delivered : core.handleCommand message = core.deliverMessage message := by
    simp [handleCommand, isRegistrationRefusal, join]
  rw [routeMessage, if_neg (by simp [join]), if_neg (by simp [join]), if_neg (by simp [join]),
    unmarked]
  simp only [unqueried, delivered]

theorem routeMessage_moves {message : IrcMessage} (steady : core.joins message = false) :
    LineMoves unsettled core (core.routeMessage message) := by
  by_cases join : message.command = "JOIN"
  · rw [core.routeMessage_of_join join]
    exact core.deliverMessage_moves steady
  · unfold routeMessage
    split_ifs
    · exact .single (.label (.finishes _))
    · exact .of_quiet (core.answerPing_quiet message)
    · exact .of_quiet core.armPingWatchdog_quiet
    · have marked : LineMoves unsettled core (core.deliverReadMarker message).1 :=
        .single (.marker (.delivers message))
      split
      · rename_i delivered result
        exact marked.of_result result
      · rename_i undelivered result
        have read := marked.of_result result
        have queried := undelivered.consumeCtcp_quiet message
        split
        · rename_i consumed asked
          exact read.trans (.of_quiet (queried.of_result asked))
        · rename_i unconsumed asked
          refine (read.trans (.of_quiet (queried.of_result asked))).trans ?_
          exact handleCommand_moves _ (by simp [joins, join])

omit [Platform] in
/-- What is noted of a message changes no batch, so it is swallowed as it was before. -/
theorem captureInBatch_prepared (message : IrcMessage) :
    ((core.prepareMessage message).captureInBatch message).2 =
      (core.captureInBatch message).2 :=
  core.captureInBatch_congr _ (congrArg Ledgers.batches (core.prepareMessage_ledgers message))
    message

/-- A message that is not a BATCH line, and that no batch swallows, is routed. -/
theorem handleMessage_of_uncaptured {message : IrcMessage} (unignored : core.ignores message = false)
    (other : message.command ≠ "BATCH") (uncaptured : (core.captureInBatch message).2 = false) :
    core.handleMessage message = (core.prepareMessage message).routeMessage message := by
  rw [← captureInBatch_prepared] at uncaptured
  simp only [handleMessage, if_neg (show ¬ core.ignores message = true by simp [unignored]),
    if_neg other]
  rw [captureInBatch_of_uncaptured _ uncaptured]

omit [Platform] in
/-- A JOIN is this session's own before it is reported and after. -/
theorem joins_prepared (message : IrcMessage) :
    (core.prepareMessage message).joins message = core.joins message := by
  by_cases join : message.command = "JOIN"
  · rw [core.prepareMessage_of_plain (by rw [join]; decide)]
    rfl
  · simp [joins, join]

/-- A message that is not a BATCH line, and that no batch swallows, moves the ledgers. -/
theorem handleMessage_moves {message : IrcMessage}
    (other : core.ignores message = true ∨
      message.command ≠ "BATCH" ∧ (core.captureInBatch message).2 = false) :
    LineMoves True core (core.handleMessage message) := by
  by_cases ignored : core.ignores message = true
  · rw [handleMessage, if_pos ignored]
    exact .refl core
  · obtain ⟨batch, uncaptured⟩ := other.resolve_left ignored
    rw [core.handleMessage_of_uncaptured (eq_false_of_ne_true ignored) batch uncaptured]
    have prepared : LineMoves True core (core.prepareMessage message) :=
      .single (.adopts _ trivial (core.prepareMessage_ledgers message))
    refine prepared.trans ?_
    by_cases joined : core.joins message = true
    · have join : message.command = "JOIN" := by
        simp only [joins, Bool.and_eq_true, decide_eq_true_eq] at joined
        exact joined.1.1
      rw [routeMessage_of_join _ join]
      refine LineMoves.trans ?_ (deliverMessage_joins _ ((core.joins_prepared message).trans joined))
      refine (LineMoves.of_quiet (emitMessageReceived_quiet _ message)).trans ?_
      exact (LineMoves.single (.history (.bumps _))).trans (requestChannelHistory_moves _ _)
    · exact routeMessage_moves _
        ((core.joins_prepared message).trans (eq_false_of_ne_true joined))

/-- A message that a batch swallows is collected, and not routed. -/
theorem handleMessage_of_captured {message : IrcMessage} (unignored : core.ignores message = false)
    (other : message.command ≠ "BATCH") (captured : (core.captureInBatch message).2 = true) :
    core.handleMessage message =
      ((core.prepareMessage message).captureInBatch message).1 := by
  simp only [handleMessage, if_neg (show ¬ core.ignores message = true by simp [unignored]),
    if_neg other]
  rw [← captureInBatch_prepared] at captured
  split
  · rename_i collected result
    rw [result]
  · rename_i uncaptured result
    rw [result] at captured
    cases captured

/-- A BATCH line opens or closes a batch of the session that reported it. -/
theorem handleMessage_of_batch {message : IrcMessage} (unignored : core.ignores message = false)
    (batch : message.command = "BATCH") :
    core.handleMessage message = (core.reportInbound message).handleBatch message := by
  rw [handleMessage, if_neg (by simp [unignored]), if_pos batch,
    core.prepareMessage_of_plain (by rw [batch]; decide)]

end Core

end Omairc.Session

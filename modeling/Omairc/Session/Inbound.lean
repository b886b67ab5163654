import Omairc.Session.Peripheral

/-!
# What one inbound line can do

Only the commands of the handshake and of failure reach past the feature handlers.
`LineOutcome` lists every way a line can change the session, and the lifecycle
theorems are case analyses on it.
-/

namespace Omairc.Session

open Omairc.Text Omairc.Irc

/-- The commands whose handlers decide the lifecycle. -/
def isControlCommand (command : String) : Bool :=
  ["CAP", "AUTHENTICATE", "001", "903", "904", "905", "421", "464", "ERROR"].contains command ||
    isRegistrationRefusal command

/-- The numerics that end authentication with a fatal failure, with its text. -/
def authenticationRefusal (command : String) : Option String :=
  if command = "904" ∨ command = "905" then some "SASL authentication failed"
  else if command = "464" then some "Server password or authentication was rejected"
  else none

namespace Core

variable [Platform] (core : Core)

/-- Whether a message passes the ignore filter and the batch routing. -/
def Reaches (message : IrcMessage) : Prop :=
  core.ignores message = false ∧ (core.captureInBatch message).2 = false

/-- The line is well formed and its message reaches the handler of its command. -/
def Takes (frame : Bytes) (message : IrcMessage) : Prop :=
  parse frame = .ok message ∧ core.Reaches message

/-- Every way one line can change the session. -/
inductive LineOutcome (core : Core) (frame : Bytes) : Core → Prop
  | peripheral {changed : Core} (change : Peripheral IsFrame core changed) :
      LineOutcome core frame changed
  | ping {message : IrcMessage} (taken : core.Takes frame message)
      (command : message.command = "PING") :
      LineOutcome core frame ((core.reportInbound message).answerPing message)
  | pong {message : IrcMessage} (taken : core.Takes frame message)
      (command : message.command = "PONG") :
      LineOutcome core frame (core.reportInbound message).armPingWatchdog
  | cap {message : IrcMessage} (taken : core.Takes frame message)
      (command : message.command = "CAP") :
      LineOutcome core frame ((core.reportInbound message).handleCap message)
  | authenticate {message : IrcMessage} (taken : core.Takes frame message)
      (command : message.command = "AUTHENTICATE") :
      LineOutcome core frame ((core.reportInbound message).handleAuthenticate message)
  | welcome {message : IrcMessage} (taken : core.Takes frame message)
      (command : message.command = "001") :
      LineOutcome core frame ((core.reportInbound message).handleWelcome message)
  | saslSuccess {message : IrcMessage} (taken : core.Takes frame message)
      (command : message.command = "903") :
      LineOutcome core frame (core.reportInbound message).handleSaslSuccess
  | rejected {message : IrcMessage} {text : String} (taken : core.Takes frame message)
      (command : authenticationRefusal message.command = some text) :
      LineOutcome core frame ((core.reportInbound message).fail .authentication text false)
  | withoutCap {message : IrcMessage} (taken : core.Takes frame message)
      (command : message.command = "421") (listing : core.state = .capLs) :
      LineOutcome core frame (core.reportInbound message).registerWithoutCap
  | refused {message : IrcMessage} (taken : core.Takes frame message)
      (command : isRegistrationRefusal message.command = true)
      (unregistered : core.state ≠ .registered) :
      LineOutcome core frame ((core.reportInbound message).handleRefusal message)
  | error {message : IrcMessage} (taken : core.Takes frame message)
      (command : message.command = "ERROR") :
      LineOutcome core frame ((core.reportInbound message).handleError message)

omit [Platform] in
/-- A message that is neither an INVITE nor of the welcome burst changes nothing before
it is routed, and is reported. -/
theorem prepareMessage_of_plain {message : IrcMessage}
    (plain : ["INVITE", "005", "376", "422"].contains message.command = false) :
    core.prepareMessage message = core.reportInbound message := by
  simp only [List.contains_eq_mem, List.mem_cons, List.not_mem_nil, or_false, decide_eq_false_iff_not,
    not_or] at plain
  obtain ⟨invite, isupport, motdEnd, motdMissing⟩ := plain
  have unchanged : core.noteInvite message = core := by
    rw [noteInvite, if_neg fun both => invite both.1]
  have unfeatured : (core.reportInbound message).applyIsupport message = core.reportInbound message := by
    rw [applyIsupport, if_pos (by simp [isupport])]
  rw [prepareMessage, unchanged, unfeatured, noteWelcomeEnd, if_neg (by simp [motdEnd, motdMissing])]

omit [Platform] in
/-- A line that a batch does not swallow leaves the batches as they are. -/
theorem captureInBatch_of_uncaptured {message : IrcMessage}
    (uncaptured : (core.captureInBatch message).2 = false) :
    core.captureInBatch message = (core, false) := by
  unfold captureInBatch at uncaptured ⊢
  simp only at uncaptured ⊢
  repeat' split
  all_goals first
    | rfl
    | simp_all

omit [Platform] in
/-- What a batch swallows depends on the batches alone. -/
theorem captureInBatch_congr (other : Core) (same : other.batches = core.batches)
    (message : IrcMessage) :
    (other.captureInBatch message).2 = (core.captureInBatch message).2 := by
  unfold captureInBatch
  simp only [same]
  repeat' split
  all_goals rfl

omit [Platform] in
/-- The command of a control message is none of the routed or consumed ones. -/
theorem ne_of_isControlCommand {command other : String} (control : isControlCommand command = true)
    (feature : isControlCommand other = false) : command ≠ other := by
  rintro rfl
  exact absurd control (by simp [feature])

/-- A control message goes to the handler of its command. -/
theorem routeMessage_of_control {message : IrcMessage}
    (control : isControlCommand message.command = true) :
    core.routeMessage message = core.handleCommand message := by
  have other (command : String) (feature : isControlCommand command = false) :
      message.command ≠ command := ne_of_isControlCommand control feature
  have unmarked : core.deliverReadMarker message = (core, false) := by
    rw [deliverReadMarker, if_pos ⟨other "MARKREAD" (by decide), other "READ" (by decide)⟩]
  have unqueried : core.consumeCtcp message = (core, false) := by
    rw [consumeCtcp, if_neg fun query => other "PRIVMSG" (by decide) query.1]
  rw [routeMessage, if_neg (other "ACK" (by decide)), if_neg (other "PING" (by decide)),
    if_neg fun answer => other "PONG" (by decide) answer.1, unmarked]
  simp only [unqueried]

/-- The handler of any other command is peripheral. -/
theorem handleCommand_peripheral {message : IrcMessage}
    (feature : isControlCommand message.command = false) :
    Peripheral IsFrame core (core.handleCommand message) := by
  have other (command : String) (control : isControlCommand command = true) :
      message.command ≠ command := fun same => ne_of_isControlCommand control feature same.symm
  have accepted : isRegistrationRefusal message.command = false := by
    rw [isControlCommand, Bool.or_eq_false_iff] at feature
    exact feature.2
  unfold handleCommand
  simp only
  rw [if_neg (other "CAP" (by decide)), if_neg (other "AUTHENTICATE" (by decide)),
    if_neg (other "001" (by decide)), if_neg (other "903" (by decide))]
  split
  · exact core.handleMetadataSyncLater_peripheral message
  · rw [if_neg fun failed => failed.elim (other "904" (by decide)) (other "905" (by decide)),
      if_neg fun unknown => other "421" (by decide) unknown.1, if_neg (other "464" (by decide)),
      if_neg (by simp [accepted]), if_neg (other "ERROR" (by decide))]
    exact core.deliverMessage_peripheral message

/-- What the handler of a command does to a session that took the line. -/
theorem handleCommand_outcome {frame : Bytes} {message : IrcMessage}
    (taken : core.Takes frame message) :
    LineOutcome core frame ((core.reportInbound message).handleCommand message) := by
  have reported : Peripheral IsFrame core (core.reportInbound message) := .of_eq rfl rfl rfl
  unfold handleCommand
  simp only
  split
  · rename_i cap
    exact .cap taken cap
  split
  · rename_i authenticate
    exact .authenticate taken authenticate
  split
  · rename_i welcome
    exact .welcome taken welcome
  split
  · rename_i success
    exact .saslSuccess taken success
  split
  · exact .peripheral (reported.trans (handleMetadataSyncLater_peripheral _ message))
  split
  · rename_i failed
    exact .rejected taken (by rw [authenticationRefusal, if_pos failed])
  rename_i unfailed
  split
  · rename_i unknown
    exact .withoutCap taken unknown.1 unknown.2.2
  split
  · rename_i rejected
    exact .rejected taken (by rw [authenticationRefusal, if_neg unfailed, if_pos rejected])
  split
  · rename_i refused
    exact .refused taken refused.1 refused.2
  split
  · rename_i error
    exact .error taken error
  · exact .peripheral (reported.trans (deliverMessage_peripheral _ message))

/-- What a session does with a line it takes, past the bookkeeping. -/
theorem handleFrame_of_taken {frame : Bytes} {message : IrcMessage}
    (taken : core.Takes frame message)
    (plain : ["INVITE", "005", "376", "422"].contains message.command = false)
    (single : message.command ≠ "BATCH") :
    core.handleFrame frame = (core.reportInbound message).routeMessage message := by
  obtain ⟨parsed, unignored, uncaptured⟩ := taken
  have unswallowed : (core.reportInbound message).captureInBatch message =
      (core.reportInbound message, false) := by
    refine captureInBatch_of_uncaptured _ ?_
    rw [core.captureInBatch_congr (core.reportInbound message) rfl, uncaptured]
  rw [handleFrame, parsed]
  simp only [handleMessage, unignored, Bool.false_eq_true, if_false, if_neg single,
    core.prepareMessage_of_plain plain, unswallowed]

/-- A control message that a session takes runs the handler of its command on the
session that reported it. -/
theorem handleFrame_of_control {frame : Bytes} {message : IrcMessage}
    (taken : core.Takes frame message) (control : isControlCommand message.command = true) :
    core.handleFrame frame = (core.reportInbound message).handleCommand message := by
  have other (command : String) (feature : isControlCommand command = false) :
      message.command ≠ command := ne_of_isControlCommand control feature
  have plain : ["INVITE", "005", "376", "422"].contains message.command = false := by
    simp [other "INVITE" (by decide), other "005" (by decide), other "376" (by decide),
      other "422" (by decide)]
  rw [core.handleFrame_of_taken taken plain (other "BATCH" (by decide)),
    routeMessage_of_control _ control]

/-- Routing is peripheral, but for the PING and PONG of the link and the control
commands. -/
theorem routeMessage_cases (message : IrcMessage) :
    Peripheral IsFrame core (core.routeMessage message) ∨
      message.command = "PING" ∧ core.routeMessage message = core.answerPing message ∨
      message.command = "PONG" ∧ core.routeMessage message = core.armPingWatchdog ∨
      isControlCommand message.command = true ∧
        core.routeMessage message = core.handleCommand message := by
  by_cases control : isControlCommand message.command = true
  · exact .inr (.inr (.inr ⟨control, core.routeMessage_of_control control⟩))
  · unfold routeMessage
    split_ifs with acknowledged ping pong
    · exact .inl (core.finishRequestLabel_peripheral _)
    · exact .inr (.inl ⟨ping, rfl⟩)
    · exact .inr (.inr (.inl ⟨pong.1, rfl⟩))
    · refine .inl ?_
      split
      · rename_i delivered
        exact (core.deliverReadMarker_peripheral message).of_result delivered
      · rename_i undelivered unmarked
        have read := (core.deliverReadMarker_peripheral message).of_result unmarked
        split
        · rename_i consumed
          exact read.trans ((consumeCtcp_peripheral _ message).of_result consumed)
        · rename_i unconsumed
          exact (read.trans ((consumeCtcp_peripheral _ message).of_result unconsumed)).trans
            (handleCommand_peripheral _ (by simpa using control))

/-- Every line has one of the listed outcomes. -/
theorem handleFrame_outcome (frame : Bytes) : LineOutcome core frame (core.handleFrame frame) := by
  rw [handleFrame]
  cases parsed : parse frame with
  | error error => exact .peripheral (.of_eq rfl rfl rfl)
  | ok message =>
      have prepared := core.prepareMessage_peripheral message
      simp only [handleMessage]
      split_ifs with ignored batch
      · exact .peripheral (.refl core)
      · exact .peripheral (prepared.trans (handleBatch_peripheral _ message))
      · split
        · rename_i swallowed
          exact .peripheral (prepared.trans ((captureInBatch_peripheral _ message).of_result swallowed))
        · rename_i uncaptured kept
          obtain rfl : uncaptured = core.prepareMessage message := by
            rw [captureInBatch_of_uncaptured _ (by rw [kept])] at kept
            exact (congrArg Prod.fst kept).symm
          have taken (plain : ["INVITE", "005", "376", "422"].contains message.command = false) :
              core.prepareMessage message = core.reportInbound message ∧
                core.Takes frame message := by
            have same := core.prepareMessage_of_plain plain
            refine ⟨same, parsed, by simpa using ignored, ?_⟩
            rw [same] at kept
            rw [← core.captureInBatch_congr (core.reportInbound message) rfl, kept]
          rcases routeMessage_cases (core.prepareMessage message) message with
            change | ⟨ping, routed⟩ | ⟨pong, routed⟩ | ⟨control, routed⟩
          · exact .peripheral (prepared.trans change)
          · obtain ⟨same, taken⟩ := taken (by rw [ping]; decide)
            rw [routed, same]
            exact .ping taken ping
          · obtain ⟨same, taken⟩ := taken (by rw [pong]; decide)
            rw [routed, same]
            exact .pong taken pong
          · have other (command : String) (feature : isControlCommand command = false) :
                message.command ≠ command := ne_of_isControlCommand control feature
            obtain ⟨same, taken⟩ := taken (by
              simp [other "INVITE" (by decide), other "005" (by decide),
                other "376" (by decide), other "422" (by decide)])
            rw [routed, same]
            exact core.handleCommand_outcome taken

end Core

end Omairc.Session

import Omairc.Session.BatchTrees

/-!
# What a replayed line changes

A line that is tagged with an open replay or an ignored reference is reported and collected,
and nothing else of the session changes, except what is noted of every line before its batch
is looked up: the invite of an INVITE, the features of an ISUPPORT line, and the end of the
welcome burst.
-/

namespace Omairc.Session

open Omairc.Text Omairc.Irc

namespace Core

variable (core : Core)

/-! ## Before the batch is looked up -/

theorem noteInvite_outcome (message : IrcMessage) :
    ∃ pendingInvite, core.noteInvite message = { core with pendingInvite } ∧
      (message.command ≠ "INVITE" → pendingInvite = core.pendingInvite) := by
  unfold noteInvite
  split
  · rename_i invites
    simp only
    split
    · exact ⟨_, rfl, fun other => absurd invites.1 other⟩
    · exact ⟨_, rfl, fun _ => rfl⟩
  · exact ⟨_, rfl, fun _ => rfl⟩

theorem applyIsupport_outcome (message : IrcMessage) :
    ∃ features channelTypes historyLimit,
      core.applyIsupport message = { core with features, channelTypes, historyLimit } ∧
        (message.command ≠ "005" → features = core.features ∧ channelTypes = core.channelTypes ∧
          historyLimit = core.historyLimit) := by
  have token (core : Core) (token : String) : ∃ features channelTypes historyLimit,
      core.applyIsupportToken token = { core with features, channelTypes, historyLimit } := by
    unfold applyIsupportToken
    simp only
    repeat' split
    all_goals exact ⟨_, _, _, rfl⟩
  have tokens (texts : List String) (core : Core) : ∃ features channelTypes historyLimit,
      texts.foldl applyIsupportToken core =
        { core with features, channelTypes, historyLimit } := by
    induction texts generalizing core with
    | nil => exact ⟨_, _, _, rfl⟩
    | cons text rest inductionHypothesis =>
        obtain ⟨features, channelTypes, historyLimit, first⟩ := token core text
        rw [List.foldl_cons, first]
        obtain ⟨features, channelTypes, historyLimit, others⟩ := inductionHypothesis
          { core with features, channelTypes, historyLimit }
        exact ⟨features, channelTypes, historyLimit, others⟩
  unfold applyIsupport
  split
  · exact ⟨_, _, _, rfl, fun _ => ⟨rfl, rfl, rfl⟩⟩
  · rename_i listed
    obtain ⟨features, channelTypes, historyLimit, applied⟩ :=
      tokens ((List.range' 1 (message.params.length - 2)).map message.textParam) core
    exact ⟨features, channelTypes, historyLimit, applied, fun other => absurd listed (by simp [other])⟩

/-- What is noted of every line before its batch is looked up. -/
theorem prepareMessage_outcome (message : IrcMessage) :
    ∃ pendingInvite features channelTypes historyLimit,
      core.prepareMessage message =
        { core with
          events := core.events ++ [.inbound core.networkId message
            (core.correlationLabel message) core.nickname core.channelTypes core.now]
          pendingInvite, features, channelTypes, historyLimit } ∧
      (message.command ≠ "INVITE" → pendingInvite = core.pendingInvite) ∧
      (message.command ≠ "005" → channelTypes = core.channelTypes ∧
        historyLimit = core.historyLimit ∧
          features = if message.command = "376" ∨ message.command = "422" then
            core.features.markCaseMappingKnown else core.features) := by
  obtain ⟨pendingInvite, invited, kept⟩ := core.noteInvite_outcome message
  have reported : (core.noteInvite message).reportInbound message =
      { core with
        events := core.events ++ [.inbound core.networkId message
          (core.correlationLabel message) core.nickname core.channelTypes core.now]
        pendingInvite } := by
    rw [invited]
    rfl
  rw [prepareMessage, reported]
  obtain ⟨features, channelTypes, historyLimit, applied, unfeatured⟩ := applyIsupport_outcome
    { core with
      events := core.events ++ [.inbound core.networkId message
        (core.correlationLabel message) core.nickname core.channelTypes core.now]
      pendingInvite } message
  rw [applied, noteWelcomeEnd]
  split
  · exact ⟨_, _, _, _, rfl, kept, fun other => ⟨(unfeatured other).2.1, (unfeatured other).2.2,
      by rw [(unfeatured other).1]⟩⟩
  · exact ⟨_, _, _, _, rfl, kept, fun other => ⟨(unfeatured other).2.1, (unfeatured other).2.2,
      (unfeatured other).1⟩⟩

end Core

section Runs

namespace System

variable [Platform] {system : System} {config : SessionConfig}

/-- A line of a tree or of an ignored reference is reported and collected, and changes nothing
else of any reachable session, but for the invite that an INVITE leaves, the features that
an ISUPPORT line lists, and the end of the welcome burst. -/
theorem replayed_line_frame (reachable : Reachable config system) (readings : Readings)
    {message : IrcMessage} (other : message.command ≠ "BATCH")
    (swallowed : system.core.batches.swallows ((message.tagText "batch").getD "") = true) :
    let core := system.core.withReadings readings
    (core.ignores message = true → core.handleMessage message = core) ∧
      (core.ignores message = false →
        ∃ pendingInvite features channelTypes historyLimit batches,
          core.handleMessage message =
            { core with
              events := core.events ++ [.inbound core.networkId message
                (core.correlationLabel message) core.nickname core.channelTypes core.now]
              pendingInvite, features, channelTypes, historyLimit, batches } ∧
          core.batches.Collects message batches ∧
          (message.command ≠ "INVITE" → pendingInvite = core.pendingInvite) ∧
          (message.command ≠ "005" → channelTypes = core.channelTypes ∧
            historyLimit = core.historyLimit ∧
              features = if message.command = "376" ∨ message.command = "422" then
                core.features.markCaseMappingKnown else core.features)) := by
  intro core
  constructor
  · intro ignored
    rw [Core.handleMessage, if_pos ignored]
  · intro unignored
    obtain ⟨pendingInvite, features, channelTypes, historyLimit, prepared, kept, unfeatured⟩ :=
      core.prepareMessage_outcome message
    have forest : core.batches.IsForest := reachable.isForest
    have batches : (core.prepareMessage message).batches = core.batches := by rw [prepared]
    have captured := core.captureInBatch_swallows forest swallowed
    have taken := (core.captureInBatch_prepared message).trans captured
    obtain ⟨collected, collecting, collects⟩ := Core.captureInBatch_outcome _ taken
    rw [batches] at collects
    refine ⟨pendingInvite, features, channelTypes, historyLimit, collected, ?_, collects, kept,
      unfeatured⟩
    rw [core.handleMessage_of_captured unignored other captured, collecting, prepared]

end System

end Runs

section Reference

/-- The runs are on the reference platform. -/
local instance replayPlatform : Platform := reference

namespace System

/-- A PING inside a playback batch is collected and not answered. -/
theorem replayed_line_frame_ping :
    ∃ (system : System) (message : IrcMessage), message.command = "PING" ∧
      let core := system.core.withReadings {}
      (core.ignores message = true → core.handleMessage message = core) ∧
        (core.ignores message = false →
          ∃ pendingInvite features channelTypes historyLimit batches,
            core.handleMessage message =
              { core with
                events := core.events ++ [.inbound core.networkId message
                  (core.correlationLabel message) core.nickname core.channelTypes core.now]
                pendingInvite, features, channelTypes, historyLimit, batches } ∧
            core.batches.Collects message batches ∧
            (message.command ≠ "INVITE" → pendingInvite = core.pendingInvite) ∧
            (message.command ≠ "005" → channelTypes = core.channelTypes ∧
              historyLimit = core.historyLimit ∧
                features = if message.command = "376" ∨ message.command = "422" then
                  core.features.markCaseMappingKnown else core.features)) := by
  have parsed : (parse (utf8 "@batch=p PING :token")).toOption.any (fun message =>
      message.command = "PING" && message.tagText "batch" = some "p") = true := by decide
  have ran : ((initial plaintextProfile).run (underOneClock (playbackActions ++
      readActions [":s BATCH +p znc.in/playback #a"]))).any
      (fun system => system.core.batches.swallows "p") = true := by
    decide +kernel
  obtain ⟨system, taken, opened⟩ := exists_of_any ran
  obtain ⟨message, -, line⟩ := exists_of_any parsed
  simp only [Bool.and_eq_true, decide_eq_true_eq] at line
  exact ⟨system, message, line.1, replayed_line_frame (.of_runAll taken) {} (by rw [line.1]; decide)
    (by rw [line.2]; exact opened)⟩

/-- An INVITE inside a playback batch replaces the pending invite. -/
theorem replayed_invite_pends :
    ¬ ∀ config system, Reachable config system → ∀ message : IrcMessage,
      system.core.batches.swallows ((message.tagText "batch").getD "") = true →
        (system.core.handleMessage message).pendingInvite = system.core.pendingInvite := by
  intro law
  have parsed : (parse (utf8 "@batch=p :bob!u@h INVITE nick #b")).toOption.any (fun message =>
      message.tagText "batch" = some "p") = true := by decide
  have ran : ((initial plaintextProfile).run (underOneClock (playbackActions ++
      readActions [":s BATCH +p znc.in/playback #a"]))).any
      (fun system => system.core.batches.swallows "p" && (system.core.pendingInvite).isNone &&
        (parse (utf8 "@batch=p :bob!u@h INVITE nick #b")).toOption.any fun message =>
          (system.core.handleMessage message).pendingInvite.isSome) = true := by
    decide +kernel
  obtain ⟨system, taken, ended⟩ := exists_of_any ran
  simp only [Bool.and_eq_true] at ended
  obtain ⟨⟨opened, none⟩, noted⟩ := ended
  obtain ⟨message, same, line⟩ := exists_of_any parsed
  rw [same] at noted
  have kept := law _ system (.of_runAll taken) message
    (by rw [of_decide_eq_true line]; exact opened)
  rw [Option.any_some, kept] at noted
  rw [Option.isNone_iff_eq_none] at none
  rw [none] at noted
  cases noted

end System

end Reference

end Omairc.Session

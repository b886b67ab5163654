import Omairc.Session.AfterChains

/-!
# The requests that calls send

A call that is taken and fits a line sends one AFTER request and starts a chain. It is counted
among the frames that the session sent. A refused call forgets the pages of its target.
-/

namespace Omairc.Session

open Omairc.Text Omairc.Irc

/-- The frame that an event reports as sent. -/
def SessionEvent.sentFrame : SessionEvent → Option Bytes
  | .outbound _ built _ _ => some built
  | _ => none

/-- The start of a CHATHISTORY request. -/
def historyLead (subcommand : String) : Bytes := utf8 ("CHATHISTORY " ++ subcommand ++ " ")

/-- Whether a frame is a CHATHISTORY request of a subcommand. -/
def isHistoryRequest (subcommand : String) (frame : Bytes) : Bool :=
  frame.take (historyLead subcommand).length = historyLead subcommand

/-- A request is one of its subcommand. -/
theorem isHistoryRequest_self (subcommand : String) (rest : Bytes) :
    isHistoryRequest subcommand (historyLead subcommand ++ rest) = true := by
  rw [isHistoryRequest, List.take_left, decide_eq_true_eq]

/-- The AFTER and the LATEST requests are apart. -/
theorem isHistoryRequest_other {subcommand other : String}
    (apart : (historyLead subcommand).take 13 ≠ (historyLead other).take 13)
    (long : 13 ≤ (historyLead subcommand).length) (longer : 13 ≤ (historyLead other).length)
    (rest : Bytes) : isHistoryRequest other (historyLead subcommand ++ rest) = false := by
  rw [isHistoryRequest, decide_eq_false_iff_not]
  intro same
  apply apart
  rw [← same, List.take_take, min_eq_left longer, List.take_append_of_le_length long]

namespace Core

variable (core : Core)

/-- The frames that the session sent. -/
def sentFrames : List Bytes := core.events.filterMap SessionEvent.sentFrame

/-- The requests of a subcommand that the session sent. -/
def requests (subcommand : String) : Nat :=
  core.sentFrames.countP (isHistoryRequest subcommand)

/-- Another event reports no frame. -/
theorem emit_sentFrames {event : SessionEvent} (silent : event.sentFrame = none) :
    (core.emit event).sentFrames = core.sentFrames := by
  simp [sentFrames, emit, silent]

theorem sendLine_sentFrames {built : Bytes} (nonempty : built ≠ []) :
    (core.sendLine built).sentFrames = core.sentFrames ++ [built] := by
  simp [sendLine, sentFrames, emit, queue, nonempty, SessionEvent.sentFrame]

/-- A command that is sent is one frame, and one that is refused changes nothing. -/
theorem sendCommand_sent {changed : Core} {sent : Bool} {command : Bytes}
    (result : core.sendCommand command "" = (changed, sent)) :
    if sent = true then changed.sentFrames = core.sentFrames ++ [command ++ crlf]
    else changed = core := by
  unfold sendCommand at result
  rw [labeledCommand, if_pos rfl] at result
  split_ifs at result
  · cases result
    rfl
  · cases result
    rfl
  · split at result
    · cases result
      rfl
    · rename_i built line
      cases result
      obtain ⟨-, -, -, same⟩ := line_eq_ok_iff.mp line
      rw [if_pos rfl, same]
      exact core.sendLine_sentFrames (by simp [crlf])

/-- The request of a page from a selector. -/
def pageCommand (subcommand target selector : String) : String :=
  "CHATHISTORY " ++ subcommand ++ " " ++ target ++ " " ++ selector ++ " " ++
    toString core.historyLimit

/-- A page is asked for in one request of its subcommand, or its chain is forgotten. -/
theorem sendHistoryPage_outcome [Platform] (subcommand : String) (kind : HistoryRequestKind)
    (target : String) (cursor : HistoryCursor) :
    (∃ (sent : Core) (rest : Bytes),
      core.sendHistoryPage subcommand kind target cursor = (sent, true) ∧
        sent.sentFrames = core.sentFrames ++ [historyLead subcommand ++ rest] ∧
        sent.ledgers = (core.notePending target kind).ledgers) ∨
      (∃ selector, historySelector cursor = some selector ∧
        ((core.notePending target kind).sendCommand
          (utf8 (core.pageCommand subcommand target selector)) "").2 = false ∧
        core.sendHistoryPage subcommand kind target cursor =
          ((core.notePending target kind).clearHistoryAfterAttempt
            (core.foldChannel target), false)) ∨
      historySelector cursor = none ∧
        core.sendHistoryPage subcommand kind target cursor = (core, false) := by
  unfold sendHistoryPage
  cases selected : historySelector cursor with
  | none => exact .inr (.inr ⟨rfl, rfl⟩)
  | some selector =>
      simp only
      split
      · rename_i sent result
        refine .inl ⟨sent, utf8 (target ++ " " ++ selector ++ " " ++ toString core.historyLimit) ++
          crlf, rfl, ?_, (sendCommand_quiet _ _ _).of_result result⟩
        have written := sendCommand_sent _ result
        rw [if_pos rfl] at written
        rw [written, historyLead]
        simp [sentFrames, notePending]
      · rename_i refused result
        have unchanged := sendCommand_sent _ result
        rw [if_neg (by decide)] at unchanged
        refine .inr (.inl ⟨selector, rfl, congrArg Prod.snd result, ?_⟩)
        rw [unchanged]

/-- What the line writer takes depends on the state and the features. -/
theorem sendCommand_taken_congr {other : Core} (state : other.state = core.state)
    (features : other.features = core.features) (command : Bytes) (requestLabel : String) :
    (other.sendCommand command requestLabel).2 = (core.sendCommand command requestLabel).2 := by
  unfold sendCommand
  rw [state, features]
  split_ifs
  · rfl
  · rfl
  · split
    all_goals rfl

/-- A call for a target is taken: replays are enabled, and nothing is in flight for it. -/
def takesCall (target : String) : Bool :=
  target ≠ "" && core.replayEnabled .chat && !core.historyInflight target

/-- The session once a taken call has noted its chain. -/
def chainNoted (target : String) (after : Instant) : Core :=
  let key := core.foldChannel target
  { core with
    history.asked := core.history.asked.insert key
    history.afterPages := core.history.afterPages.insert key 1
    history.afterCursor := core.history.afterCursor.insert key { time := some after } }

variable [Platform]

/-- A call is taken, and the line writer refuses its request. -/
def refusesCall (target : String) (after : Instant) : Bool :=
  core.takesCall target && !(core.sendCommand (utf8 (core.pageCommand "AFTER" target
    ("timestamp=" ++ formatChatHistoryTimestamp after))) "").2

/-- A call sends one AFTER request and starts a chain, or is refused, or is not taken. -/
theorem requestHistoryAfter_outcome (target : String) (after : Instant) :
    (∃ (sent : Core) (rest : Bytes), core.requestHistoryAfter target after = (sent, true) ∧
        sent.sentFrames = core.sentFrames ++ [historyLead "AFTER" ++ rest] ∧
        sent.ledgers = ((core.chainNoted target after).notePending target .after).ledgers) ∨
      core.refusesCall target after = true ∧
        core.requestHistoryAfter target after =
          (((core.chainNoted target after).notePending target .after).clearHistoryAfterAttempt
            (core.foldChannel target), false) ∨
      core.requestHistoryAfter target after = (core, false) := by
  unfold requestHistoryAfter
  split_ifs with unusable busy
  · exact .inr (.inr rfl)
  · exact .inr (.inr rfl)
  · have takes : core.takesCall target = true := by
      simpa [takesCall, busy] using unusable
    rcases sendHistoryPage_outcome (core.chainNoted target after) "AFTER" .after target
        { time := some after } with
      ⟨sent, rest, result, written, noted⟩ | ⟨selector, selected, refused, result⟩ | ⟨unselected, -⟩
    · exact .inl ⟨sent, rest, result, written, noted⟩
    · refine .inr (.inl ⟨?_, result⟩)
      obtain rfl : "timestamp=" ++ formatChatHistoryTimestamp after = selector := Option.some.inj selected
      have same (command : Bytes) := core.sendCommand_taken_congr
        (rfl : ((core.chainNoted target after).notePending target .after).state = core.state) rfl
          command ""
      rw [same] at refused
      rw [refusesCall, takes, Bool.true_and, Bool.not_eq_true']
      exact refused
    · cases unselected

end Core

/-- The record of a chain after a call, which starts another if it is for the same target and
sent a request. -/
def ChainRecord.called (record : ChainRecord) (mine : Bool) (asked : Nat) : ChainRecord :=
  if mine = true ∧ asked ≠ 0 then { afters := asked } else record

/-- A call that sends nothing starts no chain. -/
theorem ChainRecord.called_zero (record : ChainRecord) (mine : Bool) :
    record.called mine 0 = record := by
  rw [called, if_neg fun both => both.2 rfl]

section Calls

variable {folded : String} {core : Core} {record : ChainRecord}

/-- One more frame that was sent is one more request, if it is one. -/
theorem Core.requests_append {changed : Core} {frame : Bytes} (subcommand : String)
    (sent : changed.sentFrames = core.sentFrames ++ [frame]) :
    changed.requests subcommand =
      core.requests subcommand + if isHistoryRequest subcommand frame = true then 1 else 0 := by
  rw [Core.requests, Core.requests, sent, List.countP_append, List.countP_singleton]

/-- An AFTER request is counted as one. -/
theorem Core.requests_of_after {changed : Core} {rest : Bytes}
    (sent : changed.sentFrames = core.sentFrames ++ [historyLead "AFTER" ++ rest]) :
    changed.requests "AFTER" = core.requests "AFTER" + 1 ∧
      changed.requests "LATEST" = core.requests "LATEST" := by
  rw [requests_append "AFTER" sent, requests_append "LATEST" sent, isHistoryRequest_self,
    isHistoryRequest_other (by decide) (by decide) (by decide)]
  exact ⟨rfl, rfl⟩

/-- A LATEST request is counted as one. -/
theorem Core.requests_of_latest {changed : Core} {rest : Bytes}
    (sent : changed.sentFrames = core.sentFrames ++ [historyLead "LATEST" ++ rest]) :
    changed.requests "LATEST" = core.requests "LATEST" + 1 ∧
      changed.requests "AFTER" = core.requests "AFTER" := by
  rw [requests_append "AFTER" sent, requests_append "LATEST" sent, isHistoryRequest_self,
    isHistoryRequest_other (by decide) (by decide) (by decide)]
  exact ⟨rfl, rfl⟩

variable [Platform]

omit [Platform] in
theorem Core.chainNoted_alike (core : Core) (target : String) (after : Instant) :
    core.ledgers.Alike folded (core.chainNoted target after).ledgers := .of_same rfl rfl rfl rfl

omit [Platform] in
theorem Core.chainNoted_wanes {target : String} (other : core.foldChannel target ≠ folded)
    (after : Instant) : core.history.Wanes folded (core.chainNoted target after).history := by
  refine ⟨rfl, le_refl _, id, ?_⟩
  exact Std.TreeMap.getElem?_insert.trans (if_neg (by simpa using other))

/-- A call counts its one request, unless it loses the count of a page that is arriving. -/
theorem Core.requestHistoryAfter_counts (counted : core.ledgers.PagesCounted folded record)
    (target : String) (after : Instant)
    (kept : core.foldChannel target = folded → core.refusesCall target after = true →
      ∀ reference, ¬ core.ledgers.Arrives folded reference) :
    ∃ asked, (core.requestHistoryAfter target after).1.requests "AFTER" =
        core.requests "AFTER" + asked ∧
      (core.requestHistoryAfter target after).1.ledgers.PagesCounted folded
        (record.called (core.foldChannel target = folded) asked) := by
  have alike : core.ledgers.Alike folded
      ((core.chainNoted target after).notePending target .after).ledgers :=
    (core.chainNoted_alike target after).trans (notePending_alike _ target .after)
  rcases core.requestHistoryAfter_outcome target after with
    ⟨sent, rest, result, written, noted⟩ | ⟨refuses, result⟩ | result
  · refine ⟨1, ?_, ?_⟩
    · rw [result]
      exact (requests_of_after written).1
    · rw [result, noted]
      by_cases same : core.foldChannel target = folded
      · subst same
        rw [ChainRecord.called, if_pos ⟨decide_eq_true rfl, Nat.one_ne_zero⟩]
        refine counted.recount alike ⟨by decide, Nat.zero_le _⟩ fun _ => ⟨?_, rfl⟩
        exact le_max_right _ _
      · rw [ChainRecord.called, if_neg fun both => same (of_decide_eq_true both.1)]
        exact ((chainNoted_wanes same after).trans
          (notePending_wanes _ fun _ => same)).pagesCounted rfl rfl counted
  · refine ⟨0, by rw [result]; rfl, ?_⟩
    rw [result, ChainRecord.called_zero]
    by_cases same : core.foldChannel target = folded
    · have none := kept same refuses
      subst same
      refine counted.idle (alike.trans (clearHistoryAfterAttempt_alike _ _)) counted.bounded ?_ none
      rw [Core.ledgers_history, clearHistoryAfterAttempt_unasked]
      exact fun impossible => nomatch impossible
    · exact (((chainNoted_wanes same after).trans (notePending_wanes _ fun _ => same)).trans
        (clearHistoryAfterAttempt_wanes _ same)).pagesCounted rfl rfl counted
  · refine ⟨0, by rw [result]; rfl, ?_⟩
    rw [result, ChainRecord.called_zero]
    exact counted

omit [Platform] in
/-- The newest page is asked for by a LATEST request. -/
theorem Core.requestHistoryLatest_requests (target : String) :
    (core.requestHistoryLatest target).1.requests "AFTER" = core.requests "AFTER" := by
  unfold requestHistoryLatest
  simp only
  split_ifs
  · rfl
  · rfl
  · split
    · rename_i sent result
      have written := sendCommand_sent _ result
      rw [if_pos rfl] at written
      have latest : sent.sentFrames = core.sentFrames ++ [historyLead "LATEST" ++
          (utf8 (target ++ " * " ++ toString core.historyLimit) ++ crlf)] := by
        rw [written, historyLead]
        simp [sentFrames, notePending]
      exact (requests_of_latest latest).2
    · rename_i refused result
      have unchanged := sendCommand_sent _ result
      rw [if_neg (by decide)] at unchanged
      subst unchanged
      rfl

/-- The history of a joined channel is asked for by at most one AFTER request. -/
theorem Core.requestChannelHistory_counts (counted : core.ledgers.PagesCounted folded record)
    {channel : String}
    (none : core.foldChannel channel = folded → ∀ reference, ¬ core.ledgers.Arrives folded reference) :
    ∃ asked, (core.requestChannelHistory channel).requests "AFTER" =
        core.requests "AFTER" + asked ∧
      (core.requestChannelHistory channel).ledgers.PagesCounted folded
        (record.called (core.foldChannel channel = folded) asked) := by
  have idle : ∃ asked, core.requests "AFTER" = core.requests "AFTER" + asked ∧
      core.ledgers.PagesCounted folded
        (record.called (core.foldChannel channel = folded) asked) := by
    refine ⟨0, rfl, ?_⟩
    rw [ChainRecord.called_zero]
    exact counted
  have latest {core : Core} {record : ChainRecord}
      (counted : core.ledgers.PagesCounted folded record) :
      (core.requestHistoryLatest channel).1.ledgers.PagesCounted folded record := by
    have move : HistoryMove False core (core.requestHistoryLatest channel).1 := .latest channel
    exact (move.dwindles counted).pagesCounted counted
  unfold requestChannelHistory
  split_ifs
  · exact idle
  · exact idle
  · split
    · rename_i time resumed
      obtain ⟨asked, requests, counts⟩ := requestHistoryAfter_counts counted channel time
        fun same _ => none same
      split
      · rename_i sent result
        rw [result] at requests counts
        exact ⟨asked, requests, counts⟩
      · rename_i refused result
        rw [result] at requests counts
        exact ⟨asked, (refused.requestHistoryLatest_requests channel).trans requests, latest counts⟩
    · obtain ⟨asked, requests, counts⟩ := idle
      exact ⟨asked, (core.requestHistoryLatest_requests channel).trans requests, latest counts⟩

end Calls

end Omairc.Session

import Omairc.Session.QueuedEffects
import Omairc.Session.Reference

/-!
# Sends are all or nothing

A send that reports false queued nothing and began no label, and one that reports true
queued all of its lines in order. Two operations check their lines one by one as they
send them, a kick with a ban and a MONITOR list: they leave an earlier line queued when
a later one is refused.
-/

namespace Omairc.Session

open Omairc.Text Omairc.Irc

/-- The MONITOR line of some nicks does not fit a classic frame. -/
def monitorOverflows (lead : String) (nicks : List String) : Bool :=
  byteLength (monitorCommand lead nicks) + 2 > maxClassicFrameBytes

/-- The lines a list of nicks is packed into, after some that share the first line. -/
def monitorBatches (lead : String) (batch : List String) : List String → List (List String)
  | [] => [batch]
  | nick :: rest =>
      if monitorOverflows lead (batch ++ [nick]) then batch :: monitorBatches lead [nick] rest
      else monitorBatches lead (batch ++ [nick]) rest

/-- The JOIN command of a channel and a key. -/
def joinCommand (channel key : String) : String :=
  if key = "" then "JOIN " ++ channel else "JOIN " ++ channel ++ " " ++ key

/-- Nothing was queued and no label began. -/
structure Unsent (core changed : Core) : Prop where
  pendingLabels : changed.pendingLabels = core.pendingLabels
  nextRequestLabel : changed.nextRequestLabel = core.nextRequestLabel
  effects : changed.effects = core.effects

/-- No change sends nothing. -/
theorem Unsent.refl (core : Core) : Unsent core core := ⟨rfl, rfl, rfl⟩

/-- An operation queued all of its lines in order or nothing, and began no label. -/
structure AllOrNothing (core : Core) (result : Core × Bool) (lines : List Bytes) : Prop where
  pendingLabels : result.1.pendingLabels = core.pendingLabels
  nextRequestLabel : result.1.nextRequestLabel = core.nextRequestLabel
  effects : result.1.effects = core.effects ++ if result.2 then queuedWrites lines else []

namespace AllOrNothing

variable {core : Core} {lines : List Bytes}

/-- A refusal that changes nothing. -/
theorem refused (core : Core) (lines : List Bytes) : AllOrNothing core (core, false) lines :=
  ⟨rfl, rfl, (List.append_nil _).symm⟩

/-- What is noted before the lines are sent does not matter. -/
theorem before {noted : Core} {result : Core × Bool} (unsent : Unsent core noted)
    (sent : AllOrNothing noted result lines) : AllOrNothing core result lines where
  pendingLabels := sent.pendingLabels.trans unsent.pendingLabels
  nextRequestLabel := sent.nextRequestLabel.trans unsent.nextRequestLabel
  effects := by rw [sent.effects, unsent.effects]

/-- What is noted after the lines were sent or refused does not matter. -/
theorem after {written noted : Core} {taken : Bool}
    (sent : AllOrNothing core (written, taken) lines) (unsent : Unsent written noted) :
    AllOrNothing core (noted, taken) lines where
  pendingLabels := unsent.pendingLabels.trans sent.pendingLabels
  nextRequestLabel := unsent.nextRequestLabel.trans sent.nextRequestLabel
  effects := unsent.effects.trans sent.effects

/-- A condition may refuse the operation first. -/
theorem guarded {condition : Prop} [Decidable condition] {result : Core × Bool}
    (sent : ¬ condition → AllOrNothing core result lines) :
    AllOrNothing core (if condition then (core, false) else result) lines := by
  split
  · exact .refused core lines
  · rename_i passed
    exact sent passed

/-- What is noted once the lines are sent, or once they are refused, does not matter. -/
theorem noted {result : Core × Bool} {onSent onRefused : Core → Core}
    (keeps : ∀ core, Unsent core (onSent core)) (undoes : ∀ core, Unsent core (onRefused core)) :
    AllOrNothing core result lines →
      AllOrNothing core
        (match result with
          | (written, true) => (onSent written, true)
          | (refused, false) => (onRefused refused, false)) lines := by
  intro sent
  obtain ⟨written, taken⟩ := result
  cases taken
  · exact sent.after (undoes written)
  · exact sent.after (keeps written)

end AllOrNothing

namespace Core

variable (core : Core)

/-- The session would write a command, under a label or without one. -/
def acceptsCommand (command : Bytes) (requestLabel : String) : Bool :=
  core.state = .registered && (requestLabel = "" || isTagSafeLabel requestLabel) &&
    (line (labeledCommand command requestLabel) core.features).toOption.isSome

/-- A command is written when it is accepted, and otherwise refused. -/
theorem sendCommand_eq (command : Bytes) (requestLabel : String) :
    core.sendCommand command requestLabel =
      if core.acceptsCommand command requestLabel then
        (core.sendLine (labeledCommand command requestLabel ++ crlf), true)
      else (core, false) := by
  unfold sendCommand acceptsCommand
  by_cases registered : core.state = .registered
  · by_cases safe : requestLabel = "" ∨ isTagSafeLabel requestLabel = true
    · rw [if_neg (by simp [registered]), if_neg (by rcases safe with none | safe <;> simp [*])]
      have labeled : (decide (requestLabel = "") || isTagSafeLabel requestLabel) = true := by
        simpa using safe
      cases built : line (labeledCommand command requestLabel) core.features with
      | error error => simp [Except.toOption]
      | ok frame =>
          obtain ⟨-, -, -, rfl⟩ := line_eq_ok_iff.mp built
          simp [registered, labeled, Except.toOption]
    · obtain ⟨labeled, untagged⟩ := not_or.mp safe
      simp [registered, labeled, untagged]
  · simp [registered]

/-- What is accepted depends on the state and the server's features alone. -/
theorem acceptsCommand_congr {core other : Core} (state : other.state = core.state)
    (features : other.features = core.features) (command : Bytes) (requestLabel : String) :
    other.acceptsCommand command requestLabel = core.acceptsCommand command requestLabel := by
  rw [acceptsCommand, acceptsCommand, state, features]

/-- Writing a line begins no label. -/
theorem sendLine_labels (built : Bytes) :
    (core.sendLine built).pendingLabels = core.pendingLabels ∧
      (core.sendLine built).nextRequestLabel = core.nextRequestLabel := by
  unfold sendLine
  split
  all_goals exact ⟨rfl, rfl⟩

/-- A line that ends in CR LF is written. -/
theorem sendLine_crlf_effects (command : Bytes) :
    (core.sendLine (command ++ crlf)).effects = core.effects ++ [.write (command ++ crlf)] :=
  core.sendLine_effects (by simp [crlf])

theorem sendCommand_allOrNothing (command : Bytes) (requestLabel : String) :
    AllOrNothing core (core.sendCommand command requestLabel)
      [labeledCommand command requestLabel ++ crlf] := by
  rw [sendCommand_eq]
  split
  · obtain ⟨pendingLabels, nextRequestLabel⟩ := core.sendLine_labels
      (labeledCommand command requestLabel ++ crlf)
    exact ⟨pendingLabels, nextRequestLabel, core.sendLine_crlf_effects _⟩
  · exact .refused core _

/-! ## Bodies -/

/-- The lines of a body that is split over frames. -/
def trailingLines (lead body suffix : Bytes) (requestLabel : String) : List Bytes :=
  (splitTrailingParam lead body suffix core.features).map fun chunk =>
    labeledCommand (lead ++ chunk ++ suffix) requestLabel ++ crlf

/-- A chunk fits its frame: it makes a clean command within the line length. -/
theorem line_of_mem_splitTrailingParam {lead body suffix chunk : Bytes}
    {features : IrcServerFeatures}
    (present : chunk ∈ splitTrailingParam lead body suffix features) :
    line (lead ++ chunk ++ suffix) features = .ok (lead ++ chunk ++ suffix ++ crlf) := by
  simp only [splitTrailingParam] at present
  split at present
  · cases present
  · rename_i clean
    simp only [Bool.or_eq_true, not_or, Bool.not_eq_true] at clean
    obtain ⟨⟨⟨-, leadClean⟩, bodyClean⟩, suffixClean⟩ := clean
    split at present
    · cases present
    · rename_i room
      simp only [Bool.or_eq_true, decide_eq_true_eq, not_or] at room
      cases cut : splitChunks
        (features.lineLength - lead.length - suffix.length - crlfBytes) body with
      | none => simp [cut] at present
      | some chunks =>
          rw [cut] at present
          obtain ⟨nonempty, fits, part⟩ := mem_splitChunks cut chunk present
          rw [line_eq_ok_iff]
          refine ⟨by simp [nonempty], ?_, ?_, rfl⟩
          · simp [leadClean, containsForbidden_subset bodyClean part, suffixClean]
          · simp only [List.length_append, crlfBytes] at fits ⊢
            omega

/-- When every chunk is accepted, all are written in order. -/
theorem sendChunks_of_accepted {lead suffix : Bytes} {chunks : List Bytes}
    (accepted : ∀ chunk ∈ chunks, core.acceptsCommand (lead ++ chunk ++ suffix) "" = true) :
    AllOrNothing core (core.sendChunks lead suffix "" chunks)
        (chunks.map fun chunk => lead ++ chunk ++ suffix ++ crlf) ∧
      (core.sendChunks lead suffix "" chunks).2 = true := by
  induction chunks generalizing core with
  | nil => exact ⟨⟨rfl, rfl, (List.append_nil _).symm⟩, rfl⟩
  | cons chunk rest inductionHypothesis =>
      have first := accepted chunk List.mem_cons_self
      rw [sendChunks, sendCommand_eq, if_pos first]
      simp only [labeledCommand, if_true]
      have later : ∀ other ∈ rest,
          (core.sendLine (lead ++ chunk ++ suffix ++ crlf)).acceptsCommand
            (lead ++ other ++ suffix) "" = true := by
        intro other present
        rw [acceptsCommand_congr (congrArg Control.state (core.sendLine_toControl _))
          (core.sendLine_features _)]
        exact accepted other (List.mem_cons_of_mem _ present)
      obtain ⟨⟨pendingLabels, nextRequestLabel, effects⟩, sent⟩ := inductionHypothesis _ later
      obtain ⟨keptLabels, keptCounter⟩ :=
        core.sendLine_labels (lead ++ chunk ++ suffix ++ crlf)
      refine ⟨⟨pendingLabels.trans keptLabels, nextRequestLabel.trans keptCounter, ?_⟩, sent⟩
      rw [effects, sent, core.sendLine_crlf_effects]
      simp [queuedWrites]

/-- A body is written whole, in its chunks, or not at all. -/
theorem sendTrailingBody_allOrNothing (lead body suffix : Bytes) (requestLabel : String) :
    AllOrNothing core (core.sendTrailingBody lead body suffix requestLabel)
      (core.trailingLines lead body suffix requestLabel) := by
  unfold sendTrailingBody trailingLines
  simp only
  have fits (chunk : Bytes) (present : chunk ∈ splitTrailingParam lead body suffix core.features) :=
    line_of_mem_splitTrailingParam present
  revert fits
  generalize splitTrailingParam lead body suffix core.features = chunks
  intro fits
  split
  · exact .refused core _
  · rename_i some
    split
    · exact .refused core _
    · rename_i single
      by_cases labeled : requestLabel = ""
      · subst labeled
        by_cases registered : core.state = .registered
        · have accepted : ∀ chunk ∈ chunks,
              core.acceptsCommand (lead ++ chunk ++ suffix) "" = true := by
            intro chunk present
            rw [acceptsCommand, labeledCommand, if_pos rfl, fits chunk present]
            simp [registered, Except.toOption]
          simpa [labeledCommand] using (core.sendChunks_of_accepted accepted).1
        · cases chunks with
          | nil => simp at some
          | cons chunk rest =>
              rw [sendChunks, sendCommand_eq, if_neg (by simp [acceptsCommand, registered])]
              exact .refused core _
      · -- A labeled body is one command, so it is the labeled command or nothing.
        obtain ⟨chunk, rfl⟩ : ∃ chunk, chunks = [chunk] := by
          refine List.length_eq_one_iff.mp ?_
          simpa [labeled] using single
        have sent := core.sendCommand_allOrNothing (lead ++ chunk ++ suffix) requestLabel
        rw [sendChunks]
        split
        · rename_i written result
          rw [result] at sent
          exact sent
        · rename_i unwritten result
          rw [result] at sent
          exact sent

/-! ## MONITOR lists -/

/-- A text is sent as one command without a label. -/
theorem sendText_eq (command : String) :
    core.sendText command =
      if core.acceptsCommand (utf8 command) "" then (core.sendLine (utf8 command ++ crlf), true)
      else (core, false) := by
  rw [sendText, sendCommand_eq, labeledCommand, if_pos rfl]

theorem sendText_allOrNothing (command : String) :
    AllOrNothing core (core.sendText command) [utf8 command ++ crlf] := by
  have sent := core.sendCommand_allOrNothing (utf8 command) ""
  rwa [labeledCommand, if_pos rfl] at sent

/-- A MONITOR line would be written. -/
def acceptsMonitor (lead : String) (nicks : List String) : Bool :=
  core.acceptsCommand (utf8 (monitorCommand lead nicks)) ""

/-- Every nick has a place in a MONITOR line, and every line would be written. -/
def acceptsMonitorList (lead : String) (batch nicks : List String) : Bool :=
  (nicks.all fun nick => nick ≠ "" && !monitorOverflows lead [nick]) &&
    (monitorBatches lead batch nicks).all fun batch =>
      !batch.isEmpty && core.acceptsMonitor lead batch

/-- The first MONITOR line fills up and is written before the list ends. -/
def beginsMonitorList (lead : String) (batch : List String) : List String → Bool
  | [] => false
  | nick :: rest =>
      nick ≠ "" &&
        if monitorOverflows lead (batch ++ [nick]) then
          !batch.isEmpty && core.acceptsMonitor lead batch
        else beginsMonitorList lead (batch ++ [nick]) rest

/-- The lines of a MONITOR list, after some nicks that share the first line. -/
def monitorLines (lead : String) (batch nicks : List String) : List Bytes :=
  (monitorBatches lead batch nicks).map fun batch => utf8 (monitorCommand lead batch) ++ crlf

end Core

/-- A joined list of texts ends in its last text. -/
theorem joinTexts_append_singleton (separator : String) (texts : List String) (last : String) :
    ∃ lead, joinTexts separator (texts ++ [last]) = lead ++ last := by
  by_cases full : texts = []
  · refine ⟨"", ?_⟩
    rw [full, List.nil_append, joinTexts_single, String.empty_append]
  · refine ⟨joinTexts separator texts ++ separator, ?_⟩
    rw [joinTexts_concat _ full, String.append_assoc]

/-- A nick that fits after others fits a line of its own. -/
theorem monitorOverflows_singleton {lead : String} {batch : List String} {nick : String}
    (fits : monitorOverflows lead (batch ++ [nick]) = false) :
    monitorOverflows lead [nick] = false := by
  obtain ⟨before, ends⟩ := joinTexts_append_singleton "," batch nick
  simp only [monitorOverflows, monitorCommand, ends, joinTexts_single, byteLength, utf8_append,
    List.length_append, gt_iff_lt, decide_eq_false_iff_not] at fits ⊢
  omega

/-- Every nick of a list stands in its batches, in order. -/
theorem monitorBatches_flatten (lead : String) (batch nicks : List String) :
    (monitorBatches lead batch nicks).flatten = batch ++ nicks := by
  induction nicks generalizing batch with
  | nil => simp [monitorBatches]
  | cons nick rest inductionHypothesis =>
      rw [monitorBatches]
      split
      · simp [inductionHypothesis]
      · simp [inductionHypothesis]

namespace Core

variable (core : Core)

/-- Packing sends a full line before a nick that does not fit it. -/
theorem packMonitor_cons (lead : String) (batch : List String) (nick : String)
    (rest : List String) :
    core.packMonitor lead batch (nick :: rest) =
      if nick = "" then (core, false)
      else if monitorOverflows lead (batch ++ [nick]) then
        if batch.isEmpty || !core.acceptsMonitor lead batch then (core, false)
        else if monitorOverflows lead [nick] then
          (core.sendLine (utf8 (monitorCommand lead batch) ++ crlf), false)
        else
          (core.sendLine (utf8 (monitorCommand lead batch) ++ crlf)).packMonitor lead [nick] rest
      else core.packMonitor lead (batch ++ [nick]) rest := by
  have alone : joinTexts "," [nick] = nick := by simp [joinTexts, List.intercalate]
  rw [packMonitor, sendText_eq]
  simp only [monitorOverflows, acceptsMonitor, monitorCommand, alone, byteLength, utf8_append,
    List.length_append, decide_eq_true_eq]
  congr 1
  congr 1
  cases batch.isEmpty
  · cases core.acceptsCommand (utf8 lead ++ utf8 (joinTexts "," batch)) ""
    · simp
    · simp
  · simp

/-- The last line of a list is sent when it holds a nick. -/
theorem packMonitor_nil (lead : String) (batch : List String) :
    core.packMonitor lead batch [] =
      if batch.isEmpty || !core.acceptsMonitor lead batch then (core, false)
      else (core.sendLine (utf8 (monitorCommand lead batch) ++ crlf), true) := by
  rw [packMonitor, sendText_eq, acceptsMonitor]
  cases batch.isEmpty
  · cases core.acceptsCommand (utf8 (monitorCommand lead batch)) ""
    all_goals rfl
  · rfl

/-- A written line leaves what the session accepts as it was. -/
theorem acceptsMonitor_sendLine (built : Bytes) (lead : String) (nicks : List String) :
    (core.sendLine built).acceptsMonitor lead nicks = core.acceptsMonitor lead nicks :=
  acceptsCommand_congr (congrArg Control.state (core.sendLine_toControl _))
    (core.sendLine_features _) _ _

theorem acceptsMonitorList_sendLine (built : Bytes) (lead : String) (batch nicks : List String) :
    (core.sendLine built).acceptsMonitorList lead batch nicks =
      core.acceptsMonitorList lead batch nicks := by
  simp only [acceptsMonitorList, acceptsMonitor_sendLine]

/-- What a list needs beyond its first nick. -/
theorem acceptsMonitorList_cons (lead : String) (batch : List String) (nick : String)
    (rest : List String) :
    core.acceptsMonitorList lead batch (nick :: rest) =
      if nick = "" then false
      else if monitorOverflows lead (batch ++ [nick]) then
        if batch.isEmpty || !core.acceptsMonitor lead batch then false
        else !monitorOverflows lead [nick] && core.acceptsMonitorList lead [nick] rest
      else core.acceptsMonitorList lead (batch ++ [nick]) rest := by
  rw [acceptsMonitorList, acceptsMonitorList, acceptsMonitorList, monitorBatches, List.all_cons]
  by_cases empty : nick = ""
  · simp [empty]
  · rw [if_neg empty]
    cases full : monitorOverflows lead (batch ++ [nick])
    · simp [empty, monitorOverflows_singleton full]
    · rw [if_pos rfl, if_pos rfl, List.all_cons]
      generalize core.acceptsMonitor lead batch = fine
      cases batch.isEmpty
      all_goals cases fine
      all_goals cases monitorOverflows lead [nick]
      all_goals simp [empty]

/-- A list is sent to its end exactly when all of it is accepted. -/
theorem packMonitor_sent (lead : String) (batch nicks : List String) :
    (core.packMonitor lead batch nicks).2 = core.acceptsMonitorList lead batch nicks := by
  induction nicks generalizing core batch with
  | nil =>
      rw [packMonitor_nil, acceptsMonitorList, monitorBatches, List.all_nil, List.all_cons]
      generalize core.acceptsMonitor lead batch = fine
      cases batch.isEmpty
      all_goals cases fine
      all_goals rfl
  | cons nick rest inductionHypothesis =>
      rw [packMonitor_cons, acceptsMonitorList_cons]
      split
      · rfl
      · split
        · split
          · rfl
          · split
            · rename_i long
              rw [long]
              rfl
            · rename_i short
              rw [inductionHypothesis, acceptsMonitorList_sendLine]
              simp [short]
        · exact inductionHypothesis core _

/-- A list that is sent to its end queued its lines in order. -/
theorem packMonitor_accepted (lead : String) (batch nicks : List String)
    (accepted : core.acceptsMonitorList lead batch nicks = true) :
    AllOrNothing core (core.packMonitor lead batch nicks) (monitorLines lead batch nicks) := by
  induction nicks generalizing core batch with
  | nil =>
      rw [packMonitor_nil]
      split
      · exact .refused core _
      · obtain ⟨pendingLabels, nextRequestLabel⟩ :=
          core.sendLine_labels (utf8 (monitorCommand lead batch) ++ crlf)
        exact ⟨pendingLabels, nextRequestLabel, core.sendLine_crlf_effects _⟩
  | cons nick rest inductionHypothesis =>
      rw [acceptsMonitorList_cons] at accepted
      rw [packMonitor_cons, monitorLines, monitorBatches]
      split at accepted
      · cases accepted
      · rename_i named
        rw [if_neg named]
        split at accepted
        · rename_i full
          split at accepted
          · cases accepted
          · rename_i fine
            obtain ⟨short, later⟩ := (Bool.and_eq_true _ _).mp accepted
            rw [if_pos full, if_neg fine, if_neg (by simpa using short), if_pos full]
            rw [← core.acceptsMonitorList_sendLine (utf8 (monitorCommand lead batch) ++ crlf)]
              at later
            obtain ⟨pendingLabels, nextRequestLabel⟩ :=
              core.sendLine_labels (utf8 (monitorCommand lead batch) ++ crlf)
            have sent := inductionHypothesis _ _ later
            refine ⟨sent.pendingLabels.trans pendingLabels,
              sent.nextRequestLabel.trans nextRequestLabel, ?_⟩
            rw [sent.effects, packMonitor_sent, later, core.sendLine_crlf_effects]
            simp [queuedWrites, monitorLines]
        · rename_i short
          rw [if_neg short, if_neg short]
          exact inductionHypothesis core _ accepted

/-- A list that is refused before its first line fills up queued nothing. -/
theorem packMonitor_unbegun (lead : String) (batch nicks : List String)
    (refused : core.acceptsMonitorList lead batch nicks = false)
    (unbegun : core.beginsMonitorList lead batch nicks = false) :
    core.packMonitor lead batch nicks = (core, false) := by
  induction nicks generalizing batch with
  | nil =>
      have unsent := core.packMonitor_sent lead batch []
      rw [refused] at unsent
      rw [packMonitor_nil] at unsent ⊢
      split at unsent
      · rename_i held
        rw [if_pos held]
      · cases unsent
  | cons nick rest inductionHypothesis =>
      rw [acceptsMonitorList_cons] at refused
      rw [packMonitor_cons]
      by_cases empty : nick = ""
      · rw [if_pos empty]
      · rw [if_neg empty] at refused ⊢
        rw [beginsMonitorList] at unbegun
        cases full : monitorOverflows lead (batch ++ [nick])
        · rw [full, if_neg Bool.false_ne_true] at refused
          rw [if_neg Bool.false_ne_true]
          exact inductionHypothesis _ refused (by simpa [empty, full] using unbegun)
        · have held : (batch.isEmpty || !core.acceptsMonitor lead batch) = true := by
            by_cases none : batch = []
            · simp [none]
            · simpa [empty, full, none] using unbegun
          rw [if_pos rfl, if_pos held]

/-- A list whose first line fills up queued something. -/
theorem packMonitor_begun (lead : String) (batch nicks : List String)
    (begun : core.beginsMonitorList lead batch nicks = true) :
    (core.packMonitor lead batch nicks).1.effects ≠ core.effects := by
  induction nicks generalizing batch with
  | nil => cases begun
  | cons nick rest inductionHypothesis =>
      rw [beginsMonitorList] at begun
      rw [packMonitor_cons]
      by_cases empty : nick = ""
      · simp [empty] at begun
      · rw [if_neg empty]
        cases full : monitorOverflows lead (batch ++ [nick])
        · rw [if_neg Bool.false_ne_true]
          exact inductionHypothesis _ (by simpa [empty, full] using begun)
        · have fine : (batch.isEmpty || !core.acceptsMonitor lead batch) = false := by
            simpa [empty, full] using begun
          rw [if_pos rfl, fine, if_neg Bool.false_ne_true]
          split
          · simp [core.sendLine_crlf_effects]
          · -- The line is out, and what follows only adds to the queue.
            obtain ⟨frames, later, -⟩ := (packMonitor_peripheral lead [nick] rest
              (core.sendLine (utf8 (monitorCommand lead batch) ++ crlf))).writes
            simp [later, core.sendLine_crlf_effects]

/-! ## The operations -/

/-- The line of a command given as a text. -/
def textLine (command : String) : Bytes := utf8 command ++ crlf

/-- A MONITOR command reports its result exactly, unless a later line of it is refused. -/
def SplitsMonitor (lead : String) (nicks : List String) : Prop :=
  core.beginsMonitorList lead [] nicks = true ∧ core.acceptsMonitorList lead [] nicks = false

/-- A kick with a ban is cut short: the ban goes out and the kick does not. -/
def SplitsKickban (channel mask nick reason : String) : Prop :=
  channel ≠ "" ∧ mask ≠ "" ∧ nick ≠ "" ∧
    core.acceptsCommand (utf8 (channelModeCommand (banRequest channel mask))) "" = true ∧
    core.acceptsCommand (utf8 (kickCommand channel nick reason)) "" = false

theorem packMonitor_allOrNothing_iff (lead : String) (nicks : List String) :
    AllOrNothing core (core.packMonitor lead [] nicks) (monitorLines lead [] nicks) ↔
      ¬ core.SplitsMonitor lead nicks := by
  cases accepted : core.acceptsMonitorList lead [] nicks
  · cases begun : core.beginsMonitorList lead [] nicks
    · rw [core.packMonitor_unbegun lead [] nicks accepted begun]
      simp [SplitsMonitor, begun, AllOrNothing.refused]
    · have grown := core.packMonitor_begun lead [] nicks begun
      simp only [SplitsMonitor, begun, accepted, and_self, not_true_eq_false, iff_false]
      intro sent
      apply grown
      rw [sent.effects, packMonitor_sent, accepted]
      simp
  · simp [SplitsMonitor, accepted, core.packMonitor_accepted lead [] nicks accepted]

theorem kickban_allOrNothing_iff (channel mask nick reason : String) :
    AllOrNothing core (core.kickban channel mask nick reason)
        [textLine (channelModeCommand (banRequest channel mask)),
          textLine (kickCommand channel nick reason)] ↔
      ¬ core.SplitsKickban channel mask nick reason := by
  rw [kickban]
  split
  · rename_i unnamed
    refine iff_of_true (.refused core _) ?_
    rintro ⟨someChannel, someMask, someNick, -⟩
    rcases unnamed with none | none | none
    · exact someChannel none
    · exact someMask none
    · exact someNick none
  · rename_i named
    obtain ⟨someChannel, someMask, someNick⟩ : channel ≠ "" ∧ mask ≠ "" ∧ nick ≠ "" := by
      simpa only [not_or] using named
    rw [sendChannelMode, sendText_eq]
    cases banned : core.acceptsCommand (utf8 (channelModeCommand (banRequest channel mask))) ""
    · simp [SplitsKickban, banned, AllOrNothing.refused]
    · have kept := acceptsCommand_congr
        (congrArg Control.state
          (core.sendLine_toControl (utf8 (channelModeCommand (banRequest channel mask)) ++ crlf)))
        (core.sendLine_features _) (utf8 (kickCommand channel nick reason)) ""
      obtain ⟨pendingLabels, nextRequestLabel⟩ := core.sendLine_labels
        (utf8 (channelModeCommand (banRequest channel mask)) ++ crlf)
      simp only [if_true, kick, someChannel, someNick, or_self, if_false, sendText_eq, kept]
      cases kicked : core.acceptsCommand (utf8 (kickCommand channel nick reason)) ""
      · refine iff_of_false (fun sent => ?_) (fun whole =>
          whole ⟨someChannel, someMask, someNick, banned, kicked⟩)
        simpa [core.sendLine_crlf_effects] using sent.effects
      · refine iff_of_true ?_ (fun cut => by simpa [kicked] using cut.2.2.2.2)
        have later := (core.sendLine
          (utf8 (channelModeCommand (banRequest channel mask)) ++ crlf)).sendLine_labels
            (utf8 (kickCommand channel nick reason) ++ crlf)
        refine ⟨later.1.trans pendingLabels, later.2.trans nextRequestLabel, ?_⟩
        simp [sendLine_crlf_effects, queuedWrites, textLine]

/-- A join is written whole or refused before its key is noted. -/
theorem joinLocked_allOrNothing (target : IrcJoinTarget) :
    AllOrNothing core (core.joinLocked target)
      [textLine (joinCommand target.channel (target.key.getD ""))] := by
  rw [joinLocked]
  refine .guarded fun _ => ?_
  cases built : join target.channel (target.key.getD "") core.features with
  | error error =>
      simp only [built]
      exact .refused core _
  | ok frame =>
      have written : frame = textLine (joinCommand target.channel (target.key.getD "")) := by
        simp only [join, joinCommand, textLine] at built ⊢
        split at built
        · cases built
        · split at built
          · rename_i keyless
            rw [if_pos keyless]
            exact (line_eq_ok_iff.mp built).2.2.2
          · rename_i keyed
            split at built
            · cases built
            · rw [if_neg keyed]
              exact (line_eq_ok_iff.mp built).2.2.2
      subst written
      simp only [built]
      generalize recorded : (if target.key.isSome = true then _ else core : Core) = noted
      have unsent : Unsent core noted := by
        subst recorded
        split
        all_goals exact ⟨rfl, rfl, rfl⟩
      obtain ⟨pendingLabels, nextRequestLabel⟩ := noted.sendLine_labels
        (textLine (joinCommand target.channel (target.key.getD "")))
      exact .before unsent ⟨pendingLabels, nextRequestLabel, noted.sendLine_crlf_effects _⟩

/-- Clearing a metadata key is one line. -/
theorem setOwnMetadata_clear_allOrNothing (key : String) :
    AllOrNothing core
      ((core.setOwnMetadata key "").1, (core.setOwnMetadata key "").2.isSome)
      ((canonicalKey key).map fun stored => textLine ("METADATA * SET " ++ stored)).toList := by
  rw [setOwnMetadata]
  split
  · exact .refused core _
  · split
    · exact .refused core _
    · cases canonicalKey key with
      | none => exact .refused core _
      | some stored =>
          have sent := core.sendText_allOrNothing ("METADATA * SET " ++ stored)
          simp only [if_true]
          split
          · rename_i written taken
            rw [sendText, taken] at sent
            exact sent
          · rename_i refused taken
            rw [sendText, taken] at sent
            exact sent

variable [Platform]

/-- The lines an operation puts on the wire, in order. -/
def operationLines : SendOperation → List Bytes
  | .privmsg target body =>
      core.trailingLines (utf8 ("PRIVMSG " ++ target ++ " :")) (utf8 body) [] ""
  | .notice target body =>
      core.trailingLines (utf8 ("NOTICE " ++ target ++ " :")) (utf8 body) [] ""
  | .action target body =>
      core.trailingLines
        (utf8 ("PRIVMSG " ++ target ++ " :" ++ String.singleton ctcpDelimiter ++ "ACTION "))
        (utf8 body) (utf8 (String.singleton ctcpDelimiter)) ""
  | .ctcp target command argument requestLabel =>
      core.trailingLines (utf8 ("PRIVMSG " ++ target ++ " :"))
        (utf8 (ctcpPayload { command := Platform.toUppercase (trim command), argument })) []
        requestLabel
  | .typing target phase => (typingTagmsg target phase).toList
  | .channelMode request => [textLine (channelModeCommand request)]
  | .join target => [textLine (joinCommand target.channel (target.key.getD ""))]
  | .part channel => [textLine ("PART " ++ channel)]
  | .kick channel nick reason => [textLine (kickCommand channel nick reason)]
  | .kickban channel mask nick reason =>
      [textLine (channelModeCommand (banRequest channel mask)),
        textLine (kickCommand channel nick reason)]
  | .invite nick channel => [textLine ("INVITE " ++ nick ++ " " ++ channel)]
  | .setTopic channel topic => [textLine ("TOPIC " ++ channel ++ " :" ++ topic)]
  | .setAway reason =>
      [textLine (if trim reason = "" then "AWAY" else "AWAY :" ++ trim reason)]
  | .markAway reason =>
      [textLine (if trim reason = "" then "AWAY :" else "AWAY :" ++ trim reason)]
  | .clearAway => [textLine "AWAY"]
  | .clearOwnMetadata key =>
      ((canonicalKey key).map fun stored => textLine ("METADATA * SET " ++ stored)).toList
  | .changeNick nick => [textLine ("NICK " ++ nick)]
  | .whois nick requestLabel =>
      [labeledCommand (utf8 ("WHOIS " ++ trim nick ++ " " ++ trim nick)) requestLabel ++ crlf]
  | .monitor modifier nicks =>
      if modifier.toUpper = '+' ∨ modifier.toUpper = '-' then
        monitorLines (monitorLead modifier.toUpper) [] nicks
      else [textLine ("MONITOR " ++ String.singleton modifier.toUpper)]
  | .list mask => [textLine (if trim mask = "" then "LIST" else "LIST " ++ trim mask)]
  | .raw line => [textLine line]
  | .olderHistory target msgid timestamp =>
      ((historySelector { msgid, time := timestamp }).map fun cursor =>
        textLine ("CHATHISTORY BEFORE " ++ target ++ " " ++ cursor ++ " " ++
          toString core.historyLimit)).toList
  | .historyAfter target after =>
      ((historySelector { time := some after }).map fun selector =>
        textLine ("CHATHISTORY AFTER " ++ target ++ " " ++ selector ++ " " ++
          toString core.historyLimit)).toList
  | .historyLatest target =>
      [textLine ("CHATHISTORY LATEST " ++ target ++ " * " ++ toString core.historyLimit)]
  | .historyTargets start stop =>
      [textLine ("CHATHISTORY TARGETS timestamp=" ++ formatChatHistoryTimestamp start ++
        " timestamp=" ++ formatChatHistoryTimestamp stop ++ " " ++ toString core.historyLimit)]
  | .readMarkerGet target => [textLine (core.readMarkerCommand ++ " " ++ target)]

/-- An operation is cut short after a line of it went out. -/
def SplitsOperation : SendOperation → Prop
  | .kickban channel mask nick reason => core.SplitsKickban channel mask nick reason
  | .monitor modifier nicks =>
      (modifier.toUpper = '+' ∨ modifier.toUpper = '-') ∧
        core.SplitsMonitor (monitorLead modifier.toUpper) nicks
  | _ => False

/-- One page request of an AFTER chain is one line. -/
theorem sendHistoryPage_allOrNothing (subcommand : String) (kind : HistoryRequestKind)
    (target : String) (cursor : HistoryCursor) :
    AllOrNothing core (core.sendHistoryPage subcommand kind target cursor)
      ((historySelector cursor).map fun selector =>
        textLine ("CHATHISTORY " ++ subcommand ++ " " ++ target ++ " " ++ selector ++ " " ++
          toString core.historyLimit)).toList := by
  rw [sendHistoryPage]
  cases historySelector cursor with
  | none => exact .refused core _
  | some selector =>
      refine .noted (fun core => .refl core) (fun _ => ⟨rfl, rfl, rfl⟩) ?_
      refine .before ?_ (sendText_allOrNothing _ _)
      exact ⟨rfl, rfl, rfl⟩

/-- An operation is all or nothing exactly when it is not cut short. -/
theorem send_allOrNothing_iff (operation : SendOperation) :
    AllOrNothing core (core.send operation) (core.operationLines operation) ↔
      ¬ core.SplitsOperation operation := by
  cases operation with
  | kickban channel mask nick reason => exact core.kickban_allOrNothing_iff channel mask nick reason
  | monitor modifier nicks =>
      simp only [send, sendMonitorLocked, operationLines, SplitsOperation]
      generalize modifier.toUpper = mark
      by_cases signed : mark = '+' ∨ mark = '-'
      · have listed : ¬ (mark = 'C' ∨ mark = 'L' ∨ mark = 'S') := by
          rcases signed with rfl | rfl
          all_goals decide
        simp only [signed, listed, if_true, if_false, true_and]
        cases nicks with
        | nil => simp [SplitsMonitor, beginsMonitorList, AllOrNothing.refused]
        | cons nick rest => exact core.packMonitor_allOrNothing_iff (monitorLead mark) (nick :: rest)
      · simp only [signed, if_false, false_and, not_false_eq_true, iff_true]
        split
        · exact .guarded fun _ => core.sendText_allOrNothing _
        · exact .refused core _
  | privmsg target body =>
      refine iff_of_true ?_ not_false
      exact .guarded fun _ => .noted (fun _ => ⟨rfl, rfl, rfl⟩) (fun _ => .refl _)
        (core.sendTrailingBody_allOrNothing _ _ _ _)
  | notice target body =>
      refine iff_of_true ?_ not_false
      exact .guarded fun _ => core.sendTrailingBody_allOrNothing _ _ _ _
  | action target body =>
      refine iff_of_true ?_ not_false
      exact .guarded fun _ => .noted (fun _ => ⟨rfl, rfl, rfl⟩) (fun _ => .refl _)
        (core.sendTrailingBody_allOrNothing _ _ _ _)
  | ctcp target command argument requestLabel =>
      refine iff_of_true ?_ not_false
      exact .guarded fun _ => core.sendTrailingBody_allOrNothing _ _ _ _
  | typing target phase =>
      refine iff_of_true ?_ not_false
      refine .guarded fun _ => .guarded fun _ => .guarded fun _ => ?_
      simp only [operationLines]
      cases typingTagmsg target phase with
      | none => exact .refused core _
      | some built => exact ⟨rfl, rfl, rfl⟩
  | channelMode request =>
      exact iff_of_true (core.sendText_allOrNothing _) not_false
  | join target => exact iff_of_true (core.joinLocked_allOrNothing target) not_false
  | part channel =>
      exact iff_of_true (.guarded fun _ => core.sendText_allOrNothing _) not_false
  | kick channel nick reason =>
      exact iff_of_true (.guarded fun _ => core.sendText_allOrNothing _) not_false
  | invite nick channel =>
      exact iff_of_true (.guarded fun _ => core.sendText_allOrNothing _) not_false
  | setTopic channel topic =>
      exact iff_of_true (.guarded fun _ => core.sendText_allOrNothing _) not_false
  | setAway reason =>
      refine iff_of_true ?_ not_false
      simp only [send, setAwayLocked, operationLines]
      split
      all_goals exact core.sendText_allOrNothing _
  | markAway reason =>
      refine iff_of_true ?_ not_false
      simp only [send, Core.markAway, operationLines]
      split
      all_goals exact core.sendText_allOrNothing _
  | clearAway =>
      refine iff_of_true ?_ not_false
      simp only [send, setAwayLocked, if_pos (show trim "" = "" by decide)]
      exact core.sendText_allOrNothing "AWAY"
  | clearOwnMetadata key =>
      exact iff_of_true (core.setOwnMetadata_clear_allOrNothing key) not_false
  | changeNick nick =>
      exact iff_of_true (.guarded fun _ => core.sendText_allOrNothing _) not_false
  | whois nick requestLabel =>
      exact iff_of_true (.guarded fun _ => core.sendCommand_allOrNothing _ _) not_false
  | list mask =>
      refine iff_of_true (.guarded fun _ => ?_) not_false
      simp only [operationLines]
      split
      all_goals exact core.sendText_allOrNothing _
  | raw line => exact iff_of_true (core.sendText_allOrNothing _) not_false
  | olderHistory target msgid timestamp =>
      refine iff_of_true (.guarded fun _ => .guarded fun _ => .guarded fun _ => ?_) not_false
      simp only [operationLines]
      cases historySelector { msgid, time := timestamp } with
      | none => exact .refused core _
      | some cursor =>
          refine .noted (fun core => .refl core) (fun _ => ⟨rfl, rfl, rfl⟩) ?_
          refine .before ?_ (sendText_allOrNothing _ _)
          exact ⟨rfl, rfl, rfl⟩
  | historyAfter target after =>
      refine iff_of_true (.guarded fun _ => .guarded fun _ => ?_) not_false
      refine .before ?_ (sendHistoryPage_allOrNothing _ "AFTER" .after target _)
      exact ⟨rfl, rfl, rfl⟩
  | historyLatest target =>
      refine iff_of_true (.guarded fun _ => .guarded fun _ => ?_) not_false
      refine .noted (fun core => .refl core) (fun _ => ⟨rfl, rfl, rfl⟩) ?_
      refine .before ?_ (sendText_allOrNothing _ _)
      exact ⟨rfl, rfl, rfl⟩
  | historyTargets start stop =>
      refine iff_of_true ?_ not_false
      exact .guarded fun _ => .guarded fun _ =>
        .noted (fun _ => ⟨rfl, rfl, rfl⟩) (fun _ => .refl _) (core.sendText_allOrNothing _)
  | readMarkerGet target =>
      exact iff_of_true (.guarded fun _ => core.sendText_allOrNothing _) not_false

end Core

section Reference

local instance atomicityPlatform : Platform := reference

/-- A kick whose reason holds a line feed is refused, with its ban already queued. -/
theorem kickban_reason_feed_split :
    ¬ ∀ config system, System.Reachable config system → ∀ operation,
      (system.core.send operation).2 = false →
        (system.core.send operation).1.effects = system.core.effects := by
  intro law
  have ends : ((System.initial plaintextProfile).run (underOneClock (connectActions ++
      readActions [":s CAP * LS :", ":s 001 nick :hi"] ++ performActions 3))).any
      (fun system =>
        let result := system.core.send (.kickban "#omairc" "spam!*@*" "spam" "one\ntwo")
        !result.2 && result.1.effects ≠ system.core.effects) = true := by
    decide +kernel
  obtain ⟨system, taken, holds⟩ := exists_of_any ends
  simp only [Bool.and_eq_true, Bool.not_eq_true', decide_eq_true_eq] at holds
  exact holds.2 (law _ system (.of_runAll taken) _ holds.1)

end Reference

end Omairc.Session

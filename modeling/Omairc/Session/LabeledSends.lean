import Omairc.Session.Atomicity

/-!
# Sending under a label

A label is a tag in front of the line. The line builder checks the length of the whole
line, tag included, so a line may be sent alone that is refused under a label. A body
under a label must fit one line, and an empty command is a line only under a label.
-/

namespace Omairc.Session

open Omairc.Text Omairc.Irc

/-- A send that may carry a label: one command, or a body that may need several lines. -/
inductive LabeledSend
  | command (command : Bytes)
  | body (lead body suffix : Bytes)

/-- The tag of a label, with the space after it. -/
def labelTag (label : String) : Bytes :=
  if label = "" then [] else utf8 "@label=" ++ utf8 label ++ [32]

/-- A labeled command is the command with the tag in front. -/
theorem labeledCommand_eq (command : Bytes) (label : String) :
    labeledCommand command label = labelTag label ++ command := by
  rw [labeledCommand, labelTag]
  split
  all_goals rfl

/-- Without a label there is no tag. -/
@[simp] theorem labelTag_empty : labelTag "" = [] := if_pos rfl

/-- A label that may be sent makes a tag with no forbidden bytes. -/
theorem labelTag_clean {label : String} (safe : isTagSafeLabel label = true) :
    label ≠ "" ∧ containsForbidden (labelTag label) = false := by
  simp only [isTagSafeLabel, Bool.and_eq_true, decide_eq_true_eq, List.all_eq_true] at safe
  obtain ⟨⟨named, -⟩, bytes⟩ := safe
  refine ⟨named, ?_⟩
  have value : containsForbidden (utf8 label) = false := by
    rw [containsForbidden, List.any_eq_false]
    intro byte present forbidden
    have allowed := bytes byte present
    simp only [isForbidden, Bool.or_eq_true, beq_iff_eq] at forbidden
    rcases forbidden with (rfl | rfl) | rfl
    all_goals cases allowed
  have lead : containsForbidden (utf8 "@label=") = false := by decide
  rw [labelTag, if_neg named, containsForbidden_append, containsForbidden_append, lead, value]
  decide

namespace Core

variable (core : Core)

/-- Send under a label. -/
def sendUnder (label : String) : LabeledSend → Core × Bool
  | .command command => core.sendCommand command label
  | .body lead body suffix => core.sendTrailingBody lead body suffix label

/-- The frames of a send without a label. -/
def framesOf : LabeledSend → List Bytes
  | .command command => [command ++ crlf]
  | .body lead body suffix =>
      (splitTrailingParam lead body suffix core.features).map fun chunk =>
        lead ++ chunk ++ suffix ++ crlf

/-- A label changes nothing but the tag: the send is accepted under it exactly when it is
accepted without it, and its frames are the same with the tag in front. -/
structure SendsAlike (send : LabeledSend) (label : String) : Prop where
  accepted : (core.sendUnder label send).2 = (core.sendUnder "" send).2
  frames : (core.sendUnder label send).2 = true → ∃ frames,
    (core.sendUnder "" send).1.effects = core.effects ++ queuedWrites frames ∧
      (core.sendUnder label send).1.effects =
        core.effects ++ queuedWrites (frames.map (labelTag label ++ ·))

/-- A command fits its line under a label. -/
def FitsUnder (label : String) (command : Bytes) : Prop :=
  (labelTag label).length + command.length + crlfBytes ≤ core.features.lineLength

/-- Whether a label changes nothing for a command that is sent while registered and holds no
forbidden byte: an unsafe label is refused, so the command must be; under a safe one the tag
must not take a line over the limit, and makes an empty command a line. -/
def LabelFits (label : String) (command : Bytes) : Prop :=
  if isTagSafeLabel label then
    if command = [] then ¬ core.FitsUnder label []
    else core.FitsUnder "" command → core.FitsUnder label command
  else command = [] ∨ ¬ core.FitsUnder "" command

/-- When a label changes nothing. -/
def LabelSpares (label : String) : LabeledSend → Prop
  | .command command =>
      label = "" ∨ core.state ≠ .registered ∨ containsForbidden command = true ∨
        core.LabelFits label command
  | .body lead body suffix =>
      label = "" ∨ core.state ≠ .registered ∨
        match splitTrailingParam lead body suffix core.features with
        | [] => True
        | [chunk] => isTagSafeLabel label = true ∧ core.FitsUnder label (lead ++ chunk ++ suffix)
        | _ => False

/-- When a command is accepted. -/
theorem acceptsCommand_iff (command : Bytes) (label : String) :
    core.acceptsCommand command label = true ↔
      core.state = .registered ∧ (label = "" ∨ isTagSafeLabel label = true) ∧
        (label ≠ "" ∨ command ≠ []) ∧ containsForbidden (labelTag label ++ command) = false ∧
        core.FitsUnder label command := by
  have built : (line (labeledCommand command label) core.features).toOption.isSome = true ↔
      labeledCommand command label ≠ [] ∧ containsForbidden (labeledCommand command label) = false ∧
        (labeledCommand command label).length + crlfBytes ≤ core.features.lineLength := by
    constructor
    · intro accepted
      cases result : line (labeledCommand command label) core.features with
      | error error =>
          rw [result] at accepted
          cases accepted
      | ok frame =>
          obtain ⟨nonempty, clean, fits, -⟩ := line_eq_ok_iff.mp result
          exact ⟨nonempty, clean, fits⟩
    · rintro ⟨nonempty, clean, fits⟩
      rw [line_eq_ok_iff.mpr ⟨nonempty, clean, fits, rfl⟩]
      rfl
  have nonempty : labelTag label ++ command ≠ [] ↔ label ≠ "" ∨ command ≠ [] := by
    by_cases unlabeled : label = ""
    · simp [unlabeled]
    · simp [labelTag, unlabeled]
  rw [labeledCommand_eq, nonempty, List.length_append] at built
  simp only [acceptsCommand, Bool.and_eq_true, decide_eq_true_eq, Bool.or_eq_true, labeledCommand_eq,
    built, FitsUnder, and_assoc]

/-- A command is sent exactly when it is accepted. -/
theorem sendCommand_accepted (command : Bytes) (label : String) :
    (core.sendCommand command label).2 = core.acceptsCommand command label := by
  rw [sendCommand_eq]
  split
  · rename_i accepted
    exact accepted.symm
  · rename_i refused
    exact (Bool.eq_false_iff.mpr refused).symm

/-- A chunk of a body is accepted without a label while registered. -/
theorem acceptsCommand_chunk {lead body suffix chunk : Bytes}
    (present : chunk ∈ splitTrailingParam lead body suffix core.features) :
    core.acceptsCommand (lead ++ chunk ++ suffix) "" = true ↔ core.state = .registered := by
  obtain ⟨nonempty, clean, fits, -⟩ := line_eq_ok_iff.mp (line_of_mem_splitTrailingParam present)
  rw [acceptsCommand_iff, labelTag_empty, List.nil_append]
  refine ⟨fun accepted => accepted.1, fun registered => ?_⟩
  refine ⟨registered, .inl rfl, .inr nonempty, clean, ?_⟩
  rw [FitsUnder, labelTag_empty, List.length_nil, Nat.zero_add]
  exact fits

/-- A body is sent without a label when it has chunks. -/
theorem sendTrailingBody_unlabeled (lead body suffix : Bytes) :
    (core.sendTrailingBody lead body suffix "").2 = true ↔
      core.state = .registered ∧ splitTrailingParam lead body suffix core.features ≠ [] := by
  have fits (chunk : Bytes) (present : chunk ∈ splitTrailingParam lead body suffix core.features) :=
    core.acceptsCommand_chunk present
  rw [sendTrailingBody]
  revert fits
  generalize splitTrailingParam lead body suffix core.features = chunks
  intro fits
  cases chunks with
  | nil => simp
  | cons chunk others =>
      by_cases registered : core.state = .registered
      · have accepted : ∀ other ∈ chunk :: others,
            core.acceptsCommand (lead ++ other ++ suffix) "" = true :=
          fun other present => (fits other present).mpr registered
        simp [registered, (core.sendChunks_of_accepted accepted).2]
      · have refused : core.acceptsCommand (lead ++ chunk ++ suffix) "" = false :=
          Bool.eq_false_iff.mpr (mt (fits chunk List.mem_cons_self).mp registered)
        rw [List.append_assoc] at refused
        simp [registered, sendChunks, sendCommand_eq, refused]

/-- A body is sent under a label when it is one chunk, and accepted. -/
theorem sendTrailingBody_labeled {label : String} (labeled : label ≠ "")
    (lead body suffix : Bytes) :
    (core.sendTrailingBody lead body suffix label).2 = true ↔
      ∃ chunk, splitTrailingParam lead body suffix core.features = [chunk] ∧
        core.acceptsCommand (lead ++ chunk ++ suffix) label = true := by
  rw [sendTrailingBody]
  generalize splitTrailingParam lead body suffix core.features = chunks
  match chunks with
  | [] => simp
  | [chunk] =>
      simp only [List.isEmpty_cons, Bool.false_eq_true, if_false, List.length_singleton, ne_eq,
        not_true_eq_false, decide_false, Bool.and_false, List.cons.injEq, and_true,
        exists_eq_left', sendChunks]
      rw [← sendCommand_accepted]
      split
      · rename_i sent
        rw [sent]
      · rename_i refused
        rw [refused]
  | chunk :: next :: others => simp [labeled]

/-- What a send queues: its frames, each with the tag of the label in front, or nothing. -/
theorem sendUnder_effects (send : LabeledSend) (label : String) :
    (core.sendUnder label send).1.effects = core.effects ++
      if (core.sendUnder label send).2 then
        queuedWrites ((core.framesOf send).map (labelTag label ++ ·))
      else [] := by
  cases send with
  | command command =>
      have sent := (core.sendCommand_allOrNothing command label).effects
      rw [labeledCommand_eq, List.append_assoc] at sent
      exact sent
  | body lead body suffix =>
      have sent := (core.sendTrailingBody_allOrNothing lead body suffix label).effects
      have frames : core.trailingLines lead body suffix label =
          (core.framesOf (.body lead body suffix)).map (labelTag label ++ ·) := by
        rw [trailingLines, framesOf, List.map_map]
        refine List.map_congr_left fun chunk _ => ?_
        rw [labeledCommand_eq, Function.comp_apply, List.append_assoc]
      rw [frames] at sent
      exact sent

/-- The frames of a send that is accepted both ways differ by the tag alone. -/
theorem sendsAlike_iff (send : LabeledSend) (label : String) :
    core.SendsAlike send label ↔
      (core.sendUnder label send).2 = (core.sendUnder "" send).2 := by
  refine ⟨SendsAlike.accepted, fun accepted => ⟨accepted, fun sent => ⟨core.framesOf send, ?_, ?_⟩⟩⟩
  · have alone := core.sendUnder_effects send ""
    rw [← accepted, if_pos sent] at alone
    simpa using alone
  · have labeled := core.sendUnder_effects send label
    rwa [if_pos sent] at labeled

/-- A label changes nothing for a command exactly when its line fits with the tag. -/
theorem sendCommand_alike_iff (command : Bytes) (label : String) :
    (core.sendCommand command label).2 = (core.sendCommand command "").2 ↔
      core.LabelSpares label (.command command) := by
  rw [sendCommand_accepted, sendCommand_accepted, Bool.eq_iff_iff, acceptsCommand_iff, acceptsCommand_iff,
    labelTag_empty, List.nil_append, LabelSpares]
  by_cases unlabeled : label = ""
  · subst unlabeled
    simp
  by_cases registered : core.state = .registered
  · cases forbidden : containsForbidden command with
    | true => simp [forbidden]
    | false =>
        by_cases safe : isTagSafeLabel label = true
        · obtain ⟨-, clean⟩ := labelTag_clean safe
          rw [LabelFits, if_pos safe, containsForbidden_append, clean, forbidden]
          by_cases empty : command = []
          · simp [registered, unlabeled, safe, empty]
          · have shorter : core.FitsUnder label command → core.FitsUnder "" command := by
              rw [FitsUnder, FitsUnder, labelTag_empty, List.length_nil]
              omega
            simp only [registered, unlabeled, safe, empty, ne_eq, not_false_eq_true, true_or, or_true,
              true_and, Bool.or_self, not_true_eq_false, false_or, if_false, Bool.false_eq_true]
            exact ⟨fun same => same.mpr, fun fits => ⟨shorter, fits⟩⟩
        · rw [LabelFits, if_neg safe]
          by_cases empty : command = []
          · simp [registered, unlabeled, safe, empty]
          · simp [registered, unlabeled, safe, empty, forbidden]
  · simp [registered]

/-- A label changes nothing for a body exactly when the body is one line that fits with the
tag. -/
theorem sendTrailingBody_alike_iff (lead body suffix : Bytes) (label : String) :
    (core.sendTrailingBody lead body suffix label).2 =
        (core.sendTrailingBody lead body suffix "").2 ↔
      core.LabelSpares label (.body lead body suffix) := by
  have fits (chunk : Bytes) (present : chunk ∈ splitTrailingParam lead body suffix core.features) :
      core.acceptsCommand (lead ++ chunk ++ suffix) label = true ↔
        core.state = .registered ∧ (label = "" ∨ isTagSafeLabel label = true) ∧
          core.FitsUnder label (lead ++ chunk ++ suffix) := by
    obtain ⟨nonempty, clean, -, -⟩ := line_eq_ok_iff.mp (line_of_mem_splitTrailingParam present)
    rw [acceptsCommand_iff, containsForbidden_append, clean, Bool.or_false]
    constructor
    · rintro ⟨registered, safe, -, -, fits⟩
      exact ⟨registered, safe, fits⟩
    · rintro ⟨registered, safe, fits⟩
      refine ⟨registered, safe, .inr nonempty, ?_, fits⟩
      rcases safe with rfl | safe
      · rw [labelTag_empty, containsForbidden_nil]
      · exact (labelTag_clean safe).2
  rw [Bool.eq_iff_iff, sendTrailingBody_unlabeled, LabelSpares]
  by_cases unlabeled : label = ""
  · subst unlabeled
    simp [sendTrailingBody_unlabeled]
  rw [sendTrailingBody_labeled core unlabeled]
  revert fits
  generalize splitTrailingParam lead body suffix core.features = chunks
  intro fits
  match chunks with
  | [] => simp
  | [chunk] =>
      have alone := fits chunk List.mem_cons_self
      rw [or_iff_right unlabeled] at alone
      simp only [List.cons.injEq, and_true, exists_eq_left', alone, ne_eq, List.cons_ne_self,
        not_false_eq_true, unlabeled, false_or]
      by_cases registered : core.state = .registered
      · simp [registered]
      · simp [registered]
  | chunk :: next :: others => simp [unlabeled]

/-- A label changes nothing but the tag exactly when its line fits with the tag: the send is one
line, and not empty. -/
theorem sendsAlike_iff_spares (send : LabeledSend) (label : String) :
    core.SendsAlike send label ↔ core.LabelSpares label send := by
  rw [sendsAlike_iff]
  cases send with
  | command command => exact core.sendCommand_alike_iff command label
  | body lead body suffix => exact core.sendTrailingBody_alike_iff lead body suffix label

end Core

section Reference

local instance labeledSendPlatform : Platform := reference

/-- A command that fills its line is sent alone and refused under a label. -/
theorem full_line_refused_under_label :
    ¬ ∀ config system, System.Reachable config system → ∀ send label,
      isTagSafeLabel label = true → system.core.SendsAlike send label := by
  intro law
  let command := utf8 "WHOIS " ++ List.replicate 250 97 ++ 32 :: List.replicate 250 97
  have ends : ((System.initial plaintextProfile).run (underOneClock (connectActions ++
      readActions [":s CAP * LS :", ":s 001 nick :hi"] ++ performActions 3))).any
      (fun system => (system.core.sendCommand command "").2 &&
        !(system.core.sendCommand command "omairc-1").2) = true := by
    decide +kernel
  obtain ⟨system, taken, holds⟩ := exists_of_any ends
  simp only [Bool.and_eq_true, Bool.not_eq_true'] at holds
  have alike := (law _ system (.of_runAll taken) (.command command) "omairc-1" (by decide)).accepted
  exact Bool.false_ne_true (holds.2.symm.trans (alike.trans holds.1))

end Reference

end Omairc.Session

import Omairc.Session.Builders
import Omairc.Session.LabeledSends
import Omairc.Text.Packing

/-!
# Packing nicknames into MONITOR lines

A list of nicknames goes out in lines of at most 512 bytes, whatever line length the
server advertises. What is sent holds every nickname once, in order. A list is refused
with no nickname to blame when it is empty, or when the server's limit is below 512 and
a full line does not fit it.
-/

namespace Omairc.Session

open Omairc.Text Omairc.Irc
open Omairc.Session.Core (textLine)

/-- The sign of a list: nicknames to watch, or to watch no longer. -/
def monitorSign (adds : Bool) : Char := if adds then '+' else '-'

/-- The start of the lines of a list. -/
def listLead (adds : Bool) : String := monitorLead (monitorSign adds)

/-- A nickname that stands for itself in a list: a word without a comma. -/
def isListedNick (nick : String) : Bool := isWord nick && !nick.toList.contains ','

/-- The nicknames a line of a list is read as. -/
def readNicks (built : Bytes) : List Bytes :=
  match readLine built with
  | some ("MONITOR", [_, nicks]) => nicks.splitOn 44
  | _ => []

/-- A line of nicknames fits a limit. -/
def monitorFits (limit : Nat) (lead : String) (nicks : List String) : Bool :=
  decide (byteLength (monitorCommand lead nicks) + 2 ≤ limit)

/-- Overflowing is not fitting 512 bytes. -/
theorem monitorOverflows_eq (lead : String) (nicks : List String) :
    monitorOverflows lead nicks = !monitorFits maxClassicFrameBytes lead nicks := by
  rw [monitorOverflows, monitorFits, ← decide_not]
  exact decide_eq_decide.mpr Nat.not_le.symm

/-- The batches of a list are the nicknames packed into 512 bytes. -/
theorem monitorBatches_eq (lead : String) (batch nicks : List String) :
    monitorBatches lead batch nicks = packed (monitorFits maxClassicFrameBytes lead) batch nicks := by
  induction nicks generalizing batch with
  | nil => rfl
  | cons nick rest inductionHypothesis =>
      rw [monitorBatches, packed, monitorOverflows_eq, inductionHypothesis, inductionHypothesis]
      cases monitorFits maxClassicFrameBytes lead (batch ++ [nick])
      all_goals rfl

/-- The nicknames of a line stand between commas. -/
theorem utf8_joinTexts_commas (first : String) (rest : List String) :
    utf8 (joinTexts "," (first :: rest)) = [44].intercalate ((first :: rest).map utf8) := by
  induction rest generalizing first with
  | nil => simp [joinTexts_single, List.intercalate]
  | cons next rest inductionHypothesis =>
      have comma : utf8 "," = [44] := by decide
      rw [joinTexts_cons, inductionHypothesis, comma, List.map_cons, List.map_cons,
        List.map_cons, List.intercalate_cons_cons, List.append_assoc]

/-- Fewer nicknames make a shorter text. -/
theorem byteLength_joinTexts_append (nicks more : List String) :
    byteLength (joinTexts "," nicks) ≤ byteLength (joinTexts "," (nicks ++ more)) := by
  induction nicks with
  | nil => simp [joinTexts, byteLength]
  | cons nick rest inductionHypothesis =>
      cases rest with
      | nil =>
          cases more with
          | nil => exact Nat.le_refl _
          | cons next others =>
              rw [List.singleton_append, joinTexts_single, byteLength, byteLength, joinTexts_cons,
                List.length_append]
              omega
      | cons next others =>
          rw [List.cons_append] at inductionHypothesis
          rw [List.cons_append, List.cons_append]
          simp only [byteLength, joinTexts_cons, List.length_append] at inductionHypothesis ⊢
          omega

/-- Fewer nicknames make a shorter line. -/
theorem monitorFits_of_append {limit : Nat} {lead : String} (nicks more : List String)
    (fits : monitorFits limit lead (nicks ++ more) = true) : monitorFits limit lead nicks = true := by
  have shorter := byteLength_joinTexts_append nicks more
  simp only [monitorFits, monitorCommand, byteLength, utf8_append, List.length_append,
    decide_eq_true_eq] at fits shorter ⊢
  omega

/-- A line of listed nicknames is read as those nicknames. -/
theorem readNicks_line {adds : Bool} {batch : List String} (some : batch ≠ [])
    (framed : IsFrame (textLine (monitorCommand (listLead adds) batch)))
    (listed : ∀ nick ∈ batch, isListedNick nick = true) :
    readNicks (textLine (monitorCommand (listLead adds) batch)) = batch.map utf8 := by
  obtain ⟨first, rest, rfl⟩ := List.exists_cons_of_ne_nil some
  have words (nick : String) (present : nick ∈ first :: rest) :
      isWord nick = true ∧ ',' ∉ nick.toList := by
    simpa [isListedNick] using listed nick present
  have joined : isWord (joinTexts "," (first :: rest)) = true := by
    obtain ⟨nonempty, colonless, noSpace⟩ := (isWord_iff first).mp (words first List.mem_cons_self).1
    obtain ⟨lead, tail, head⟩ := List.exists_cons_of_ne_nil fun none =>
      nonempty (String.toList_injective none)
    have starts : (joinTexts "," (first :: rest)).toList.head? = first.toList.head? := by
      rw [joinTexts, String.toList_ofList, List.map_cons, head]
      cases rest with
      | nil => rfl
      | cons next others => rw [List.map_cons, List.intercalate_cons_cons]; rfl
    refine (isWord_iff _).mpr ⟨?_, starts ▸ colonless, fun space => ?_⟩
    · intro none
      rw [none, head] at starts
      cases starts
    · rcases mem_joinTexts space with between | ⟨nick, present, within⟩
      · exact absurd between (by decide)
      · exact ((isWord_iff nick).mp (words nick present).1).2.2 within
  have sign : isWord (String.singleton (monitorSign adds)) = true := by
    cases adds
    all_goals decide
  have lead : utf8 (listLead adds) =
      utf8 "MONITOR" ++ 32 :: (utf8 (String.singleton (monitorSign adds)) ++ [32]) := by
    cases adds
    all_goals decide
  have text : textLine (monitorCommand (listLead adds) (first :: rest)) =
      labeledCommand (commandText "MONITOR" [utf8 (String.singleton (monitorSign adds)),
        utf8 (joinTexts "," (first :: rest))] none) "" ++ crlf := by
    rw [textLine, monitorCommand, utf8_append, lead, labeledCommand, if_pos rfl, commandText]
    simp [parameterText]
  have named : IsCommandName "MONITOR" := ⟨by decide, by decide⟩
  have read := readLine_labeled named (.inl rfl) (text ▸ framed)
  rw [(parseParameters_text_iff _ none).mpr
    ((CommandBuilder.readBack_words _ _ none).mpr ⟨sign, joined⟩)] at read
  rw [readNicks, text, read]
  simp only [List.cons_append, List.nil_append, Option.toList_none]
  rw [utf8_joinTexts_commas]
  refine List.splitOn_intercalate 44 ?_ (by simp)
  intro piece present
  obtain ⟨nick, listed, rfl⟩ := List.mem_map.mp present
  exact fun comma => (words nick listed).2 ((mem_utf8_iff (by decide)).mp comma)

namespace Core

variable (core : Core)

/-- A nickname cannot be sent at all: it is empty, or a line of its own is refused. -/
def MonitorRefuses (lead nick : String) : Prop :=
  nick = "" ∨ core.acceptsMonitor lead [nick] = false

/-- What sending a list should do. Once it is sent, every nickname stands exactly once and in
order in the lines that were queued, and no line is longer than the server allows. It is refused
only for a nickname that cannot be sent at all. -/
structure PacksNicks (adds : Bool) (nicks : List String) (result : Core × Bool) : Prop where
  listed : result.2 = true → ∃ batches : List (List String),
    batches.flatten = nicks ∧
      result.1.effects = core.effects ++ queuedWrites
        (batches.map fun batch => textLine (monitorCommand (listLead adds) batch)) ∧
      ∀ batch ∈ batches,
        (textLine (monitorCommand (listLead adds) batch)).length ≤ core.features.lineLength ∧
          ((∀ nick ∈ batch, isListedNick nick = true) →
            readNicks (textLine (monitorCommand (listLead adds) batch)) = batch.map utf8)
  refused : result.2 = false → ∃ nick ∈ nicks, core.MonitorRefuses (listLead adds) nick

/-- When it does: there are nicknames, and if each can be sent, each fits a line of 512 bytes and
packing to the server's limit would cut no line of 512 bytes shorter. -/
def PacksWithin (adds : Bool) (nicks : List String) : Prop :=
  nicks ≠ [] ∧
    ((∃ nick ∈ nicks, core.MonitorRefuses (listLead adds) nick) ∨
      (∀ nick ∈ nicks, monitorFits maxClassicFrameBytes (listLead adds) [nick] = true) ∧
        packed (monitorFits (min core.features.lineLength maxClassicFrameBytes) (listLead adds)) []
            nicks =
          packed (monitorFits maxClassicFrameBytes (listLead adds)) [] nicks)

variable {core : Core} {adds : Bool} {nicks : List String}

/-- The line of nicknames that can each be sent is accepted when it fits. -/
theorem acceptsMonitor_iff {lead : String} {batch : List String} (some : batch ≠ [])
    (sendable : ∀ nick ∈ batch, ¬ core.MonitorRefuses lead nick) :
    core.acceptsMonitor lead batch = true ↔
      monitorFits core.features.lineLength lead batch = true := by
  have alone (nick : String) (present : nick ∈ batch) :
      core.state = .registered ∧ containsForbidden (utf8 lead ++ utf8 nick) = false ∧
        utf8 nick ≠ [] := by
    obtain ⟨named, accepted⟩ := not_or.mp (sendable nick present)
    rw [Bool.not_eq_false, acceptsMonitor, acceptsCommand_iff, labelTag_empty, List.nil_append,
      monitorCommand, joinTexts_single, utf8_append] at accepted
    obtain ⟨registered, -, -, clean, -⟩ := accepted
    exact ⟨registered, clean, fun none => named (utf8_injective (none.trans utf8_empty.symm))⟩
  obtain ⟨first, rest, rfl⟩ := List.exists_cons_of_ne_nil some
  obtain ⟨registered, firstClean, nonempty⟩ := alone first List.mem_cons_self
  rw [containsForbidden_append, Bool.or_eq_false_iff] at firstClean
  have joined : containsForbidden (utf8 (joinTexts "," (first :: rest))) = false := by
    refine containsForbidden_joinTexts (by decide) fun nick present => ?_
    have clean := (alone nick present).2.1
    rw [containsForbidden_append, Bool.or_eq_false_iff] at clean
    exact clean.2
  rw [acceptsMonitor, acceptsCommand_iff, labelTag_empty, List.nil_append, monitorCommand,
    utf8_append, containsForbidden_append, firstClean.1, joined, monitorFits, decide_eq_true_eq,
    FitsUnder, labelTag_empty, List.length_nil, Nat.zero_add, monitorCommand, byteLength,
    utf8_append, crlfBytes]
  constructor
  · rintro ⟨-, -, -, -, fits⟩
    exact fits
  · intro fits
    refine ⟨registered, .inl rfl, .inr ?_, rfl, fits⟩
    rw [utf8_joinTexts_commas, ne_eq, List.append_eq_nil_iff, not_and]
    intro _ none
    cases rest with
    | nil => exact nonempty (by simpa [List.intercalate] using none)
    | cons next others => simp [List.intercalate_cons_cons] at none

/-- When each nickname can be sent, the whole list is accepted exactly when packing to the
server's limit cuts it where packing to 512 bytes does. -/
theorem acceptsMonitorList_iff {lead : String} (some : nicks ≠ [])
    (sendable : ∀ nick ∈ nicks, ¬ core.MonitorRefuses lead nick) :
    core.acceptsMonitorList lead [] nicks = true ↔
      (∀ nick ∈ nicks, monitorFits maxClassicFrameBytes lead [nick] = true) ∧
        packed (monitorFits (min core.features.lineLength maxClassicFrameBytes) lead) [] nicks =
          packed (monitorFits maxClassicFrameBytes lead) [] nicks := by
  have single (nick : String) (present : nick ∈ nicks) :
      monitorFits core.features.lineLength lead [nick] = true := by
    refine (acceptsMonitor_iff (List.cons_ne_nil nick []) fun other listed => ?_).mp ?_
    · rw [List.mem_singleton.mp listed]
      exact sendable nick present
    · exact Bool.not_eq_false _ ▸ (not_or.mp (sendable nick present)).2
  have least (packet : List String) :
      monitorFits (min core.features.lineLength maxClassicFrameBytes) lead packet = true ↔
        monitorFits core.features.lineLength lead packet = true ∧
          monitorFits maxClassicFrameBytes lead packet = true := by
    simp only [monitorFits, decide_eq_true_eq, Nat.le_min]
  have places : core.acceptsMonitorList lead [] nicks = true ↔
      (∀ nick ∈ nicks, monitorFits maxClassicFrameBytes lead [nick] = true) ∧
        ∀ batch ∈ packed (monitorFits maxClassicFrameBytes lead) [] nicks,
          batch ≠ [] ∧ core.acceptsMonitor lead batch = true := by
    rw [acceptsMonitorList, Bool.and_eq_true, List.all_eq_true, List.all_eq_true, monitorBatches_eq]
    simp only [monitorOverflows_eq, Bool.not_not, Bool.and_eq_true, decide_eq_true_eq,
      Bool.not_eq_true', List.isEmpty_eq_false_iff]
    refine and_congr_left fun _ => forall₂_congr fun nick present => ?_
    exact and_iff_right (not_or.mp (sendable nick present)).1
  rw [places]
  refine and_congr_right fun classic => ?_
  have inside (batch : List String)
      (present : batch ∈ packed (monitorFits maxClassicFrameBytes lead) [] nicks) :
      ∀ nick ∈ batch, nick ∈ nicks := by
    intro nick listed
    have whole := packed_flatten (monitorFits maxClassicFrameBytes lead) [] nicks
    rw [List.nil_append] at whole
    exact whole ▸ List.mem_flatten.mpr ⟨batch, present, listed⟩
  have filled : ∀ batch ∈ packed (monitorFits maxClassicFrameBytes lead) [] nicks, batch ≠ [] :=
    packed_ne_nil classic (.inr some)
  obtain ⟨first, rest, rfl⟩ := List.exists_cons_of_ne_nil some
  have begins : monitorFits (min core.features.lineLength maxClassicFrameBytes) lead [] = true :=
    monitorFits_of_append [] [first] ((least [first]).mpr
      ⟨single first List.mem_cons_self, classic first List.mem_cons_self⟩)
  rw [packed_eq_iff (fun packet fits => ((least packet).mp fits).2)
    (fun packet more fits => monitorFits_of_append packet more fits) begins
    fun nick present => (least [nick]).mpr ⟨single nick present, classic nick present⟩]
  have fitting := packed_fits ((least []).mp begins).2 classic
  refine forall₂_congr fun batch present => ?_
  rw [least, acceptsMonitor_iff (filled batch present) fun nick listed =>
    sendable nick (inside batch present nick listed)]
  exact ⟨fun accepted => ⟨accepted.2, fitting batch present⟩,
    fun fits => ⟨filled batch present, fits.1⟩⟩

/-- Sending a list packs its nicknames when there are any. -/
theorem sendMonitorLocked_eq (some : nicks ≠ []) :
    core.sendMonitorLocked (monitorSign adds) nicks = core.packMonitor (listLead adds) [] nicks := by
  cases adds
  all_goals
    have nonempty : nicks.isEmpty = false := by simpa using some
    simp [sendMonitorLocked, monitorSign, listLead, nonempty]

/-- A list that was sent is packed as it should be. -/
theorem packMonitor_listed
    (accepted : core.acceptsMonitorList (listLead adds) [] nicks = true) :
    ∃ batches : List (List String),
      batches.flatten = nicks ∧
        (core.packMonitor (listLead adds) [] nicks).1.effects = core.effects ++ queuedWrites
          (batches.map fun batch => textLine (monitorCommand (listLead adds) batch)) ∧
        ∀ batch ∈ batches,
          (textLine (monitorCommand (listLead adds) batch)).length ≤ core.features.lineLength ∧
            ((∀ nick ∈ batch, isListedNick nick = true) →
              readNicks (textLine (monitorCommand (listLead adds) batch)) = batch.map utf8) := by
  refine ⟨monitorBatches (listLead adds) [] nicks, ?_, ?_, fun batch present => ?_⟩
  · rw [monitorBatches_flatten, List.nil_append]
  · have sent := (core.packMonitor_accepted _ [] nicks accepted).effects
    rw [packMonitor_sent, accepted, if_pos rfl] at sent
    exact sent
  · rw [acceptsMonitorList, Bool.and_eq_true, List.all_eq_true, List.all_eq_true] at accepted
    have written := accepted.2 batch present
    rw [Bool.and_eq_true, Bool.not_eq_true', List.isEmpty_eq_false_iff, acceptsMonitor,
      acceptsCommand_iff, labelTag_empty, List.nil_append, FitsUnder, labelTag_empty,
      List.length_nil, Nat.zero_add] at written
    obtain ⟨filled, -, -, -, clean, fits⟩ := written
    refine ⟨?_, readNicks_line filled (isFrame_append_crlf clean)⟩
    rw [textLine, List.length_append]
    exact fits

/-- A list of nicknames is sent as it should be exactly when packing to 512 bytes suits the
server's limit. -/
theorem monitor_packs_iff (core : Core) (adds : Bool) (nicks : List String) :
    core.PacksNicks adds nicks (core.sendMonitorLocked (monitorSign adds) nicks) ↔
      core.PacksWithin adds nicks := by
  by_cases none : nicks = []
  · subst none
    refine iff_of_false (fun packs => ?_) fun within => within.1 rfl
    obtain ⟨nick, present, -⟩ := packs.refused (by cases adds <;> rfl)
    cases present
  · rw [sendMonitorLocked_eq none, PacksWithin, and_iff_right none]
    by_cases blamed : ∃ nick ∈ nicks, core.MonitorRefuses (listLead adds) nick
    · refine iff_of_true ⟨fun sent => ?_, fun _ => blamed⟩ (.inl blamed)
      exact packMonitor_listed ((core.packMonitor_sent _ _ _).symm.trans sent)
    · have sendable : ∀ nick ∈ nicks, ¬ core.MonitorRefuses (listLead adds) nick :=
        fun nick present refused => blamed ⟨nick, present, refused⟩
      rw [or_iff_right blamed, ← acceptsMonitorList_iff none sendable]
      constructor
      · intro packs
        by_contra refused
        refine blamed (packs.refused ?_)
        rw [packMonitor_sent]
        exact Bool.eq_false_iff.mpr refused
      · intro accepted
        refine ⟨fun _ => packMonitor_listed accepted, fun refused => ?_⟩
        rw [packMonitor_sent, accepted] at refused
        cases refused

end Core

section Reference

local instance monitorPlatform : Platform := reference

/-- Three nicknames that a server with a line length of 30 takes in two lines are refused, because
they fit one line of 512 bytes. -/
theorem short_server_limit_refuses_list :
    ¬ ∀ config system, System.Reachable config system → ∀ adds nicks,
      system.core.PacksNicks adds nicks
        (system.core.sendMonitorLocked (monitorSign adds) nicks) := by
  intro law
  let nicks := ["anna-maria", "bertram", "carolina"]
  have ends : ((System.initial plaintextProfile).run (underOneClock (connectActions ++
      readActions [":s CAP * LS :", ":s 001 nick :hi", ":s 005 nick LINELEN=30 :are supported"] ++
        performActions 3))).any
      (fun system => !(system.core.sendMonitorLocked (monitorSign true) nicks).2 &&
        nicks.all fun nick => nick ≠ "" && system.core.acceptsMonitor (listLead true) [nick]) =
          true := by
    decide +kernel
  obtain ⟨system, taken, holds⟩ := exists_of_any ends
  simp only [Bool.and_eq_true, Bool.not_eq_true', List.all_eq_true, decide_eq_true_eq] at holds
  obtain ⟨nick, present, named | refused⟩ :=
    (law _ system (.of_runAll taken) true nicks).refused holds.1
  · exact (holds.2 nick present).1 named
  · exact Bool.false_ne_true (refused.symm.trans (holds.2 nick present).2)

end Reference

end Omairc.Session

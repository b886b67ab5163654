import Mathlib.Data.List.Chain
import Omairc.Irc.World
import Omairc.Model.Format
import Omairc.Model.ScrollPlace

/-!
# The rows of a transcript

A conversation's lines become the rows on screen, with a day separator where the day changes and the
"New messages" mark in front of the first line that arrived unseen.
-/

namespace Omairc.Rows

open Omairc.Text
open Omairc.Irc
open Omairc.Model

/-- The calendar of the local time zone. -/
structure Calendar (Day : Type) where
  /-- The local date of an instant. -/
  dayOf : Instant → Day
  /-- The day before, if the calendar has one. -/
  predOpt : Day → Option Day
  /-- The locale's short date. -/
  shortDate : Day → String

/-- What a Status row carries besides its text. Its source and severity only pick a glyph and a
colour. -/
structure StatusMark where
  label : String

/-- One row on screen. -/
structure Row where
  id : Nat
  kind : RowKind
  author : Option String := none
  time : Option String := none
  body : FormattedText
  continues : Bool := false
  action : Bool := false
  separatorText : Option String := none
  eventText : Option String := none
  status : Option StatusMark := none
  msgid : MsgId := ""
  onlyVisibleToYou : Bool := false
  mentioned : Bool := false
  origin : Origin := .live

/-! ## Kinds of rows -/

/-- The caption of a day separator. -/
def Row.separator (row : Row) : Option String :=
  if row.kind = .daySeparator then row.separatorText else none

/-- A row that stands for a line of the conversation. -/
def Row.isLine (row : Row) : Bool := row.kind != .daySeparator && row.kind != .unreadMark

/-- The caption of the last day separator among rows. -/
def shownCaption (rows : List Row) : Option String := (rows.filterMap Row.separator).getLast?

/-- How many rows stand for lines. -/
def lineCount (rows : List Row) : Nat := rows.countP Row.isLine

/-- What may stand right above what: next to a line anything, and otherwise the mark below a
separator. -/
def Stacks (upper lower : Row) : Prop :=
  upper.isLine = true ∨ lower.isLine = true ∨
    upper.kind = .daySeparator ∧ lower.kind = .unreadMark

theorem separator_line {row : Row} (line : row.isLine = true) : row.separator = none := by
  refine if_neg fun same => ?_
  rw [Row.isLine, same] at line
  cases line

theorem shownCaption_append (rows more : List Row) :
    shownCaption (rows ++ more) = (shownCaption more).or (shownCaption rows) := by
  rw [shownCaption, List.filterMap_append, List.getLast?_append]
  rfl

theorem lineCount_append (rows more : List Row) :
    lineCount (rows ++ more) = lineCount rows + lineCount more := List.countP_append

/-! ## From lines to rows -/

section Rows

variable {Day : Type}

/-- The local `HH:MM` a line shows. -/
def minuteOf [Platform] (time : Instant) : String := Platform.formatLocal "%H:%M" time

/-- The caption of a day separator. -/
def dayCaption [DecidableEq Day] (calendar : Calendar Day) (day today : Day) : String :=
  if day = today then "Today"
  else if calendar.predOpt today = some day then "Yesterday"
  else calendar.shortDate day

/-- The day a line belongs to: its own, today for a live line without one, and the day of the line
above for any other. -/
def assignedDay (calendar : Calendar Day) (message : Message) (previous : Option Day)
    (today : Day) :
    Option Day :=
  if message.time ≠ zeroTime then some (calendar.dayOf message.time)
  else if message.origin = .live then some today
  else previous

def daySeparatorRow [DecidableEq Day] (calendar : Calendar Day) (id : Nat) (day today : Day) :
    Row :=
  let text := dayCaption calendar day today
  { id, kind := .daySeparator, body := formatIrc text, separatorText := some text }

def unreadMarkRowFor (id : Nat) : Row :=
  { id, kind := .unreadMark, body := formatIrc "New messages" }

/-- Whether a chat line folds under the row above it. -/
def continuesGroup (previous : Option Row) (author time : String) (origin : Origin) : Bool :=
  if author = "" ∨ time = "" then false
  else previous.any fun prev =>
    prev.kind == .message && prev.origin == origin && prev.author == some author &&
      prev.time == some time

/-- A chat, notice or `/me` line. -/
def rowFromChatLine (id : Nat) (message : Message) (minute : String) (continues : Bool) : Row where
  id
  kind := .message
  author := some message.author
  time := some minute
  body := formatIrc message.body
  continues
  action := message.kind == .action
  msgid := message.msgid
  onlyVisibleToYou := message.onlyVisibleToYou
  mentioned := message.mentioned
  origin := message.origin

/-- A join, part, quit, mode or error line. -/
def rowFromEvent (id : Nat) (caption : String) : Row :=
  { id, kind := .event, body := formatIrc caption, eventText := some caption }

/-- A whois-style line. -/
def rowFromWhois (id : Nat) (text : String) : Row := { id, kind := .whois, body := formatIrc text }

/-- The row for one line. -/
def rowForMessage [Platform] (id : Nat) (message : Message) (previous : Option Row) : Row :=
  match message.kind with
  | .message | .notice | .action =>
      let minute := minuteOf message.time
      rowFromChatLine id message minute
        (continuesGroup previous message.author minute message.origin)
  | .whois => rowFromWhois id message.body
  | .event | .error => rowFromEvent id message.body

/-- Whether a day separator stands in front of a line: where its day differs from the line above,
and at the first dated line when that is not of today. -/
def changesDay [DecidableEq Day] (date previous : Option Day) (today : Day) : Bool :=
  let dayChange :=
    match date, previous with
    | some day, some prior => day != prior
    | _, _ => false
  let leadingBacklog := previous.isNone && date.any fun day => day != today
  dayChange || leadingBacklog

/-- The rows, with a day separator when the day changes. -/
def pushSeparator [DecidableEq Day] (calendar : Calendar Day) (today : Day) (rows : List Row)
    (date previous : Option Day) : List Row :=
  match date with
  | some day =>
      if changesDay date previous today then
        rows ++ [daySeparatorRow calendar (rows.length + 1) day today]
      else rows
  | none => rows

/-- The rows, with the unread mark when it belongs in front of a line. It is never the first row. -/
def pushMark (mark : Option Int) (sequence : Int) (rows : List Row) : List Row :=
  if mark = some sequence ∧ rows ≠ [] then rows ++ [unreadMarkRowFor (rows.length + 1)] else rows

/-- The rows and the day of the last line, after one more line. -/
def pushMessage [DecidableEq Day] [Platform] (calendar : Calendar Day) (mark : Option Int) (today : Day)
    (state : List Row × Option Day) (message : Message) : List Row × Option Day :=
  let date := assignedDay calendar message state.2 today
  let separated := pushSeparator calendar today state.1 date state.2
  let marked := pushMark mark message.sequence separated
  (marked ++ [rowForMessage (marked.length + 1) message marked.getLast?], date.or state.2)

/-- The rows for one conversation's lines, oldest first. -/
def rowsFromMessagesOn [DecidableEq Day] [Platform] (calendar : Calendar Day)
    (messages : List Message) (mark : Option Int) (today : Day) : List Row :=
  (messages.foldl (pushMessage calendar mark today) ([], none)).1

/-! ## The layout -/

/-- The day of the last line. -/
def lastDay (calendar : Calendar Day) (today : Day) (messages : List Message) : Option Day :=
  messages.foldl (fun previous message =>
    (assignedDay calendar message previous today).or previous) none

variable {calendar : Calendar Day} {mark : Option Int} {today : Day}

theorem lastDay_concat (front : List Message) (message : Message) :
    lastDay calendar today (front ++ [message]) =
      (assignedDay calendar message (lastDay calendar today front) today).or
        (lastDay calendar today front) := by
  rw [lastDay, List.foldl_append]
  rfl

/-- A line without a day follows lines without a day. -/
theorem assignedDay_none {message : Message} {previous : Option Day}
    (undated : assignedDay calendar message previous today = none) : previous = none := by
  unfold assignedDay at undated
  split at undated
  · cases undated
  split at undated
  · cases undated
  · exact undated

@[simp] theorem rowForMessage_isLine [Platform] (id : Nat) (message : Message)
    (previous : Option Row) : (rowForMessage id message previous).isLine = true := by
  unfold rowForMessage
  cases message.kind <;> rfl

@[simp] theorem rowForMessage_id [Platform] (id : Nat) (message : Message) (previous : Option Row) :
    (rowForMessage id message previous).id = id := by
  unfold rowForMessage
  cases message.kind <;> rfl

variable [DecidableEq Day]

/-- Where the day does not change, it is that of the line above, or today below no dated line. -/
theorem changesDay_eq_false {day : Day} {previous : Option Day}
    (same : changesDay (some day) previous today = false) :
    previous = some day ∨ previous = none ∧ day = today := by
  cases previous with
  | none =>
      right
      simpa [changesDay] using same
  | some prior =>
      left
      have alike : day = prior := by simpa [changesDay] using same
      rw [alike]

/-- What stands between the rows so far and the row of one more line: perhaps a separator, and
perhaps the mark. -/
structure Headed (calendar : Calendar Day) (mark : Option Int) (today : Day)
    (state : List Row × Option Day) (message : Message) (separators marks : List Row) : Prop where
  separated : changesDay (assignedDay calendar message state.2 today) state.2 today = false ∧
      separators = [] ∨
    ∃ day, assignedDay calendar message state.2 today = some day ∧
      separators = [daySeparatorRow calendar (state.1.length + 1) day today]
  marked : mark = some message.sequence ∧ state.1 ++ separators ≠ [] ∧
      marks = [unreadMarkRowFor ((state.1 ++ separators).length + 1)] ∨
    ¬ (mark = some message.sequence ∧ state.1 ++ separators ≠ []) ∧ marks = []

variable (calendar mark today) in
/-- A line is pushed under its headings. -/
theorem headed_push (state : List Row × Option Day) (message : Message) :
    ∃ separators marks, Headed calendar mark today state message separators marks ∧
      pushMark mark message.sequence (pushSeparator calendar today state.1
        (assignedDay calendar message state.2 today) state.2) =
          state.1 ++ separators ++ marks := by
  have separated : ∃ separators,
      (changesDay (assignedDay calendar message state.2 today) state.2 today = false ∧
        separators = [] ∨
      ∃ day, assignedDay calendar message state.2 today = some day ∧
        separators = [daySeparatorRow calendar (state.1.length + 1) day today]) ∧
      pushSeparator calendar today state.1 (assignedDay calendar message state.2 today) state.2 =
        state.1 ++ separators := by
    cases date : assignedDay calendar message state.2 today with
    | none => exact ⟨[], .inl ⟨by simp [changesDay], rfl⟩, (List.append_nil _).symm⟩
    | some day =>
        cases changes : changesDay (some day) state.2 today with
        | false => exact ⟨[], .inl ⟨rfl, rfl⟩, by simp [pushSeparator, changes]⟩
        | true => exact ⟨_, .inr ⟨day, rfl, rfl⟩, by rw [pushSeparator, if_pos changes]⟩
  obtain ⟨separators, spec, same⟩ := separated
  rw [same, pushMark]
  split
  · rename_i marks
    exact ⟨separators, _, ⟨spec, .inl ⟨marks.1, marks.2, rfl⟩⟩, rfl⟩
  · rename_i marks
    exact ⟨separators, [], ⟨spec, .inr ⟨marks, rfl⟩⟩, (List.append_nil _).symm⟩

/-- The rows of some lines, and the day of the last of them. -/
structure LaidOut (calendar : Calendar Day) (today : Day) (messages : List Message)
    (state : List Row × Option Day) : Prop where
  day : state.2 = lastDay calendar today messages
  ids : ∀ place row, state.1[place]? = some row → row.id = place + 1
  lines : lineCount state.1 = messages.length
  stacked : state.1.IsChain Stacks
  lastLine : ∀ row ∈ state.1.getLast?, row.isLine = true
  /-- The last line stands under the separator of its day, or under none today. -/
  caption : ∀ day, state.2 = some day →
    shownCaption state.1 = some (dayCaption calendar day today) ∨
      shownCaption state.1 = none ∧ day = today
  undated : state.2 = none → shownCaption state.1 = none

/-- What is above the row of a line, behind the lines in front of it. -/
structure PlacedUnder (calendar : Calendar Day) (mark : Option Int) (today : Day)
    (front : List Message) (message : Message) (above : List Row) : Prop where
  /-- As many lines as are in front. -/
  lines : lineCount above = front.length
  /-- The separator of the line's own day, or none when that is today. -/
  day : ∀ day, assignedDay calendar message (lastDay calendar today front) today = some day →
    shownCaption above = some (dayCaption calendar day today) ∨
      shownCaption above = none ∧ day = today
  /-- Right above, the mark when the line is the first unseen one and no first row. -/
  mark : (above.getLast?.any fun row => row.kind == .unreadMark) = true ↔
    mark = some message.sequence ∧ above ≠ []

namespace LaidOut

variable {messages : List Message} {state : List Row × Option Day} {message : Message}
  {separators marks : List Row}

/-- The ids go on behind rows whose ids are their places. -/
theorem ids_concat {rows : List Row} {row : Row}
    (ids : ∀ place row, rows[place]? = some row → row.id = place + 1)
    (own : row.id = rows.length + 1) :
    ∀ place other, (rows ++ [row])[place]? = some other → other.id = place + 1 := by
  intro place other found
  rw [List.getElem?_append] at found
  split at found
  · exact ids place other found
  · rename_i outside
    obtain ⟨rfl, rfl⟩ : place = rows.length ∧ row = other := by
      have inside := (List.getElem?_eq_some_iff.mp found).1
      rw [List.length_singleton] at inside
      refine ⟨by omega, ?_⟩
      have zero : place - rows.length = 0 := by omega
      rw [zero] at found
      exact Option.some_inj.mp found
    exact own

theorem shownCaption_marks (headed : Headed calendar mark today state message separators marks) :
    shownCaption marks = none ∧ lineCount marks = 0 := by
  rcases headed.marked with ⟨-, -, rfl⟩ | ⟨-, rfl⟩
  · exact ⟨rfl, rfl⟩
  · exact ⟨rfl, rfl⟩

theorem lineCount_separators
    (headed : Headed calendar mark today state message separators marks) :
    lineCount separators = 0 := by
  rcases headed.separated with ⟨-, rfl⟩ | ⟨day, -, rfl⟩
  · rfl
  · rfl

/-- A separator or a line ends the rows before the mark. -/
theorem last_separated (laid : LaidOut calendar today messages state)
    (headed : Headed calendar mark today state message separators marks) :
    ∀ upper ∈ (state.1 ++ separators).getLast?,
      upper.isLine = true ∨ upper.kind = .daySeparator := by
  intro upper last
  rcases headed.separated with ⟨-, rfl⟩ | ⟨day, -, rfl⟩
  · rw [List.append_nil] at last
    exact .inl (laid.lastLine upper last)
  · rw [List.getLast?_concat] at last
    cases last
    exact .inr rfl

/-- A line behind lines is placed under its own day. -/
theorem placed (laid : LaidOut calendar today messages state)
    (headed : Headed calendar mark today state message separators marks) :
    PlacedUnder calendar mark today messages message (state.1 ++ separators ++ marks) := by
  obtain ⟨unseparated, unlined⟩ := shownCaption_marks headed
  constructor
  · rw [lineCount_append, lineCount_append, lineCount_separators headed, unlined, laid.lines,
      Nat.add_zero]
  · intro day date
    rw [← laid.day] at date
    rw [shownCaption_append, unseparated, Option.none_or]
    rcases headed.separated with ⟨same, rfl⟩ | ⟨other, own, rfl⟩
    · rw [List.append_nil]
      rw [date] at same
      rcases changesDay_eq_false same with prior | ⟨undated, here⟩
      · exact laid.caption day prior
      · exact .inr ⟨laid.undated undated, here⟩
    · rw [date, Option.some_inj] at own
      subst own
      left
      rw [shownCaption_append]
      rfl
  · rcases headed.marked with ⟨unseen, full, rfl⟩ | ⟨unmarked, rfl⟩
    · rw [List.getLast?_concat]
      exact ⟨fun _ => ⟨unseen, List.append_ne_nil_of_left_ne_nil full _⟩, fun _ => rfl⟩
    · rw [List.append_nil]
      refine ⟨fun shown => ?_, fun both => absurd both unmarked⟩
      cases last : (state.1 ++ separators).getLast? with
      | none =>
          rw [last] at shown
          cases shown
      | some upper =>
          rw [last, Option.any_some, beq_iff_eq] at shown
          rcases laid.last_separated headed upper last with line | separator
          · rw [Row.isLine, shown] at line
            cases line
          · rw [separator] at shown
            cases shown

/-- The separator and the mark stand as they may, above a line. -/
theorem stacked_above (laid : LaidOut calendar today messages state)
    (headed : Headed calendar mark today state message separators marks) {row : Row}
    (line : row.isLine = true) : (state.1 ++ separators ++ marks ++ [row]).IsChain Stacks := by
  have separated : (state.1 ++ separators).IsChain Stacks := by
    rcases headed.separated with ⟨-, rfl⟩ | ⟨day, -, rfl⟩
    · rw [List.append_nil]
      exact laid.stacked
    · refine List.isChain_append.mpr ⟨laid.stacked, List.isChain_singleton _, ?_⟩
      intro upper last lower first
      exact .inl (laid.lastLine upper last)
  have marked : (state.1 ++ separators ++ marks).IsChain Stacks := by
    rcases headed.marked with ⟨-, -, rfl⟩ | ⟨-, rfl⟩
    · refine List.isChain_append.mpr ⟨separated, List.isChain_singleton _, ?_⟩
      intro upper last lower first
      cases first
      rcases laid.last_separated headed upper last with line | separator
      · exact .inl line
      · exact .inr (.inr ⟨separator, rfl⟩)
    · rw [List.append_nil]
      exact separated
  refine List.isChain_append.mpr ⟨marked, List.isChain_singleton _, ?_⟩
  intro upper last lower first
  cases first
  exact .inr (.inl line)

theorem ids_above (laid : LaidOut calendar today messages state)
    (headed : Headed calendar mark today state message separators marks) :
    ∀ place row, (state.1 ++ separators ++ marks)[place]? = some row → row.id = place + 1 := by
  have separated : ∀ place row, (state.1 ++ separators)[place]? = some row → row.id = place + 1 := by
    rcases headed.separated with ⟨-, rfl⟩ | ⟨day, -, rfl⟩
    · rw [List.append_nil]
      exact laid.ids
    · exact ids_concat laid.ids rfl
  rcases headed.marked with ⟨-, -, rfl⟩ | ⟨-, rfl⟩
  · exact ids_concat separated rfl
  · rw [List.append_nil]
    exact separated

variable (mark) in
/-- One more line. -/
theorem push [Platform] (laid : LaidOut calendar today messages state) (message : Message) :
    ∃ above, (pushMessage calendar mark today state message).1 =
        above ++ [rowForMessage (above.length + 1) message above.getLast?] ∧
      state.1 <+: above ∧ PlacedUnder calendar mark today messages message above ∧
      LaidOut calendar today (messages ++ [message])
        (pushMessage calendar mark today state message) := by
  obtain ⟨separators, marks, headed, same⟩ := headed_push calendar mark today state message
  have shape : pushMessage calendar mark today state message =
      (state.1 ++ separators ++ marks ++
        [rowForMessage ((state.1 ++ separators ++ marks).length + 1) message
          (state.1 ++ separators ++ marks).getLast?],
        (assignedDay calendar message state.2 today).or state.2) := by
    rw [pushMessage, same]
  have placed := laid.placed headed
  have line := rowForMessage_isLine ((state.1 ++ separators ++ marks).length + 1) message
    (state.1 ++ separators ++ marks).getLast?
  have captioned : shownCaption (state.1 ++ separators ++ marks ++
      [rowForMessage ((state.1 ++ separators ++ marks).length + 1) message
        (state.1 ++ separators ++ marks).getLast?]) =
      shownCaption (state.1 ++ separators ++ marks) := by
    rw [shownCaption_append, shownCaption, List.filterMap_cons_none (separator_line line)]
    rfl
  refine ⟨state.1 ++ separators ++ marks, congrArg Prod.fst shape, ?_, placed, ?_⟩
  · rw [List.append_assoc]
    exact List.prefix_append _ _
  rw [shape]
  refine ⟨?_, ids_concat (laid.ids_above headed) (rowForMessage_id ..), ?_,
    laid.stacked_above headed line, ?_, ?_, ?_⟩
  · rw [lastDay_concat, ← laid.day]
  · rw [lineCount_append, placed.lines, lineCount, List.countP_singleton, if_pos line,
      List.length_append, List.length_singleton]
  · intro row last
    rw [List.getLast?_concat] at last
    cases last
    exact line
  · intro day own
    rw [captioned]
    cases date : assignedDay calendar message state.2 today with
    | none =>
        rw [date, Option.none_or, assignedDay_none date] at own
        cases own
    | some other =>
        rw [date, Option.some_or, Option.some_inj] at own
        subst own
        exact placed.day other (laid.day ▸ date)
  · intro undated
    obtain ⟨none_, before⟩ := Option.or_eq_none_iff.mp undated
    rcases headed.separated with ⟨-, rfl⟩ | ⟨day, own, -⟩
    · rw [captioned, shownCaption_append, (shownCaption_marks headed).1, Option.none_or,
        List.append_nil]
      exact laid.undated before
    · rw [own] at none_
      cases none_

end LaidOut

/-- The rows of no lines. -/
theorem laidOut_nil : LaidOut calendar today [] ([], none) where
  day := rfl
  ids := fun place row found => by simp at found
  lines := rfl
  stacked := .nil
  lastLine := fun row last => by cases last
  caption := fun day same => by cases same
  undated := fun _ => rfl

variable (calendar mark today) in
/-- Rows are laid out, line by line. -/
theorem laidOut_foldl [Platform] (messages : List Message) :
    LaidOut calendar today messages
      (messages.foldl (pushMessage calendar mark today) ([], none)) := by
  induction messages using List.reverseRecOn with
  | nil => exact laidOut_nil
  | append_singleton front message inductionHypothesis =>
      obtain ⟨above, -, -, -, laid⟩ := inductionHypothesis.push mark message
      rw [List.foldl_append]
      exact laid

variable (mark) in
/-- Later lines only add rows. -/
theorem foldl_prefix [Platform] {front : List Message} {state : List Row × Option Day}
    (laid : LaidOut calendar today front state) (back : List Message) :
    state.1 <+: (back.foldl (pushMessage calendar mark today) state).1 := by
  induction back generalizing front state with
  | nil => exact List.prefix_rfl
  | cons message back inductionHypothesis =>
      obtain ⟨above, shape, begins, -, next⟩ := laid.push mark message
      refine List.IsPrefix.trans ?_ (inductionHypothesis next)
      rw [shape]
      exact begins.trans (List.prefix_append _ _)

/-- The rows of a conversation: numbered from one, one row for each line in order, each line under
the separator of its own day, or under none when that is today, the "New messages" mark right above
the first unseen line unless that is the first row, and no separator or mark that heads no line. -/
theorem rows_layout [Platform] (calendar : Calendar Day) (messages : List Message)
    (mark : Option Int) (today : Day) :
    (∀ place row, (rowsFromMessagesOn calendar messages mark today)[place]? = some row →
      row.id = place + 1) ∧
    lineCount (rowsFromMessagesOn calendar messages mark today) = messages.length ∧
    (rowsFromMessagesOn calendar messages mark today).IsChain Stacks ∧
    (∀ row ∈ (rowsFromMessagesOn calendar messages mark today).getLast?, row.isLine = true) ∧
    ∀ front message back, messages = front ++ message :: back →
      ∃ above below, rowsFromMessagesOn calendar messages mark today =
          above ++ rowForMessage (above.length + 1) message above.getLast? :: below ∧
        PlacedUnder calendar mark today front message above := by
  have laid := laidOut_foldl calendar mark today messages
  refine ⟨laid.ids, laid.lines, laid.stacked, laid.lastLine, ?_⟩
  rintro front message back rfl
  have before := laidOut_foldl calendar mark today front
  obtain ⟨above, shape, -, placed, next⟩ := before.push mark message
  obtain ⟨below, whole⟩ := foldl_prefix mark next back
  refine ⟨above, below, ?_, placed⟩
  rw [rowsFromMessagesOn, List.foldl_append, List.foldl_cons, ← whole, shape, List.append_assoc]
  rfl

end Rows

end Omairc.Rows

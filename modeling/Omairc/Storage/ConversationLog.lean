import Omairc.Irc.Reducer.State
import Omairc.Irc.SecretPolicy
import Omairc.Session.Reference
import Omairc.Storage.PlaybackTimes
import Omairc.Storage.TranscriptJson
import Omairc.Text.Decimal
import Omairc.Text.TailReader

/-!
# The conversation log

A conversation is stored as one JSON object a line. New lines go to the end of the file,
older ones to its front, and the last lines are read from the end. A line goes in when the
policy allows what it says, and comes out when the policy allows what is stored of it: its
author and body on one line each.
-/

namespace Omairc.Storage

open Omairc.Text Omairc.Irc Omairc.Irc.Reducer
open Omairc.Playback (latestTime)

/-- The JSON of a record, as the program's library writes and reads it. -/
class RecordJson where
  encode : ConversationLogRecord → Bytes
  decode : Bytes → Option ConversationLogRecord

/-- One record is one line in braces, and is read back. -/
structure JsonLaw [RecordJson] : Prop where
  decode_encode : ∀ record, RecordJson.decode (RecordJson.encode record) = some record
  oneLine : ∀ record, 10 ∉ RecordJson.encode record
  braces : ∀ record, ∃ inside, RecordJson.encode record = 123 :: (inside ++ [125])

section Definitions

variable [Platform] [RecordJson]

/-- ASCII white space. -/
def isAsciiWhitespace (byte : UInt8) : Bool := [32, 9, 10, 12, 13].contains byte

/-- Bytes without the white space at their two ends. -/
def trimBytes (raw : Bytes) : Bytes :=
  (raw.dropWhile isAsciiWhitespace).rdropWhile isAsciiWhitespace

/-- A text on one line. -/
def flattenText (text : String) : String :=
  String.ofList (text.toList.map fun char => if char = '\n' || char = '\r' then ' ' else char)

/-- The channel types before a server says other ones. -/
def defaultChannelTypes : String := ({} : IrcServerFeatures).channelTypes

/-- The form of a stored time. -/
def storedTimeFormat : String := "%Y-%m-%dT%H:%M:%S%.3fZ"

def isoDateWithMs (time : Instant) : String := Platform.formatUtc storedTimeFormat time

def parseTimestamp (text : String) : Instant :=
  match Platform.parseFromRfc3339 text with
  | some parsed => parsed
  | none => (Platform.parseFromStr storedTimeFormat text).getD 0

/-- A stored time is read back to the millisecond. -/
structure CalendarLaw : Prop where
  reads : ∀ time, zeroTime < time → time ≤ latestTime →
    parseTimestamp (isoDateWithMs time) = time / 10 ^ 6 * 10 ^ 6

/-- The stored form of a line. A line without a time gets the present one. -/
def formatLine (now : Instant) (line : TranscriptLine) : Bytes :=
  let time := if line.timestamp = zeroTime then now else line.timestamp
  RecordJson.encode
    { timestamp := isoDateWithMs time
      author := flattenText line.author
      kind := line.kind
      body := flattenText line.body
      msgid := line.msgid
      onlyVisibleToYou := line.onlyVisibleToYou } ++ [10]

/-- Read a stored line. -/
def parseLine (raw : Bytes) : Option TranscriptLine :=
  match RecordJson.decode raw with
  | none => none
  | some record =>
      if record.kind = "" then none
      else
        some
          { timestamp := parseTimestamp record.timestamp
            author := record.author
            kind := record.kind
            body := record.body
            msgid := record.msgid
            onlyVisibleToYou := record.onlyVisibleToYou }

/-- Whether the policy allows what a line says. -/
def allowsLine (line : TranscriptLine) : Bool :=
  allowsTranscript line.body defaultChannelTypes && allowsTranscript line.author defaultChannelTypes

/-- The line of some bytes of a file, when it is accepted. -/
def acceptTailLine (raw : Bytes) : Option TranscriptLine :=
  let raw := trimBytes raw
  if raw.isEmpty then none
  else
    match parseLine raw with
    | none => none
    | some parsed => if !allowsLine parsed then none else some parsed

/-- The size of the chunks of the backward reader. -/
def tailChunkSize : Nat := 4096

/-- The last lines of a file. -/
def readTail (content : Bytes) (maxLines : Nat) : List TranscriptLine :=
  if maxLines = 0 then [] else Text.readTail acceptTailLine 10 tailChunkSize maxLines content

/-- Store a line at the end. -/
def append (content : Bytes) (now : Instant) (line : TranscriptLine) : Bytes :=
  if line.kind = "" || line.body = "" then content
  else if !allowsLine line then content
  else content ++ formatLine now line

/-- Store lines at the front. -/
def prepend (content : Bytes) (now : Instant) (lines : List TranscriptLine) : Bytes :=
  let encoded :=
    (lines.filter fun line => line.kind ≠ "" && line.body ≠ "" && allowsLine line).map
      (formatLine now)
  if encoded.isEmpty then content else encoded.flatten ++ content

/-- One change of a log. -/
inductive LogChange
  | append (now : Instant) (line : TranscriptLine)
  | prepend (now : Instant) (lines : List TranscriptLine)

/-- What a change does to the file. -/
def LogChange.store (content : Bytes) : LogChange → Bytes
  | .append now line => Storage.append content now line
  | .prepend now lines => Storage.prepend content now lines

/-- The lines that a log is to hold. -/
def LogChange.hold (held : List TranscriptLine) : LogChange → List TranscriptLine
  | .append _ line => held ++ [line]
  | .prepend _ lines => lines ++ held

/-- The file behind some changes. -/
def storedLog (changes : List LogChange) : Bytes := changes.foldl LogChange.store []

/-- The lines behind some changes. -/
def heldLines (changes : List LogChange) : List TranscriptLine := changes.foldl LogChange.hold []

/-- A line that may be stored: it has a kind, a body and a time of the calendar, and the policy
allows what it says. -/
structure Loggable (line : TranscriptLine) : Prop where
  kind : line.kind ≠ ""
  body : line.body ≠ ""
  time : zeroTime < line.timestamp ∧ line.timestamp ≤ latestTime
  allowed : allowsLine line = true

/-- A line as it is read back. -/
def storedLine (line : TranscriptLine) : TranscriptLine :=
  { line with
    timestamp := line.timestamp / 10 ^ 6 * 10 ^ 6
    author := flattenText line.author
    body := flattenText line.body }

end Definitions

section Lines

variable [Platform] [RecordJson]

omit [Platform] [RecordJson] in
/-- Bytes in braces have no white space around them. -/
theorem trimBytes_braces (inside : Bytes) :
    trimBytes (123 :: (inside ++ [125])) = 123 :: (inside ++ [125]) := by
  rw [trimBytes, List.dropWhile_cons_of_neg (by decide), ← List.cons_append,
    List.rdropWhile_concat_neg _ _ _ (by decide)]

/-- The record of a line. -/
def recordOf (line : TranscriptLine) : ConversationLogRecord where
  timestamp := isoDateWithMs line.timestamp
  author := flattenText line.author
  kind := line.kind
  body := flattenText line.body
  msgid := line.msgid
  onlyVisibleToYou := line.onlyVisibleToYou

/-- A line with a time is stored with it. -/
theorem Loggable.formatLine {line : TranscriptLine} (loggable : Loggable line) (now : Instant) :
    formatLine now line = RecordJson.encode (recordOf line) ++ [10] := by
  unfold Storage.formatLine
  rw [if_neg loggable.time.1.ne']
  rfl

/-- What is stored of a line is read back, when the policy allows that. -/
theorem Loggable.accepted (json : JsonLaw) (calendar : CalendarLaw) {line : TranscriptLine}
    (loggable : Loggable line) :
    acceptTailLine (RecordJson.encode (recordOf line)) =
      if allowsLine (storedLine line) then some (storedLine line) else none := by
  have parsed : parseLine (RecordJson.encode (recordOf line)) = some (storedLine line) := by
    rw [parseLine, json.decode_encode]
    dsimp only
    rw [recordOf, if_neg loggable.kind, calendar.reads _ loggable.time.1 loggable.time.2]
    rfl
  obtain ⟨inside, braces⟩ := json.braces (recordOf line)
  have whole : trimBytes (RecordJson.encode (recordOf line)) =
      RecordJson.encode (recordOf line) := by
    rw [braces, trimBytes_braces]
  have written : (RecordJson.encode (recordOf line)).isEmpty = false := by
    rw [braces]
    rfl
  rw [acceptTailLine, whole, written, if_neg Bool.false_ne_true, parsed]
  dsimp only
  cases allowed : allowsLine (storedLine line) with
  | true => rfl
  | false => rfl

/-- The file of some lines. -/
def fileOf (lines : List TranscriptLine) : Bytes :=
  lines.flatMap fun line => RecordJson.encode (recordOf line) ++ [10]

/-- Every change that may be stored is. -/
theorem LogChange.store_fileOf {held : List TranscriptLine} (change : LogChange)
    (loggable : ∀ line ∈ change.hold held, Loggable line) :
    change.store (fileOf held) = fileOf (change.hold held) := by
  cases change with
  | append now line =>
      have fits : Loggable line := loggable line (by simp [hold])
      have stored : (line.kind = "" || line.body = "" : Bool) = false := by
        simp [fits.kind, fits.body]
      rw [store, hold, Storage.append, stored, if_neg Bool.false_ne_true, fits.allowed,
        if_neg (by decide), fits.formatLine, fileOf, fileOf, List.flatMap_append,
        List.flatMap_singleton]
  | prepend now lines =>
      have fits (line : TranscriptLine) (present : line ∈ lines) : Loggable line :=
        loggable line (List.mem_append_left _ present)
      have all : lines.filter (fun line => line.kind ≠ "" && line.body ≠ "" && allowsLine line) =
          lines := by
        refine List.filter_eq_self.mpr fun line present => ?_
        simp [(fits line present).kind, (fits line present).body, (fits line present).allowed]
      have forms : lines.map (Storage.formatLine now) =
          lines.map fun line => RecordJson.encode (recordOf line) ++ [10] :=
        List.map_congr_left fun line present => (fits line present).formatLine now
      have file : fileOf lines =
          (lines.map fun line => RecordJson.encode (recordOf line) ++ [10]).flatten :=
        List.flatMap_def
      have joined : fileOf (lines ++ held) = fileOf lines ++ fileOf held := List.flatMap_append
      rw [store, hold, Storage.prepend, all, forms, joined, file]
      split
      · rename_i none
        rw [List.isEmpty_iff] at none
        rw [none, List.flatten_nil, List.nil_append]
      · rfl

omit [Platform] [RecordJson] in
/-- A change keeps what a log holds. -/
theorem LogChange.mem_hold {held : List TranscriptLine} {line : TranscriptLine}
    (change : LogChange) (present : line ∈ held) : line ∈ change.hold held := by
  cases change with
  | append now line => exact List.mem_append_left _ present
  | prepend now lines => exact List.mem_append_right _ present

/-- The file behind some changes is the one of the lines that the log is to hold. -/
theorem foldl_store (changes : List LogChange) {held : List TranscriptLine}
    (loggable : ∀ line ∈ changes.foldl LogChange.hold held, Loggable line) :
    changes.foldl LogChange.store (fileOf held) = fileOf (changes.foldl LogChange.hold held) := by
  induction changes generalizing held with
  | nil => rfl
  | cons change rest inductionHypothesis =>
      have stays (lines : List TranscriptLine) (line : TranscriptLine) (present : line ∈ lines) :
          line ∈ rest.foldl LogChange.hold lines := by
        clear loggable inductionHypothesis
        induction rest generalizing lines with
        | nil => exact present
        | cons next rest inductionHypothesis =>
            exact inductionHypothesis _ (next.mem_hold present)
      rw [List.foldl_cons, List.foldl_cons, change.store_fileOf fun line present =>
        loggable line (stays _ line present)]
      exact inductionHypothesis loggable

/-- The lines of a file of lines, and the empty one behind its last separator. -/
theorem splitOn_fileOf (json : JsonLaw) (lines : List TranscriptLine) :
    (fileOf lines).splitOn 10 =
      (lines.map fun line => RecordJson.encode (recordOf line)) ++ [[]] := by
  induction lines with
  | nil => rfl
  | cons line rest inductionHypothesis =>
      rw [fileOf, List.flatMap_cons, List.append_assoc, List.singleton_append,
        List.splitOn_append_cons_self_of_not_mem (json.oneLine _)]
      exact congrArg _ inductionHypothesis

/-- What a file of lines reads as: those of them that the policy allows as they are stored. -/
theorem readTail_fileOf (json : JsonLaw) (calendar : CalendarLaw) {lines : List TranscriptLine}
    (loggable : ∀ line ∈ lines, Loggable line) :
    ((fileOf lines).splitOn 10).filterMap acceptTailLine =
      (lines.map storedLine).filter allowsLine := by
  rw [splitOn_fileOf json, List.filterMap_append]
  have blank : [([] : Bytes)].filterMap acceptTailLine = [] := rfl
  rw [blank, List.append_nil]
  induction lines with
  | nil => rfl
  | cons line rest inductionHypothesis =>
      have taken := (loggable line List.mem_cons_self).accepted json calendar
      have later := inductionHypothesis fun other present =>
        loggable other (List.mem_cons_of_mem _ present)
      rw [List.map_cons, List.map_cons]
      cases allowed : allowsLine (storedLine line) with
      | true =>
          rw [allowed, if_pos rfl] at taken
          rw [List.filterMap_cons_some taken, List.filter_cons_of_pos allowed, later]
      | false =>
          rw [allowed, if_neg Bool.false_ne_true] at taken
          rw [List.filterMap_cons_none taken,
            List.filter_cons_of_neg (Bool.eq_false_iff.mp allowed), later]

/-- The backward reader gives the last lines of the file that are accepted. -/
theorem readTail_eq (content : Bytes) (maxLines : Nat) :
    readTail content maxLines =
      ((content.splitOn 10).filterMap acceptTailLine).rtake maxLines := by
  unfold readTail
  split
  · rename_i none
    rw [none, List.rtake, Nat.sub_zero, List.drop_length]
  · exact Text.readTail_eq (by decide) acceptTailLine 10 maxLines content

/-- The backward reader gives the last lines of any file that are accepted. A log of lines that
may be stored reads as those lines, whatever the changes that stored them, exactly when the policy
also allows them on one line each. -/
theorem readTail_lines (json : JsonLaw) (calendar : CalendarLaw) :
    (∀ (content : Bytes) (maxLines : Nat),
      readTail content maxLines =
        ((content.splitOn 10).filterMap acceptTailLine).rtake maxLines) ∧
      ∀ changes : List LogChange, (∀ line ∈ heldLines changes, Loggable line) →
        ((∀ maxLines, readTail (storedLog changes) maxLines =
            ((heldLines changes).map storedLine).rtake maxLines) ↔
          ∀ line ∈ heldLines changes, allowsLine (storedLine line) = true) := by
  refine ⟨readTail_eq, fun changes loggable => ?_⟩
  have file : storedLog changes = fileOf (heldLines changes) := foldl_store changes loggable
  have reads (maxLines : Nat) : readTail (storedLog changes) maxLines =
      (((heldLines changes).map storedLine).filter allowsLine).rtake maxLines := by
    rw [readTail_eq, file, readTail_fileOf json calendar loggable]
  constructor
  · intro whole line present
    have all := whole (heldLines changes).length
    have full {stored : List TranscriptLine} (short : stored.length ≤ (heldLines changes).length) :
        stored.rtake (heldLines changes).length = stored := by
      rw [List.rtake, Nat.sub_eq_zero_of_le short, List.drop_zero]
    have size := (heldLines changes).length_map storedLine
    rw [reads, full size.le, full ((List.length_filter_le _ _).trans size.le)] at all
    exact List.filter_eq_self.mp all _ (List.mem_map_of_mem present)
  · intro allowed maxLines
    rw [reads, List.filter_eq_self.mpr]
    intro stored present
    obtain ⟨line, held, rfl⟩ := List.mem_map.mp present
    exact allowed line held

end Lines

section Reference

/-- The start of the year 2024. -/
def newYear : Instant := 1704067200 * 10 ^ 9

def newYearText : String := "2024-01-01T00:00:00.000Z"

/-- The reference platform with a calendar that knows one time, and counts the milliseconds of any
other. -/
local instance calendarPlatform : Platform :=
  { Session.reference with
    formatUtc := fun _ time => if time = newYear then newYearText else toString (time / 10 ^ 6)
    parseFromRfc3339 := fun text =>
      if text = newYearText then some newYear
      else (parseInt64 (trim text)).map fun milliseconds => milliseconds * 10 ^ 6 }

local instance recordJson : RecordJson := ⟨recordToJson, recordFromJson⟩

theorem recordJson_law : JsonLaw where
  decode_encode := recordFromJson_recordToJson
  oneLine := recordToJson_line
  braces := recordToJson_braces

/-- The calendar of the reference platform is read back to the millisecond. -/
theorem calendar_law : CalendarLaw where
  reads := by
    intro time low high
    have least : (-8334601228800000000000 : Int) < time := low
    have most : (8210266876799999999999 : Int) ≥ time := high
    have form : isoDateWithMs time =
        if time = newYear then newYearText else toString (time / 10 ^ 6) := rfl
    have reading (text : String) : Platform.parseFromRfc3339 text =
        if text = newYearText then some newYear
        else (parseInt64 (trim text)).map fun milliseconds => milliseconds * 10 ^ 6 := rfl
    rw [form, parseTimestamp, reading]
    by_cases day : time = newYear
    · rw [if_pos day, if_pos rfl, day]
      decide
    · have read : parseInt64 (trim (toString (time / 10 ^ 6))) = some (time / 10 ^ 6) :=
        parseInt64_repr (by omega) (by omega)
      have unread : parseInt64 (trim newYearText) = none := by decide
      have other : toString (time / 10 ^ 6) ≠ newYearText := by
        intro same
        rw [same, unread] at read
        cases read
      rw [if_neg day, if_neg other, read]
      rfl

/-- A line of one day. -/
def dayLine (body : String) : TranscriptLine where
  timestamp := newYear
  author := "alice"
  kind := "message"
  body := body
  msgid := ""
  onlyVisibleToYou := false

/-- Two lines that are stored, the older one later. -/
theorem readTail_lines_two :
    readTail (storedLog [.append 0 (dayLine "hello"), .prepend 0 [dayLine "earlier\nthat day"]]) 5 =
      [dayLine "earlier that day", dayLine "hello"] := by
  have stored := (readTail_lines recordJson_law calendar_law).2
    [.append 0 (dayLine "hello"), .prepend 0 [dayLine "earlier\nthat day"]] (by
      intro line present
      have listed : line = dayLine "earlier\nthat day" ∨ line = dayLine "hello" := by
        simpa [heldLines, LogChange.hold] using present
      rcases listed with rfl | rfl
      all_goals exact ⟨by decide, by decide, by decide, by decide +kernel⟩)
  have reads := stored.mpr (by decide) 5
  rw [reads]
  decide

/-- A line that the policy allows on two lines and not on one is stored, and is not read back. -/
theorem broken_line_not_read :
    ¬ ∀ (changes : List LogChange), (∀ line ∈ heldLines changes, Loggable line) →
      ∀ maxLines, readTail (storedLog changes) maxLines =
        ((heldLines changes).map storedLine).rtake maxLines := by
  intro reads
  have stored := reads [.append 0 (dayLine "PASS\nhunter2")] (by
    intro line present
    rw [List.mem_singleton.mp present]
    exact ⟨by decide, by decide, by decide, by decide⟩) 1
  exact absurd stored (by decide +kernel)

end Reference

end Omairc.Storage

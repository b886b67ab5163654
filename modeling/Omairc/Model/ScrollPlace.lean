import Mathlib.Data.List.Basic
import Mathlib.Logic.Relation

/-!
# Scroll places

Where a transcript was left: at its end, or at the first line at or below the top of the view,
under the dividers that were on top of it. The line is found again by its msgid, or else by its
old row or its content.
-/

namespace Omairc.Model

/-- The kinds of a transcript's rows. -/
inductive RowKind
  | message
  | event
  | daySeparator
  | status
  | whois
  | unreadMark
  deriving DecidableEq

/-- What a place reads of a row. Only a chat line carries a msgid. -/
structure Row where
  kind : RowKind
  author : Option String
  time : Option String
  plain : String
  msgid : String
  chat : msgid ≠ "" → kind = .message

/-- The row at the top of the view, how far it is scrolled past, and whether the view follows the
end. -/
structure ScrollAnchor where
  row : Nat
  offsetPx : Int
  pinnedToBottom : Bool

/-- A divider on top of the view above the reader's line. -/
structure DividerKey where
  kind : RowKind
  text : String
  deriving DecidableEq

def DividerKey.of (row : Row) : DividerKey := ⟨row.kind, row.plain⟩

/-- The kinds of rows that are stored and restored. Dividers are none of them. -/
inductive RestorableKind
  | message
  | event
  | status
  | whois
  deriving DecidableEq

namespace RestorableKind

def fromRow : RowKind → Option RestorableKind
  | .message => some .message
  | .event => some .event
  | .status => some .status
  | .whois => some .whois
  | .daySeparator => none
  | .unreadMark => none

def isKind (restorable : RestorableKind) (kind : RowKind) : Bool := fromRow kind == some restorable

def name : RestorableKind → String
  | .message => "message"
  | .event => "event"
  | .status => "status"
  | .whois => "whois"

def fromName (name : String) : Option RestorableKind :=
  if name = "message" then some .message
  else if name = "event" then some .event
  else if name = "status" then some .status
  else if name = "whois" then some .whois
  else none

/-- The name of a kind is read back. -/
@[simp] theorem fromName_name (kind : RestorableKind) : fromName kind.name = some kind := by
  cases kind <;> rfl

end RestorableKind

/-- The content of a displayed line. -/
structure LineKey where
  kind : RestorableKind
  author : Option String
  time : Option String
  text : String
  msgid : String
  deriving DecidableEq

namespace LineKey

def of (row : Row) : Option LineKey :=
  (RestorableKind.fromRow row.kind).map fun kind =>
    { kind, author := row.author, time := row.time, text := row.plain, msgid := row.msgid }

def isRow (line : LineKey) (row : Row) : Bool :=
  if line.msgid ≠ "" then row.msgid == line.msgid
  else line.kind.isKind row.kind && line.author == row.author && line.time == row.time &&
    line.text == row.plain

end LineKey

/-- What a transcript looked like when it was left. -/
inductive SavedPlace
  | atEnd
  | line (row : Nat) (offsetPx : Int) (line : LineKey) (lead : List DividerKey)
  deriving DecidableEq

/-- The place of a transcript with a scroll anchor. -/
def SavedPlace.fromAnchor (anchor : ScrollAnchor) (rows : List Row) : SavedPlace :=
  if anchor.pinnedToBottom || rows.isEmpty then .atEnd
  else
    let start := min anchor.row (rows.length - 1)
    let found := (rows.drop start).zipIdx.findSome? fun (row, rel) =>
      (LineKey.of row).map fun key => (rel, start + rel, key)
    match found with
    | none => .atEnd
    | some (rel, rowIx, key) =>
        .line rowIx anchor.offsetPx key (((rows.drop start).take rel).map DividerKey.of)

/-- Where a restore lands in the rows on screen now. -/
inductive Resume
  | atEnd
  | line (row : Nat) (offsetPx : Int)
  deriving DecidableEq

/-- The row of a chat line with a msgid. -/
def rowForMsgid (rows : List Row) (msgid : String) : Option Nat :=
  if msgid = "" then none else rows.findIdx? fun row => row.msgid == msgid

/-- The row that a saved line sits on. -/
def findLine (line : LineKey) (row : Nat) (rows : List Row) : Option Nat :=
  if line.msgid ≠ "" then rowForMsgid rows line.msgid
  else if rows[row]?.any line.isRow then some row
  else rows.findIdx? line.isRow

/-- Resolves a saved place against the rows now shown. -/
def resume (place : Option SavedPlace) (rows : List Row) : Resume :=
  match place with
  | none => .atEnd
  | some .atEnd => .atEnd
  | some (.line row offsetPx line lead) =>
      if rows.isEmpty then .atEnd
      else
        match findLine line row rows with
        | none => .line (min row (rows.length - 1)) offsetPx
        | some found =>
            let top := found - lead.length
            if lead.length ≤ found && ((rows.take found).drop top).map DividerKey.of == lead then
              .line top offsetPx
            else .line found 0

/-- A place as the settings file keeps it. -/
structure StoredPlace where
  followEnd : Bool := false
  msgId : String := ""
  author : String := ""
  kind : String := ""
  body : String := ""
  epochMs : Int := 0
  hasTime : Bool := false
  shownTime : String := ""
  deriving DecidableEq

namespace SavedPlace

def toStored : SavedPlace → StoredPlace
  | .atEnd => { followEnd := true }
  | .line _ _ key _ =>
      if key.msgid ≠ "" then { msgId := key.msgid }
      else
        { kind := key.kind.name, author := key.author.getD "", body := key.text,
          shownTime := key.time.getD "" }

def fromStored (place : StoredPlace) : Option SavedPlace :=
  if place.followEnd then some .atEnd
  else if place.msgId ≠ "" then
    some (.line 0 0
      { kind := .message, author := none, time := none, text := "", msgid := place.msgId } [])
  else
    (RestorableKind.fromName place.kind).map fun kind =>
      .line 0 0
        { kind
          author := if place.author ≠ "" then some place.author else none
          time := if place.shownTime ≠ "" then some place.shownTime else none
          text := place.body
          msgid := "" } []

end SavedPlace

end Omairc.Model

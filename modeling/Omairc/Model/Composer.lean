import Mathlib.Logic.Function.Basic
import Omairc.Model.Format

/-!
# The composer's memory

A draft and the sent lines of each target. The text field belongs to the shell: its text is handed
in, and what the composer answers is put back in it. The Tab cycle, which no draft depends on, is
left out.
-/

namespace Omairc.Model

open Omairc.Text

/-- Sent lines kept per target. -/
def historyLimit : Nat := 50

structure ConversationRef where
  networkId : String
  key : String
  deriving DecidableEq

/-- The target a draft and its history belong to: a conversation, or one network's Status pane. -/
inductive DraftKey
  | conversation (selected : ConversationRef)
  | status (networkId : String)
  deriving DecidableEq

/-- The text and caret the field should show after a composer action. -/
structure Edit where
  text : String
  cursor : Nat

/-! ## Links -/

/-- Inserts an allowed link at the caret, with a space where there is none. -/
def insertFileLinkAtCaret (text : String) (cursor : Nat) (raw : String) : Option Edit :=
  if !isAllowedHttpUrl raw.toList then none
  else
    let cursor := min cursor (byteLength text)
    let before := takeBytes cursor text.toList
    let after := dropBytes cursor text.toList
    let front := if before.getLast?.any fun char => char != ' ' then [' '] else []
    let back := if after.head?.any fun char => char != ' ' then [' '] else []
    let piece := front ++ raw.toList ++ back
    some ⟨String.ofList (before ++ piece ++ after), cursor + byteSize piece⟩

/-- Appends a link to a draft that is not in the field. -/
def appendStored (stored raw : String) : String :=
  if stored = "" then raw
  else if stored.toList.getLast? = some ' ' then stored ++ raw
  else stored ++ " " ++ raw

/-! ## Drafts -/

/-- An Up/Down walk: the history index on screen, and the draft typed before the walk began. -/
structure Browse where
  index : Nat
  draft : String

/-- Everything the composer remembers between targets. -/
structure ComposerState where
  key : Option DraftKey := none
  drafts : DraftKey → Option String := fun _ => none
  histories : DraftKey → List String := fun _ => []
  browse : Option Browse := none
  find : Option String := none

namespace ComposerState

/-- A state whose field shows a target's draft, which is empty at launch. -/
def startingAt (key : DraftKey) : ComposerState := { key := some key }

/-- The text the user has typed and not sent. -/
def unsentText (state : ComposerState) (composerText : String) : String :=
  match state.find with
  | some draft => draft
  | none =>
      match state.browse with
      | some browse => browse.draft
      | none => composerText

/-- Enters find mode for the field's current text. -/
def beginFind (state : ComposerState) (composerText : String) : ComposerState :=
  { state with browse := none, find := some (state.unsentText composerText) }

/-- Leaves find mode, with the draft it saved. -/
def endFind (state : ComposerState) : Option String × ComposerState :=
  (state.find, { state with find := none })

/-- Saves the unsent text under the current target. -/
def stash (state : ComposerState) (composerText : String) : ComposerState :=
  match state.key with
  | none => state
  | some key =>
      let unsent := state.unsentText composerText
      { state with
        drafts := Function.update state.drafts key (if unsent = "" then none else some unsent) }

/-- Whether Up or Down is walking history right now. -/
def isBrowsing (state : ComposerState) : Bool := state.browse.isSome

/-- Makes `key` the target, with the draft it holds. -/
def switchTo (state : ComposerState) (key : DraftKey) : String × ComposerState :=
  ((state.drafts key).getD "", { state with key := some key, browse := none, find := none })

/-- Routes a finished upload link to the draft that queued it. -/
def appendFileLink (state : ComposerState) (currentKey queuedKey : DraftKey) (findActive : Bool)
    (composerText : String) (cursor : Nat) (url : String) : Option Edit × ComposerState :=
  if !isAllowedHttpUrl url.toList then (none, state)
  else if queuedKey = currentKey ∧ !findActive ∧ !state.isBrowsing then
    (insertFileLinkAtCaret composerText cursor url, state)
  else if queuedKey = currentKey ∧ findActive then
    (none, { state with find := state.find.map fun draft => appendStored draft url })
  else if queuedKey = currentKey ∧ state.isBrowsing then
    (none, { state with
      browse := state.browse.map fun browse =>
        { browse with draft := appendStored browse.draft url } })
  else
    (none, { state with
      drafts := Function.update state.drafts queuedKey
        (some (appendStored ((state.drafts queuedKey).getD "") url)) })

/-- Records a line sent to the current target. -/
def recordSent (state : ComposerState) (line : String) : ComposerState :=
  match state.key with
  | none => { state with browse := none }
  | some key =>
      let lines := state.histories key ++ [line]
      { state with
        browse := none
        drafts := Function.update state.drafts key none
        histories := Function.update state.histories key
          (lines.drop (lines.length - historyLimit)) }

/-- The sent lines of the current target, oldest first. -/
def history (state : ComposerState) : List String :=
  (state.key.map state.histories).getD []

/-- One step of a walk from an index, with the draft typed before it. -/
def walk (state : ComposerState) (index : Nat) (draft : String) (delta : Int) :
    Option String × ComposerState :=
  match state.history[(index + delta).toNat]? with
  -- Down past the newest line brings the typed draft back, and the walk ends.
  | none => (some draft, { state with browse := none })
  | some line => (some line, { state with browse := some ⟨(index + delta).toNat, draft⟩ })

/-- Up (`delta` -1) or Down (`delta` +1) in the composer. -/
def recallLine (state : ComposerState) (composerText : String) (delta : Int) :
    Option String × ComposerState :=
  match state.browse with
  | some browse => state.walk browse.index browse.draft delta
  | none =>
      if 0 < delta ∨ state.history = [] then (none, state)
      else state.walk state.history.length composerText delta

end ComposerState

/-! ## The shell -/

/-- The shell as far as drafts go: the composer, the text in the field and how much of a text the
field's send limit lets in, the target on screen, and whether find mode is on. -/
structure Shell where
  state : ComposerState
  field : String := ""
  fitLen : String → Nat := byteLength
  shown : DraftKey
  finding : Bool := false

namespace Shell

/-- Replaces the field's text, cut to the send limit. -/
def setText (shell : Shell) (text : String) : Shell :=
  { shell with field := String.ofList (takeBytes (shell.fitLen text) text.toList) }

/-- The field's text after its send limit changed. -/
def setSendLimit (shell : Shell) (fitLen : String → Nat) : Shell :=
  { shell with fitLen }.setText shell.field

/-- Stashes the draft of the view on screen, ends find mode, and shows another view's draft. -/
def syncView (shell : Shell) (key : DraftKey) : Shell :=
  let stashed := shell.state.stash shell.field
  let found := if shell.finding then stashed.endFind.2 else stashed
  let (draft, state) := found.switchTo key
  { shell with state, shown := key, finding := false }.setText draft

def startFind (shell : Shell) : Shell :=
  { shell with state := shell.state.beginFind shell.field, finding := true }

/-- Leaves find mode and puts the draft that find saved back in the field. -/
def leaveFind (shell : Shell) : Shell :=
  if shell.finding then
    let (draft, state) := shell.state.endFind
    let left := { shell with state, finding := false }
    match draft with
    | none => left
    | some draft => left.setText draft
  else shell

/-- Up or Down. Find mode consumes these keys. -/
def recallHistory (shell : Shell) (delta : Int) : Shell :=
  if shell.finding then shell
  else
    let (next, state) := shell.state.recallLine shell.field delta
    let walked := { shell with state }
    match next with
    | none => walked
    | some next => walked.setText next

/-- A line the controller accepted: the composer clears and the line joins its history. -/
def finishCommand (shell : Shell) (line : String) : Shell :=
  { shell with state := shell.state.recordSent line }.setText ""

/-- Writes a link into the draft that queued it. -/
def insertUploadedLink (shell : Shell) (queuedKey : DraftKey) (cursor : Nat) (url : String) :
    Shell :=
  let (edit, state) :=
    shell.state.appendFileLink shell.shown queuedKey shell.finding shell.field cursor url
  let routed := { shell with state }
  match edit with
  | none => routed
  | some edit =>
      let shown := routed.setText edit.text
      { shown with state := shown.state.stash edit.text }

end Shell

end Omairc.Model

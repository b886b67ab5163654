import Omairc.Model.Composer

/-!
# Drafts go to their own target

The composer beside a map from each target to its unsent text, under the same events. The map
knows nothing of where the composer keeps a text: it changes when the user types in the field
outside find and outside a walk, when a link arrives for a draft, when a line is sent, and when a
text that is put in the field is cut to the send limit.
-/

namespace Omairc.Model

open Omairc.Text

/-- What happens to a composer. -/
inductive ComposerEvent
  | typed (text : String)
  | limited (fitLen : String → Nat)
  | switched (key : DraftKey)
  | findBegan
  | findEnded
  | recalled (delta : Int)
  | sent (line : String)
  | linked (queuedKey : DraftKey) (cursor : Nat) (url : String)

/-- The shell after an event. -/
def Shell.step (shell : Shell) : ComposerEvent → Shell
  | .typed text => { shell with field := text }
  | .limited fitLen => shell.setSendLimit fitLen
  | .switched key => shell.syncView key
  | .findBegan => shell.startFind
  | .findEnded => shell.leaveFind
  | .recalled delta => shell.recallHistory delta
  | .sent line => shell.finishCommand line
  | .linked queuedKey cursor url => shell.insertUploadedLink queuedKey cursor url

/-- The shell after events, from a field that shows the empty draft of a target. -/
def Shell.run (key : DraftKey) (events : List ComposerEvent) : Shell :=
  events.foldl Shell.step { state := .startingAt key, shown := key }

/-! ## The reference map -/

/-- What the field shows: the draft on screen, a query, or a line of the history. -/
inductive FieldMode
  | typing
  | finding
  | walking (index : Nat)
  deriving DecidableEq

/-- The unsent text of each target, and how many lines were sent to it. -/
structure UnsentMap where
  shown : DraftKey
  unsent : DraftKey → String := fun _ => ""
  lines : DraftKey → Nat := fun _ => 0
  mode : FieldMode := .typing
  fitLen : String → Nat := byteLength

namespace UnsentMap

/-- The text of a target is replaced. -/
def write (map : UnsentMap) (key : DraftKey) (text : String) : UnsentMap :=
  { map with unsent := Function.update map.unsent key text }

/-- A text is put in the field as the draft on screen. -/
def put (map : UnsentMap) (text : String) : UnsentMap :=
  { map with mode := .typing }.write map.shown
    (String.ofList (takeBytes (map.fitLen text) text.toList))

/-- A walk comes to a line, or behind the newest one. -/
def walkTo (map : UnsentMap) (index : Nat) : UnsentMap :=
  if index < map.lines map.shown then { map with mode := .walking index }
  else map.put (map.unsent map.shown)

/-- The map after an event. -/
def step (map : UnsentMap) : ComposerEvent → UnsentMap
  | .typed text => if map.mode = .typing then map.write map.shown text else map
  | .limited fitLen =>
      let limited := { map with fitLen }
      if map.mode = .typing then limited.put (map.unsent map.shown) else limited
  | .switched key => { map with shown := key }.put (map.unsent key)
  | .findBegan => { map with mode := .finding }
  | .findEnded => if map.mode = .finding then map.put (map.unsent map.shown) else map
  | .recalled delta =>
      match map.mode with
      | .finding => map
      | .walking index => map.walkTo (index + delta).toNat
      | .typing =>
          if 0 < delta ∨ map.lines map.shown = 0 then map
          else map.walkTo (map.lines map.shown + delta).toNat
  | .sent _ =>
      let counted := { map with
        lines := Function.update map.lines map.shown
          (min (map.lines map.shown + 1) historyLimit) }
      if map.mode = .finding then counted else { counted with mode := .typing }.write map.shown ""
  | .linked queuedKey cursor url =>
      if !isAllowedHttpUrl url.toList then map
      else if queuedKey = map.shown ∧ map.mode = .typing then
        match insertFileLinkAtCaret (map.unsent map.shown) cursor url with
        | none => map
        | some edit => map.put edit.text
      else map.write queuedKey (appendStored (map.unsent queuedKey) url)

/-- The map after events, from empty texts. -/
def run (key : DraftKey) (events : List ComposerEvent) : UnsentMap :=
  events.foldl step { shown := key }

/-- The draft that find put aside. -/
def savedFind (map : UnsentMap) : Option String :=
  if map.mode = .finding then some (map.unsent map.shown) else none

/-- The walk with the draft that it put aside. -/
def savedBrowse (map : UnsentMap) : Option Browse :=
  match map.mode with
  | .walking index => some ⟨index, map.unsent map.shown⟩
  | _ => none

variable {map : UnsentMap}

theorem savedFind_finding (finding : map.mode = .finding) :
    map.savedFind = some (map.unsent map.shown) := if_pos finding

theorem savedFind_of_ne (outside : map.mode ≠ .finding) : map.savedFind = none := if_neg outside

theorem savedBrowse_walking {index : Nat} (walking : map.mode = .walking index) :
    map.savedBrowse = some ⟨index, map.unsent map.shown⟩ := by
  rw [savedBrowse, walking]

theorem savedBrowse_typing (typing : map.mode = .typing) : map.savedBrowse = none := by
  rw [savedBrowse, typing]

theorem savedBrowse_finding (finding : map.mode = .finding) : map.savedBrowse = none := by
  rw [savedBrowse, finding]

/-- The text that was written. -/
theorem write_self (map : UnsentMap) (key : DraftKey) (text : String) :
    (map.write key text).unsent key = text := Function.update_self _ _ _

/-- The texts of the other targets stay. -/
theorem write_of_ne (map : UnsentMap) {key other : DraftKey} (apart : other ≠ key) (text : String) :
    (map.write key text).unsent other = map.unsent other := Function.update_of_ne apart _ _

/-- What is put aside for find stays when another target's text is written. -/
theorem savedFind_write (map : UnsentMap) {key : DraftKey} (apart : key ≠ map.shown)
    (text : String) : (map.write key text).savedFind = map.savedFind :=
  congrArg (fun draft => if map.mode = .finding then some draft else none)
    (map.write_of_ne apart.symm text)

/-- What is put aside for a walk stays when another target's text is written. -/
theorem savedBrowse_write (map : UnsentMap) {key : DraftKey} (apart : key ≠ map.shown)
    (text : String) : (map.write key text).savedBrowse = map.savedBrowse := by
  have onScreen : (map.write key text).unsent map.shown = map.unsent map.shown :=
    map.write_of_ne apart.symm text
  cases walking : map.mode with
  | walking index =>
      have writtenMode : (map.write key text).mode = .walking index := walking
      rw [savedBrowse_walking walking, savedBrowse_walking writtenMode]
      exact congrArg (fun draft => some (Browse.mk index draft)) onScreen
  | typing =>
      have writtenMode : (map.write key text).mode = .typing := walking
      rw [savedBrowse_typing walking, savedBrowse_typing writtenMode]
  | finding =>
      have writtenMode : (map.write key text).mode = .finding := walking
      rw [savedBrowse_finding walking, savedBrowse_finding writtenMode]

end UnsentMap

/-! ## What changes the map -/

/-- What an event makes of the text of a target. -/
inductive Written (map : UnsentMap) (key : DraftKey) : ComposerEvent → String → Prop
  | kept (event : ComposerEvent) : Written map key event (map.unsent key)
  | cut (event : ComposerEvent) (fits : Nat) :
      Written map key event (String.ofList (takeBytes fits (map.unsent key).toList))
  | typed (shown : key = map.shown) (typing : map.mode = .typing) (text : String) :
      Written map key (.typed text) text
  | sent (shown : key = map.shown) (outside : map.mode ≠ .finding) (line : String) :
      Written map key (.sent line) ""
  | appended (cursor : Nat) {url : String} (allowed : isAllowedHttpUrl url.toList = true) :
      Written map key (.linked key cursor url) (appendStored (map.unsent key) url)
  | inserted (shown : key = map.shown) (typing : map.mode = .typing) {cursor : Nat} {url : String}
      {edit : Edit} (inserts : insertFileLinkAtCaret (map.unsent key) cursor url = some edit)
      (fits : Nat) :
      Written map key (.linked key cursor url) (String.ofList (takeBytes fits edit.text.toList))

namespace Written

variable {map : UnsentMap} {key : DraftKey} {event : ComposerEvent}

/-- The draft on screen is put back in the field, and the others stay. -/
theorem put (other : UnsentMap) (texts : other.unsent = map.unsent) :
    Written map key event ((other.put (map.unsent other.shown)).unsent key) := by
  by_cases here : key = other.shown
  · subst here
    rw [UnsentMap.put, UnsentMap.write_self]
    exact .cut event _
  · have same : (other.put (map.unsent other.shown)).unsent key = other.unsent key :=
      Function.update_of_ne here _ _
    rw [same, texts]
    exact .kept event

/-- The text of the target on screen is replaced, and the others stay. -/
theorem write {text : String} (target : DraftKey)
    (written : key = target → Written map key event text) :
    Written map key event ((map.write target text).unsent key) := by
  by_cases here : key = target
  · rw [← here, UnsentMap.write_self]
    exact written here
  · rw [map.write_of_ne here]
    exact .kept event

/-- A walk puts nothing but the draft on screen back in the field. -/
theorem walkTo (index : Nat) : Written map key event ((map.walkTo index).unsent key) := by
  rw [UnsentMap.walkTo]
  split
  · exact .kept event
  · exact put map rfl

end Written

/-- **Nothing else changes the map.** A text changes when its target is on screen and the user types
in the field or sends a line, when a link arrives that its draft queued, and when it is put in the
field and cut. -/
theorem UnsentMap.step_written (map : UnsentMap) (event : ComposerEvent) (key : DraftKey) :
    Written map key event ((map.step event).unsent key) := by
  cases event with
  | typed text =>
      rw [UnsentMap.step]
      split
      · rename_i typing
        exact .write map.shown fun here => .typed here typing text
      · exact .kept _
  | limited fitLen =>
      rw [UnsentMap.step]
      split
      · exact .put { map with fitLen } rfl
      · exact .kept _
  | switched shown => exact .put { map with shown } rfl
  | findBegan => exact .kept _
  | findEnded =>
      rw [UnsentMap.step]
      split
      · exact .put map rfl
      · exact .kept _
  | recalled delta =>
      rw [UnsentMap.step]
      split
      · exact .kept _
      · exact .walkTo _
      · split
        · exact .kept _
        · exact .walkTo _
  | sent line =>
      rw [UnsentMap.step]
      split
      · exact .kept _
      · rename_i outside
        by_cases here : key = map.shown
        · subst here
          rw [UnsentMap.write_self]
          exact .sent rfl outside line
        · rw [UnsentMap.write_of_ne _ here]
          exact .kept _
  | linked queuedKey cursor url =>
      rw [UnsentMap.step]
      split
      · exact .kept _
      · rename_i allowed
        rw [Bool.not_eq_true', Bool.not_eq_false] at allowed
        split
        · rename_i here
          obtain ⟨rfl, typing⟩ := here
          split
          · exact .kept _
          · rename_i edit inserts
            by_cases here : key = map.shown
            · subst here
              rw [UnsentMap.put, UnsentMap.write_self]
              exact .inserted rfl typing inserts _
            · have same : (map.put edit.text).unsent key = map.unsent key :=
                Function.update_of_ne here _ _
              rw [same]
              exact .kept _
        · exact .write queuedKey fun here => here ▸ .appended cursor allowed

/-! ## Agreement -/

/-- The shell and the map are about one target, the sent lines are counted, and the stored draft of
every other target is its text. -/
structure AgreesElsewhere (shell : Shell) (map : UnsentMap) : Prop where
  shown : shell.shown = map.shown
  key : shell.state.key = some map.shown
  fitLen : shell.fitLen = map.fitLen
  lines : ∀ key, (shell.state.histories key).length = map.lines key
  drafts : ∀ key, key ≠ map.shown → (shell.state.drafts key).getD "" = map.unsent key

/-- The composer keeps each text of the map where it belongs: the text of the target on screen in
the field, or in the copy that find or the walk made, and the others in the stored drafts. -/
structure Agrees (shell : Shell) (map : UnsentMap) : Prop extends AgreesElsewhere shell map where
  finding : shell.finding = decide (map.mode = .finding)
  find : shell.state.find = map.savedFind
  browse : shell.state.browse = map.savedBrowse
  field : map.mode = .typing → shell.field = map.unsent map.shown

variable {shell : Shell} {map : UnsentMap}

/-- The field holds the draft on screen. -/
theorem AgreesElsewhere.typing (agrees : AgreesElsewhere shell map) (typing : map.mode = .typing)
    (find : shell.state.find = none) (browse : shell.state.browse = none)
    (finding : shell.finding = false) (field : shell.field = map.unsent map.shown) :
    Agrees shell map :=
  { agrees with
    finding := by
      rw [finding, typing]
      rfl
    find := by rw [find, UnsentMap.savedFind_of_ne (by rw [typing]; decide)]
    browse := by rw [browse, UnsentMap.savedBrowse_typing typing]
    field := fun _ => field }

/-- The history on screen is that of the target on screen. -/
theorem AgreesElsewhere.history (agrees : AgreesElsewhere shell map) :
    shell.state.history = shell.state.histories map.shown := by
  rw [ComposerState.history, agrees.key]
  rfl

/-- A text is written for the target on screen. -/
theorem AgreesElsewhere.write (agrees : AgreesElsewhere shell map) (text : String) :
    AgreesElsewhere shell (map.write map.shown text) :=
  { agrees with
    drafts := fun key other => (agrees.drafts key other).trans (map.write_of_ne other text).symm }

/-- A text that is put in the field, outside find and outside a walk, is put in the map. -/
theorem AgreesElsewhere.put (agrees : AgreesElsewhere shell map)
    (find : shell.state.find = none) (browse : shell.state.browse = none)
    (finding : shell.finding = false) (text : String) :
    Agrees (shell.setText text) (map.put text) := by
  have elsewhere : AgreesElsewhere (shell.setText text) (map.put text) :=
    { agrees with
      drafts := fun key other => (agrees.drafts key other).trans (map.write_of_ne other _).symm }
  apply elsewhere.typing rfl find browse finding
  rw [Shell.setText, agrees.fitLen]
  exact (UnsentMap.write_self _ _ _).symm

namespace Agrees

/-- Outside find the composer has put no draft aside for it. -/
theorem find_of_ne (agrees : Agrees shell map) (outside : map.mode ≠ .finding) :
    shell.state.find = none := agrees.find.trans (UnsentMap.savedFind_of_ne outside)

theorem finding_of_ne (agrees : Agrees shell map) (outside : map.mode ≠ .finding) :
    shell.finding = false := agrees.finding.trans (decide_eq_false outside)

/-- Outside a walk the composer has put no draft aside for it. -/
theorem browse_typing (agrees : Agrees shell map) (typing : map.mode = .typing) :
    shell.state.browse = none := agrees.browse.trans (UnsentMap.savedBrowse_typing typing)

/-- The unsent text of the target on screen is the one in the map. -/
theorem unsentText (agrees : Agrees shell map) :
    shell.state.unsentText shell.field = map.unsent map.shown := by
  rw [ComposerState.unsentText, agrees.find, agrees.browse]
  cases shape : map.mode with
  | typing =>
      rw [UnsentMap.savedFind_of_ne (by rw [shape]; decide), UnsentMap.savedBrowse_typing shape]
      exact agrees.field shape
  | finding => rw [UnsentMap.savedFind_finding shape]
  | walking index =>
      rw [UnsentMap.savedFind_of_ne (by rw [shape]; exact FieldMode.noConfusion),
        UnsentMap.savedBrowse_walking shape]

/-! ## Steps -/

/-- Typing changes the draft on screen, or a query or a recalled line that is no draft. -/
theorem typed (agrees : Agrees shell map) (text : String) :
    Agrees (shell.step (.typed text)) (map.step (.typed text)) := by
  rw [UnsentMap.step]
  split
  · rename_i typing
    have outside : map.mode ≠ .finding := typing.trans_ne FieldMode.noConfusion
    have elsewhere : AgreesElsewhere (shell.step (.typed text)) (map.write map.shown text) :=
      { agrees.toAgreesElsewhere.write text with }
    exact elsewhere.typing typing (agrees.find_of_ne outside) (agrees.browse_typing typing)
      (agrees.finding_of_ne outside) (map.write_self map.shown text).symm
  · rename_i saved
    exact { agrees with field := fun typing => absurd typing saved }

/-- A new send limit cuts what is in the field. -/
theorem limited (agrees : Agrees shell map) (fitLen : String → Nat) :
    Agrees (shell.step (.limited fitLen)) (map.step (.limited fitLen)) := by
  have elsewhere : AgreesElsewhere { shell with fitLen } { map with fitLen } :=
    { agrees.toAgreesElsewhere with fitLen := rfl }
  rw [UnsentMap.step]
  split
  · rename_i typing
    have outside : map.mode ≠ .finding := typing.trans_ne FieldMode.noConfusion
    rw [← agrees.field typing]
    exact elsewhere.put (agrees.find_of_ne outside) (agrees.browse_typing typing)
      (agrees.finding_of_ne outside) shell.field
  · rename_i saved
    exact { elsewhere with
      finding := agrees.finding
      find := agrees.find
      browse := agrees.browse
      field := fun typing => absurd typing saved }

/-- After a stash every target has its text in the stored drafts. -/
theorem stash (agrees : Agrees shell map) (key : DraftKey) :
    ((shell.state.stash shell.field).drafts key).getD "" = map.unsent key := by
  rw [ComposerState.stash, agrees.key]
  dsimp only
  rw [agrees.unsentText]
  by_cases here : key = map.shown
  · subst here
    rw [Function.update_self]
    split
    · rename_i empty
      exact empty.symm
    · rfl
  · rw [Function.update_of_ne here]
    exact agrees.drafts key here

/-- A stash leaves the histories. -/
theorem stash_histories (state : ComposerState) (text : String) :
    (state.stash text).histories = state.histories := by
  rw [ComposerState.stash]
  split <;> rfl

/-- The draft on screen is stashed and another one comes on screen. -/
theorem switched (agrees : Agrees shell map) (key : DraftKey) :
    Agrees (shell.step (.switched key)) (map.step (.switched key)) := by
  let stashed := shell.state.stash shell.field
  let found := if shell.finding then stashed.endFind.2 else stashed
  have drafts : found.drafts = stashed.drafts := by
    dsimp only [found]
    split <;> rfl
  have histories : found.histories = shell.state.histories := by
    dsimp only [found]
    split <;> exact stash_histories _ _
  have draft : (found.switchTo key).1 = map.unsent key :=
    (congrArg (fun drafts : DraftKey → Option String => (drafts key).getD "") drafts).trans
      (agrees.stash key)
  have elsewhere : AgreesElsewhere
      { shell with state := (found.switchTo key).2, shown := key, finding := false }
      { map with shown := key } :=
    { shown := rfl
      key := rfl
      fitLen := agrees.fitLen
      lines := by
        intro other
        rw [← agrees.lines other, ← histories]
        rfl
      drafts := by
        intro other _
        rw [← agrees.stash other, ← drafts]
        rfl }
  have lands := elsewhere.put rfl rfl rfl (found.switchTo key).1
  rw [draft] at lands
  change Agrees (Shell.setText _ (found.switchTo key).1) _
  rw [draft]
  exact lands

/-- The draft on screen is put aside for a query. -/
theorem findBegan (agrees : Agrees shell map) :
    Agrees (shell.step .findBegan) (map.step .findBegan) :=
  { agrees.toAgreesElsewhere with
    finding := rfl
    find := congrArg some agrees.unsentText
    browse := rfl
    field := nofun }

/-- The draft that find put aside comes back. -/
theorem findEnded (agrees : Agrees shell map) :
    Agrees (shell.step .findEnded) (map.step .findEnded) := by
  rw [UnsentMap.step, Shell.step, Shell.leaveFind, agrees.finding]
  by_cases finding : map.mode = .finding
  · have saved := agrees.find.trans (UnsentMap.savedFind_finding finding)
    have elsewhere : AgreesElsewhere
        { shell with state := shell.state.endFind.2, finding := false } map :=
      { agrees.toAgreesElsewhere with }
    rw [if_pos (decide_eq_true finding), if_pos finding]
    simp only [ComposerState.endFind, saved]
    exact elsewhere.put rfl (agrees.browse.trans (UnsentMap.savedBrowse_finding finding)) rfl _
  · rw [if_neg finding, if_neg (by rw [decide_eq_false finding]; decide)]
    exact agrees

/-- A step of a walk, from an index and with the draft that was on screen before it. -/
theorem walk (agrees : AgreesElsewhere shell map) (find : shell.state.find = none)
    (finding : shell.finding = false) (index : Nat) {draft : String}
    (saved : draft = map.unsent map.shown) (delta : Int) :
    Agrees
      (match (shell.state.walk index draft delta).1 with
        | none => { shell with state := (shell.state.walk index draft delta).2 }
        | some next => { shell with state := (shell.state.walk index draft delta).2 }.setText next)
      (map.walkTo (index + delta).toNat) := by
  subst saved
  rw [UnsentMap.walkTo, ComposerState.walk, ← agrees.lines, ← agrees.history]
  cases there : shell.state.history[(index + delta).toNat]? with
  | none =>
      rw [if_neg (by rw [List.getElem?_eq_none_iff] at there; omega)]
      have elsewhere : AgreesElsewhere
          { shell with state := { shell.state with browse := none } } map := { agrees with }
      exact elsewhere.put find rfl finding _
  | some line =>
      obtain ⟨inside, _⟩ := List.getElem?_eq_some_iff.mp there
      rw [if_pos inside]
      exact { agrees with
        finding := finding
        find := find
        browse := rfl
        field := nofun }

/-- Up and Down put the draft on screen aside, and bring it back behind the newest line. -/
theorem recalled (agrees : Agrees shell map) (delta : Int) :
    Agrees (shell.step (.recalled delta)) (map.step (.recalled delta)) := by
  rw [Shell.step, Shell.recallHistory, UnsentMap.step]
  cases shape : map.mode with
  | finding =>
      rw [if_pos (agrees.finding.trans (decide_eq_true shape))]
      exact agrees
  | walking index =>
      have outside : map.mode ≠ .finding := shape.trans_ne FieldMode.noConfusion
      have saved := agrees.browse.trans (UnsentMap.savedBrowse_walking shape)
      rw [if_neg (by rw [agrees.finding_of_ne outside]; decide)]
      simp only [ComposerState.recallLine, saved]
      exact walk agrees.toAgreesElsewhere (agrees.find_of_ne outside)
        (agrees.finding_of_ne outside) index rfl delta
  | typing =>
      have outside : map.mode ≠ .finding := shape.trans_ne FieldMode.noConfusion
      have empty : shell.state.history = [] ↔ map.lines map.shown = 0 := by
        rw [← agrees.lines, ← agrees.history, List.length_eq_zero_iff]
      rw [if_neg (by rw [agrees.finding_of_ne outside]; decide)]
      simp only [ComposerState.recallLine, agrees.browse_typing shape, empty]
      by_cases quiet : 0 < delta ∨ map.lines map.shown = 0
      · simp only [if_pos quiet]
        exact agrees
      · simp only [if_neg quiet]
        rw [← agrees.lines, ← agrees.history]
        exact walk agrees.toAgreesElsewhere (agrees.find_of_ne outside)
          (agrees.finding_of_ne outside) _ (agrees.field shape) delta

/-- A sent line clears the draft on screen, unless it is put aside for a query. -/
theorem sent (agrees : Agrees shell map) (line : String) :
    Agrees (shell.step (.sent line)) (map.step (.sent line)) := by
  let counted := { map with
    lines := Function.update map.lines map.shown (min (map.lines map.shown + 1) historyLimit) }
  have recorded : shell.state.recordSent line =
      { shell.state with
        browse := none
        drafts := Function.update shell.state.drafts map.shown none
        histories := Function.update shell.state.histories map.shown
          ((shell.state.histories map.shown ++ [line]).drop
            ((shell.state.histories map.shown ++ [line]).length - historyLimit)) } := by
    simp only [ComposerState.recordSent, agrees.key]
  have elsewhere : AgreesElsewhere { shell with state := shell.state.recordSent line } counted :=
    { shown := agrees.shown
      key := by
        rw [recorded]
        exact agrees.key
      fitLen := agrees.fitLen
      lines := by
        intro key
        rw [recorded]
        dsimp only [counted]
        by_cases here : key = map.shown
        · subst here
          rw [Function.update_self, Function.update_self, List.length_drop, List.length_append,
            agrees.lines, List.length_singleton]
          omega
        · rw [Function.update_of_ne here, Function.update_of_ne here]
          exact agrees.lines key
      drafts := by
        intro key other
        rw [recorded]
        dsimp only
        rw [Function.update_of_ne other]
        exact agrees.drafts key other }
  have browse : (shell.state.recordSent line).browse = none := by rw [recorded]
  have find : (shell.state.recordSent line).find = shell.state.find := by rw [recorded]
  rw [UnsentMap.step]
  by_cases finding : map.mode = .finding
  · rw [if_pos finding]
    exact { elsewhere with
      finding := agrees.finding
      find := find.trans agrees.find
      browse := browse.trans (UnsentMap.savedBrowse_finding finding).symm
      field := fun typing => absurd (typing.symm.trans finding) FieldMode.noConfusion }
  · rw [if_neg finding]
    have cleared := elsewhere.put (find.trans (agrees.find_of_ne finding)) browse
      (agrees.finding_of_ne finding) ""
    exact cleared

/-- A stash of any text leaves what is on screen and the drafts of the other targets. -/
theorem stashed (agrees : Agrees shell map) (text : String) :
    Agrees { shell with state := shell.state.stash text } map := by
  have shape : shell.state.stash text =
      { shell.state with
        drafts := Function.update shell.state.drafts map.shown
          (if shell.state.unsentText text = "" then none
            else some (shell.state.unsentText text)) } := by
    simp only [ComposerState.stash, agrees.key]
  rw [shape]
  exact { agrees with
    drafts := fun key other => by
      rw [← agrees.drafts key other]
      exact congrArg (Option.getD · "") (Function.update_of_ne other _ _) }

/-- A link for the draft in the field is inserted at the caret. -/
theorem linked_typing (agrees : Agrees shell map) (typing : map.mode = .typing)
    {url : String} (allowed : ¬ (!isAllowedHttpUrl url.toList) = true) (cursor : Nat) :
    Agrees (shell.step (.linked map.shown cursor url)) (map.step (.linked map.shown cursor url)) := by
  have outside : map.mode ≠ .finding := typing.trans_ne FieldMode.noConfusion
  have routed : shell.state.appendFileLink shell.shown map.shown shell.finding shell.field cursor url =
      (insertFileLinkAtCaret (map.unsent map.shown) cursor url, shell.state) := by
    rw [ComposerState.appendFileLink, if_neg allowed, agrees.shown, agrees.finding_of_ne outside,
      ComposerState.isBrowsing, agrees.browse_typing typing, agrees.field typing]
    exact if_pos ⟨rfl, rfl, rfl⟩
  rw [UnsentMap.step, if_neg allowed, if_pos ⟨rfl, typing⟩, Shell.step, Shell.insertUploadedLink,
    routed]
  cases insertFileLinkAtCaret (map.unsent map.shown) cursor url with
  | none => exact agrees
  | some edit =>
      exact (agrees.toAgreesElsewhere.put (agrees.find_of_ne outside)
        (agrees.browse_typing typing) (agrees.finding_of_ne outside) edit.text).stashed edit.text

/-- A link for the draft that find put aside is appended to it. -/
theorem linked_finding (agrees : Agrees shell map) (finding : map.mode = .finding)
    {url : String} (allowed : ¬ (!isAllowedHttpUrl url.toList) = true) (cursor : Nat) :
    Agrees (shell.step (.linked map.shown cursor url)) (map.step (.linked map.shown cursor url)) := by
  have routed : shell.state.appendFileLink shell.shown map.shown shell.finding shell.field cursor url =
      (none, { shell.state with find := some (appendStored (map.unsent map.shown) url) }) := by
    rw [ComposerState.appendFileLink, if_neg allowed, agrees.shown, agrees.finding,
      decide_eq_true finding, if_neg (by simp), if_pos ⟨rfl, rfl⟩, agrees.find,
      UnsentMap.savedFind_finding finding]
    rfl
  rw [UnsentMap.step, if_neg allowed, if_neg (by rw [finding]; simp), Shell.step,
    Shell.insertUploadedLink, routed]
  have writtenMode :
      (map.write map.shown (appendStored (map.unsent map.shown) url)).mode = .finding := finding
  exact { agrees.toAgreesElsewhere.write _ with
    finding := agrees.finding
    find := (congrArg some (map.write_self _ _).symm).trans
      (UnsentMap.savedFind_finding writtenMode).symm
    browse := (agrees.browse.trans (UnsentMap.savedBrowse_finding finding)).trans
      (UnsentMap.savedBrowse_finding writtenMode).symm
    field := fun typing => absurd (typing.symm.trans finding) FieldMode.noConfusion }

/-- A link for the draft that a walk put aside is appended to it. -/
theorem linked_walking (agrees : Agrees shell map) {index : Nat}
    (walking : map.mode = .walking index) {url : String}
    (allowed : ¬ (!isAllowedHttpUrl url.toList) = true) (cursor : Nat) :
    Agrees (shell.step (.linked map.shown cursor url)) (map.step (.linked map.shown cursor url)) := by
  have outside : map.mode ≠ .finding := walking.trans_ne FieldMode.noConfusion
  have routed : shell.state.appendFileLink shell.shown map.shown shell.finding shell.field cursor url =
      (none, { shell.state with
        browse := some ⟨index, appendStored (map.unsent map.shown) url⟩ }) := by
    rw [ComposerState.appendFileLink, if_neg allowed, agrees.shown, agrees.finding_of_ne outside,
      ComposerState.isBrowsing, agrees.browse, UnsentMap.savedBrowse_walking walking,
      if_neg (by simp), if_neg (by simp), if_pos ⟨rfl, rfl⟩]
    rfl
  rw [UnsentMap.step, if_neg allowed, if_neg (by rw [walking]; simp), Shell.step,
    Shell.insertUploadedLink, routed]
  have writtenMode :
      (map.write map.shown (appendStored (map.unsent map.shown) url)).mode = .walking index := walking
  have writtenOutside :
      (map.write map.shown (appendStored (map.unsent map.shown) url)).mode ≠ .finding := outside
  exact { agrees.toAgreesElsewhere.write _ with
    finding := agrees.finding
    find := (agrees.find_of_ne outside).trans (UnsentMap.savedFind_of_ne writtenOutside).symm
    browse := (congrArg (fun draft => some (Browse.mk index draft)) (map.write_self _ _).symm).trans
      (UnsentMap.savedBrowse_walking writtenMode).symm
    field := fun typing => absurd (typing.symm.trans walking) FieldMode.noConfusion }

/-- A link for a draft that is not on screen is appended to it. -/
theorem linked_elsewhere (agrees : Agrees shell map) {queuedKey : DraftKey}
    (elsewhere : queuedKey ≠ map.shown) {url : String}
    (allowed : ¬ (!isAllowedHttpUrl url.toList) = true) (cursor : Nat) :
    Agrees (shell.step (.linked queuedKey cursor url)) (map.step (.linked queuedKey cursor url)) := by
  have routed : shell.state.appendFileLink shell.shown queuedKey shell.finding shell.field cursor url =
      (none, { shell.state with
        drafts := Function.update shell.state.drafts queuedKey
          (some (appendStored (map.unsent queuedKey) url)) }) := by
    rw [ComposerState.appendFileLink, if_neg allowed, agrees.shown]
    rw [if_neg (fun here => elsewhere here.1), if_neg (fun here => elsewhere here.1),
      if_neg (fun here => elsewhere here.1), agrees.drafts queuedKey elsewhere]
  have onScreen : (map.write queuedKey (appendStored (map.unsent queuedKey) url)).unsent map.shown =
      map.unsent map.shown := map.write_of_ne elsewhere.symm _
  rw [UnsentMap.step, if_neg allowed, if_neg (fun here => elsewhere here.1), Shell.step,
    Shell.insertUploadedLink, routed]
  exact
    { shown := agrees.shown
      key := agrees.key
      fitLen := agrees.fitLen
      lines := agrees.lines
      drafts := by
        intro key other
        dsimp only
        by_cases here : key = queuedKey
        · subst here
          rw [Function.update_self, UnsentMap.write_self]
          rfl
        · rw [Function.update_of_ne here, UnsentMap.write_of_ne _ here]
          exact agrees.drafts key other
      finding := agrees.finding
      find := agrees.find.trans (map.savedFind_write elsewhere _).symm
      browse := agrees.browse.trans (map.savedBrowse_write elsewhere _).symm
      field := fun typing => (agrees.field typing).trans onScreen.symm }

/-- A link goes into the draft that queued it. -/
theorem linked (agrees : Agrees shell map) (queuedKey : DraftKey) (cursor : Nat) (url : String) :
    Agrees (shell.step (.linked queuedKey cursor url)) (map.step (.linked queuedKey cursor url)) := by
  by_cases allowed : (!isAllowedHttpUrl url.toList) = true
  · rw [UnsentMap.step, if_pos allowed, Shell.step, Shell.insertUploadedLink,
      ComposerState.appendFileLink, if_pos allowed]
    exact agrees
  · by_cases here : queuedKey = map.shown
    · subst here
      cases shape : map.mode with
      | typing => exact agrees.linked_typing shape allowed cursor
      | finding => exact agrees.linked_finding shape allowed cursor
      | walking index => exact agrees.linked_walking shape allowed cursor
    · exact agrees.linked_elsewhere here allowed cursor

/-- Every event keeps the agreement. -/
theorem step (agrees : Agrees shell map) (event : ComposerEvent) :
    Agrees (shell.step event) (map.step event) := by
  cases event with
  | typed text => exact agrees.typed text
  | limited fitLen => exact agrees.limited fitLen
  | switched key => exact agrees.switched key
  | findBegan => exact agrees.findBegan
  | findEnded => exact agrees.findEnded
  | recalled delta => exact agrees.recalled delta
  | sent line => exact agrees.sent line
  | linked queuedKey cursor url => exact agrees.linked queuedKey cursor url

/-- Every run keeps the agreement. -/
theorem run (key : DraftKey) (events : List ComposerEvent) :
    Agrees (Shell.run key events) (UnsentMap.run key events) := by
  induction events using List.reverseRecOn with
  | nil =>
      exact
        { shown := rfl
          key := rfl
          fitLen := rfl
          lines := fun _ => rfl
          drafts := fun _ _ => rfl
          finding := rfl
          find := rfl
          browse := rfl
          field := fun _ => rfl }
  | append_singleton events event inductionHypothesis =>
      rw [Shell.run, UnsentMap.run, List.foldl_append, List.foldl_append]
      exact inductionHypothesis.step event

end Agrees

/-! ## Runs -/

/-- **Drafts go to their own target.** After all events the unsent text of the target on screen and
the stored draft of every other target are those of the map, and the next event changes a text of
the map only by what the user types, sends or uploads for its target, or by a cut. -/
theorem drafts_refine (key : DraftKey) (events : List ComposerEvent) :
    (Shell.run key events).shown = (UnsentMap.run key events).shown ∧
      (Shell.run key events).state.unsentText (Shell.run key events).field =
        (UnsentMap.run key events).unsent (UnsentMap.run key events).shown ∧
      (∀ other, other ≠ (UnsentMap.run key events).shown →
        ((Shell.run key events).state.drafts other).getD "" =
          (UnsentMap.run key events).unsent other) ∧
      ∀ event other, Written (UnsentMap.run key events) other event
        ((UnsentMap.run key (events ++ [event])).unsent other) := by
  have agrees := Agrees.run key events
  refine ⟨agrees.shown, agrees.unsentText, agrees.drafts, ?_⟩
  intro event other
  have next : UnsentMap.run key (events ++ [event]) = (UnsentMap.run key events).step event := by
    rw [UnsentMap.run, List.foldl_append]
    rfl
  rw [next]
  exact UnsentMap.step_written _ event other

/-- A line that is recalled and sent takes the draft with it that was typed before, and the link
that arrived for it; and a link for the draft in the field is inserted at the caret. -/
theorem draft_lost_to_recalled_line :
    let before := Shell.run (.status "net")
      [.sent "old", .typed "hello", .recalled (-1), .linked (.status "net") 0 "http://a.b"]
    before.state.unsentText before.field = "hello http://a.b" ∧
      (before.step (.sent before.field)).state.unsentText (before.step (.sent before.field)).field =
        "" ∧
      (Shell.run (.status "net")
        [.typed "hello world", .linked (.status "net") 5 "http://a.b"]).field =
          "hello http://a.b world" := by
  decide

end Omairc.Model

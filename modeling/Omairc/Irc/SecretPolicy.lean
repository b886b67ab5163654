import Omairc.Irc.Source

/-!
# Redaction of secrets

A wire line that would reveal a password, a channel key or a service credential is shown
masked. The verb of a line decides where its secret stands: behind some parameters, in the
arguments of a mode string, or in the body of a request to a service.
-/

namespace Omairc.Irc

open Omairc.Text

/-- How a verb's secret is laid out in its parameters. -/
inductive SecretShape
  | tailAfterParameters
  | keyedModeTail
  | serviceRequestBody
  deriving DecidableEq

/-- One verb that carries a secret. -/
structure SecretRule where
  verb : String
  shape : SecretShape
  visibleParameters : Nat
  deriving DecidableEq

/-- The verbs that carry a secret. -/
def secretMap : List SecretRule :=
  [{ verb := "PASS", shape := .tailAfterParameters, visibleParameters := 0 },
    { verb := "AUTHENTICATE", shape := .tailAfterParameters, visibleParameters := 0 },
    { verb := "OPER", shape := .tailAfterParameters, visibleParameters := 1 },
    { verb := "JOIN", shape := .tailAfterParameters, visibleParameters := 1 },
    { verb := "MODE", shape := .keyedModeTail, visibleParameters := 2 },
    { verb := "324", shape := .keyedModeTail, visibleParameters := 3 },
    { verb := "PRIVMSG", shape := .serviceRequestBody, visibleParameters := 1 },
    { verb := "NOTICE", shape := .serviceRequestBody, visibleParameters := 1 }]

/-- The commands of a service that carry a password. -/
def servicePasswordCommands : List String :=
  ["IDENTIFY", "REGISTER", "GHOST", "RECOVER", "RELEASE", "REGAIN", "SETPASS"]

/-- The rule of a verb. -/
def secretRuleFor (verb : String) : Option SecretRule :=
  secretMap.find? fun rule => rule.verb = verb

/-- A parsed line: its verb in capitals, and its parameters. -/
structure WireCommand where
  verb : String
  parameters : List String
  deriving DecidableEq

/-- The characters between the fields of a line. -/
def isFieldSpace (char : Char) : Bool := char == ' ' || char == '\t'

def skipFieldSpaces (text : List Char) : List Char := text.dropWhile isFieldSpace

def fieldBreak (text : List Char) : Option Nat := text.findIdx? isFieldSpace

/-- Drop one leading word and the spaces behind it. Nothing, when nothing follows. -/
def dropLeadingWord (text : List Char) : Option (List Char) :=
  match fieldBreak text with
  | none => none
  | some space =>
      let rest := skipFieldSpaces (text.drop (space + 1))
      if rest.isEmpty then none else some rest

/-- The parameters of a line, the trailing one kept whole. -/
def parametersOf (rest : List Char) : List String :=
  match rest with
  | [] => []
  | first :: others =>
      if first = ':' then [String.ofList others]
      else
        match fieldBreak (first :: others) with
        | some stop =>
            String.ofList ((first :: others).take stop) ::
              parametersOf (skipFieldSpaces ((first :: others).drop (stop + 1)))
        | none => [String.ofList (first :: others)]
termination_by rest.length
decreasing_by
  have shorter := (List.dropWhile_suffix (l := (first :: others).drop (stop + 1))
    isFieldSpace).length_le
  rw [List.length_drop] at shorter
  show (List.dropWhile isFieldSpace _).length < (first :: others).length
  rw [List.length_cons] at shorter ⊢
  omega

/-- What stands in front of the verb is dropped: spaces, the tags, and the source. -/
def fromVerb (line : List Char) : Option (List Char) :=
  let rest := skipFieldSpaces line
  if rest.isEmpty then none
  else do
    let rest ← if rest.head? = some '@' then dropLeadingWord rest else some rest
    if rest.head? = some ':' then dropLeadingWord rest else some rest

section Policy

variable [Platform]

/-- Upper casing, one character at a time. A character whose capital is more than one character
stays. -/
def simpleUpper (text : String) : String :=
  String.ofList (text.toList.map fun mark =>
    match (Platform.toUppercase (String.singleton mark)).toList with
    | [single] => single
    | _ => mark)

/-- Read a line: its verb in capitals, and its parameters. -/
def tokenize (line : String) : Option WireCommand :=
  match fromVerb line.toList with
  | none => none
  | some rest =>
      let (verbText, rest) :=
        match fieldBreak rest with
        | some stop => (rest.take stop, skipFieldSpaces (rest.drop (stop + 1)))
        | none => (rest, [])
      let verb := simpleUpper (String.ofList verbText)
      if verb = "" then none else some { verb, parameters := parametersOf rest }

/-- The letters and digits of a token, in capitals. -/
def alnumOnlyUpper (token : String) : List Char :=
  (token.toList.filter Char.isAlphanum).map Char.toUpper

/-- One row of the distance table, from the row before it. -/
def distanceRow (letter : Char) : List Char → List Nat → Nat → List Nat
  | other :: rest, diagonal :: above :: previous, left =>
      let cost := if letter ≠ other then 1 else 0
      let cell := min (min (left + 1) (above + 1)) (diagonal + cost)
      cell :: distanceRow letter rest (above :: previous) cell
  | _, _, _ => []

/-- The number of edits between two words. -/
def letterDistance (left right : List Char) : Nat :=
  if left.isEmpty then right.length
  else if right.isEmpty then left.length
  else
    let last := left.zipIdx.foldl
      (fun previous (letter, row) => (row + 1) :: distanceRow letter right previous (row + 1))
      (List.range (right.length + 1))
    last.getLast?.getD 0

/-- The one candidate within an edit of a word, when there is no second one as near. -/
def nearestWithin (word : List Char) (candidates : List String) : Option String :=
  let (best, distance) := candidates.foldl
    (fun (best, bestDistance) candidate =>
      let distance := letterDistance word candidate.toList
      if distance < bestDistance then (some candidate, distance)
      else if distance = bestDistance then (none, bestDistance)
      else (best, bestDistance))
    (none, 2)
  if distance ≤ 1 then best else none

/-- The one password command within an edit of a word of four letters or more. -/
def nearestServicePassword (word : String) : Option String :=
  let alnum := alnumOnlyUpper word
  if alnum.length < 4 then none else nearestWithin alnum servicePasswordCommands

end Policy

/-- A trailing parameter needs its mark when it is empty, starts with the mark, or has a space. -/
def trailingSeparator (trailing : String) : String :=
  if trailing = "" || trailing.toList.head? = some ':' || trailing.toList.contains ' ' then " :"
  else " "

/-- The line of a command. -/
def formatLine (command : WireCommand) : String :=
  match command.parameters.getLast? with
  | none => command.verb
  | some trailing =>
      let head := command.parameters.dropLast
      command.verb ++ (if head.isEmpty then "" else " " ++ joinTexts " " head) ++
        trailingSeparator trailing ++ trailing

/-- What stands for a secret. -/
def secretStars : String := "***"

/-- Mask everything after the visible parameters. -/
def maskTailAfterParameters (command : WireCommand) (visible : Nat) : Option WireCommand :=
  if command.parameters.length ≤ visible then none
  else some { command with parameters := command.parameters.take visible ++ [secretStars] }

/-- Whether a mode letter takes a parameter. -/
def modeLetterConsumesParameter (letter : UInt8) (adding : Bool) : Bool :=
  [107, 111, 118, 98].contains letter || (letter == 108 && adding)

/-- The mode letters of the protocol itself. -/
def isRfcDefaultModeLetter (letter : UInt8) (adding : Bool) : Bool :=
  modeLetterConsumesParameter letter adding || [105, 109, 110, 112, 115, 116].contains letter

/-- What a first walk over a mode string finds. -/
structure ModeScan where
  adding : Bool := true
  hasKey : Bool := false
  ambiguous : Bool := false

def ModeScan.step (scan : ModeScan) (letter : UInt8) : ModeScan :=
  if letter = 43 then { scan with adding := true }
  else if letter = 45 then { scan with adding := false }
  else if letter = 107 then { scan with hasKey := true }
  else if !isRfcDefaultModeLetter letter scan.adding then { scan with ambiguous := true }
  else scan

/-- A second walk over a mode string, which masks the arguments of the keys. -/
structure KeyWalk where
  parameters : List String
  argument : Nat
  adding : Bool := true
  maskedKey : Bool := false
  stopped : Bool := false

def KeyWalk.step (walk : KeyWalk) (letter : UInt8) : KeyWalk :=
  if walk.stopped then walk
  else if letter = 43 then { walk with adding := true }
  else if letter = 45 then { walk with adding := false }
  else if !modeLetterConsumesParameter letter walk.adding then walk
  else if walk.parameters.length ≤ walk.argument then { walk with stopped := true }
  else if letter = 107 then
    { walk with
      parameters := walk.parameters.set walk.argument secretStars
      maskedKey := true
      argument := walk.argument + 1 }
  else { walk with argument := walk.argument + 1 }

/-- Mask the keys of a mode string. Everything behind it is masked when an unknown letter may take
a parameter of its own. -/
def maskKeyedModeTail (command : WireCommand) (visible : Nat) : Option WireCommand :=
  if visible < 2 || command.parameters.length ≤ visible then none
  else
    let modes := utf8 (command.parameters.getD (visible - 1) "")
    let scan := modes.foldl ModeScan.step {}
    if !scan.hasKey then none
    else if scan.ambiguous then maskTailAfterParameters command visible
    else
      let walk := modes.foldl KeyWalk.step { parameters := command.parameters, argument := visible }
      if !walk.maskedKey then none else some { command with parameters := walk.parameters }

/-- Whether one of the targets is a person. -/
def hasPrivateRecipient (targets channelTypes : String) : Bool :=
  (splitText ',' targets).any fun piece => !looksLikeChannel piece channelTypes

/-- A text without one mark at its start. -/
def stripMark (text : List Char) : List Char :=
  match text with
  | mark :: rest => if mark = ctcpDelimiter then rest else mark :: rest
  | [] => []

/-- The words of the body of a request. -/
def serviceBodyTokens (body : String) : List String :=
  let normalized := (trim body).toList
  let normalized := stripMark normalized
  let normalized := (stripMark normalized.reverse).reverse
  let normalized := (trim (String.ofList normalized)).toList
  ((normalized.splitOnP isFieldSpace).filter fun token => !token.isEmpty).map String.ofList

section Policy

variable [Platform]

/-- The password command that a body opens with. -/
def matchedServiceCommand (tokens : List String) : Option String :=
  match tokens with
  | opening :: second :: rest =>
      let first := simpleUpper opening
      match servicePasswordCommands.find? fun command => command = first with
      | some command => some command
      | none =>
          match nearestServicePassword first with
          | some near => some near
          | none =>
              if !rest.isEmpty && first = "SET" then
                let second := alnumOnlyUpper second
                if second = "PASSWORD".toList || letterDistance second "PASSWORD".toList = 1 then
                  some "SET PASSWORD"
                else none
              else none
  | _ => none

/-- Mask the body of a request to a service. -/
def maskServiceRequestBody (command : WireCommand) (channelTypes : String) : Option WireCommand :=
  match command.parameters with
  | target :: first :: others =>
      if !hasPrivateRecipient target channelTypes then none
      else
        match matchedServiceCommand (serviceBodyTokens (joinTexts " " (first :: others))) with
        | none => none
        | some word =>
            some { command with parameters := [target, word ++ " " ++ secretStars] }
  | _ => none

/-- Mask a command. -/
def secretMask (command : WireCommand) (channelTypes : String) : Option WireCommand :=
  match secretRuleFor command.verb with
  | none => none
  | some rule =>
      match rule.shape with
      | .tailAfterParameters => maskTailAfterParameters command rule.visibleParameters
      | .keyedModeTail => maskKeyedModeTail command rule.visibleParameters
      | .serviceRequestBody => maskServiceRequestBody command channelTypes

/-- Mask a wire line that carries a secret. Nothing, when the line is shown as it is. -/
def redactWireLine (line channelTypes : String) : Option String :=
  match tokenize line with
  | none => none
  | some parsed => (secretMask parsed channelTypes).map formatLine

/-- Mask a message that was read. -/
def redactMessage (command : String) (parameters : List String) (channelTypes : String) :
    Option WireCommand :=
  let verb := simpleUpper command
  match secretRuleFor verb with
  | none => none
  | some rule =>
      let spared :=
        if rule.shape = .serviceRequestBody then
          parameters.length < 2 || !hasPrivateRecipient (parameters.headD "") channelTypes
        else verb = "JOIN" || parameters.length ≤ rule.visibleParameters
      if spared then none else secretMask { verb, parameters } channelTypes

/-- Whether a text may be kept in a transcript. -/
def allowsTranscript (text channelTypes : String) : Bool :=
  text = "" ||
    ((redactWireLine text channelTypes).isNone &&
      (redactMessage "PRIVMSG" ["NickServ", text] channelTypes).isNone)

end Policy

end Omairc.Irc

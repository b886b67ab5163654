import Omairc.Irc.Message
import Omairc.Text.Position

/-!
# Reading and writing one line

`parse` turns a line, without its CRLF, into an `IrcMessage`; `serialize` writes
the source from `msgPrefix.raw` and checks every field against the grammar that
`parse` reads.
-/

namespace Omairc.Irc

open Omairc.Text

/-- CR, LF and NUL, which no line may hold. -/
def isForbidden (byte : UInt8) : Bool := byte == 13 || byte == 10 || byte == 0

/-- Whether CR, LF or NUL occurs. -/
def containsForbidden (bytes : Bytes) : Bool := bytes.any isForbidden

@[simp] theorem containsForbidden_append (front back : Bytes) :
    containsForbidden (front ++ back) = (containsForbidden front || containsForbidden back) := by
  simp [containsForbidden]

@[simp] theorem containsForbidden_cons (byte : UInt8) (rest : Bytes) :
    containsForbidden (byte :: rest) = (isForbidden byte || containsForbidden rest) := by
  simp [containsForbidden]

@[simp] theorem containsForbidden_nil : containsForbidden [] = false := rfl

/-- Any part of a line that is free of forbidden bytes is free of them. -/
theorem containsForbidden_subset {part whole : Bytes} (clean : containsForbidden whole = false)
    (inside : part ⊆ whole) : containsForbidden part = false := by
  rw [containsForbidden, List.any_eq_false] at clean ⊢
  exact fun byte present => clean byte (inside present)

/-- A command is three digits or one or more letters. -/
def isValidCommand (command : Bytes) : Bool :=
  if command.length = 3 && command.all isAsciiDigit then true
  else !command.isEmpty && command.all isAsciiAlphabetic

/-- Drop leading spaces. -/
def skipSpaces (line : Bytes) : Bytes := line.dropWhile (· == 32)

/-- The byte an escaped byte stands for in a tag value. -/
def unescapedByte (escaped : UInt8) : UInt8 :=
  if escaped = 58 then 59
  else if escaped = 115 then 32
  else if escaped = 92 then 92
  else if escaped = 114 then 13
  else if escaped = 110 then 10
  else escaped

/-- Undo tag escaping. A lone backslash at the end is dropped. -/
def unescapeTagValue : Bytes → Bytes
  | [] => []
  | [byte] => if byte ≠ 92 then [byte] else []
  | byte :: escaped :: rest =>
      if byte ≠ 92 then byte :: unescapeTagValue (escaped :: rest)
      else unescapedByte escaped :: unescapeTagValue rest

/-- The escaped form of one byte of a tag value. -/
def escapedByte (byte : UInt8) : Bytes :=
  if byte = 59 then [92, 58]
  else if byte = 32 then [92, 115]
  else if byte = 92 then [92, 92]
  else if byte = 13 then [92, 114]
  else if byte = 10 then [92, 110]
  else [byte]

/-- Apply tag escaping. -/
def escapeTagValue (value : Bytes) : Bytes := value.flatMap escapedByte

/-- The bytes a tag key may hold. -/
def isTagKeyByte (byte : UInt8) : Bool := isAsciiAlphanumeric byte || byte == 45

/-- The bytes a tag vendor may hold. -/
def isTagVendorByte (byte : UInt8) : Bool := isTagKeyByte byte || byte == 46

/-- A tag name after its optional `+`: an optional vendor before a slash, and a key. -/
def isValidBareTagName (name : Bytes) : Bool :=
  match splitOnce 47 name with
  | some (vendor, key) =>
      !key.isEmpty && !key.contains 47 && key.all isTagKeyByte &&
        !vendor.isEmpty && vendor.all isTagVendorByte
  | none => !name.isEmpty && name.all isTagKeyByte

/-- A tag name, with its optional leading `+`. -/
def isValidTagName (name : Bytes) : Bool :=
  isValidBareTagName (if name.head? = some 43 then name.tail else name)

/-- Read one tag. `none` when its name is invalid. -/
def parseTag (tag : Bytes) : Option IrcTag :=
  let (name, value) :=
    match splitOnce 61 tag with
    | some (name, value) => (name, some (unescapeTagValue value))
    | none => (tag, none)
  if isValidTagName name then (fromUtf8? name).map fun name => ⟨name, value⟩ else none

/-- Read a tag section split on `;`. `none` when any tag name is invalid. -/
def parseTags (tagSection : Bytes) : Option (List IrcTag) :=
  (tagSection.splitOn 59).mapM parseTag

/-- The nick and the user of a source, from the part before its host. A bare name
counts as a nick only when a host follows it. -/
def parseNickPart (nickPart : Bytes) (hasHost : Bool) : Option (Bytes × Bytes) :=
  match splitOnce 33 nickPart with
  | some (nick, user) =>
      if nick.isEmpty || user.isEmpty || user.contains 33 then none else some (nick, user)
  | none => some (if hasHost then nickPart else [], [])

/-- Read a source. -/
def parsePrefix (raw : Bytes) : Option IrcPrefix :=
  if raw.isEmpty || containsForbidden raw then none
  else
    match splitOnce 64 raw with
    | some (nickPart, host) =>
        if nickPart.isEmpty || host.isEmpty || host.contains 64 then none
        else (parseNickPart nickPart true).map fun (nick, user) => ⟨raw, nick, user, host⟩
    | none => (parseNickPart raw false).map fun (nick, user) => ⟨raw, nick, user, []⟩

/-- Read parameters while `slots` more may be cut off before the last one, which
swallows the rest of the line. -/
def parseParametersFrom : Nat → Bytes → List Bytes
  | slots, input =>
      match skipSpaces input with
      | [] => []
      | head :: tail =>
          match slots with
          | 0 => if head = 58 then [tail] else [head :: tail]
          | slots + 1 =>
              if head = 58 then [tail]
              else
                match splitOnce 32 (head :: tail) with
                | none => [head :: tail]
                | some (parameter, rest) => parameter :: parseParametersFrom slots rest

/-- Read the parameters that follow a command. -/
def parseParameters (input : Bytes) : List Bytes := parseParametersFrom (maxParameters - 1) input

/-- Read the tag section at the start of a line, and give the rest of the line. -/
def parseTagSection (line : Bytes) : Except IrcError (List IrcTag × Bytes) :=
  if line.head? = some 64 then
    match splitOnce 32 line with
    | none => .error .invalidTags
    | some (front, rest) =>
        if front.length = 1 || decide (maxTagSectionBytes < front.length - 1) then
          .error .invalidTags
        else
          match parseTags front.tail with
          | none => .error .invalidTags
          | some tags => .ok (tags, skipSpaces rest)
  else .ok ([], line)

/-- Read the source at the start of the rest of a line. -/
def parseSource (line : Bytes) : Except IrcError (Option IrcPrefix × Bytes) :=
  if line.head? = some 58 then
    match splitOnce 32 line with
    | none => .error .invalidPrefix
    | some (front, rest) =>
        if front.length = 1 then .error .invalidPrefix
        else
          match parsePrefix front.tail with
          | none => .error .invalidPrefix
          | some source => .ok (some source, skipSpaces rest)
  else .ok (none, line)

/-- Read the command and the parameters. -/
def parseCommand (line : Bytes) : Except IrcError (String × List Bytes) :=
  if line.isEmpty then .error .invalidCommand
  else
    let (command, params) :=
      match splitOnce 32 line with
      | some (command, rest) => (command, parseParameters rest)
      | none => (line, [])
    if !isValidCommand command then .error .invalidCommand
    else
      match fromUtf8? (command.map toAsciiUppercase) with
      | none => .error .invalidCommand
      | some command => .ok (command, params)

/-- Parse one line, without its CRLF. -/
def parse (line : Bytes) : Except IrcError IrcMessage :=
  if line.isEmpty then .error .emptyInput
  else if containsForbidden line then .error .invalidCharacter
  else do
    let (tags, afterTags) ← parseTagSection line
    let (source, afterSource) ← parseSource afterTags
    let (command, params) ← parseCommand afterSource
    .ok ⟨tags, source, command, params⟩

/-- The written form of one tag. -/
def serializeTag (tag : IrcTag) : Bytes :=
  utf8 tag.name ++
    match tag.value with
    | some value => 61 :: escapeTagValue value
    | none => []

/-- The written form of the tags, with the `@` and the space around their section. -/
def serializeTags (tags : List IrcTag) : Except IrcError Bytes :=
  if tags.isEmpty then .ok []
  else if tags.any fun tag => !isValidTagName (utf8 tag.name) then .error .invalidTags
  else
    let tagSection := [59].intercalate (tags.map serializeTag)
    if maxTagSectionBytes < tagSection.length then .error .invalidTags
    else .ok (64 :: tagSection ++ [32])

/-- The written form of the source. A space would end it early on re-reading. -/
def serializeSource : Option IrcPrefix → Except IrcError Bytes
  | none => .ok []
  | some source =>
      if source.raw.contains 32 || (parsePrefix source.raw).isNone then .error .invalidPrefix
      else .ok (58 :: source.raw ++ [32])

/-- Whether a parameter can only be written after a colon. -/
def needsColon (param : Bytes) : Bool :=
  param.isEmpty || param.head? == some 58 || param.contains 32

/-- The written form of the parameters. Only the last may need a colon. -/
def serializeParams : List Bytes → Except IrcError Bytes
  | [] => .ok []
  | [last] => .ok (if needsColon last then 32 :: 58 :: last else 32 :: last)
  | param :: next :: params =>
      if needsColon param then .error .invalidField
      else do
        let rest ← serializeParams (next :: params)
        .ok (32 :: param ++ rest)

/-- Write the line of a message, without its CRLF. -/
def serialize (message : IrcMessage) : Except IrcError Bytes :=
  if maxParameters < message.params.length then .error .invalidField
  else do
    let tags ← serializeTags message.tags
    let source ← serializeSource message.msgPrefix
    if !isValidCommand (utf8 message.command) then .error .invalidCommand
    else do
      let params ← serializeParams message.params
      let line := tags ++ source ++ utf8 message.command ++ params
      if containsForbidden line then .error .invalidCharacter else .ok line

end Omairc.Irc

import Omairc.Platform
import Omairc.Storage.IniValues

/-!
# A settings file

A store of values under key paths. A group is a path of segments with slashes between them, and
in the file the first segment is the section of a key. A file that is malformed or that cannot be
read is never written.
-/

namespace Omairc.Ini

open Omairc.Text

/-- A store of values under their full key paths. `onDisk` is the encoding that the file is known
to hold. -/
structure Settings where
  values : StringMap IniValue := ∅
  dirty : Bool := false
  onDisk : Option Bytes := none

/-- The full path of a key in a group. -/
def settingsKey (group key : String) : String :=
  if group = "" then key else group ++ "/" ++ key

namespace Settings

/-! ## Queries -/

/-- The text under a key. -/
def text (settings : Settings) (group key : String) : Option String :=
  match settings.values[settingsKey group key]? with
  | some (.text text) => some text
  | some (.variant text) => some text
  | _ => none

/-- The text under a key, empty when there is none. -/
def value (settings : Settings) (group key : String) : String :=
  (settings.text group key).getD ""

/-- Whether a key is present. -/
def contains (settings : Settings) (group key : String) : Bool :=
  settings.values.contains (settingsKey group key)

/-- A boolean in any case, or the fallback. -/
def boolValue [Platform] (settings : Settings) (group key : String) (fallback : Bool) : Bool :=
  match (settings.text group key).map Platform.toLowercase with
  | some "true" => true
  | some "1" => true
  | some "false" => false
  | some "0" => false
  | _ => fallback

/-- An unsigned 64-bit number, or the fallback. -/
def uintValue (settings : Settings) (group key : String) (fallback : Nat) : Nat :=
  ((settings.text group key).bind fun text => parseUnsigned (2 ^ 64) (trim text)).getD fallback

/-- A signed 64-bit number, or the fallback. -/
def intValue (settings : Settings) (group key : String) (fallback : Int) : Int :=
  ((settings.text group key).bind fun text => parseInt64 (trim text)).getD fallback

/-- The list under a key. An empty text is an empty list, and any other text a list of one. -/
def stringList (settings : Settings) (group key : String) : Option (List String) :=
  match settings.values[settingsKey group key]? with
  | none => none
  | some (.list items) => some items
  | some .invalid => some []
  | some (.text text) => some (if text = "" then [] else [text])
  | some (.variant text) => some (if text = "" then [] else [text])

/-- The groups right under a group, in order. -/
def childGroups (settings : Settings) (group : String) : List String :=
  let lead := if group = "" then "" else group ++ "/"
  let seen : StringSet := settings.values.keys.foldl (fun seen path =>
    match (stripLead lead path).bind (splitTextOnce '/') with
    | some (segment, _) => seen.insert segment
    | none => seen) ∅
  seen.toList

/-! ## Setters -/

/-- Store a value under a key. -/
def store (settings : Settings) (group key : String) (value : IniValue) : Settings :=
  { settings with values := settings.values.insert (settingsKey group key) value, dirty := true }

def setValue (settings : Settings) (group key value : String) : Settings :=
  settings.store group key (.text value)

/-- Store an encoded value that is no string. -/
def setVariant (settings : Settings) (group key encoded : String) : Settings :=
  settings.store group key (.variant encoded)

def setBool (settings : Settings) (group key : String) (value : Bool) : Settings :=
  settings.setValue group key (if value then "true" else "false")

def setUint (settings : Settings) (group key : String) (value : Nat) : Settings :=
  settings.setValue group key (toString value)

def setInt (settings : Settings) (group key : String) (value : Int) : Settings :=
  settings.setValue group key (toString value)

def setStringList (settings : Settings) (group key : String) (values : List String) : Settings :=
  settings.store group key (.list values)

def removeKey (settings : Settings) (group key : String) : Settings :=
  if settings.values.contains (settingsKey group key) then
    { settings with values := settings.values.erase (settingsKey group key), dirty := true }
  else settings

/-- Remove a group and everything under it. The empty group is the whole store. -/
def removeGroup (settings : Settings) (group : String) : Settings :=
  let values : StringMap IniValue :=
    if group = "" then ∅
    else
      settings.values.filter fun path _ =>
        path != group && (stripLead (group ++ "/") path).isNone
  { settings with values, dirty := settings.dirty || values.size != settings.values.size }

end Settings

/-! ## The file -/

/-- The section of a path and the key in it. The section is the first segment. -/
def splitSection (path : String) : String × String :=
  (splitTextOnce '/' path).getD ("", path)

/-- Whether two byte strings are equal in any case. -/
def sameInAnyCase (left right : Bytes) : Bool :=
  left.map toAsciiLowercase == right.map toAsciiLowercase

/-- The header of a section. The top level is `[General]`, and a group of that name is
`[%General]`. -/
def sectionHeader (group : String) : String :=
  let escaped := iniEscapedKey group
  if escaped = "" then "[General]"
  else if sameInAnyCase (utf8 escaped) (utf8 "general") then "[%General]"
  else "[" ++ escaped ++ "]"

/-- The entries of each section, in the order of their paths. -/
def sections (values : StringMap IniValue) : StringMap (List (String × IniValue)) :=
  values.toList.foldl (fun sections entry =>
    let (group, key) := splitSection entry.1
    sections.insert group ((sections[group]?).getD [] ++ [(key, entry.2)])) ∅

/-- One line of a section. -/
def encodeEntry (entry : String × IniValue) : String :=
  iniEscapedKey entry.1 ++ "=" ++ encodeValue entry.2 ++ "\n"

/-- A section, its keys in order. -/
def encodeSection (group : String) (entries : List (String × IniValue)) : String :=
  let sorted := entries.mergeSort fun left right => (compare left.1 right.1).isLE
  sectionHeader group ++ "\n" ++ String.join (sorted.map encodeEntry)

/-- The bytes of a store, its sections in order. -/
def Settings.encode (settings : Settings) : Bytes :=
  utf8 (joinTexts "\n"
    ((sections settings.values).toList.map fun entry => encodeSection entry.1 entry.2))

/-- ASCII white space. -/
def isAsciiWhitespace (byte : UInt8) : Bool :=
  byte == 32 || byte == 9 || byte == 10 || byte == 12 || byte == 13

/-- Bytes without the ASCII white space at their ends. -/
def trimAscii (bytes : Bytes) : Bytes :=
  (bytes.dropWhile isAsciiWhitespace).rdropWhile isAsciiWhitespace

/-- What a section header puts before the keys of its section: nothing for `[General]`, the name
as it stands for `[%General]`, and the decoded name otherwise. -/
def sectionPrefix (header : Bytes) : String :=
  let inner := trimAscii ((header.drop 1).takeWhile (· != 93))
  if sameInAnyCase inner (utf8 "general") then ""
  else if sameInAnyCase inner (utf8 "%general") then fromUtf8Lossy (inner.drop 1) ++ "/"
  else iniUnescapedKey inner ++ "/"

/-- One line, with the section it stands in. -/
def parseLine (parsed : String × StringMap IniValue) (line : IniLine) :
    String × StringMap IniValue :=
  if line.text.head? = some 91 then (sectionPrefix line.text, parsed.2)
  else
    match line.equals with
    | none => parsed
    | some equals =>
        let key := iniUnescapedKey (trimAscii (line.text.take equals))
        let value := iniUnescapedStringList (line.text.drop (equals + 1))
        (parsed.1, parsed.2.insert (parsed.1 ++ key) value)

/-- The values of a file under their full key paths. -/
def parseSettingsIni (data : Bytes) : StringMap IniValue :=
  ((iniLines (stripBom data)).foldl parseLine ("", ∅)).2

/-! ## The disk -/

/-- What stands at the path of a store. -/
inductive Disk
  | missing
  | file (content : Bytes) (writable : Bool)
  | unreadable
  deriving DecidableEq

/-- What a probe of the raw bytes found. -/
inductive IniProbe
  | ok
  | malformed
  | unreadable
  deriving DecidableEq

/-- The outcome of a write. -/
inductive Status
  | written
  | absent
  | accessError
  | formatError

/-- Probe the raw bytes. -/
def probeIni : Disk → IniProbe
  | .missing => .ok
  | .unreadable => .unreadable
  | .file content _ => if iniBytesAreMalformed content then .malformed else .ok

/-- Whether the path exists and takes no write. -/
def fileNotWritable : Disk → Bool
  | .missing => false
  | .unreadable => false
  | .file _ writable => !writable

namespace Settings

/-- Load what stands at the path. -/
def open_ (disk : Disk) : Settings :=
  match disk with
  | .file content _ =>
      let settings : Settings := { values := parseSettingsIni content }
      { settings with onDisk := some settings.encode }
  | _ => {}

/-- Whether a write would be refused. -/
def writeBlocked (disk : Disk) : Status :=
  match probeIni disk with
  | .malformed => .formatError
  | .unreadable => .accessError
  | .ok => if fileNotWritable disk then .accessError else .written

/-- Whether the encoding is what the path holds. -/
def encodedMatchesDisk (disk : Disk) (onDisk : Option Bytes) (encoded : Bytes) : Bool :=
  match onDisk with
  | some bytes => bytes == encoded
  | none => disk == .missing && encoded == []

/-- Write what changed. `lands` says whether the write of the file succeeds. -/
def sync (settings : Settings) (disk : Disk) (lands : Bool) : Settings × Disk × Status :=
  match writeBlocked disk with
  | .written =>
      if !settings.dirty then (settings, disk, .written)
      else
        let encoded := settings.encode
        if encodedMatchesDisk disk settings.onDisk encoded then
          ({ settings with dirty := false }, disk, .written)
        else if lands then
          ({ settings with dirty := false, onDisk := some encoded }, .file encoded true, .written)
        else (settings, disk, .accessError)
  | blocked => (settings, disk, blocked)

end Settings

end Omairc.Ini

import Mathlib.Data.Set.Basic
import Omairc.Session.Sts
import Omairc.Text.Maps

/-!
# The policy caches

The cache that keeps its policies in memory, and the cache in the `sts` file with a layer in
memory for the policies whose write failed. A file is what its bytes decode to, and every
call of the file system may fail.
-/

namespace Omairc.Storage

open Omairc.Session Omairc.Text

/-- Add two 64-bit numbers. The sum stays within 64 bits. -/
def saturatingAdd (left right : Int) : Int :=
  max (-(2 ^ 63)) (min (2 ^ 63 - 1) (left + right))

/-- The whole seconds of a time since the epoch. -/
def timestamp (now : Instant) : Int := now / 10 ^ 9

/-- Two lowercase hex digits. -/
def hexByte (byte : UInt8) : List Char :=
  [Nat.digitChar (byte.toNat / 16), Nat.digitChar (byte.toNat % 16)]

/-- The group of a host: the digest of its trimmed, lowercased form in hex. -/
def stsGroupKey [Platform] (host : String) : Option String :=
  let folded := Platform.toLowercase (trim host)
  if folded = "" then none
  else some (String.ofList ((Platform.sha256 (utf8 folded)).flatMap hexByte))

/-- Whether a name can be the group of a host: 64 lowercase hex digits. -/
def isStsGroupKey (key : String) : Bool :=
  byteLength key = 64 && key.toList.all fun character =>
    character.isDigit || ('a' ≤ character && character ≤ 'f')

/-- Policies by the group of their host. -/
abbrev Policies := StringMap StsCached

/-- The policy that a store call caches. -/
def incomingPolicy (port : UInt16) (durationSeconds now : Int) : StsCached :=
  { port, durationSeconds, expiryEpochSeconds := saturatingAdd now durationSeconds }

namespace MemoryStsStore

variable [Platform]

/-- The cached policy of a host. An expired one is dropped. -/
def lookup (entries : Policies) (host : String) (now : Instant) : Policies × Option StsCached :=
  match stsGroupKey host with
  | none => (entries, none)
  | some key =>
      match entries[key]? with
      | none => (entries, none)
      | some cached =>
          if cached.expiryEpochSeconds ≤ timestamp now then (entries.erase key, none)
          else (entries, some cached)

/-- Drop the policy of a host. -/
def clear (entries : Policies) (host : String) : Policies :=
  match stsGroupKey host with
  | none => entries
  | some key => entries.erase key

/-- Cache a policy. A zero duration clears the host. -/
def store (entries : Policies) (host : String) (port : UInt16) (durationSeconds : Int)
    (now : Instant) : Policies :=
  if durationSeconds = 0 then clear entries host
  else
    match stsGroupKey host with
    | none => entries
    | some key =>
        if port = 0 then entries
        else entries.insert key (incomingPolicy port durationSeconds (timestamp now))

end MemoryStsStore

/-- The values of one group under their keys. -/
abbrev Group := String → Option String

/-- The groups of an open settings file. -/
abbrev Settings := StringMap Group

namespace Settings

/-- The value of a key. -/
def text (settings : Settings) (group key : String) : Option String :=
  settings[group]?.bind fun values => values key

/-- An unsigned value, or zero. -/
def uintValue (settings : Settings) (group key : String) : Nat :=
  ((settings.text group key).bind fun text => parseUnsigned (2 ^ 64) (trim text)).getD 0

/-- A signed value, or zero. -/
def intValue (settings : Settings) (group key : String) : Int :=
  ((settings.text group key).bind fun text => parseInt64 (trim text)).getD 0

/-- Set the value of a key. -/
def setValue (settings : Settings) (group key value : String) : Settings :=
  settings.insert group
    (Function.update ((settings[group]?).getD fun _ => none) key (some value))

end Settings

/-- Read a group as a policy: a port, and a duration and an expiry of at least one second. -/
def readPolicy (settings : Settings) (key : String) : Option StsCached :=
  let port := settings.uintValue key "port"
  let durationSeconds := settings.intValue key "duration"
  let expiryEpochSeconds := settings.intValue key "expiry"
  if port < 2 ^ 16 ∧ 1 ≤ port ∧ 1 ≤ durationSeconds ∧ 1 ≤ expiryEpochSeconds then
    some { port := UInt16.ofNat port, durationSeconds, expiryEpochSeconds }
  else none

/-- Write a policy as the one of its group. -/
def mergeStsPolicy (settings : Settings) (key : String) (incoming : StsCached) : Settings :=
  ((settings.setValue key "port" (toString incoming.port.toNat)).setValue key "duration"
    (toString incoming.durationSeconds)).setValue key "expiry" (toString incoming.expiryEpochSeconds)

/-- The file: missing, malformed with what can be read of it, or well-formed. -/
inductive StsFile
  | missing
  | malformed (settings : Settings)
  | wellFormed (settings : Settings)

/-- What a read of the file yields. -/
def StsFile.settings : StsFile → Settings
  | .missing => ∅
  | .malformed settings | .wellFormed settings => settings

/-- Whether a write of the file recovers it. -/
def StsFile.recovers : StsFile → Bool
  | .malformed _ => true
  | _ => false

/-- The file after a write. Nothing is written where there is nothing to write. -/
def StsFile.written (file : StsFile) (settings : Settings) : StsFile :=
  match file with
  | .missing => if settings.isEmpty then .missing else .wellFormed settings
  | _ => .wellFormed settings

/-- What the file held for a host when it was read. -/
inductive FileView
  | unreadable
  | unknown
  | clear
  | policy (cached : StsCached)
  deriving DecidableEq

/-- What a view says about the host, if it says anything. -/
def FileView.known : FileView → Option (Option StsCached)
  | .unreadable | .unknown => none
  | .clear => some none
  | .policy cached => some (some cached)

/-- The policy of a view. -/
def FileView.held (view : FileView) : Option StsCached := view.known.join

/-- How the file system answers during one call: whether the file loads, whether the probes
that follow can read it, and whether a write lands. -/
structure Access where
  loads : Bool := true
  probes : Bool := true
  writes : Bool := true

/-- The file as it holds a host, given what was loaded of it. -/
def fileView (access : Access) (file : StsFile) (settings : Settings) (key : String) : FileView :=
  if access.probes = false then .unreadable
  else
    match readPolicy settings key, file with
    | some policy, _ => .policy policy
    | none, .wellFormed _ => if settings.contains key then .unknown else .clear
    | none, _ => .unknown

/-- Whether the file moved from one view to another. Another live policy moves it, and so
does a clear of a live one. -/
def fileMoved (recorded now : FileView) (nowUnix : Int) : Bool :=
  match recorded.known, now.known with
  | some before, some after =>
      let identity (policy : Option StsCached) :=
        policy.map fun cached => (cached.port, cached.durationSeconds)
      if identity before = identity after then false
      else
        match after with
        | some cached => decide (nowUnix < cached.expiryEpochSeconds)
        | none => before.any fun cached => decide (nowUnix < cached.expiryEpochSeconds)
  | _, _ => false

/-- The policy of a host in memory. The view is there when its write has not landed. -/
structure Remembered where
  cached : StsCached
  unsaved : Option FileView

/-- The cache in the file, with its layer in memory. -/
structure IniStsStore where
  file : StsFile := .missing
  memory : StringMap Remembered := ∅

/-- Drop every group that is not a policy. -/
def dropInvalidGroups (settings : Settings) : Settings :=
  settings.filter fun group _ => isStsGroupKey group && (readPolicy settings group).isSome

/-- Whether a policy in memory goes into a write: an unsaved one does, and a saved one only
in recovery, when the file has no live policy of the host. -/
def Remembered.lands (held : Remembered) (settings : Settings) (key : String) (nowUnix : Int)
    (recovery : Bool) : Bool :=
  decide (1 ≤ held.cached.port) && decide (nowUnix < held.cached.expiryEpochSeconds) &&
    (held.unsaved.isSome || (recovery &&
      !(readPolicy settings key).any fun disk => decide (nowUnix < disk.expiryEpochSeconds)))

/-- Merge the unexpired policies in memory into a write. -/
def mergeMemoryIntoSettings (settings : Settings) (memory : StringMap Remembered)
    (nowUnix : Int) (recovery : Bool) : Settings :=
  memory.toList.foldl (fun settings (key, held) =>
    if held.lands settings key nowUnix recovery then mergeStsPolicy settings key held.cached
    else settings) settings

/-- Mark every unexpired policy in memory as saved. -/
def settleWritten (memory : StringMap Remembered) (nowUnix : Int) : StringMap Remembered :=
  memory.map fun _ held =>
    if nowUnix < held.cached.expiryEpochSeconds then { held with unsaved := none } else held

namespace IniStsStore

/-- Write settings with the policies in memory merged in. A malformed file is rewritten, and
one that cannot be read or written is left alone. -/
def persistStsSettings (store : IniStsStore) (access : Access) (settings : Settings)
    (nowUnix : Int) : IniStsStore :=
  let valid := dropInvalidGroups settings
  if access.probes = false ∨ access.writes = false then store
  else
    { file :=
        store.file.written
          (mergeMemoryIntoSettings valid store.memory nowUnix store.file.recovers)
      memory := settleWritten store.memory nowUnix }

/-- Open the file for one call and settle every unsaved policy against the view it reads. -/
def opens (store : IniStsStore) (access : Access) (nowUnix : Int) : IniStsStore × Settings :=
  let settings := if access.loads then store.file.settings else ∅
  let settle (key : String) (held : Remembered) : Remembered :=
    match held.unsaved with
    | none => held
    | some recorded =>
        let view := fileView access store.file settings key
        if fileMoved recorded view nowUnix then { held with unsaved := none }
        else if view ≠ .unreadable then { held with unsaved := some view }
        else held
  ({ store with memory := store.memory.map settle }, settings)

/-- Remember a policy. -/
def remember (store : IniStsStore) (key : String) (held : Remembered) : IniStsStore :=
  { store with memory := store.memory.insert key held }

/-- Remove a group from memory and from the file. -/
def remove (store : IniStsStore) (access : Access) (key : String) (nowUnix : Int) : IniStsStore :=
  let (opened, settings) := { store with memory := store.memory.erase key }.opens access nowUnix
  if settings.contains key then
    opened.persistStsSettings access (settings.erase key) nowUnix
  else opened

variable [Platform]

/-- Drop the policy of a host. The clock is the one of the system. -/
def clear (store : IniStsStore) (access : Access) (host : String) (now : Instant) : IniStsStore :=
  match stsGroupKey host with
  | none => store
  | some key => store.remove access key (timestamp now)

/-- The cached policy of a host. An unsaved policy answers first, then a live one of the
file, and then memory. What is expired everywhere is removed. -/
def lookup (store : IniStsStore) (access : Access) (host : String) (now : Instant) :
    IniStsStore × Option StsCached :=
  match stsGroupKey host with
  | none => (store, none)
  | some key =>
      let nowUnix := timestamp now
      let live (cached : StsCached) : Bool := decide (nowUnix < cached.expiryEpochSeconds)
      let (opened, settings) := store.opens access nowUnix
      match opened.memory[key]?.filter fun held => held.unsaved.isSome && live held.cached with
      | some held => (opened, some held.cached)
      | none =>
          match (fileView access opened.file settings key).held.filter live with
          | some cached => (opened.remember key { cached, unsaved := none }, some cached)
          | none =>
              match opened.memory[key]?.filter fun held => live held.cached with
              | some held => (opened, some held.cached)
              | none =>
                  if (settings.text key "port").isSome ∧ (settings.text key "expiry").isSome then
                    (opened.remove access key nowUnix, none)
                  else (opened, none)

/-- Cache a policy. A zero duration clears the host. -/
def store (store : IniStsStore) (access : Access) (host : String) (port : UInt16)
    (durationSeconds : Int) (now : Instant) : IniStsStore :=
  if durationSeconds = 0 then store.clear access host now
  else
    match stsGroupKey host with
    | none => store
    | some key =>
        if port = 0 then store
        else
          let nowUnix := timestamp now
          let incoming := incomingPolicy port durationSeconds nowUnix
          let (opened, settings) := store.opens access nowUnix
          let view := fileView access opened.file settings key
          (opened.remember key { cached := incoming, unsaved := some view }).persistStsSettings
            access (mergeStsPolicy settings key incoming) nowUnix

/-- What the next process finds: the file, and nothing in memory. -/
def reload (store : IniStsStore) : IniStsStore := { store with memory := ∅ }

end IniStsStore

end Omairc.Storage

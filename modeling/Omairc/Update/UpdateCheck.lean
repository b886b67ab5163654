import Omairc.Platform

/-!
# The update check

The state behind the About sheet and the footer: a check for the latest release, the
download of its setup, and the start of the installer. Each background job holds a ticket,
and a ticket of an earlier generation is ignored. The network, the installer file and the
installer process are inputs here.
-/

namespace Omairc.Update

open Omairc.Text

/-- A place in the file system. -/
abbrev FilePath := String

/-! ## Versions -/

/-- The largest unsigned 64-bit number. -/
def maxUnsigned64 : Nat := 2 ^ 64 - 1

/-- A version without its leading `v`. -/
def stripV (tag : String) : String :=
  match tag.toList with
  | 'v' :: rest | 'V' :: rest => String.ofList rest
  | _ => tag

/-- The numeric parts of a version, and the suffix behind them. The optional number is the part
that is being read. -/
def numericParts : List Char → Option Nat → List Nat → List Nat × List Char
  | [], none, parts => (parts, [])
  | [], some value, parts => (parts ++ [value], [])
  | character :: rest, none, parts =>
      if character.isDigit then numericParts rest (some (character.toNat - 48)) parts
      else (parts, character :: rest)
  | character :: rest, some value, parts =>
      if character.isDigit then
        let grown := min maxUnsigned64 (min maxUnsigned64 (value * 10) + (character.toNat - 48))
        numericParts rest (some grown) parts
      else if character = '.' then numericParts rest none (parts ++ [value])
      else (parts ++ [value], character :: rest)

/-- A version that was read. -/
structure Parsed where
  numeric : List Nat
  suffix : String

variable [Platform]

/-- Read a version. -/
def parseVersion (text : String) : Parsed :=
  let (numeric, rest) := numericParts (stripV (trim text)).toList none []
  let suffix := Platform.toLowercase (String.ofList rest)
  match suffix.toList with
  | '-' :: behind | '+' :: behind => ⟨numeric, String.ofList behind⟩
  | _ => ⟨numeric, suffix⟩

/-- How releases and their previews are ordered. -/
def suffixRank (suffix : String) : Nat :=
  if suffix = "" then 100
  else if (stripLead "alpha" suffix).isSome then 10
  else if (stripLead "beta" suffix).isSome then 20
  else if (stripLead "rc" suffix).isSome then 30
  else 0

/-- Order numeric parts by the first index where they differ. A missing part counts as zero. -/
def compareNumeric (left right : List Nat) : Ordering :=
  ((List.range (max left.length right.length)).map fun index =>
    compare (left[index]?.getD 0) (right[index]?.getD 0)).foldr Ordering.then .eq

/-- Order two versions: by their numeric parts, then by their suffixes. -/
def compareVersions (left right : String) : Ordering :=
  let first := parseVersion left
  let second := parseVersion right
  (compareNumeric first.numeric second.numeric).then
    ((compare (suffixRank first.suffix) (suffixRank second.suffix)).then
      (compare first.suffix second.suffix))

/-! ## State -/

/-- The setup asset of a release, with the digest and the size it declares. -/
structure WindowsSetup where
  url : String
  sha256 : String
  size : Nat
  deriving DecidableEq

/-- The latest release. -/
structure Release where
  version : String
  tag : String
  htmlUrl : String
  setup : Option WindowsSetup
  deriving DecidableEq

/-- What the status line and the footer read. -/
inductive UpdateStatus
  | idle
  | checking
  | upToDate
  | available
  | downloading (written total : Nat)
  | readyToRestart
  | downloadFailed
  | failed
  deriving DecidableEq

/-- What a click on the status line does. -/
inductive StatusAction
  | none
  | openPage (url : String)
  | download
  | restart

/-- What a call of `launchInstaller` did. -/
inductive LaunchOutcome
  | started
  | alreadyStarted
  | notReady
  | verificationFailed
  | spawnFailed
  deriving DecidableEq

/-- A check in flight. -/
structure CheckTicket where
  generation : Nat
  deriving DecidableEq

/-- A download in flight. -/
structure DownloadTicket where
  generation : Nat
  version : String
  setup : WindowsSetup
  deriving DecidableEq

/-- The update check of one run of the client. -/
structure UpdateCheck where
  current : String
  installedCopy : Bool
  status : UpdateStatus := .idle
  latest : Option Release := none
  installerPath : Option FilePath := none
  launchAttempts : Nat := 0
  launched : Bool := false
  launchProcess : Bool := true
  generation : Nat := 0

namespace UpdateCheck

/-- Whether a download is running. -/
def isDownloading (update : UpdateCheck) : Bool :=
  match update.status with
  | .downloading _ _ => true
  | _ => false

/-- Whether the footer offers a restart. -/
def restartReady (update : UpdateCheck) : Bool := update.status == .readyToRestart

/-- Whether the running copy may update itself from the latest release. -/
def installerUpdateAvailable (update : UpdateCheck) : Bool :=
  update.installedCopy && (update.latest.bind Release.setup).isSome

/-- What a click on the status line does. -/
def action (update : UpdateCheck) : StatusAction :=
  match update.status with
  | .available | .downloadFailed =>
      if update.installerUpdateAvailable then .download
      else
        match update.latest with
        | some release => .openPage release.htmlUrl
        | none => .none
  | .readyToRestart => .restart
  | _ => .none

/-- Start a check, unless a check or a download is running. It forgets the latest release
and the downloaded installer. -/
def beginCheck (update : UpdateCheck) : UpdateCheck × Option CheckTicket :=
  if update.status = .checking ∨ update.isDownloading then (update, none)
  else
    let generation := update.generation + 1
    ({ update with generation, latest := none, installerPath := none, status := .checking },
      some ⟨generation⟩)

/-- Whether a ticket is that of the running check. -/
def currentCheck (update : UpdateCheck) (ticket : CheckTicket) : Bool :=
  ticket.generation == update.generation && update.status == .checking

/-- Whether a ticket is that of the running download. -/
def currentDownload (update : UpdateCheck) (ticket : DownloadTicket) : Bool :=
  ticket.generation == update.generation && update.isDownloading

/-- Apply the reply of a check. -/
def finishCheck (update : UpdateCheck) (ticket : CheckTicket) (release : Option Release) :
    UpdateCheck × Bool :=
  if !update.currentCheck ticket then (update, false)
  else
    match release with
    | none => ({ update with latest := none, status := .failed }, true)
    | some release =>
        let status :=
          match compareVersions update.current release.version with
          | .lt => .available
          | .eq | .gt => .upToDate
        ({ update with status, latest := some release }, true)

/-- Cancel a running check. -/
def cancelCheck (update : UpdateCheck) : UpdateCheck :=
  if update.status ≠ .checking then update
  else { update with generation := update.generation + 1, status := .idle }

/-- Start the download of the setup. -/
def startDownload (update : UpdateCheck) : UpdateCheck × Option DownloadTicket :=
  if !update.installerUpdateAvailable then (update, none)
  else if ¬(update.status = .available ∨ update.status = .downloadFailed) then (update, none)
  else
    match update.latest with
    | none => (update, none)
    | some release =>
        match release.setup with
        | none => (update, none)
        | some setup =>
            let generation := update.generation + 1
            ({ update with generation, status := .downloading 0 setup.size },
              some ⟨generation, release.version, setup⟩)

/-- Record the bytes that have arrived. -/
def reportProgress (update : UpdateCheck) (ticket : DownloadTicket) (written : Nat) :
    UpdateCheck × Bool :=
  if !update.currentDownload ticket then (update, false)
  else
    match update.status with
    | .downloading _ total => ({ update with status := .downloading (min written total) total }, true)
    | _ => (update, true)

/-- Record the result of a download. -/
def commitDownload (update : UpdateCheck) (ticket : DownloadTicket) (installer : Option FilePath) :
    UpdateCheck × Bool :=
  if !update.currentDownload ticket then (update, false)
  else
    match installer with
    | some path => ({ update with installerPath := some path, status := .readyToRestart }, true)
    | none => ({ update with installerPath := none, status := .downloadFailed }, true)

/-- Start the installer. `launcher` says whether the process of a file started, and `verify`
checks a file against the digest and the size of a setup. -/
def launchInstaller (update : UpdateCheck) (launcher : FilePath → Bool)
    (verify : FilePath → WindowsSetup → Bool) : UpdateCheck × LaunchOutcome :=
  if update.status ≠ .readyToRestart then (update, .notReady)
  else if update.launched then (update, .alreadyStarted)
  else
    match update.installerPath, update.latest.bind Release.setup with
    | some path, some setup =>
        if !verify path setup then
          ({ update with installerPath := none, status := .downloadFailed }, .verificationFailed)
        else
          let update := { update with launchAttempts := update.launchAttempts + 1 }
          if !update.launchProcess || launcher path then
            ({ update with launched := true }, .started)
          else (update, .spawnFailed)
    | _, _ => (update, .notReady)

/-- The hook of the closing window: it launches on the first close only. -/
def launchOnClose (update : UpdateCheck) (launcher : FilePath → Bool)
    (verify : FilePath → WindowsSetup → Bool) : UpdateCheck × Option LaunchOutcome :=
  if !update.restartReady || update.launchAttempts ≠ 0 then (update, none)
  else
    let (update, outcome) := update.launchInstaller launcher verify
    (update, some outcome)

end UpdateCheck

/-! ## The installer file -/

/-- Bytes in hexadecimal, with small letters. -/
def hexLower (bytes : Bytes) : String :=
  String.ofList (bytes.flatMap fun byte =>
    [Nat.digitChar (byte.toNat / 16), Nat.digitChar (byte.toNat % 16)])

/-- Whether what stands at a path has the size and the digest of a setup. -/
def installerMatches (files : FilePath → Option Bytes) (path : FilePath) (setup : WindowsSetup) :
    Bool :=
  match files path with
  | none => false
  | some content =>
      content.length == setup.size && hexLower (Platform.sha256 content) == setup.sha256

end Omairc.Update

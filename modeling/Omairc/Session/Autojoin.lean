import Omairc.Session.Send

/-!
# Autojoin

The channels the session rejoins and their keys. A self JOIN records the channel and
a key the user typed, a self PART or KICK forgets them, and a bad-key numeric drops a
key that no longer works.
-/

namespace Omairc.Session

open Omairc.Text Omairc.Irc

/-- The first stored key that names a channel, in key order. -/
def lookupAutojoinKey (keys : StringMap String) (mapping : IrcCaseMapping) (channel : String) :
    Option String :=
  (keys.toList.find? fun entry => mapping.equals entry.1 channel).map Prod.snd

/-- Remove the first stored key that names a channel; true when one was removed. -/
def eraseAutojoinKey (keys : StringMap String) (mapping : IrcCaseMapping) (channel : String) :
    StringMap String × Bool :=
  match keys.keys.find? fun key => mapping.equals key channel with
  | some key => (keys.erase key, true)
  | none => (keys, false)

namespace Core

/-- Report the autojoin list and its keys. -/
def emitAutojoinChanged (core : Core) : Core :=
  core.emit (.autojoinChannelsChanged core.networkId core.autojoinChannels core.autojoinKeys)

/-- Forget the key that waits for a join of a channel. -/
def forgetPendingJoinKey (core : Core) (channel : String) : Core :=
  { core with pendingJoinKeys := core.pendingJoinKeys.erase (core.foldChannel channel) }

/-- Record a self JOIN. -/
def recordJoin (core : Core) (channel : String) : Core :=
  let mapping := core.features.caseMapping
  let found := core.autojoinChannels.find? fun existing => mapping.equals existing channel
  let listed := found.getD channel
  let named := if found.isNone then
      { core with autojoinChannels := core.autojoinChannels ++ [channel] }
    else core
  let pending := (core.pendingJoinKeys[core.foldChannel channel]?).getD ""
  let confirmed := named.forgetPendingJoinKey channel
  let keyChanged := pending ≠ "" &&
    lookupAutojoinKey core.autojoinKeys mapping listed ≠ some pending
  let keyed := if keyChanged then
      { confirmed with
        autojoinKeys :=
          (eraseAutojoinKey confirmed.autojoinKeys mapping listed).1.insert listed pending }
    else confirmed
  if found.isSome && !keyChanged then keyed else keyed.emitAutojoinChanged

/-- Record a self PART or KICK. -/
def recordLeave (core : Core) (channel : String) : Core :=
  let mapping := core.features.caseMapping
  let foundIndex := core.autojoinChannels.findIdx? fun existing => mapping.equals existing channel
  let (keys, hadKey) := eraseAutojoinKey core.autojoinKeys mapping channel
  let forgotten := { core with autojoinKeys := keys }.forgetPendingJoinKey channel
  match foundIndex with
  | some index =>
      { forgotten with
        autojoinChannels := core.autojoinChannels.eraseIdx index }.emitAutojoinChanged
  | none => if hadKey then forgotten.emitAutojoinChanged else forgotten

/-- Record a self JOIN, or a self PART or KICK. -/
def recordAutojoin (core : Core) (channel : String) (joined : Bool) : Core :=
  if channel = "" then core
  else if joined then core.recordJoin channel
  else core.recordLeave channel

/-- Drop a stored key after a bad-key numeric. -/
def dropStoredAutojoinKey (core : Core) (channel : String) : Core :=
  if channel = "" then core
  else
    let forgotten := core.forgetPendingJoinKey channel
    let (keys, hadKey) := eraseAutojoinKey core.autojoinKeys core.features.caseMapping channel
    if hadKey then { forgotten with autojoinKeys := keys }.emitAutojoinChanged else forgotten

/-- The key to send with a JOIN of a channel, if one is stored. -/
def autojoinKeyFor (core : Core) (channel : String) : Option String :=
  lookupAutojoinKey core.autojoinKeys core.features.caseMapping channel

/-- Send a JOIN. Its key is remembered until the join is confirmed. -/
def joinLocked (core : Core) (target : IrcJoinTarget) : Core × Bool :=
  if core.state ≠ .registered then (core, false)
  else
    let key := target.key.getD ""
    match join target.channel key core.features with
    | .error _ => (core, false)
    | .ok built =>
        let noted := if target.key.isSome then
            { core with
              pendingJoinKeys := core.pendingJoinKeys.insert (core.foldChannel target.channel) key }
          else core
        (noted.sendLine built, true)

end Core

end Omairc.Session

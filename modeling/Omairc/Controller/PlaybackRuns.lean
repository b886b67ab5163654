import Omairc.Controller.Playback
import Omairc.Irc.Reducer.Calls
import Omairc.Irc.Reducer.Reference

/-!
# What a connection resumes from

A catch-up of a connection starts from the snapshot that was taken at its welcome. The next
connection starts no later, as long as no newer line of the target was noted in between. A live
line is noted while a catch-up is still open, so the lines between are not asked for again.
-/

namespace Omairc.Playback

open Omairc.Text Omairc.Irc Omairc.Irc.Reducer Omairc.Session

/-! ## Steps -/

/-- A step in the playback of a network. The reducer and the session are as it finds them. -/
inductive Step (Disk : Type)
  | registered (autojoinChannels : List String)
  | leftRegistration
  | removed
  | message (reducer : EventReducer Disk) (message : IrcMessage) (currentNick : String)
      (zncPlaybackCap : Bool)
  | keptReplay (reducer : EventReducer Disk) (zncPlaybackCap : String → Bool)
  | rekey (mapping : IrcCaseMapping) (oldTarget newTarget : String)
  | joined (reducer : EventReducer Disk) (link : PlaybackLink) (channel : String)
      (zncPlaybackCap motdSeen : Bool)
  | channelHistory (mapping : IrcCaseMapping) (channel : String)
  | request (reducer : EventReducer Disk) (link : PlaybackLink) (restoredDirects : List String)
      (zncPlaybackCap motdSeen : Bool)
  | catchUp (reducer : EventReducer Disk) (link : PlaybackLink) (restoredDirects : List String)
      (chatHistory motdSeen : Bool) (now : Instant)
  | discovered (reducer : EventReducer Disk) (link : PlaybackLink) (targets : List HistoryTarget)
      (currentNick : String) (restoredDirects dismissedDirects : List String)
  | targetsPage (link : PlaybackLink) (targets : List HistoryTarget) (historyEnded : Bool)
      (limit : Nat)
  | retryTargets

/-- A time that is noted for a target of a network. -/
structure Note where
  target : String
  time : Instant
  mapping : IrcCaseMapping

namespace PlaybackCoordinator

variable {Disk : Type}

/-- What a self-JOIN asks for. -/
def channelRequest (coordinator : PlaybackCoordinator) (networkId channel : String)
    (mapping : IrcCaseMapping) : CatchUp :=
  match coordinator.historyResumeInstant networkId channel mapping with
  | some time => .after channel time
  | none => .latest channel

variable [Platform] [CharacterClasses] [Reducer.Storage Disk]

/-- One step, and the catch-up requests it makes. -/
def step (networkId : String) (coordinator : PlaybackCoordinator) :
    Step Disk → PlaybackCoordinator × List CatchUp
  | .registered autojoinChannels => (coordinator.onRegistered networkId autojoinChannels, [])
  | .leftRegistration => (coordinator.onLeftRegistration networkId, [])
  | .removed => (coordinator.dropNetwork networkId, [])
  | .message reducer message currentNick zncPlaybackCap =>
      (coordinator.notePlaybackClock reducer networkId message currentNick zncPlaybackCap, [])
  | .keptReplay reducer zncPlaybackCap => (coordinator.noteKeptReplay reducer zncPlaybackCap, [])
  | .rekey mapping oldTarget newTarget =>
      (coordinator.rekeyTarget mapping networkId oldTarget newTarget, [])
  | .joined reducer link channel zncPlaybackCap motdSeen =>
      (coordinator.noteJoinedChannel (serverFeatures reducer networkId).caseMapping networkId
        channel).requestChannelPlayback reducer networkId link channel zncPlaybackCap motdSeen
  | .channelHistory mapping channel =>
      (coordinator, [coordinator.channelRequest networkId channel mapping])
  | .request reducer link restoredDirects zncPlaybackCap motdSeen =>
      coordinator.request reducer networkId link restoredDirects zncPlaybackCap motdSeen
  | .catchUp reducer link restoredDirects chatHistory motdSeen now =>
      coordinator.requestCatchUp reducer networkId link restoredDirects chatHistory motdSeen now
  | .discovered reducer link targets currentNick restoredDirects dismissedDirects =>
      let discovery := coordinator.noteDiscoveredTargets reducer networkId link targets currentNick
        restoredDirects dismissedDirects
      (discovery.coordinator, discovery.asked)
  | .targetsPage link targets historyEnded limit =>
      coordinator.noteTargetsPage networkId link targets historyEnded limit
  | .retryTargets => ((coordinator.retryTargets networkId).1, [])

/-- The notes a step makes in a network, in order. A line without a date makes none. -/
def notes (networkId : String) (coordinator : PlaybackCoordinator) (step : Step Disk) :
    List Note :=
  List.filter (fun note => note.time ≠ zeroTime) <| match step with
  | .message reducer message currentNick zncPlaybackCap =>
      ((coordinator.clockNote reducer networkId message currentNick zncPlaybackCap).map
        fun noted => ⟨noted.1, noted.2, (serverFeatures reducer networkId).caseMapping⟩).toList
  | .keptReplay reducer zncPlaybackCap =>
      (reducer.facts.keptReplay.filter fun line =>
        line.networkId == networkId && coordinator.mayNotePlaybackTime reducer networkId line.target
          (zncPlaybackCap networkId)).map fun line =>
            ⟨line.target, line.serverTime, (serverFeatures reducer networkId).caseMapping⟩
  | _ => []

end PlaybackCoordinator

/-- The mapping a step compares targets with when it asks. -/
def Step.mapping {Disk : Type} (networkId : String) : Step Disk → Option IrcCaseMapping
  | .joined reducer .. => some (serverFeatures reducer networkId).caseMapping
  | .channelHistory mapping _ => some mapping
  | .request reducer .. => some (serverFeatures reducer networkId).caseMapping
  | .catchUp reducer .. => some (serverFeatures reducer networkId).caseMapping
  | .discovered reducer .. => some (serverFeatures reducer networkId).caseMapping
  | _ => none

/-! ## Bounds -/

/-- Whether what was found resumes no later than a bound. A target without a time has no bound,
and goes on without one. -/
def NotLater : Option Instant → Option Instant → Prop
  | none, none => True
  | some bound, some found => found ≤ bound
  | _, _ => False

/-- Whether the requests for a target resume no later than its bound. PLAY without a time asks
from the beginning. LATEST has no bound, and AFTER for a target without a time starts from
another one's. -/
def CatchUp.Within (bound : Option Instant) : CatchUp → Prop
  | .play _ from_ => ∀ time, from_ = some time → NotLater bound (some time)
  | .after _ time => ∀ limit, bound = some limit → time ≤ limit
  | .latest _ => bound = none
  | _ => True

/-- The target of a request. -/
def CatchUp.target : CatchUp → Option String
  | .play target _ => some target
  | .after target _ => some target
  | .latest target => some target
  | _ => none

/-- A target that is followed in a network: its name, the case mapping it is compared under, and
the bound of its catch-up. -/
structure Tracked where
  networkId : String
  target : String
  mapping : IrcCaseMapping
  bound : Option Instant

namespace Tracked

/-- The stored time of the target. -/
def stored (tracked : Tracked) (rows : List PlaybackEntry) : Option Instant :=
  (timeOfTarget rows tracked.target tracked.mapping).map fromTimestampMillis

/-- Whether the network resumes the target no later than its bound, on this connection and on the
next one. -/
structure Resumes (tracked : Tracked) (coordinator : PlaybackCoordinator) : Prop where
  named : tracked.networkId ≠ "" ∧ tracked.target ≠ ""
  stored : NotLater tracked.bound
    (tracked.stored (coordinator.times.playbackEntries tracked.networkId))
  snapshot : ∀ rows, coordinator.playbackSnapshot[tracked.networkId]? = some rows →
    NotLater tracked.bound (timeOfTarget rows tracked.target tracked.mapping)

/-- The notes that leave a target its bound: one that reaches its row is not newer. -/
def Spares (tracked : Tracked) : List PlaybackEntry → List Note → Prop
  | _, [] => True
  | rows, note :: rest =>
      (noteReaches rows note.target note.mapping tracked.target tracked.mapping = true →
        NotLater tracked.bound (some (fromTimestampMillis (timestampMillis note.time)))) ∧
      tracked.Spares
        ((notedRows rows note.target (timestampMillis note.time) note.mapping).getD rows) rest

/-- Whether a rename leaves a target its bound: the name it merges with has no newer time. -/
def SparesRename (tracked : Tracked) (coordinator : PlaybackCoordinator)
    (oldTarget newTarget : String) : Prop :=
  ∀ other, mergedWith tracked.target oldTarget newTarget tracked.mapping = some other →
    (∀ time, timeOfTarget (coordinator.times.playbackEntries tracked.networkId) other
        tracked.mapping = some time →
      NotLater tracked.bound (some (fromTimestampMillis time))) ∧
    ∀ rows time, coordinator.playbackSnapshot[tracked.networkId]? = some rows →
      timeOfTarget rows other tracked.mapping = some time → NotLater tracked.bound (some time)

/-- Whether a rename names anything. -/
def renames (oldTarget newTarget : String) : Bool := oldTarget ≠ "" && newTarget ≠ ""

/-- The condition under which a step leaves a target its bound. -/
def Meets {Disk : Type} [Platform] (tracked : Tracked) (coordinator : PlaybackCoordinator)
    (step : Step Disk) : Prop :=
  tracked.Spares (coordinator.times.playbackEntries tracked.networkId)
      (coordinator.notes tracked.networkId step) ∧
    match step with
    | .removed => False
    | .rekey mapping oldTarget newTarget =>
        renames oldTarget newTarget = true →
          mapping = tracked.mapping ∧ tracked.SparesRename coordinator oldTarget newTarget
    | .catchUp .. => coordinator.snapshotTaken tracked.networkId = true
    | .discovered .. => coordinator.snapshotTaken tracked.networkId = true
    | _ => True

/-- The target after a step: a rename moves it to its new name. -/
def after {Disk : Type} (tracked : Tracked) : Step Disk → Tracked
  | .rekey _ oldTarget newTarget =>
      if renames oldTarget newTarget then
        { tracked with target := followed tracked.target oldTarget newTarget tracked.mapping }
      else tracked
  | _ => tracked

end Tracked

/-! ## Requests change no times -/

namespace PlaybackCoordinator

variable {Disk : Type}

/-- Whether two coordinators have the same times and snapshots. -/
structure SameTimes (before after : PlaybackCoordinator) : Prop where
  times : after.times = before.times
  playbackSnapshot : after.playbackSnapshot = before.playbackSnapshot

namespace SameTimes

variable {first second third : PlaybackCoordinator}

theorem refl (coordinator : PlaybackCoordinator) : SameTimes coordinator coordinator := ⟨rfl, rfl⟩

theorem trans (former : SameTimes first second) (latter : SameTimes second third) :
    SameTimes first third :=
  ⟨latter.times.trans former.times, latter.playbackSnapshot.trans former.playbackSnapshot⟩

theorem snapshotTime (same : SameTimes first second) (networkId target : String)
    (mapping : IrcCaseMapping) :
    second.playbackSnapshotTime networkId target mapping =
      first.playbackSnapshotTime networkId target mapping := by
  rw [playbackSnapshotTime, playbackSnapshotTime, same.playbackSnapshot]

end SameTimes

theorem markSent_same (coordinator : PlaybackCoordinator) (networkId : String)
    (change : ZncPlaybackSent → ZncPlaybackSent) :
    SameTimes coordinator (coordinator.markSent networkId change) := ⟨rfl, rfl⟩

theorem markTarget_same (coordinator : PlaybackCoordinator) (networkId normalized : String) :
    SameTimes coordinator (coordinator.markTarget networkId normalized) := ⟨rfl, rfl⟩

theorem markAsked_same (coordinator : PlaybackCoordinator) (networkId : String)
    (change : CatchUpSent → CatchUpSent) :
    SameTimes coordinator (coordinator.markAsked networkId change) := ⟨rfl, rfl⟩

theorem markCatchUp_same (coordinator : PlaybackCoordinator) (networkId normalized : String) :
    SameTimes coordinator (coordinator.markCatchUp networkId normalized) := ⟨rfl, rfl⟩

theorem noteJoinedChannel_same (coordinator : PlaybackCoordinator) (mapping : IrcCaseMapping)
    (networkId channel : String) :
    SameTimes coordinator (coordinator.noteJoinedChannel mapping networkId channel) := by
  rw [noteJoinedChannel]
  split
  · exact .refl _
  dsimp only
  split
  · exact .refl _
  · exact ⟨rfl, rfl⟩

end PlaybackCoordinator

/-- What a pass under a mapping keeps of a tracked target: the times stand as they did, and what
was asked for the target keeps to its bound. -/
structure Keeps (tracked : Tracked) (mapping : IrcCaseMapping) (start coordinator : PlaybackCoordinator)
    (asked : List CatchUp) : Prop where
  same : start.SameTimes coordinator
  within : mapping = tracked.mapping → ∀ request ∈ asked, ∀ target, request.target = some target →
    tracked.mapping.equals target tracked.target = true → request.Within tracked.bound

namespace Keeps

variable {tracked : Tracked} {mapping : IrcCaseMapping}
  {start coordinator next : PlaybackCoordinator} {asked more : List CatchUp}

theorem nothing (same : start.SameTimes coordinator) :
    Keeps tracked mapping start coordinator [] :=
  ⟨same, fun _ _ listed => absurd listed List.not_mem_nil⟩

theorem append (former : Keeps tracked mapping start coordinator asked)
    (latter : Keeps tracked mapping coordinator next more) :
    Keeps tracked mapping start next (asked ++ more) where
  same := former.same.trans latter.same
  within mapped request listed := by
    rcases List.mem_append.mp listed with early | late
    · exact former.within mapped request early
    · exact latter.within mapped request late

theorem single (same : start.SameTimes coordinator) {request : CatchUp}
    (within : mapping = tracked.mapping → ∀ target, request.target = some target →
      tracked.mapping.equals target tracked.target = true → request.Within tracked.bound) :
    Keeps tracked mapping start coordinator [request] where
  same := same
  within mapped other listed := by
    rw [List.mem_singleton] at listed
    subst listed
    exact within mapped

end Keeps

namespace Tracked.Resumes

open PlaybackCoordinator

variable {Disk : Type} {tracked : Tracked} {start coordinator : PlaybackCoordinator}

/-- What is found for the target in the snapshot is no later than its bound. -/
theorem snapshotTime (resumes : tracked.Resumes start) (same : start.SameTimes coordinator)
    {target : String} (named : tracked.mapping.equals target tracked.target = true) {time : Instant}
    (found : coordinator.playbackSnapshotTime tracked.networkId target tracked.mapping =
      some time) : NotLater tracked.bound (some time) := by
  rw [same.snapshotTime, playbackSnapshotTime, Option.bind_eq_some_iff] at found
  obtain ⟨rows, held, within⟩ := found
  split at within
  · cases within
  · have bounded := resumes.snapshot rows held
    rw [← timeOfTarget_congr named, within] at bounded
    exact bounded

/-- A name that is equal to the target's is no empty one. -/
theorem named_of_equals (resumes : tracked.Resumes start) {target : String}
    (named : tracked.mapping.equals target tracked.target = true) : target ≠ "" := by
  rintro rfl
  rw [IrcCaseMapping.equals, beq_iff_eq] at named
  have lengths := congrArg (fun text => text.toList.length) named
  simp only [IrcCaseMapping.normalize, String.toList_ofList, List.length_map] at lengths
  exact resumes.named.2 (String.toList_injective (List.length_eq_zero_iff.mp lengths.symm))

/-- A target with a bound is in the snapshot, once that was taken. -/
theorem unbounded (resumes : tracked.Resumes start) (same : start.SameTimes coordinator)
    (taken : coordinator.snapshotTaken tracked.networkId = true)
    {target : String} (named : tracked.mapping.equals target tracked.target = true)
    (absent : coordinator.playbackSnapshotTime tracked.networkId target tracked.mapping = none) :
    tracked.bound = none := by
  rw [snapshotTaken, Std.TreeMap.contains_eq_isSome_getElem?, Option.isSome_iff_exists,
    same.playbackSnapshot] at taken
  obtain ⟨rows, held⟩ := taken
  have bounded := resumes.snapshot rows held
  rw [playbackSnapshotTime, same.playbackSnapshot, held, Option.bind_some,
    if_neg (resumes.named_of_equals named), timeOfTarget_congr named] at absent
  rw [absent] at bounded
  cases bound : tracked.bound with
  | none => rfl
  | some limit =>
      rw [bound] at bounded
      exact bounded.elim

end Tracked.Resumes

section Requests

open PlaybackCoordinator

variable {Disk : Type} {tracked : Tracked} {start : PlaybackCoordinator}
  {reducer : EventReducer Disk} {link : PlaybackLink}

theorem covers_markTarget (coordinator : PlaybackCoordinator) (networkId normalized other : String) :
    (coordinator.markTarget networkId normalized).zncPlaybackCovers networkId other =
      (coordinator.zncPlaybackCovers networkId other || normalized == other) := by
  rw [zncPlaybackCovers, markTarget, markSent]
  show ((coordinator.zncPlaybackSent.insert networkId _)[networkId]?).any _ = _
  rw [found_insert, Option.any_some, zncPlaybackCovers, sentOf, Std.TreeSet.contains_insert,
    Text.compared_beq_eq]
  cases coordinator.zncPlaybackSent[networkId]? with
  | none => simp [beq_eq_decide]
  | some sent =>
      rw [Option.getD_some, Option.any_some, beq_eq_decide]
      cases sent.all <;> cases sent.queries <;> cases sent.targets.contains other <;>
        cases decide (normalized = other) <;> rfl

/-- A request that keeps to the bound leaves a pass in order. -/
theorem Asking.send_keeps {mapping : IrcCaseMapping} {asking : Asking} {request : CatchUp}
    {mark : PlaybackCoordinator → PlaybackCoordinator}
    (keeps : Keeps tracked mapping start asking.coordinator asking.asked)
    (marks : ∀ coordinator : PlaybackCoordinator, coordinator.SameTimes (mark coordinator))
    (within : mapping = tracked.mapping → ∀ target, request.target = some target →
      tracked.mapping.equals target tracked.target = true → request.Within tracked.bound) :
    Keeps tracked mapping start (asking.send link request mark).coordinator
      (asking.send link request mark).asked := by
  rw [Asking.send]
  split
  · exact keeps
  split
  · exact keeps.append (.single (marks _) within)
  · exact keeps

/-- A pass that goes on behind a row has the row covered, with all that was covered before. -/
theorem Asking.playRow_covers {networkId : String} (asking : Asking) {row : PlaybackTargetTime}
    (going : (asking.playRow reducer networkId link row).going = true) :
    asking.going = true ∧
      (∀ normalized, asking.coordinator.zncPlaybackCovers networkId normalized = true →
        (asking.playRow reducer networkId link row).coordinator.zncPlaybackCovers networkId
          normalized = true) ∧
      (asking.playRow reducer networkId link row).coordinator.zncPlaybackCovers networkId
        (normalizedTarget reducer networkId row.target) = true := by
  unfold Asking.playRow at going ⊢
  dsimp only at going ⊢
  split at going
  · rename_i already
    rw [if_pos already]
    exact ⟨going, fun _ => id, already⟩
  · rename_i uncovered
    rw [if_neg uncovered]
    rw [Asking.send] at going ⊢
    split at going
    · rename_i stopped
      rw [stopped] at going
      cases going
    split at going
    · rename_i unstopped accepted
      rw [if_neg unstopped, if_pos accepted]
      refine ⟨going, fun normalized before => ?_, ?_⟩
      · show (asking.coordinator.markTarget _ _).zncPlaybackCovers _ _ = true
        rw [covers_markTarget, before, Bool.true_or]
      · show (asking.coordinator.markTarget _ _).zncPlaybackCovers _ _ = true
        rw [covers_markTarget, beq_self_eq_true, Bool.or_true]
    · cases going

/-- A pass over the rows of a snapshot asks for a target from its first row, which the PLAY line
covers then. -/
theorem playRows_keep (resumes : tracked.Resumes start) {stored : List PlaybackTargetTime}
    (held : start.playbackSnapshot[tracked.networkId]? = some stored)
    (rows before : List PlaybackTargetTime) (whole : stored = before ++ rows) (asking : Asking)
    (keeps : Keeps tracked (serverFeatures reducer tracked.networkId).caseMapping start
      asking.coordinator asking.asked)
    (covered : asking.going = true → ∀ row ∈ before,
      asking.coordinator.zncPlaybackCovers tracked.networkId
        (normalizedTarget reducer tracked.networkId row.target) = true) :
    let asked := rows.foldl (fun asking row =>
      asking.playRow reducer tracked.networkId link row) asking
    Keeps tracked (serverFeatures reducer tracked.networkId).caseMapping start asked.coordinator
      asked.asked := by
  induction rows generalizing before asking with
  | nil => exact keeps
  | cons row rest inductionHypothesis =>
      refine inductionHypothesis (before ++ [row]) (by rw [whole]; simp) _ ?_ ?_
      · unfold Asking.playRow
        dsimp only
        split
        · exact keeps
        · rename_i uncovered
          rw [Asking.send]
          split
          · exact keeps
          split
          · rename_i going accepted
            refine keeps.append (.single (markTarget_same _ _ _) ?_)
            rintro mapped target same named time found
            obtain rfl : row.target = target := Option.some_inj.mp same
            obtain rfl : row.time = time := Option.some_inj.mp found
            -- No earlier row is the target's: the PLAY line of that one would cover this row.
            have first : timeOfTarget before tracked.target tracked.mapping = none := by
              rw [timeOfTarget_eq_none]
              intro earlier listed
              rw [Bool.eq_false_iff]
              intro own
              refine uncovered ?_
              have covers := covered (Bool.not_eq_false _ ▸ going) earlier listed
              have names : normalizedTarget reducer tracked.networkId earlier.target =
                  normalizedTarget reducer tracked.networkId row.target := by
                show (serverFeatures reducer tracked.networkId).caseMapping.normalize _ =
                  (serverFeatures reducer tracked.networkId).caseMapping.normalize _
                rw [mapped]
                rw [IrcCaseMapping.equals, beq_iff_eq] at own named
                exact own.trans named.symm
              rw [← names]
              exact covers
            have bounded := resumes.snapshot stored held
            rw [whole, timeOfTarget_first rest first named] at bounded
            exact bounded
          · exact keeps
      · intro going other listed
        obtain ⟨went, kept, own⟩ := Asking.playRow_covers asking going
        rcases List.mem_append.mp listed with earlier | last
        · exact kept _ (covered went other earlier)
        · rw [List.mem_singleton] at last
          subst last
          exact own

/-- What each item of a list keeps, the pass over the list keeps. -/
theorem Keeps.foldl {Item : Type} {mapping : IrcCaseMapping} (items : List Item)
    (visit : Asking → Item → Asking)
    (each : ∀ asking item,
      Keeps tracked mapping start asking.coordinator asking.asked →
      Keeps tracked mapping start (visit asking item).coordinator (visit asking item).asked)
    (asking : Asking) (keeps : Keeps tracked mapping start asking.coordinator asking.asked) :
    Keeps tracked mapping start (items.foldl visit asking).coordinator
      (items.foldl visit asking).asked := by
  induction items generalizing asking with
  | nil => exact keeps
  | cons item rest inductionHypothesis => exact inductionHypothesis _ (each asking item keeps)

theorem playFromStart_keeps {mapping : IrcCaseMapping} {asking : Asking} (target : String)
    (keeps : Keeps tracked mapping start asking.coordinator asking.asked) :
    Keeps tracked mapping start
      (asking.playFromStart reducer tracked.networkId link target).coordinator
      (asking.playFromStart reducer tracked.networkId link target).asked := by
  unfold Asking.playFromStart
  dsimp only
  split
  · exact keeps
  split
  · exact keeps
  · refine Asking.send_keeps keeps (fun coordinator => markTarget_same _ _ _) ?_
    rintro - target - - time found
    cases found

theorem requestChannelPlayback_keeps (resumes : tracked.Resumes start)
    {coordinator : PlaybackCoordinator} (same : start.SameTimes coordinator) (channel : String)
    (zncPlaybackCap motdSeen : Bool) :
    Keeps tracked (serverFeatures reducer tracked.networkId).caseMapping coordinator
      (coordinator.requestChannelPlayback reducer tracked.networkId link channel zncPlaybackCap
        motdSeen).1
      (coordinator.requestChannelPlayback reducer tracked.networkId link channel zncPlaybackCap
        motdSeen).2 := by
  rw [requestChannelPlayback]
  split
  · exact .nothing (.refl _)
  split
  · exact .nothing (.refl _)
  split
  · exact .nothing (.refl _)
  · dsimp only
    split
    · refine .single (markTarget_same _ _ _) ?_
      rintro mapped target asked named time found
      obtain rfl : channel = target := Option.some_inj.mp asked
      rw [mapped] at found
      exact resumes.snapshotTime same named found
    · exact .nothing (.refl _)

theorem requestBuffers_keeps [Platform] (resumes : tracked.Resumes start)
    (restoredDirects : List String) :
    Keeps tracked (serverFeatures reducer tracked.networkId).caseMapping start
      (start.requestBuffers reducer tracked.networkId link restoredDirects).coordinator
      (start.requestBuffers reducer tracked.networkId link restoredDirects).asked := by
  have everything {request : CatchUp} (all : request = .playAll)
      (_ : (serverFeatures reducer tracked.networkId).caseMapping = tracked.mapping)
      (target : String) (asked : request.target = some target)
      (_ : tracked.mapping.equals target tracked.target = true) : request.Within tracked.bound := by
    subst all
    cases asked
  rw [requestBuffers]
  dsimp only
  split
  · split
    · exact Asking.send_keeps (.nothing (.refl _)) (fun _ => markSent_same _ _ _) (everything rfl)
    · exact .nothing (.refl _)
  · rename_i stored
    have held : start.playbackSnapshot[tracked.networkId]? =
        some ((start.playbackSnapshot[tracked.networkId]?).getD []) := by
      cases held : start.playbackSnapshot[tracked.networkId]? with
      | none => exact absurd (by rw [held]; rfl) stored
      | some rows => rfl
    have rows := @playRows_keep Disk tracked start reducer link resumes _ held _ [] rfl { coordinator := start } (.nothing (.refl _)) (fun _ _ listed => by cases listed)
    have directs := Keeps.foldl restoredDirects (fun asking nick =>
      if persistableDirectTarget reducer tracked.networkId nick &&
          reducer.conversations.contains (reducer.conversationKey tracked.networkId nick) then
        asking.playFromStart reducer tracked.networkId link nick
      else asking) (by
        intro asking nick keeps
        split
        · exact playFromStart_keeps nick keeps
        · exact keeps) _ rows
    have channels := Keeps.foldl ((start.zncAutojoin[tracked.networkId]?).getD [])
      (fun asking channel =>
        if channel ≠ "" ∧ (serverFeatures reducer tracked.networkId).isChannel channel then
          asking.playFromStart reducer tracked.networkId link channel
        else asking) (by
        intro asking channel keeps
        split
        · exact playFromStart_keeps channel keeps
        · exact keeps) _ directs
    split
    · exact channels
    · exact Asking.send_keeps channels (fun _ => markSent_same _ _ _) (everything rfl)

theorem request_keeps [Platform] (resumes : tracked.Resumes start) (restoredDirects : List String)
    (zncPlaybackCap motdSeen : Bool) :
    Keeps tracked (serverFeatures reducer tracked.networkId).caseMapping start
      (start.request reducer tracked.networkId link restoredDirects zncPlaybackCap motdSeen).1
      (start.request reducer tracked.networkId link restoredDirects zncPlaybackCap motdSeen).2 := by
  have joined : ∀ (channels : List String) (asked : PlaybackCoordinator × List CatchUp),
      Keeps tracked (serverFeatures reducer tracked.networkId).caseMapping start asked.1 asked.2 →
      let all := channels.foldl (fun asked channel =>
        let channelAsked := asked.1.requestChannelPlayback reducer tracked.networkId link channel
          zncPlaybackCap motdSeen
        (channelAsked.1, asked.2 ++ channelAsked.2)) asked
      Keeps tracked (serverFeatures reducer tracked.networkId).caseMapping start all.1 all.2 := by
    intro channels
    induction channels with
    | nil => exact fun _ keeps => keeps
    | cons channel rest inductionHypothesis =>
        intro asked keeps
        exact inductionHypothesis _
          (keeps.append (requestChannelPlayback_keeps resumes keeps.same channel ..))
  rw [PlaybackCoordinator.request]
  split
  · exact .nothing (.refl _)
  · dsimp only
    split
    · exact requestBuffers_keeps resumes restoredDirects
    · exact joined _ (_, _) (requestBuffers_keeps resumes restoredDirects)

/-- A direct message with a time is asked for from there, and LATEST only without one. -/
theorem directRequest_within (resumes : tracked.Resumes start) {coordinator : PlaybackCoordinator}
    (same : start.SameTimes coordinator)
    (taken : coordinator.snapshotTaken tracked.networkId = true) (name : String)
    (mapped : (serverFeatures reducer tracked.networkId).caseMapping = tracked.mapping)
    (target : String)
    (asked : (coordinator.directRequest reducer tracked.networkId name).target = some target)
    (named : tracked.mapping.equals target tracked.target = true) :
    (coordinator.directRequest reducer tracked.networkId name).Within tracked.bound := by
  rw [directRequest, mapped] at asked ⊢
  cases found : coordinator.playbackSnapshotTime tracked.networkId name tracked.mapping with
  | none =>
      rw [found] at asked
      obtain rfl : name = target := Option.some_inj.mp asked
      exact resumes.unbounded same taken named found
  | some time =>
      rw [found] at asked
      obtain rfl : name = target := Option.some_inj.mp asked
      have bounded := resumes.snapshotTime same named found
      intro limit bound
      rw [bound] at bounded
      exact bounded

theorem snapshotTaken_same {first second : PlaybackCoordinator} (same : first.SameTimes second)
    (networkId : String) : second.snapshotTaken networkId = first.snapshotTaken networkId := by
  rw [snapshotTaken, snapshotTaken, same.playbackSnapshot]

theorem requestDirects_keeps [Platform] (resumes : tracked.Resumes start)
    (taken : start.snapshotTaken tracked.networkId = true) (restoredDirects : List String) :
    Keeps tracked (serverFeatures reducer tracked.networkId).caseMapping start
      (start.requestDirects reducer tracked.networkId link restoredDirects).1
      (start.requestDirects reducer tracked.networkId link restoredDirects).2 := by
  rw [requestDirects]
  have begun : Keeps tracked (serverFeatures reducer tracked.networkId).caseMapping start start [] :=
    .nothing (.refl _)
  generalize asked_eq : ((start, []) : PlaybackCoordinator × List CatchUp) = asked
  replace begun : Keeps tracked (serverFeatures reducer tracked.networkId).caseMapping start
      asked.1 asked.2 := by
    rw [← asked_eq]
    exact begun
  clear asked_eq
  induction restoredDirects generalizing asked with
  | nil => exact begun
  | cons nick rest inductionHypothesis =>
      rw [List.foldl_cons]
      apply inductionHypothesis
      dsimp only
      split
      · have standing : asked.1.snapshotTaken tracked.networkId = true := by
          rw [snapshotTaken_same begun.same]
          exact taken
        exact begun.append (.single (markCatchUp_same _ _ _)
          (directRequest_within resumes begun.same standing nick))
      · exact begun

/-- A TARGETS query asks for no target. -/
theorem Keeps.targets (mapping : IrcCaseMapping) (coordinator : PlaybackCoordinator)
    (networkId : String) (change : CatchUpSent → CatchUpSent) (lower upper : Instant) :
    Keeps tracked mapping coordinator (coordinator.markAsked networkId change)
      [.targets lower upper] := by
  refine .single (markAsked_same _ _ _) ?_
  rintro - target asked
  cases asked

theorem requestCatchUp_keeps [Platform] (resumes : tracked.Resumes start)
    (taken : start.snapshotTaken tracked.networkId = true) (restoredDirects : List String)
    (chatHistory motdSeen : Bool) (now : Instant) :
    Keeps tracked (serverFeatures reducer tracked.networkId).caseMapping start
      (start.requestCatchUp reducer tracked.networkId link restoredDirects chatHistory motdSeen
        now).1
      (start.requestCatchUp reducer tracked.networkId link restoredDirects chatHistory motdSeen
        now).2 := by
  have directs : Keeps tracked (serverFeatures reducer tracked.networkId).caseMapping start
      (start.requestDirects reducer tracked.networkId link restoredDirects).1
      (start.requestDirects reducer tracked.networkId link restoredDirects).2 :=
    requestDirects_keeps resumes taken restoredDirects
  have noted (change : CatchUpSent → CatchUpSent) :
      Keeps tracked (serverFeatures reducer tracked.networkId).caseMapping start
        ((start.requestDirects reducer tracked.networkId link restoredDirects).1.markAsked
          tracked.networkId change)
        (start.requestDirects reducer tracked.networkId link restoredDirects).2 :=
    ⟨directs.same.trans (markAsked_same _ _ _), directs.within⟩
  rw [requestCatchUp]
  split
  · exact .nothing (.refl _)
  · dsimp only
    cases (start.requestDirects reducer tracked.networkId link restoredDirects).1.newestSnapshot
        tracked.networkId with
    | none => exact noted fun sent => { sent with targets := true }
    | some newest =>
        dsimp only
        by_cases undated : now = zeroTime
        · rw [if_pos undated]
          exact noted fun sent => { sent with targets := true }
        · rw [if_neg undated]
          generalize (if newest - 10 ^ 9 < now + 10 * 10 ^ 9 then now + 10 * 10 ^ 9 else farTime) =
            upper
          split
          · dsimp only
            exact directs.append (.targets _ _ _ _ _ _)
          · exact directs

theorem noteTargetsPage_keeps (mapping : IrcCaseMapping) (targets : List HistoryTarget)
    (historyEnded : Bool) (limit : Nat) :
    Keeps tracked mapping start
      (start.noteTargetsPage tracked.networkId link targets historyEnded limit).1
      (start.noteTargetsPage tracked.networkId link targets historyEnded limit).2 := by
  rw [noteTargetsPage]
  split
  · exact .nothing (.refl _)
  · dsimp only
    split
    · split
      · dsimp only
        exact .targets _ _ _ _ _ _
      · exact .nothing (.refl _)
    · exact .nothing (.refl _)

end Requests

section Discovered

open PlaybackCoordinator

variable {Disk : Type} {tracked : Tracked} {start : PlaybackCoordinator}
  {context : DiscoveryContext}

/-- A pass over the named targets in order: what it asks keeps to the bound, and the features
stand as they did. -/
structure Discovers (tracked : Tracked) (features : IrcServerFeatures) (start : PlaybackCoordinator)
    (discovery : Discovery Disk) : Prop where
  keeps : Keeps tracked features.caseMapping start discovery.coordinator discovery.asked
  features : serverFeatures discovery.reducer tracked.networkId = features

theorem serverFeatures_congr {first second : EventReducer Disk}
    (same : second.facts.features = first.facts.features) (networkId : String) :
    serverFeatures second networkId = serverFeatures first networkId := by
  rw [serverFeatures, serverFeatures, Facts.isupport, Facts.isupport, same]

theorem dropDirectMessage_features (reducer : EventReducer Disk) (key : ConversationKey) :
    (reducer.dropDirectMessage key).1.facts.features = reducer.facts.features := by
  rw [EventReducer.dropDirectMessage]
  split
  · rfl
  split
  · rfl
  · rw [EventReducer.removeConversation]
    dsimp only
    split
    · rfl
    · rfl

variable [Platform] [CharacterClasses] [Reducer.Storage Disk]

theorem visit_discovers {features : IrcServerFeatures} (resumes : tracked.Resumes start)
    (taken : start.snapshotTaken tracked.networkId = true)
    (network : context.networkId = tracked.networkId) {discovery : Discovery Disk}
    (discovers : Discovers tracked features start discovery) (name : String) :
    Discovers tracked features start (discovery.visit context name) := by
  have standing : discovery.coordinator.snapshotTaken tracked.networkId = true := by
    rw [snapshotTaken_same discovers.keeps.same]
    exact taken
  rw [Discovery.visit]
  split
  · exact discovers
  split
  · rw [Discovery.askOpen]
    split
    · refine ⟨discovers.keeps.append (.single (markCatchUp_same _ _ _) ?_), discovers.features⟩
      rw [← discovers.features, network]
      exact directRequest_within resumes discovers.keeps.same standing name
    · exact discovers
  split
  · exact discovers
  split
  · exact discovers
  split
  · rw [Discovery.openDirect]
    have framed := @ensureKey_framed _ _ _ _ discovery.reducer
      (discovery.reducer.conversationKey context.networkId name) name .inboundOther
    split
    · rename_i refused opened
      rw [opened] at framed
      exact ⟨discovers.keeps,
        (serverFeatures_congr framed.features _).trans discovers.features⟩
    · rename_i newest _ _ opened_ opened
      rw [opened] at framed
      have same : serverFeatures opened_ tracked.networkId = features :=
        (serverFeatures_congr framed.features _).trans discovers.features
      dsimp only
      split
      · refine ⟨?_, same⟩
        dsimp only
        refine discovers.keeps.append (.single (markAsked_same _ _ _) ?_)
        rw [network, same]
        rintro mapped target asked named limit bound
        obtain rfl : name = target := Option.some_inj.mp asked
        rw [mapped]
        cases found : discovery.coordinator.playbackSnapshotTime tracked.networkId name
            tracked.mapping with
        | none =>
            rw [resumes.unbounded discovers.keeps.same standing named found] at bound
            cases bound
        | some time =>
            have bounded := resumes.snapshotTime discovers.keeps.same named found
            rw [bound] at bounded
            exact bounded
      split
      · refine ⟨discovers.keeps, ?_⟩
        rw [serverFeatures_congr (dropDirectMessage_features opened_ _)]
        exact same
      · exact ⟨discovers.keeps, same⟩
  · exact discovers

theorem noteDiscoveredTargets_keeps (resumes : tracked.Resumes start)
    (taken : start.snapshotTaken tracked.networkId = true) (reducer : EventReducer Disk)
    (link : PlaybackLink) (targets : List HistoryTarget) (currentNick : String)
    (restoredDirects dismissedDirects : List String) :
    Keeps tracked (serverFeatures reducer tracked.networkId).caseMapping start
      (start.noteDiscoveredTargets reducer tracked.networkId link targets currentNick
        restoredDirects dismissedDirects).coordinator
      (start.noteDiscoveredTargets reducer tracked.networkId link targets currentNick
        restoredDirects dismissedDirects).asked := by
  have pass (context : DiscoveryContext) (network : context.networkId = tracked.networkId) :
      ∀ (rows : List HistoryTarget) (discovery : Discovery Disk),
        Discovers tracked (serverFeatures reducer tracked.networkId) start discovery →
        Discovers tracked (serverFeatures reducer tracked.networkId) start
          (rows.foldl (fun discovery row => discovery.visit context row.name) discovery) := by
    intro rows
    induction rows with
    | nil => exact fun _ discovers => discovers
    | cons row rest inductionHypothesis =>
        intro discovery discovers
        exact inductionHypothesis _ (visit_discovers resumes taken network discovers row.name)
  rw [noteDiscoveredTargets]
  split
  · exact .nothing (.refl _)
  · exact (pass _ rfl targets _ ⟨.nothing (.refl _), rfl⟩).keeps

end Discovered

/-! ## Times -/

section Times

open PlaybackCoordinator

variable {Disk : Type} {tracked : Tracked}

/-- The rows after some notes. -/
def notedAll (rows : List PlaybackEntry) (notes : List Note) : List PlaybackEntry :=
  notes.foldl (fun rows note =>
    (notedRows rows note.target (timestampMillis note.time) note.mapping).getD rows) rows

/-- Notes that spare a target leave it its bound. -/
theorem Tracked.Spares.stored {rows : List PlaybackEntry} {notes : List Note}
    (spares : tracked.Spares rows notes) (stored : NotLater tracked.bound (tracked.stored rows)) :
    NotLater tracked.bound (tracked.stored (notedAll rows notes)) := by
  induction notes generalizing rows with
  | nil => exact stored
  | cons note rest inductionHypothesis =>
      refine inductionHypothesis spares.2 ?_
      rcases timeOfTarget_noted rows note.target (timestampMillis note.time) note.mapping
        tracked.target tracked.mapping with kept | ⟨reached, time⟩
      · rw [Tracked.stored, kept]
        exact stored
      · rw [Tracked.stored, time]
        exact spares.1 reached

/-- One line that may be noted. -/
theorem entries_note (coordinator : PlaybackCoordinator) {networkId : String}
    (named : networkId ≠ "") {target : String} (known : target ≠ "") (time : Instant)
    (mapping : IrcCaseMapping) :
    (coordinator.note networkId target time mapping).times.playbackEntries networkId =
      notedAll (coordinator.times.playbackEntries networkId)
        ([⟨target, time, mapping⟩].filter fun note => note.time ≠ zeroTime) := by
  by_cases dated : time = zeroTime
  · subst dated
    rw [note, coordinator.times.playbackEntries_note_undated]
    simp [notedAll]
  · rw [note, coordinator.times.playbackEntries_note mapping named known dated]
    simp [notedAll, dated]

theorem notedAll_append (rows : List PlaybackEntry) (first second : List Note) :
    notedAll rows (first ++ second) = notedAll (notedAll rows first) second :=
  List.foldl_append ..

theorem mayNote_named {coordinator : PlaybackCoordinator} {reducer : EventReducer Disk}
    {networkId target : String} {zncPlaybackCap : Bool}
    (may : coordinator.mayNotePlaybackTime reducer networkId target zncPlaybackCap = true) :
    target ≠ "" := by
  rintro rfl
  rw [mayNotePlaybackTime, if_pos (.inr rfl)] at may
  cases may

/-- The rows of a network after the kept lines were noted. -/
theorem entries_keptReplay [Platform] {networkId : String} (named : networkId ≠ "")
    (reducer : EventReducer Disk) (zncPlaybackCap : String → Bool)
    (coordinator : PlaybackCoordinator) :
    (coordinator.noteKeptReplay reducer zncPlaybackCap).times.playbackEntries networkId =
      notedAll (coordinator.times.playbackEntries networkId)
        (coordinator.notes networkId (.keptReplay reducer zncPlaybackCap)) := by
  rw [noteKeptReplay, notes]
  generalize reducer.facts.keptReplay = lines
  induction lines generalizing coordinator with
  | nil => rfl
  | cons line rest inductionHypothesis =>
      have frame (target : String) (time : Instant) (mapping : IrcCaseMapping) :
          (fun (other : KeptReplay) => other.networkId == networkId &&
            (coordinator.note line.networkId target time mapping).mayNotePlaybackTime reducer
              networkId other.target (zncPlaybackCap networkId)) =
          fun other => other.networkId == networkId &&
            coordinator.mayNotePlaybackTime reducer networkId other.target
              (zncPlaybackCap networkId) := rfl
      rw [List.foldl_cons, List.filter_cons]
      by_cases own : line.networkId = networkId
      · rw [own, beq_self_eq_true, Bool.true_and]
        by_cases may : coordinator.mayNotePlaybackTime reducer networkId line.target
            (zncPlaybackCap networkId) = true
        · rw [if_pos may, if_pos may, inductionHypothesis, List.map_cons, ← List.singleton_append,
            List.filter_append, notedAll_append,
            entries_note coordinator named (mayNote_named may)]
          rfl
        · rw [if_neg may, if_neg may, inductionHypothesis]
      · rw [beq_false_of_ne own, Bool.false_and, if_neg Bool.false_ne_true]
        split
        · rw [inductionHypothesis, frame]
          rw [note, coordinator.times.playbackEntries_note_other _ _ _ (Ne.symm own)]
        · exact inductionHypothesis coordinator

/-- A line is noted under a name. -/
theorem clockNote_named [Platform] {coordinator : PlaybackCoordinator} {reducer : EventReducer Disk}
    {networkId currentNick : String} {message : IrcMessage} {zncPlaybackCap : Bool}
    {noted : String × Instant}
    (found : coordinator.clockNote reducer networkId message currentNick zncPlaybackCap =
      some noted) : noted.1 ≠ "" := by
  unfold clockNote at found
  split at found
  · cases found
  split at found
  · cases found
  split at found
  · cases found
  dsimp only at found
  generalize (if (serverFeatures reducer networkId).isChannel (message.textParam 0) ||
      (serverFeatures reducer networkId).caseMapping.equals (prefixNick message) currentNick then
      message.textParam 0 else prefixNick message) = displayTarget at found
  split at found
  · cases found
  split at found
  · cases found
  split at found
  · cases found
  split at found
  · cases found
  split at found
  · rename_i may
    cases found
    exact mayNote_named may
  · cases found

/-- The rows of a network after an inbound line was noted. -/
theorem entries_message [Platform] {networkId : String} (named : networkId ≠ "")
    (reducer : EventReducer Disk) (message : IrcMessage) (currentNick : String)
    (zncPlaybackCap : Bool) (coordinator : PlaybackCoordinator) :
    (coordinator.notePlaybackClock reducer networkId message currentNick
        zncPlaybackCap).times.playbackEntries networkId =
      notedAll (coordinator.times.playbackEntries networkId)
        (coordinator.notes networkId
          (.message reducer message currentNick zncPlaybackCap)) := by
  rw [notePlaybackClock, notes]
  cases noted : coordinator.clockNote reducer networkId message currentNick zncPlaybackCap with
  | none => rfl
  | some found =>
      obtain ⟨target, time⟩ := found
      exact entries_note coordinator named (clockNote_named noted) time _

end Times

/-! ## Runs -/

theorem NotLater.refl (found : Option Instant) : NotLater found found := by
  cases found with
  | none => trivial
  | some time => exact Int.le_refl time

section Runs

open PlaybackCoordinator

variable {Disk : Type} {tracked : Tracked} {coordinator : PlaybackCoordinator}

namespace Tracked

theorem Resumes.same (resumes : tracked.Resumes coordinator) {next : PlaybackCoordinator}
    (same : coordinator.SameTimes next) : tracked.Resumes next where
  named := resumes.named
  stored := by
    rw [same.times]
    exact resumes.stored
  snapshot := by
    rw [same.playbackSnapshot]
    exact resumes.snapshot

/-- Notes that spare the target, with the snapshot as it was. -/
theorem Resumes.noted (resumes : tracked.Resumes coordinator) {next : PlaybackCoordinator}
    {notes : List Note}
    (spares : tracked.Spares (coordinator.times.playbackEntries tracked.networkId) notes)
    (entries : next.times.playbackEntries tracked.networkId =
      notedAll (coordinator.times.playbackEntries tracked.networkId) notes)
    (snapshot : next.playbackSnapshot = coordinator.playbackSnapshot) :
    tracked.Resumes next where
  named := resumes.named
  stored := by
    rw [entries]
    exact spares.stored resumes.stored
  snapshot := by
    rw [snapshot]
    exact resumes.snapshot

/-- A welcome takes the stored times into the snapshot. -/
theorem resumes_welcome (named : tracked.networkId ≠ "" ∧ tracked.target ≠ "")
    (stored : NotLater tracked.bound
      (tracked.stored (coordinator.times.playbackEntries tracked.networkId)))
    (autojoinChannels : List String) :
    tracked.Resumes (coordinator.onRegistered tracked.networkId autojoinChannels) where
  named := named
  stored := stored
  snapshot rows held := by
    replace held : (coordinator.playbackSnapshot.insert tracked.networkId
        (coordinator.times.targets tracked.networkId))[tracked.networkId]? = some rows := held
    rw [found_insert, Option.some_inj] at held
    rw [← held, PlaybackTimeStore.targets, timeOfTarget, List.find?_map, Option.map_map]
    rw [Tracked.stored, timeOfTarget, Option.map_map] at stored
    exact stored

/-- Without a snapshot the stored time is what counts. -/
theorem Resumes.left (resumes : tracked.Resumes coordinator) :
    tracked.Resumes (coordinator.onLeftRegistration tracked.networkId) where
  named := resumes.named
  stored := resumes.stored
  snapshot rows held := by
    replace held : (coordinator.playbackSnapshot.erase tracked.networkId)[tracked.networkId]? =
      some rows := held
    exact absurd rfl (erase_found held).1

/-- A rename that spares the target moves its times, or merges them with no newer ones. -/
theorem Resumes.rekeyed (resumes : tracked.Resumes coordinator) {oldTarget newTarget : String}
    (named : renames oldTarget newTarget = true)
    (spares : tracked.SparesRename coordinator oldTarget newTarget) :
    ({ tracked with target := followed tracked.target oldTarget newTarget tracked.mapping } :
      Tracked).Resumes (coordinator.rekeyTarget tracked.mapping tracked.networkId oldTarget
        newTarget) := by
  rw [renames, Bool.and_eq_true, decide_eq_true_eq, decide_eq_true_eq] at named
  constructor
  · refine ⟨resumes.named.1, ?_⟩
    dsimp only
    rw [followed]
    split
    · exact named.2
    · exact resumes.named.2
  · have entries : (coordinator.rekeyTarget tracked.mapping tracked.networkId oldTarget
        newTarget).times = (coordinator.times.rekey tracked.networkId oldTarget newTarget
          tracked.mapping).1 := by
      rw [rekeyTarget, PlaybackCoordinator.rekey]
      split
      · rfl
      split
      · rfl
      · rfl
    rw [entries, coordinator.times.playbackEntries_rekey _ resumes.named.1 named, Tracked.stored]
    dsimp only
    rcases timeOfTarget_rekeyed PlaybackTimeStore.newer
      (coordinator.times.playbackEntries tracked.networkId) oldTarget newTarget tracked.target with
      kept | ⟨other, time, merged, found, moved⟩
    · rw [kept]
      exact resumes.stored
    · rw [moved]
      exact (spares other merged).1 time found
  · intro rows held
    dsimp only at held ⊢
    rw [rekeyTarget, PlaybackCoordinator.rekey] at held
    dsimp only at held
    cases taken : coordinator.playbackSnapshot[tracked.networkId]? with
    | none =>
        rw [taken] at held
        dsimp only at held
        rw [taken] at held
        cases held
    | some standing =>
        rw [taken] at held
        dsimp only at held
        rw [if_neg (by simp [named.1, named.2])] at held
        replace held : (coordinator.playbackSnapshot.insert tracked.networkId
          (rekeyedRows laterInstant standing oldTarget newTarget
            tracked.mapping))[tracked.networkId]? = some rows := held
        rw [found_insert, Option.some_inj] at held
        rw [← held]
        rcases timeOfTarget_rekeyed laterInstant standing oldTarget newTarget tracked.target with
          kept | ⟨other, time, merged, found, moved⟩
        · rw [kept]
          exact resumes.snapshot standing taken
        · rw [moved]
          exact (spares other merged).2 standing time taken found

/-- A rename without names changes nothing. -/
theorem rekeyTarget_unnamed {networkId oldTarget newTarget : String} (mapping : IrcCaseMapping)
    (unnamed : ¬renames oldTarget newTarget = true) :
    coordinator.SameTimes (coordinator.rekeyTarget mapping networkId oldTarget newTarget) := by
  have empty : oldTarget = "" ∨ newTarget = "" := by
    rw [renames, Bool.and_eq_true, decide_eq_true_eq, decide_eq_true_eq] at unnamed
    by_contra names
    rw [not_or] at names
    exact unnamed names
  rw [rekeyTarget, PlaybackTimeStore.rekey, if_pos (.inr empty), PlaybackCoordinator.rekey]
  split
  · exact .refl _
  · rw [if_pos empty]
    exact .refl _

/-- What a self-JOIN resumes from is no later than the bound. -/
theorem Resumes.historyResumeInstant (resumes : tracked.Resumes coordinator) {target : String}
    (named : tracked.mapping.equals target tracked.target = true) :
    NotLater tracked.bound
      (coordinator.historyResumeInstant tracked.networkId target tracked.mapping) := by
  rw [PlaybackCoordinator.historyResumeInstant]
  cases found : coordinator.playbackSnapshotTime tracked.networkId target tracked.mapping with
  | some time => exact resumes.snapshotTime (.refl _) named found
  | none =>
      dsimp only
      split
      · rename_i taken
        rw [resumes.unbounded (.refl _) taken named found]
        trivial
      · rw [PlaybackTimeStore.noted, if_neg (not_or.mpr
          ⟨resumes.named.1, resumes.named_of_equals named⟩), timeOfTarget_congr named]
        exact resumes.stored

/-- A target after the steps of a run. -/
def afterAll (tracked : Tracked) (steps : List (Step Disk)) : Tracked := steps.foldl after tracked

theorem after_frame (step : Step Disk) :
    (tracked.after step).networkId = tracked.networkId ∧
      (tracked.after step).mapping = tracked.mapping ∧
      (tracked.after step).bound = tracked.bound := by
  cases step with
  | rekey mapping oldTarget newTarget =>
      rw [after]
      split
      · exact ⟨rfl, rfl, rfl⟩
      · exact ⟨rfl, rfl, rfl⟩
  | _ => exact ⟨rfl, rfl, rfl⟩

theorem afterAll_frame (steps : List (Step Disk)) :
    (tracked.afterAll steps).networkId = tracked.networkId ∧
      (tracked.afterAll steps).mapping = tracked.mapping ∧
      (tracked.afterAll steps).bound = tracked.bound := by
  induction steps generalizing tracked with
  | nil => exact ⟨rfl, rfl, rfl⟩
  | cons step rest inductionHypothesis =>
      obtain ⟨network, mapping, bound⟩ := @inductionHypothesis (tracked.after step)
      obtain ⟨sameNetwork, sameMapping, sameBound⟩ := tracked.after_frame step
      exact ⟨network.trans sameNetwork, mapping.trans sameMapping, bound.trans sameBound⟩

variable [Platform] [CharacterClasses] [Reducer.Storage Disk]

/-- A step that meets the condition leaves the target its bound. -/
theorem Resumes.step (resumes : tracked.Resumes coordinator) {step : Step Disk}
    (meets : tracked.Meets coordinator step) :
    (tracked.after step).Resumes (coordinator.step tracked.networkId step).1 := by
  obtain ⟨spares, meets⟩ := meets
  cases step with
  | registered autojoinChannels =>
      exact resumes_welcome resumes.named resumes.stored autojoinChannels
  | leftRegistration => exact resumes.left
  | removed => exact meets.elim
  | message reducer message currentNick zncPlaybackCap =>
      refine resumes.noted spares (entries_message resumes.named.1 ..) ?_
      show (coordinator.notePlaybackClock ..).playbackSnapshot = _
      rw [notePlaybackClock]
      split
      · rfl
      · rfl
  | keptReplay reducer zncPlaybackCap =>
      refine resumes.noted spares (entries_keptReplay resumes.named.1 ..) ?_
      show (coordinator.noteKeptReplay ..).playbackSnapshot = _
      rw [noteKeptReplay]
      have frame : ∀ (lines : List KeptReplay) (coordinator : PlaybackCoordinator),
          (lines.foldl (fun coordinator line =>
            if coordinator.mayNotePlaybackTime reducer line.networkId line.target
                (zncPlaybackCap line.networkId) then
              coordinator.note line.networkId line.target line.serverTime
                (serverFeatures reducer line.networkId).caseMapping
            else coordinator) coordinator).playbackSnapshot = coordinator.playbackSnapshot := by
        intro lines
        induction lines with
        | nil => exact fun _ => rfl
        | cons line rest inductionHypothesis =>
            intro coordinator
            rw [List.foldl_cons, inductionHypothesis]
            split
            · rfl
            · rfl
      exact frame _ _
  | rekey mapping oldTarget newTarget =>
      rw [after]
      by_cases named : renames oldTarget newTarget = true
      · rw [if_pos named]
        obtain ⟨mapped, merges⟩ := meets named
        subst mapped
        exact resumes.rekeyed named merges
      · rw [if_neg named]
        exact resumes.same (rekeyTarget_unnamed mapping named)
  | joined reducer link channel zncPlaybackCap motdSeen =>
      have noted := coordinator.noteJoinedChannel_same
        (serverFeatures reducer tracked.networkId).caseMapping tracked.networkId channel
      exact resumes.same (noted.trans
        (requestChannelPlayback_keeps resumes noted channel zncPlaybackCap motdSeen).same)
  | channelHistory mapping channel => exact resumes
  | request reducer link restoredDirects zncPlaybackCap motdSeen =>
      exact resumes.same (request_keeps resumes restoredDirects zncPlaybackCap motdSeen).same
  | catchUp reducer link restoredDirects chatHistory motdSeen now =>
      exact resumes.same
        (requestCatchUp_keeps resumes meets restoredDirects chatHistory motdSeen now).same
  | discovered reducer link targets currentNick restoredDirects dismissedDirects =>
      exact resumes.same (noteDiscoveredTargets_keeps resumes meets reducer link targets
        currentNick restoredDirects dismissedDirects).same
  | targetsPage link targets historyEnded limit =>
      exact resumes.same
        (noteTargetsPage_keeps tracked.mapping targets historyEnded limit).same
  | retryTargets =>
      refine resumes.same ?_
      show coordinator.SameTimes (coordinator.retryTargets tracked.networkId).1
      rw [PlaybackCoordinator.retryTargets]
      split
      · exact .refl _
      split
      · exact .refl _
      · dsimp only
        exact markAsked_same _ _ _

/-- What a step asks for the target keeps to its bound. -/
theorem Resumes.asks (resumes : tracked.Resumes coordinator) {step : Step Disk}
    (meets : tracked.Meets coordinator step)
    (mapped : step.mapping tracked.networkId = some tracked.mapping) :
    ∀ request ∈ (coordinator.step tracked.networkId step).2, ∀ target,
      request.target = some target → tracked.mapping.equals target tracked.target = true →
      request.Within tracked.bound := by
  obtain ⟨-, meets⟩ := meets
  cases step with
  | joined reducer link channel zncPlaybackCap motdSeen =>
      have noted := coordinator.noteJoinedChannel_same
        (serverFeatures reducer tracked.networkId).caseMapping tracked.networkId channel
      exact (requestChannelPlayback_keeps resumes noted channel zncPlaybackCap motdSeen).within
        (Option.some_inj.mp mapped)
  | channelHistory mapping channel =>
      obtain rfl : mapping = tracked.mapping := Option.some_inj.mp mapped
      intro request listed target asked named
      obtain rfl := List.mem_singleton.mp listed
      rw [channelRequest] at asked ⊢
      cases found : coordinator.historyResumeInstant tracked.networkId channel tracked.mapping with
      | none =>
          rw [found] at asked
          obtain rfl : channel = target := Option.some_inj.mp asked
          have bounded := resumes.historyResumeInstant named
          rw [found] at bounded
          show tracked.bound = none
          cases bound : tracked.bound with
          | none => rfl
          | some limit =>
              rw [bound] at bounded
              exact bounded.elim
      | some time =>
          rw [found] at asked
          obtain rfl : channel = target := Option.some_inj.mp asked
          have bounded := resumes.historyResumeInstant named
          rw [found] at bounded
          intro limit bound
          rw [bound] at bounded
          exact bounded
  | request reducer link restoredDirects zncPlaybackCap motdSeen =>
      exact (request_keeps resumes restoredDirects zncPlaybackCap motdSeen).within
        (Option.some_inj.mp mapped)
  | catchUp reducer link restoredDirects chatHistory motdSeen now =>
      exact (requestCatchUp_keeps resumes meets restoredDirects chatHistory motdSeen now).within
        (Option.some_inj.mp mapped)
  | discovered reducer link targets currentNick restoredDirects dismissedDirects =>
      exact (noteDiscoveredTargets_keeps resumes meets reducer link targets currentNick
        restoredDirects dismissedDirects).within (Option.some_inj.mp mapped)
  | registered | leftRegistration | removed | message | keptReplay | rekey | targetsPage
  | retryTargets => cases mapped

/-- Whether every step of a run meets the condition for a target, which goes by its new name
after a rename. -/
def MeetsAll (tracked : Tracked) : PlaybackCoordinator → List (Step Disk) → Prop
  | _, [] => True
  | coordinator, step :: rest =>
      tracked.Meets coordinator step ∧
        (tracked.after step).MeetsAll (coordinator.step tracked.networkId step).1 rest

/-- Whether every step that asks under the mapping of a target keeps to its bound. -/
def AsksWithin (tracked : Tracked) : PlaybackCoordinator → List (Step Disk) → Prop
  | _, [] => True
  | coordinator, step :: rest =>
      (step.mapping tracked.networkId = some tracked.mapping →
        ∀ request ∈ (coordinator.step tracked.networkId step).2, ∀ target,
          request.target = some target → tracked.mapping.equals target tracked.target = true →
          request.Within tracked.bound) ∧
        (tracked.after step).AsksWithin (coordinator.step tracked.networkId step).1 rest

end Tracked

variable [Platform] [CharacterClasses] [Reducer.Storage Disk]

/-- The coordinator after the steps of a run. -/
def PlaybackCoordinator.steps (networkId : String) (coordinator : PlaybackCoordinator)
    (steps : List (Step Disk)) : PlaybackCoordinator :=
  steps.foldl (fun coordinator step => (coordinator.step networkId step).1) coordinator

theorem Tracked.Resumes.run {steps : List (Step Disk)} (resumes : tracked.Resumes coordinator)
    (meets : tracked.MeetsAll coordinator steps) :
    tracked.AsksWithin coordinator steps ∧
      (tracked.afterAll steps).Resumes (coordinator.steps tracked.networkId steps) := by
  induction steps generalizing tracked coordinator with
  | nil => exact ⟨trivial, resumes⟩
  | cons step rest inductionHypothesis =>
      obtain ⟨asks, later⟩ := inductionHypothesis (resumes.step meets.1) meets.2
      refine ⟨⟨fun mapped => resumes.asks meets.1 mapped, asks⟩, ?_⟩
      rw [(Tracked.after_frame step).1] at later
      exact later

/-- A target of a network as the welcome of a connection finds it. -/
def PlaybackCoordinator.welcomed (coordinator : PlaybackCoordinator) (networkId target : String)
    (mapping : IrcCaseMapping) : Tracked where
  networkId := networkId
  target := target
  mapping := mapping
  bound := coordinator.playbackSnapshotTime networkId target mapping

end Runs

section Witness

/-- A platform that knows the date of one line. -/
@[reducible] def dated : Platform :=
  { reference with
    parseFromStr := fun _ raw =>
      if raw = "1970-01-01T00:00:05.000Z" then some (5 * 10 ^ 9) else none }

local instance playbackPlatform : Platform := dated
local instance playbackClasses : CharacterClasses := asciiClasses
local instance playbackStorage : Reducer.Storage Memory := memory

/-- A network whose channel was noted at one second. -/
def resumable : PlaybackCoordinator :=
  { times := { cache := ((∅ : StringMap (List PlaybackEntry)).insert "n" [⟨"#c", 1000⟩]) } }

/-- The reducer of a client that has seen nothing. -/
def quietReducer : EventReducer Memory := { facts := { disk := {} } }

/-- A line to a channel at five seconds. -/
def liveLine (channel : String) : IrcMessage where
  tags := [⟨"time", utf8 "1970-01-01T00:00:05.000Z"⟩]
  msgPrefix := some ⟨utf8 "peer!u@h", utf8 "peer", utf8 "u", utf8 "h"⟩
  command := "PRIVMSG"
  params := [utf8 channel, utf8 "hello"]

/-- One connection asks for the history of `#c` and gets a live line of a channel before the
answer. The next connection asks again. -/
def interrupted (channel : String) : List (Step Memory) :=
  [.channelHistory .rfc1459 "#c", .message quietReducer (liveLine channel) "me" false,
    .leftRegistration, .registered [], .channelHistory .rfc1459 "#c"]

end Witness

end Omairc.Playback

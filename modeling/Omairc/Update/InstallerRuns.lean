import Omairc.Semantics.Execution
import Omairc.Session.Reference
import Omairc.Update.UpdateCheck

/-!
# Runs of the update check

The check and the download answer late, so a run may present any ticket that was handed
out before. `Session` keeps, next to the update check, which jobs were started, which one
is running, which files were committed, and which processes started. The installer that
starts is the one of the newest job.
-/

namespace Omairc.Update

open Omairc.Text

/-- A job that was handed a ticket. A download knows the release it was started for. -/
inductive Job
  | check (ticket : CheckTicket)
  | download (ticket : DownloadTicket) (release : Release)
  deriving DecidableEq

/-- The generation of a job. -/
def Job.generation : Job → Nat
  | .check ticket => ticket.generation
  | .download ticket _ => ticket.generation

/-- One run of the client: the update check, the jobs it started with the newest in front,
the job whose answer is awaited, the committed files, and the processes that started. -/
structure Session where
  update : UpdateCheck
  jobs : List Job := []
  running : Option Job := none
  commits : List (DownloadTicket × FilePath) := []
  started : List FilePath := []

/-- What happens to the update check. -/
inductive Act
  | beginCheck
  | finishCheck (ticket : CheckTicket) (release : Option Release)
  | cancelCheck
  | startDownload
  | reportProgress (ticket : DownloadTicket) (written : Nat)
  | commitDownload (ticket : DownloadTicket) (installer : Option FilePath)
  | launchInstaller (files : FilePath → Option Bytes) (starts : Bool)
  | launchOnClose (files : FilePath → Option Bytes) (starts : Bool)

namespace Session

variable [Platform]

/-- A client that has just opened. -/
def opened (current : String) (installedCopy : Bool) : Session where
  update := { current, installedCopy }

/-- Whether a check was handed this ticket. -/
def holdsCheck (session : Session) (ticket : CheckTicket) : Bool :=
  session.jobs.contains (.check ticket)

/-- Whether a download was handed this ticket. -/
def holdsDownload (session : Session) (ticket : DownloadTicket) : Bool :=
  session.jobs.any fun
    | .check _ => false
    | .download handed _ => handed == ticket

/-- Whether a check's ticket is that of the running job. -/
def awaitsCheck (session : Session) (ticket : CheckTicket) : Bool :=
  session.running == some (.check ticket)

/-- Whether a download's ticket is that of the running job. -/
def awaitsDownload (session : Session) (ticket : DownloadTicket) : Bool :=
  session.running.any fun
    | .check _ => false
    | .download handed _ => handed == ticket

/-- Record what a launch did. -/
def launch (session : Session) (update : UpdateCheck) (outcome : Option LaunchOutcome) : Session :=
  { session with
    update
    started :=
      if outcome = some .started then session.started ++ session.update.installerPath.toList
      else session.started }

/-- What one act does. A ticket that was never handed out cannot be presented. -/
def step (session : Session) : Act → Option Session
  | .beginCheck =>
      let (update, ticket) := session.update.beginCheck
      match ticket with
      | none => some { session with update }
      | some ticket =>
          let job := Job.check ticket
          some { session with update, jobs := job :: session.jobs, running := some job }
  | .finishCheck ticket release =>
      if session.holdsCheck ticket then
        some { session with
          update := (session.update.finishCheck ticket release).1
          running := if session.awaitsCheck ticket then none else session.running }
      else none
  | .cancelCheck =>
      some { session with
        update := session.update.cancelCheck
        running := match session.running with
          | some (.check _) => none
          | running => running }
  | .startDownload =>
      let (update, ticket) := session.update.startDownload
      match ticket, session.update.latest with
      | some ticket, some release =>
          let job := Job.download ticket release
          some { session with update, jobs := job :: session.jobs, running := some job }
      | _, _ => some { session with update }
  | .reportProgress ticket written =>
      if session.holdsDownload ticket then
        some { session with update := (session.update.reportProgress ticket written).1 }
      else none
  | .commitDownload ticket installer =>
      if session.holdsDownload ticket then
        let (update, accepted) := session.update.commitDownload ticket installer
        some { session with
          update
          running := if session.awaitsDownload ticket then none else session.running
          commits :=
            if accepted then installer.toList.map (ticket, ·) ++ session.commits
            else session.commits }
      else none
  | .launchInstaller files starts =>
      let (update, outcome) :=
        session.update.launchInstaller (fun _ => starts) (installerMatches files)
      some (session.launch update (some outcome))
  | .launchOnClose files starts =>
      let (update, outcome) :=
        session.update.launchOnClose (fun _ => starts) (installerMatches files)
      some (session.launch update outcome)

/-- Whether an act carries a ticket whose job is not running any more. -/
def stale (session : Session) : Act → Bool
  | .finishCheck ticket _ => !session.awaitsCheck ticket
  | .reportProgress ticket _ | .commitDownload ticket _ => !session.awaitsDownload ticket
  | _ => false

end Session

/-! ## What the operations do -/

namespace UpdateCheck

variable {update : UpdateCheck}

/-- A check starts unless one, or a download, is running. -/
theorem beginCheck_cases (update : UpdateCheck) :
    update.beginCheck = (update, none) ∨
      update.status ≠ .checking ∧ update.isDownloading = false ∧
        update.beginCheck =
          ({ update with
              generation := update.generation + 1, latest := none, installerPath := none,
              status := .checking }, some ⟨update.generation + 1⟩) := by
  unfold beginCheck
  split
  · exact .inl rfl
  · rename_i quiet
    rw [not_or, Bool.not_eq_true] at quiet
    exact .inr ⟨quiet.1, quiet.2, rfl⟩

/-- A reply of a check that is not running changes nothing. -/
theorem finishCheck_of_stale [Platform] {ticket : CheckTicket}
    (late : update.currentCheck ticket = false) (release : Option Release) : update.finishCheck ticket release = (update, false) := by
  simp [finishCheck, late]

/-- The reply of the running check settles the status. -/
theorem finishCheck_of_current [Platform] {ticket : CheckTicket}
    (current : update.currentCheck ticket = true) (release : Option Release) :
    ∃ status latest, (update.finishCheck ticket release).1 = { update with status, latest } ∧
      (status = .failed ∨ status = .available ∨ status = .upToDate) := by
  cases release with
  | none => exact ⟨.failed, none, by simp [finishCheck, current], .inl rfl⟩
  | some release =>
      cases order : compareVersions update.current release.version with
      | lt =>
          exact ⟨.available, some release, by simp [finishCheck, current, order], .inr (.inl rfl)⟩
      | eq =>
          exact ⟨.upToDate, some release, by simp [finishCheck, current, order], .inr (.inr rfl)⟩
      | gt =>
          exact ⟨.upToDate, some release, by simp [finishCheck, current, order], .inr (.inr rfl)⟩

/-- A download starts for the setup of the latest release. -/
theorem startDownload_cases (update : UpdateCheck) :
    update.startDownload = (update, none) ∨
      ∃ release setup, (update.status = .available ∨ update.status = .downloadFailed) ∧
        update.latest = some release ∧ release.setup = some setup ∧
        update.startDownload =
          ({ update with
              generation := update.generation + 1, status := .downloading 0 setup.size },
            some ⟨update.generation + 1, release.version, setup⟩) := by
  unfold startDownload
  split
  · exact .inl rfl
  split
  · exact .inl rfl
  rename_i offered
  rw [not_not] at offered
  split
  · exact .inl rfl
  rename_i release held
  split
  · exact .inl rfl
  · rename_i setup listed
    exact .inr ⟨release, setup, offered, held, listed, rfl⟩

/-- Progress under a ticket that is not of the running download changes nothing. -/
theorem reportProgress_of_stale {ticket : DownloadTicket}
    (late : update.currentDownload ticket = false) (written : Nat) :
    update.reportProgress ticket written = (update, false) := by
  simp [reportProgress, late]

/-- Progress keeps the download running. -/
theorem reportProgress_of_current {ticket : DownloadTicket}
    (current : update.currentDownload ticket = true) (written : Nat) :
    ∃ arrived total, (update.reportProgress ticket written).1 =
      { update with status := .downloading arrived total } := by
  have running : update.isDownloading = true := (Bool.and_eq_true_iff.mp current).2
  cases status : update.status with
  | downloading arrived total => exact ⟨min written total, total, by simp [reportProgress, current, status]⟩
  | _ => simp [isDownloading, status] at running

/-- A result under a ticket that is not of the running download changes nothing. -/
theorem commitDownload_of_stale {ticket : DownloadTicket}
    (late : update.currentDownload ticket = false) (installer : Option FilePath) :
    update.commitDownload ticket installer = (update, false) := by
  simp [commitDownload, late]

/-- The result of the running download is its file, ready to start, or a failure. -/
theorem commitDownload_of_current {ticket : DownloadTicket}
    (current : update.currentDownload ticket = true) (installer : Option FilePath) :
    update.commitDownload ticket installer =
      ({ update with
          installerPath := installer
          status := if installer.isSome then .readyToRestart else .downloadFailed }, true) := by
  cases installer <;> simp [commitDownload, current]

/-- A launch does nothing, drops a file that does not match, counts an attempt that did not
start, or starts the committed file after checking it. -/
theorem launchInstaller_cases (update : UpdateCheck) (launcher : FilePath → Bool)
    (verify : FilePath → WindowsSetup → Bool) :
    (∃ outcome, outcome ≠ .started ∧
      update.launchInstaller launcher verify = (update, outcome)) ∨
    (update.status = .readyToRestart ∧ update.launchInstaller launcher verify =
      ({ update with installerPath := none, status := .downloadFailed }, .verificationFailed)) ∨
    update.launchInstaller launcher verify =
      ({ update with launchAttempts := update.launchAttempts + 1 }, .spawnFailed) ∨
    ∃ path setup, update.status = .readyToRestart ∧ update.launched = false ∧
      update.installerPath = some path ∧ update.latest.bind Release.setup = some setup ∧
      verify path setup = true ∧ (update.launchProcess = false ∨ launcher path = true) ∧
      update.launchInstaller launcher verify =
        ({ update with launchAttempts := update.launchAttempts + 1, launched := true },
          .started) := by
  unfold launchInstaller
  split
  · exact .inl ⟨.notReady, nofun, rfl⟩
  rename_i ready
  rw [not_not] at ready
  split
  · exact .inl ⟨.alreadyStarted, nofun, rfl⟩
  rename_i first
  split
  · rename_i path setup there listed
    split
    · exact .inr (.inl ⟨ready, rfl⟩)
    rename_i verified
    rw [Bool.not_eq_true, Bool.not_eq_false'] at verified
    dsimp only
    split
    · rename_i starts
      rw [Bool.or_eq_true, Bool.not_eq_true'] at starts
      exact .inr (.inr (.inr
        ⟨path, setup, ready, Bool.not_eq_true _ ▸ first, there, listed, verified, starts, rfl⟩))
    · exact .inr (.inr (.inl rfl))
  · exact .inl ⟨.notReady, nofun, rfl⟩

/-- Closing the window does nothing, or launches. -/
theorem launchOnClose_cases (update : UpdateCheck) (launcher : FilePath → Bool)
    (verify : FilePath → WindowsSetup → Bool) :
    update.launchOnClose launcher verify = (update, none) ∨
      update.launchOnClose launcher verify =
        ((update.launchInstaller launcher verify).1,
          some (update.launchInstaller launcher verify).2) := by
  unfold launchOnClose
  split
  · exact .inl rfl
  · exact .inr rfl

end UpdateCheck

/-! ## The invariant -/

/-- What the awaited job says about the update check. -/
inductive Awaited (update : UpdateCheck) (newest : Option Job) : Option Job → Prop
  | idle (quiet : update.status ≠ .checking) (settled : update.isDownloading = false) :
      Awaited update newest none
  | check {ticket : CheckTicket} (status : update.status = .checking)
      (current : ticket.generation = update.generation) :
      Awaited update newest (some (.check ticket))
  | download {ticket : DownloadTicket} {release : Release}
      (status : update.isDownloading = true) (current : ticket.generation = update.generation)
      (first : newest = some (.download ticket release)) (held : update.latest = some release)
      (setup : release.setup = some ticket.setup) :
      Awaited update newest (some (.download ticket release))

/-- Only the status, the generation and the held release matter to the awaited job. -/
theorem Awaited.of_same {update other : UpdateCheck} {newest running : Option Job}
    (awaited : Awaited update newest running) (status : other.status = update.status)
    (generation : other.generation = update.generation) (latest : other.latest = update.latest) :
    Awaited other newest running := by
  have downloading : other.isDownloading = update.isDownloading := by
    simp only [UpdateCheck.isDownloading, status]
  cases awaited with
  | idle quiet settled => exact .idle (status ▸ quiet) (downloading.trans settled)
  | check checking current => exact .check (status.trans checking) (current.trans generation.symm)
  | download running current first held setup =>
      exact .download (downloading.trans running) (current.trans generation.symm) first
        (latest.trans held) setup

/-- A staged file was committed under the newest ticket, for the release that is held. -/
structure Staged (session : Session) (path : FilePath) (ticket : DownloadTicket)
    (release : Release) : Prop where
  newest : session.jobs.head? = some (.download ticket release)
  committed : (ticket, path) ∈ session.commits
  held : session.update.latest = some release
  setup : release.setup = some ticket.setup

/-- What holds of every run. -/
structure Session.Lawful (session : Session) : Prop where
  bounded : ∀ job ∈ session.jobs, job.generation ≤ session.update.generation
  newest : ∀ job ∈ session.jobs, job.generation = session.update.generation →
    session.jobs.head? = some job
  awaited : Awaited session.update session.jobs.head? session.running
  staged : session.update.status = .readyToRestart →
    ∀ path, session.update.installerPath = some path →
      ∃ ticket release, Staged session path ticket release
  processes : session.update.launchProcess = true
  once : session.started = [] ∨ session.update.launched = true ∧ session.started.length = 1

namespace Session

variable {session : Session}

theorem awaitsCheck_iff {ticket : CheckTicket} :
    session.awaitsCheck ticket = true ↔ session.running = some (.check ticket) := by
  simp [awaitsCheck]

theorem awaitsDownload_iff {ticket : DownloadTicket} :
    session.awaitsDownload ticket = true ↔
      ∃ release, session.running = some (.download ticket release) := by
  unfold awaitsDownload
  constructor
  · intro awaits
    cases running : session.running with
    | none => simp [running] at awaits
    | some job =>
        cases job with
        | check => simp [running] at awaits
        | download handed release =>
            rw [running] at awaits
            have same : handed = ticket := by simpa using awaits
            exact ⟨release, by rw [same]⟩
  · rintro ⟨release, running⟩
    simp [running]

theorem holdsDownload_iff {ticket : DownloadTicket} :
    session.holdsDownload ticket = true ↔
      ∃ release, Job.download ticket release ∈ session.jobs := by
  unfold holdsDownload
  constructor
  · intro holds
    obtain ⟨job, listed, matching⟩ := List.any_eq_true.mp holds
    cases job with
    | check => cases matching
    | download handed release =>
        have same : handed = ticket := by simpa using matching
        exact ⟨release, same ▸ listed⟩
  · rintro ⟨release, listed⟩
    exact List.any_eq_true.mpr ⟨_, listed, by simp⟩

namespace Lawful

/-- A fresh client is lawful. -/
theorem opened (current : String) (installedCopy : Bool) : (opened current installedCopy).Lawful where
  bounded := nofun
  newest := nofun
  awaited := .idle nofun rfl
  staged := nofun
  processes := rfl
  once := .inl rfl

/-- A check answers under the ticket of the update check exactly when it is awaited. -/
theorem currentCheck_eq (lawful : session.Lawful) (ticket : CheckTicket) :
    session.update.currentCheck ticket = session.awaitsCheck ticket := by
  rw [Bool.eq_iff_iff, awaitsCheck_iff]
  have awaited := lawful.awaited
  constructor
  · intro current
    obtain ⟨generation, checking⟩ := Bool.and_eq_true_iff.mp current
    have same : ticket.generation = session.update.generation := by simpa using generation
    have checking : session.update.status = .checking := by simpa using checking
    cases running : session.running with
    | none =>
        rw [running] at awaited
        cases awaited with
        | idle quiet settled => exact absurd checking quiet
    | some job =>
        rw [running] at awaited
        cases awaited with
        | @check handed status later =>
            have one : handed = ticket := by
              cases handed
              cases ticket
              exact congrArg CheckTicket.mk (later.trans same.symm)
            rw [one]
        | download status later first held setup =>
            simp [UpdateCheck.isDownloading, checking] at status
  · intro running
    rw [running] at awaited
    cases awaited with
    | check status current => simp [UpdateCheck.currentCheck, status, current]

/-- A handed-out ticket is that of the update check's download exactly when it is awaited. -/
theorem currentDownload_eq (lawful : session.Lawful) {ticket : DownloadTicket}
    (handed : session.holdsDownload ticket = true) :
    session.update.currentDownload ticket = session.awaitsDownload ticket := by
  rw [Bool.eq_iff_iff, awaitsDownload_iff]
  have awaited := lawful.awaited
  constructor
  · intro current
    obtain ⟨generation, downloading⟩ := Bool.and_eq_true_iff.mp current
    have same : ticket.generation = session.update.generation := by simpa using generation
    obtain ⟨release, listed⟩ := holdsDownload_iff.mp handed
    have newest := lawful.newest _ listed same
    cases running : session.running with
    | none =>
        rw [running] at awaited
        cases awaited with
        | idle quiet settled => simp [downloading] at settled
    | some other =>
        rw [running] at awaited
        cases awaited with
        | check status later => simp [UpdateCheck.isDownloading, status] at downloading
        | download status later first held setup =>
            exact ⟨release, first.symm.trans newest⟩
  · rintro ⟨release, running⟩
    rw [running] at awaited
    cases awaited with
    | download status current first held setup =>
        simp [UpdateCheck.currentDownload, status, current]

/-- An operation with a stale ticket changes nothing. -/
theorem stale_ignored [Platform] (lawful : session.Lawful) {act : Act} {next : Session}
    (late : session.stale act = true) (taken : session.step act = some next) : next = session := by
  cases act with
  | finishCheck ticket release =>
      have late : session.awaitsCheck ticket = false := by simpa [stale] using late
      have ignored := (lawful.currentCheck_eq ticket).trans late
      simp only [step, late, UpdateCheck.finishCheck_of_stale ignored] at taken
      split at taken
      · exact (Option.some_inj.mp taken).symm
      · cases taken
  | reportProgress ticket written =>
      have late : session.awaitsDownload ticket = false := by simpa [stale] using late
      simp only [step] at taken
      split at taken
      · rename_i handed
        have ignored := (lawful.currentDownload_eq handed).trans late
        rw [UpdateCheck.reportProgress_of_stale ignored] at taken
        exact (Option.some_inj.mp taken).symm
      · cases taken
  | commitDownload ticket installer =>
      have late : session.awaitsDownload ticket = false := by simpa [stale] using late
      simp only [step, late] at taken
      split at taken
      · rename_i handed
        have ignored := (lawful.currentDownload_eq handed).trans late
        rw [UpdateCheck.commitDownload_of_stale ignored] at taken
        exact (Option.some_inj.mp taken).symm
      · cases taken
  | _ => cases late

/-- The next job has the next generation. -/
theorem hand (lawful : session.Lawful) {update : UpdateCheck} {job : Job}
    (generation : update.generation = session.update.generation + 1)
    (own : job.generation = session.update.generation + 1)
    (awaited : Awaited update (some job) (some job)) (unready : update.status ≠ .readyToRestart)
    (processes : update.launchProcess = session.update.launchProcess)
    (launched : update.launched = session.update.launched) :
    Lawful { session with update, jobs := job :: session.jobs, running := some job } where
  bounded := by
    intro other listed
    rcases List.mem_cons.mp listed with rfl | listed
    · exact (own.trans generation.symm).le
    · have earlier := lawful.bounded other listed
      show other.generation ≤ update.generation
      omega
  newest := by
    intro other listed same
    rcases List.mem_cons.mp listed with rfl | listed
    · rfl
    · have earlier := lawful.bounded other listed
      have same : other.generation = update.generation := same
      omega
  awaited := awaited
  staged := fun ready => absurd ready unready
  processes := processes.trans lawful.processes
  once := by
    show _ ∨ update.launched = true ∧ _
    rw [launched]
    exact lawful.once

/-- The answer of the awaited job ends it. -/
theorem settle (lawful : session.Lawful) {update : UpdateCheck}
    {commits : List (DownloadTicket × FilePath)}
    (generation : update.generation = session.update.generation)
    (quiet : update.status ≠ .checking) (settled : update.isDownloading = false)
    (staged : update.status = .readyToRestart → ∀ path, update.installerPath = some path →
      ∃ ticket release, Staged { session with update, running := none, commits } path ticket release)
    (processes : update.launchProcess = session.update.launchProcess)
    (launched : update.launched = session.update.launched) :
    Lawful { session with update, running := none, commits } where
  bounded := fun job listed => (lawful.bounded job listed).trans_eq generation.symm
  newest := fun job listed same => lawful.newest job listed (same.trans generation)
  awaited := .idle quiet settled
  staged := staged
  processes := processes.trans lawful.processes
  once := by
    show _ ∨ update.launched = true ∧ _
    rw [launched]
    exact lawful.once

/-- No job runs while an installer waits to start. -/
theorem idle_of_ready (lawful : session.Lawful) (ready : session.update.status = .readyToRestart) :
    session.running = none := by
  have awaited := lawful.awaited
  cases running : session.running with
  | none => rfl
  | some job =>
      rw [running] at awaited
      cases awaited with
      | check status current => rw [ready] at status; cases status
      | download status current first held setup =>
          simp [UpdateCheck.isDownloading, ready] at status

/-- An attempt to start the staged file leaves it staged. -/
theorem attempt (lawful : session.Lawful) {launched : Bool} {started : List FilePath}
    (once : started = [] ∨ launched = true ∧ started.length = 1) :
    Lawful { session with
      update := { session.update with
        launchAttempts := session.update.launchAttempts + 1, launched }
      started } where
  bounded := lawful.bounded
  newest := lawful.newest
  awaited := lawful.awaited.of_same rfl rfl rfl
  staged := by
    intro ready path there
    obtain ⟨ticket, release, staged⟩ := lawful.staged ready path there
    exact ⟨ticket, release, staged.newest, staged.committed, staged.held, staged.setup⟩
  processes := lawful.processes
  once := once

/-- A launch keeps the law, whichever way it ends. -/
theorem launch (lawful : session.Lawful) (launcher : FilePath → Bool)
    (verify : FilePath → WindowsSetup → Bool) :
    (session.launch (session.update.launchInstaller launcher verify).1
      (some (session.update.launchInstaller launcher verify).2)).Lawful := by
  rcases session.update.launchInstaller_cases launcher verify with
    ⟨outcome, idle, result⟩ | ⟨ready, result⟩ | result |
      ⟨path, setup, ready, first, there, listed, verified, spawned, result⟩
  · rw [result, Session.launch, if_neg (fun same => idle (Option.some_inj.mp same))]
    exact lawful
  · rw [result, Session.launch, if_neg nofun]
    exact
      { lawful with
        awaited := by
          show Awaited _ _ session.running
          rw [lawful.idle_of_ready ready]
          exact .idle nofun rfl
        staged := nofun }
  · rw [result, Session.launch, if_neg nofun]
    exact lawful.attempt lawful.once
  · rw [result, Session.launch, if_pos rfl]
    have alone : (session.started ++ session.update.installerPath.toList).length = 1 := by
      rcases lawful.once with unstarted | ⟨launched, _⟩
      · rw [unstarted, there]
        rfl
      · rw [first] at launched
        cases launched
    exact lawful.attempt (.inr ⟨rfl, alone⟩)

/-- A cancelled check is not awaited any more. -/
theorem cancel (lawful : session.Lawful) :
    Lawful { session with
      update := session.update.cancelCheck
      running := match session.running with
        | some (.check _) => none
        | running => running } := by
  have awaited := lawful.awaited
  cases running : session.running with
  | none =>
      rw [running] at awaited
      cases awaited with
      | idle quiet settled =>
          rw [UpdateCheck.cancelCheck, if_pos quiet]
          show Lawful { session with running := none }
          rw [← running]
          exact lawful
  | some job =>
      rw [running] at awaited
      cases awaited with
      | check status current =>
          rw [UpdateCheck.cancelCheck, if_neg (not_not.mpr status)]
          exact
            { lawful with
              bounded := fun job listed => (lawful.bounded job listed).trans (Nat.le_succ _)
              newest := by
                intro job listed same
                have earlier := lawful.bounded job listed
                have same : job.generation = session.update.generation + 1 := same
                omega
              awaited := .idle nofun rfl
              staged := nofun }
      | download status current first held setup =>
          have quiet : session.update.status ≠ .checking := by
            intro checking
            simp [UpdateCheck.isDownloading, checking] at status
          rw [UpdateCheck.cancelCheck, if_pos quiet]
          show Lawful { session with running := some _ }
          rw [← running]
          exact lawful

/-- Progress leaves the download awaited. -/
theorem progress (lawful : session.Lawful) {ticket : DownloadTicket} {arrived total : Nat}
    (awaits : session.awaitsDownload ticket = true) :
    Lawful { session with
      update := { session.update with status := .downloading arrived total } } := by
  obtain ⟨release, running⟩ := awaitsDownload_iff.mp awaits
  have awaited := lawful.awaited
  rw [running] at awaited
  cases awaited with
  | download status current first held setup =>
      exact
        { lawful with
          awaited := by
            show Awaited _ _ session.running
            rw [running]
            exact .download rfl current first held setup
          staged := nofun }

/-- The result of the awaited download is staged for its release. -/
theorem commit (lawful : session.Lawful) {ticket : DownloadTicket}
    (awaits : session.awaitsDownload ticket = true) (installer : Option FilePath) :
    Lawful { session with
      update := { session.update with
        installerPath := installer
        status := if installer.isSome then .readyToRestart else .downloadFailed }
      running := none
      commits := installer.toList.map (ticket, ·) ++ session.commits } := by
  obtain ⟨release, running⟩ := awaitsDownload_iff.mp awaits
  have awaited := lawful.awaited
  rw [running] at awaited
  cases awaited with
  | download status current first held setup =>
      cases installer with
      | none => exact lawful.settle rfl nofun rfl nofun rfl rfl
      | some path =>
          refine lawful.settle rfl nofun rfl ?_ rfl rfl
          intro ready other there
          cases there
          exact ⟨ticket, release, first, List.mem_cons_self, held, setup⟩

/-- Every act keeps the law. -/
theorem step [Platform] (lawful : session.Lawful) {act : Act} {next : Session}
    (taken : session.step act = some next) : next.Lawful := by
  cases act with
  | beginCheck =>
      rcases session.update.beginCheck_cases with result | ⟨quiet, settled, result⟩
      · simp only [Session.step, result] at taken
        exact Option.some_inj.mp taken ▸ lawful
      · simp only [Session.step, result] at taken
        cases taken
        exact lawful.hand rfl rfl (.check rfl rfl) nofun rfl rfl
  | finishCheck ticket release =>
      by_cases awaits : session.awaitsCheck ticket = true
      · have current := (lawful.currentCheck_eq ticket).trans awaits
        obtain ⟨status, latest, result, replied⟩ :=
          UpdateCheck.finishCheck_of_current current release
        simp only [Session.step, awaits, result, if_true] at taken
        split at taken
        · cases taken
          refine lawful.settle rfl ?_ ?_ ?_ rfl rfl
          · rcases replied with rfl | rfl | rfl <;> nofun
          · rcases replied with rfl | rfl | rfl <;> rfl
          · rcases replied with rfl | rfl | rfl <;> nofun
        · cases taken
      · rw [lawful.stale_ignored (by simpa [stale] using awaits) taken]
        exact lawful
  | cancelCheck =>
      cases taken
      exact lawful.cancel
  | startDownload =>
      rcases session.update.startDownload_cases with
        result | ⟨release, setup, offered, held, listed, result⟩
      · simp only [Session.step, result] at taken
        exact Option.some_inj.mp taken ▸ lawful
      · simp only [Session.step, result, held] at taken
        cases taken
        exact lawful.hand rfl rfl (.download rfl rfl rfl rfl listed) nofun rfl rfl
  | reportProgress ticket written =>
      by_cases awaits : session.awaitsDownload ticket = true
      · simp only [Session.step] at taken
        split at taken
        · rename_i handed
          have current := (lawful.currentDownload_eq handed).trans awaits
          obtain ⟨arrived, total, result⟩ := UpdateCheck.reportProgress_of_current current written
          rw [result] at taken
          cases taken
          exact lawful.progress awaits
        · cases taken
      · rw [lawful.stale_ignored (by simpa [stale] using awaits) taken]
        exact lawful
  | commitDownload ticket installer =>
      by_cases awaits : session.awaitsDownload ticket = true
      · simp only [Session.step, awaits, if_true] at taken
        split at taken
        · rename_i handed
          have current := (lawful.currentDownload_eq handed).trans awaits
          rw [UpdateCheck.commitDownload_of_current current] at taken
          cases taken
          exact lawful.commit awaits installer
        · cases taken
      · rw [lawful.stale_ignored (by simpa [stale] using awaits) taken]
        exact lawful
  | launchInstaller files starts =>
      cases taken
      exact lawful.launch ..
  | launchOnClose files starts =>
      rcases session.update.launchOnClose_cases (fun _ => starts) (installerMatches files) with
        result | result
      · simp only [Session.step, result] at taken
        cases taken
        exact lawful
      · simp only [Session.step, result] at taken
        cases taken
        exact lawful.launch ..

end Lawful

end Session

/-! ## The installer that starts -/

/-- A launch starts nothing, or the staged file after it was checked. -/
theorem Session.launch_started (session : Session) (launcher : FilePath → Bool)
    (verify : FilePath → WindowsSetup → Bool) :
    (session.launch (session.update.launchInstaller launcher verify).1
        (some (session.update.launchInstaller launcher verify).2)).started = session.started ∨
      ∃ path setup, session.update.status = .readyToRestart ∧
        session.update.installerPath = some path ∧
        session.update.latest.bind Release.setup = some setup ∧ verify path setup = true ∧
        (session.launch (session.update.launchInstaller launcher verify).1
          (some (session.update.launchInstaller launcher verify).2)).started =
            session.started ++ [path] := by
  rcases session.update.launchInstaller_cases launcher verify with
    ⟨outcome, idle, result⟩ | ⟨ready, result⟩ | result |
      ⟨path, setup, ready, first, there, listed, verified, spawned, result⟩
  · rw [result, Session.launch, if_neg (fun same => idle (Option.some_inj.mp same))]
    exact .inl rfl
  · rw [result]
    exact .inl rfl
  · rw [result]
    exact .inl rfl
  · rw [result]
    refine .inr ⟨path, setup, ready, there, listed, verified, ?_⟩
    rw [Session.launch, if_pos rfl, there]
    rfl

section Runs

variable [Platform]

/-- Every run is lawful. -/
theorem runs_lawful {current : String} {installedCopy : Bool} {session : Session}
    (runs : Semantics.Runs Session.step Semantics.unguarded (.opened current installedCopy) session) :
    session.Lawful :=
  runs.invariant Session.Lawful (.opened current installedCopy) fun lawful _ taken =>
    lawful.step taken

/-- The files an act finds. -/
def Act.files : Act → FilePath → Option Bytes
  | .launchInstaller files _ | .launchOnClose files _ => files
  | _ => fun _ => none

/-- Whether the file at a path has the size and the digest that a setup declares. -/
theorem installerMatches_iff {files : FilePath → Option Bytes} {path : FilePath}
    {setup : WindowsSetup} :
    installerMatches files path setup = true ↔
      ∃ content, files path = some content ∧ content.length = setup.size ∧
        hexLower (Platform.sha256 content) = setup.sha256 := by
  unfold installerMatches
  cases files path with
  | none => simp
  | some content => simp

/-- What an act adds to the started processes: nothing, or the staged file, which matches the
setup of the held release. -/
theorem Session.step_started {session next : Session} {act : Act}
    (taken : session.step act = some next) :
    next.started = session.started ∨
      ∃ path setup, session.update.status = .readyToRestart ∧
        session.update.installerPath = some path ∧
        session.update.latest.bind Release.setup = some setup ∧
        installerMatches act.files path setup = true ∧ next.started = session.started ++ [path] := by
  cases act with
  | launchInstaller files starts =>
      cases taken
      exact session.launch_started ..
  | launchOnClose files starts =>
      rcases session.update.launchOnClose_cases (fun _ => starts) (installerMatches files) with
        result | result
      · simp only [Session.step, result] at taken
        cases taken
        exact .inl rfl
      · simp only [Session.step, result] at taken
        cases taken
        exact session.launch_started ..
  | beginCheck | startDownload =>
      simp only [Session.step] at taken
      split at taken
      all_goals
        cases taken
        exact .inl rfl
  | cancelCheck =>
      cases taken
      exact .inl rfl
  | finishCheck | reportProgress | commitDownload =>
      simp only [Session.step] at taken
      split at taken
      · cases taken
        exact .inl rfl
      · cases taken

/-- In every run at most one installer process starts. It is started from the file that was
committed under the newest ticket of all, a download's for the release that is held, and the
file has the size and the digest of that release's setup at the moment of the launch. An
operation with the ticket of a job that is not running any more changes nothing. -/
theorem installer_starts_once_verified {current : String} {installedCopy : Bool}
    {session next : Session} {act : Act}
    (runs : Semantics.Runs Session.step Semantics.unguarded (.opened current installedCopy) session)
    (taken : session.step act = some next) :
    next.started.length ≤ 1 ∧
      (next.started = session.started ∨
        ∃ path ticket release content, next.started = session.started ++ [path] ∧
          Staged session path ticket release ∧ act.files path = some content ∧
          content.length = ticket.setup.size ∧
          hexLower (Platform.sha256 content) = ticket.setup.sha256) ∧
      (session.stale act = true → next = session) := by
  have lawful := runs_lawful runs
  refine ⟨?_, ?_, fun late => lawful.stale_ignored late taken⟩
  · rcases (lawful.step taken).once with unstarted | ⟨_, once⟩
    · simp [unstarted]
    · exact once.le
  · rcases Session.step_started taken with same | ⟨path, setup, ready, there, listed, verified, added⟩
    · exact .inl same
    · obtain ⟨ticket, release, staged⟩ := lawful.staged ready path there
      have own : setup = ticket.setup := by
        rw [staged.held, Option.bind_some, staged.setup] at listed
        exact (Option.some_inj.mp listed).symm
      obtain ⟨content, found, size, digest⟩ := installerMatches_iff.mp verified
      exact .inr ⟨path, ticket, release, content, added, staged, found, own ▸ size, own ▸ digest⟩

end Runs

section Witness

/-- The reference platform with the SHA-256 digest of "abc" in the place of any. -/
local instance installerPlatform : Platform :=
  { Session.reference with
    sha256 := fun _ =>
      [0xba, 0x78, 0x16, 0xbf, 0x8f, 0x01, 0xcf, 0xea, 0x41, 0x41, 0x40, 0xde, 0x5d, 0xae, 0x22,
        0x23, 0xb0, 0x03, 0x61, 0xa3, 0x96, 0x17, 0x7a, 0x9c, 0xb4, 0x10, 0xff, 0x61, 0xf2, 0x00,
        0x15, 0xad] }

/-- A release whose setup is the text "abc". -/
def releasedSetup : Release where
  version := "2.0"
  tag := "v2.0"
  htmlUrl := "https://github.com/omairc/releases/v2.0"
  setup := some
    { url := "https://github.com/omairc/releases/v2.0/setup.exe"
      sha256 := "ba7816bf8f01cfea414140de5dae2223b00361a396177a9cb410ff61f20015ad"
      size := 3 }

/-- A check, a download of its release, and a restart. -/
def installingActs : List Act :=
  [.beginCheck, .finishCheck ⟨1⟩ (some releasedSetup), .startDownload] ++
    releasedSetup.setup.toList.map fun setup => .commitDownload ⟨2, "2.0", setup⟩ "setup.exe"

/-- The downloaded installer starts. -/
theorem installer_starts_once_verified_installed :
    ∃ session next : Session,
      Semantics.Runs Session.step Semantics.unguarded (.opened "1.0" true) session ∧
      session.step (.launchInstaller (fun _ => some (utf8 "abc")) true) = some next ∧
      next.started = ["setup.exe"] ∧ next.started.length ≤ 1 := by
  have installed : (Semantics.runAll Session.step (.opened "1.0" true) installingActs).any
      (fun session => (session.step (.launchInstaller (fun _ => some (utf8 "abc")) true)).any
        fun next => decide (next.started = ["setup.exe"])) = true := by
    decide
  obtain ⟨session, reached, launches⟩ := Omairc.Session.exists_of_any installed
  obtain ⟨next, taken, started⟩ := Omairc.Session.exists_of_any launches
  have runs : Semantics.Runs Session.step Semantics.unguarded (.opened "1.0" true) session :=
    .of_runAll reached
  exact ⟨session, next, runs, taken, of_decide_eq_true started,
    (installer_starts_once_verified runs taken).1⟩

end Witness

end Omairc.Update

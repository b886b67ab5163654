import Mathlib.Data.List.Nodup
import Omairc.Net.Lawful

/-!
# Epochs

The invariant of the hub and its preservation by every step. Epochs are compared in two
places, by the transport for an event and by the hub for a write or a finish notice;
the invariant says what each of the comparisons can rely on.
-/

namespace Omairc.Net

open Omairc.Text Omairc.Session

/-- How the current connection of a transport stands: the sink heard what its events
say so far, and transport and worker agree on what may come next. -/
def Ongoing (state : State) (conn : ConnId) (inner : Inner) : Prop :=
  ∃ (notices : List Notice) (phase : Phase),
    Phase.waiting.hear notices = some phase ∧
    heard { conn, epoch := inner.epoch } state.log <+: notices ∧
    (inner.sink = true → heard { conn, epoch := inner.epoch } state.log = notices) ∧
    (∀ worker ∈ state.workers, worker.tag = { conn, epoch := inner.epoch } →
      worker.tls = inner.tlsOn ∧
        ∃ known, worker.LeadsFrom known ∧ Matches inner.tlsOn inner.state phase known) ∧
    (∀ host port tls, Command.connect conn inner.epoch host port tls ∈ state.commands →
      tls = inner.tlsOn ∧ inner.state = .connecting ∧ phase = .waiting)

/-- What the connects, writes and callbacks on record have to do with the transports, the
commands and the workers. -/
structure Sound (state : State) : Prop where
  unregistered : ∀ conn, state.nextConn ≤ conn → state.transports conn = none
  numbered : ∀ tag ∈ connectTags state.log, tag.conn < state.nextConn ∧ 0 < tag.epoch
  writesNumbered : ∀ conn epoch frame, Command.write conn epoch frame ∈ state.commands →
    conn < state.nextConn
  /-- Every connect is on its way to the hub or has its worker. -/
  spawned : state.workers.map Worker.tag ++ state.commands.filterMap Command.connectTag =
    connectTags state.log
  ascending : (connectTags state.log).Pairwise fun earlier later =>
    earlier.conn = later.conn → earlier.epoch < later.epoch
  newest : ∀ tag ∈ connectTags state.log,
    ∃ epoch, current tag.conn state.log = some epoch ∧ tag.epoch ≤ epoch
  bounded : ∀ conn inner, state.transports conn = some inner →
    ∀ tag ∈ connectTags state.log, tag.conn = conn → tag.epoch ≤ inner.epoch
  writesBounded : ∀ conn inner, state.transports conn = some inner →
    ∀ epoch frame, Command.write conn epoch frame ∈ state.commands → epoch ≤ inner.epoch
  running : ∀ conn inner, state.transports conn = some inner → inner.state.inFlight = true →
    current conn state.log = some inner.epoch
  conversations : ∀ tag, ∃ phase, Phase.waiting.hear (heard tag state.log) = some phase
  origins : ∀ newer older origin notice,
    state.log = newer ++ Entry.callback origin notice :: older →
      current origin.conn older = some origin.epoch
  written : ∀ worker ∈ state.workers,
    (worker.wire ++ (worker.queue ++ state.commands.filterMap (Command.writeFor worker.tag))).Sublist
      (addressed worker.tag state.log)
  awaiting : ∀ tag ∈ state.commands.filterMap Command.connectTag,
    (state.commands.filterMap (Command.writeFor tag)).Sublist (addressed tag state.log)
  tasks : ∀ conn task, state.tasks conn = some task →
    ∃ worker, state.workers[task.worker]? = some worker ∧
      worker.tag = { conn, epoch := task.epoch }
  finished : ∀ conn epoch, Command.finished conn epoch ∈ state.commands →
    ∃ worker ∈ state.workers, worker.tag = { conn, epoch } ∧ worker.stage = .ended

/-- The invariant of the hub. -/
structure Lawful (state : State) : Prop extends Sound state where
  ongoing : ∀ conn inner, state.transports conn = some inner →
    { conn, epoch := inner.epoch } ∈ connectTags state.log → Ongoing state conn inner

/-! ## Lists -/

theorem mem_modify {α : Type} {list : List α} {index : Nat} {change : α → α} {value : α}
    (mem : value ∈ list.modify index change) :
    value ∈ list ∨ ∃ old, list[index]? = some old ∧ value = change old := by
  obtain ⟨at_, found⟩ := List.mem_iff_getElem?.mp mem
  rw [List.getElem?_modify] at found
  obtain ⟨old, present, changed⟩ := Option.map_eq_some_iff.mp found
  by_cases same : index = at_
  · subst same
    rw [if_pos rfl] at changed
    exact .inr ⟨old, present, changed.symm⟩
  · rw [if_neg same] at changed
    subst changed
    exact .inl (List.mem_of_getElem? present)

theorem map_modify_of_eq {α β : Type} {list : List α} {index : Nat} {change : α → α} {f : α → β}
    (same : ∀ old, list[index]? = some old → f (change old) = f old) :
    (list.modify index change).map f = list.map f := by
  apply List.ext_getElem?
  intro at_
  rw [List.getElem?_map, List.getElem?_map, List.getElem?_modify]
  by_cases here : index = at_
  · subst here
    cases found : list[index]? with
    | none => rfl
    | some old => simpa using same old found
  · simp [here]

/-! ## Steps of the workers -/

theorem Sound.onWorker {state : State} (lawful : Sound state) {index : Nat}
    {change : Worker → Worker}
    (moves : ∀ worker, state.workers[index]? = some worker → Kept worker (change worker)) :
    Sound (state.onWorker index change) where
  unregistered := lawful.unregistered
  numbered := lawful.numbered
  writesNumbered := lawful.writesNumbered
  spawned := by
    show (state.workers.modify index change).map Worker.tag ++ _ = _
    rw [map_modify_of_eq fun worker found => (moves worker found).tag]
    exact lawful.spawned
  ascending := lawful.ascending
  newest := lawful.newest
  bounded := lawful.bounded
  writesBounded := lawful.writesBounded
  running := lawful.running
  conversations := lawful.conversations
  origins := lawful.origins
  written := by
    intro worker mem
    obtain old | ⟨old, found, rfl⟩ := mem_modify mem
    · exact lawful.written worker old
    · have moved := moves old found
      have sublist := lawful.written old (List.mem_of_getElem? found)
      rw [← List.append_assoc] at sublist ⊢
      rw [moved.frames, moved.tag]
      exact sublist
  awaiting := lawful.awaiting
  tasks := by
    intro conn task held
    obtain ⟨worker, found, tag⟩ := lawful.tasks conn task held
    by_cases here : index = task.worker
    · subst here
      exact ⟨change worker, by simp [State.onWorker, found],
        (moves worker found).tag.trans tag⟩
    · exact ⟨worker, by simp [State.onWorker, here, found], tag⟩
  finished := by
    intro conn epoch mem
    obtain ⟨worker, present, tag, ended⟩ := lawful.finished conn epoch mem
    obtain ⟨at_, found⟩ := List.mem_iff_getElem?.mp present
    by_cases here : index = at_
    · subst here
      refine ⟨change worker, ?_, (moves worker found).tag.trans tag, (moves worker found).ended ended⟩
      exact List.mem_of_getElem? (i := index) (by simp [State.onWorker, found])
    · refine ⟨worker, ?_, tag, ended⟩
      exact List.mem_of_getElem? (i := at_) (by simp [State.onWorker, here, found])

/-- A worker that moves on its own keeps the invariant. -/
theorem Lawful.onWorker {state : State} (lawful : Lawful state) {index : Nat}
    {change : Worker → Worker}
    (moves : ∀ worker, state.workers[index]? = some worker → Moved worker (change worker)) :
    Lawful (state.onWorker index change) := by
  refine ⟨lawful.toSound.onWorker fun worker found => (moves worker found).toKept, ?_⟩
  intro conn inner present made
  obtain ⟨notices, phase, hears, starts, all, working, awaited⟩ :=
    lawful.ongoing conn inner present made
  refine ⟨notices, phase, hears, starts, all, ?_, awaited⟩
  intro worker mem tag
  obtain old | ⟨old, found, rfl⟩ := mem_modify mem
  · exact working worker old tag
  · have moved := moves old found
    obtain ⟨tls, known, leads, inStep⟩ :=
      working old (List.mem_of_getElem? found) (moved.tag.symm.trans tag)
    exact ⟨moved.tls.trans tls, known, moved.leads known leads, inStep⟩

/-- A step of one worker keeps the invariant. -/
theorem Lawful.work {state next : State} (lawful : Lawful state) {index : Nat}
    {move : Worker → Option Worker}
    (moves : ∀ worker moved, move worker = some moved → Moved worker moved)
    (worked : state.work index move = some next) : Lawful next := by
  unfold State.work at worked
  cases found : state.workers[index]? with
  | none =>
      rw [found] at worked
      cases worked
  | some worker =>
      rw [found] at worked
      obtain ⟨moved, moving, rfl⟩ := Option.map_eq_some_iff.mp worked
      apply lawful.onWorker
      intro other present
      cases found.symm.trans present
      exact moves worker moved moving

/-- Forgetting a task keeps the invariant. -/
theorem Lawful.forget {state : State} (lawful : Lawful state) (conn : ConnId) :
    Lawful (state.forget conn) :=
  { lawful with
    tasks := by
      intro other task held
      have elsewhere : other ≠ conn := by
        rintro rfl
        simp [State.forget] at held
      have same : (state.forget conn).tasks other = state.tasks other :=
        Function.update_of_ne elsewhere _ _
      exact lawful.tasks other task (same.symm.trans held) }

/-- A worker wound down keeps the invariant. -/
theorem Lawful.wound {state : State} (lawful : Lawful state) (conn : ConnId) (index : Nat) :
    Lawful ((state.forget conn).onWorker index Worker.windDown) :=
  (lawful.forget conn).onWorker fun worker _ => Moved.windDown worker

/-! ## Steps of the UI thread -/

/-- The transports after one of them changed. -/
theorem present_setTransport {state : State} {conn other : ConnId} {inner found : Inner}
    (present : (state.setTransport conn inner).transports other = some found) :
    other = conn ∧ found = inner ∨ other ≠ conn ∧ state.transports other = some found := by
  by_cases same : other = conn
  · subst same
    have there : (state.setTransport other inner).transports other = some inner :=
      Function.update_self _ _ _
    exact .inl ⟨rfl, Option.some.inj (present.symm.trans there)⟩
  · have there : (state.setTransport conn inner).transports other = state.transports other :=
      Function.update_of_ne same _ _
    exact .inr ⟨same, there.symm.trans present⟩

/-- A transport whose sink alone changes keeps the invariant when the sink goes away, or
when nothing was connected yet. -/
theorem Lawful.setSink {state : State} (lawful : Lawful state) {conn : ConnId} {inner : Inner}
    (present : state.transports conn = some inner) {sink : Bool}
    (quiet : sink = false ∨ inner.epoch = 0) :
    Lawful (state.setTransport conn { inner with sink }) :=
  { lawful with
    unregistered := by
      intro other beyond
      have elsewhere : other ≠ conn := by
        rintro rfl
        rw [lawful.unregistered other beyond] at present
        cases present
      exact (Function.update_of_ne elsewhere _ _).trans (lawful.unregistered other beyond)
    bounded := by
      intro other found there
      obtain ⟨rfl, rfl⟩ | ⟨_, there⟩ := present_setTransport there
      · exact lawful.bounded other inner present
      · exact lawful.bounded other found there
    writesBounded := by
      intro other found there
      obtain ⟨rfl, rfl⟩ | ⟨_, there⟩ := present_setTransport there
      · exact lawful.writesBounded other inner present
      · exact lawful.writesBounded other found there
    running := by
      intro other found there
      obtain ⟨rfl, rfl⟩ | ⟨_, there⟩ := present_setTransport there
      · exact lawful.running other inner present
      · exact lawful.running other found there
    ongoing := by
      intro other found there made
      obtain ⟨rfl, rfl⟩ | ⟨_, there⟩ := present_setTransport there
      · obtain ⟨notices, phase, hears, starts, all, working, awaited⟩ :=
          lawful.ongoing other inner present made
        refine ⟨notices, phase, hears, starts, ?_, working, awaited⟩
        intro attached
        obtain gone | never := quiet
        · exact absurd (gone.symm.trans attached) Bool.false_ne_true
        · have positive := (lawful.numbered _ made).2
          exact absurd positive (by simp [never])
      · exact lawful.ongoing other found there made }

theorem Lawful.register {state next : State} (lawful : Lawful state)
    (registered : state.register = some next) : Lawful next := by
  unfold State.register at registered
  split at registered <;> cases registered
  refine
    { lawful with
      unregistered := ?_, numbered := ?_, writesNumbered := ?_, bounded := ?_
      writesBounded := ?_, running := ?_, ongoing := ?_ }
  · intro other beyond
    have later : state.nextConn + 1 ≤ other := beyond
    have elsewhere : other ≠ state.nextConn := by omega
    exact (Function.update_of_ne elsewhere _ _).trans
      (lawful.unregistered other (Nat.le_of_succ_le later))
  · intro tag made
    exact ⟨Nat.lt_succ_of_lt (lawful.numbered tag made).1, (lawful.numbered tag made).2⟩
  · intro conn epoch frame pending
    exact Nat.lt_succ_of_lt (lawful.writesNumbered conn epoch frame pending)
  · intro other found there tag made same
    obtain ⟨rfl, rfl⟩ | ⟨_, there⟩ := present_setTransport there
    · exact absurd same (Nat.ne_of_lt (lawful.numbered tag made).1)
    · exact lawful.bounded other found there tag made same
  · intro other found there epoch frame pending
    obtain ⟨rfl, rfl⟩ | ⟨_, there⟩ := present_setTransport there
    · exact absurd (lawful.writesNumbered _ epoch frame pending) (Nat.lt_irrefl _)
    · exact lawful.writesBounded other found there epoch frame pending
  · intro other found there inFlight
    obtain ⟨rfl, rfl⟩ | ⟨_, there⟩ := present_setTransport there
    · cases inFlight
    · exact lawful.running other found there inFlight
  · intro other found there made
    obtain ⟨rfl, rfl⟩ | ⟨_, there⟩ := present_setTransport there
    · exact absurd (lawful.numbered _ made).1 (Nat.lt_irrefl _)
    · exact lawful.ongoing other found there made

/-- A transport that goes away keeps the invariant. -/
theorem Lawful.dropTransport {state next : State} (lawful : Lawful state) {conn : ConnId}
    (dropped : state.dropTransport conn = some next) : Lawful next := by
  obtain ⟨inner, _, rfl⟩ := Option.map_eq_some_iff.mp dropped
  have still : ∀ {other found}, Function.update state.transports conn none other = some found →
      state.transports other = some found := by
    intro other found there
    by_cases same : other = conn
    · subst same
      rw [Function.update_self] at there
      cases there
    · rwa [Function.update_of_ne same] at there
  exact
    { lawful with
      unregistered := by
        intro other beyond
        by_cases same : other = conn
        · subst same
          exact Function.update_self _ _ _
        · exact (Function.update_of_ne same _ _).trans (lawful.unregistered other beyond)
      bounded := fun other found there => lawful.bounded other found (still there)
      writesBounded := fun other found there => lawful.writesBounded other found (still there)
      running := fun other found there => lawful.running other found (still there)
      ongoing := fun other found there => lawful.ongoing other found (still there) }

/-- A command that is no connect, no write and no finish notice keeps the invariant. -/
theorem Lawful.send {state : State} (lawful : Lawful state) {command : Command}
    (starts : command.connectTag = none) (carries : ∀ tag, command.writeFor tag = none)
    (tells : ∀ conn epoch, command ≠ .finished conn epoch) : Lawful (state.send command) := by
  have old : ∀ {other : Command}, other ∈ (state.send command).commands → other ≠ command →
      other ∈ state.commands := by
    intro other pending different
    exact (List.mem_append.mp pending).resolve_right
      fun new => different (List.mem_singleton.mp new)
  have writes : ∀ conn epoch frame, Command.write conn epoch frame ≠ command := by
    rintro conn epoch frame rfl
    have carried := carries { conn, epoch }
    simp [Command.writeFor] at carried
  have frames : ∀ tag, (state.send command).commands.filterMap (Command.writeFor tag) =
      state.commands.filterMap (Command.writeFor tag) := by
    intro tag
    simp [State.send, List.filterMap_append, carries tag]
  have tags : (state.send command).commands.filterMap Command.connectTag =
      state.commands.filterMap Command.connectTag := by
    simp [State.send, List.filterMap_append, starts]
  exact
    { lawful with
      writesNumbered := fun conn epoch frame pending =>
        lawful.writesNumbered conn epoch frame (old pending (writes conn epoch frame))
      spawned := by rw [tags]; exact lawful.spawned
      writesBounded := fun conn inner present epoch frame pending =>
        lawful.writesBounded conn inner present epoch frame (old pending (writes conn epoch frame))
      ongoing := by
        intro conn inner present made
        obtain ⟨notices, phase, hears, begins, all, working, awaited⟩ :=
          lawful.ongoing conn inner present made
        refine ⟨notices, phase, hears, begins, all, working, ?_⟩
        intro host port tls pending
        refine awaited host port tls (old pending ?_)
        rintro rfl
        cases starts
      written := by
        intro worker mem
        rw [frames]
        exact lawful.written worker mem
      awaiting := by
        intro tag pending
        rw [tags] at pending
        rw [frames]
        exact lawful.awaiting tag pending
      finished := fun conn epoch pending =>
        lawful.finished conn epoch (old pending (tells conn epoch).symm) }

/-! ## Connects, writes and callbacks -/

/-- The connection under the transport's own epoch is the current one. -/
theorem Sound.current_of_made {state : State} (sound : Sound state) {conn : ConnId}
    {inner : Inner} (present : state.transports conn = some inner)
    (made : { conn, epoch := inner.epoch } ∈ connectTags state.log) :
    current conn state.log = some inner.epoch := by
  obtain ⟨epoch, now, later⟩ := sound.newest _ made
  have earlier := sound.bounded conn inner present _ (mem_connectTags_of_current now) rfl
  exact now.trans (congrArg some (Nat.le_antisymm earlier later))

/-- The tags of the workers and of the connects on their way are those on record. -/
theorem Sound.made_of_worker {state : State} (sound : Sound state) {worker : Worker}
    (mem : worker ∈ state.workers) : worker.tag ∈ connectTags state.log := by
  rw [← sound.spawned]
  exact List.mem_append_left _ (List.mem_map_of_mem mem)

theorem Sound.made_of_pending {state : State} (sound : Sound state) {tag : Tag}
    (pending : tag ∈ state.commands.filterMap Command.connectTag) :
    tag ∈ connectTags state.log := by
  rw [← sound.spawned]
  exact List.mem_append_right _ pending

theorem Sound.made_of_connect {state : State} (sound : Sound state) {conn : ConnId} {epoch : Nat}
    {host : String} {port : UInt16} {tls : Bool}
    (pending : Command.connect conn epoch host port tls ∈ state.commands) :
    { conn, epoch } ∈ connectTags state.log :=
  sound.made_of_pending (List.mem_filterMap.mpr ⟨_, pending, rfl⟩)

/-- A registered transport has a number the hub gave out. -/
theorem Sound.lt_nextConn {state : State} (sound : Sound state) {conn : ConnId} {inner : Inner}
    (present : state.transports conn = some inner) : conn < state.nextConn := by
  by_contra beyond
  rw [sound.unregistered conn (Nat.le_of_not_lt beyond)] at present
  cases present

/-- A connect that is not ignored keeps the invariant. -/
theorem Lawful.connect {state next : State} (lawful : Lawful state) {conn : ConnId}
    {host : String} {port : UInt16} {tlsEnabled : Bool}
    (connected : state.connect conn host port tlsEnabled = some next) : Lawful next := by
  obtain ⟨inner, present, rfl⟩ := Option.map_eq_some_iff.mp connected
  clear connected
  cases starting : inner.connect tlsEnabled with
  | none => exact lawful
  | some moved =>
  obtain ⟨_, rfl⟩ := Inner.connect_eq_some starting
  have bounded := lawful.bounded conn inner present
  have fresh : { conn, epoch := inner.epoch + 1 } ∉ connectTags state.log := by
    intro made
    have atMost : inner.epoch + 1 ≤ inner.epoch := bounded _ made rfl
    omega
  have numbered := lawful.lt_nextConn present
  have frames : ∀ tag, (state.commands ++ [Command.connect conn (inner.epoch + 1) host port
      tlsEnabled]).filterMap (Command.writeFor tag) =
        state.commands.filterMap (Command.writeFor tag) := by
    intro tag
    simp [List.filterMap_append]
  constructor
  · constructor
    · intro other beyond
      have elsewhere : other ≠ conn := by
        rintro rfl
        exact absurd numbered (Nat.not_lt.mpr beyond)
      exact (Function.update_of_ne elsewhere _ _).trans (lawful.unregistered other beyond)
    · intro tag made
      obtain old | new := List.mem_append.mp made
      · exact lawful.numbered tag old
      · rw [List.mem_singleton.mp new]
        exact ⟨numbered, Nat.succ_pos _⟩
    · intro other epoch frame pending
      obtain old | new := List.mem_append.mp pending
      · exact lawful.writesNumbered other epoch frame old
      · cases List.mem_singleton.mp new
    · show state.workers.map Worker.tag ++ (state.commands ++ [_]).filterMap _ = _ ++ [_]
      rw [List.filterMap_append, ← List.append_assoc, lawful.spawned]
      rfl
    · refine List.pairwise_append.mpr ⟨lawful.ascending, List.pairwise_singleton _ _, ?_⟩
      intro earlier old later new same
      cases List.mem_singleton.mp new
      exact Nat.lt_succ_of_le (bounded earlier old same)
    · intro tag made
      show ∃ epoch, (if conn = tag.conn then some (inner.epoch + 1) else _) = some epoch ∧ _
      obtain old | new := List.mem_append.mp made
      · by_cases same : conn = tag.conn
        · refine ⟨inner.epoch + 1, if_pos same, ?_⟩
          exact Nat.le_succ_of_le (bounded tag old same.symm)
        · rw [if_neg same]
          exact lawful.newest tag old
      · cases List.mem_singleton.mp new
        exact ⟨inner.epoch + 1, if_pos rfl, Nat.le_refl _⟩
    · intro other found there tag made same
      obtain ⟨rfl, rfl⟩ | ⟨elsewhere, there⟩ := present_setTransport there <;>
        obtain old | new := List.mem_append.mp made
      · exact Nat.le_succ_of_le (bounded tag old same)
      · cases List.mem_singleton.mp new
        exact Nat.le_refl _
      · exact lawful.bounded other found there tag old same
      · cases List.mem_singleton.mp new
        exact absurd same.symm elsewhere
    · intro other found there epoch frame pending
      have old : Command.write other epoch frame ∈ state.commands :=
        (List.mem_append.mp pending).resolve_right fun new => by cases List.mem_singleton.mp new
      obtain ⟨rfl, rfl⟩ | ⟨_, there⟩ := present_setTransport there
      · exact Nat.le_succ_of_le (lawful.writesBounded other inner present epoch frame old)
      · exact lawful.writesBounded other found there epoch frame old
    · intro other found there inFlight
      show (if conn = other then some (inner.epoch + 1) else _) = _
      obtain ⟨rfl, rfl⟩ | ⟨elsewhere, there⟩ := present_setTransport there
      · exact if_pos rfl
      · rw [if_neg (Ne.symm elsewhere)]
        exact lawful.running other found there inFlight
    · exact lawful.conversations
    · intro newer older origin notice shape
      cases newer with
      | nil => cases shape
      | cons entry newer => exact lawful.origins newer older origin notice (List.cons.inj shape).2
    · intro worker mem
      show (worker.wire ++ (worker.queue ++ (state.commands ++ [_]).filterMap _)).Sublist
        (addressed worker.tag state.log)
      rw [frames]
      exact lawful.written worker mem
    · intro tag pending
      show ((state.commands ++ [_]).filterMap _).Sublist (addressed tag state.log)
      rw [frames]
      have parts : tag ∈ state.commands.filterMap Command.connectTag ∨
          tag ∈ [({ conn, epoch := inner.epoch + 1 } : Tag)] := by
        rw [← List.mem_append]
        simpa [State.send, State.record, State.setTransport] using pending
      obtain old | new := parts
      · exact lawful.awaiting tag old
      · -- No write was made under the new epoch yet.
        cases List.mem_singleton.mp new
        rw [List.filterMap_eq_nil_iff.mpr]
        · exact List.nil_sublist _
        · intro command pending
          cases command with
          | write other epoch frame =>
              refine if_neg ?_
              rintro ⟨rfl, rfl⟩
              have atMost : inner.epoch + 1 ≤ inner.epoch :=
                lawful.writesBounded other inner present _ frame pending
              omega
          | _ => rfl
    · exact lawful.tasks
    · intro other epoch pending
      obtain old | new := List.mem_append.mp pending
      · exact lawful.finished other epoch old
      · cases List.mem_singleton.mp new
  · intro other found there made
    obtain ⟨rfl, rfl⟩ | ⟨elsewhere, there⟩ := present_setTransport there
    · have silent : heard { conn := other, epoch := inner.epoch + 1 } state.log = [] :=
        heard_eq_nil fresh
      refine ⟨[], .waiting, rfl, ?_, fun _ => silent, ?_, ?_⟩
      · show heard _ state.log <+: []
        rw [silent]
      · intro worker mem tag
        have old := lawful.made_of_worker mem
        rw [tag] at old
        exact absurd old fresh
      · intro host' port' tls' pending
        obtain old | new := List.mem_append.mp pending
        · exact absurd (lawful.made_of_connect old) fresh
        · cases List.mem_singleton.mp new
          exact ⟨rfl, rfl, rfl⟩
    · have old : { conn := other, epoch := found.epoch } ∈ connectTags state.log := by
        refine (List.mem_append.mp made).resolve_right fun new => ?_
        exact elsewhere (congrArg Tag.conn (List.mem_singleton.mp new))
      obtain ⟨notices, phase, hears, starts, all, working, awaited⟩ :=
        lawful.ongoing other found there old
      refine ⟨notices, phase, hears, starts, all, working, ?_⟩
      intro host' port' tls' pending
      obtain old | new := List.mem_append.mp pending
      · exact awaited host' port' tls' old
      · exact absurd (Command.connect.inj (List.mem_singleton.mp new)).1 elsewhere

/-- A frame goes on its way to the worker of the connection it is addressed to, or to
none. -/
theorem Sound.framed {state : State} (sound : Sound state) {conn : ConnId} {inner : Inner}
    (present : state.transports conn = some inner) {tag : Tag}
    (made : tag ∈ connectTags state.log) (frame : Bytes) (before : List Bytes)
    (sublist : (before ++ state.commands.filterMap (Command.writeFor tag)).Sublist
      (addressed tag state.log)) :
    (before ++ (state.commands ++ [Command.write conn inner.epoch frame]).filterMap
      (Command.writeFor tag)).Sublist (addressed tag (.writes conn frame :: state.log)) := by
  rw [List.filterMap_append, ← List.append_assoc]
  by_cases own : conn = tag.conn ∧ inner.epoch = tag.epoch
  · have now : current tag.conn state.log = some tag.epoch := by
      obtain ⟨rfl, same⟩ := own
      rw [← same]
      refine sound.current_of_made present ?_
      rw [same]
      exact made
    have carried : [Command.write conn inner.epoch frame].filterMap (Command.writeFor tag) =
        [frame] := by
      simp [Command.writeFor, own]
    rw [carried, addressed, if_pos ⟨own.1, now⟩]
    exact sublist.append (List.Sublist.refl _)
  · have carried : [Command.write conn inner.epoch frame].filterMap (Command.writeFor tag) =
        [] := by
      simp [Command.writeFor, own]
    rw [carried, List.append_nil]
    exact sublist.trans (addressed_writes_sublist tag conn frame state.log)

/-- A write keeps the invariant. -/
theorem Lawful.write {state next : State} (lawful : Lawful state) {conn : ConnId} {frame : Bytes}
    (wrote : state.write conn frame = some next) : Lawful next := by
  obtain ⟨inner, present, rfl⟩ := Option.map_eq_some_iff.mp wrote
  clear wrote
  by_cases empty : frame = []
  · rw [if_pos empty]
    exact lawful
  rw [if_neg empty]
  have tags : (state.commands ++ [Command.write conn inner.epoch frame]).filterMap
      Command.connectTag = state.commands.filterMap Command.connectTag := by
    simp [List.filterMap_append]
  constructor
  · constructor
    · exact lawful.unregistered
    · exact lawful.numbered
    · intro other epoch written pending
      obtain old | new := List.mem_append.mp pending
      · exact lawful.writesNumbered other epoch written old
      · cases List.mem_singleton.mp new
        exact lawful.lt_nextConn present
    · show _ ++ (state.commands ++ [_]).filterMap _ = _
      rw [tags]
      exact lawful.spawned
    · exact lawful.ascending
    · exact lawful.newest
    · exact lawful.bounded
    · intro other found there epoch written pending
      obtain old | new := List.mem_append.mp pending
      · exact lawful.writesBounded other found there epoch written old
      · cases List.mem_singleton.mp new
        cases there.symm.trans present
        exact Nat.le_refl _
    · exact lawful.running
    · exact lawful.conversations
    · intro newer older origin notice shape
      cases newer with
      | nil => cases shape
      | cons entry newer => exact lawful.origins newer older origin notice (List.cons.inj shape).2
    · intro worker mem
      have sublist := lawful.written worker mem
      rw [← List.append_assoc] at sublist ⊢
      exact lawful.framed present (lawful.made_of_worker mem) frame _ sublist
    · intro tag pending
      have old : tag ∈ state.commands.filterMap Command.connectTag := tags ▸ pending
      exact lawful.framed present (lawful.made_of_pending old) frame []
        (lawful.awaiting tag old)
    · exact lawful.tasks
    · intro other epoch pending
      obtain old | new := List.mem_append.mp pending
      · exact lawful.finished other epoch old
      · cases List.mem_singleton.mp new
  · intro other found there made
    obtain ⟨notices, phase, hears, starts, all, working, awaited⟩ :=
      lawful.ongoing other found there made
    refine ⟨notices, phase, hears, starts, all, working, ?_⟩
    intro host port tls pending
    obtain old | new := List.mem_append.mp pending
    · exact awaited host port tls old
    · cases List.mem_singleton.mp new

/-- A callback about the current connection of a transport that took a step, when it is
the next one of its conversation. -/
theorem Sound.notify {state : State} (sound : Sound state) {conn : ConnId} {inner next : Inner}
    (present : state.transports conn = some inner) (later : inner.epoch ≤ next.epoch)
    (running : next.state.inFlight = true → next.epoch = inner.epoch)
    (now : current conn state.log = some inner.epoch) {notice : Notice}
    (hears : next.sink = true → ∃ phase, Phase.waiting.hear
      (heard { conn, epoch := inner.epoch } state.log ++ [notice]) = some phase) :
    Sound ((state.setTransport conn next).notify next { conn, epoch := inner.epoch } notice) := by
  have moved : Sound (state.setTransport conn next) :=
    { sound with
      unregistered := by
        intro other beyond
        have elsewhere : other ≠ conn := by
          rintro rfl
          exact absurd (sound.lt_nextConn present) (Nat.not_lt.mpr beyond)
        exact (Function.update_of_ne elsewhere _ _).trans (sound.unregistered other beyond)
      bounded := by
        intro other found there tag made same
        obtain ⟨rfl, rfl⟩ | ⟨_, there⟩ := present_setTransport there
        · exact (sound.bounded other inner present tag made same).trans later
        · exact sound.bounded other found there tag made same
      writesBounded := by
        intro other found there epoch frame pending
        obtain ⟨rfl, rfl⟩ | ⟨_, there⟩ := present_setTransport there
        · exact (sound.writesBounded other inner present epoch frame pending).trans later
        · exact sound.writesBounded other found there epoch frame pending
      running := by
        intro other found there inFlight
        obtain ⟨rfl, rfl⟩ | ⟨_, there⟩ := present_setTransport there
        · rw [running inFlight]
          exact now
        · exact sound.running other found there inFlight }
  unfold State.notify
  split
  · rename_i attached
    refine
      { moved with
        conversations := ?_
        origins := ?_ }
    · intro tag
      show ∃ phase, Phase.waiting.hear (if conn = tag.conn ∧ current tag.conn state.log =
        some tag.epoch then _ else _) = some phase
      split
      · rename_i own
        obtain ⟨other, epoch⟩ := tag
        obtain ⟨rfl, same⟩ := own
        cases now.symm.trans same
        exact hears attached
      · exact sound.conversations tag
    · intro newer older origin told shape
      cases newer with
      | nil =>
          cases shape
          exact now
      | cons entry newer => exact sound.origins newer older origin told (List.cons.inj shape).2
  · exact moved

/-- A callback of one transport says nothing about the connections of another. -/
theorem heard_notify_of_ne {state : State} {conn other : ConnId} (elsewhere : other ≠ conn)
    (inner : Inner) (epoch origin : Nat) (notice : Notice) :
    heard { conn := other, epoch } (state.notify inner { conn, epoch := origin } notice).log =
      heard { conn := other, epoch } state.log := by
  unfold State.notify
  split
  · show (if conn = other ∧ _ then _ else _) = _
    exact if_neg fun own => elsewhere own.1.symm
  · rfl

/-- A callback leaves everything but the record alone. -/
theorem notify_frame (state : State) (inner : Inner) (tag : Tag) (notice : Notice) :
    (state.notify inner tag notice).workers = state.workers ∧
      (state.notify inner tag notice).commands = state.commands ∧
      (state.notify inner tag notice).transports = state.transports ∧
      connectTags (state.notify inner tag notice).log = connectTags state.log := by
  unfold State.notify
  split <;> exact ⟨rfl, rfl, rfl, rfl⟩

/-- A callback of one transport leaves the current connection of another as it
stands. -/
theorem Ongoing.notify_of_ne {state : State} {conn other : ConnId} {found : Inner}
    (ongoing : Ongoing state other found) (elsewhere : other ≠ conn) (inner : Inner)
    (epoch : Nat) (notice : Notice) :
    Ongoing (state.notify inner { conn, epoch } notice) other found := by
  obtain ⟨workers, commands, _, _⟩ := notify_frame state inner { conn, epoch } notice
  obtain ⟨notices, phase, hears, starts, all, working, awaited⟩ := ongoing
  refine ⟨notices, phase, hears, ?_, ?_, ?_, ?_⟩
  · rw [heard_notify_of_ne elsewhere]
    exact starts
  · rw [heard_notify_of_ne elsewhere]
    exact all
  · rw [workers]
    exact working
  · rw [commands]
    exact awaited

/-- A shutdown keeps the invariant: the connection it ends can still hear its end, and no
worker runs under the new epoch. -/
theorem Lawful.shutdown {state next : State} (lawful : Lawful state) {conn : ConnId}
    (down : state.shutdown conn = some next) : Lawful next := by
  obtain ⟨inner, present, rfl⟩ := Option.map_eq_some_iff.mp down
  clear down
  cases shutting : inner.shutdown with
  | none => exact lawful
  | some moved =>
  obtain ⟨inFlight, rfl⟩ := Inner.shutdown_eq_some shutting
  have sent : Lawful (state.send (.close conn)) :=
    lawful.send rfl (fun _ => rfl) fun _ _ => nofun
  have now := lawful.running conn inner present inFlight
  have made := mem_connectTags_of_current now
  have fresh : { conn, epoch := inner.epoch + 1 } ∉ connectTags state.log := by
    intro made
    have atMost : inner.epoch + 1 ≤ inner.epoch := lawful.bounded conn inner present _ made rfl
    omega
  have hears : inner.sink = true → ∃ phase, Phase.waiting.hear
      (heard { conn, epoch := inner.epoch } state.log ++ [.disconnected]) = some phase := by
    intro attached
    obtain ⟨notices, phase, hears, _, all, working, awaited⟩ :=
      lawful.ongoing conn inner present made
    rw [all attached]
    refine ⟨.ended, (Phase.hear_concat hears .disconnected).trans ?_⟩
    -- The connection has its worker or is on its way to the hub.
    rw [← lawful.spawned] at made
    obtain spawned | pending := List.mem_append.mp made
    · obtain ⟨worker, mem, tag⟩ := List.mem_map.mp spawned
      obtain ⟨_, known, _, inStep⟩ := working worker mem tag
      exact inStep.can_end inFlight
    · obtain ⟨command, mem, tag⟩ := List.mem_filterMap.mp pending
      cases command <;> cases tag
      obtain ⟨_, _, rfl⟩ := awaited _ _ _ mem
      rfl
  show Lawful (((state.send (.close conn)).setTransport conn _).notify _ _ _)
  refine ⟨sent.toSound.notify present (Nat.le_succ _) (fun running => by cases running) now
    hears, ?_⟩
  intro other found there made
  obtain ⟨_, _, transports, tags⟩ := notify_frame
    ((state.send (.close conn)).setTransport conn
      { inner with epoch := inner.epoch + 1, state := .disconnected })
    { inner with epoch := inner.epoch + 1, state := .disconnected }
    { conn, epoch := inner.epoch } .disconnected
  rw [transports] at there
  rw [tags] at made
  obtain ⟨rfl, rfl⟩ | ⟨elsewhere, there⟩ := present_setTransport there
  · exact absurd made fresh
  · have before : Ongoing ((state.send (.close conn)).setTransport conn
        { inner with epoch := inner.epoch + 1, state := .disconnected }) other found :=
      sent.ongoing other found there made
    exact before.notify_of_ne elsewhere _ _ _

/-! ## Deliveries -/

/-- Every connect has a tag of its own. -/
theorem Sound.nodup_tags {state : State} (sound : Sound state) :
    (state.workers.map Worker.tag ++ state.commands.filterMap Command.connectTag).Nodup := by
  rw [sound.spawned]
  refine sound.ascending.imp ?_
  rintro earlier later less rfl
  exact Nat.lt_irrefl _ (less rfl)

/-- A worker is known by its tag. -/
theorem Sound.index_unique {state : State} (sound : Sound state) {first second : Nat}
    {worker other : Worker} (found : state.workers[first]? = some worker)
    (present : state.workers[second]? = some other) (same : other.tag = worker.tag) :
    second = first := by
  have distinct : (state.workers.map Worker.tag).Nodup := (List.nodup_append.mp sound.nodup_tags).1
  have bound : second < (state.workers.map Worker.tag).length := by
    rw [List.length_map]
    exact (List.getElem?_eq_some_iff.mp present).1
  refine (List.getElem?_inj bound distinct).mp ?_
  rw [List.getElem?_map, List.getElem?_map, found, present, Option.map_some, Option.map_some, same]

/-- A connect that has its worker is no longer on its way. -/
theorem Sound.not_pending {state : State} (sound : Sound state) {worker : Worker}
    (mem : worker ∈ state.workers) {conn : ConnId} {epoch : Nat} {host : String} {port : UInt16}
    {tls : Bool} (tag : worker.tag = { conn, epoch }) :
    Command.connect conn epoch host port tls ∉ state.commands := by
  intro pending
  refine (List.nodup_append.mp sound.nodup_tags).2.2 worker.tag (List.mem_map_of_mem mem)
    worker.tag ?_ rfl
  exact List.mem_filterMap.mpr ⟨_, pending, congrArg some tag.symm⟩

/-- Take the oldest event of a worker. -/
def State.pop (state : State) (index : Nat) (rest : List IoEvent) : State :=
  state.onWorker index fun worker => { worker with events := rest }

theorem Sound.pop {state : State} (sound : Sound state) (index : Nat) (rest : List IoEvent) :
    Sound (state.pop index rest) :=
  sound.onWorker fun _ _ => ⟨rfl, rfl, rfl, id⟩

/-- An event of another connection leaves the current connection of a transport as it
stands. -/
theorem Ongoing.pop_of_ne {state : State} {conn : ConnId} {inner : Inner} {index : Nat}
    {worker : Worker} (ongoing : Ongoing state conn inner)
    (found : state.workers[index]? = some worker)
    (elsewhere : worker.tag ≠ { conn, epoch := inner.epoch }) (rest : List IoEvent) :
    Ongoing (state.pop index rest) conn inner := by
  obtain ⟨notices, phase, hears, starts, all, working, awaited⟩ := ongoing
  refine ⟨notices, phase, hears, starts, all, ?_, awaited⟩
  intro other mem tag
  obtain old | ⟨old, present, rfl⟩ := mem_modify mem
  · exact working other old tag
  · cases found.symm.trans present
    exact absurd tag elsewhere

/-- What is known of a connection when one of its events is delivered. -/
theorem Lawful.head {state : State} (lawful : Lawful state) {conn : ConnId} {inner : Inner}
    (present : state.transports conn = some inner) {index : Nat} {worker : Worker}
    (found : state.workers[index]? = some worker) {event : IoEvent} {rest : List IoEvent}
    (events : worker.events = event :: rest) (tag : worker.tag = { conn, epoch := inner.epoch }) :
    ∃ (notices : List Notice) (phase : Phase) (known next : Stage),
      Phase.waiting.hear notices = some phase ∧
      heard { conn, epoch := inner.epoch } state.log <+: notices ∧
      (inner.sink = true → heard { conn, epoch := inner.epoch } state.log = notices) ∧
      known.after inner.tlsOn event = some next ∧
      Matches inner.tlsOn inner.state phase known ∧
      (∀ other ∈ (state.pop index rest).workers, other.tag = { conn, epoch := inner.epoch } →
        other.tls = inner.tlsOn ∧ other.LeadsFrom next) := by
  have mem := List.mem_of_getElem? found
  have made := lawful.made_of_worker mem
  rw [tag] at made
  obtain ⟨notices, phase, hears, starts, all, working, _⟩ :=
    lawful.ongoing conn inner present made
  obtain ⟨tls, known, ⟨last, walked, reached⟩, inStep⟩ := working worker mem tag
  rw [events, Stage.walk] at walked
  obtain ⟨next, after, walked⟩ := Option.bind_eq_some_iff.mp walked
  rw [tls] at after
  refine ⟨notices, phase, known, next, hears, starts, all, after, inStep, ?_⟩
  intro other there own
  obtain ⟨at_, other_at⟩ := List.mem_iff_getElem?.mp there
  by_cases here : index = at_
  · subst here
    have changed : (state.pop index rest).workers[index]? =
        some { worker with events := rest } := by
      simp [State.pop, State.onWorker, found]
    cases other_at.symm.trans changed
    exact ⟨tls, last, walked, reached⟩
  · have old : state.workers[at_]? = some other := by
      simpa [State.pop, State.onWorker, here] using other_at
    exact absurd (lawful.index_unique found old (own.trans tag.symm)).symm here

theorem State.apply_of_gone {state : State} {tag : Tag} (gone : state.transports tag.conn = none)
    (event : IoEvent) : state.apply tag event = state := by
  rw [State.apply, gone]

theorem State.apply_of_ignored {state : State} {tag : Tag} {inner : Inner} {event : IoEvent}
    (present : state.transports tag.conn = some inner)
    (ignored : inner.apply tag.epoch event = none) : state.apply tag event = state := by
  rw [State.apply, present]
  simp only [ignored]

theorem State.apply_of_taken {state : State} {tag : Tag} {inner next : Inner} {event : IoEvent}
    {notice : Notice} (present : state.transports tag.conn = some inner)
    (taken : inner.apply tag.epoch event = some (notice, next)) :
    state.apply tag event = (state.setTransport tag.conn next).notify next tag notice := by
  rw [State.apply, present]
  simp only [taken]

/-- A delivery keeps the invariant: an event of the current connection is its next
callback or changes nothing, one of an older connection changes nothing. -/
theorem Lawful.deliver {state next : State} (lawful : Lawful state) {index : Nat}
    (delivered : state.deliver index = some next) : Lawful next := by
  unfold State.deliver at delivered
  split at delivered
  · cases delivered
  split at delivered
  · cases delivered
  rename_i worker found
  split at delivered
  · cases delivered
  rename_i event rest events
  cases delivered
  have popped : Sound (state.pop index rest) := lawful.toSound.pop index rest
  have mem := List.mem_of_getElem? found
  obtain ⟨⟨conn, epoch⟩, tag⟩ : ∃ tag, worker.tag = tag := ⟨_, rfl⟩
  show Lawful ((state.pop index rest).apply worker.tag event)
  rw [tag]
  have others : ∀ other found', state.transports other = some found' →
      { conn := other, epoch := found'.epoch } ∈ connectTags state.log →
        ({ conn, epoch } : Tag) ≠ { conn := other, epoch := found'.epoch } →
          Ongoing (state.pop index rest) other found' := by
    intro other found' there made different
    exact (lawful.ongoing other found' there made).pop_of_ne found (tag ▸ different) rest
  cases present : (state.pop index rest).transports conn with
  | none =>
      rw [State.apply_of_gone present]
      refine ⟨popped, fun other found' there made => others other found' there made ?_⟩
      rintro ⟨⟩
      cases there.symm.trans present
  | some inner =>
  cases applied : inner.apply epoch event with
  | none =>
      rw [State.apply_of_ignored present applied]
      refine ⟨popped, fun other found' there made => ?_⟩
      by_cases own : ({ conn, epoch } : Tag) = { conn := other, epoch := found'.epoch }
      · cases own
        cases there.symm.trans present
        -- The event does not fit the state of the transport.
        have ignored : transition inner event = none := by
          simpa [Inner.apply] using applied
        obtain ⟨notices, phase, known, after, hears, starts, all, reached, inStep, leads⟩ :=
          lawful.head present found events tag
        refine ⟨notices, phase, hears, starts, all, ?_, ?_⟩
        · intro worker' there' tag'
          obtain ⟨tls, leads⟩ := leads worker' there' tag'
          exact ⟨tls, after, leads, inStep.ignored reached ignored⟩
        · intro host port tls pending
          exact absurd pending (lawful.not_pending mem tag)
      · exact others other found' there made own
  | some taken =>
  obtain ⟨notice, moved⟩ := taken
  rw [State.apply_of_taken present applied]
  obtain ⟨rfl, moves⟩ := Inner.apply_eq_some applied
  obtain ⟨sameEpoch, sameTls, sameSink⟩ := transition_frame moves
  obtain ⟨notices, phase, known, after, hears, starts, all, reached, inStep, leads⟩ :=
    lawful.head present found events tag
  obtain ⟨later, nextPhase, inStep⟩ := inStep.taken reached moves
  have made : { conn, epoch := inner.epoch } ∈ connectTags state.log :=
    tag ▸ lawful.made_of_worker mem
  have now := lawful.current_of_made present made
  have hearsNext := (Phase.hear_concat hears notice).trans nextPhase
  refine ⟨popped.notify present (Nat.le_of_eq sameEpoch.symm) (fun _ => sameEpoch) now ?_, ?_⟩
  · intro attached
    show ∃ phase, Phase.waiting.hear (heard _ state.log ++ [notice]) = some phase
    rw [all (sameSink ▸ attached)]
    exact ⟨later, hearsNext⟩
  intro other found' there made'
  obtain ⟨workers, commands, transports, tags⟩ := notify_frame
    ((state.pop index rest).setTransport conn moved) moved { conn, epoch := inner.epoch } notice
  rw [transports] at there
  rw [tags] at made'
  obtain ⟨rfl, rfl⟩ | ⟨elsewhere, there⟩ := present_setTransport there
  · refine ⟨notices ++ [notice], later, hearsNext, ?_, ?_, ?_, ?_⟩
    · rw [sameEpoch]
      unfold State.notify
      split
      · rename_i attached
        show (if other = other ∧ current other state.log = some inner.epoch then
          heard _ state.log ++ [notice] else _) <+: _
        rw [if_pos ⟨rfl, now⟩, all (sameSink ▸ attached)]
      · exact starts.trans (List.prefix_append _ _)
    · intro attached
      rw [sameEpoch]
      unfold State.notify
      rw [if_pos attached]
      show (if other = other ∧ current other state.log = some inner.epoch then
        heard _ state.log ++ [notice] else _) = _
      rw [if_pos ⟨rfl, now⟩, all (sameSink ▸ attached)]
    · intro worker' there' tag'
      rw [workers] at there'
      rw [sameEpoch] at tag'
      obtain ⟨tls, leads⟩ := leads worker' there' tag'
      exact ⟨tls.trans sameTls.symm, after, leads, inStep⟩
    · intro host port tls pending
      rw [commands, sameEpoch] at pending
      exact absurd pending (lawful.not_pending mem tag)
  · have before : Ongoing ((state.pop index rest).setTransport conn moved) other found' := by
      exact others other found' there made' fun same => elsewhere (Tag.mk.inj same).1.symm
    exact before.notify_of_ne elsewhere _ _ _

/-! ## The hub -/

/-- A finish notice is sent for a worker that is over. -/
theorem Lawful.finish {state next : State} (lawful : Lawful state) {index : Nat}
    (finished : state.finish index = some next) : Lawful next := by
  unfold State.finish at finished
  split at finished
  · cases finished
  rename_i worker found
  split at finished <;> cases finished
  rename_i ready
  have flagged : Lawful (state.onWorker index fun worker => { worker with notified := true }) :=
    lawful.onWorker fun worker _ => .of_flags rfl rfl rfl rfl rfl
  have here : { worker with notified := true } ∈
      (state.onWorker index fun worker => { worker with notified := true }).workers :=
    List.mem_of_getElem? (i := index) (by simp [State.onWorker, found])
  generalize (state.onWorker index fun worker => { worker with notified := true }) = told at *
  have frames : ∀ tag, (told.commands ++ [Command.finished worker.tag.conn
      worker.tag.epoch]).filterMap (Command.writeFor tag) =
        told.commands.filterMap (Command.writeFor tag) := by
    intro tag
    simp [List.filterMap_append]
  have tags : (told.commands ++ [Command.finished worker.tag.conn
      worker.tag.epoch]).filterMap Command.connectTag =
        told.commands.filterMap Command.connectTag := by
    simp [List.filterMap_append]
  have old : ∀ {command : Command}, command ∈ (told.send (.finished worker.tag.conn
      worker.tag.epoch)).commands → command ≠ .finished worker.tag.conn worker.tag.epoch →
        command ∈ told.commands := by
    intro command pending different
    exact (List.mem_append.mp pending).resolve_right
      fun new => different (List.mem_singleton.mp new)
  exact
    { flagged with
      writesNumbered := fun conn epoch frame pending =>
        flagged.writesNumbered conn epoch frame (old pending nofun)
      spawned := by
        show _ ++ (told.commands ++ [_]).filterMap _ = _
        rw [tags]
        exact flagged.spawned
      writesBounded := fun conn inner present epoch frame pending =>
        flagged.writesBounded conn inner present epoch frame (old pending nofun)
      ongoing := by
        intro conn inner present made
        obtain ⟨notices, phase, hears, starts, all, working, awaited⟩ :=
          flagged.ongoing conn inner present made
        exact ⟨notices, phase, hears, starts, all, working,
          fun host port tls pending => awaited host port tls (old pending nofun)⟩
      written := by
        intro worker' mem
        show (worker'.wire ++ (worker'.queue ++ (told.commands ++ [_]).filterMap _)).Sublist _
        rw [frames]
        exact flagged.written worker' mem
      awaiting := by
        intro tag pending
        show ((told.commands ++ [_]).filterMap _).Sublist _
        rw [frames]
        exact flagged.awaiting tag (tags ▸ pending)
      finished := by
        intro conn epoch pending
        obtain before | new := List.mem_append.mp pending
        · exact flagged.finished conn epoch before
        · obtain ⟨rfl, rfl⟩ := Command.finished.inj (List.mem_singleton.mp new)
          exact ⟨_, here, rfl, ready.1⟩ }

/-- A command taken from the queue without an effect keeps the invariant, when it is no
connect. -/
theorem Lawful.dequeue {state : State} (lawful : Lawful state) {command : Command}
    {rest : List Command} (commands : state.commands = command :: rest)
    (starts : command.connectTag = none) : Lawful { state with commands := rest } := by
  have still : ∀ {other}, other ∈ rest → other ∈ state.commands := by
    intro other mem
    rw [commands]
    exact List.mem_cons_of_mem _ mem
  have tags : state.commands.filterMap Command.connectTag = rest.filterMap Command.connectTag := by
    rw [commands, List.filterMap_cons_none starts]
  have frames : ∀ tag, (rest.filterMap (Command.writeFor tag)).Sublist
      (state.commands.filterMap (Command.writeFor tag)) := by
    intro tag
    rw [commands]
    exact (List.sublist_cons_self _ _).filterMap _
  exact
    { lawful with
      writesNumbered := fun conn epoch frame pending =>
        lawful.writesNumbered conn epoch frame (still pending)
      spawned := by
        rw [← tags]
        exact lawful.spawned
      writesBounded := fun conn inner present epoch frame pending =>
        lawful.writesBounded conn inner present epoch frame (still pending)
      ongoing := by
        intro conn inner present made
        obtain ⟨notices, phase, hears, begins, all, working, awaited⟩ :=
          lawful.ongoing conn inner present made
        exact ⟨notices, phase, hears, begins, all, working,
          fun host port tls pending => awaited host port tls (still pending)⟩
      written := by
        intro worker mem
        exact (((frames worker.tag).append_left _).append_left _).trans (lawful.written worker mem)
      awaiting := by
        intro tag pending
        exact (frames tag).trans (lawful.awaiting tag (tags ▸ pending))
      finished := fun conn epoch pending => lawful.finished conn epoch (still pending) }

/-- The worker of a connect takes the place the connect had among the commands. -/
theorem Lawful.spawn {state : State} (lawful : Lawful state) {conn : ConnId} {epoch : Nat}
    {host : String} {port : UInt16} {tls : Bool} {rest : List Command}
    (commands : state.commands = .connect conn epoch host port tls :: rest) :
    Lawful { state with
      commands := rest
      workers := state.workers ++ [{ tag := { conn, epoch }, host, port, tls }]
      tasks := Function.update state.tasks conn
        (some { epoch, worker := state.workers.length }) } := by
  have still : ∀ {other}, other ∈ rest → other ∈ state.commands := by
    intro other mem
    rw [commands]
    exact List.mem_cons_of_mem _ mem
  have pendingTags : state.commands.filterMap Command.connectTag =
      { conn, epoch } :: rest.filterMap Command.connectTag := by
    rw [commands]
    rfl
  have frames : ∀ tag, state.commands.filterMap (Command.writeFor tag) =
      rest.filterMap (Command.writeFor tag) := by
    intro tag
    rw [commands]
    rfl
  exact
    { lawful with
      writesNumbered := fun other epoch frame pending =>
        lawful.writesNumbered other epoch frame (still pending)
      spawned := by
        have before := lawful.spawned
        rw [pendingTags] at before
        rw [List.map_append, List.append_assoc]
        exact before
      writesBounded := fun other inner present epoch frame pending =>
        lawful.writesBounded other inner present epoch frame (still pending)
      ongoing := by
        intro other inner present made
        obtain ⟨notices, phase, hears, begins, all, working, awaited⟩ :=
          lawful.ongoing other inner present made
        refine ⟨notices, phase, hears, begins, all, ?_, fun host port tls pending =>
          awaited host port tls (still pending)⟩
        intro worker mem tag
        obtain old | new := List.mem_append.mp mem
        · exact working worker old tag
        · -- The new worker is dialing, and the transport is connecting.
          cases List.mem_singleton.mp new
          obtain ⟨rfl, rfl⟩ := Tag.mk.inj tag
          obtain ⟨secured, state', waits⟩ :=
            awaited host port tls (commands ▸ List.mem_cons_self)
          exact ⟨secured, .dialing, ⟨.dialing, rfl, .inl rfl⟩, state', waits⟩
      written := by
        intro worker mem
        obtain old | new := List.mem_append.mp mem
        · have sublist := lawful.written worker old
          rw [frames] at sublist
          exact sublist
        · cases List.mem_singleton.mp new
          have sublist := lawful.awaiting { conn, epoch } (pendingTags ▸ List.mem_cons_self)
          rw [frames] at sublist
          exact sublist
      awaiting := by
        intro tag pending
        have sublist := lawful.awaiting tag (pendingTags ▸ List.mem_cons_of_mem _ pending)
        rw [frames] at sublist
        exact sublist
      tasks := by
        intro other task held
        by_cases same : other = conn
        · subst same
          cases (Function.update_self other _ state.tasks).symm.trans held
          exact ⟨_, List.getElem?_concat_length, rfl⟩
        · have old : state.tasks other = some task :=
            (Function.update_of_ne same _ _).symm.trans held
          obtain ⟨worker, found, tag⟩ := lawful.tasks other task old
          refine ⟨worker, ?_, tag⟩
          rw [List.getElem?_append_left (List.getElem?_eq_some_iff.mp found).1]
          exact found
      finished := by
        intro other epoch pending
        obtain ⟨worker, mem, tag, ended⟩ := lawful.finished other epoch (still pending)
        exact ⟨worker, List.mem_append_left _ mem, tag, ended⟩ }

/-- A frame queued for the worker of its connection. -/
theorem Lawful.enqueue {state : State} (lawful : Lawful state) {conn : ConnId} {task : ConnTask}
    {frame : Bytes} {rest : List Command}
    (commands : state.commands = .write conn task.epoch frame :: rest)
    (held : state.tasks conn = some task) :
    Lawful ({ state with commands := rest }.onWorker task.worker (Worker.enqueue frame)) := by
  have waiting := lawful.dequeue commands rfl
  obtain ⟨runner, found, runs⟩ := lawful.tasks conn task held
  have kept : ∀ worker : Worker, (worker.enqueue frame).tag = worker.tag ∧
      (worker.enqueue frame).tls = worker.tls ∧ (worker.enqueue frame).stage = worker.stage ∧
      (worker.enqueue frame).events = worker.events ∧
      (worker.enqueue frame).wire = worker.wire ∧
      ((worker.enqueue frame).queue = worker.queue ∨
        (worker.enqueue frame).queue = worker.queue ++ [frame]) := by
    intro worker
    unfold Worker.enqueue
    split
    · exact ⟨rfl, rfl, rfl, rfl, rfl, .inl rfl⟩
    · exact ⟨rfl, rfl, rfl, rfl, rfl, .inr rfl⟩
  refine
    { waiting with
      spawned := ?_, written := ?_, tasks := ?_, finished := ?_, ongoing := ?_ }
  · show (state.workers.modify _ _).map Worker.tag ++ _ = _
    rw [map_modify_of_eq fun worker _ => (kept worker).1]
    exact waiting.spawned
  · intro worker mem
    obtain old | ⟨old, present', rfl⟩ := mem_modify mem
    · exact waiting.written worker old
    · -- The frame leaves the commands for the queue of its own worker.
      cases found.symm.trans present'
      have sublist := lawful.written runner (List.mem_of_getElem? found)
      have carried : state.commands.filterMap (Command.writeFor runner.tag) =
          frame :: rest.filterMap (Command.writeFor runner.tag) := by
        rw [commands, runs]
        simp [Command.writeFor]
      rw [carried] at sublist
      obtain ⟨tag', _, _, _, wire', queue' | queue'⟩ := kept runner
      · rw [tag', wire', queue']
        refine List.Sublist.trans ?_ sublist
        exact ((List.sublist_cons_self _ _).append_left _).append_left _
      · rw [tag', wire', queue', List.append_assoc]
        exact sublist
  · intro other task' held'
    obtain ⟨worker, present', tag⟩ := waiting.tasks other task' held'
    by_cases here : task.worker = task'.worker
    · exact ⟨worker.enqueue frame, by simp [State.onWorker, here, present'],
        (kept worker).1.trans tag⟩
    · exact ⟨worker, by simp [State.onWorker, here, present'], tag⟩
  · intro other epoch pending
    obtain ⟨worker, mem, tag, ended⟩ := waiting.finished other epoch pending
    obtain ⟨at_, present'⟩ := List.mem_iff_getElem?.mp mem
    by_cases here : task.worker = at_
    · refine ⟨worker.enqueue frame, ?_, (kept worker).1.trans tag, (kept worker).2.2.1.trans ended⟩
      exact List.mem_of_getElem? (i := task.worker) (by simp [State.onWorker, here, present'])
    · exact ⟨worker, List.mem_of_getElem? (i := at_)
        (by simp [State.onWorker, here, present']), tag, ended⟩
  · intro other inner present made
    obtain ⟨notices, phase, hears, begins, all, working, awaited⟩ :=
      waiting.ongoing other inner present made
    refine ⟨notices, phase, hears, begins, all, ?_, awaited⟩
    intro worker mem tag
    obtain old | ⟨old, present', rfl⟩ := mem_modify mem
    · exact working worker old tag
    · obtain ⟨tag', tls', stage', events', _⟩ := kept old
      obtain ⟨tls, known, ⟨last, walked, reached⟩, inStep⟩ :=
        working old (List.mem_of_getElem? present') (tag'.symm.trans tag)
      refine ⟨tls'.trans tls, known, ⟨last, ?_, ?_⟩, inStep⟩
      · rw [tls', events']
        exact walked
      · rw [stage']
        exact reached

/-- Serving a command keeps the invariant. -/
theorem Lawful.serve {state next : State} (lawful : Lawful state)
    (served : state.serve = some next) : Lawful next := by
  unfold State.serve at served
  split at served
  · cases served
  split at served
  · cases served
  rename_i command rest commands
  cases served
  cases command with
  | connect conn epoch host port tls =>
      rw [State.perform]
      cases held : state.tasks conn with
      | none => exact lawful.spawn commands
      | some old =>
          have abandoned : Lawful (state.onWorker old.worker Worker.abort) :=
            lawful.onWorker fun worker _ => Moved.abort worker
          exact abandoned.spawn commands
  | write conn epoch frame =>
      rw [State.perform]
      split
      · rename_i task held
        split
        · rename_i same
          subst same
          exact lawful.enqueue commands held
        · exact lawful.dequeue commands rfl
      · exact lawful.dequeue commands rfl
  | close conn =>
      rw [State.perform]
      split
      · exact (lawful.dequeue commands rfl).wound conn _
      · exact lawful.dequeue commands rfl
  | finished conn epoch =>
      rw [State.perform]
      split
      · split
        · exact (lawful.dequeue commands rfl).forget conn
        · exact lawful.dequeue commands rfl
      · exact lawful.dequeue commands rfl
  | stop => exact { lawful.dequeue commands rfl with }

/-- Every step keeps the invariant. -/
theorem Lawful.step {state next : State} {label : Label} (lawful : Lawful state)
    (stepped : step state label = some next) : Lawful next := by
  cases label with
  | register => exact lawful.register stepped
  | setSink conn =>
      simp only [Net.step, State.setSink] at stepped
      split at stepped
      · rename_i inner present
        split at stepped <;> cases stepped
        rename_i unconnected
        exact lawful.setSink present (.inr unconnected)
      · cases stepped
  | dropSink conn =>
      obtain ⟨inner, present, rfl⟩ := Option.map_eq_some_iff.mp stepped
      exact lawful.setSink present (.inl rfl)
  | dropTransport conn => exact lawful.dropTransport stepped
  | connect conn host port tlsEnabled => exact lawful.connect stepped
  | write conn frame => exact lawful.write stepped
  | shutdown conn => exact lawful.shutdown stepped
  | deliver worker => exact lawful.deliver stepped
  | dropHub =>
      simp only [Net.step] at stepped
      split at stepped <;> cases stepped
      have dropped : Lawful { state with dropped := true } := { lawful with }
      exact dropped.send rfl (fun _ => rfl) fun _ _ => nofun
  | serve => exact lawful.serve stepped
  | windDown conn =>
      simp only [Net.step, State.windDown] at stepped
      split at stepped
      · obtain ⟨task, _, rfl⟩ := Option.map_eq_some_iff.mp stepped
        exact lawful.wound conn task.worker
      · cases stepped
  | report worker event => exact lawful.work (fun _ _ => Moved.of_report) stepped
  | failWrite worker error => exact lawful.work (fun _ _ => Moved.of_failWrite) stepped
  | writeFrame worker => exact lawful.work (fun _ _ => Moved.of_writeFrame) stepped
  | sayGoodbye worker => exact lawful.work (fun _ _ => Moved.of_sayGoodbye) stepped
  | ends worker => exact lawful.work (fun _ _ => Moved.of_ends) stepped
  | finish worker => exact lawful.finish stepped
  | deadline worker =>
      refine lawful.work (fun running aborted expired => ?_) stepped
      split at expired <;> cases expired
      exact .abort running
  | dies worker => exact lawful.work (fun _ _ => Moved.of_dies) stepped

/-- A hub starts lawful. -/
theorem lawful_initial : Lawful initial where
  unregistered := fun _ _ => rfl
  numbered := nofun
  writesNumbered := nofun
  spawned := rfl
  ascending := .nil
  newest := nofun
  bounded := nofun
  writesBounded := nofun
  running := nofun
  conversations := fun _ => ⟨.waiting, rfl⟩
  origins := by
    intro newer older origin notice shape
    exact absurd shape.symm (by simp [initial])
  written := nofun
  awaiting := nofun
  tasks := nofun
  finished := nofun
  ongoing := nofun

/-- The invariant holds in every reachable state. -/
theorem Reachable.lawful {state : State} (reachable : Reachable state) : Lawful state :=
  reachable.invariant Lawful lawful_initial fun lawful _ stepped => lawful.step stepped

end Omairc.Net

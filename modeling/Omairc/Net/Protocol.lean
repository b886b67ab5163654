import Omairc.Net.Epochs

/-!
# The epoch protocol

What a sink hears of a connection, which connection a frame reaches and what a finish
notice removes, over every interleaving of calls, deliveries and worker steps.
-/

namespace Omairc.Net

open Omairc.Text Omairc.Session

/-- A finish notice removes the task it is about, whose worker is over, and no other. -/
theorem Lawful.finish_removes {state next : State} (lawful : Lawful state) {conn : ConnId}
    {epoch : Nat} (first : state.commands.head? = some (.finished conn epoch))
    (served : state.serve = some next) {other : ConnId} {task : ConnTask}
    (held : state.tasks other = some task) :
    next.tasks other = some task ∨ other = conn ∧ task.epoch = epoch ∧
      ∃ worker, state.workers[task.worker]? = some worker ∧ worker.stage = .ended := by
  obtain ⟨rest, commands⟩ : ∃ rest, state.commands = .finished conn epoch :: rest := by
    cases commands : state.commands with
    | nil =>
        rw [commands] at first
        cases first
    | cons command rest =>
        rw [commands] at first
        exact ⟨rest, by rw [Option.some.inj first]⟩
  unfold State.serve at served
  split at served
  · cases served
  rw [commands] at served
  cases served
  by_cases own : other = conn ∧ task.epoch = epoch
  · obtain ⟨rfl, rfl⟩ := own
    refine .inr ⟨rfl, rfl, ?_⟩
    obtain ⟨runner, found, runs⟩ := lawful.tasks other task held
    obtain ⟨worker, mem, tag, ended⟩ := lawful.finished other task.epoch
      (commands ▸ List.mem_cons_self)
    -- There is one worker under the tag, so the one that told is the one the task runs.
    obtain ⟨index, present⟩ := List.mem_iff_getElem?.mp mem
    have same := lawful.index_unique found present (tag.trans runs.symm)
    subst same
    exact ⟨worker, present, ended⟩
  · refine .inl ?_
    rw [State.perform]
    split
    · rename_i current running
      split
      · rename_i same
        have elsewhere : other ≠ conn := by
          rintro rfl
          cases running.symm.trans held
          exact own ⟨rfl, same⟩
        exact (Function.update_of_ne elsewhere _ _).trans held
      · exact held
    · exact held

/-- The epoch protocol, in every reachable state.

The callbacks of each connection are `Connected`, at most one `Encrypted`, any number of
`Bytes` and at most one terminal callback in this order, or the terminal callback alone.
Every callback is about the connection that was current when it was made, and each
connect of a transport has a larger epoch than the ones before it. A frame reaches the
wire of the connection that was current when it was written, at most once and in order.
A finish notice leaves every task that runs. -/
theorem epoch_protocol {state : State} (reachable : Reachable state) :
    (∀ tag, IsConversation (heard tag state.log)) ∧
      (∀ newer older origin notice,
        state.log = newer ++ Entry.callback origin notice :: older →
          current origin.conn older = some origin.epoch) ∧
      (connectTags state.log).Pairwise (fun earlier later =>
        earlier.conn = later.conn → earlier.epoch < later.epoch) ∧
      (state.workers.map Worker.tag).Nodup ∧
      (∀ worker ∈ state.workers, worker.tag ∈ connectTags state.log ∧
        worker.wire.Sublist (addressed worker.tag state.log)) ∧
      (∀ conn epoch next, state.commands.head? = some (.finished conn epoch) →
        state.serve = some next → ∀ other task, state.tasks other = some task →
          next.tasks other = some task ∨ other = conn ∧ task.epoch = epoch ∧
            ∃ worker, state.workers[task.worker]? = some worker ∧ worker.stage = .ended) := by
  have lawful := reachable.lawful
  refine ⟨fun tag => ?_, lawful.origins, lawful.ascending,
    (List.nodup_append.mp lawful.nodup_tags).1, fun worker mem => ?_, ?_⟩
  · obtain ⟨_, heard⟩ := lawful.conversations tag
    exact Phase.isConversation_of_hear heard
  · exact ⟨lawful.made_of_worker mem,
      (List.sublist_append_left _ _).trans (lawful.written worker mem)⟩
  · intro conn epoch next first served other task held
    exact lawful.finish_removes first served held

/-- One connect over TLS that is written to, replaced by a second one and answered by
events of both workers. -/
def replacedConnect : List Label :=
  let error : TransportError := { kind := .network, message := "reset" }
  [.register, .setSink 0, .connect 0 "irc.example" 6697 true, .write 0 [1], .serve, .serve,
    .report 0 .connected, .report 0 .encrypted, .writeFrame 0, .deliver 0, .shutdown 0, .serve,
    .connect 0 "irc.example" 6667 false, .serve, .write 0 [2], .serve, .report 1 .connected,
    .deliver 0, .report 0 (.bytes [3]), .deliver 0, .report 0 .closed, .ends 0, .finish 0,
    .deliver 1, .report 1 (.bytes [4]), .report 1 (.failed error), .deliver 1, .deliver 1,
    .writeFrame 1]

/-- The protocol at the run of a replaced connection: each sink callback is of its own
connection, each frame is on its own wire, and the finish notice of the first worker,
which is next, leaves the task of the second. -/
theorem epoch_protocol_replaced :
    ∃ state, Reachable state ∧
      heard { conn := 0, epoch := 1 } state.log = [.connected, .disconnected] ∧
      heard { conn := 0, epoch := 3 } state.log =
        [.connected, .bytes [4], .error { kind := .network, message := "reset" }] ∧
      state.workers.map Worker.wire = [[[1]], [[2]]] ∧
      state.commands.head? = some (.finished 0 1) ∧
      (state.tasks 0).map ConnTask.epoch = some 3 ∧
      (∀ next, state.serve = some next → next.tasks 0 = state.tasks 0) := by
  have ran : (Semantics.runAll step initial replacedConnect).any (fun state => decide
      (heard { conn := 0, epoch := 1 } state.log = [.connected, .disconnected] ∧
        heard { conn := 0, epoch := 3 } state.log =
          [.connected, .bytes [4], .error { kind := .network, message := "reset" }] ∧
        state.workers.map Worker.wire = [[[1]], [[2]]] ∧
        state.commands.head? = some (.finished 0 1) ∧
        (state.tasks 0).map ConnTask.epoch = some 3)) = true := by
    decide
  obtain ⟨state, taken, ended⟩ := (Option.any_eq_true _ _).mp ran
  obtain ⟨first, second, wires, told, task⟩ := of_decide_eq_true ended
  have reachable : Reachable state := .of_runAll taken
  refine ⟨state, reachable, first, second, wires, told, task, fun next served => ?_⟩
  obtain ⟨held, found, epoch⟩ := Option.map_eq_some_iff.mp task
  obtain kept | ⟨_, same, _⟩ :=
    (epoch_protocol reachable).2.2.2.2.2 0 1 next told served 0 held found
  · rw [kept, found]
  · rw [epoch] at same
    cases same

/-- A conversation need not open with `Connected`: a connect that fails is reported by
its error alone, and one that is given up by `Disconnected` alone. -/
theorem lone_terminal :
    ¬ ∀ state, Reachable state → ∀ tag, heard tag state.log ≠ [] →
      (heard tag state.log).head? = some .connected := by
  intro opens
  have ran : (Semantics.runAll step initial
      [.register, .setSink 0, .connect 0 "irc.example" 6697 true, .serve,
        .report 0 (.failed { kind := .resolve, message := "no such host" }), .deliver 0]).any
      (fun state => decide (heard { conn := 0, epoch := 1 } state.log =
        [.error { kind := .resolve, message := "no such host" }])) = true := by
    decide
  obtain ⟨state, taken, ended⟩ := (Option.any_eq_true _ _).mp ran
  have alone := of_decide_eq_true ended
  have opening := opens state (.of_runAll taken) { conn := 0, epoch := 1 }
    (by rw [alone]; exact List.cons_ne_nil _ _)
  rw [alone] at opening
  cases opening

end Omairc.Net

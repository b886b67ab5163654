import Omairc.Session.QueuedEffects
import Omairc.Session.Reference

/-!
# Every write is one frame

Over every run, what the session queues to write ends in CR LF and holds no other
CR, LF or NUL. The typing notification is the one line that is not checked for NUL,
so the law holds of the runs that send none to a target with a NUL in it.
-/

namespace Omairc.Session

open Omairc.Text Omairc.Irc

/-- A target the typing notification accepts: not empty, without space, CR and LF. -/
def isTypingTarget (target : String) : Prop :=
  target ≠ "" ∧ ∀ byte ∈ utf8 target, byte ≠ 32 ∧ byte ≠ 13 ∧ byte ≠ 10

/-- A notification is built for the accepted targets. -/
theorem typingTagmsg_eq_some_iff {target : String} {phase : TypingPhase} {built : Bytes} :
    typingTagmsg target phase = some built ↔
      isTypingTarget target ∧
        built = utf8 ("@+typing=" ++ phase.tagValue ++ " TAGMSG " ++ target) ++ crlf := by
  unfold typingTagmsg isTypingTarget
  by_cases empty : target = ""
  · simp [empty]
  · by_cases broken : (utf8 target).any fun byte => byte == 32 || byte == 13 || byte == 10
    · rw [if_pos (by simp [broken])]
      refine ⟨fun built => (by cases built), fun accepted => ?_⟩
      obtain ⟨byte, present, breaks⟩ := List.any_eq_true.mp broken
      have whole := accepted.1.2 byte present
      simp [whole.1, whole.2.1, whole.2.2] at breaks
    · rw [if_neg (by simp [empty, broken])]
      have whole : ∀ byte ∈ utf8 target, byte ≠ 32 ∧ byte ≠ 13 ∧ byte ≠ 10 := by
        simpa [not_or, and_assoc] using broken
      exact ⟨fun built => ⟨⟨empty, whole⟩, (Option.some.inj built).symm⟩,
        fun accepted => congrArg some accepted.2.symm⟩

/-- A notification of an accepted target is one frame unless the target holds a NUL. -/
theorem isFrame_typing {target : String} (phase : TypingPhase) (accepted : isTypingTarget target) :
    IsFrame (utf8 ("@+typing=" ++ phase.tagValue ++ " TAGMSG " ++ target) ++ crlf) ↔
      (0 : UInt8) ∉ utf8 target := by
  have verb : containsForbidden (utf8 ("@+typing=" ++ phase.tagValue ++ " TAGMSG ")) = false := by
    cases phase
    all_goals decide
  have clean : containsForbidden (utf8 target) = false ↔ (0 : UInt8) ∉ utf8 target := by
    rw [containsForbidden, List.any_eq_false]
    refine ⟨fun clean present => clean 0 present (by decide), fun absent byte present => ?_⟩
    have whole := accepted.2 byte present
    have nonzero : byte ≠ 0 := fun zero => absent (zero ▸ present)
    simp [isForbidden, whole.2.1, whole.2.2, nonzero]
  rw [utf8_append, ← clean]
  constructor
  · rintro ⟨body, bodyClean, same⟩
    rw [← List.append_cancel_right same, containsForbidden_append, verb] at bodyClean
    simpa using bodyClean
  · intro targetClean
    exact isFrame_append_crlf (by rw [containsForbidden_append, verb, targetClean]; rfl)

/-- The target and the phase of an action that sends a typing notification. -/
def Action.typingRequest : Action → Option (String × TypingPhase)
  | .send (.typing target phase) => some (target, phase)
  | _ => none

namespace Core

/-- The session would send a typing notification. -/
def TypingGoesOut (core : Core) (target : String) (phase : TypingPhase) : Prop :=
  core.state = .registered ∧ .messageTags ∈ core.caps.enabled ∧
    shouldSendTyping core.typing target phase core.now = true ∧ isTypingTarget target

/-- The action sends a typing notification to a target that holds a NUL. -/
def InjectsNul (core : Core) (action : Action) : Prop :=
  ∃ request ∈ action.typingRequest, core.TypingGoesOut request.1 request.2 ∧
    (0 : UInt8) ∈ utf8 request.1

instance (core : Core) (target : String) (phase : TypingPhase) :
    Decidable (core.TypingGoesOut target phase) := inferInstanceAs (Decidable (_ ∧ _ ∧ _ ∧ _ ∧ _))

instance (core : Core) (action : Action) : Decidable (core.InjectsNul action) :=
  inferInstanceAs (Decidable (∃ request ∈ action.typingRequest, _))

/-- A notification that goes out is queued, and one that does not is not. -/
theorem sendTyping_effects (core : Core) (target : String) (phase : TypingPhase) :
    (core.TypingGoesOut target phase → (core.sendTyping target phase).1.effects =
      core.effects ++
        [.write (utf8 ("@+typing=" ++ phase.tagValue ++ " TAGMSG " ++ target) ++ crlf)]) ∧
    (¬ core.TypingGoesOut target phase →
      (core.sendTyping target phase).1.effects = core.effects) := by
  unfold sendTyping TypingGoesOut
  by_cases registered : core.state = .registered
  · by_cases tagged : .messageTags ∈ core.caps.enabled
    · by_cases paced : shouldSendTyping core.typing target phase core.now = true
      · rw [if_neg (by simp [registered]), if_neg (by simp [tagged]), if_neg (by simp [paced])]
        cases built : typingTagmsg target phase with
        | none =>
            refine ⟨fun goes => ?_, fun _ => rfl⟩
            rw [typingTagmsg_eq_some_iff.mpr ⟨goes.2.2.2, rfl⟩] at built
            cases built
        | some line =>
            obtain ⟨accepted, rfl⟩ := typingTagmsg_eq_some_iff.mp built
            exact ⟨fun _ => rfl, fun stays => absurd ⟨registered, tagged, paced, accepted⟩ stays⟩
      · simp [registered, tagged, paced]
    · simp [registered, tagged]
  · simp [registered]

end Core

namespace System

variable [Platform] {system next : System} {readings : Readings} {action : Action}

/-- Every entry queues frames and transport calls, unless it injects a NUL. -/
theorem entry_queues_framed {core entered : Core} (entry : Entry core action entered)
    (clean : ¬ core.InjectsNul action) : Queues Effect.IsFramed core entered := by
  have plain {changed : Core} (change : Queues Effect.IsPlain core changed) :
      Queues Effect.IsFramed core changed := change.mono fun _ => Effect.IsPlain.isFramed
  have stopped (core : Core) : Queues Effect.IsFramed core core.stop := by
    refine core.stop_queues.mono fun effect queued => ?_
    rcases queued with rfl | rfl
    all_goals trivial
  cases entry with
  | start => exact core.start_queues
  | stop => exact stopped core
  | quit reason =>
      have sent := core.sendCommand_peripheral
        (utf8 (if reason = "" then "QUIT" else "QUIT :" ++ reason)) ""
      unfold Core.quit Core.sendText
      repeat' split
      · exact .refl core
      · rename_i result
        exact (plain (.of_peripheral (sent.of_result result))).trans (stopped _)
      · rename_i result
        exact plain (.of_peripheral (sent.of_result result))
      · exact stopped core
  | send operation =>
      by_cases typed : ∃ target phase, operation = .typing target phase
      · obtain ⟨target, phase, rfl⟩ := typed
        obtain ⟨sent, unsent⟩ := core.sendTyping_effects target phase
        by_cases goes : core.TypingGoesOut target phase
        · refine .single _ (sent goes) ((isFrame_typing phase goes.2.2.2).mpr fun present => ?_)
          exact clean ⟨(target, phase), rfl, goes, present⟩
        · exact .of_eq (unsent goes)
      · refine plain (.of_peripheral (core.send_peripheral_of_ne_typing fun target phase same => ?_))
        exact typed ⟨target, phase, same⟩
  | startLabeledRequest =>
      unfold Core.startLabeledRequest
      split
      · exact .refl core
      · exact plain (.of_peripheral core.beginLabeledRequest_peripheral)
  | cancelRequestLabel label => exact plain (.of_peripheral (core.dropRequestLabel_peripheral label))
  | setOwnMetadata key value =>
      exact plain (.of_peripheral (core.setOwnMetadata_peripheral key value))
  | queueReadMarkerSet target time =>
      exact plain (.of_peripheral (core.queueReadMarkerSet_peripheral target time))
  | notifyReachable => exact core.beginReconnectAttempt_queues
  | setIgnoreFilter filter => exact .of_eq rfl
  | setHistoryResume resume => exact .of_eq rfl
  | connected connecting =>
      unfold Core.onConnected
      split
      · refine plain (Queues.trans ?_ (Core.beginCapabilityNegotiation_queues _))
        exact .of_eq rfl
      · exact .of_eq rfl
  | encrypted connected tls =>
      unfold Core.onEncrypted
      split
      · refine plain (Queues.trans ?_ (Core.beginCapabilityNegotiation_queues _))
        exact .of_eq rfl
      · exact .of_eq rfl
  | closed isOpen =>
      refine Queues.trans ?_ (Core.onDisconnected_queues _)
      exact .of_eq rfl
  | transportFailed error inFlight =>
      refine plain (Queues.trans ?_ (Core.errorOccurred_queues _ error))
      exact .of_eq rfl
  | silentRead bytes delivers framesless =>
      exact .of_eq (beginRead_begun core bytes).effects
  | timerFired slot id => exact core.timerFired_queues slot id
  | metadataRetry target =>
      refine plain (Queues.trans ?_ (.of_peripheral (Core.sendCommand_peripheral _ _ _)))
      exact .of_eq rfl

/-- What waits to be written is one frame each. -/
def Framed (system : System) : Prop := ∀ frame, .write frame ∈ system.pending → IsFrame frame

/-- The step does not inject a NUL. -/
def InjectsNoNul (system : System) (label : Readings × Action) : Prop :=
  ¬ (system.core.withReadings label.1).InjectsNul label.2

instance (system : System) (label : Readings × Action) : Decidable (system.InjectsNoNul label) :=
  inferInstanceAs (Decidable (¬ _))

theorem Framed.step (framed : system.Framed) (orderly : system.Orderly)
    (clean : system.InjectsNoNul (readings, action))
    (stepped : system.step readings action = some next) : next.Framed := by
  have plain {core changed : Core} (change : Queues Effect.IsPlain core changed) :
      Queues Effect.IsFramed core changed := change.mono fun _ => Effect.IsPlain.isFramed
  have pending := (step_outcome orderly stepped).pending Effect.IsFramed rfl trivial
    (fun entered entry => entry_queues_framed entry clean)
    (fun frame _ settled _ => plain (Core.handleFrame_queues _ frame settled))
    (fun _ _ => Queues.trans (.of_eq rfl) (Core.onDisconnected_queues _))
  intro frame waits
  rcases pending _ waits with earlier | allowed
  · exact framed frame earlier
  · exact allowed

/-- In every run that sends no typing notification to a target with a NUL in it, all
that waits to be written is one frame each: it ends in CR LF and holds no other CR, LF
or NUL. -/
theorem writes_framed {config : SessionConfig}
    (runs : Semantics.Runs transition InjectsNoNul (initial config) system) :
    ∀ frame, .write frame ∈ system.pending → IsFrame frame := by
  have start : (initial config).Orderly ∧ (initial config).Framed :=
    ⟨⟨fun _ => rfl, fun reads => absurd rfl reads⟩, fun _ waits => (by cases waits)⟩
  refine (runs.invariant (fun system => system.Orderly ∧ system.Framed) start ?_).2
  rintro current ⟨readings, action⟩ next ⟨orderly, framed⟩ clean stepped
  exact ⟨orderly.step stepped, framed.step orderly clean stepped⟩

/-- A step that injects a NUL queues a line that is not a frame. -/
theorem injected_not_framed (orderly : system.Orderly)
    (injects : (system.core.withReadings readings).InjectsNul action)
    (stepped : system.step readings action = some next) : ¬ next.Framed := by
  obtain ⟨⟨target, phase⟩, requested, goes, nul⟩ := injects
  obtain rfl : action = .send (.typing target phase) := by
    unfold Action.typingRequest at requested
    split at requested
    · cases requested
      rfl
    · cases requested
  have outcome := step_outcome orderly stepped
  intro framed
  cases outcome with
  | enters quiet resting entry =>
      cases entry
      have queued := (Core.sendTyping_effects _ target phase).1 goes
      have typing := isFrame_typing phase goes.2.2.2
      refine typing.mp (framed _ ?_) nul
      rw [dispatchEffects_pending, List.append_nil]
      change _ ∈ (Core.sendTyping _ target phase).1.effects
      rw [queued]
      exact List.mem_append_right _ (List.mem_singleton.mpr rfl)

end System

/-! ## On the reference platform -/

section Reference

local instance framePlatform : Platform := reference

namespace System

/-- A run that registers and sends a typing notification keeps the law. -/
theorem writes_framed_typing_channel :
    ∃ system : System, system.core.state = .registered ∧
      .write (utf8 "@+typing=active TAGMSG #omairc\r\n") ∈ system.pending ∧
      ∀ frame, .write frame ∈ system.pending → IsFrame frame := by
  have ends : (Semantics.runGuarded transition InjectsNoNul (initial plaintextProfile)
      (underOneClock (connectActions ++ readActions
        [":s CAP * LS :message-tags", ":s CAP * ACK :message-tags", ":s 001 nick :hi"] ++
          performActions 4 ++ [.send (.typing "#omairc" .active)]))).any
      (fun system => system.core.state = .registered &&
        system.pending.contains (.write (utf8 "@+typing=active TAGMSG #omairc\r\n"))) = true := by
    decide +kernel
  obtain ⟨system, taken, holds⟩ := exists_of_any ends
  simp only [Bool.and_eq_true, decide_eq_true_eq, List.contains_iff_mem] at holds
  exact ⟨system, holds.1, holds.2, writes_framed (.of_runGuarded taken)⟩

/-- A typing notification to a target with a NUL in it is written with the NUL. -/
theorem nul_target_written :
    ¬ ∀ config system, Reachable config system →
      ∀ frame, .write frame ∈ system.pending → IsFrame frame := by
  intro law
  have ends : ((initial plaintextProfile).run (underOneClock (connectActions ++ readActions
      [":s CAP * LS :message-tags", ":s CAP * ACK :message-tags", ":s 001 nick :hi"] ++
        performActions 4 ++ [.send (.typing "a\x00b" .active)]))).any
      (fun system =>
        system.pending.contains (.write (utf8 "@+typing=active TAGMSG a\x00b\r\n"))) = true := by
    decide +kernel
  obtain ⟨system, taken, waits⟩ := exists_of_any ends
  obtain ⟨body, clean, same⟩ := law _ system (.of_runAll taken) _
    (List.contains_iff_mem.mp waits)
  have forbidden : containsForbidden (utf8 "@+typing=active TAGMSG a\x00b") = false := by
    have shape : utf8 "@+typing=active TAGMSG a\x00b\r\n" =
        utf8 "@+typing=active TAGMSG a\x00b" ++ crlf := by decide
    rw [List.append_cancel_right (shape.symm.trans same)]
    exact clean
  exact absurd forbidden (by decide)

end System

end Reference

end Omairc.Session

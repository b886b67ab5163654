import Omairc.Controller.ChannelListSteps
import Omairc.Semantics.Execution
import Omairc.Session.Reference

/-!
# Whose answer a channel list holds

The server answers the LIST lines of a network one after another, each with rows and an
end, and no line of an answer names the request it belongs to. The traffic counts the
answers, so that what a load holds can be compared with the answer to its own LIST.
-/

namespace Omairc.ChannelList

open Omairc.Irc Omairc.Text

/-- The channel list with the answers of the server: how many of them ended on each network,
and the rows each of them carried so far. -/
structure Traffic where
  lists : ChannelLists := {}
  ended : String → Nat := fun _ => 0
  answers : String → Nat → List ListedChannel := fun _ _ => []

namespace Traffic

/-- The number of LIST lines written on a network. -/
def written (traffic : Traffic) (networkId : String) : Nat :=
  traffic.lists.written.countP fun line => line.1 == networkId

/-- One step of the traffic. -/
inductive Label
  | request (networkId mask : String) (session : Option ListSession)
  | dismiss
  | fire (networkId : String)
  | expire
  | answer (networkId : String) (message : IrcMessage) (session : Option ListSession)

variable [Platform]

/-- Change the channel list. -/
def onLists (traffic : Traffic) (lists : ChannelLists) : Traffic := { traffic with lists }

/-- The row a line of an answer carries, if it does. -/
def answerRow (message : IrcMessage) : Option ListedChannel :=
  if message.command = "322" then ChannelLists.listedRow message else none

/-- What the server sent, after one more line of the answer that is due. -/
def noteAnswer (traffic : Traffic) (networkId : String) (message : IrcMessage) : Traffic :=
  { traffic with
    ended :=
      if message.command = "323" then
        Function.update traffic.ended networkId (traffic.ended networkId + 1)
      else traffic.ended
    answers :=
      match answerRow message with
      | some row =>
          Function.update traffic.answers networkId
            (Function.update (traffic.answers networkId) (traffic.ended networkId)
              (traffic.answers networkId (traffic.ended networkId) ++ [row]))
      | none => traffic.answers }

/-- Whether the server may send a line: an answer is due, the line belongs to one, and the
rows of the load stay under the cap. -/
def Due (traffic : Traffic) (networkId : String) (message : IrcMessage) : Prop :=
  traffic.ended networkId < traffic.written networkId ∧
    (message.command = "321" ∨ message.command = "322" ∨ message.command = "323") ∧
    ∀ entry ∈ traffic.lists.requests.states networkId, entry.rows.length < channelListMaxRows

instance (traffic : Traffic) (networkId : String) (message : IrcMessage) :
    Decidable (traffic.Due networkId message) := by
  unfold Due
  infer_instance

/-- One step. The connection stays up, and an answer is a 321, rows and one 323. -/
def step (traffic : Traffic) : Label → Option Traffic
  | .request networkId mask session =>
      (traffic.lists.step (.request networkId mask session)).map traffic.onLists
  | .dismiss => (traffic.lists.step .dismiss).map traffic.onLists
  | .fire networkId => (traffic.lists.step (.fire networkId)).map traffic.onLists
  | .expire => (traffic.lists.step .expire).map traffic.onLists
  | .answer networkId message session =>
      if traffic.Due networkId message then
        (traffic.lists.step (.message networkId message session)).map
          (traffic.noteAnswer networkId message).onLists
      else none

end Traffic

/-- While a load runs, a row that names a channel answers the LIST of that load, and the end
of an earlier LIST finds the load draining. -/
def AnswersOwn (traffic : Traffic) : Traffic.Label → Prop
  | .answer networkId message _ =>
      ∀ entry ∈ traffic.lists.requests.states networkId, entry.loading = true →
        (∀ row ∈ Traffic.answerRow message, row.name ≠ "" →
          traffic.ended networkId + 1 = traffic.written networkId) ∧
        (message.command = "323" → traffic.ended networkId + 1 < traffic.written networkId →
          entry.drainTimedOutEnd = true)
  | _ => True

instance (traffic : Traffic) : ∀ label, Decidable (AnswersOwn traffic label)
  | .answer networkId message session => by unfold AnswersOwn; infer_instance
  | .request .. => .isTrue trivial
  | .dismiss => .isTrue trivial
  | .fire _ => .isTrue trivial
  | .expire => .isTrue trivial

section Network

variable [Platform]

/-- The request of a network beside the LIST lines written there, the answers that ended and
the rows they carried. -/
structure Accounted (ended written : Nat) (answers : Nat → List ListedChannel)
    (request : Option ChannelListState) : Prop where
  counted : ended ≤ written
  unsent : ∀ line, written ≤ line → answers line = []
  running : ∀ entry, request = some entry → entry.loading = true →
    ended < written ∧ entry.rows = collect (answers (written - 1)) ∧ entry.complete = false ∧
      (entry.drainTimedOutEnd = true → ended + 1 < written)
  done : ∀ entry, request = some entry → entry.complete = true →
    entry.loading = false ∧ ended = written ∧ entry.rows = collect (answers (written - 1))
  draining : ∀ entry, request = some entry → entry.drainTimedOutEnd = true → ended < written

namespace Accounted

variable {ended written : Nat} {answers : Nat → List ListedChannel}
  {request : Option ChannelListState} {entry : ChannelListState}

/-- A network without a request is accounted for. -/
theorem nothing (counted : ended ≤ written) (unsent : ∀ line, written ≤ line → answers line = []) :
    Accounted ended written answers none where
  counted := counted
  unsent := unsent
  running _ absent := by cases absent
  done _ absent := by cases absent
  draining _ absent := by cases absent

/-- A request with another waiting mask is accounted for. -/
theorem pend (accounted : Accounted ended written answers (some entry))
    (pendingMask : Option String) :
    Accounted ended written answers (some { entry with pendingMask }) where
  counted := accounted.counted
  unsent := accounted.unsent
  running := by
    rintro _ ⟨⟩
    exact accounted.running entry rfl
  done := by
    rintro _ ⟨⟩
    exact accounted.done entry rfl
  draining := by
    rintro _ ⟨⟩
    exact accounted.draining entry rfl

/-- A load that starts is accounted to the LIST line written for it. -/
theorem load (accounted : Accounted ended written answers request) (mask : String) :
    Accounted ended (written + 1) answers
      (some { mask, loading := true
              drainTimedOutEnd := request.any ChannelListState.drainTimedOutEnd }) where
  counted := accounted.counted.trans (Nat.le_succ _)
  unsent line later := accounted.unsent line (by omega)
  running := by
    rintro _ ⟨⟩ _
    refine ⟨Nat.lt_succ_of_le accounted.counted, ?_, rfl, fun drains => ?_⟩
    · rw [Nat.add_sub_cancel, accounted.unsent written (Nat.le_refl _)]
      rfl
    · obtain ⟨before, found, stale⟩ := Session.exists_of_any drains
      have := accounted.draining before found stale
      omega
  done := by
    rintro _ ⟨⟩ complete
    cases complete
  draining := by
    rintro _ ⟨⟩ _
    exact Nat.lt_succ_of_le accounted.counted

/-- A load that times out leaves its own end outstanding. -/
theorem timeOut (accounted : Accounted ended written answers (some entry))
    (loading : entry.loading = true) (text : String) :
    Accounted ended written answers
      (some { entry with
        loading := false, complete := false, pendingMask := none, error := text
        drainTimedOutEnd := entry.drainTimedOutEnd || true }) where
  counted := accounted.counted
  unsent := accounted.unsent
  running := by
    rintro _ ⟨⟩ running
    cases running
  done := by
    rintro _ ⟨⟩ complete
    cases complete
  draining := by
    rintro _ ⟨⟩ _
    exact (accounted.running entry rfl loading).1

/-- The own end of a load completes it. -/
theorem complete (accounted : Accounted ended written answers (some entry))
    (loading : entry.loading = true) (fresh : entry.drainTimedOutEnd = false)
    (own : ended + 1 < written → entry.drainTimedOutEnd = true) :
    Accounted (ended + 1) written answers
      (some { entry with pendingMask := none, loading := false, complete := true, error := "" }) := by
  obtain ⟨due, rows, _, _⟩ := accounted.running entry rfl loading
  have last : ended + 1 = written := by
    by_contra early
    have stale := own (by omega)
    rw [fresh] at stale
    cases stale
  refine ⟨by omega, accounted.unsent, ?_, ?_, ?_⟩
  · rintro _ ⟨⟩ running
    cases running
  · rintro _ ⟨⟩ _
    exact ⟨rfl, last, rows⟩
  · rintro _ ⟨⟩ stale
    rw [fresh] at stale
    cases stale

/-- The end of an earlier LIST is swallowed. -/
theorem drain (accounted : Accounted ended written answers (some entry)) (due : ended < written)
    (stale : entry.loading = true → entry.drainTimedOutEnd = true) :
    Accounted (ended + 1) written answers (some { entry with drainTimedOutEnd := false }) := by
  refine ⟨due, accounted.unsent, ?_, ?_, ?_⟩
  · rintro _ ⟨⟩ loading
    obtain ⟨_, rows, unfinished, later⟩ := accounted.running entry rfl loading
    exact ⟨later (stale loading), rows, unfinished, nofun⟩
  · rintro _ ⟨⟩ complete
    have := (accounted.done entry rfl complete).2.1
    omega
  · rintro _ ⟨⟩ stale
    cases stale

/-- A row of the own answer is stored. -/
theorem store (accounted : Accounted ended written answers (some entry))
    (loading : entry.loading = true) {row : ListedChannel} (named : row.name ≠ "")
    (own : ended + 1 = written) :
    Accounted ended written (Function.update answers ended (answers ended ++ [row]))
      (some { entry with rows := (storeRow entry.rows row).1 }) := by
  obtain ⟨due, rows, unfinished, later⟩ := accounted.running entry rfl loading
  have line : written - 1 = ended := by omega
  refine ⟨accounted.counted, ?_, ?_, ?_, ?_⟩
  · intro other later
    rw [Function.update_of_ne (by omega)]
    exact accounted.unsent other later
  · rintro _ ⟨⟩ _
    refine ⟨due, ?_, unfinished, later⟩
    rw [line] at rows ⊢
    rw [Function.update_self, collect_append, if_neg named, ← rows]
  · rintro _ ⟨⟩ complete
    rw [unfinished] at complete
    cases complete
  · rintro _ ⟨⟩ stale
    exact accounted.draining entry rfl stale

/-- A row that no load takes. -/
theorem ignore (accounted : Accounted ended written answers request) (due : ended < written)
    {row : ListedChannel}
    (ignored : ∀ entry, request = some entry → row.name = "" ∨ entry.loading = false) :
    Accounted ended written (Function.update answers ended (answers ended ++ [row])) request := by
  refine ⟨accounted.counted, ?_, ?_, ?_, accounted.draining⟩
  · intro other later
    rw [Function.update_of_ne (by omega)]
    exact accounted.unsent other later
  · intro entry found loading
    obtain ⟨_, rows, unfinished, later⟩ := accounted.running entry found loading
    refine ⟨due, ?_, unfinished, later⟩
    rcases ignored entry found with nameless | stopped
    · by_cases own : written - 1 = ended
      · rw [own] at rows ⊢
        rw [Function.update_self, collect_append, if_pos nameless]
        exact rows
      · rw [Function.update_of_ne own]
        exact rows
    · rw [loading] at stopped
      cases stopped
  · intro entry found complete
    have := (accounted.done entry found complete).2.1
    omega

end Accounted

/-- Every network is accounted for. -/
def Books (traffic : Traffic) : Prop :=
  ∀ networkId, Accounted (traffic.ended networkId) (traffic.written networkId)
    (traffic.answers networkId) (traffic.lists.requests.states networkId)

variable {traffic : Traffic} {networkId : String}

omit [Platform] in
/-- The LIST lines of a network after one more is written. -/
theorem written_append (lists : ChannelLists) (ended : String → Nat)
    (answers : String → Nat → List ListedChannel) (mask : String)
    (written : lists.written = traffic.lists.written ++ [(networkId, mask)]) (other : String) :
    ({ lists, ended, answers } : Traffic).written other =
      traffic.written other + if other = networkId then 1 else 0 := by
  rw [Traffic.written, written, List.countP_append, List.countP_singleton]
  congr 1
  exact if_congr (beq_iff_eq.trans eq_comm) rfl rfl

/-- A step that touches one network keeps the others accounted for. -/
theorem Books.replace (books : Books traffic) {ended : String → Nat}
    {answers : String → Nat → List ListedChannel} {lists : ChannelLists}
    {request : Option ChannelListState}
    (states : lists.requests.states =
      Function.update traffic.lists.requests.states networkId request)
    (apart : ∀ other ≠ networkId, ended other = traffic.ended other ∧
      answers other = traffic.answers other ∧
      ({ lists, ended, answers } : Traffic).written other = traffic.written other)
    (own : Accounted (ended networkId) (({ lists, ended, answers } : Traffic).written networkId)
      (answers networkId) request) :
    Books { lists, ended, answers } := by
  intro other
  dsimp only
  rw [states]
  by_cases same : other = networkId
  · rw [same, Function.update_self]
    exact own
  · obtain ⟨ended, answers, written⟩ := apart other same
    rw [ended, answers, written, Function.update_of_ne same]
    exact books other

/-- A step of the user is accounted for. -/
theorem startChannelList_books (books : Books traffic) (session : Option ListSession)
    (networkId mask : String) :
    Books (traffic.onLists (traffic.lists.startChannelList session networkId mask).1) := by
  generalize started : (traffic.lists.startChannelList session networkId mask).1 = after
  have own := books networkId
  rcases traffic.lists.start_cases session networkId mask started with
    ⟨states, written⟩ | ⟨entry, pendingMask, found, states, written⟩ | ⟨mask, states, written⟩ |
    ⟨states, written⟩
  · intro other
    have before := books other
    rw [← states, Traffic.written, ← written] at before
    exact before
  · have count : ∀ other, (traffic.onLists after).written other = traffic.written other := by
      intro other
      rw [Traffic.written, Traffic.written, ← written]
      rfl
    refine books.replace states (fun other _ => ⟨rfl, rfl, count other⟩) ?_
    rw [found] at own
    have pending := own.pend pendingMask
    rw [← count networkId] at pending
    exact pending
  · have count := @written_append traffic _ after traffic.ended traffic.answers mask written
    refine books.replace states (fun other apart => ⟨rfl, rfl, ?_⟩) ?_
    · rw [count, if_neg apart]
      rfl
    · rw [count, if_pos rfl]
      exact own.load mask
  · have count : ∀ other, (traffic.onLists after).written other = traffic.written other := by
      intro other
      rw [Traffic.written, Traffic.written, ← written]
      rfl
    refine books.replace states (fun other _ => ⟨rfl, rfl, count other⟩) ?_
    have dropped := Accounted.nothing own.counted own.unsent
    rw [← count networkId] at dropped
    exact dropped

/-- A timeout is accounted for. -/
theorem expire_books (books : Books traffic) :
    Books (traffic.onLists traffic.lists.runChannelListExpiry) := by
  unfold ChannelLists.runChannelListExpiry
  dsimp only
  split
  · intro other
    have before := books other
    rw [← ChannelListRequests.takeExpiry_states] at before
    exact before
  · rename_i networkId _
    generalize failed : ChannelLists.failChannelList
      { traffic.lists with requests := traffic.lists.requests.takeExpiry.1 } networkId
      channelListTimeoutText true = after
    have own := books networkId
    obtain ⟨requests, written⟩ := ChannelLists.failChannelList_requests
      { traffic.lists with requests := traffic.lists.requests.takeExpiry.1 } networkId
      channelListTimeoutText true
    rw [failed] at requests written
    have count : ∀ other, (traffic.onLists after).written other = traffic.written other := by
      intro other
      rw [Traffic.written, Traffic.written]
      show after.written.countP _ = _
      rw [written]
    rcases traffic.lists.requests.takeExpiry.1.fail_cases networkId channelListTimeoutText true with
      ⟨entry, found, loading, states, _⟩ | ⟨_, same⟩
    · rw [← requests] at states
      rw [ChannelListRequests.takeExpiry_states] at found states
      refine books.replace states (fun other _ => ⟨rfl, rfl, count other⟩) ?_
      rw [found] at own
      have timed := own.timeOut loading channelListTimeoutText
      rw [← count networkId] at timed
      exact timed
    · intro other
      have before := books other
      rw [same] at requests
      rw [← ChannelListRequests.takeExpiry_states, ← requests, ← count other] at before
      exact before

/-- The end of an answer is accounted for. -/
theorem finish_books (books : Books traffic) (session : Option ListSession)
    (due : traffic.ended networkId < traffic.written networkId)
    (own : ∀ entry, traffic.lists.requests.states networkId = some entry → entry.loading = true →
      traffic.ended networkId + 1 < traffic.written networkId → entry.drainTimedOutEnd = true) :
    Books
      { traffic with
        lists := traffic.lists.finishChannelList session networkId
        ended := Function.update traffic.ended networkId (traffic.ended networkId + 1) } := by
  generalize finished : traffic.lists.finishChannelList session networkId = after
  have before := books networkId
  have apart : ∀ other ≠ networkId,
      Function.update traffic.ended networkId (traffic.ended networkId + 1) other =
        traffic.ended other := fun other apart => Function.update_of_ne apart ..
  -- What the end alone leaves of the request.
  obtain ⟨request, states, accounted⟩ : ∃ request,
      (traffic.lists.requests.finish networkId).1.states =
        Function.update traffic.lists.requests.states networkId request ∧
      Accounted (traffic.ended networkId + 1) (traffic.written networkId)
        (traffic.answers networkId) request := by
    rcases traffic.lists.requests.finish_cases networkId with
      ⟨entry, _, found, loading, fresh, states, _⟩ | ⟨entry, found, stale, states, _⟩ |
      ⟨absent, same⟩
    · rw [found] at before
      exact ⟨_, states, before.complete loading fresh (own entry found loading)⟩
    · rw [found] at before
      exact ⟨_, states, before.drain due stale⟩
    · refine ⟨none, ?_, .nothing due before.unsent⟩
      rw [same, ← absent, Function.update_eq_self]
  have found : (traffic.lists.requests.finish networkId).1.states networkId = request := by
    rw [states, Function.update_self]
  rcases traffic.lists.finishChannelList_cases session networkId finished with
    ⟨requests, written⟩ | ⟨_, ⟨mask, loads, written⟩ | ⟨loads, written⟩⟩
  · have count : ∀ other, ({ traffic with
        lists := after
        ended := Function.update traffic.ended networkId (traffic.ended networkId + 1) } :
        Traffic).written other = traffic.written other := by
      intro other
      rw [Traffic.written, Traffic.written, ← written]
    rw [← requests] at states
    refine books.replace states (fun other outside => ⟨apart other outside, rfl, count other⟩) ?_
    rw [count, Function.update_self]
    exact accounted
  · have count := @written_append traffic _ after
      (Function.update traffic.ended networkId (traffic.ended networkId + 1)) traffic.answers mask
      written
    rw [ChannelListRequests.freshLoad, found, states, Function.update_idem] at loads
    refine books.replace loads (fun other outside => ⟨apart other outside, rfl, ?_⟩) ?_
    · rw [count, if_neg outside]
      rfl
    · rw [count, if_pos rfl, Function.update_self]
      exact accounted.load mask
  · have count : ∀ other, ({ traffic with
        lists := after
        ended := Function.update traffic.ended networkId (traffic.ended networkId + 1) } :
        Traffic).written other = traffic.written other := by
      intro other
      rw [Traffic.written, Traffic.written, ← written]
    rw [states, Function.update_idem] at loads
    refine books.replace loads (fun other outside => ⟨apart other outside, rfl, count other⟩) ?_
    rw [count, Function.update_self]
    exact .nothing accounted.counted accounted.unsent

/-- A row of an answer is accounted for. -/
theorem takeRow_books (books : Books traffic)
    (due : traffic.ended networkId < traffic.written networkId) (row : ListedChannel)
    (own : ∀ entry, traffic.lists.requests.states networkId = some entry → entry.loading = true →
      row.name ≠ "" → traffic.ended networkId + 1 = traffic.written networkId) :
    Books
      { traffic with
        lists := traffic.lists.takeRow networkId row
        answers := Function.update traffic.answers networkId
          (Function.update (traffic.answers networkId) (traffic.ended networkId)
            (traffic.answers networkId (traffic.ended networkId) ++ [row])) } := by
  obtain ⟨requests, written⟩ := traffic.lists.takeRow_requests networkId row
  generalize traffic.lists.takeRow networkId row = after at requests written ⊢
  have before := books networkId
  have count : ∀ other, ({ traffic with
      lists := after
      answers := Function.update traffic.answers networkId
        (Function.update (traffic.answers networkId) (traffic.ended networkId)
          (traffic.answers networkId (traffic.ended networkId) ++ [row])) } :
      Traffic).written other = traffic.written other := by
    intro other
    rw [Traffic.written, Traffic.written, ← written]
  have apart : ∀ other ≠ networkId, Function.update traffic.answers networkId
      (Function.update (traffic.answers networkId) (traffic.ended networkId)
        (traffic.answers networkId (traffic.ended networkId) ++ [row])) other =
      traffic.answers other := fun other apart => Function.update_of_ne apart ..
  rcases traffic.lists.requests.row_cases networkId row with
    ⟨entry, found, loading, named, states, _⟩ | ⟨ignored, same⟩
  · rw [← requests] at states
    refine books.replace states (fun other outside => ⟨rfl, apart other outside, count other⟩) ?_
    rw [count, Function.update_self]
    rw [found] at before
    exact before.store loading named (own entry found loading named)
  · have states : after.requests.states = Function.update traffic.lists.requests.states networkId
        (traffic.lists.requests.states networkId) := by
      rw [requests, same, Function.update_eq_self]
    refine books.replace states (fun other outside => ⟨rfl, apart other outside, count other⟩) ?_
    rw [count, Function.update_self]
    exact before.ignore due ignored

/-- A step whose answers are those of the load is accounted for. -/
theorem step_books (books : Books traffic) {label : Traffic.Label}
    (own : AnswersOwn traffic label) {next : Traffic} (taken : traffic.step label = some next) :
    Books next := by
  cases label with
  | request networkId mask session =>
      cases taken
      exact startChannelList_books books session networkId mask
  | dismiss =>
      cases taken
      exact books
  | fire networkId =>
      obtain ⟨lists, fired, rfl⟩ := Option.map_eq_some_iff.mp taken
      obtain ⟨generation, _, rfl⟩ := Option.map_eq_some_iff.mp fired
      exact books
  | expire =>
      cases taken
      exact expire_books books
  | answer networkId message session =>
      rw [Traffic.step] at taken
      split at taken
      · rename_i due
        cases taken
        obtain ⟨due, command, _⟩ := due
        unfold ChannelLists.handleChannelListMessage Traffic.noteAnswer Traffic.answerRow
          Traffic.onLists
        rcases command with start | line | finish
        · -- The start only gives the load more time.
          simp only [start, String.reduceEq, if_false, if_true]
          intro other
          have before := books other
          rw [← @ChannelListRequests.activity_states _ networkId] at before
          exact before
        · simp only [line, String.reduceEq, if_false, if_true]
          cases parsed : ChannelLists.listedRow message with
          | none => exact books
          | some row =>
              refine takeRow_books books due row fun entry found loading named => ?_
              refine (own entry found loading).1 row ?_ named
              rw [Traffic.answerRow, if_pos line]
              exact parsed
        · simp only [finish, String.reduceEq, if_false, if_true]
          exact finish_books books session due fun entry found loading early =>
            (own entry found loading).2 finish early
      · cases taken

/-- Nothing is written or answered before the first step. -/
theorem start_books : Books {} := fun _ => .nothing (Nat.le_refl 0) fun _ _ => rfl

/-- In every run in which a load meets only rows of its own answer, and the end of an earlier
LIST finds the load draining, what a load holds is the answer to its own LIST so far, and a
complete load holds the whole answer. When the answer names every channel once, the rows are
the ones it carried. -/
theorem loads_hold_own_answer (runs : Semantics.Runs Traffic.step AnswersOwn {} traffic)
    {entry : ChannelListState} (found : traffic.lists.requests.states networkId = some entry) :
    (entry.loading = true ∨ entry.complete = true →
      entry.rows = collect (traffic.answers networkId (traffic.written networkId - 1))) ∧
    (entry.loading = true ∨ entry.complete = true →
      Answered (traffic.answers networkId (traffic.written networkId - 1)) →
      entry.rows = traffic.answers networkId (traffic.written networkId - 1)) ∧
    (entry.loading = true → traffic.ended networkId < traffic.written networkId) ∧
    (entry.complete = true → traffic.ended networkId = traffic.written networkId) := by
  have books : Books traffic :=
    runs.invariant Books start_books fun books own taken => step_books books own taken
  have accounted := books networkId
  have rows : entry.loading = true ∨ entry.complete = true →
      entry.rows = collect (traffic.answers networkId (traffic.written networkId - 1)) := by
    rintro (loading | complete)
    · exact (accounted.running entry found loading).2.1
    · exact (accounted.done entry found complete).2.2
  refine ⟨rows, fun holds answered => ?_, fun loading => (accounted.running entry found loading).1,
    fun complete => (accounted.done entry found complete).2.1⟩
  rw [rows holds, answered.collect]

end Network

section Witness

local instance answersPlatform : Platform := Session.reference

/-- One row of an answer. -/
def answerLine (channel users : String) : IrcMessage :=
  { command := "322", params := [utf8 "me", utf8 channel, utf8 users] }

/-- The end of an answer. -/
def endLine : IrcMessage := { command := "323" }

/-- A load times out, the next one starts, the stale end is drained, and then its own answer
comes. -/
def drainedLabels : List Traffic.Label :=
  [.request "net" "" (some {}), .fire "net", .expire, .request "net" "" (some {}),
    .answer "net" endLine none, .answer "net" (answerLine "#lean" "3") none,
    .answer "net" endLine none]

/-- A complete load holds its own answer after an earlier one timed out. -/
theorem loads_hold_own_answer_drained :
    ∃ (traffic : Traffic) (entry : ChannelListState),
      Semantics.Runs Traffic.step AnswersOwn {} traffic ∧
      traffic.lists.requests.states "net" = some entry ∧ entry.complete = true ∧
      entry.rows = collect (traffic.answers "net" 1) := by
  have drained : (Semantics.runGuarded Traffic.step AnswersOwn {} drainedLabels).any (fun traffic =>
      decide (traffic.written "net" = 2) &&
        (traffic.lists.requests.states "net").any ChannelListState.complete) = true := by
    decide
  obtain ⟨traffic, taken, shown⟩ := Session.exists_of_any drained
  obtain ⟨written, finished⟩ := Bool.and_eq_true_iff.mp shown
  obtain ⟨entry, found, complete⟩ := Session.exists_of_any finished
  have runs : Semantics.Runs Traffic.step AnswersOwn {} traffic := .of_runGuarded taken
  have rows := (loads_hold_own_answer runs found).1 (.inr complete)
  rw [of_decide_eq_true written] at rows
  exact ⟨traffic, entry, runs, found, complete, rows⟩

/-- A load times out, the next one starts, and only then the rows of the first answer come. -/
def lateLabels : List Traffic.Label :=
  [.request "net" "" (some {}), .fire "net", .expire, .request "net" "" (some {}),
    .answer "net" (answerLine "#late" "3") none, .answer "net" endLine none,
    .answer "net" endLine none]

/-- The second load is complete with a row of the first answer, and its own has none. -/
theorem late_rows_held :
    ∃ (traffic : Traffic) (entry : ChannelListState),
      Semantics.Runs Traffic.step Semantics.unguarded {} traffic ∧
      traffic.lists.requests.states "net" = some entry ∧ entry.complete = true ∧
      traffic.written "net" = 2 ∧ traffic.ended "net" = 2 ∧ traffic.answers "net" 1 = [] ∧
      entry.rows.map ListedChannel.name = ["#late"] := by
  have late : (Semantics.runAll Traffic.step {} lateLabels).any (fun traffic =>
      decide (traffic.written "net" = 2 ∧ traffic.ended "net" = 2 ∧
        traffic.answers "net" 1 = []) &&
        (traffic.lists.requests.states "net").any fun entry =>
          decide (entry.complete = true ∧ entry.rows.map ListedChannel.name = ["#late"])) =
      true := by
    decide
  obtain ⟨traffic, taken, shown⟩ := Session.exists_of_any late
  obtain ⟨counts, rows⟩ := Bool.and_eq_true_iff.mp shown
  obtain ⟨written, ended, own⟩ := of_decide_eq_true counts
  obtain ⟨entry, found, held⟩ := Session.exists_of_any rows
  obtain ⟨complete, names⟩ := of_decide_eq_true held
  exact ⟨traffic, entry, .of_runAll taken, found, complete, written, ended, own, names⟩

/-- Two loads time out, the first stale end clears the mark, and a third load starts before
the second one comes. -/
def staleLabels : List Traffic.Label :=
  [.request "net" "" (some {}), .fire "net", .expire, .request "net" "" (some {}), .fire "net",
    .expire, .answer "net" endLine none, .request "net" "" (some {}), .answer "net" endLine none]

/-- The third load is complete before the server answered its LIST. -/
theorem stale_end_completes :
    ∃ (traffic : Traffic) (entry : ChannelListState),
      Semantics.Runs Traffic.step Semantics.unguarded {} traffic ∧
      traffic.lists.requests.states "net" = some entry ∧ entry.complete = true ∧
      traffic.written "net" = 3 ∧ traffic.ended "net" = 2 := by
  have stale : (Semantics.runAll Traffic.step {} staleLabels).any (fun traffic =>
      decide (traffic.written "net" = 3 ∧ traffic.ended "net" = 2) &&
        (traffic.lists.requests.states "net").any ChannelListState.complete) = true := by
    decide
  obtain ⟨traffic, taken, shown⟩ := Session.exists_of_any stale
  obtain ⟨counts, finished⟩ := Bool.and_eq_true_iff.mp shown
  obtain ⟨written, ended⟩ := of_decide_eq_true counts
  obtain ⟨entry, found, complete⟩ := Session.exists_of_any finished
  exact ⟨traffic, entry, .of_runAll taken, found, complete, written, ended⟩

/-- The rows of a timed-out LIST can become part of a later load, and its end can complete a
later load. -/
theorem loads_hold_other_answers :
    (∃ (traffic : Traffic) (entry : ChannelListState),
      Semantics.Runs Traffic.step Semantics.unguarded {} traffic ∧
      traffic.lists.requests.states "net" = some entry ∧ entry.complete = true ∧
      traffic.answers "net" (traffic.written "net" - 1) = [] ∧ entry.rows ≠ []) ∧
    ∃ (traffic : Traffic) (entry : ChannelListState),
      Semantics.Runs Traffic.step Semantics.unguarded {} traffic ∧
      traffic.lists.requests.states "net" = some entry ∧ entry.complete = true ∧
      traffic.ended "net" < traffic.written "net" := by
  constructor
  · obtain ⟨traffic, entry, runs, found, complete, written, _, own, names⟩ := late_rows_held
    refine ⟨traffic, entry, runs, found, complete, ?_, fun empty => ?_⟩
    · rw [written]
      exact own
    · rw [empty] at names
      cases names
  · obtain ⟨traffic, entry, runs, found, complete, written, ended⟩ := stale_end_completes
    refine ⟨traffic, entry, runs, found, complete, ?_⟩
    omega

end Witness

end Omairc.ChannelList

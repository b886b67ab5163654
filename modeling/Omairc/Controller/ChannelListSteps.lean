import Omairc.Controller.ChannelListRows

/-!
# What a step of the channel list does to a request

Each operation on the requests replaces the one of its network or leaves them all alone.
-/

namespace Omairc.ChannelList

open Omairc.Irc Omairc.Text

variable [Platform] {requests : ChannelListRequests} {networkId mask : String}

namespace ChannelListRequests

/-- The request of a load that starts over. -/
def freshLoad (requests : ChannelListRequests) (networkId mask : String) : ChannelListState :=
  { mask
    loading := true
    drainTimedOutEnd := (requests.states networkId).any ChannelListState.drainTimedOutEnd }

theorem insertLoad_states : (requests.insertLoad networkId mask).states =
    Function.update requests.states networkId (some (requests.freshLoad networkId mask)) := rfl

/-- A request joins the load that runs, reuses a finished one, or starts over. -/
theorem request_cases (requests : ChannelListRequests) (networkId mask : String)
    (refresh : Bool) :
    (∃ (entry : ChannelListState) (pendingMask : Option String),
      requests.states networkId = some entry ∧ entry.loading = true ∧
      (sameMask entry.mask mask = true → pendingMask = none) ∧
      requests.request networkId mask refresh =
        (requests.put networkId { entry with pendingMask }, .loading)) ∨
    (∃ entry, requests.states networkId = some entry ∧ entry.loading = false ∧
      entry.complete = true ∧ refresh = false ∧
      requests.request networkId mask refresh = (requests, .cached)) ∨
    ((∀ entry, requests.states networkId = some entry → entry.loading = false) ∧
      requests.request networkId mask refresh = (requests.insertLoad networkId mask, .start)) := by
  unfold request
  cases found : requests.states networkId with
  | none => exact .inr (.inr ⟨nofun, rfl⟩)
  | some entry =>
      dsimp only
      by_cases running : entry.loading = true
      · rw [if_pos running]
        exact .inl ⟨entry, _, rfl, running, fun same => if_pos same, rfl⟩
      · rw [if_neg running]
        have idle := Bool.eq_false_iff.mpr running
        by_cases reused : (!refresh && entry.complete && sameMask entry.mask mask) = true
        · rw [if_pos reused]
          simp only [Bool.and_eq_true, Bool.not_eq_true'] at reused
          exact .inr (.inl ⟨entry, rfl, idle, reused.1.2, reused.1.1, rfl⟩)
        · rw [if_neg reused]
          refine .inr (.inr ⟨?_, rfl⟩)
          intro other same
          cases same
          exact idle

/-- A refreshing request on a network that is idle, or that just started this load, leaves
the fresh load. -/
theorem refresh_states (fresh : ∀ entry, requests.states networkId = some entry →
      entry.loading = true → entry = requests.freshLoad networkId mask) :
    (requests.request networkId mask true).1.states =
      Function.update requests.states networkId (some (requests.freshLoad networkId mask)) := by
  rcases requests.request_cases networkId mask true with
    ⟨entry, pendingMask, found, running, same, asked⟩ | ⟨entry, _, _, _, impossible, _⟩ |
    ⟨_, asked⟩
  · rw [asked]
    have own := fresh entry found running
    have cleared : pendingMask = none := by
      apply same
      rw [own, freshLoad, sameMask]
      exact beq_self_eq_true _
    show Function.update requests.states networkId _ = _
    rw [cleared, own]
    rfl
  · cases impossible
  · rw [asked]
    exact insertLoad_states

/-- A row changes the rows of a running load, or nothing. -/
theorem row_cases (requests : ChannelListRequests) (networkId : String) (row : ListedChannel) :
    (∃ entry, requests.states networkId = some entry ∧ entry.loading = true ∧ row.name ≠ "" ∧
      (requests.row networkId row).1.states = Function.update requests.states networkId
        (some { entry with rows := (storeRow entry.rows row).1 }) ∧
      (requests.row networkId row).2 = (storeRow entry.rows row).2) ∨
    ((∀ entry, requests.states networkId = some entry → row.name = "" ∨ entry.loading = false) ∧
      requests.row networkId row = (requests, false)) := by
  unfold ChannelListRequests.row
  cases found : requests.states networkId with
  | none => exact .inr ⟨nofun, rfl⟩
  | some entry =>
      dsimp only
      split
      · rename_i ignored
        refine .inr ⟨?_, rfl⟩
        intro other same
        cases same
        exact ignored
      · rename_i taken
        rw [not_or, Bool.not_eq_false] at taken
        exact .inl ⟨entry, rfl, taken.2, taken.1, rfl, rfl⟩

/-- The end of a load completes it, unless it is stale. -/
theorem finish_cases (requests : ChannelListRequests) (networkId : String) :
    (∃ entry pendingMask, requests.states networkId = some entry ∧ entry.loading = true ∧
      entry.drainTimedOutEnd = false ∧
      (requests.finish networkId).1.states = Function.update requests.states networkId
        (some { entry with pendingMask := none, loading := false, complete := true, error := "" }) ∧
      (requests.finish networkId).2 = { completed := true, pendingMask }) ∨
    (∃ entry, requests.states networkId = some entry ∧
      (entry.loading = true → entry.drainTimedOutEnd = true) ∧
      (requests.finish networkId).1.states = Function.update requests.states networkId
        (some { entry with drainTimedOutEnd := false }) ∧
      (requests.finish networkId).2 = {}) ∨
    (requests.states networkId = none ∧ requests.finish networkId = (requests, {})) := by
  unfold finish
  cases found : requests.states networkId with
  | none => exact .inr (.inr ⟨rfl, rfl⟩)
  | some entry =>
      dsimp only
      by_cases idle : entry.loading = false
      · rw [if_pos idle]
        refine .inr (.inl ⟨entry, rfl, ?_, rfl, rfl⟩)
        rw [idle]
        exact nofun
      · rw [if_neg idle]
        rw [Bool.not_eq_false] at idle
        by_cases stale : entry.drainTimedOutEnd = true
        · rw [if_pos stale]
          exact .inr (.inl ⟨entry, rfl, fun _ => stale, rfl, rfl⟩)
        · rw [if_neg stale]
          exact .inl ⟨entry, _, rfl, idle, Bool.eq_false_iff.mpr stale, rfl, rfl⟩

omit [Platform] in
/-- A failure ends a running load, or does nothing. -/
theorem fail_cases (requests : ChannelListRequests) (networkId text : String)
    (timedOut : Bool) :
    (∃ entry, requests.states networkId = some entry ∧ entry.loading = true ∧
      (requests.fail networkId text timedOut).1.states = Function.update requests.states networkId
        (some { entry with
          loading := false, complete := false, pendingMask := none, error := text
          drainTimedOutEnd := entry.drainTimedOutEnd || timedOut }) ∧
      (requests.fail networkId text timedOut).2 = true) ∨
    ((∀ entry, requests.states networkId = some entry → entry.loading = false) ∧
      requests.fail networkId text timedOut = (requests, false)) := by
  unfold fail
  cases found : requests.states networkId with
  | none => exact .inr ⟨nofun, rfl⟩
  | some entry =>
      dsimp only
      by_cases idle : entry.loading = false
      · rw [if_pos idle]
        refine .inr ⟨?_, rfl⟩
        intro other same
        cases same
        exact idle
      · rw [if_neg idle]
        rw [Bool.not_eq_false] at idle
        exact .inl ⟨entry, rfl, idle, rfl, rfl⟩

omit [Platform] in
@[simp] theorem activity_states : (requests.activity networkId).states = requests.states := by
  unfold activity
  split
  · rfl
  · rfl

omit [Platform] in
@[simp] theorem takeExpiry_states : requests.takeExpiry.1.states = requests.states := by
  unfold takeExpiry
  dsimp only
  split
  · rfl
  · rfl

end ChannelListRequests

namespace ChannelLists

/-- A written LIST leaves the fresh load of its network under an open overlay, and a refused
one no request. -/
theorem begin_cases (lists : ChannelLists) (one : ListSession) (fresh : ∀ entry,
      lists.requests.states networkId = some entry → entry.loading = true →
      entry = lists.requests.freshLoad networkId mask) :
    (lists.beginChannelListLoad one networkId mask).2 = true ∧
      (lists.beginChannelListLoad one networkId mask).1.requests.states =
        Function.update lists.requests.states networkId
          (some (lists.requests.freshLoad networkId mask)) ∧
      (lists.beginChannelListLoad one networkId mask).1.view =
        { lists.view.beginLoad networkId mask with opened := true } ∧
      (lists.beginChannelListLoad one networkId mask).1.written =
        lists.written ++ [(networkId, mask)] ∨
    (lists.beginChannelListLoad one networkId mask).2 = false ∧
      (lists.beginChannelListLoad one networkId mask).1.requests.states =
        Function.update lists.requests.states networkId none ∧
      (lists.beginChannelListLoad one networkId mask).1.view.opened = false ∧
      (lists.beginChannelListLoad one networkId mask).1.written = lists.written := by
  have begun := ChannelListRequests.refresh_states fresh
  unfold beginChannelListLoad
  dsimp only
  by_cases wrote : one.list mask = true
  · rw [if_pos wrote]
    exact .inl ⟨rfl, begun, rfl, rfl⟩
  · rw [if_neg wrote]
    refine .inr ⟨rfl, ?_, rfl, rfl⟩
    show Function.update (lists.requests.request networkId mask true).1.states networkId none = _
    rw [begun, Function.update_idem]

/-- A request of the user leaves the requests alone, leaves a mask waiting, starts a load with
a LIST, or leaves no request when its LIST is refused. -/
theorem start_cases (lists : ChannelLists) (session : Option ListSession)
    (networkId mask : String) {after : ChannelLists}
    (started : (lists.startChannelList session networkId mask).1 = after) :
    after.requests.states = lists.requests.states ∧ after.written = lists.written ∨
    (∃ entry pendingMask, lists.requests.states networkId = some entry ∧
      after.requests.states = Function.update lists.requests.states networkId
        (some { entry with pendingMask }) ∧ after.written = lists.written) ∨
    (∃ mask, after.requests.states = Function.update lists.requests.states networkId
        (some (lists.requests.freshLoad networkId mask)) ∧
      after.written = lists.written ++ [(networkId, mask)]) ∨
    after.requests.states = Function.update lists.requests.states networkId none ∧
      after.written = lists.written := by
  subst started
  unfold startChannelList
  split
  · exact .inl ⟨rfl, rfl⟩
  · split
    · exact .inl ⟨rfl, rfl⟩
    · rename_i one _
      dsimp only
      generalize (lists.view.opened && (lists.view.networkId == networkId) &&
        (lists.requests.states networkId).any fun found => sameMask found.mask (trim mask)) = refresh
      rcases lists.requests.request_cases networkId (trim mask) refresh with
        ⟨entry, pendingMask, found, _, _, asked⟩ | ⟨entry, found, _, _, _, asked⟩ | ⟨_, asked⟩
      · rw [asked]
        have states : (lists.requests.put networkId { entry with pendingMask }).states networkId =
            some { entry with pendingMask } := Function.update_self ..
        simp only [states]
        exact .inr (.inl ⟨entry, pendingMask, found, rfl, trivial⟩)
      · rw [asked]
        simp only [found]
        exact .inl ⟨trivial, trivial⟩
      · rw [asked]
        have states : (lists.requests.insertLoad networkId (trim mask)).states networkId =
            some (lists.requests.freshLoad networkId (trim mask)) := Function.update_self ..
        simp only [states]
        have again : (lists.requests.insertLoad networkId (trim mask)).freshLoad networkId
            (trim mask) = lists.requests.freshLoad networkId (trim mask) := by
          simp only [ChannelListRequests.freshLoad, states, Option.any_some]
        have own : ∀ entry, (lists.requests.insertLoad networkId (trim mask)).states networkId =
            some entry → entry.loading = true →
            entry = (lists.requests.insertLoad networkId (trim mask)).freshLoad networkId
              (trim mask) := by
          intro entry found _
          rw [again]
          exact (Option.some.inj (states.symm.trans found)).symm
        refine .inr (.inr ?_)
        rcases begin_cases { lists with requests := lists.requests.insertLoad networkId (trim mask) }
            one own with ⟨_, loads, _, written⟩ | ⟨_, loads, _, written⟩
        · refine .inl ⟨trim mask, ?_, written⟩
          rw [loads, again, ChannelListRequests.insertLoad_states, Function.update_idem]
        · refine .inr ⟨?_, written⟩
          rw [loads, ChannelListRequests.insertLoad_states, Function.update_idem]

/-- The end of a load leaves what it did to the request. A mask that waited may start the next
load with a LIST, or leave no request when its LIST is refused. -/
theorem finishChannelList_cases (lists : ChannelLists) (session : Option ListSession)
    (networkId : String) {after : ChannelLists}
    (finished : lists.finishChannelList session networkId = after) :
    after.requests = (lists.requests.finish networkId).1 ∧ after.written = lists.written ∨
    (lists.requests.finish networkId).2.completed = true ∧
      ((∃ mask, after.requests.states =
          Function.update (lists.requests.finish networkId).1.states networkId
            (some ((lists.requests.finish networkId).1.freshLoad networkId mask)) ∧
        after.written = lists.written ++ [(networkId, mask)]) ∨
      after.requests.states =
          Function.update (lists.requests.finish networkId).1.states networkId none ∧
        after.written = lists.written) := by
  subst finished
  rcases finish : lists.requests.finish networkId with ⟨requests, completed, pendingMask⟩
  unfold finishChannelList
  rw [finish]
  cases completed with
  | false => exact .inl ⟨rfl, rfl⟩
  | true =>
      simp only [Bool.true_eq_false, if_false]
      cases found : requests.states networkId with
      | none => exact .inl ⟨rfl, rfl⟩
      | some cache =>
          dsimp only
          split
          · exact .inl ⟨rfl, rfl⟩
          · rename_i idle
            cases pendingMask with
            | none =>
                dsimp only
                split
                · exact .inl ⟨rfl, rfl⟩
                · exact .inl ⟨rfl, rfl⟩
            | some pending =>
                cases session.filter ListSession.registered with
                | none =>
                    dsimp only
                    split
                    · exact .inl ⟨rfl, rfl⟩
                    · exact .inl ⟨rfl, rfl⟩
                | some one =>
                    have begun := @begin_cases _ _ pending { lists with requests } one
                      fun entry there loading => by
                        cases found.symm.trans there
                        exact absurd loading idle
                    dsimp only
                    generalize ChannelLists.beginChannelListLoad { lists with requests } one
                      networkId pending = outcome at begun ⊢
                    refine .inr ⟨trivial, ?_⟩
                    rcases begun with ⟨wrote, loads, _, written⟩ | ⟨wrote, loads, _, written⟩
                    · rw [if_pos wrote]
                      exact .inl ⟨pending, loads, written⟩
                    · rw [if_neg (by rw [wrote]; exact Bool.false_ne_true)]
                      split
                      · exact .inr ⟨loads, written⟩
                      · exact .inr ⟨loads, written⟩

omit [Platform] in
/-- A failure writes nothing and leaves what it did to the request. -/
theorem failChannelList_requests (lists : ChannelLists) (networkId text : String)
    (timedOut : Bool) :
    (lists.failChannelList networkId text timedOut).requests =
        (lists.requests.fail networkId text timedOut).1 ∧
      (lists.failChannelList networkId text timedOut).written = lists.written := by
  unfold failChannelList
  dsimp only
  split
  · exact ⟨rfl, rfl⟩
  · exact ⟨rfl, rfl⟩

/-- A row writes nothing and leaves what it did to the request. -/
theorem takeRow_requests (lists : ChannelLists) (networkId : String) (row : ListedChannel) :
    (lists.takeRow networkId row).requests = (lists.requests.row networkId row).1 ∧
      (lists.takeRow networkId row).written = lists.written := by
  unfold takeRow
  dsimp only
  split
  · exact ⟨rfl, rfl⟩
  · exact ⟨rfl, rfl⟩

end ChannelLists

end Omairc.ChannelList

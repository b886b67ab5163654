import Omairc.Controller.ChannelListSteps
import Omairc.Semantics.Execution
import Omairc.Session.Reference

/-!
# The overlay of a channel list

The overlay keeps rows of its own. As long as every row that streams into it names a channel
and a row that comes again keeps its place, the overlay shows the rows of the request.
-/

namespace Omairc.ChannelList

open Omairc.Irc Omairc.Text

section Overlay

variable [Platform]

/-- What a request keeps of itself. -/
structure Sound (entry : ChannelListState) : Prop where
  distinct : Distinct entry.rows
  bounded : entry.rows.length ≤ channelListMaxRows
  settled : entry.loading = true → entry.complete = false

/-- The overlay shows the rows of a request in their order, with its flags. -/
structure Mirrors (view : ChannelListView) (entry : ChannelListState) : Prop where
  rows : view.rows.Perm entry.rows
  ordered : InOrder view.rows
  loading : view.loading = entry.loading
  complete : view.complete = entry.complete

/-- Every request is sound, and an open overlay mirrors the request of its network. -/
structure Mirrored (lists : ChannelLists) : Prop where
  sound : ∀ networkId entry, lists.requests.states networkId = some entry → Sound entry
  shown : lists.view.opened = true →
    ∃ entry, lists.requests.states lists.view.networkId = some entry ∧ Mirrors lists.view entry

/-- A row that streams into the open overlay names a channel, and one that comes again is
the first that the overlay finds under its name and compares with all others as before. -/
def OverlayFollows (lists : ChannelLists) : ChannelLists.Label → Prop
  | .message networkId message _ =>
      message.command = "322" → lists.view.opened = true → lists.view.networkId = networkId →
      lists.view.loading = true → ∀ row ∈ ChannelLists.listedRow message, row.name ≠ "" ∧
        ∀ entry ∈ lists.requests.states networkId,
          ∀ old ∈ entry.rows.find? (sameChannel · row),
            lists.view.rows.find? (fun existing => eqIgnoreAsciiCase existing.name row.name) =
              some old ∧
            ∀ other ∈ entry.rows, sameChannel other row = false →
              channelOrder other old = channelOrder other row
  | _ => True

instance (lists : ChannelLists) : ∀ label, Decidable (OverlayFollows lists label)
  | .message networkId message session => by unfold OverlayFollows; infer_instance
  | .request .. => .isTrue trivial
  | .dismiss => .isTrue trivial
  | .fire _ => .isTrue trivial
  | .expire => .isTrue trivial
  | .forget _ => .isTrue trivial

section Requests

variable {lists : ChannelLists} {networkId mask : String}

omit [Platform] in
/-- What holds of every request holds after one is replaced. -/
theorem update_states {Property : ChannelListState → Prop}
    {states : String → Option ChannelListState}
    (all : ∀ networkId entry, states networkId = some entry → Property entry)
    {replaced : Option ChannelListState} (own : ∀ entry, replaced = some entry → Property entry)
    (other : String) (entry : ChannelListState)
    (found : Function.update states networkId replaced other = some entry) : Property entry := by
  by_cases same : other = networkId
  · rw [same, Function.update_self] at found
    exact own entry found
  · rw [Function.update_of_ne same] at found
    exact all other entry found

theorem freshLoad_sound : Sound (lists.requests.freshLoad networkId mask) :=
  ⟨.nil, Nat.zero_le _, fun _ => rfl⟩

/-- What the overlay shows of the rows of a sound request. -/
theorem shows_mirrors {entry : ChannelListState} (sound : Sound entry) (view : ChannelListView)
    (networkId mask : String) (cached : Bool) (error : String) :
    Mirrors
      { view.shows networkId mask entry.rows entry.complete entry.loading cached error with
        opened := true } entry where
  rows := by
    show (sortRows (entry.rows.take channelListMaxRows)).Perm entry.rows
    rw [List.take_of_length_le sound.bounded]
    exact sortRows_perm _
  ordered := sortRows_inOrder _
  loading := rfl
  complete := rfl

/-- A started load is mirrored. -/
theorem begin_mirrored (lists : ChannelLists) (sound : ∀ networkId entry,
      lists.requests.states networkId = some entry → Sound entry) (session : ListSession)
    (fresh : ∀ entry, lists.requests.states networkId = some entry → entry.loading = true →
      entry = lists.requests.freshLoad networkId mask) :
    Mirrored (lists.beginChannelListLoad session networkId mask).1 := by
  rcases ChannelLists.begin_cases lists session fresh with
    ⟨_, states, view, _⟩ | ⟨_, states, closed, _⟩
  · refine ⟨fun other entry found => ?_, fun _ => ?_⟩
    · rw [states] at found
      refine update_states sound ?_ other entry found
      rintro entry ⟨⟩
      exact freshLoad_sound
    · refine ⟨lists.requests.freshLoad networkId mask, ?_, ?_⟩
      · rw [states, view]
        exact Function.update_self ..
      · rw [view]
        exact ⟨.nil, .nil, rfl, rfl⟩
  · refine ⟨fun other entry found => ?_, fun opened => ?_⟩
    · rw [states] at found
      exact update_states sound (fun _ absent => by cases absent) other entry found
    · rw [closed] at opened
      cases opened

/-- Requests that changed at most on one network, and an overlay that mirrors one of them. -/
theorem mirrored_update (mirrored : Mirrored lists) {after : ChannelLists}
    (entry : ChannelListState) (sound : Sound entry)
    (states : after.requests.states =
      Function.update lists.requests.states networkId (some entry))
    (own : after.view.opened = true → after.view.networkId = networkId → Mirrors after.view entry)
    (others : after.view.networkId ≠ networkId → after.view = lists.view) : Mirrored after := by
  refine ⟨fun other found there => ?_, fun opened => ?_⟩
  · rw [states] at there
    refine update_states mirrored.sound ?_ other found there
    rintro entry ⟨⟩
    exact sound
  · by_cases inside : after.view.networkId = networkId
    · refine ⟨entry, ?_, own opened inside⟩
      rw [states, inside]
      exact Function.update_self ..
    · have same := others inside
      rw [same] at opened inside ⊢
      obtain ⟨shown, found, mirrors⟩ := mirrored.shown opened
      refine ⟨shown, ?_, mirrors⟩
      rw [states, Function.update_of_ne inside]
      exact found

/-- An open overlay of a network mirrors the request of the network. -/
theorem Mirrored.own (mirrored : Mirrored lists) {entry : ChannelListState}
    (found : lists.requests.states networkId = some entry) (opened : lists.view.opened = true)
    (inside : lists.view.networkId = networkId) : Mirrors lists.view entry := by
  obtain ⟨shown, there, mirrors⟩ := mirrored.shown opened
  rw [inside, found] at there
  cases there
  exact mirrors

/-- A request of the user is mirrored. -/
theorem startChannelList_mirrored (mirrored : Mirrored lists) (session : Option ListSession)
    (networkId mask : String) : Mirrored (lists.startChannelList session networkId mask).1 := by
  unfold ChannelLists.startChannelList
  split
  · exact mirrored
  · split
    · exact mirrored
    · rename_i one _
      dsimp only
      generalize (lists.view.opened && (lists.view.networkId == networkId) &&
        (lists.requests.states networkId).any fun found => sameMask found.mask (trim mask)) = refresh
      rcases lists.requests.request_cases networkId (trim mask) refresh with
        ⟨entry, pendingMask, found, running, _, asked⟩ | ⟨entry, found, idle, complete, _, asked⟩ |
        ⟨idle, asked⟩
      · -- The running load is shown as it stands.
        rw [asked]
        have sound := mirrored.sound networkId entry found
        have states : (lists.requests.put networkId { entry with pendingMask }).states networkId =
            some { entry with pendingMask } := Function.update_self ..
        simp only [states]
        refine mirrored_update mirrored { entry with pendingMask }
          ⟨sound.distinct, sound.bounded, sound.settled⟩ rfl (fun _ _ => ?_) fun apart => absurd rfl apart
        have shown := shows_mirrors sound lists.view networkId entry.mask false entry.error
        rw [running, sound.settled running] at shown
        exact ⟨shown.rows, shown.ordered, shown.loading, shown.complete⟩
      · rw [asked]
        have sound := mirrored.sound networkId entry found
        simp only [found]
        refine ⟨mirrored.sound, fun _ => ⟨entry, found, ?_⟩⟩
        have shown := shows_mirrors sound lists.view networkId entry.mask true ""
        rw [idle, complete] at shown
        exact shown
      · rw [asked]
        have states : (lists.requests.insertLoad networkId (trim mask)).states networkId =
            some (lists.requests.freshLoad networkId (trim mask)) := Function.update_self ..
        simp only [states]
        refine begin_mirrored _ (fun other entry found => ?_) one fun entry found _ => ?_
        · refine update_states mirrored.sound ?_ other entry found
          rintro entry ⟨⟩
          exact freshLoad_sound
        · cases states.symm.trans found
          simp only [ChannelListRequests.freshLoad, states, Option.any_some]

theorem appendRow_networkId (view : ChannelListView) (row : ListedChannel) (replaced : Bool) :
    (view.appendRow row replaced).networkId = view.networkId := by
  unfold ChannelListView.appendRow
  split
  · split
    · rfl
    · rfl
  · split
    · rfl
    · rfl

/-- The overlay takes a row as the request does. -/
theorem appendRow_mirrors {entry : ChannelListState} {view : ChannelListView}
    {row : ListedChannel} (sound : Sound entry) (mirrors : Mirrors view entry)
    (stays : ∀ old, entry.rows.find? (sameChannel · row) = some old →
      view.rows.find? (fun existing => eqIgnoreAsciiCase existing.name row.name) = some old ∧
      ∀ other ∈ entry.rows, sameChannel other row = false →
        channelOrder other old = channelOrder other row) :
    Mirrors (view.appendRow row (storeRow entry.rows row).2)
      { entry with rows := (storeRow entry.rows row).1 } := by
  unfold ChannelListView.appendRow
  have lengths := mirrors.rows.length_eq
  rcases storeRow_cases entry.rows row with
    ⟨_, stored⟩ | ⟨top, old, bottom, split_, first, same, stored⟩
  · rw [stored]
    dsimp only
    rw [if_neg Bool.false_ne_true]
    by_cases full : view.rows.length ≥ channelListMaxRows
    · rw [if_pos full, if_neg (by omega)]
      exact mirrors
    · rw [if_neg full, if_pos (by omega)]
      refine ⟨?_, sortRows_inOrder _, mirrors.loading, mirrors.complete⟩
      exact (sortRows_perm _).trans (mirrors.rows.append_right [row])
  · obtain ⟨there, alike⟩ := stays old first
    rw [stored]
    dsimp only
    rw [if_pos rfl]
    obtain ⟨index, at_⟩ : ∃ index, view.rows.findIdx?
        (fun existing => eqIgnoreAsciiCase existing.name row.name) = some index := by
      apply Option.isSome_iff_exists.mp
      rw [List.findIdx?_isSome, List.any_eq_true]
      exact ⟨old, List.mem_of_find?_eq_some there, (List.find?_eq_some_iff_append.mp there).1⟩
    obtain ⟨above, shown, below, rows, shownFirst, _, _, replaced⟩ := set_first at_
    cases there.symm.trans shownFirst
    rw [at_]
    dsimp only
    rw [replaced]
    have perm := mirrors.rows
    have distinct := sound.distinct.perm perm.symm
    have ordered := mirrors.ordered
    rw [rows] at perm distinct ordered
    rw [split_] at perm
    have others : (above ++ below).Perm (top ++ bottom) :=
      (List.perm_middle.symm.trans (perm.trans List.perm_middle)).cons_inv
    refine ⟨?_, ordered.replace fun other listed => alike other ?_ ?_, mirrors.loading,
      mirrors.complete⟩
    · exact List.perm_middle.trans ((others.cons row).trans List.perm_middle.symm)
    · rw [split_]
      exact List.perm_middle.symm.subset (List.mem_cons_of_mem _ (others.subset listed))
    · have apart := List.pairwise_cons.mp (distinct.perm List.perm_middle)
      refine sameChannel_apart ?_ same
      rw [sameChannel_comm]
      exact apart.1 other listed

/-- A row of the server keeps an overlay that follows it a mirror. -/
theorem takeRow_mirrored (mirrored : Mirrored lists) (networkId : String) (row : ListedChannel)
    (follows : lists.view.opened = true → lists.view.networkId = networkId →
      lists.view.loading = true → row.name ≠ "" ∧
        ∀ entry ∈ lists.requests.states networkId,
          ∀ old ∈ entry.rows.find? (sameChannel · row),
            lists.view.rows.find? (fun existing => eqIgnoreAsciiCase existing.name row.name) =
              some old ∧
            ∀ other ∈ entry.rows, sameChannel other row = false →
              channelOrder other old = channelOrder other row) :
    Mirrored (lists.takeRow networkId row) := by
  unfold ChannelLists.takeRow
  dsimp only
  rcases lists.requests.row_cases networkId row with
    ⟨entry, found, running, _, states, replaced⟩ | ⟨ignored, same⟩
  · have sound := mirrored.sound networkId entry found
    have kept : Sound { entry with rows := (storeRow entry.rows row).1 } :=
      ⟨storeRow_distinct sound.distinct row, storeRow_length sound.bounded row, sound.settled⟩
    rw [replaced]
    split
    · rename_i streams
      obtain ⟨opened, inside, loading⟩ := streams
      obtain ⟨_, stays⟩ := follows opened inside loading
      have mirrors := mirrored.own found opened inside
      refine mirrored_update mirrored _ kept states (fun _ _ => ?_) fun apart => ?_
      · exact appendRow_mirrors sound mirrors fun old first => stays entry found old first
      · exact absurd ((appendRow_networkId lists.view row _).trans inside) apart
    · rename_i elsewhere
      refine mirrored_update mirrored _ kept states (fun opened inside => ?_) fun _ => rfl
      -- An open overlay of the network is loading as the request is.
      have mirrors := mirrored.own found opened inside
      exact absurd ⟨opened, inside, mirrors.loading.trans running⟩ elsewhere
  · rw [same]
    split
    · rename_i streams
      obtain ⟨opened, inside, loading⟩ := streams
      obtain ⟨named, _⟩ := follows opened inside loading
      obtain ⟨entry, found, mirrors⟩ := mirrored.shown opened
      rw [inside] at found
      rcases ignored entry found with blank | idle
      · exact absurd blank named
      · rw [mirrors.loading, idle] at loading
        cases loading
    · exact mirrored

/-- The end of a load is mirrored. -/
theorem finishChannelList_mirrored (mirrored : Mirrored lists) (session : Option ListSession)
    (networkId : String) : Mirrored (lists.finishChannelList session networkId) := by
  unfold ChannelLists.finishChannelList
  dsimp only
  rcases lists.requests.finish_cases networkId with
    ⟨entry, pendingMask, found, running, _, states, result⟩ | ⟨entry, found, _, states, result⟩ |
    ⟨_, same⟩
  · have sound := mirrored.sound networkId entry found
    rw [result]
    generalize (lists.requests.finish networkId).1 = requests at states
    generalize completed : ({ entry with
      pendingMask := none, loading := false, complete := true, error := "" } :
      ChannelListState) = cache at states
    have own : requests.states networkId = some cache := by
      rw [states]
      exact Function.update_self ..
    have finished : Sound cache := by
      rw [← completed]
      exact ⟨sound.distinct, sound.bounded, nofun⟩
    have flags : cache.loading = false ∧ cache.complete = true := by
      rw [← completed]
      exact ⟨rfl, rfl⟩
    have all : ∀ other entry, requests.states other = some entry → Sound entry := by
      intro other entry there
      rw [states] at there
      refine update_states mirrored.sound ?_ other entry there
      rintro entry ⟨⟩
      exact finished
    rw [if_neg (by exact nofun), own]
    dsimp only
    rw [if_neg (by rw [flags.1]; exact Bool.false_ne_true)]
    have idle : ∀ (pending : String) (entry : ChannelListState),
        requests.states networkId = some entry → entry.loading = true →
        entry = requests.freshLoad networkId pending := by
      intro pending entry there loading
      cases own.symm.trans there
      rw [flags.1] at loading
      cases loading
    have still : Mirrored (if lists.view.networkId = networkId then
        { lists with
          requests
          view := lists.view.shows networkId cache.mask cache.rows true false false "" }
        else { lists with requests }) := by
      split
      · refine mirrored_update mirrored _ finished states (fun _ _ => ?_)
          fun apart => absurd rfl apart
        have shown := shows_mirrors finished lists.view networkId cache.mask false ""
        rw [flags.1, flags.2] at shown
        exact ⟨shown.rows, shown.ordered, shown.loading, shown.complete⟩
      · rename_i outside
        exact mirrored_update mirrored _ finished states (fun _ inside => absurd inside outside)
          fun _ => rfl
    cases pendingMask with
    | none => exact still
    | some pending =>
        cases session.filter ListSession.registered with
        | none => exact still
        | some one =>
            have begun := begin_mirrored { lists with requests } all one (idle pending)
            have cases := ChannelLists.begin_cases { lists with requests } one
              (idle pending)
            dsimp only
            generalize ChannelLists.beginChannelListLoad { lists with requests } one networkId
              pending = outcome at begun cases ⊢
            split
            · exact begun
            · -- A refused write closed the overlay.
              rename_i refused
              have closed := (cases.resolve_left fun wrote => refused wrote.1).2.2.1
              split
              · exact ⟨begun.sound, fun opened =>
                  absurd (closed.symm.trans opened) Bool.false_ne_true⟩
              · exact begun
  · rw [result]
    dsimp only
    rw [if_pos rfl]
    have sound := mirrored.sound networkId entry found
    refine mirrored_update mirrored { entry with drainTimedOutEnd := false }
      ⟨sound.distinct, sound.bounded, sound.settled⟩ states (fun opened inside => ?_) fun _ => rfl
    have mirrors := mirrored.own found opened inside
    exact ⟨mirrors.rows, mirrors.ordered, mirrors.loading, mirrors.complete⟩
  · rw [same]
    exact mirrored

/-- A failure is mirrored. -/
theorem failChannelList_mirrored (mirrored : Mirrored lists) (networkId text : String)
    (timedOut : Bool) : Mirrored (lists.failChannelList networkId text timedOut) := by
  unfold ChannelLists.failChannelList
  dsimp only
  rcases lists.requests.fail_cases networkId text timedOut with
    ⟨entry, found, running, states, failed⟩ | ⟨_, same⟩
  · have sound := mirrored.sound networkId entry found
    generalize lists.requests.fail networkId text timedOut = outcome at states failed ⊢
    have kept : Sound { entry with
        loading := false, complete := false, pendingMask := none, error := text
        drainTimedOutEnd := entry.drainTimedOutEnd || timedOut } :=
      ⟨sound.distinct, sound.bounded, nofun⟩
    by_cases inside : lists.view.networkId = networkId
    · rw [if_pos ⟨failed, inside⟩]
      refine mirrored_update mirrored _ kept states (fun opened _ => ?_) fun apart => absurd inside apart
      have mirrors := mirrored.own found opened inside
      exact ⟨mirrors.rows, mirrors.ordered, rfl, rfl⟩
    · rw [if_neg fun both => inside both.2]
      exact mirrored_update mirrored _ kept states (fun _ own => absurd own inside) fun _ => rfl
  · rw [same]
    exact mirrored

/-- A step that the overlay follows keeps it a mirror. -/
theorem step_mirrored (mirrored : Mirrored lists) {label : ChannelLists.Label}
    (follows : OverlayFollows lists label) {next : ChannelLists}
    (taken : lists.step label = some next) : Mirrored next := by
  cases label with
  | request networkId mask session =>
      cases taken
      exact startChannelList_mirrored mirrored session networkId mask
  | dismiss =>
      cases taken
      exact ⟨mirrored.sound, nofun⟩
  | message networkId message session =>
      cases taken
      unfold ChannelLists.handleChannelListMessage
      split
      · rename_i row
        split
        · rename_i row parsed
          exact takeRow_mirrored mirrored networkId row fun opened inside loading =>
            follows ‹_› opened inside loading row parsed
        · exact mirrored
      · split
        · refine ⟨?_, ?_⟩
          · rw [ChannelListRequests.activity_states]
            exact mirrored.sound
          · rw [ChannelListRequests.activity_states]
            exact mirrored.shown
        · split
          · exact finishChannelList_mirrored mirrored session networkId
          · split
            · split
              · exact failChannelList_mirrored mirrored ..
              · exact mirrored
            · exact mirrored
  | fire networkId =>
      obtain ⟨generation, _, rfl⟩ := Option.map_eq_some_iff.mp taken
      exact ⟨mirrored.sound, mirrored.shown⟩
  | expire =>
      cases taken
      unfold ChannelLists.runChannelListExpiry
      dsimp only
      have expired : Mirrored { lists with requests := lists.requests.takeExpiry.1 } := by
        refine ⟨?_, ?_⟩
        · rw [ChannelListRequests.takeExpiry_states]
          exact mirrored.sound
        · rw [ChannelListRequests.takeExpiry_states]
          exact mirrored.shown
      split
      · exact expired
      · exact failChannelList_mirrored expired ..
  | forget networkId =>
      cases taken
      unfold ChannelLists.forgetChannelList
      have sound : ∀ other entry, (lists.requests.forget networkId).states other = some entry →
          Sound entry := fun other entry found =>
        update_states mirrored.sound (fun _ absent => by cases absent) other entry found
      dsimp only
      split
      · exact ⟨sound, nofun⟩
      · rename_i outside
        refine ⟨sound, fun opened => ?_⟩
        obtain ⟨entry, found, mirrors⟩ := mirrored.shown opened
        refine ⟨entry, ?_, mirrors⟩
        show Function.update lists.requests.states networkId none lists.view.networkId = _
        rw [Function.update_of_ne outside]
        exact found

/-- In every run whose steps the overlay follows, it mirrors the request of its network. -/
theorem runs_mirrored
    (runs : Semantics.Runs ChannelLists.step OverlayFollows {} lists) : Mirrored lists :=
  runs.invariant Mirrored ⟨fun _ _ absent => (by cases absent), fun opened => (by cases opened)⟩
    fun mirrored follows taken => step_mirrored mirrored follows taken

/-- In every run whose steps the overlay follows, an open overlay shows exactly the rows of
the request of its network, every channel once under its newest row, most users first and
then by name, and has the flags of the request. -/
theorem overlay_mirrors_request
    (runs : Semantics.Runs ChannelLists.step OverlayFollows {} lists)
    {entry : ChannelListState} (opened : lists.view.opened = true)
    (found : lists.requests.states lists.view.networkId = some entry) :
    lists.view.rows.Perm entry.rows ∧ Distinct lists.view.rows ∧ InOrder lists.view.rows ∧
      lists.view.loading = entry.loading ∧ lists.view.complete = entry.complete ∧
      ∀ (row : ListedChannel) (after : ChannelListState),
        (lists.requests.row lists.view.networkId row).1.states lists.view.networkId = some after →
        entry.loading = true → row.name ≠ "" →
        ∀ other ∈ after.rows, sameChannel other row = true → other = row := by
  have mirrored := runs_mirrored runs
  have sound := mirrored.sound _ entry found
  have mirrors := mirrored.own found opened rfl
  refine ⟨mirrors.rows, sound.distinct.perm mirrors.rows.symm, mirrors.ordered, mirrors.loading,
    mirrors.complete, fun row after there running named other listed same => ?_⟩
  rcases lists.requests.row_cases lists.view.networkId row with
    ⟨current, own, _, _, states, _⟩ | ⟨ignored, _⟩
  · cases found.symm.trans own
    rw [states, Function.update_self] at there
    cases there
    exact storeRow_newest sound.distinct listed same
  · rcases ignored entry found with blank | idle
    · exact absurd blank named
    · rw [running] at idle
      cases idle

end Requests

end Overlay

section Witness

local instance overlayPlatform : Platform := Session.reference

/-- One 322 line. -/
def listLine (channel users : String) : IrcMessage :=
  { command := "322", params := [utf8 "me", utf8 channel, utf8 users] }

/-- Two channels are listed, and the load is done. -/
def listedLabels : List ChannelLists.Label :=
  [.request "net" "" (some {}), .message "net" (listLine "#rust" "5") none,
    .message "net" (listLine "#lean" "9") none, .message "net" { command := "323" } none]

/-- A finished load is shown, the channel with most users first. -/
theorem overlay_mirrors_request_listed :
    ∃ (lists : ChannelLists) (entry : ChannelListState),
      Semantics.Runs ChannelLists.step OverlayFollows {} lists ∧
      lists.view.rows.map ListedChannel.users = [9, 5] ∧ entry.complete = true ∧
      lists.view.rows.Perm entry.rows := by
  have listed : (Semantics.runGuarded ChannelLists.step OverlayFollows {} listedLabels).any
      (fun lists => lists.view.opened &&
        (decide (lists.view.rows.map ListedChannel.users = [9, 5]) &&
          (lists.requests.states lists.view.networkId).any ChannelListState.complete)) = true := by
    decide
  obtain ⟨lists, taken, shown⟩ := Session.exists_of_any listed
  obtain ⟨opened, rest⟩ := Bool.and_eq_true_iff.mp shown
  obtain ⟨users, finished⟩ := Bool.and_eq_true_iff.mp rest
  obtain ⟨entry, found, complete⟩ := Session.exists_of_any finished
  have runs : Semantics.Runs ChannelLists.step OverlayFollows {} lists := .of_runGuarded taken
  exact ⟨lists, entry, runs, of_decide_eq_true users, complete,
    (overlay_mirrors_request runs opened found).1⟩

/-- A channel is listed a second time with more users than the one above it. -/
def relistedLabels : List ChannelLists.Label :=
  [.request "net" "" (some {}), .message "net" (listLine "#rust" "5") none,
    .message "net" (listLine "#lean" "3") none, .message "net" (listLine "#lean" "9") none]

/-- The overlay keeps the place of a row whose count overtakes another one. -/
theorem overlay_mirrors_not_always :
    ∃ lists : ChannelLists, Semantics.Runs ChannelLists.step Semantics.unguarded {} lists ∧
      lists.view.opened = true ∧ ¬InOrder lists.view.rows := by
  have relisted : (Semantics.runAll ChannelLists.step {} relistedLabels).any (fun lists =>
      lists.view.opened && decide (lists.view.rows.map ListedChannel.users = [5, 9])) = true := by
    decide
  obtain ⟨lists, taken, shown⟩ := Session.exists_of_any relisted
  obtain ⟨opened, users⟩ := Bool.and_eq_true_iff.mp shown
  refine ⟨lists, .of_runAll taken, opened, fun ordered => ?_⟩
  have users := of_decide_eq_true users
  obtain ⟨first, rest, rows, few, tail⟩ := List.map_eq_cons_iff.mp users
  obtain ⟨second, last, rows', many, _⟩ := List.map_eq_cons_iff.mp tail
  rw [rows, rows'] at ordered
  have above := (List.pairwise_cons.mp ordered).1 second (List.mem_cons_self ..)
  have greater : compare 9 5 = Ordering.gt := rfl
  rw [channelOrder, few, many, greater] at above
  cases above

end Witness

end Omairc.ChannelList

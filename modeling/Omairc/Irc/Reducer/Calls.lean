import Omairc.Irc.Reducer.Moves

/-!
# Calls as chains of moves

Every call of the owner of a reducer is a chain of moves, given that the batches it
splices and the conversations it opens are allowed.
-/

namespace Omairc.Irc.Reducer

open Omairc.Text

variable {Disk : Type} [Platform] [CharacterClasses] [Storage Disk] {rules : Rules Disk}

section Keys

omit [Platform] in
/-- A touch keeps the key. -/
theorem Touch.key {facts : Facts Disk} {conv touched : ConversationState}
    (touch : Touch rules facts conv touched) : touched.key = conv.key := by
  cases touch with
  | counted => rfl
  | flagged => rfl
  | roster => rfl
  | unanchored => rfl
  | anchored => rfl
  | admitted row =>
      exact congrArg Identity.key
        ((capWithPolicy_identity facts (admitMessage (conv.know row.msgid) row) true).trans
          (know_identity conv row.msgid))
  | rewritten => rfl
  | dropped => exact congrArg Identity.key (dropLastTranscriptRow_identity facts conv)
  | spliced event anchorUse =>
      exact congrArg Identity.key (spliceHistory_identity facts conv event anchorUse)
  | cleared => rfl
  | retargeted => rfl

omit [Platform] in
theorem Touches.key {facts changed : Facts Disk} {conv touched : ConversationState}
    (touches : Touches rules facts conv changed touched) : touched.key = conv.key := by
  induction touches with
  | refl => rfl
  | framed prior same inductionHypothesis => exact inductionHypothesis
  | touch prior touch inductionHypothesis => exact touch.key.trans inductionHypothesis

/-- Every conversation is filed under its own key. -/
def Keyed (reducer : EventReducer Disk) : Prop :=
  ∀ (key : ConversationKey) (conv : ConversationState),
    reducer.conversations[key]? = some conv → conv.key = key

omit [Platform] [CharacterClasses] [Storage Disk] in
theorem Keyed.insert {reducer : EventReducer Disk} (keyed : Keyed reducer)
    {key : ConversationKey} {conv : ConversationState} (own : conv.key = key)
    (facts : Facts Disk) :
    Keyed { facts, conversations := reducer.conversations.insert key conv } := by
  intro other found listed
  rcases insert_found listed with ⟨rfl, rfl⟩ | ⟨_, before⟩
  · exact own
  · exact keyed other found before

omit [Platform] [CharacterClasses] [Storage Disk] in
theorem Keyed.onConversation {reducer : EventReducer Disk} (keyed : Keyed reducer)
    {key : ConversationKey}
    {change : Facts Disk → ConversationState → Facts Disk × ConversationState}
    (same : ∀ facts conv, (change facts conv).2.key = conv.key) :
    Keyed (reducer.onConversation key change) := by
  unfold EventReducer.onConversation
  split
  · exact keyed
  · rename_i conv found
    exact keyed.insert ((same _ conv).trans (keyed key conv found)) _

omit [Platform] [CharacterClasses] [Storage Disk] in
theorem mergeConversation_key (facts : Facts Disk) (existing moved : ConversationState)
    (newNick : String) :
    (mergeConversation facts existing moved newNick).2.key = existing.key :=
  congrArg Identity.key ((capWithPolicy_identity ..).trans
    (foldl_identity id (fun conv message => mergeRow_identity conv moved.unreadMark message)
      moved.messages existing))

omit [Platform] [CharacterClasses] [Storage Disk] in
theorem Keyed.moveDirect {reducer : EventReducer Disk} (keyed : Keyed reducer)
    (oldKey newKey : ConversationKey) (newNick : String) :
    Keyed (reducer.moveDirect oldKey newKey newNick) := by
  cases found : reducer.conversations[oldKey]? with
  | none =>
      rw [EventReducer.moveDirect, found]
      exact keyed
  | some moved =>
      rw [moveDirect_eq reducer found]
      intro other conv listed
      rcases insert_found listed with ⟨rfl, rfl⟩ | ⟨_, before⟩
      · cases there : (reducer.conversations.erase oldKey)[other]? with
        | none => rfl
        | some existing =>
            exact (mergeConversation_key ..).trans (keyed other existing (erase_found there).2)
      · exact keyed other conv (erase_found before).2

omit [Platform] [CharacterClasses] [Storage Disk] in
/-- The conversations there are after one was changed and moved: the moved one, alone or
merged into the one that had the key, and every other one as it was. -/
theorem moveDirect_found {reducer : EventReducer Disk} {oldKey newKey : ConversationKey}
    {conv : ConversationState} (found : reducer.conversations[oldKey]? = some conv)
    (differs : oldKey ≠ newKey)
    (change : Facts Disk → ConversationState → Facts Disk × ConversationState) (newNick : String)
    {other : ConversationKey} {after : ConversationState}
    (listed : ((reducer.onConversation oldKey change).moveDirect oldKey newKey
      newNick).conversations[other]? = some after) :
    (other = newKey ∧
      ((reducer.conversations[newKey]? = none ∧ after =
          { (change reducer.facts conv).2 with key := newKey, target := newNick }) ∨
        ∃ existing, reducer.conversations[newKey]? = some existing ∧ after =
          (mergeConversation (moveMute (change reducer.facts conv).1 oldKey newKey) existing
            { (change reducer.facts conv).2 with key := newKey, target := newNick } newNick).2)) ∨
    (other ≠ newKey ∧ other ≠ oldKey ∧ reducer.conversations[other]? = some after) := by
  have changed : reducer.onConversation oldKey change =
      { facts := (change reducer.facts conv).1
        conversations := reducer.conversations.insert oldKey (change reducer.facts conv).2 } := by
    unfold EventReducer.onConversation
    rw [found]
  rw [changed] at listed
  rw [moveDirect_eq _ Std.TreeMap.getElem?_insert_self] at listed
  dsimp only at listed
  generalize change reducer.facts conv = outcome at listed ⊢
  have erased : ∀ {key : ConversationKey}, key ≠ oldKey →
      ((reducer.conversations.insert oldKey outcome.2).erase oldKey)[key]? =
        reducer.conversations[key]? := by
    intro key apart
    have unequal : ¬compareKeys oldKey key = .eq :=
      fun same => apart (Std.LawfulEqCmp.eq_of_compare same).symm
    rw [Std.TreeMap.getElem?_erase, if_neg unequal, Std.TreeMap.getElem?_insert, if_neg unequal]
  rw [erased (Ne.symm differs)] at listed
  rcases insert_found listed with ⟨same, rfl⟩ | ⟨apart, before⟩
  · refine .inl ⟨same, ?_⟩
    cases reducer.conversations[newKey]? with
    | none => exact .inl ⟨rfl, rfl⟩
    | some existing => exact .inr ⟨existing, rfl, rfl⟩
  · have own := (erase_found before).1
    rw [erased own] at before
    exact .inr ⟨apart, own, before⟩

/-- A move keeps every conversation under its own key. -/
theorem Move.keyed {reducer next : EventReducer Disk} (move : Move rules reducer next)
    (keyed : Keyed reducer) : Keyed next := by
  cases move with
  | facts => exact keyed
  | hold => exact keyed
  | touch found touches => exact keyed.insert (touches.key.trans (keyed _ _ found)) _
  | create displayTarget missing =>
      rename_i key _
      exact keyed.insert (congrArg Identity.key
        (hydrateFromLog_identity reducer.facts (freshConversation reducer.facts key displayTarget)))
        _
  | remove key => exact fun other found listed => keyed other found (erase_found listed).2
  | forget networkId =>
      by_cases named : networkId = ""
      · rw [EventReducer.forgetNetwork, if_pos named]
        exact keyed
      · rw [forgetNetwork_eq reducer named]
        exact fun other found listed => keyed other found (filter_found listed).2
  | rename newNick caption =>
      exact (keyed.onConversation fun facts conv => congrArg Identity.key
        (appendEvent_identity facts { conv with target := newNick } caption true true)).moveDirect
          _ _ _
  | features => exact keyed
  | mute key muted =>
      unfold EventReducer.setMuted
      split
      · exact keyed
      · have inner : Keyed { reducer with
            facts.mutedKeys := if muted then insert key reducer.facts.mutedKeys
              else reducer.facts.mutedKeys.erase key } := keyed
        exact inner.onConversation fun facts conv => rfl
  | select => exact keyed

/-- Every conversation stays under its own key. -/
theorem Chain.keyed {reducer next : EventReducer Disk} (chain : Chain rules reducer next)
    (keyed : Keyed reducer) : Keyed next := by
  induction chain with
  | refl => exact keyed
  | tail prior move inductionHypothesis => exact move.keyed inductionHypothesis

end Keys

section Combinators

/-- One change of one conversation is a move when it is a chain of touches. -/
theorem onConversation_chain {reducer : EventReducer Disk} {key : ConversationKey}
    {change : Facts Disk → ConversationState → Facts Disk × ConversationState}
    (touches : ∀ conv, reducer.conversations[key]? = some conv →
      Touches rules reducer.facts conv (change reducer.facts conv).1
        (change reducer.facts conv).2) :
    Chain rules reducer (reducer.onConversation key change) := by
  unfold EventReducer.onConversation
  split
  · exact .refl
  · rename_i conv found
    exact .single (.touch found (touches conv found))

/-- A sweep is a chain of moves when its change is a chain of touches. -/
theorem sweep_chain {reducer : EventReducer Disk}
    {change : Facts Disk → ConversationState → Facts Disk × ConversationState}
    (touches : ∀ (facts : Facts Disk) (key : ConversationKey) (conv : ConversationState),
      Framed reducer.facts facts → reducer.conversations[key]? = some conv →
      Touches rules facts conv (change facts conv).1 (change facts conv).2) :
    Chain rules reducer (reducer.sweep change) := by
  have listed : ∀ entry ∈ reducer.conversations.toList,
      reducer.conversations[entry.1]? = some entry.2 :=
    fun entry present => Std.TreeMap.mem_toList_iff_getElem?_eq_some.mp present
  have distinct := Std.TreeMap.distinct_keys_toList (t := reducer.conversations)
  unfold EventReducer.sweep
  -- The conversations still to come are the ones of the start.
  suffices swept : ∀ (entries : List (ConversationKey × ConversationState))
      (current : EventReducer Disk), Framed reducer.facts current.facts →
      entries.Pairwise (fun first second => ¬compareKeys first.1 second.1 = .eq) →
      (∀ entry ∈ entries, reducer.conversations[entry.1]? = some entry.2) →
      (∀ entry ∈ entries, current.conversations[entry.1]? = some entry.2) →
      Chain rules current (entries.foldl (fun swept entry =>
        { facts := (change swept.facts entry.2).1
          conversations :=
            swept.conversations.insert entry.1 (change swept.facts entry.2).2 }) current) from
    swept _ reducer (.refl _) distinct listed listed
  intro entries
  induction entries with
  | nil => exact fun _ _ _ _ _ => .refl
  | cons entry rest inductionHypothesis =>
      obtain ⟨key, conv⟩ := entry
      intro current framed distinct first coming
      obtain ⟨apart, others⟩ := List.pairwise_cons.mp distinct
      have touched := touches current.facts key conv framed (first _ List.mem_cons_self)
      have move : Move rules current _ := .touch (coming _ List.mem_cons_self) touched
      refine .head move (inductionHypothesis _ (framed.trans touched.facts_framed) others
        (fun entry present => first entry (List.mem_cons_of_mem _ present)) ?_)
      intro entry present
      rw [← coming entry (List.mem_cons_of_mem _ present)]
      refine insert_other _ _ fun same => apart entry present ?_
      rw [same]
      exact Std.ReflCmp.compare_self

omit [Platform] [CharacterClasses] [Storage Disk] in
/-- A sweep changes every conversation once. -/
theorem sweep_found {reducer : EventReducer Disk}
    {change : Facts Disk → ConversationState → Facts Disk × ConversationState}
    {key : ConversationKey} {conv : ConversationState}
    (found : (reducer.sweep change).conversations[key]? = some conv) :
    ∃ facts before, reducer.conversations[key]? = some before ∧
      conv = (change facts before).2 := by
  have listed : ∀ entry ∈ reducer.conversations.toList,
      reducer.conversations[entry.1]? = some entry.2 :=
    fun entry present => Std.TreeMap.mem_toList_iff_getElem?_eq_some.mp present
  unfold EventReducer.sweep at found
  -- A conversation of the result was swept, or is still the one of the start.
  have swept : ∀ (entries : List (ConversationKey × ConversationState))
      (current : EventReducer Disk),
      (∀ entry ∈ entries, reducer.conversations[entry.1]? = some entry.2) →
      (entries.foldl (fun swept entry =>
        ({ facts := (change swept.facts entry.2).1
           conversations := swept.conversations.insert entry.1 (change swept.facts entry.2).2 } :
          EventReducer Disk)) current).conversations[key]? = some conv →
      (∃ facts before, reducer.conversations[key]? = some before ∧
        conv = (change facts before).2) ∨
      (key ∉ entries.map Prod.fst ∧ current.conversations[key]? = some conv) := by
    intro entries
    induction entries with
    | nil => exact fun _ _ unswept => .inr ⟨List.not_mem_nil, unswept⟩
    | cons entry rest inductionHypothesis =>
        intro current first landed
        have own := first entry List.mem_cons_self
        rcases inductionHypothesis _
            (fun other present => first other (List.mem_cons_of_mem _ present)) landed with
          changed | ⟨apart, before⟩
        · exact .inl changed
        · rcases insert_found before with ⟨same, changed⟩ | ⟨differs, kept⟩
          · exact .inl ⟨current.facts, entry.2, same ▸ own, changed⟩
          · refine .inr ⟨?_, kept⟩
            rw [List.map_cons, List.mem_cons]
            exact fun present => present.elim differs apart
  rcases swept _ reducer listed found with changed | ⟨apart, before⟩
  · exact changed
  · exact absurd (List.mem_map_of_mem
      (Std.TreeMap.mem_toList_iff_getElem?_eq_some.mpr before)) apart

omit [Platform] [CharacterClasses] [Storage Disk] in
/-- A sweep of one network changes every conversation of it once. -/
theorem sweepNetwork_found {reducer : EventReducer Disk} {networkId : String}
    {change : Facts Disk → ConversationState → Facts Disk × ConversationState}
    {key : ConversationKey} {conv : ConversationState}
    (found : (reducer.sweepNetwork networkId change).conversations[key]? = some conv) :
    ∃ before, reducer.conversations[key]? = some before ∧
      ((before.key.networkId = networkId ∧ ∃ facts, conv = (change facts before).2) ∨
        (before.key.networkId ≠ networkId ∧ conv = before)) := by
  obtain ⟨facts, before, there, same⟩ := sweep_found found
  refine ⟨before, there, ?_⟩
  by_cases inside : before.key.networkId = networkId
  · rw [if_pos inside] at same
    exact .inl ⟨inside, facts, same⟩
  · rw [if_neg inside] at same
    exact .inr ⟨inside, same⟩

/-- A sweep of one network is a chain of moves. -/
theorem sweepNetwork_chain {reducer : EventReducer Disk} {networkId : String}
    {change : Facts Disk → ConversationState → Facts Disk × ConversationState}
    (touches : ∀ facts conv, Framed reducer.facts facts → conv.key.networkId = networkId →
      Touches rules facts conv (change facts conv).1 (change facts conv).2) :
    Chain rules reducer (reducer.sweepNetwork networkId change) := by
  refine sweep_chain fun facts key conv framed found => ?_
  split
  · rename_i inside
    exact touches facts conv framed inside
  · exact .refl

/-- A framed change of the facts is a move. -/
theorem facts_chain {reducer : EventReducer Disk} {facts : Facts Disk}
    (framed : Framed reducer.facts facts) : Chain rules reducer { reducer with facts } :=
  .single (.facts framed)

/-- A change of one conversation that leaves the facts alone is a move. -/
theorem modify_chain {reducer : EventReducer Disk} {key : ConversationKey}
    {change : ConversationState → ConversationState}
    (touches : ∀ conv, reducer.conversations[key]? = some conv →
      Touches rules reducer.facts conv reducer.facts (change conv)) :
    Chain rules reducer (reducer.modify key change) :=
  onConversation_chain touches

end Combinators

section Playback

/-- Every held batch is no page of a conversation, and may open the one it is held for. -/
def Held (rules : Rules Disk) (facts : Facts Disk) : Prop :=
  ∀ (key : ConversationKey) (event : HistoryEvent), facts.pendingPlayback[key]? = some event →
    event.kind ≠ .chat ∧ rules.opens (facts.caseMapping key.networkId) key event.target

omit [Platform] [CharacterClasses] [Storage Disk] in
/-- A framed change holds nothing new. -/
theorem Held.framed {facts changed : Facts Disk} (held : Held rules facts)
    (framed : Framed facts changed) : Held rules changed := by
  intro key event found
  rw [framed.caseMapping]
  exact held key event (framed.held key event found)

variable {reducer : EventReducer Disk}

omit [Platform] [CharacterClasses] [Storage Disk] in
theorem forgetPlayback_framed (key : ConversationKey) :
    Framed reducer.facts (reducer.forgetPlayback key).facts :=
  ⟨rfl, rfl, rfl, fun _ _ found => (erase_found found).2⟩

omit [Platform] [CharacterClasses] [Storage Disk] in
theorem onConversation_framed {key : ConversationKey}
    {change : Facts Disk → ConversationState → Facts Disk × ConversationState}
    (same : ∀ conv, Framed reducer.facts (change reducer.facts conv).1) :
    Framed reducer.facts (reducer.onConversation key change).facts := by
  unfold EventReducer.onConversation
  split
  · exact .refl _
  · exact same _

omit [Platform] [CharacterClasses] in
/-- The caption of a renamed direct conversation. -/
theorem retarget_framed (reducer : EventReducer Disk) (key : ConversationKey)
    (newNick caption : String) :
    Framed reducer.facts (reducer.onConversation key fun facts conv =>
      appendEvent facts { conv with target := newNick } caption true true).facts :=
  onConversation_framed fun _ => appendEvent_framed ..

/-- Opening a conversation is a move. -/
theorem ensureKey_chain {key : ConversationKey} {displayTarget : String}
    (named : rules.opens (reducer.facts.caseMapping key.networkId) key displayTarget)
    (cause : IrcConversationCause) :
    Chain rules reducer (reducer.ensureKey key displayTarget cause).1 := by
  unfold EventReducer.ensureKey
  dsimp only
  split
  · exact .refl
  · rename_i absent
    split
    · exact .refl
    · split
      · exact .refl
      · rw [Std.TreeMap.contains_eq_isSome_getElem?, Bool.not_eq_true,
          Option.isSome_eq_false_iff, Option.isNone_iff_eq_none] at absent
        exact .single (.create displayTarget absent named)

theorem ensureKey_claimed (key : ConversationKey) (displayTarget : String)
    (cause : IrcConversationCause) :
    Claimed reducer.facts (reducer.ensureKey key displayTarget cause).1.facts := by
  unfold EventReducer.ensureKey
  dsimp only
  split
  · exact .refl _
  · split
    · exact .refl _
    · split
      · exact .refl _
      · exact hydrateFromLog_claimed ..

theorem ensureKey_framed (key : ConversationKey) (displayTarget : String)
    (cause : IrcConversationCause) :
    Framed reducer.facts (reducer.ensureKey key displayTarget cause).1.facts :=
  (ensureKey_claimed key displayTarget cause).framed

/-- A batch may be spliced into the conversation of a key, if there is one. -/
def Splices (rules : Rules Disk) (reducer : EventReducer Disk) (key : ConversationKey)
    (event : HistoryEvent) (anchorUse : AnchorUse) : Prop :=
  ∀ conv, reducer.conversations[key]? = some conv →
    rules.splices reducer.facts conv event anchorUse

/-- A batch may be spliced into its conversation, or into the one it opens. -/
structure SplicesOpen (rules : Rules Disk) (reducer : EventReducer Disk) (key : ConversationKey)
    (event : HistoryEvent) : Prop where
  existing : Splices rules reducer key event .consume
  opened : reducer.conversations.contains key = false →
    reducer.facts.replayFromPeer event = true →
    reducer.facts.replayOnlyRepeatsPersistedIds event = false →
    Splices rules (reducer.ensureKey key event.target .inboundOther).1 key event .consume

/-- The held batches of queries may be spliced, one after another. -/
def SplicesHeld (rules : Rules Disk) :
    EventReducer Disk → List ConversationKey → Prop
  | _, [] => True
  | reducer, key :: rest =>
      (∀ event, reducer.facts.pendingPlayback[key]? = some event →
        SplicesOpen rules (reducer.forgetPlayback key) key event) ∧
      SplicesHeld rules (reducer.releaseQuery key).1 rest

/-- A held batch that grew by a batch may be spliced once it has a line of the peer. -/
structure SplicesGrown (rules : Rules Disk) (reducer : EventReducer Disk) (key : ConversationKey)
    (held : HistoryEvent) : Prop where
  existing : reducer.facts.replayFromPeer held = true →
    Splices rules (reducer.forgetPlayback key) key held .consume
  opened : reducer.facts.replayFromPeer held = true →
    reducer.conversations.contains key = false →
    reducer.facts.replayOnlyRepeatsPersistedIds held = false →
    Splices rules ((reducer.ensureKey key held.target .inboundOther).1.forgetPlayback key) key held
      .consume

/-- A batch may be spliced wherever it is routed to. -/
structure SplicesRouted (rules : Rules Disk) (reducer : EventReducer Disk)
    (event : HistoryEvent) : Prop where
  channel : event.kind = .bouncerPlayback →
    reducer.facts.isChannel event.conversation.networkId
      event.conversation.normalizedTarget = true →
    (reducer.conversations[event.conversation]?).any (fun conv =>
      conv.channel.any ChannelState.joined) = true →
    Splices rules reducer event.conversation event .keep
  grown : event.kind = .bouncerPlayback →
    reducer.facts.isChannel event.conversation.networkId
      event.conversation.normalizedTarget = false →
    ∀ entry, reducer.facts.pendingPlayback[event.conversation]? = some entry →
      SplicesGrown rules
        { reducer with
          facts.pendingPlayback := reducer.facts.pendingPlayback.insert event.conversation
            { entry with lines := entry.lines ++ event.lines } }
        event.conversation { entry with lines := entry.lines ++ event.lines }
  existing : (event.kind = .bouncerPlayback →
      reducer.facts.pendingPlayback[event.conversation]? = none ∧
      reducer.facts.isChannel event.conversation.networkId
        event.conversation.normalizedTarget = false) →
    Splices rules reducer event.conversation event .consume
  opened : (event.kind = .bouncerPlayback →
      reducer.facts.pendingPlayback[event.conversation]? = none) →
    event.kind ≠ .chat →
    reducer.facts.isChannel event.conversation.networkId
      event.conversation.normalizedTarget = false →
    reducer.conversations.contains event.conversation = false →
    reducer.facts.replayFromPeer event = true →
    reducer.facts.replayOnlyRepeatsPersistedIds event = false →
    Splices rules (reducer.ensureKey event.conversation event.target .inboundOther).1
      event.conversation event .consume

omit [Platform] [CharacterClasses] [Storage Disk] in
/-- Rules that refuse pages only allow every splice of a replayed batch. -/
theorem Rules.Lenient.spliced (lenient : rules.Lenient) {event : HistoryEvent}
    (replayed : event.kind ≠ .chat) (key : ConversationKey) (anchorUse : AnchorUse) :
    Splices rules reducer key event anchorUse :=
  fun conv _ => lenient.splices _ conv event anchorUse replayed

/-- Rules that refuse pages only leave the pages of an open conversation to be allowed. -/
theorem Rules.Lenient.routed (lenient : rules.Lenient) (held : Held rules reducer.facts)
    {event : HistoryEvent}
    (paged : event.kind = .chat → Splices rules reducer event.conversation event .consume) :
    SplicesRouted rules reducer event where
  channel bouncer _ _ := lenient.spliced (by rw [bouncer]; exact nofun) _ _
  grown _ _ entry found := by
    have replayed := (held _ entry found).1
    have batch : ({ entry with lines := entry.lines ++ event.lines } : HistoryEvent).kind ≠
      .chat := replayed
    exact ⟨fun _ => lenient.spliced batch _ _, fun _ _ _ => lenient.spliced batch _ _⟩
  existing _ := by
    by_cases page : event.kind = .chat
    · exact paged page
    · exact lenient.spliced page _ _
  opened _ replayed _ _ _ _ := lenient.spliced replayed _ _

/-- A splice into a conversation is a move when it is allowed. -/
theorem spliceInto_chain {key : ConversationKey} {event : HistoryEvent}
    {anchorUse : AnchorUse} (permitted : Splices rules reducer key event anchorUse)
    (consumed : event.kind = .chat → anchorUse = .consume) :
    Chain rules reducer (reducer.spliceInto key event anchorUse) :=
  onConversation_chain fun conv found =>
    spliceHistory_touches rules reducer.facts conv event anchorUse (permitted conv found) consumed

/-- A splice of a batch that is no page. -/
theorem spliceReplay_chain {event : HistoryEvent} (replayed : event.kind ≠ .chat)
    {key : ConversationKey} {anchorUse : AnchorUse}
    (permitted : Splices rules reducer key event anchorUse) :
    Chain rules reducer (reducer.spliceInto key event anchorUse) :=
  spliceInto_chain permitted fun page => absurd page replayed

theorem forgetPlayback_chain (key : ConversationKey) :
    Chain rules reducer (reducer.forgetPlayback key) :=
  facts_chain (forgetPlayback_framed key)

/-- Opening a conversation for a batch and splicing it is a chain of moves. -/
theorem openAndSplice_chain {key : ConversationKey} {event : HistoryEvent}
    (replayed : event.kind ≠ .chat)
    (named : rules.opens (reducer.facts.caseMapping key.networkId) key event.target)
    (cause : IrcConversationCause) (anchorUse : AnchorUse)
    (permitted : Splices rules (reducer.ensureKey key event.target cause).1 key event anchorUse) :
    Chain rules reducer ((reducer.ensureKey key event.target cause).1.spliceInto key event
      anchorUse) :=
  (ensureKey_chain named cause).trans (spliceReplay_chain replayed permitted)

theorem releasePendingPlayback_chain (held : Held rules reducer.facts) (key : ConversationKey)
    (permitted : ∀ event, reducer.facts.pendingPlayback[key]? = some event →
      Splices rules (reducer.forgetPlayback key) key event .keep) :
    Chain rules reducer (reducer.releasePendingPlayback key) := by
  unfold EventReducer.releasePendingPlayback
  split
  · exact .refl
  · rename_i event found
    exact (forgetPlayback_chain key).trans (spliceReplay_chain (held key event found).1
      (permitted event found))

theorem releaseQuery_chain (held : Held rules reducer.facts) (key : ConversationKey)
    (permitted : ∀ event, reducer.facts.pendingPlayback[key]? = some event →
      SplicesOpen rules (reducer.forgetPlayback key) key event) :
    Chain rules reducer (reducer.releaseQuery key).1 := by
  unfold EventReducer.releaseQuery
  split
  · exact .refl
  · rename_i event found
    obtain ⟨replayed, named⟩ := held key event found
    have forgotten : Chain rules reducer (reducer.forgetPlayback key) := forgetPlayback_chain key
    have still : rules.opens ((reducer.forgetPlayback key).facts.caseMapping key.networkId) key
        event.target := named
    have permitted := permitted event found
    dsimp only
    split
    · exact forgotten.trans (spliceReplay_chain replayed permitted.existing)
    · rename_i absent
      split
      · exact forgotten
      · rename_i fresh
        rw [not_or, Bool.not_eq_false, Bool.not_eq_true] at fresh
        split
        · exact forgotten.trans (openAndSplice_chain replayed still .inboundOther .consume
            (permitted.opened (Bool.eq_false_of_not_eq_true absent) fresh.1 fresh.2))
        · exact forgotten.trans (ensureKey_chain still .inboundOther)

theorem releaseQuery_framed (key : ConversationKey) :
    Framed reducer.facts (reducer.releaseQuery key).1.facts := by
  have forgotten : Framed reducer.facts (reducer.forgetPlayback key).facts :=
    forgetPlayback_framed key
  have splices : ∀ (current : EventReducer Disk) (event : HistoryEvent),
      Framed current.facts (current.spliceInto key event .consume).facts :=
    fun current event => onConversation_framed fun conv => spliceHistory_framed ..
  unfold EventReducer.releaseQuery
  split
  · exact .refl _
  · dsimp only
    split
    · exact forgotten.trans (splices ..)
    · split
      · exact forgotten
      · split
        · exact forgotten.trans ((ensureKey_framed ..).trans (splices ..))
        · exact forgotten.trans (ensureKey_framed ..)

theorem Rules.Lenient.held (lenient : rules.Lenient) (held : Held rules reducer.facts)
    (keys : List ConversationKey) : SplicesHeld rules reducer keys := by
  induction keys generalizing reducer with
  | nil => exact trivial
  | cons key rest inductionHypothesis =>
      refine ⟨fun event found => ?_, inductionHypothesis (held.framed (releaseQuery_framed key))⟩
      have replayed := (held key event found).1
      exact ⟨lenient.spliced replayed key .consume,
        fun _ _ _ => lenient.spliced replayed key .consume⟩

/-- Releasing several batches is a chain of moves. -/
theorem releaseQueries_chain (held : Held rules reducer.facts) {keys : List ConversationKey}
    (permitted : SplicesHeld rules reducer keys) (changed : Bool) :
    Chain rules reducer (keys.foldl (fun (reducer, changed) key =>
      ((reducer.releaseQuery key).1, changed || (reducer.releaseQuery key).2))
        (reducer, changed)).1 := by
  induction keys generalizing reducer changed with
  | nil => exact .refl
  | cons key rest inductionHypothesis =>
      exact (releaseQuery_chain held key permitted.1).trans
        (inductionHypothesis (held.framed (releaseQuery_framed key)) permitted.2 _)

/-- The queries of a network whose batches a finished restore releases. -/
def EventReducer.heldQueries (reducer : EventReducer Disk) (networkId : String) :
    List ConversationKey :=
  reducer.facts.pendingPlayback.keys.filter fun key =>
    key.networkId == networkId && !reducer.facts.isChannel networkId key.normalizedTarget

/-- The held batches of a network may be spliced. -/
def SplicesReleased (rules : Rules Disk) (reducer : EventReducer Disk) (networkId : String) :
    Prop :=
  SplicesHeld rules { reducer with
    facts.queryRestorePending := reducer.facts.queryRestorePending.erase networkId }
    (reducer.heldQueries networkId)

omit [Platform] [CharacterClasses] [Storage Disk] in
theorem restored_framed (networkId : String) : Framed reducer.facts { reducer.facts with
    queryRestorePending := reducer.facts.queryRestorePending.erase networkId } :=
  ⟨rfl, rfl, rfl, fun _ _ => id⟩

theorem Rules.Lenient.released (lenient : rules.Lenient) (held : Held rules reducer.facts)
    (networkId : String) : SplicesReleased rules reducer networkId :=
  lenient.held (held.framed (restored_framed networkId)) _

theorem releasePendingQueryPlayback_chain (held : Held rules reducer.facts) {networkId : String}
    (permitted : SplicesReleased rules reducer networkId) :
    Chain rules reducer (reducer.releasePendingQueryPlayback networkId).1 := by
  unfold EventReducer.releasePendingQueryPlayback
  split
  · exact .refl
  · have restored : Framed reducer.facts { reducer.facts with
        queryRestorePending := reducer.facts.queryRestorePending.erase networkId } :=
      restored_framed networkId
    exact (facts_chain restored).trans (releaseQueries_chain (held.framed restored) permitted _)

/-- Holding a batch is a move. -/
theorem holdPendingPlayback_chain (held : Held rules reducer.facts) {event : HistoryEvent}
    (replayed : event.kind ≠ .chat)
    (named : rules.opens (reducer.facts.caseMapping event.conversation.networkId)
      event.conversation event.target) :
    Chain rules reducer (reducer.holdPendingPlayback event) := by
  unfold EventReducer.holdPendingPlayback
  split
  · exact .refl
  · dsimp only
    split
    · exact .single (.hold event.conversation event replayed named)
    · rename_i entry found
      obtain ⟨other, fits⟩ := held event.conversation entry found
      exact .single (.hold event.conversation { entry with lines := entry.lines ++ event.lines }
        other fits)

theorem absorbPendingQueryPlayback_chain (held : Held rules reducer.facts)
    {event : HistoryEvent}
    (permitted : ∀ entry, reducer.facts.pendingPlayback[event.conversation]? = some entry →
      SplicesGrown rules
        { reducer with
          facts.pendingPlayback := reducer.facts.pendingPlayback.insert event.conversation
            { entry with lines := entry.lines ++ event.lines } }
        event.conversation { entry with lines := entry.lines ++ event.lines })
    {next : EventReducer Disk}
    (absorbed : reducer.absorbPendingQueryPlayback event = some next) :
    Chain rules reducer next := by
  unfold EventReducer.absorbPendingQueryPlayback at absorbed
  obtain ⟨entry, found, rfl⟩ := Option.map_eq_some_iff.mp absorbed
  obtain ⟨replayed, named⟩ := held event.conversation entry found
  have permitted := permitted entry found
  have extended : Chain rules reducer { reducer with
      facts.pendingPlayback := reducer.facts.pendingPlayback.insert event.conversation
        { entry with lines := entry.lines ++ event.lines } } :=
    .single (.hold event.conversation { entry with lines := entry.lines ++ event.lines }
      replayed named)
  refine extended.trans ?_
  generalize whole : ({ entry with lines := entry.lines ++ event.lines } : HistoryEvent) = batch
    at permitted ⊢
  have replayed : batch.kind ≠ .chat := by
    rw [← whole]
    exact replayed
  have named : rules.opens (reducer.facts.caseMapping event.conversation.networkId)
      event.conversation batch.target := by
    rw [← whole]
    exact named
  have settled : ∀ current : EventReducer Disk, Chain rules current
      (if event.conversation.networkId ∈ current.facts.queryRestorePending then current
        else current.forgetPlayback event.conversation) := by
    intro current
    split
    · exact .refl
    · exact forgetPlayback_chain event.conversation
  have spliced : ∀ current : EventReducer Disk,
      Splices rules (current.forgetPlayback event.conversation) event.conversation batch .consume →
      Chain rules current
        ((current.forgetPlayback event.conversation).spliceInto event.conversation batch
          .consume) :=
    fun current allowed => (forgetPlayback_chain event.conversation).trans
      (spliceReplay_chain replayed allowed)
  have opened : ∀ current : EventReducer Disk, current.facts.features = reducer.facts.features →
      Chain rules current
        (current.ensureKey event.conversation batch.target .inboundOther).1 := by
    intro current same
    refine ensureKey_chain ?_ _
    rw [Facts.caseMapping, Facts.isupport, same]
    exact named
  dsimp only
  split
  · exact settled _
  · rename_i peer
    have peer := Bool.eq_true_of_not_eq_false peer
    split
    · exact spliced _ (permitted.existing peer)
    · rename_i absent
      split
      · exact settled _
      · rename_i fresh
        split
        · refine Relation.ReflTransGen.trans (opened _ ?_) (spliced _ (permitted.opened peer
            (Bool.eq_false_of_not_eq_true absent) (Bool.eq_false_of_not_eq_true fresh)))
          rfl
        · refine opened _ ?_
          rfl

/-- A batch is a chain of moves when its splice and the conversation it opens are
allowed. -/
theorem reduceHistory_chain (held : Held rules reducer.facts) {event : HistoryEvent}
    (named : rules.opens (reducer.facts.caseMapping event.conversation.networkId)
      event.conversation event.target)
    (permitted : SplicesRouted rules reducer event) :
    Chain rules reducer (reducer.reduceHistory event) := by
  unfold EventReducer.reduceHistory
  dsimp only
  split
  · rename_i bouncer
    have replayed : event.kind ≠ .chat := by
      rw [bouncer.1]
      exact nofun
    split
    · rename_i joined
      exact spliceReplay_chain replayed (permitted.channel bouncer.1 bouncer.2 joined)
    · exact holdPendingPlayback_chain held replayed named
  · rename_i direct
    have query : event.kind = .bouncerPlayback → reducer.facts.isChannel
        event.conversation.networkId event.conversation.normalizedTarget = false :=
      fun bouncer => Bool.eq_false_of_not_eq_true fun channel => direct ⟨bouncer, channel⟩
    split
    · rename_i next absorbed
      split at absorbed
      · rename_i bouncer
        exact absorbPendingQueryPlayback_chain held (permitted.grown bouncer (query bouncer))
          absorbed
      · cases absorbed
    · rename_i unabsorbed
      have unheld : event.kind = .bouncerPlayback →
          reducer.facts.pendingPlayback[event.conversation]? = none := by
        intro bouncer
        rw [if_pos bouncer] at unabsorbed
        exact Option.map_eq_none_iff.mp unabsorbed
      split
      · exact spliceInto_chain
          (permitted.existing fun bouncer => ⟨unheld bouncer, query bouncer⟩) fun _ => rfl
      · rename_i absent
        split
        · exact .refl
        · rename_i other
          rw [not_or] at other
          obtain ⟨person, replayed⟩ := other
          split
          · split
            · exact holdPendingPlayback_chain held replayed named
            · exact .refl
          · rename_i peer
            split
            · exact .refl
            · rename_i fresh
              split
              · exact openAndSplice_chain replayed named .inboundOther .consume
                  (permitted.opened unheld replayed (Bool.eq_false_of_not_eq_true person)
                    (Bool.eq_false_of_not_eq_true absent) (Bool.eq_true_of_not_eq_false peer)
                    (Bool.eq_false_of_not_eq_true fresh))
              · exact ensureKey_chain named .inboundOther

/-- A page of an open conversation is spliced at the top or at the anchor. -/
theorem reduceHistory_page {reducer : EventReducer Disk} {page : HistoryEvent}
    (chat : page.kind = .chat) {conv : ConversationState}
    (found : reducer.conversations[page.conversation]? = some conv) :
    (reducer.reduceHistory page).conversations[page.conversation]? =
      some (spliceHistory reducer.facts conv page .consume).2 := by
  have there : reducer.conversations.contains page.conversation = true := by
    rw [Std.TreeMap.contains_eq_isSome_getElem?, found]
    rfl
  unfold EventReducer.reduceHistory
  dsimp only
  rw [if_neg (by rw [chat]; exact nofun), if_neg (by rw [chat]; exact nofun)]
  dsimp only
  rw [if_pos there]
  unfold EventReducer.spliceInto EventReducer.onConversation
  rw [found]
  exact Std.TreeMap.getElem?_insert_self

end Playback

end Omairc.Irc.Reducer

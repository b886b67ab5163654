import Omairc.Irc.Reducer.Gaps
import Omairc.Irc.Reducer.TranscriptRuns

/-!
# History anchors along every run

Every move keeps the gap of every anchor but the one the user's own join sets, and so does
every run in which an armed tail cap leaves the anchors their place.
-/

namespace Omairc.Irc.Reducer

open Omairc.Text ConversationState

section Law

variable {Disk : Type} [Platform] [CharacterClasses] [Storage Disk] {rules : Rules Disk}

/-- The splices of the rules leave the anchors their place. -/
def Rules.Fits (rules : Rules Disk) : Prop :=
  ∀ facts conv event anchorUse, rules.splices facts conv event anchorUse →
    TailFits facts conv event

omit [Platform] in
/-- A touch keeps the gap of its anchor, or sets the anchor at the end. -/
theorem Touch.gap (fits : rules.Fits) {facts : Facts Disk} {conv touched : ConversationState}
    (touch : Touch rules facts conv touched) (usable : conv.Usable) :
    conv.KeepsGap touched ∨ rules.anchors conv.key ∧ touched.Usable := by
  cases touch with
  | counted => exact .inl (.congr usable rfl rfl rfl le_rfl)
  | flagged mentioned =>
      refine .inl (.congr usable rfl rfl ?_ le_rfl)
      rw [List.map_map]
      rfl
  | roster change kept =>
      exact .inl (.congr usable (onChannel_anchor fun channel whole => (kept channel whole).1)
        rfl rfl le_rfl)
  | unanchored => exact .inl (.of_none dropAnchor_anchor)
  | anchored permitted =>
      refine .inr ⟨permitted, fun anchor named => ⟨conv.messages.length, ?_, le_rfl⟩⟩
      unfold ConversationState.anchored ConversationState.onChannel ConversationState.anchor at named ⊢
      cases whole : conv.channel with
      | none =>
          rw [whole] at named
          cases named
      | some channel => rfl
  | admitted row fresh =>
      have admitted := admitMessage_keepsGap usable row
      exact .inl (admitted.trans (capMessages_keepsGap admitted.usable facts))
  | rewritten last body newest =>
      refine .inl (.congr usable rfl rfl ?_ le_rfl)
      obtain ⟨before, whole⟩ := List.getLast?_eq_some_iff.mp newest
      dsimp only
      rw [whole, List.dropLast_concat, List.map_append, List.map_append]
      rfl
  | dropped => exact .inl (dropLastTranscriptRow_keepsGap usable facts)
  | spliced event anchorUse permitted consumed =>
      exact .inl (spliceHistory_keepsGap usable (fits facts conv event anchorUse permitted) consumed)
  | cleared =>
      unfold ConversationState.cleared
      exact .inl (.of_none dropAnchor_anchor)
  | retargeted => exact .inl (.congr usable rfl rfl rfl le_rfl)

/-- What a change of one conversation does to its anchor under the rules. -/
structure GapLaw (rules : Rules Disk) (conv touched : ConversationState) : Prop where
  usable : touched.Usable
  kept : ¬rules.anchors conv.key → conv.KeepsGap touched

namespace GapLaw

variable {conv touched next : ConversationState}

omit [Platform] [CharacterClasses] [Storage Disk] in
theorem of_keepsGap (keeps : conv.KeepsGap touched) : GapLaw rules conv touched :=
  ⟨keeps.usable, fun _ => keeps⟩

omit [Platform] [CharacterClasses] [Storage Disk] in
theorem trans (first : GapLaw rules conv touched) (second : GapLaw rules touched next)
    (key : touched.key = conv.key) : GapLaw rules conv next where
  usable := second.usable
  kept := fun barred => (first.kept barred).trans (second.kept (key ▸ barred))

end GapLaw

omit [Platform] in
/-- A chain of touches keeps the gap of its anchor, or sets the anchor. -/
theorem Touches.gap (fits : rules.Fits) {facts changed : Facts Disk}
    {conv touched : ConversationState} (touches : Touches rules facts conv changed touched)
    (usable : conv.Usable) : GapLaw rules conv touched ∧ touched.key = conv.key := by
  induction touches with
  | refl => exact ⟨.of_keepsGap (.refl usable), rfl⟩
  | framed prior same inductionHypothesis => exact inductionHypothesis
  | touch prior touch inductionHypothesis =>
      obtain ⟨law, key⟩ := inductionHypothesis
      refine ⟨law.trans ?_ key, touch.key.trans key⟩
      rcases touch.gap fits law.usable with keeps | ⟨permitted, anchored⟩
      · exact .of_keepsGap keeps
      · exact ⟨anchored, fun barred => absurd permitted barred⟩

section Opening

omit [Platform] in
/-- A conversation read back from the log has no anchor when it starts with none. -/
theorem hydrateFromLog_anchor {facts : Facts Disk} {conv : ConversationState}
    (missing : conv.anchor = none) : (hydrateFromLog facts conv).2.anchor = none := by
  have usable : conv.Usable := fun anchor named => by
    rw [missing] at named
    cases named
  have keeps : conv.KeepsGap (hydrateFromLog facts conv).2 := by
    unfold hydrateFromLog
    split
    · exact .refl usable
    · have lines : conv.KeepsGap ((Storage.readTail facts.disk conv.key.networkId
          conv.key.normalizedTarget (facts.caseMapping conv.key.networkId) maxMessages).foldl
            hydrateLine (facts, conv)).2 := by
        have begun : conv.KeepsGap (facts, conv).2 := .refl usable
        refine List.foldlRecOn
          (motive := fun state : Facts Disk × ConversationState => conv.KeepsGap state.2) _
          hydrateLine begun fun state keeps line _ => ?_
        unfold hydrateLine
        dsimp only
        split
        · exact keeps
        · split
          · exact keeps
          · exact keeps.trans (admitMessage_keepsGap keeps.usable
              { kind := _, author := line.author, body := line.body, time := line.timestamp
                msgid := line.msgid, origin := .replay, mentioned := _
                onlyVisibleToYou := line.onlyVisibleToYou })
      exact lines.trans (capMessages_keepsGap lines.usable _)
  cases named : (hydrateFromLog facts conv).2.anchor with
  | none => rfl
  | some anchor =>
      obtain ⟨_, _, anchored, _⟩ := keeps anchor named
      have there := anchored.anchor
      rw [missing] at there
      cases there

omit [Platform] [CharacterClasses] [Storage Disk] in
/-- A row taken over from a renamed conversation keeps the gap. -/
theorem mergeRow_keepsGap {existing : ConversationState} (usable : existing.Usable)
    (movedMark : Option Int) (message : Message) :
    existing.KeepsGap (mergeRow movedMark existing message) := by
  unfold mergeRow
  split
  · exact .refl usable
  · have admitted := admitMessage_keepsGap usable message
    exact admitted.trans (.congr admitted.usable rfl rfl rfl le_rfl)

omit [Platform] [CharacterClasses] [Storage Disk] in
/-- Merging a renamed conversation keeps the gap of the one it lands in. -/
theorem mergeConversation_keepsGap (facts : Facts Disk) {existing : ConversationState}
    (usable : existing.Usable) (moved : ConversationState) (newNick : String) :
    existing.KeepsGap (mergeConversation facts existing moved newNick).2 := by
  have rows : existing.KeepsGap (moved.messages.foldl (mergeRow moved.unreadMark) existing) :=
    List.foldlRecOn (motive := fun merged => existing.KeepsGap merged) _ _ (.refl usable)
      fun merged keeps message _ =>
        keeps.trans (mergeRow_keepsGap keeps.usable moved.unreadMark message)
  have capped := rows.trans (capMessages_keepsGap rows.usable facts)
  exact capped.trans (.congr capped.usable rfl rfl rfl le_rfl)

end Opening

section Moves

/-- Every anchor names a row or the end. -/
def Anchors (reducer : EventReducer Disk) : Prop :=
  ∀ (key : ConversationKey) (conv : ConversationState),
    reducer.conversations[key]? = some conv → conv.Usable

/-- An anchor that stands under a key afterwards stood there before, in the same gap. -/
def KeepsGapAt (key : ConversationKey) (reducer next : EventReducer Disk) : Prop :=
  ∀ (touched : ConversationState) (anchor : Int), next.conversations[key]? = some touched →
    touched.anchor = some anchor →
      ∃ conv, reducer.conversations[key]? = some conv ∧ conv.KeepsGap touched

omit [Platform] [CharacterClasses] [Storage Disk] in
theorem KeepsGapAt.refl {reducer : EventReducer Disk} (anchors : Anchors reducer)
    (key : ConversationKey) : KeepsGapAt key reducer reducer :=
  fun conv _ found _ => ⟨conv, found, .refl (anchors key conv found)⟩

omit [Platform] [CharacterClasses] [Storage Disk] in
theorem KeepsGapAt.trans {key : ConversationKey} {first second third : EventReducer Disk}
    (before : KeepsGapAt key first second) (after : KeepsGapAt key second third) :
    KeepsGapAt key first third := by
  intro touched anchor found named
  obtain ⟨middle, there, keeps⟩ := after touched anchor found named
  obtain ⟨_, _, anchored, _⟩ := keeps anchor named
  obtain ⟨conv, start, kept⟩ := before middle _ there anchored.anchor
  exact ⟨conv, start, kept.trans keeps⟩

/-- What a change of the store does to its anchors under the rules. -/
structure StoreLaw (rules : Rules Disk) (reducer next : EventReducer Disk) : Prop where
  anchors : Anchors next
  kept : ∀ key, ¬rules.anchors key → KeepsGapAt key reducer next

namespace StoreLaw

variable {reducer middle next : EventReducer Disk}

omit [Platform] [CharacterClasses] [Storage Disk] in
theorem trans (first : StoreLaw rules reducer middle) (second : StoreLaw rules middle next) :
    StoreLaw rules reducer next :=
  ⟨second.anchors, fun key barred => (first.kept key barred).trans (second.kept key barred)⟩

omit [Platform] [CharacterClasses] [Storage Disk] in
/-- A store whose conversations all keep the gap of one that was there keeps its anchors. -/
theorem of_keepsGap (keeps : ∀ (key : ConversationKey) (touched : ConversationState),
      next.conversations[key]? = some touched →
        ∃ conv, reducer.conversations[key]? = some conv ∧ conv.KeepsGap touched) :
    StoreLaw rules reducer next where
  anchors := by
    intro key touched found
    obtain ⟨_, _, kept⟩ := keeps key touched found
    exact kept.usable
  kept := fun key _ touched _ found _ => keeps key touched found

omit [Platform] [CharacterClasses] [Storage Disk] in
/-- A store whose conversations were all there before keeps its anchors. -/
theorem of_subset (anchors : Anchors reducer)
    (subset : ∀ (key : ConversationKey) (conv : ConversationState),
      next.conversations[key]? = some conv → reducer.conversations[key]? = some conv) :
    StoreLaw rules reducer next :=
  of_keepsGap fun key conv found =>
    ⟨conv, subset key conv found, .refl (anchors key conv (subset key conv found))⟩

omit [Platform] [CharacterClasses] [Storage Disk] in
/-- Changing one conversation keeps the anchors of the others. -/
theorem of_insert (keyed : Keyed reducer) (anchors : Anchors reducer) {key : ConversationKey}
    {conv touched : ConversationState} (found : reducer.conversations[key]? = some conv)
    (law : GapLaw rules conv touched)
    (whole : ∀ other : ConversationKey,
      next.conversations[other]? = (reducer.conversations.insert key touched)[other]?) :
    StoreLaw rules reducer next where
  anchors := by
    intro other entry listed
    rw [whole] at listed
    rcases insert_found listed with ⟨_, rfl⟩ | ⟨_, before⟩
    · exact law.usable
    · exact anchors other entry before
  kept := by
    intro other barred entry anchor listed named
    rw [whole] at listed
    rcases insert_found listed with ⟨rfl, rfl⟩ | ⟨_, before⟩
    · refine ⟨conv, found, law.kept ?_⟩
      rw [keyed _ _ found]
      exact barred
    · exact ⟨entry, before, .refl (anchors other entry before)⟩

omit [Platform] [CharacterClasses] [Storage Disk] in
/-- A conversation that has no anchor brings none into the store. -/
theorem of_unanchored (anchors : Anchors reducer) {key : ConversationKey}
    {opened : ConversationState} (none : opened.anchor = none)
    (whole : ∀ other : ConversationKey,
      next.conversations[other]? = (reducer.conversations.insert key opened)[other]?) :
    StoreLaw rules reducer next where
  anchors := by
    intro other entry listed
    rw [whole] at listed
    rcases insert_found listed with ⟨_, rfl⟩ | ⟨_, before⟩
    · exact fun anchor named => by
        rw [none] at named
        cases named
    · exact anchors other entry before
  kept := by
    intro other barred entry anchor listed named
    rw [whole] at listed
    rcases insert_found listed with ⟨rfl, rfl⟩ | ⟨_, before⟩
    · rw [none] at named
      cases named
    · exact ⟨entry, before, .refl (anchors other entry before)⟩

end StoreLaw

omit [Platform] [CharacterClasses] [Storage Disk] in
/-- A direct conversation has no anchor, and neither has one of the same identity. -/
theorem direct_anchor {conv touched : ConversationState} (direct : conv.isChannel = false)
    (same : touched.identity = conv.identity) : touched.anchor = none := by
  unfold ConversationState.isChannel at direct
  rw [Option.isSome_eq_false_iff, Option.isNone_iff_eq_none] at direct
  have channels : touched.dropAnchor.channel = conv.dropAnchor.channel :=
    (congrArg Identity.channel same :)
  unfold ConversationState.dropAnchor ConversationState.onChannel at channels
  rw [direct, Option.map_none, Option.map_eq_none_iff] at channels
  rw [ConversationState.anchor, channels]
  rfl

omit [Platform] [CharacterClasses] [Storage Disk] in
/-- Moving a direct conversation keeps every anchor. -/
theorem moveDirect_store {reducer : EventReducer Disk} (keyed : Keyed reducer)
    (anchors : Anchors reducer) {oldKey newKey : ConversationKey} {moved : ConversationState}
    (found : reducer.conversations[oldKey]? = some moved) (none : moved.anchor = none)
    (newNick : String) : StoreLaw rules reducer (reducer.moveDirect oldKey newKey newNick) := by
  rw [moveDirect_eq reducer found]
  have erased : StoreLaw rules reducer
      { reducer with conversations := reducer.conversations.erase oldKey } :=
    .of_subset anchors fun _ _ listed => (erase_found listed).2
  have still : Keyed { reducer with conversations := reducer.conversations.erase oldKey } :=
    fun key conv listed => keyed key conv (erase_found listed).2
  refine erased.trans ?_
  cases there : (reducer.conversations.erase oldKey)[newKey]? with
  | none =>
      refine .of_unanchored erased.anchors ?_ fun _ => rfl
      exact none
  | some existing =>
      refine .of_insert still erased.anchors there (.of_keepsGap ?_) fun _ => rfl
      exact mergeConversation_keepsGap _ (erased.anchors newKey existing there) _ _

/-- A move keeps every anchor in its gap, but the one it may set. -/
theorem Move.store (fits : rules.Fits) {reducer next : EventReducer Disk}
    (move : Move rules reducer next) (keyed : Keyed reducer) (anchors : Anchors reducer) :
    StoreLaw rules reducer next := by
  cases move with
  | facts => exact .of_subset anchors fun _ _ => id
  | hold => exact .of_subset anchors fun _ _ => id
  | touch found touches =>
      exact .of_insert keyed anchors found (touches.gap fits (anchors _ _ found)).1 fun _ => rfl
  | create displayTarget missing =>
      refine .of_unanchored anchors (hydrateFromLog_anchor ?_) fun _ => rfl
      unfold freshConversation ConversationState.anchor
      dsimp only
      split
      · rfl
      · rfl
  | remove key => exact .of_subset anchors fun _ _ listed => (erase_found listed).2
  | forget networkId =>
      by_cases named : networkId = ""
      · rw [EventReducer.forgetNetwork, if_pos named]
        exact .of_subset anchors fun _ _ => id
      · rw [forgetNetwork_eq reducer named]
        exact .of_subset anchors fun _ _ listed => (filter_found listed).2
  | rename newNick caption found direct differs permitted moves =>
      rename_i oldKey conv
      have missing : conv.anchor = none := direct_anchor direct rfl
      have silent : (appendEvent reducer.facts { conv with target := newNick } caption true
          true).2.anchor = none := by
        have same : ({ conv with target := newNick } : ConversationState).isChannel = false := direct
        exact direct_anchor same (appendEvent_identity ..)
      have key : (appendEvent reducer.facts { conv with target := newNick } caption true
          true).2.key = oldKey :=
        (congrArg Identity.key (appendEvent_identity reducer.facts
          { conv with target := newNick } caption true true) :).trans (keyed oldKey conv found)
      unfold EventReducer.onConversation
      rw [found]
      dsimp only
      generalize appendEvent reducer.facts { conv with target := newNick } caption true true =
        captioned at silent key
      have shown : StoreLaw rules reducer
          { facts := captioned.1
            conversations := reducer.conversations.insert oldKey captioned.2 } :=
        .of_unanchored anchors silent fun _ => rfl
      have still : Keyed ({ facts := captioned.1
                            conversations := reducer.conversations.insert oldKey captioned.2 } :
          EventReducer Disk) := keyed.insert key _
      refine shown.trans (moveDirect_store still shown.anchors ?_ silent newNick)
      exact Std.TreeMap.getElem?_insert_self
  | features => exact .of_subset anchors fun _ _ => id
  | mute key muted =>
      refine .of_keepsGap fun other touched listed => ?_
      rcases setMuted_found reducer key muted listed with before | ⟨before, there, _, rfl⟩
      · exact ⟨touched, before, .refl (anchors other touched before)⟩
      · exact ⟨before, there, .congr (anchors other before there) rfl rfl rfl le_rfl⟩
  | select => exact .of_subset anchors fun _ _ => id

/-- A chain of moves keeps every anchor in its gap, but those it may set. -/
theorem Chain.store (fits : rules.Fits) {reducer next : EventReducer Disk}
    (chain : Chain rules reducer next) (keyed : Keyed reducer) (anchors : Anchors reducer) :
    StoreLaw rules reducer next := by
  induction chain with
  | refl => exact .of_subset anchors fun _ _ => id
  | tail prior move inductionHypothesis =>
      exact inductionHypothesis.trans
        (move.store fits (Chain.keyed prior keyed) inductionHypothesis.anchors)

end Moves

section Runs

/-- The rules under which a page leaves the anchors their place, and only some channels may
be anchored. -/
def anchoring (anchors : ConversationKey → Prop) : Rules Disk where
  splices := fun facts conv event _ => TailFits facts conv event
  anchors := anchors

omit [Platform] [Storage Disk] in
theorem anchoring_lenient (anchors : ConversationKey → Prop) :
    (anchoring anchors : Rules Disk).Lenient where
  splices _ _ _ _ replayed page := absurd page replayed
  lands _ _ := trivial
  moves _ _ _ _ _ := trivial

/-- A page that lands on a channel with an armed tail cap leaves its anchor the place: the
rows ahead of the anchor and the rows the page adds are within the cap. -/
def TailCapFits (reducer : EventReducer Disk) : Call Disk → Prop
  | .apply (.history page) _ =>
      ∀ conv, reducer.conversations[page.conversation]? = some conv →
        TailFits reducer.forgetArrivals.facts conv page
  | _ => True

/-- A call is the user's own join of the channel of a key. -/
def OwnJoin (key : ConversationKey) (reducer : EventReducer Disk) : Call Disk → Prop
  | .apply (.join networkId channel nick _ _) _ =>
      reducer.facts.isSelf networkId nick = true ∧ reducer.conversationKey networkId channel = key
  | _ => False

/-- What every run of calls keeps when the tail cap leaves the anchors their place. -/
structure AnchorLaw (reducer : EventReducer Disk) : Prop where
  run : RunLaw reducer
  anchors : Anchors reducer

namespace AnchorLaw

variable {reducer next : EventReducer Disk} {call : Call Disk}

omit [Platform] [CharacterClasses] [Storage Disk] in
theorem initial (disk : Disk) : AnchorLaw (start disk) where
  run := .initial disk
  anchors := fun key conv found => by
    rw [start, Std.TreeMap.getElem?_emptyc] at found
    cases found

/-- A call that fits keeps every anchor in its gap, but the one of the channel it joins. -/
theorem store (law : AnchorLaw reducer) (fits : TailCapFits reducer call) :
    StoreLaw (anchoring fun key => OwnJoin key reducer call) reducer (reducer.perform call) := by
  have held : Held (anchoring fun key => OwnJoin key reducer call) reducer.facts :=
    fun key event found => ⟨(law.run.held key event found).1, trivial⟩
  have follows : Follows (anchoring fun key => OwnJoin key reducer call) reducer call := by
    cases call with
    | apply event now =>
        cases event with
        | history page => exact trivial
        | join networkId channel nick account realname => exact ⟨trivial, fun own => ⟨own, rfl⟩⟩
        | nick networkId oldNick newNick => exact ⟨trivial, fun _ _ _ _ => trivial⟩
        | _ => exact trivial
    | ensureConversation key displayTarget cause => exact trivial
    | _ => exact trivial
  have lands : Lands (anchoring fun key => OwnJoin key reducer call) reducer call := by
    refine (anchoring_lenient _).lands_call held fun page now same _ conv found => ?_
    cases same
    exact fits conv found
  exact Chain.store (fun _ _ _ _ => id) (perform_chain law.run.keyed held follows lands)
    law.run.keyed law.anchors

theorem step (law : AnchorLaw reducer) (fits : TailCapFits reducer call)
    (transition : reducer.step call = some next) : AnchorLaw next := by
  have anchors := (law.store fits).anchors
  cases transition
  exact ⟨law.run.step rfl, anchors⟩

theorem of_runs {disk : Disk} {final : EventReducer Disk}
    (runs : Semantics.Runs EventReducer.step TailCapFits (start disk) final) : AnchorLaw final :=
  runs.invariant AnchorLaw (.initial disk) step

end AnchorLaw

/-- The sequences of the rows ahead of the anchor. -/
def ConversationState.aheadOfAnchor (conv : ConversationState) : List Int :=
  match conv.anchor with
  | none => []
  | some anchor => (conv.messages.take (anchor - conv.trimmed).toNat).map Message.sequence

/-- The sequences of the rows at the anchor and after it. -/
def ConversationState.behindAnchor (conv : ConversationState) : List Int :=
  match conv.anchor with
  | none => []
  | some anchor => (conv.messages.drop (anchor - conv.trimmed).toNat).map Message.sequence

/-- The anchor names the gap it named before: of the rows that were at it or after it, those
that are left are still at it and after it, in their order and in front of every newer row,
and none of them is ahead of it. If the first of them is left, the anchor is in front of
it. -/
structure SameGap (before now : ConversationState) : Prop where
  behind : ∃ kept added, now.behindAnchor = kept ++ added ∧ kept.Sublist before.behindAnchor ∧
    ∀ sequence ∈ added, before.nextSequence ≤ sequence
  ahead : ∀ sequence ∈ now.aheadOfAnchor, sequence ∉ before.behindAnchor
  first : ∀ sequence, before.behindAnchor.head? = some sequence →
    sequence ∈ now.messages.map Message.sequence → now.behindAnchor.head? = some sequence

omit [Platform] [CharacterClasses] [Storage Disk] in
/-- The two sides of an anchor are those of its gap. -/
theorem AnchoredAt.sides {conv : ConversationState} {index : Nat}
    (anchored : conv.AnchoredAt index) :
    conv.aheadOfAnchor = (conv.gapAt index).ahead ∧ conv.behindAnchor = (conv.gapAt index).behind := by
  have position : ((conv.trimmed : Int) + index - conv.trimmed).toNat = index := by omega
  unfold ConversationState.aheadOfAnchor ConversationState.behindAnchor
  rw [anchored.anchor]
  dsimp only
  rw [position]
  exact ⟨rfl, rfl⟩

omit [Platform] [CharacterClasses] [Storage Disk] in
/-- A kept gap of a numbered transcript is the same gap. -/
theorem sameGap {before now : ConversationState} (law : TranscriptLaw before) {index moved : Nat}
    (anchored : before.AnchoredAt index) (placed : now.AnchoredAt moved)
    (kept : (before.gapAt index).Kept (now.gapAt moved)) : SameGap before now := by
  obtain ⟨beforeAhead, beforeBehind⟩ := AnchoredAt.sides anchored
  obtain ⟨nowAhead, nowBehind⟩ := AnchoredAt.sides placed
  have apart : (before.aheadOfAnchor ++ before.behindAnchor).Nodup := by
    rw [beforeAhead, beforeBehind, gapAt, ← List.map_append, List.take_append_drop]
    exact law.numbered.sequences
  have older : ∀ sequence ∈ before.behindAnchor, sequence < before.nextSequence := by
    intro sequence listed
    rw [beforeBehind] at listed
    obtain ⟨row, present, rfl⟩ := List.mem_map.mp listed
    exact law.numbered.below row (List.mem_of_mem_drop present)
  have ahead : ∀ sequence ∈ now.aheadOfAnchor, sequence ∉ before.behindAnchor := by
    intro sequence listed behind
    rw [nowAhead] at listed
    rcases kept.ahead sequence listed with early | newer
    · rw [← beforeAhead] at early
      exact (List.nodup_append.mp apart).2.2 sequence early sequence behind rfl
    · exact absurd (older sequence behind) (Int.not_lt.mpr newer)
  obtain ⟨still, added, parts, fewer, newer⟩ := kept.behind
  rw [← nowBehind] at parts
  rw [← beforeBehind] at fewer
  refine ⟨⟨still, added, parts, fewer, newer⟩, ahead, ?_⟩
  intro sequence front left
  obtain ⟨rest, whole⟩ : ∃ rest, before.behindAnchor = sequence :: rest :=
    List.head?_eq_some_iff.mp front
  have listed : sequence ∈ before.behindAnchor := by
    rw [whole]
    exact List.mem_cons_self
  have sides : now.messages.map Message.sequence = now.aheadOfAnchor ++ now.behindAnchor := by
    rw [nowAhead, nowBehind, gapAt, ← List.map_append, List.take_append_drop]
  rw [sides, parts] at left
  have kept : sequence ∈ still := by
    rcases List.mem_append.mp left with early | late
    · exact absurd listed (ahead sequence early)
    · rcases List.mem_append.mp late with there | new
      · exact there
      · exact absurd (older sequence listed) (Int.not_lt.mpr (newer sequence new))
  have once : sequence ∉ rest := by
    have behind := (List.nodup_append.mp apart).2.1
    rw [whole] at behind
    exact (List.nodup_cons.mp behind).1
  rw [whole] at fewer
  rw [parts]
  cases fewer with
  | cons _ within => exact absurd (within.subset kept) once
  | cons_cons _ within => rfl

/-- In every run in which a page that lands with an armed tail cap leaves the anchor its
place, an anchor names a row or the end, so that a batch that consumes it lands there; and
until the user joins the channel again it names the gap it named before. -/
theorem history_anchor_kept {disk : Disk} {joined final : EventReducer Disk}
    {key : ConversationKey} {now : ConversationState} {anchor : Int}
    (earlier : Semantics.Runs EventReducer.step TailCapFits (start disk) joined)
    (since : Semantics.Runs EventReducer.step
      (fun reducer call => TailCapFits reducer call ∧ ¬OwnJoin key reducer call) joined final)
    (found : final.conversations[key]? = some now) (named : now.anchor = some anchor) :
    (now.trimmed ≤ anchor ∧ anchor ≤ now.trimmed + now.messages.length) ∧
      takeSpliceIndex now = (now, some (anchor - now.trimmed).toNat) ∧
      ∃ before, joined.conversations[key]? = some before ∧ SameGap before now := by
  have begun := AnchorLaw.of_runs earlier
  have whole : AnchorLaw final ∧ KeepsGapAt key joined final := by
    refine since.invariant (fun current => AnchorLaw current ∧ KeepsGapAt key joined current)
      ⟨begun, .refl begun.anchors key⟩ ?_
    rintro current call next ⟨law, kept⟩ ⟨fits, barred⟩ transition
    have store := (law.store fits).kept key barred
    refine ⟨law.step fits transition, kept.trans ?_⟩
    cases transition
    exact store
  obtain ⟨before, there, keeps⟩ := whole.2 now anchor found named
  obtain ⟨index, moved, anchored, placed, gap⟩ := keeps anchor named
  have position : (anchor - now.trimmed).toNat = moved := by
    have equal := placed.anchor.symm.trans named
    rw [Option.some.injEq] at equal
    omega
  refine ⟨placed.bounds named, ?_, before, there, ?_⟩
  · rw [position]
    exact takeSpliceIndex_anchoredAt placed
  · exact sameGap (begun.run.transcripts key before there) anchored placed gap

end Runs

section Opened

omit [Platform] [Storage Disk] in
/-- Notices without msgids are all read back from the log. -/
theorem hydrate_notices (lines : List TranscriptLine)
    (notices : ∀ line ∈ lines, line.kind = "notice" ∧ line.msgid = "")
    (state : Facts Disk × ConversationState) :
    (lines.foldl hydrateLine state).1 = state.1 ∧
      ∃ rows nextSequence, rows.length = lines.length ∧ (∀ row ∈ rows, row.kind = .notice) ∧
        (lines.foldl hydrateLine state).2 =
          { state.2 with messages := state.2.messages ++ rows, nextSequence } := by
  induction lines generalizing state with
  | nil => exact ⟨rfl, [], state.2.nextSequence, rfl, by simp, by simp⟩
  | cons line rest inductionHypothesis =>
      obtain ⟨notice, blank⟩ := notices line List.mem_cons_self
      obtain ⟨row, step, kind⟩ : ∃ row : Message,
          hydrateLine state line = (state.1, { state.2 with
            messages := state.2.messages ++ [row]
            nextSequence := state.2.nextSequence + 1 }) ∧ row.kind = .notice := by
        refine ⟨?_, ?_, ?_⟩
        rotate_left
        · unfold hydrateLine
          rw [notice, blank]
          rfl
        · rfl
      rw [List.foldl_cons, step]
      obtain ⟨facts, rows, nextSequence, size, kinds, same⟩ := inductionHypothesis
        (fun line listed => notices line (List.mem_cons_of_mem _ listed))
        (state.1, { state.2 with
          messages := state.2.messages ++ [row], nextSequence := state.2.nextSequence + 1 })
      refine ⟨facts, row :: rows, nextSequence, by simp [size], ?_, ?_⟩
      · intro other listed
        rcases List.mem_cons.mp listed with rfl | there
        · exact kind
        · exact kinds other there
      · rw [same]
        dsimp only
        rw [List.append_assoc, List.singleton_append]

/-- The user's own join of a channel that has no row yet, while membership lines are hidden,
opens it with its log and anchors it at the end. -/
theorem reduceJoin_hidden (reducer : EventReducer Disk) (networkId channel nick : String)
    {facts : Facts Disk} {conv : ConversationState}
    (hidden : reducer.facts.membershipNoise = .hidden)
    (self : reducer.facts.isSelf networkId nick = true)
    (held : reducer.facts.pendingPlayback[reducer.conversationKey networkId channel]? = none)
    (opened : reducer.ensureKey (reducer.conversationKey networkId channel) channel .channelState =
      ({ facts, conversations := reducer.conversations.insert
          (reducer.conversationKey networkId channel) conv }, true))
    (claimed : Claimed reducer.facts facts) (whole : conv.isChannel = true) :
    (reducer.reduceJoin networkId channel nick none none).conversations[
        reducer.conversationKey networkId channel]? =
      some (enterMember conv (reducer.facts.normalize networkId nick) nick true) := by
  have same : facts.isSelf networkId nick = true := (claimed.isSelf networkId nick).trans self
  obtain ⟨claims, rfl⟩ := claimed
  unfold EventReducer.reduceJoin joinFacts
  dsimp only
  rw [opened]
  dsimp only
  rw [Std.TreeMap.getElem?_insert_self, if_neg (by decide), if_neg (by simpa using whole), same]
  have entered : (EventReducer.onConversation
      ({ facts := { reducer.facts with channelContextMsgids := claims }
         conversations := reducer.conversations.insert
          (reducer.conversationKey networkId channel) conv } : EventReducer Disk)
      (reducer.conversationKey networkId channel) fun facts conv =>
        appendEvent facts (enterMember conv (reducer.facts.normalize networkId nick) nick true)
          (joinLine nick "") false true) =
      { facts := { reducer.facts with channelContextMsgids := claims }
        conversations := (reducer.conversations.insert
          (reducer.conversationKey networkId channel) conv).insert
            (reducer.conversationKey networkId channel)
            (enterMember conv (reducer.facts.normalize networkId nick) nick true) } := by
    unfold EventReducer.onConversation
    dsimp only
    rw [Std.TreeMap.getElem?_insert_self]
    dsimp only
    unfold appendEvent
    dsimp only
    rw [if_pos ⟨rfl, hidden⟩]
  rw [if_pos rfl]
  change (EventReducer.releasePendingPlayback
    (EventReducer.onConversation _ _ _) _).conversations[_]? = _
  rw [if_neg (by decide), Bool.not_true, entered]
  unfold EventReducer.releasePendingPlayback
  dsimp only
  rw [held]
  exact Std.TreeMap.getElem?_insert_self

end Opened

end Law

section Witness

local instance anchorPlatform : Platform := Session.reference
local instance anchorClasses : CharacterClasses := asciiClasses
local instance anchorStorage : Storage Memory := memory

/-- The user is in a channel. -/
def joinedState : EventReducer Memory :=
  (start {}).performAll [eventAt (.welcome "net" "me"), eventAt (.join "net" "#c" "me" none none)]

/-- A page of lines missed before the join. -/
def missedPage : HistoryEvent :=
  { conversation := { networkId := "net", normalizedTarget := "#c" }, target := "#c"
    lines := [{ author := "ann", body := "missed", timestamp := 10 ^ 9, msgid := "m" }] }

/-- A live line, and the page. -/
def caughtUpState : EventReducer Memory :=
  (joinedState.perform (eventAt (.message (chatLine "net" "#c" "bob" "hi" "")))).perform
    (eventAt (.history missedPage))

/-- The page lands in front of the join line, which the anchor still names. -/
theorem history_anchor_kept_missed :
    ∃ now anchor, caughtUpState.conversations[
        ({ networkId := "net", normalizedTarget := "#c" } : ConversationKey)]? = some now ∧
      now.anchor = some anchor ∧ anchor = 1 ∧
      now.messages.map Message.body = ["missed", "me joined", "hi"] ∧
      takeSpliceIndex now = (now, some (anchor - now.trimmed).toNat) := by
  have caught : (caughtUpState.conversations[
      ({ networkId := "net", normalizedTarget := "#c" } : ConversationKey)]?).any (fun now =>
        now.anchor = some 1 ∧ now.messages.map Message.body = ["missed", "me joined", "hi"]) =
          true := by
    decide +kernel
  obtain ⟨now, found, shown⟩ := Session.exists_of_any caught
  obtain ⟨named, bodies⟩ := of_decide_eq_true shown
  have unarmed : ((joinedState.perform (eventAt (.message (chatLine "net" "#c" "bob" "hi"
      "")))).conversations[missedPage.conversation]?).all (fun conv =>
        conv.historyPageCapTail = false) = true := by
    decide +kernel
  have earlier : Semantics.Runs EventReducer.step TailCapFits (start ({} : Memory)) joinedState :=
    EventReducer.runs_perform (EventReducer.runs_perform .refl (eventAt (.welcome "net" "me"))
      trivial) (eventAt (.join "net" "#c" "me" none none)) trivial
  have fits : TailCapFits (joinedState.perform (eventAt (.message (chatLine "net" "#c" "bob" "hi"
      "")))) (eventAt (.history missedPage)) := by
    intro conv there _ armed
    rw [there] at unarmed
    rw [Option.all_some, armed] at unarmed
    cases unarmed
  have since : Semantics.Runs EventReducer.step (fun reducer call => TailCapFits reducer call ∧
      ¬OwnJoin { networkId := "net", normalizedTarget := "#c" } reducer call) joinedState
      caughtUpState :=
    EventReducer.runs_perform (EventReducer.runs_perform .refl
      (eventAt (.message (chatLine "net" "#c" "bob" "hi" ""))) ⟨trivial, id⟩)
      (eventAt (.history missedPage)) ⟨fits, id⟩
  exact ⟨now, 1, found, named, rfl, bodies, (history_anchor_kept earlier since found named).2.1⟩

end Witness

section Stranded

local instance strandedPlatform : Platform := Session.reference
local instance strandedClasses : CharacterClasses := asciiClasses
local instance strandedStorage : Storage Memory := memory

/-- A stored notice. -/
def storedNotice : TranscriptLine :=
  { timestamp := 1, author := "bob", kind := "notice", body := "news", msgid := ""
    onlyVisibleToYou := false }

/-- A log that is one line short of the cap. -/
def backlog : Memory := { lines := List.replicate 1999 ("net", "#c", storedNotice) }

/-- The channel of the log. -/
def backlogKey : ConversationKey := { networkId := "net", normalizedTarget := "#c" }

/-- Two older lines. -/
def olderLines : ReplayLine × ReplayLine :=
  ({ author := "ann", body := "first", timestamp := 10 ^ 9 },
    { author := "ann", body := "second", timestamp := 2 * 10 ^ 9 })

/-- A page of the two. -/
def olderPage : HistoryEvent :=
  { conversation := backlogKey, target := "#c", olderPage := true
    lines := [olderLines.1, olderLines.2] }

/-- The user connects, with a log and with membership lines hidden. -/
def connectCalls : List (Call Memory) :=
  [.setConversationLog true, .setMembershipNoise .hidden, eventAt (.welcome "net" "me")]

/-- The user joins the channel and pages back. -/
def openCalls : List (Call Memory) :=
  [eventAt (.join "net" "#c" "me" none none), .markHistoryPageCapTail backlogKey]

/-- The stored lines are all read back. -/
theorem read_backlog (mapping : IrcCaseMapping) :
    Storage.readTail backlog backlogKey.networkId backlogKey.normalizedTarget mapping maxMessages =
      List.replicate 1999 storedNotice := by
  unfold Storage.readTail strandedStorage memory backlog maxMessages
  dsimp only
  rw [List.filterMap_replicate, if_pos ⟨rfl, rfl⟩]
  dsimp only
  rw [List.length_replicate, Nat.sub_eq_zero_of_le (by decide), List.drop_zero]

/-- What is known once the user is connected. -/
structure Connected (facts : Facts Memory) : Prop where
  disk : facts.disk = backlog
  log : facts.log = true
  hidden : facts.membershipNoise = .hidden
  self : facts.isSelf "net" "me" = true
  nick : facts.normalize "net" "me" = "me"
  folded : facts.normalize "net" "#c" = "#c"
  named : facts.isChannel "net" "#c" = true
  held : facts.pendingPlayback[backlogKey]? = none
  opened : facts.isClosed backlogKey = false
  unstored : facts.closedStore = false
  quiet : ({ facts } : EventReducer Memory).forgetArrivals = { facts }

theorem connected : ∃ facts, (start backlog).performAll connectCalls = { facts } ∧
    Connected facts := by
  refine ⟨_, rfl, rfl, rfl, rfl, ?_, ?_, ?_, ?_, ?_, ?_, ?_, rfl⟩
  all_goals decide

/-- The channel as its log is read back. -/
theorem hydrated_channel {facts : Facts Memory} (known : Connected facts) :
    ∃ conv, hydrateFromLog facts (freshConversation facts backlogKey "#c") = (facts, conv) ∧
      conv.messages.length = 1999 ∧ (∀ row ∈ conv.messages, row.kind = .notice) ∧
      conv.channel = some {} := by
  obtain ⟨same, rows, nextSequence, size, notices, whole⟩ := hydrate_notices
    (List.replicate 1999 storedNotice)
    (fun line listed => by
      rw [List.eq_of_mem_replicate listed]
      exact ⟨rfl, rfl⟩) (facts, freshConversation facts backlogKey "#c")
  rw [List.length_replicate] at size
  have opened : (freshConversation facts backlogKey "#c").channel = some {} := if_pos known.named
  have cap : (1999 : Nat) ≤ maxMessages := by
    unfold maxMessages
    decide
  refine ⟨{ freshConversation facts backlogKey "#c" with messages := rows, nextSequence }, ?_,
    size, notices, opened⟩
  have key : (freshConversation facts backlogKey "#c").key = backlogKey := rfl
  have read : (List.replicate 1999 storedNotice).foldl hydrateLine
      (facts, freshConversation facts backlogKey "#c") =
        (facts, { freshConversation facts backlogKey "#c" with messages := rows, nextSequence }) :=
    Prod.ext same whole
  unfold hydrateFromLog
  rw [if_neg (by rw [known.log]; exact nofun), known.disk, key, read_backlog]
  dsimp only
  rw [read]
  dsimp only
  unfold capMessages capWithPolicy
  rw [if_pos (size ▸ cap)]

/-- The channel opens with its log. -/
theorem ensured_channel {facts : Facts Memory} (known : Connected facts)
    {conv : ConversationState}
    (hydrated : hydrateFromLog facts (freshConversation facts backlogKey "#c") = (facts, conv)) :
    ({ facts } : EventReducer Memory).ensureKey backlogKey "#c" .channelState =
      ({ facts
         conversations :=
          ({ facts } : EventReducer Memory).conversations.insert backlogKey conv }, true) := by
  have channel : (facts.isupport backlogKey.networkId).features.isChannel
      backlogKey.normalizedTarget = true := known.named
  have persisted : ({ facts } : EventReducer Memory).persistedClosed backlogKey = false := by
    unfold EventReducer.persistedClosed
    rw [if_pos (.inl known.unstored)]
  unfold EventReducer.ensureKey
  dsimp only
  rw [channel, if_neg (by decide), if_neg (by exact nofun), known.opened, persisted,
    if_neg (by decide), hydrated]

/-- The channel once the user is in it and pages back. -/
theorem joined_channel :
    ∃ conv, ((start backlog).performAll (connectCalls ++ openCalls)).conversations[backlogKey]? =
        some conv ∧
      conv.AnchoredAt 1999 ∧ (∀ row ∈ conv.messages, row.kind = .notice) ∧
      conv.historyPageCapTail = true := by
  obtain ⟨facts, reached, known⟩ := connected
  obtain ⟨conv, hydrated, size, notices, whole⟩ := hydrated_channel known
  have key : ({ facts } : EventReducer Memory).conversationKey "net" "#c" = backlogKey := by
    unfold EventReducer.conversationKey backlogKey
    rw [known.folded]
  have joined : (EventReducer.reduceJoin { facts } "net" "#c" "me" none none).conversations[
      backlogKey]? = some (enterMember conv "me" "me" true) := by
    have entered := reduceJoin_hidden { facts } "net" "#c" "me" known.hidden known.self
      (by rw [key]; exact known.held) (by rw [key]; exact ensured_channel known hydrated)
      (.refl facts) (by unfold ConversationState.isChannel; rw [whole]; rfl)
    rw [key, known.nick] at entered
    exact entered
  have after : (start backlog).performAll (connectCalls ++ openCalls) =
      (EventReducer.reduceJoin { facts } "net" "#c" "me" none none).markHistoryPageCapTail
        backlogKey := by
    unfold EventReducer.performAll
    rw [List.foldl_append]
    change EventReducer.performAll (EventReducer.performAll _ _) _ = _
    rw [reached, EventReducer.performAll, openCalls, List.foldl_cons, List.foldl_cons,
      List.foldl_nil]
    change (EventReducer.reduceJoin (EventReducer.forgetArrivals { facts }) "net" "#c" "me" none
      none).markHistoryPageCapTail backlogKey = _
    rw [known.quiet]
  rw [after]
  unfold EventReducer.markHistoryPageCapTail EventReducer.modify EventReducer.onConversation
  rw [joined]
  refine ⟨_, Std.TreeMap.getElem?_insert_self, ⟨?_, size.ge⟩, notices, rfl⟩
  unfold ConversationState.anchor enterMember ConversationState.onChannel
  dsimp only
  rw [whole, size]
  rfl

/-- The older page does not fit in front of the cap. -/
theorem olderPage_strands {facts : Facts Memory} {conv : ConversationState}
    (anchored : conv.AnchoredAt 1999) (notices : ∀ row ∈ conv.messages, row.kind = .notice)
    (armed : conv.historyPageCapTail = true) : ¬TailFits facts conv olderPage := by
  intro fits
  have first : admitReplayLine { facts, conv, at_ := 0 } "net" olderLines.1 =
      (Splice.addChat { facts, conv, at_ := 0 } "net" olderLines.1, .added conv.nextSequence) := by
    refine admitReplayLine_added _ "net" rfl nofun fun row listed => ?_
    rcases List.mem_append.mp listed with stored | ran
    · refine showsReplayLine_other (.inl ?_)
      rw [notices row stored]
      exact nofun
    · exact absurd ran List.not_mem_nil
  have second : admitReplayLine (Splice.addChat { facts, conv, at_ := 0 } "net" olderLines.1)
      "net" olderLines.2 =
      ((Splice.addChat { facts, conv, at_ := 0 } "net" olderLines.1).addChat "net" olderLines.2,
        .added (conv.nextSequence + 1)) := by
    refine admitReplayLine_added _ "net" rfl nofun fun row listed => ?_
    rcases List.mem_append.mp listed with stored | ran
    · refine showsReplayLine_other (.inl ?_)
      rw [notices row stored]
      exact nofun
    · refine showsReplayLine_other (.inr ?_)
      rw [List.mem_singleton.mp ran]
      exact (by decide : "first" ≠ "second")
  have lines : (admitReplayLines "net" { facts, conv, at_ := 0 } olderPage.lines).1 =
      (Splice.addChat { facts, conv, at_ := 0 } "net" olderLines.1).addChat "net" olderLines.2 := by
    unfold admitReplayLines olderPage
    rw [List.foldl_cons, List.foldl_cons, List.foldl_nil]
    dsimp only
    rw [first]
    dsimp only
    rw [second]
  have within := fits rfl armed 0 rfl
  dsimp only at within
  have network : olderPage.conversation.networkId = "net" := rfl
  rw [network, lines] at within
  have exceeds := within _ anchored.anchor
  have two : ((Splice.addChat { facts, conv, at_ := 0 } "net" olderLines.1).addChat "net"
      olderLines.2).run.length = 2 := rfl
  have trimmed : ((Splice.addChat { facts, conv, at_ := 0 } "net" olderLines.1).addChat "net"
      olderLines.2).conv.trimmed = conv.trimmed := rfl
  rw [two, trimmed] at exceeds
  unfold maxMessages at exceeds
  omega

/-- The older page strands the anchor of any state in which the channel is one row short of
the cap and the tail cap is armed. -/
theorem page_strands {joined : EventReducer Memory} {conv : ConversationState}
    (runs : Semantics.Runs EventReducer.step Semantics.unguarded (start backlog) joined)
    (found : joined.conversations[backlogKey]? = some conv) (anchored : conv.AnchoredAt 1999)
    (notices : ∀ row ∈ conv.messages, row.kind = .notice)
    (armed : conv.historyPageCapTail = true) :
    ∃ final paged, Semantics.Runs EventReducer.step Semantics.unguarded (start backlog) final ∧
      final.conversations[backlogKey]? = some paged ∧ ¬paged.Usable := by
  have law := (RunLaw.of_runs runs).transcripts backlogKey conv found
  have usable : conv.Usable := fun anchor _ => ⟨1999, anchored⟩
  have strands : ¬TailFits joined.forgetArrivals.facts conv olderPage :=
    olderPage_strands anchored notices armed
  have page : (joined.forgetArrivals.reduceHistory olderPage).conversations[backlogKey]? = _ :=
    reduceHistory_page rfl found
  exact ⟨joined.perform (eventAt (.history olderPage)), _, runs.step trivial rfl, page,
    spliceHistory_strands law usable strands⟩

/-- An older page of two lines takes the row an anchor stands at, and leaves the anchor past
the end of the transcript. -/
theorem history_anchor_stranded :
    ¬∀ (final : EventReducer Memory) (key : ConversationKey) (conv : ConversationState)
      (anchor : Int), Semantics.Runs EventReducer.step Semantics.unguarded (start backlog) final →
      final.conversations[key]? = some conv → conv.anchor = some anchor →
      (conv.trimmed : Int) ≤ anchor ∧ anchor ≤ conv.trimmed + conv.messages.length := by
  intro claim
  obtain ⟨conv, found, anchored, notices, armed⟩ := joined_channel
  obtain ⟨final, paged, runs, there, stranded⟩ := page_strands
    (EventReducer.runs_performAll (start backlog) (connectCalls ++ openCalls)) found anchored
    notices armed
  exact stranded (Usable.of_bounds fun anchor => claim final backlogKey paged anchor runs there)

end Stranded

end Omairc.Irc.Reducer

import Omairc.Irc.Reducer.EventChains
import Omairc.Irc.Reducer.Reference
import Omairc.Irc.Reducer.SpliceLaw

/-!
# Transcripts along every run

Every move keeps the law of every transcript, and so does every run of calls.
-/

namespace Omairc.Irc.Reducer

open Omairc.Text

/-- Whether a merge takes a row over: one whose msgid is not known yet. -/
def ConversationState.takesOver (existing : ConversationState) (row : Message) : Bool :=
  decide (row.msgid = "" ∨ row.msgid ∉ existing.messageIds)

/-- Taking a row over, or leaving it, decides nothing about a row of another msgid. -/
theorem mergeRow_takesOver (movedMark : Option Int) (existing : ConversationState)
    {row other : Message} (apart : row.msgid = other.msgid → row.msgid = "") :
    (mergeRow movedMark existing row).takesOver other = existing.takesOver other := by
  unfold mergeRow
  split
  · rfl
  · unfold ConversationState.takesOver
    dsimp only
    rw [know_messageIds]
    split
    · rfl
    · rename_i named
      have differs : other.msgid ≠ row.msgid := fun shared => named (apart shared.symm)
      simp [differs]

section Law

variable {Disk : Type} [Platform] [CharacterClasses] [Storage Disk] {rules : Rules Disk}

omit [Platform] in
/-- A touch keeps the law of its transcript. -/
theorem Touch.law {facts : Facts Disk} {conv touched : ConversationState}
    (touch : Touch rules facts conv touched) (law : TranscriptLaw conv) :
    TranscriptLaw touched := by
  cases touch with
  | counted => exact ⟨law.numbered, law.capped⟩
  | flagged mentioned =>
      refine ⟨law.numbered.congr ?_, ?_⟩
      · rw [List.map_map]
        rfl
      · dsimp only
        rw [List.length_map]
        exact law.capped
  | roster => exact ⟨law.numbered, law.capped⟩
  | unanchored => exact ⟨law.numbered, law.capped⟩
  | anchored => exact ⟨law.numbered, law.capped⟩
  | admitted row fresh =>
      exact capWithPolicy_law (admitMessage_numbered law.numbered row fresh) facts true
  | rewritten last body newest => exact rewriteLast_law law newest body
  | dropped => exact dropLastTranscriptRow_law law facts
  | spliced event anchorUse => exact spliceHistory_law law facts event anchorUse
  | cleared => exact ⟨.empty .., Nat.zero_le _⟩
  | retargeted => exact ⟨law.numbered, law.capped⟩

omit [Platform] in
/-- A chain of touches keeps the law of its transcript. -/
theorem Touches.law {facts changed : Facts Disk} {conv touched : ConversationState}
    (touches : Touches rules facts conv changed touched) (law : TranscriptLaw conv) :
    TranscriptLaw touched := by
  induction touches with
  | refl => exact law
  | framed prior same inductionHypothesis => exact inductionHypothesis
  | touch prior touch inductionHypothesis => exact touch.law inductionHypothesis

section Rows

omit [Platform] [Storage Disk] in
/-- One line of the log keeps the rows numbered. -/
theorem hydrateLine_numbered (state : Facts Disk × ConversationState) (line : TranscriptLine)
    (numbered : state.2.Numbered) : (hydrateLine state line).2.Numbered := by
  unfold hydrateLine
  dsimp only
  split
  · exact numbered
  · split
    · exact numbered
    · rename_i unknown
      have fresh : line.msgid ≠ "" → line.msgid ∉ state.2.messageIds :=
        fun carried known => unknown ⟨carried, .inl known⟩
      exact admitMessage_numbered numbered
        { kind := _, author := line.author, body := line.body, time := line.timestamp
          msgid := line.msgid, origin := .replay, mentioned := _
          onlyVisibleToYou := line.onlyVisibleToYou } fresh

omit [Platform] in
/-- A conversation read back from the log obeys the law. -/
theorem hydrateFromLog_law {facts : Facts Disk} {conv : ConversationState}
    (law : TranscriptLaw conv) : TranscriptLaw (hydrateFromLog facts conv).2 := by
  unfold hydrateFromLog
  split
  · exact law
  · refine capWithPolicy_law ?_ _ true
    have numbered : (facts, conv).2.Numbered := law.numbered
    exact List.foldlRecOn
      (motive := fun state : Facts Disk × ConversationState => state.2.Numbered) _ hydrateLine
      numbered fun state numbered line _ => hydrateLine_numbered state line numbered

omit [Platform] [CharacterClasses] [Storage Disk] in
/-- A row taken over from a renamed conversation keeps the rows numbered. -/
theorem mergeRow_numbered (movedMark : Option Int) {existing : ConversationState}
    (numbered : existing.Numbered) (message : Message) :
    (mergeRow movedMark existing message).Numbered := by
  unfold mergeRow
  split
  · exact numbered
  · rename_i unknown
    have admitted := admitMessage_numbered numbered message
      fun carried known => unknown ⟨carried, known⟩
    exact admitted

omit [Platform] [CharacterClasses] [Storage Disk] in
/-- A merged transcript obeys the law. -/
theorem mergeConversation_law (facts : Facts Disk) {existing : ConversationState}
    (law : TranscriptLaw existing) (moved : ConversationState) (newNick : String) :
    TranscriptLaw (mergeConversation facts existing moved newNick).2 := by
  have rows : (moved.messages.foldl (mergeRow moved.unreadMark) existing).Numbered :=
    List.foldlRecOn (motive := ConversationState.Numbered) _ _ law.numbered
      fun _ numbered message _ => mergeRow_numbered moved.unreadMark numbered message
  have capped := capWithPolicy_law rows facts true
  exact ⟨capped.numbered, capped.capped⟩

end Rows

section Moves

omit [Platform] [CharacterClasses] [Storage Disk] in
/-- Muting leaves the held batches alone. -/
theorem setMuted_held (reducer : EventReducer Disk) (key : ConversationKey) (muted : Bool)
    (other : ConversationKey) (event : HistoryEvent)
    (found : (reducer.setMuted key muted).facts.pendingPlayback[other]? = some event) :
    reducer.facts.pendingPlayback[other]? = some event := by
  unfold EventReducer.setMuted EventReducer.modify EventReducer.onConversation at found
  split at found
  · exact found
  · dsimp only at found
    split at found
    · exact found
    · exact found

omit [Platform] [CharacterClasses] [Storage Disk] in
/-- Moving a direct conversation leaves the held batches alone. -/
theorem moveDirect_held (reducer : EventReducer Disk) (oldKey newKey : ConversationKey)
    (newNick : String) (other : ConversationKey) (event : HistoryEvent)
    (found : (reducer.moveDirect oldKey newKey newNick).facts.pendingPlayback[other]? = some event) :
    reducer.facts.pendingPlayback[other]? = some event := by
  cases there : reducer.conversations[oldKey]? with
  | none =>
      rw [EventReducer.moveDirect, there] at found
      exact found
  | some moved =>
      rw [moveDirect_eq reducer there] at found
      have landed : Framed (moveMute reducer.facts oldKey newKey) _ :=
        landConversation_framed _ (reducer.conversations.erase oldKey)[newKey]?
          { moved with key := newKey, target := newNick } newNick
      unfold followSelection at found
      have before : (moveMute reducer.facts oldKey newKey).pendingPlayback[other]? = some event := by
        split at found
        · exact landed.held other event found
        · exact landed.held other event found
      unfold moveMute at before
      split at before
      · exact before
      · exact before

/-- A move holds a batch that was held before, or one that may be held. -/
theorem Move.pending {reducer next : EventReducer Disk} (move : Move rules reducer next)
    (key : ConversationKey) (event : HistoryEvent)
    (found : next.facts.pendingPlayback[key]? = some event) :
    reducer.facts.pendingPlayback[key]? = some event ∨
      (event.kind ≠ .chat ∧ rules.opens (reducer.facts.caseMapping key.networkId) key event.target) := by
  cases move with
  | facts framed => exact .inl (framed.held key event found)
  | hold held batch replayed named =>
      rcases insert_found found with ⟨rfl, rfl⟩ | ⟨_, before⟩
      · exact .inr ⟨replayed, named⟩
      · exact .inl before
  | touch there touches => exact .inl (touches.facts_framed.held key event found)
  | create displayTarget missing => exact .inl ((hydrateFromLog_framed ..).held key event found)
  | remove key =>
      unfold EventReducer.removeConversation at found
      dsimp only at found
      split at found
      · exact .inl found
      · exact .inl found
  | forget networkId =>
      by_cases named : networkId = ""
      · rw [EventReducer.forgetNetwork, if_pos named] at found
        exact .inl found
      · rw [forgetNetwork_eq reducer named] at found
        exact .inl (filter_found found).2
  | rename newNick caption there direct differs permitted moves =>
      have held := moveDirect_held _ _ _ _ key event found
      exact .inl ((retarget_framed ..).held key event held)
  | features => exact .inl found
  | mute key muted =>
      exact .inl (setMuted_held reducer key muted _ event found)
  | select => exact .inl found

omit [Platform] [CharacterClasses] [Storage Disk] in
/-- Muting changes the flag and the mentions of one conversation. -/
theorem setMuted_found (reducer : EventReducer Disk) (key : ConversationKey) (muted : Bool)
    {other : ConversationKey} {conv : ConversationState}
    (listed : (reducer.setMuted key muted).conversations[other]? = some conv) :
    reducer.conversations[other]? = some conv ∨
      ∃ before, reducer.conversations[other]? = some before ∧ other = key ∧
        conv = { before with muted, mentions := if muted then 0 else before.mentions } := by
  unfold EventReducer.setMuted EventReducer.modify EventReducer.onConversation at listed
  split at listed
  · exact .inl listed
  · dsimp only at listed
    split at listed
    · exact .inl listed
    · rename_i before found
      rcases insert_found listed with ⟨rfl, rfl⟩ | ⟨_, old⟩
      · exact .inr ⟨before, found, rfl, rfl⟩
      · exact .inl old

/-- Every transcript obeys its law. -/
def Transcripts (reducer : EventReducer Disk) : Prop :=
  ∀ (key : ConversationKey) (conv : ConversationState),
    reducer.conversations[key]? = some conv → TranscriptLaw conv

omit [Platform] [CharacterClasses] [Storage Disk] in
theorem Transcripts.insert {reducer : EventReducer Disk} (transcripts : Transcripts reducer)
    {key : ConversationKey} {conv : ConversationState} (law : TranscriptLaw conv)
    (facts : Facts Disk) :
    Transcripts { facts, conversations := reducer.conversations.insert key conv } := by
  intro other found listed
  rcases insert_found listed with ⟨_, rfl⟩ | ⟨_, before⟩
  · exact law
  · exact transcripts other found before

omit [Platform] [CharacterClasses] [Storage Disk] in
theorem Transcripts.moveDirect {reducer : EventReducer Disk} (transcripts : Transcripts reducer)
    (oldKey newKey : ConversationKey) (newNick : String) :
    Transcripts (reducer.moveDirect oldKey newKey newNick) := by
  cases found : reducer.conversations[oldKey]? with
  | none =>
      rw [EventReducer.moveDirect, found]
      exact transcripts
  | some moved =>
      have law := transcripts oldKey moved found
      rw [moveDirect_eq reducer found]
      intro other conv listed
      rcases insert_found listed with ⟨rfl, rfl⟩ | ⟨_, before⟩
      · cases there : (reducer.conversations.erase oldKey)[other]? with
        | none => exact ⟨law.numbered, law.capped⟩
        | some existing =>
            exact mergeConversation_law _ (transcripts other existing (erase_found there).2) _ _
      · exact transcripts other conv (erase_found before).2

/-- A move keeps the law of every transcript. -/
theorem Move.transcripts {reducer next : EventReducer Disk} (move : Move rules reducer next)
    (transcripts : Transcripts reducer) : Transcripts next := by
  cases move with
  | facts => exact transcripts
  | hold => exact transcripts
  | touch found touches => exact transcripts.insert (touches.law (transcripts _ _ found)) _
  | create displayTarget missing =>
      refine transcripts.insert (hydrateFromLog_law ⟨?_, Nat.zero_le _⟩) _
      exact Numbered.empty _ _
  | remove key => exact fun other conv listed => transcripts other conv (erase_found listed).2
  | forget networkId =>
      by_cases named : networkId = ""
      · rw [EventReducer.forgetNetwork, if_pos named]
        exact transcripts
      · rw [forgetNetwork_eq reducer named]
        exact fun other conv listed => transcripts other conv (filter_found listed).2
  | rename newNick caption found direct differs permitted moves =>
      refine Transcripts.moveDirect ?_ _ _ _
      rename_i _ conv
      unfold EventReducer.onConversation
      rw [found]
      have touches := appendEvent_touches rules reducer.facts
        { conv with target := newNick } caption true true
      have law := transcripts _ _ found
      exact transcripts.insert (touches.law ⟨law.numbered, law.capped⟩) _
  | features => exact transcripts
  | mute key muted =>
      intro other conv listed
      rcases setMuted_found reducer key muted listed with before | ⟨before, there, _, rfl⟩
      · exact transcripts other conv before
      · have law := transcripts other before there
        exact ⟨law.numbered, law.capped⟩
  | select => exact transcripts

/-- A chain of moves keeps the law of every transcript. -/
theorem Chain.transcripts {reducer next : EventReducer Disk} (chain : Chain rules reducer next)
    (transcripts : Transcripts reducer) : Transcripts next := by
  induction chain with
  | refl => exact transcripts
  | tail prior move inductionHypothesis => exact move.transcripts inductionHypothesis

end Moves

section Runs

/-- The rules that allow everything. -/
def free : Rules Disk := {}

omit [Platform] [CharacterClasses] [Storage Disk] in
theorem free_lenient : (free : Rules Disk).Lenient where
  splices _ _ _ _ _ := trivial
  lands _ _ := trivial
  moves _ _ _ _ _ := trivial

/-- What every run of calls keeps. -/
structure RunLaw (reducer : EventReducer Disk) : Prop where
  keyed : Keyed reducer
  held : Held free reducer.facts
  transcripts : Transcripts reducer

/-- A chain of moves holds no page of a conversation. -/
theorem Chain.held {reducer next : EventReducer Disk} (chain : Chain free reducer next)
    (held : Held free reducer.facts) : Held free next.facts := by
  induction chain with
  | refl => exact held
  | tail prior move inductionHypothesis =>
      intro key event found
      rcases move.pending key event found with before | made
      · exact ⟨(inductionHypothesis key event before).1, trivial⟩
      · exact ⟨made.1, trivial⟩

omit [Platform] [CharacterClasses] [Storage Disk] in
theorem RunLaw.initial (disk : Disk) : RunLaw (start disk) where
  keyed := fun key conv found => by
    rw [start, Std.TreeMap.getElem?_emptyc] at found
    cases found
  held := fun key event found => by
    rw [start, Std.TreeMap.getElem?_emptyc] at found
    cases found
  transcripts := fun key conv found => by
    rw [start, Std.TreeMap.getElem?_emptyc] at found
    cases found

/-- Rules that refuse batches and rows only. -/
structure Rules.Open (rules : Rules Disk) : Prop where
  opens : ∀ mapping key target, rules.opens mapping key target
  anchors : ∀ key, rules.anchors key
  permits : ∀ act, rules.permits act

/-- A call is a chain of moves under rules that allow its batches and rows. -/
theorem RunLaw.follow {reducer : EventReducer Disk} (law : RunLaw reducer)
    (unbarred : rules.Open) {call : Call Disk} (lands : Lands rules reducer call) :
    Chain rules reducer (reducer.perform call) := by
  have held : Held rules reducer.facts :=
    fun key event found => ⟨(law.held key event found).1, unbarred.opens ..⟩
  refine perform_chain law.keyed held ?_ lands
  cases call with
  | apply event now =>
      cases event <;> simp [Follows, Admits, Opens, unbarred.opens, unbarred.anchors,
        unbarred.permits]
  | ensureConversation key displayTarget cause => exact unbarred.opens ..
  | dropDirectMessage | dropChannel | forgetNetwork | setMuted | markSelected | clearSelection
    | setServerFeatures => exact unbarred.permits _
  | _ => exact trivial

/-- A call is a chain of moves under the rules that allow everything. -/
theorem RunLaw.chain {reducer : EventReducer Disk} (law : RunLaw reducer) (call : Call Disk) :
    Chain free reducer (reducer.perform call) :=
  law.follow ⟨fun _ _ _ => trivial, fun _ => trivial, fun _ => trivial⟩
    (free_lenient.lands_call law.held fun _ _ _ _ _ _ => trivial)

/-- A call keeps the law. -/
theorem RunLaw.step {reducer next : EventReducer Disk} {call : Call Disk} (law : RunLaw reducer)
    (transition : reducer.step call = some next) : RunLaw next := by
  cases transition
  have chain := law.chain call
  exact ⟨Chain.keyed chain law.keyed, Chain.held chain law.held,
    Chain.transcripts chain law.transcripts⟩

/-- Every state a run reaches obeys the law. -/
theorem RunLaw.of_runs {disk : Disk} {final : EventReducer Disk}
    (runs : Semantics.Runs EventReducer.step Semantics.unguarded (start disk) final) :
    RunLaw final := by
  refine runs.invariant RunLaw (.initial disk) ?_
  intro current call next law _ transition
  exact law.step transition

/-- In every state a run of calls reaches, every transcript is within the cap, its
sequences are distinct and below the next one, no msgid stands on two of its rows, and
every msgid on a row is known. -/
theorem transcript_invariant {disk : Disk} {final : EventReducer Disk}
    (runs : Semantics.Runs EventReducer.step Semantics.unguarded (start disk) final)
    {key : ConversationKey} {conv : ConversationState}
    (found : final.conversations[key]? = some conv) :
    conv.messages.length ≤ maxMessages ∧
    (conv.messages.map Message.sequence).Nodup ∧
    (∀ row ∈ conv.messages, row.sequence < conv.nextSequence) ∧
    (conv.messages.Pairwise fun first second =>
      first.msgid = second.msgid → first.msgid = "") ∧
    ∀ row ∈ conv.messages, row.msgid ≠ "" → row.msgid ∈ conv.messageIds := by
  have law := (RunLaw.of_runs runs).transcripts key conv found
  exact ⟨law.capped, law.numbered.sequences, law.numbered.below, law.numbered.msgids,
    law.numbered.known⟩

end Runs

end Law

section Witness

local instance transcriptPlatform : Platform := Session.reference
local instance transcriptClasses : CharacterClasses := asciiClasses
local instance transcriptStorage : Storage Memory := memory

/-- Two peers write, and one takes the nick of the other. -/
def renameCalls : List (Call Memory) :=
  [eventAt (.welcome "net" "me"), eventAt (.message (chatLine "net" "ann" "ann" "hello" "a")),
    eventAt (.message (chatLine "net" "bob" "bob" "hi" "b")),
    eventAt (.message (chatLine "net" "bob" "bob" "again" "a")), eventAt (.nick "net" "bob" "ann")]

/-- The merged conversation keeps one row for the msgid both had, and a caption. -/
theorem transcript_invariant_merged :
    ∃ conv, ((start {}).performAll renameCalls).conversations[
        ({ networkId := "net", normalizedTarget := "ann" } : ConversationKey)]? = some conv ∧
      conv.messages.map Message.body = ["hello", "hi", "bob is now ann"] ∧
      (conv.messages.map Message.sequence).Nodup ∧
      ∀ row ∈ conv.messages, row.msgid ≠ "" → row.msgid ∈ conv.messageIds := by
  have merged : (((start {}).performAll renameCalls).conversations[
      ({ networkId := "net", normalizedTarget := "ann" } : ConversationKey)]?).any (fun conv =>
        conv.messages.map Message.body = ["hello", "hi", "bob is now ann"]) = true := by
    decide +kernel
  have runs := EventReducer.runs_performAll (start ({} : Memory)) renameCalls
  generalize (start {}).performAll renameCalls = final at merged runs ⊢
  obtain ⟨conv, found, bodies⟩ := Session.exists_of_any merged
  have law := transcript_invariant runs found
  exact ⟨conv, found, of_decide_eq_true bodies, law.2.1, law.2.2.2.2⟩

end Witness

end Omairc.Irc.Reducer

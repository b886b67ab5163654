import Omairc.Irc.Reducer.Placement
import Omairc.Irc.Reducer.TranscriptRuns

/-!
# The newest server time

The marker that is sent when a conversation is read carries the server time of its last
stamped chat row. It covers every row as long as that time is the latest one: as long as
each stamped line lands above the last stamped row only when it is not later, and below it
only when it is not earlier.
-/

namespace Omairc.Irc.Reducer

open Omairc.Text

/-- The last of the times is the latest. -/
def Culminates (times : List Instant) : Prop :=
  ∀ last, times.getLast? = some last → ∀ time ∈ times, time ≤ last

instance (times : List Instant) : Decidable (Culminates times) :=
  inferInstanceAs (Decidable (∀ last, times.getLast? = some last → _))

namespace Culminates

variable {times later : List Instant}

@[simp] theorem nil : Culminates [] := by
  intro last newest
  cases newest

/-- The last of the times is the latest exactly when it is their maximum. -/
theorem iff_max : Culminates times ↔ times.getLast? = times.max? := by
  constructor
  · intro culminates
    cases newest : times.getLast? with
    | none =>
        rw [List.getLast?_eq_none_iff.mp newest]
        rfl
    | some last =>
        exact (List.max?_eq_some_iff.mpr
          ⟨List.mem_of_getLast? newest, culminates last newest⟩).symm
  · intro same last newest
    rw [same] at newest
    exact (List.max?_eq_some_iff.mp newest).2

/-- The times from some point on end with the same time. -/
theorem suffix (culminates : Culminates times) (suffix : later <:+ times) : Culminates later := by
  obtain ⟨before, rfl⟩ := suffix
  intro last newest time listed
  refine culminates last ?_ time (List.mem_append_right _ listed)
  rw [List.getLast?_append, newest]
  rfl

end Culminates

/-- The server time a chat row is read by, in whole milliseconds. -/
def stamp (row : Message) : Option Instant :=
  row.serverTime.bind fun serverTime =>
    if MessageKind.counted row.kind then some (readMarkerTimeMillis serverTime) else none

/-- The server times of the chat rows that carry one. -/
def stamps (rows : List Message) : List Instant := rows.filterMap stamp

/-- The server time a replay line is read by when it becomes a chat row. -/
def lineStamp (line : ReplayLine) : Option Instant :=
  line.serverTime.map readMarkerTimeMillis

theorem stamps_append (first second : List Message) :
    stamps (first ++ second) = stamps first ++ stamps second :=
  List.filterMap_append

/-- A row of another kind has no stamp. -/
theorem stamp_uncounted {row : Message} (plain : MessageKind.counted row.kind = false) :
    stamp row = none := by
  unfold stamp
  rw [plain]
  exact Option.bind_fun_none _

theorem stamp_quiet {row : Message} (quiet : spoken row = false) : stamp row = none := by
  refine stamp_uncounted ?_
  have event : row.kind = .event := by simpa [spoken] using quiet
  rw [event]
  rfl

/-- Only chat rows are stamped. -/
theorem stamps_spoken (rows : List Message) : stamps (rows.filter spoken) = stamps rows := by
  induction rows with
  | nil => rfl
  | cons row rest inductionHypothesis =>
      unfold stamps at inductionHypothesis ⊢
      cases heard : spoken row with
      | false =>
          rw [List.filter_cons_of_neg (by rw [heard]; exact nofun), inductionHypothesis,
            List.filterMap_cons_none (stamp_quiet heard)]
      | true =>
          rw [List.filter_cons_of_pos heard, List.filterMap_cons, List.filterMap_cons,
            inductionHypothesis]

/-- The stamps of rows from some point on. -/
theorem stamps_suffix {rows kept : List Message} (suffix : kept <:+ rows) :
    stamps kept <:+ stamps rows :=
  suffix.filterMap stamp

/-- The newest server time is that of the last stamped row. -/
theorem latestServerMessageTime_eq (conv : ConversationState) :
    latestServerMessageTime conv = (stamps conv.messages).getLast? :=
  List.getLast?_filterMap.symm

/-- The rows of a batch line carry its stamp. -/
theorem Carries.stamp {row : Message} {line : ReplayLine} (carries : Carries row line) :
    stamp row = lineStamp line := by
  have counted : MessageKind.counted row.kind = true := by
    rw [carries.kind]
    cases line.kind with
    | _ => rfl
  unfold Reducer.stamp lineStamp
  rw [carries.serverTime, counted]
  cases line.serverTime with
  | none => rfl
  | some serverTime => rfl

theorem stamps_carried {rows : List Message} {lines : List ReplayLine}
    (carried : List.Forall₂ Carries rows lines) : stamps rows = lines.filterMap lineStamp := by
  unfold stamps
  induction carried with
  | nil => rfl
  | cons carries rest inductionHypothesis =>
      rw [List.filterMap_cons, List.filterMap_cons, carries.stamp, inductionHypothesis]

section Law

variable {Disk : Type} [CharacterClasses]

/-- The stamps of a transcript with a batch in place: those above the splice point, those of
the chat lines that contribute a row, and those below. -/
def splicedStamps (facts : Facts Disk) (conv : ConversationState) (event : HistoryEvent)
    (start : Nat) : List Instant :=
  stamps (conv.messages.take start) ++
    (contributed event.conversation.networkId conv.messages { facts, conv, at_ := start } []
      event.lines).filterMap lineStamp ++
    stamps (conv.messages.drop start)

/-- A splice that has taken the lines of a batch. -/
def taken (facts : Facts Disk) (conv : ConversationState) (event : HistoryEvent) (start : Nat) :
    Splice Disk :=
  (admitReplayLines event.conversation.networkId { facts, conv, at_ := start } event.lines).1

/-- An armed page overfills the transcript, so that its newest rows go. -/
def TrimsTail (facts : Facts Disk) (conv : ConversationState) (event : HistoryEvent)
    (start : Nat) : Prop :=
  event.kind = .chat ∧ conv.historyPageCapTail = true ∧
    maxMessages < (taken facts conv event start).rows.length

instance (facts : Facts Disk) (conv : ConversationState) (event : HistoryEvent) (start : Nat) :
    Decidable (TrimsTail facts conv event start) :=
  inferInstanceAs (Decidable (_ ∧ _))

/-- A batch lands in the order of its server times: the last stamp is the latest when the
batch is in place, or among the rows that are left when the newest ones go. -/
structure SplicedInOrder (facts : Facts Disk) (conv : ConversationState) (event : HistoryEvent)
    (start : Nat) : Prop where
  placed : ¬TrimsTail facts conv event start → Culminates (splicedStamps facts conv event start)
  trimmed : TrimsTail facts conv event start →
    Culminates (stamps ((taken facts conv event start).inserted.messages.take maxMessages))

/-- The rules under which rows land in the order of their server times. -/
def inOrder : Rules Disk where
  splices := fun facts conv event anchorUse => ∀ start,
    spliceStart conv event anchorUse = (conv, some start) → SplicedInOrder facts conv event start
  lands := fun conv row => Culminates (stamps conv.messages ++ (stamp row).toList)
  moves := fun _ _ _ existing moved => ∀ held, existing = some held →
    Culminates (stamps held.messages ++ stamps (moved.messages.filter held.takesOver))


section Splices

omit [CharacterClasses] in
/-- A membership line leaves the tail cap as it is. -/
theorem admitMembershipReplay_capTail (splice : Splice Disk) (line : ReplayMembership) :
    (admitMembershipReplay splice line).1.conv.historyPageCapTail =
      splice.conv.historyPageCapTail := by
  rcases admitMembershipReplay_cases splice line with hidden | folded | folded | ⟨showEach, added⟩
  · rw [hidden]
  · obtain ⟨_, _, _, _, ⟨_, _, same⟩ | ⟨_, same⟩⟩ := foldTranscript_cases folded
    · rw [same]
    · rw [same, forgetTranscriptMsgid_conv]
      rfl
  · obtain ⟨_, _, _, ⟨_, _, same⟩ | ⟨_, same⟩⟩ := foldRun_cases folded
    · rw [same]
    · rw [same, forgetTranscriptMsgid_conv]
  · rw [added]
    rfl

/-- A replay line leaves the tail cap as it is. -/
theorem admitReplayLine_capTail (splice : Splice Disk) (networkId : String) (line : ReplayLine) :
    (admitReplayLine splice networkId line).1.conv.historyPageCapTail =
      splice.conv.historyPageCapTail := by
  have known : ∀ msgid, (splice.know msgid).conv.historyPageCapTail =
      splice.conv.historyPageCapTail := by
    intro msgid
    unfold Splice.know ConversationState.know
    split
    · rfl
    · rfl
  unfold admitReplayLine
  split
  · rfl
  · split
    · rfl
    · split
      · exact (admitMembershipReplay_capTail ..).trans (known _)
      · split
        · rfl
        · exact known line.msgid

theorem taken_capTail (facts : Facts Disk) (conv : ConversationState) (event : HistoryEvent)
    (start : Nat) :
    (taken facts conv event start).conv.historyPageCapTail = conv.historyPageCapTail := by
  unfold taken admitReplayLines
  have lines : ∀ (lines : List ReplayLine) (state : Splice Disk × List PendingNote),
      (lines.foldl (fun state line =>
        ((admitReplayLine state.1 event.conversation.networkId line).1, notesAfter state.2 line
          (admitReplayLine state.1 event.conversation.networkId line).2)) state).1.conv.historyPageCapTail =
        state.1.conv.historyPageCapTail := by
    intro lines
    induction lines with
    | nil => exact fun _ => rfl
    | cons line rest inductionHypothesis =>
        intro state
        rw [List.foldl_cons]
        exact (inductionHypothesis _).trans (admitReplayLine_capTail ..)
  exact lines event.lines _

omit [CharacterClasses] in
/-- A run in place is every row of the splice. -/
theorem inserted_length (splice : Splice Disk) :
    splice.inserted.messages.length = splice.rows.length := by
  unfold Splice.inserted Splice.rows
  rw [List.length_append, List.length_append, List.length_append, List.length_take,
    List.length_drop]
  omega

omit [CharacterClasses] in
/-- The transcript the tail cap leaves. -/
theorem capMessagesPreferTail_rows (facts : Facts Disk) (conv : ConversationState) :
    (capMessagesPreferTail facts conv).2.messages = conv.messages.take maxMessages := by
  unfold capMessagesPreferTail capWithPolicy
  split
  · rename_i fits
    exact (List.take_of_length_le fits).symm
  · rename_i exceeds
    rw [if_neg Bool.false_ne_true]
    dsimp only
    rw [forgetRows_eq]
    dsimp only
    congr 1
    omega

variable [Storage Disk] {facts : Facts Disk} {conv : ConversationState} {event : HistoryEvent}
  {anchorUse : AnchorUse} {start : Nat}

/-- The transcript a splice leaves: the run in place, less the oldest rows, or less the
newest ones where an armed page overfills it. -/
theorem spliceHistory_rows (law : TranscriptLaw conv)
    (starts : spliceStart conv event anchorUse = (conv, some start)) :
    (¬TrimsTail facts conv event start ∧ (spliceHistory facts conv event anchorUse).2.messages <:+
      (taken facts conv event start).inserted.messages) ∨
    (TrimsTail facts conv event start ∧ (spliceHistory facts conv event anchorUse).2.messages =
      (taken facts conv event start).inserted.messages.take maxMessages) := by
  have begun : SpliceLaw ({ facts, conv, at_ := start } : Splice Disk) := by
    refine ⟨?_, law.capped⟩
    unfold Splice.rows
    rw [List.append_nil]
    exact law.numbered
  have capped := (begun.admitReplayLines event.conversation.networkId event.lines).capped
  have armed := taken_capTail facts conv event start
  unfold TrimsTail
  unfold taken at armed ⊢
  unfold spliceHistory
  rw [starts]
  dsimp only
  generalize admitReplayLines event.conversation.networkId
    ({ facts, conv, at_ := start } : Splice Disk) event.lines = outcome at capped armed ⊢
  split
  · rename_i empty
    obtain ⟨_, same⟩ := disarmTailCap_cases outcome.1.conv event
    refine .inl ⟨fun trims => ?_, ?_⟩
    · have exceeds := trims.2.2
      unfold Splice.rows at exceeds
      rw [empty, List.append_nil] at exceeds
      exact absurd capped (Nat.not_le.mpr exceeds)
    · rw [same]
      unfold Splice.inserted
      dsimp only
      rw [empty, List.append_nil, List.take_append_drop]
  · obtain ⟨spliceEpoch, ⟨unarmed, same⟩ | ⟨armedTail, page, same⟩⟩ := placed_cases
      { outcome.1 with facts := rememberQuery outcome.1.facts outcome.1.conv event } event
      conv.messages.length
    · rw [same]
      obtain ⟨_, _, _, noted⟩ := noteRun_cases event outcome.1.run
        (capMessages (Splice.logged
          { outcome.1 with facts := rememberQuery outcome.1.facts outcome.1.conv event })
          { Splice.landed { outcome.1 with
              facts := rememberQuery outcome.1.facts outcome.1.conv event } with spliceEpoch }).1
        (capMessages (Splice.logged
          { outcome.1 with facts := rememberQuery outcome.1.facts outcome.1.conv event })
          { Splice.landed { outcome.1 with
              facts := rememberQuery outcome.1.facts outcome.1.conv event } with spliceEpoch }).2
      rw [noted]
      refine .inl ⟨fun trims => unarmed ⟨armed.trans trims.2.1, trims.1⟩, ?_⟩
      dsimp only
      rw [capMessages_rows]
      exact List.drop_suffix _ _
    · rw [same]
      obtain ⟨_, _, _, noted⟩ := noteRun_cases event outcome.1.run
        (capMessagesPreferTail (Splice.logged
          { outcome.1 with facts := rememberQuery outcome.1.facts outcome.1.conv event })
          { Splice.landed { outcome.1 with
              facts := rememberQuery outcome.1.facts outcome.1.conv event } with
            spliceEpoch, historyPageCapTail := false }).1
        (capMessagesPreferTail (Splice.logged
          { outcome.1 with facts := rememberQuery outcome.1.facts outcome.1.conv event })
          { Splice.landed { outcome.1 with
              facts := rememberQuery outcome.1.facts outcome.1.conv event } with
            spliceEpoch, historyPageCapTail := false }).2
      rw [noted]
      dsimp only
      rw [capMessagesPreferTail_rows]
      change _ ∧ outcome.1.inserted.messages.take maxMessages <:+ _ ∨ _
      by_cases exceeds : maxMessages < outcome.1.rows.length
      · exact .inr ⟨⟨page, armed.symm.trans armedTail, exceeds⟩, rfl⟩
      · refine .inl ⟨fun trims => exceeds trims.2.2, ?_⟩
        rw [List.take_of_length_le ((inserted_length _).le.trans (Nat.not_lt.mp exceeds))]

omit [Storage Disk] in
/-- The stamps of a run in place. -/
theorem inserted_stamps (starts : spliceStart conv event anchorUse = (conv, some start)) :
    stamps (taken facts conv event start).inserted.messages =
      splicedStamps facts conv event start := by
  have begun := Landing.begin facts (spliceStart_inside starts).2
  obtain ⟨landing, carried⟩ := admitReplayLines_carried begun .nil event.conversation.networkId
    event.lines []
  change Landing conv.messages start conv.nextSequence (taken facts conv event start) at landing
  change List.Forall₂ Carries ((taken facts conv event start).run.filter spoken) _ at carried
  unfold splicedStamps
  generalize taken facts conv event start = splice at landing carried ⊢
  obtain ⟨top, gone, bottom, shown, whole, size, captions, refolded, rows, point⟩ := landing.parts
  have first : min splice.at_ splice.conv.messages.length = shown.length := by
    rw [point, rows, List.length_append]
    omega
  have above : stamps (conv.messages.take start) = stamps shown := by
    have quiet : gone.filter spoken = [] := List.filter_eq_nil_iff.mpr fun row listed => by
      rw [spoken_caption (captions row listed)]
      exact nofun
    rw [whole, List.take_left' size, ← stamps_spoken, List.filter_append, quiet, List.append_nil,
      ← refolded.spoken, stamps_spoken]
  have below : conv.messages.drop start = bottom := by rw [whole, List.drop_left' size]
  have run : stamps splice.run = (contributed event.conversation.networkId conv.messages
      { facts, conv, at_ := start } [] event.lines).filterMap lineStamp := by
    rw [← stamps_spoken]
    exact stamps_carried carried
  unfold Splice.inserted
  dsimp only
  rw [first, rows, List.take_left, List.drop_left, stamps_append, stamps_append, above, below, run]

/-- A splice in order leaves the last stamp the latest. -/
theorem SplicedInOrder.culminates (inOrder : SplicedInOrder facts conv event start)
    (law : TranscriptLaw conv)
    (starts : spliceStart conv event anchorUse = (conv, some start)) :
    Culminates (stamps (spliceHistory facts conv event anchorUse).2.messages) := by
  rcases @spliceHistory_rows _ _ _ facts _ _ _ _ law starts with ⟨whole, kept⟩ | ⟨trims, kept⟩
  · have culminates := inOrder.placed whole
    rw [← inserted_stamps starts] at culminates
    exact culminates.suffix (stamps_suffix kept)
  · rw [kept]
    exact inOrder.trimmed trims

end Splices

section Touches

variable [Storage Disk] {facts changed : Facts Disk} {conv touched : ConversationState}

/-- The last stamp of a transcript is the latest. -/
def ConversationState.Culminates (conv : ConversationState) : Prop :=
  Reducer.Culminates (stamps conv.messages)

omit [CharacterClasses] [Storage Disk] in
/-- Rows with the same stamps. -/
theorem stamps_map {change : Message → Message} (same : ∀ row, stamp (change row) = stamp row)
    (rows : List Message) : stamps (rows.map change) = stamps rows := by
  unfold stamps
  rw [List.filterMap_map]
  exact congrArg (List.filterMap · rows) (funext same)

omit [CharacterClasses] [Storage Disk] in
/-- A row that is added at the end and no older stamp is later. -/
theorem stamps_admitted (facts : Facts Disk) (conv : ConversationState) (row : Message) :
    stamps (capMessages facts (admitMessage (conv.know row.msgid) row)).2.messages <:+
      stamps conv.messages ++ (stamp row).toList := by
  rw [capMessages_rows]
  have whole : stamps (admitMessage (conv.know row.msgid) row).messages =
      stamps conv.messages ++ (stamp row).toList := by
    unfold admitMessage
    dsimp only
    rw [know_messages, stamps_append]
    congr 1
  rw [← whole]
  exact stamps_suffix (List.drop_suffix _ _)

omit [CharacterClasses] [Storage Disk] in
/-- The transcript without a caption at its end. -/
theorem stamps_dropLast {rows : List Message}
    (caption : ∀ last, rows.getLast? = some last → last.kind = .event) :
    stamps rows.dropLast = stamps rows := by
  cases newest : rows.getLast? with
  | none =>
      rw [List.getLast?_eq_none_iff.mp newest]
      rfl
  | some last =>
      obtain ⟨before, rfl⟩ := List.getLast?_eq_some_iff.mp newest
      have plain : MessageKind.counted last.kind = false := by
        rw [caption last newest]
        rfl
      rw [List.dropLast_concat, stamps_append]
      unfold stamps
      rw [List.filterMap_cons_none (stamp_uncounted plain)]
      exact (List.append_nil _).symm

/-- A touch in order leaves the last stamp the latest. -/
theorem Touch.culminates (touch : Touch inOrder facts conv touched) (law : TranscriptLaw conv)
    (culminates : conv.Culminates) : touched.Culminates := by
  unfold ConversationState.Culminates at culminates ⊢
  cases touch with
  | counted => exact culminates
  | flagged mentioned =>
      have same := @stamps_map (fun message => { message with mentioned := mentioned message })
        (fun _ => rfl) conv.messages
      exact same ▸ culminates
  | roster => exact culminates
  | unanchored => exact culminates
  | anchored => exact culminates
  | admitted row fresh permitted =>
      refine Reducer.Culminates.suffix ?_ (stamps_admitted facts conv row)
      cases counted : MessageKind.counted row.kind with
      | true => exact permitted counted
      | false =>
          rw [stamp_uncounted counted, Option.toList_none, List.append_nil]
          exact culminates
  | rewritten last body newest =>
      obtain ⟨before, whole⟩ := List.getLast?_eq_some_iff.mp newest
      have same : stamps (conv.messages.dropLast ++ [{ last with body }]) =
          stamps conv.messages := by
        rw [whole, List.dropLast_concat, stamps_append, stamps_append]
        rfl
      exact same ▸ culminates
  | dropped caption =>
      cases newest : conv.messages.getLast? with
      | none =>
          rw [dropLastTranscriptRow_none facts newest]
          exact culminates
      | some last =>
          rw [dropLastTranscriptRow_eq facts newest]
          change Reducer.Culminates (stamps conv.messages.dropLast)
          rw [stamps_dropLast caption]
          exact culminates
  | spliced event anchorUse permitted consumed =>
      rcases start : spliceStart conv event anchorUse with ⟨started, point⟩
      cases point with
      | some point =>
          have same := (spliceStart_inside start).1
          subst same
          exact (permitted point start).culminates law start
      | none =>
          have kept : started.messages = conv.messages := by
            rcases spliceStart_cases conv event anchorUse with same | same
            · rw [start] at same
              rw [← same]
            · rw [start, Prod.mk.injEq] at same
              rw [same.1]
              rfl
          unfold spliceHistory
          rw [start]
          dsimp only
          rw [kept]
          exact culminates
  | cleared => exact .nil
  | retargeted => exact culminates

theorem Touches.culminates (touches : Touches inOrder facts conv changed touched)
    (law : TranscriptLaw conv) (culminates : conv.Culminates) : touched.Culminates := by
  induction touches with
  | refl => exact culminates
  | framed prior same inductionHypothesis => exact inductionHypothesis
  | touch prior touch inductionHypothesis =>
      exact touch.culminates (prior.law law) inductionHypothesis

end Touches

section Moves

variable [Platform] [Storage Disk] {reducer next : EventReducer Disk}

omit [Platform] in
/-- A row of the log carries no server time. -/
theorem hydrateFromLog_stamps (facts : Facts Disk) (key : ConversationKey)
    (displayTarget : String) :
    stamps (hydrateFromLog facts (freshConversation facts key displayTarget)).2.messages = [] := by
  have lines : ∀ (lines : List TranscriptLine) (state : Facts Disk × ConversationState),
      stamps state.2.messages = [] →
      stamps (lines.foldl hydrateLine state).2.messages = [] := by
    intro lines
    induction lines with
    | nil => exact fun _ none => none
    | cons line rest inductionHypothesis =>
        intro state none
        refine inductionHypothesis _ ?_
        unfold hydrateLine
        dsimp only
        split
        · exact none
        · split
          · exact none
          · unfold admitMessage
            dsimp only
            rw [know_messages, stamps_append, none]
            rfl
  unfold hydrateFromLog
  split
  · rfl
  · dsimp only
    rw [capMessages_rows]
    refine List.eq_nil_of_suffix_nil ?_
    rw [← lines (Storage.readTail facts.disk _ _ _ maxMessages) (facts, freshConversation facts key
      displayTarget) rfl]
    exact stamps_suffix (List.drop_suffix _ _)

/-- The last stamp of every transcript is the latest. -/
def AllCulminate (reducer : EventReducer Disk) : Prop :=
  ∀ (key : ConversationKey) (conv : ConversationState),
    reducer.conversations[key]? = some conv → conv.Culminates

omit [Platform] [CharacterClasses] [Storage Disk] in
/-- The stamps of the rows a merge takes over follow those that were there. -/
theorem mergeRows_stamps (movedMark : Option Int) {rows : List Message}
    (apart : rows.Pairwise fun first second => first.msgid = second.msgid → first.msgid = "")
    (existing : ConversationState) :
    stamps (rows.foldl (mergeRow movedMark) existing).messages =
      stamps existing.messages ++ stamps (rows.filter existing.takesOver) := by
  induction rows generalizing existing with
  | nil => exact (List.append_nil _).symm
  | cons row rest inductionHypothesis =>
      obtain ⟨others, apart⟩ := List.pairwise_cons.mp apart
      rw [List.foldl_cons, inductionHypothesis apart]
      by_cases known : row.msgid ≠ "" ∧ row.msgid ∈ existing.messageIds
      · have stays : mergeRow movedMark existing row = existing := if_pos known
        have skipped : ¬existing.takesOver row = true := by
          simpa [ConversationState.takesOver] using known
        rw [stays, List.filter_cons_of_neg skipped]
      · have kept : existing.takesOver row = true := by
          refine decide_eq_true ?_
          by_cases blank : row.msgid = ""
          · exact .inl blank
          · exact .inr fun there => known ⟨blank, there⟩
        have messages : (mergeRow movedMark existing row).messages = existing.messages ++
            [{ row with sequence := (existing.know row.msgid).nextSequence }] := by
          rw [mergeRow, if_neg known]
          dsimp only
          rw [know_messages]
        have same : rest.filter (mergeRow movedMark existing row).takesOver =
            rest.filter existing.takesOver :=
          List.filter_congr fun other listed =>
            mergeRow_takesOver movedMark existing (others other listed)
        rw [messages, stamps_append, List.filter_cons_of_pos kept, same, List.append_assoc]
        congr 1
        exact (stamps_append [row] _).symm

omit [Platform] [CharacterClasses] [Storage Disk] in
/-- A conversation that is merged in order leaves the last stamp the latest. -/
theorem merged_culminates {existing moved : ConversationState} (law : TranscriptLaw moved)
    (permitted : Culminates
      (stamps existing.messages ++ stamps (moved.messages.filter existing.takesOver)))
    (facts : Facts Disk) (newNick : String) :
    (mergeConversation facts existing moved newNick).2.Culminates := by
  rw [← mergeRows_stamps moved.unreadMark law.numbered.msgids existing] at permitted
  unfold mergeConversation ConversationState.Culminates
  dsimp only
  rw [capMessages_rows]
  exact permitted.suffix (stamps_suffix (List.drop_suffix _ _))

/-- A move in order leaves the last stamp of every transcript the latest. -/
theorem Move.allCulminate (move : Move inOrder reducer next) (transcripts : Transcripts reducer)
    (all : AllCulminate reducer) : AllCulminate next := by
  have inserted : ∀ {key : ConversationKey} {touched : ConversationState} {facts : Facts Disk},
      touched.Culminates →
      AllCulminate { facts, conversations := reducer.conversations.insert key touched } := by
    intro key touched facts culminates other found listed
    rcases insert_found listed with ⟨_, rfl⟩ | ⟨_, before⟩
    · exact culminates
    · exact all other found before
  cases move with
  | facts => exact all
  | hold => exact all
  | touch found touches =>
      exact inserted (touches.culminates (transcripts _ _ found) (all _ _ found))
  | create displayTarget missing =>
      refine inserted ?_
      unfold ConversationState.Culminates
      rw [hydrateFromLog_stamps]
      exact .nil
  | remove key => exact fun other conv listed => all other conv (erase_found listed).2
  | forget networkId =>
      by_cases named : networkId = ""
      · rw [EventReducer.forgetNetwork, if_pos named]
        exact all
      · rw [forgetNetwork_eq reducer named]
        exact fun other conv listed => all other conv (filter_found listed).2
  | rename newNick caption found direct differs permitted moves =>
      rename_i oldKey conv
      have captioned := appendEvent_touches inOrder reducer.facts { conv with target := newNick }
        caption true true
      have own : ({ conv with target := newNick } : ConversationState).Culminates :=
        all oldKey conv found
      have before := (transcripts oldKey conv found).renamed conv.key newNick
      have kept := captioned.culminates before own
      have law := captioned.law before
      intro other after listed
      rcases moveDirect_found found differs _ newNick listed with
        ⟨rfl, ⟨_, rfl⟩ | ⟨existing, there, rfl⟩⟩ | ⟨_, _, before⟩
      · exact kept
      · exact merged_culminates (law.renamed _ newNick) (moves existing there) _ _
      · exact all other after before
  | features => exact all
  | mute key muted =>
      intro other conv listed
      rcases setMuted_found reducer key muted listed with before | ⟨before, there, _, rfl⟩
      · exact all other conv before
      · exact all other before there
  | select => exact all

end Moves

section Runs

variable [Platform] [Storage Disk]

/-- The chat rows a call adds land in the order of their server times. A live line lands
below every row, so no row is later. A batch lands at its splice point with the chat lines it
contributes, and the last stamp is the latest then. A renamed conversation lands below the
one it is merged into. -/
def LandsInOrder (reducer : EventReducer Disk) (call : Call Disk) : Prop :=
  Lands inOrder reducer call

/-- What every run keeps whose rows land in order. -/
structure StampLaw (reducer : EventReducer Disk) : Prop where
  run : RunLaw reducer
  all : AllCulminate reducer

theorem StampLaw.step {reducer next : EventReducer Disk} {call : Call Disk}
    (law : StampLaw reducer) (ordered : LandsInOrder reducer call)
    (transition : reducer.step call = some next) : StampLaw next := by
  refine ⟨law.run.step transition, ?_⟩
  cases transition
  have chain : Chain inOrder reducer (reducer.perform call) :=
    law.run.follow ⟨fun _ _ _ => trivial, fun _ => trivial, fun _ => trivial⟩ ordered
  have moves : ∀ {middle : EventReducer Disk}, Chain inOrder reducer middle →
      Transcripts middle ∧ AllCulminate middle := by
    intro middle path
    induction path with
    | refl => exact ⟨law.run.transcripts, law.all⟩
    | tail prior move inductionHypothesis =>
        exact ⟨move.transcripts inductionHypothesis.1,
          move.allCulminate inductionHypothesis.1 inductionHypothesis.2⟩
  exact (moves chain).2

theorem StampLaw.of_runs {disk : Disk} {final : EventReducer Disk}
    (runs : Semantics.Runs EventReducer.step LandsInOrder (start disk) final) :
    StampLaw final := by
  refine runs.invariant StampLaw ⟨.initial disk, fun key conv found => ?_⟩ StampLaw.step
  rw [start, Std.TreeMap.getElem?_emptyc] at found
  cases found

omit [CharacterClasses] [Platform] [Storage Disk] in
/-- A row is read under a marker that is not earlier than its stamp. -/
theorem covered_of_stamp {row : Message} {time marker : Instant} (stamped : stamp row = some time)
    (earlier : time ≤ marker) : covered (some marker) row.serverTime = true := by
  unfold stamp at stamped
  cases sent : row.serverTime with
  | none =>
      rw [sent] at stamped
      cases stamped
  | some serverTime =>
      rw [sent, Option.bind_some] at stamped
      split at stamped
      · cases stamped
        have less : ¬timestampMillis marker < timestampMillis serverTime :=
          Int.not_lt.mpr ((Int.le_ediv_iff_mul_le (by decide)).mpr earlier)
        unfold covered
        dsimp only
        rw [decide_eq_false less]
        rfl
      · cases stamped

end Runs

end Law

section Witness

local instance stampPlatform : Platform := Session.reference
local instance stampClasses : CharacterClasses := asciiClasses
local instance stampStorage : Storage Memory := memory

/-- A peer. -/
def stampKey : ConversationKey := { networkId := "net", normalizedTarget := "bob" }

/-- A line of the peer that the server sent at a second. -/
def stampedLine (body : String) (second : Int) : ChatEvent :=
  { chatLine "net" "bob" "bob" body body with
    timestamp := second * 10 ^ 9, serverTime := some (second * 10 ^ 9) }

/-- The user connects, and the peer writes. -/
def greeted : EventReducer Memory :=
  (start {}).performAll [eventAt (.welcome "net" "me"),
    eventAt (.message (stampedLine "hi" 2))]

/-- The peer writes again. -/
def laterLine : Call Memory := eventAt (.message (stampedLine "again" 3))

/-- A bouncer replays an older line of the peer. -/
def earlierPage : Call Memory :=
  eventAt (.history
    { conversation := stampKey, target := "bob", kind := .bouncerPlayback
      lines := [{ author := "bob", body := "hello", timestamp := 10 ^ 9, msgid := "hello"
                  serverTime := some (10 ^ 9) }] })

/-- What the rules ask of a live line, tested on the conversation it lands in. -/
theorem landsLine_of_all {reducer : EventReducer Memory} {line : ChatLine}
    (tested : ((reducer.lineOpened line).conversations[line.key]?).all (fun conv =>
      decide (Culminates (stamps conv.messages ++
        (stamp (liveRow (reducer.lineOpened line).facts (conv.know line.msgid) line)).toList))) =
      true) : LandsLine inOrder reducer line := by
  intro conv found _ _
  rw [found] at tested
  exact @of_decide_eq_true (Culminates _) _ tested

end Witness

end Omairc.Irc.Reducer

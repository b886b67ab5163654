import Omairc.Irc.Reducer.Reference
import Omairc.Irc.Reducer.SpliceLaw

/-!
# Where the lines of a batch land

A splice keeps the transcript it starts from, but for the captions right above the splice
point, and puts its run there as one block. A reference scan says which chat lines of a
batch contribute a row; the chat rows of the block are those of that scan.
-/

namespace Omairc.Irc.Reducer

open Omairc.Text

/-- A row that membership lines fold into. -/
def IsCaption (row : Message) : Prop := row.kind = .event ∧ row.collapsible = true

/-- Rows whose last one, if it is a caption, may have another text. -/
inductive Refolded : List Message → List Message → Prop
  | same (rows : List Message) : Refolded rows rows
  | folded (above : List Message) {caption : Message} (body : String)
      (joins : IsCaption caption) :
      Refolded (above ++ [caption]) (above ++ [{ caption with body }])

/-- The last row of refolded rows is a row of the original, or a caption with another
text. -/
theorem Refolded.last {top above : List Message} {row : Message}
    (refolded : Refolded top (above ++ [row])) :
    ∃ original, top = above ++ [original] ∧
      (row = original ∨ IsCaption original ∧ row = { original with body := row.body }) := by
  generalize whole : above ++ [row] = shown at refolded
  cases refolded with
  | same => exact ⟨row, whole.symm, .inl rfl⟩
  | folded before body joins =>
      rename_i caption
      obtain ⟨rfl, same⟩ := List.append_inj' whole rfl
      rw [List.cons.injEq] at same
      exact ⟨caption, rfl, .inr ⟨joins, by rw [same.1]⟩⟩

/-- Whether a row is a chat row. -/
def spoken (row : Message) : Bool := row.kind ≠ .event

/-- A row carries a chat line of a batch. -/
structure Carries (row : Message) (line : ReplayLine) : Prop where
  kind : row.kind = chatKind line.kind
  author : row.author = line.author
  body : row.body = line.body
  time : row.time = line.timestamp
  serverTime : row.serverTime = line.serverTime
  msgid : row.msgid = line.msgid
  origin : row.origin = .replay

theorem spoken_caption {row : Message} (caption : IsCaption row) : spoken row = false := by
  unfold spoken
  rw [caption.1]
  rfl

theorem Refolded.spoken {top shown : List Message} (refolded : Refolded top shown) :
    shown.filter Reducer.spoken = top.filter Reducer.spoken := by
  cases refolded with
  | same => rfl
  | folded above body joins =>
      rename_i caption
      have quiet : Reducer.spoken { caption with body } = false := spoken_caption joins
      rw [List.filter_append, List.filter_append, List.filter_singleton, List.filter_singleton,
        quiet, spoken_caption joins]
      rfl

variable {Disk : Type}

/-- A fold that takes a row away is one into a caption. -/
theorem foldInto_dropped {facts : Facts Disk} {networkId : String} {row : Message}
    {body : String} (gone : foldInto facts networkId row body = some none) : IsCaption row := by
  unfold foldInto at gone
  split at gone
  · cases gone
  · rename_i caption
    rw [not_or, not_not, Bool.not_eq_false] at caption
    exact caption

/-- What a running splice keeps of the transcript it started from: the rows below the splice
point, the rows above it but for captions right above it, and a run of newer rows. -/
structure Landing (original : List Message) (start : Nat) (next : Int)
    (splice : Splice Disk) : Prop where
  parts : ∃ top gone bottom shown, original = top ++ gone ++ bottom ∧
    (top ++ gone).length = start ∧ (∀ row ∈ gone, IsCaption row) ∧ Refolded top shown ∧
    splice.conv.messages = shown ++ bottom ∧ splice.at_ = shown.length
  grown : next ≤ splice.conv.nextSequence
  newer : ∀ row ∈ splice.run, next ≤ row.sequence

namespace Landing

variable {original : List Message} {start : Nat} {next : Int} {splice : Splice Disk}

/-- A splice starts at its point. -/
theorem begin (facts : Facts Disk) {conv : ConversationState}
    (inside : start ≤ conv.messages.length) :
    Landing conv.messages start conv.nextSequence { facts, conv, at_ := start } where
  parts := by
    refine ⟨conv.messages.take start, [], conv.messages.drop start, conv.messages.take start,
      ?_, ?_, by simp, .same _, ?_, ?_⟩
    · rw [List.append_nil, List.take_append_drop]
    · rw [List.append_nil, List.length_take, min_eq_left inside]
    · exact (List.take_append_drop ..).symm
    · exact (List.length_take_of_le inside).symm
  grown := le_rfl
  newer := by simp

/-- A change that keeps the rows and the splice point. -/
theorem congr (landing : Landing original start next splice) {later : Splice Disk}
    (rows : later.conv.messages = splice.conv.messages) (point : later.at_ = splice.at_)
    (grown : splice.conv.nextSequence ≤ later.conv.nextSequence)
    (run : ∀ row ∈ later.run, (∃ before ∈ splice.run, before.sequence = row.sequence) ∨
      row.sequence = splice.conv.nextSequence) :
    Landing original start next later where
  parts := by
    rw [rows, point]
    exact landing.parts
  grown := landing.grown.trans grown
  newer := by
    intro row listed
    rcases run row listed with ⟨before, there, same⟩ | same
    · rw [← same]
      exact landing.newer before there
    · rw [same]
      exact landing.grown

theorem know (landing : Landing original start next splice) (msgid : MsgId) :
    Landing original start next (splice.know msgid) :=
  landing.congr (know_messages ..) rfl (know_nextSequence ..).ge
    fun row listed => .inl ⟨row, listed, rfl⟩

/-- A row added to the run lands with it. -/
theorem pushed (landing : Landing original start next splice) (row : Message)
    (numbers : row.sequence = splice.conv.nextSequence) (facts : Facts Disk) :
    Landing original start next
      { splice with
        facts
        conv := { splice.conv with nextSequence := splice.conv.nextSequence + 1 }
        run := splice.run ++ [row] } := by
  refine landing.congr rfl rfl (Int.le_add_of_nonneg_right (by decide)) ?_
  intro other listed
  rcases List.mem_append.mp listed with before | last
  · exact .inl ⟨other, before, rfl⟩
  · rw [List.mem_singleton.mp last]
    exact .inr numbers

/-- A fold into the run keeps the landing. -/
theorem foldRun (landing : Landing original start next splice) {line : ReplayMembership}
    {result : Splice Disk × MembershipReplayResult} (folded : splice.foldRun line = some result) :
    Landing original start next result.1 := by
  obtain ⟨before, row, whole, ⟨rewritten, joined, rfl⟩ | ⟨_, rfl⟩⟩ := foldRun_cases folded
  · obtain ⟨_, _, same⟩ := foldInto_cases joined
    refine landing.congr rfl rfl le_rfl ?_
    intro other listed
    rw [whole]
    rcases List.mem_append.mp listed with there | last
    · exact .inl ⟨other, List.mem_append_left _ there, rfl⟩
    · rw [List.mem_singleton.mp last, same]
      exact .inl ⟨row, List.mem_append_right _ (List.mem_singleton_self _), rfl⟩
  · rw [forgetTranscriptMsgid_conv]
    refine landing.congr rfl rfl le_rfl ?_
    intro other listed
    rw [whole]
    exact .inl ⟨other, List.mem_append_left _ listed, rfl⟩

/-- A fold into the row above the splice point keeps the landing. -/
theorem foldTranscript (landing : Landing original start next splice) {line : ReplayMembership}
    {result : Splice Disk × MembershipReplayResult}
    (folded : splice.foldTranscript line = some result) :
    Landing original start next result.1 := by
  obtain ⟨index, row, above, there, outcome⟩ := foldTranscript_cases folded
  obtain ⟨top, gone, bottom, shown, whole, size, captions, refolded, rows, point⟩ := landing.parts
  obtain ⟨before, last, parts⟩ : ∃ before last, shown = before ++ [last] := by
    have filled : shown ≠ [] := by
      intro empty
      rw [point, empty] at above
      cases above
    exact ⟨shown.dropLast, shown.getLast filled, (List.dropLast_append_getLast filled).symm⟩
  subst parts
  have position : before.length = index := by
    rw [point, List.length_append, List.length_singleton] at above
    exact Nat.succ.inj above
  have equal : last = row := by
    rw [rows, List.append_assoc, ← position, List.getElem?_append_right (Nat.le_refl _),
      Nat.sub_self] at there
    exact Option.some.inj there
  subst equal
  obtain ⟨caption, under, origin⟩ := refolded.last
  rcases outcome with ⟨rewritten, joined, rfl⟩ | ⟨dropped, rfl⟩
  · obtain ⟨event, collapsible, text⟩ := foldInto_cases joined
    refine ⟨⟨top, gone, bottom, before ++ [rewritten], whole, size, captions, ?_, ?_, ?_⟩,
      landing.grown, landing.newer⟩
    · rw [under, text]
      rcases origin with rfl | ⟨joins, refold⟩
      · exact .folded before _ ⟨event, collapsible⟩
      · rw [refold]
        exact .folded before _ joins
    · dsimp only
      rw [rows, ← position, List.append_assoc, List.set_append_right _ _ (Nat.le_refl _),
        Nat.sub_self, List.append_assoc]
      rfl
    · dsimp only
      rw [point, List.length_append, List.length_append]
      rfl
  · have joins : IsCaption caption := by
      rcases origin with rfl | ⟨joins, _⟩
      · exact foldInto_dropped dropped
      · exact joins
    refine ⟨⟨before, caption :: gone, bottom, before, ?_, ?_, ?_, .same before, ?_, position.symm⟩,
      ?_, landing.newer⟩
    · rw [whole, under, List.append_assoc, List.append_assoc, List.append_assoc]
      rfl
    · rw [← size, under, List.append_assoc]
      rfl
    · intro other listed
      rcases List.mem_cons.mp listed with rfl | there
      · exact joins
      · exact captions other there
    · rw [forgetTranscriptMsgid_conv]
      change splice.conv.messages.eraseIdx index = _
      rw [rows, ← position, List.append_assoc, List.eraseIdx_append_of_length_le (Nat.le_refl _),
        Nat.sub_self]
      rfl
    · rw [forgetTranscriptMsgid_conv]
      exact landing.grown

/-- A membership line keeps the landing. -/
theorem admitMembershipReplay (landing : Landing original start next splice)
    (line : ReplayMembership) :
    Landing original start next (admitMembershipReplay splice line).1 := by
  rcases admitMembershipReplay_cases splice line with hidden | folded | folded | ⟨showEach, added⟩
  · rw [hidden]
    exact landing
  · exact landing.foldTranscript folded
  · exact landing.foldRun folded
  · rw [added]
    exact landing.pushed _ rfl splice.facts

variable [CharacterClasses]

/-- One replay line keeps the landing. -/
theorem admitReplayLine (landing : Landing original start next splice) (networkId : String)
    (line : ReplayLine) :
    Landing original start next (admitReplayLine splice networkId line).1 := by
  unfold Reducer.admitReplayLine
  split
  · exact landing
  · split
    · exact landing
    · split
      · exact (landing.know line.msgid).admitMembershipReplay (membershipOf line)
      · split
        · exact landing
        · exact (landing.know line.msgid).pushed _ (know_nextSequence ..).symm _

end Landing

section Spoken

variable {splice : Splice Disk}

/-- The chat rows of the transcript are those it started with. -/
theorem Landing.spoken {original : List Message} {start : Nat} {next : Int}
    (landing : Landing original start next splice) :
    splice.conv.messages.filter Reducer.spoken = original.filter Reducer.spoken := by
  obtain ⟨top, gone, bottom, shown, whole, _, captions, refolded, rows, _⟩ := landing.parts
  have quiet : gone.filter Reducer.spoken = [] :=
    List.filter_eq_nil_iff.mpr fun row listed => by
      rw [spoken_caption (captions row listed)]
      exact nofun
  rw [rows, whole, List.filter_append, List.filter_append, List.filter_append, refolded.spoken,
    quiet, List.append_nil]

/-- A membership line changes no chat row of the run. -/
theorem admitMembershipReplay_spoken (splice : Splice Disk) (line : ReplayMembership) :
    (admitMembershipReplay splice line).1.run.filter Reducer.spoken =
      splice.run.filter Reducer.spoken := by
  rcases admitMembershipReplay_cases splice line with hidden | folded | folded | ⟨showEach, added⟩
  · rw [hidden]
  · obtain ⟨_, _, _, _, ⟨_, _, same⟩ | ⟨_, same⟩⟩ := foldTranscript_cases folded
    · rw [same]
    · rw [same]
  · obtain ⟨before, row, whole, ⟨rewritten, joined, same⟩ | ⟨gone, same⟩⟩ := foldRun_cases folded
    · obtain ⟨event, collapsible, text⟩ := foldInto_cases joined
      have caption : IsCaption row := ⟨event, collapsible⟩
      have still : IsCaption rewritten := by
        rw [text]
        exact caption
      rw [same, whole, List.filter_append, List.filter_append, List.filter_singleton,
        List.filter_singleton, spoken_caption caption, spoken_caption still]
      rfl
    · rw [same, whole, List.filter_append, List.filter_singleton,
        spoken_caption (foldInto_dropped gone)]
      exact (List.append_nil _).symm
  · rw [added]
    unfold Splice.addMembership
    dsimp only
    rw [List.filter_append, List.filter_singleton]
    exact List.append_nil _

end Spoken

section Scan

variable [CharacterClasses]

/-- The row a chat line would be, as far as other lines are compared with it. -/
def lineRow (line : ReplayLine) : Message :=
  { kind := chatKind line.kind, author := line.author, body := line.body, time := line.timestamp
    msgid := line.msgid }

/-- Whether a chat line contributes a row at its turn: its msgid is not known, no channel
claims it, and neither a row there was nor a line that contributed before is the same
line. -/
def Contributes (splice : Splice Disk) (networkId : String) (original : List Message)
    (earlier : List ReplayLine) (line : ReplayLine) : Prop :=
  line.kind ≠ .event ∧
  ¬(line.msgid ≠ "" ∧ line.msgid ∈ splice.conv.messageIds) ∧
  splice.facts.channelContextBlocksDm splice.conv.key splice.conv.isChannel line.msgid = false ∧
  (∀ row ∈ original, showsReplayLine line (chatKind line.kind)
    (splice.facts.caseMapping networkId) row = false) ∧
  ∀ before ∈ earlier, showsReplayLine line (chatKind line.kind)
    (splice.facts.caseMapping networkId) (lineRow before) = false

instance (splice : Splice Disk) (networkId : String) (original : List Message)
    (earlier : List ReplayLine) (line : ReplayLine) :
    Decidable (Contributes splice networkId original earlier line) :=
  inferInstanceAs (Decidable (_ ∧ _))

/-- The chat lines of a batch that contribute a row, by a scan that keeps what the splice
knows at each turn. -/
def contributed (networkId : String) (original : List Message) :
    Splice Disk → List ReplayLine → List ReplayLine → List ReplayLine
  | _, _, [] => []
  | splice, earlier, line :: rest =>
      if Contributes splice networkId original earlier line then
        line :: contributed networkId original (admitReplayLine splice networkId line).1
          (earlier ++ [line]) rest
      else contributed networkId original (admitReplayLine splice networkId line).1 earlier rest

omit [CharacterClasses] in
/-- A row that is no chat row shows no line. -/
theorem showsReplayLine_quiet {line : ReplayLine} {mapping : IrcCaseMapping} {row : Message}
    (quiet : spoken row = false) :
    showsReplayLine line (chatKind line.kind) mapping row = false := by
  refine showsReplayLine_other (.inl ?_)
  unfold spoken at quiet
  rw [of_decide_eq_false quiet |> not_not.mp]
  unfold chatKind
  split
  · exact nofun
  · exact nofun

omit [CharacterClasses] in
/-- A row shows a line as the line it carries does. -/
theorem Carries.shows {row : Message} {before line : ReplayLine} (carries : Carries row before)
    (kind : MessageKind) (mapping : IrcCaseMapping) :
    showsReplayLine line kind mapping row = showsReplayLine line kind mapping (lineRow before) := by
  unfold showsReplayLine sameReplayLine lineRow
  rw [carries.kind, carries.body, carries.author, carries.time, carries.msgid]

omit [CharacterClasses] in
/-- No row of a splice shows a line when no row there was and no line that contributed is
the same line. -/
theorem unseen_iff {splice : Splice Disk} {original : List Message} {start : Nat} {next : Int}
    (landing : Landing original start next splice) {earlier : List ReplayLine}
    (carried : List.Forall₂ Carries (splice.run.filter spoken) earlier) (line : ReplayLine)
    (mapping : IrcCaseMapping) :
    (∀ row ∈ splice.rows, showsReplayLine line (chatKind line.kind) mapping row = false) ↔
      (∀ row ∈ original, showsReplayLine line (chatKind line.kind) mapping row = false) ∧
      ∀ before ∈ earlier,
        showsReplayLine line (chatKind line.kind) mapping (lineRow before) = false := by
  have filtered : ∀ rows : List Message,
      (∀ row ∈ rows, showsReplayLine line (chatKind line.kind) mapping row = false) ↔
        ∀ row ∈ rows.filter spoken, showsReplayLine line (chatKind line.kind) mapping row = false := by
    intro rows
    refine ⟨fun unseen row listed => unseen row (List.mem_of_mem_filter listed), ?_⟩
    intro unseen row listed
    cases heard : spoken row with
    | false => exact showsReplayLine_quiet heard
    | true => exact unseen row (List.mem_filter.mpr ⟨listed, heard⟩)
  have lines : (∀ row ∈ splice.run.filter spoken,
      showsReplayLine line (chatKind line.kind) mapping row = false) ↔
        ∀ before ∈ earlier,
          showsReplayLine line (chatKind line.kind) mapping (lineRow before) = false := by
    generalize splice.run.filter spoken = rows at carried
    induction carried with
    | nil => simp
    | cons carries rest inductionHypothesis =>
        rw [List.forall_mem_cons, List.forall_mem_cons, inductionHypothesis, carries.shows]
  unfold Splice.rows
  rw [List.forall_mem_append, filtered splice.conv.messages, landing.spoken, ← filtered original,
    filtered splice.run, lines]

/-- At its turn a chat line joins the run exactly when it contributes, and every other line
leaves the chat rows of the run alone. -/
theorem admitReplayLine_carried {splice : Splice Disk} {original : List Message} {start : Nat}
    {next : Int} (landing : Landing original start next splice) {earlier : List ReplayLine}
    (carried : List.Forall₂ Carries (splice.run.filter spoken) earlier) (networkId : String)
    (line : ReplayLine) :
    List.Forall₂ Carries ((admitReplayLine splice networkId line).1.run.filter spoken)
      (if Contributes splice networkId original earlier line then earlier ++ [line]
        else earlier) := by
  unfold admitReplayLine
  split
  · rename_i known
    rw [if_neg fun contributes => contributes.2.1 known]
    exact carried
  · rename_i unknown
    split
    · rename_i blocked
      rw [if_neg fun contributes => Bool.false_ne_true (contributes.2.2.1.symm.trans blocked)]
      exact carried
    · rename_i open_
      split
      · rename_i event
        rw [if_neg fun contributes => contributes.1 event]
        dsimp only
        rw [admitMembershipReplay_spoken]
        exact carried
      · rename_i chat
        have seen := unseen_iff landing carried line (splice.facts.caseMapping networkId)
        split
        · rename_i sequence matched
          rw [if_neg ?_]
          · exact carried
          · intro contributes
            have unseen := seen.mpr contributes.2.2.2
            unfold matchedSequence at matched
            rw [List.find?_eq_none.mpr fun row listed =>
              Bool.eq_false_iff.mp (unseen row listed)] at matched
            cases matched
        · rename_i unmatched
          rw [if_pos ?_]
          · have row : Carries (chatRow splice networkId line) line :=
              ⟨rfl, rfl, rfl, rfl, rfl, rfl, rfl⟩
            have heard : spoken (chatRow splice networkId line) = true := by
              unfold spoken chatRow chatKind
              dsimp only
              split
              · rfl
              · rfl
            have run : (splice.addChat networkId line).run.filter spoken =
                splice.run.filter spoken ++ [chatRow splice networkId line] := by
              unfold Splice.addChat Splice.know
              dsimp only
              rw [List.filter_append, List.filter_singleton, heard]
              rfl
            rw [run]
            exact List.rel_append carried (.cons row .nil)
          · refine ⟨chat, unknown, Bool.eq_false_of_not_eq_true open_, seen.mp ?_⟩
            unfold matchedSequence at unmatched
            rw [Option.map_eq_none_iff, List.find?_eq_none] at unmatched
            exact fun row listed => Bool.eq_false_iff.mpr (unmatched row listed)

/-- After the lines of a batch, the chat rows of the run are those of the lines that
contribute, in their order. -/
theorem admitReplayLines_carried {splice : Splice Disk} {original : List Message} {start : Nat}
    {next : Int} (landing : Landing original start next splice) {earlier : List ReplayLine}
    (carried : List.Forall₂ Carries (splice.run.filter spoken) earlier) (networkId : String)
    (lines : List ReplayLine) (notes : List PendingNote) :
    Landing original start next (lines.foldl (fun state line =>
      let (splice, outcome) := admitReplayLine state.1 networkId line
      (splice, notesAfter state.2 line outcome)) (splice, notes)).1 ∧
    List.Forall₂ Carries ((lines.foldl (fun state line =>
      let (splice, outcome) := admitReplayLine state.1 networkId line
      (splice, notesAfter state.2 line outcome)) (splice, notes)).1.run.filter spoken)
      (earlier ++ contributed networkId original splice earlier lines) := by
  induction lines generalizing splice earlier notes with
  | nil =>
      rw [contributed, List.append_nil]
      exact ⟨landing, carried⟩
  | cons line rest inductionHypothesis =>
      have after := landing.admitReplayLine networkId line
      have step := admitReplayLine_carried landing carried networkId line
      rw [List.foldl_cons, contributed]
      by_cases contributes : Contributes splice networkId original earlier line
      · rw [if_pos contributes] at step ⊢
        have tail := inductionHypothesis after step
          (notesAfter notes line (admitReplayLine splice networkId line).2)
        rw [List.append_assoc] at tail
        exact tail
      · rw [if_neg contributes] at step ⊢
        exact inductionHypothesis after step
          (notesAfter notes line (admitReplayLine splice networkId line).2)

variable [Storage Disk]

omit [CharacterClasses] [Storage Disk] in
/-- A splice starts inside the transcript. -/
theorem spliceStart_inside {conv started : ConversationState} {event : HistoryEvent}
    {anchorUse : AnchorUse} {start : Nat}
    (starts : spliceStart conv event anchorUse = (started, some start)) :
    started = conv ∧ start ≤ conv.messages.length := by
  have indexed : ∀ {anchor : Int} {index : Nat}, spliceIndex conv anchor = some index →
      index ≤ conv.messages.length := by
    intro anchor index found
    unfold spliceIndex at found
    dsimp only at found
    split at found
    · cases found
    · cases found
      omega
  unfold spliceStart takeSpliceIndex peekSpliceIndex at starts
  split at starts
  · split at starts
    · cases starts
      exact ⟨rfl, Nat.zero_le _⟩
    · split at starts
      · cases starts
        exact ⟨rfl, le_rfl⟩
      · split at starts
        · cases starts
        · split at starts
          · cases starts
          · rename_i found
            cases starts
            exact ⟨rfl, indexed found⟩
  · rw [Prod.mk.injEq] at starts
    obtain ⟨same, there⟩ := starts
    refine ⟨same.symm, ?_⟩
    split at there
    · cases there
      exact le_rfl
    · split at there
      · split at there
        · cases there
          exact le_rfl
        · cases there
      · exact indexed there

omit [CharacterClasses] in
/-- A run that fits is put in place with nothing trimmed. -/
theorem placed_fits (splice : Splice Disk) (event : HistoryEvent) (previousSize : Nat)
    (fits : splice.rows.length ≤ maxMessages) :
    ∃ spliceEpoch historyPageCapTail, splice.placed event previousSize =
      (splice.logged, { splice.landed with spliceEpoch, historyPageCapTail }) := by
  have size : splice.landed.messages.length ≤ maxMessages := by
    change splice.inserted.messages.length ≤ _
    unfold Splice.rows at fits
    unfold Splice.inserted
    rw [List.length_append] at fits
    rw [List.length_append, List.length_append, List.length_take, List.length_drop]
    omega
  obtain ⟨spliceEpoch, ⟨_, same⟩ | ⟨_, _, same⟩⟩ := placed_cases splice event previousSize
  · refine ⟨spliceEpoch, splice.landed.historyPageCapTail, ?_⟩
    rw [same]
    unfold capMessages capWithPolicy
    rw [if_pos size]
  · refine ⟨spliceEpoch, false, ?_⟩
    rw [same]
    unfold capMessagesPreferTail capWithPolicy
    rw [if_pos size]

omit [CharacterClasses] [Storage Disk] in
/-- An empty run lands as nothing. -/
theorem landed_empty {splice : Splice Disk} (empty : splice.run = []) :
    splice.landed = splice.conv := by
  have inserted : splice.inserted = splice.conv := by
    unfold Splice.inserted
    dsimp only
    rw [empty, List.append_nil, List.take_append_drop]
  have still : ∀ channel : ChannelState,
      { channel with historyAnchor := channel.historyAnchor.map fun anchor =>
          ({ sequence := anchor.sequence + (([] : List Message).length : Int) } :
            TranscriptAnchor) } = channel := by
    intro channel
    cases named : channel.historyAnchor with
    | none => cases channel; cases named; rfl
    | some anchor => cases channel; cases named; simp
  unfold Splice.landed ConversationState.moveAnchor ConversationState.onChannel
  rw [inserted, empty, funext still, Option.map_id']

/-- What a splice leaves when the rows fit: the run stands at the splice point, and nothing
but the counts and the paging differ. -/
theorem spliceHistory_landed {facts : Facts Disk} {conv : ConversationState}
    {event : HistoryEvent} {anchorUse : AnchorUse} {start : Nat}
    (starts : spliceStart conv event anchorUse = (conv, some start)) {last : Splice Disk}
    (lines : (admitReplayLines event.conversation.networkId { facts, conv, at_ := start }
      event.lines).1 = last)
    (fits : last.rows.length ≤ maxMessages) :
    ∃ unread mentions unreadMark spliceEpoch historyPageCapTail,
      (spliceHistory facts conv event anchorUse).2 =
        { last.landed with unread, mentions, unreadMark, spliceEpoch, historyPageCapTail } := by
  unfold spliceHistory
  rw [starts]
  dsimp only
  rw [lines]
  split
  · rename_i empty
    obtain ⟨_, same⟩ := disarmTailCap_cases last.conv event
    rw [same, landed_empty empty]
    exact ⟨_, _, _, _, _, rfl⟩
  · obtain ⟨_, _, placed⟩ := placed_fits { last with
      facts := rememberQuery last.facts last.conv event } event conv.messages.length fits
    rw [placed]
    obtain ⟨_, _, _, same⟩ := noteRun_cases event last.run
      (Splice.logged { last with facts := rememberQuery last.facts last.conv event })
      { Splice.landed { last with facts := rememberQuery last.facts last.conv event } with
        spliceEpoch := _, historyPageCapTail := _ }
    rw [same]
    exact ⟨_, _, _, _, _, rfl⟩

/-- The transcript and the msgids a splice leaves when the rows fit. -/
theorem spliceHistory_fits {facts : Facts Disk} {conv : ConversationState}
    {event : HistoryEvent} {anchorUse : AnchorUse} {start : Nat}
    (starts : spliceStart conv event anchorUse = (conv, some start)) {last : Splice Disk}
    (lines : (admitReplayLines event.conversation.networkId { facts, conv, at_ := start }
      event.lines).1 = last)
    (fits : last.rows.length ≤ maxMessages) :
    (spliceHistory facts conv event anchorUse).2.messages = last.inserted.messages ∧
      (spliceHistory facts conv event anchorUse).2.messageIds = last.conv.messageIds := by
  obtain ⟨_, _, _, _, _, landed⟩ := spliceHistory_landed starts lines fits
  rw [landed]
  exact ⟨rfl, rfl⟩

end Scan

section Witness

local instance placementPlatform : Platform := Session.reference
local instance placementClasses : CharacterClasses := asciiClasses
local instance placementStorage : Storage Memory := memory

/-- A direct conversation that ends with a caption. -/
def departedPeer : ConversationState :=
  { key := { networkId := "net", normalizedTarget := "bob" }, target := "bob"
    messages := [
      { kind := .message, author := "bob", body := "hi", time := 10 ^ 9, msgid := "a" },
      { kind := .event, body := "bob quit", msgid := "b", collapsible := true, sequence := 1 }]
    messageIds := {"a", "b"}
    nextSequence := 2 }

/-- The peer comes back, repeats a line and adds one. -/
def returnPage : HistoryEvent :=
  { conversation := departedPeer.key, target := "bob"
    lines := [{ body := "bob joined", timestamp := 2 * 10 ^ 9, kind := .event, msgid := "c" },
      { author := "bob", body := "hi", timestamp := 10 ^ 9, msgid := "a" },
      { author := "bob", body := "back", timestamp := 3 * 10 ^ 9, msgid := "d" }] }

/-- A peer writes, the user clears the conversation, and the line is replayed. -/
def clearedCalls : List (Call Memory) :=
  [eventAt (.welcome "net" "me"), eventAt (.message (chatLine "net" "bob" "bob" "hi" "a")),
    .clearMessages { networkId := "net", normalizedTarget := "bob" }]

/-- The page that repeats the line. -/
def clearedPage : HistoryEvent :=
  { conversation := { networkId := "net", normalizedTarget := "bob" }, target := "bob"
    lines := [{ author := "bob", body := "hi", timestamp := 10 ^ 9, msgid := "a" }] }

end Witness

end Omairc.Irc.Reducer

import Mathlib.Logic.Relation
import Omairc.Irc.Reducer.Badges

/-!
# The moves of the reducer

What a call can do to one conversation is a chain of touches, and what it can do to the
store is a chain of moves. Each fold of the reducer is taken apart into them once, so
that an invariant is proved of the moves alone.
-/

namespace Omairc.Irc.Reducer

open Omairc.Text

variable {Disk : Type}

/-- The moves that reach past one transcript. -/
inductive Act
  | removes (key : ConversationKey)
  | forgets (networkId : String)
  | renames (oldKey newKey : ConversationKey)
  | advertises (networkId : String) (features : Isupport)
  | mutes (key : ConversationKey) (muted : Bool)
  | selects (selected : Option ConversationKey)

/-- Which batches may be spliced, which chat rows may be added, which renamed conversations
may be moved to their new key, which conversations may be opened, which channels may be
anchored, and which moves may reach past one transcript. -/
structure Rules (Disk : Type) where
  splices : Facts Disk → ConversationState → HistoryEvent → AnchorUse → Prop :=
    fun _ _ _ _ => True
  lands : ConversationState → Message → Prop := fun _ _ => True
  moves : Facts Disk → ConversationKey → ConversationKey → Option ConversationState →
    ConversationState → Prop := fun _ _ _ _ _ => True
  opens : IrcCaseMapping → ConversationKey → String → Prop := fun _ _ _ => True
  anchors : ConversationKey → Prop := fun _ => True
  permits : Act → Prop := fun _ => True

/-- Of the batches, rows and renamed conversations, only a page of a conversation is ever
refused. -/
structure Rules.Lenient (rules : Rules Disk) : Prop where
  splices : ∀ facts conv event anchorUse, event.kind ≠ .chat →
    rules.splices facts conv event anchorUse
  lands : ∀ conv row, rules.lands conv row
  moves : ∀ facts oldKey newKey existing moved, rules.moves facts oldKey newKey existing moved

/-- The members of a changed channel are old ones, or are entered under the folded
spelling of their nicks. -/
def Rostered (facts : Facts Disk) (networkId : String) (members changed : StringMap MemberState) :
    Prop :=
  ∀ (nick : String) (member : MemberState), changed[nick]? = some member →
    (∃ before, members[nick]? = some before ∧ before.displayNick = member.displayNick) ∨
      facts.normalize networkId member.displayNick = nick

/-- The transcript emptied, with its msgids kept. -/
def ConversationState.cleared (conv : ConversationState) : ConversationState :=
  ConversationState.dropAnchor
    { conv with
      trimmed := conv.trimmed + conv.messages.length
      messages := []
      spliceEpoch := conv.spliceEpoch + 1 }

/-- The anchor of the user's own join, at the end of the transcript. -/
def ConversationState.anchored (conv : ConversationState) : ConversationState :=
  conv.onChannel fun channel =>
    { channel with historyAnchor := some { sequence := conv.trimmed + conv.messages.length } }

/-- What a call can do to one conversation at a time. -/
inductive Touch [CharacterClasses] [Storage Disk] (rules : Rules Disk) (facts : Facts Disk)
    (conv : ConversationState) : ConversationState → Prop
  | counted (typing : StringMap TypingHint) (unread mentions : Nat) (unreadMark : Option Int)
      (readMarker : Option Instant) (historyPageCapTail : Bool)
      (badged : conv.Badged → ({ conv with
        typing, unread, mentions, unreadMark, readMarker, historyPageCapTail
        } : ConversationState).Badged) :
      Touch rules facts conv
        { conv with typing, unread, mentions, unreadMark, readMarker, historyPageCapTail }
  | flagged (mentioned : Message → Bool) :
      Touch rules facts conv
        { conv with
          messages := conv.messages.map fun message =>
            { message with mentioned := mentioned message } }
  | roster (change : ChannelState → ChannelState)
      (kept : ∀ channel, conv.channel = some channel →
        (change channel).historyAnchor = channel.historyAnchor ∧
          Rostered facts conv.key.networkId channel.members (change channel).members) :
      Touch rules facts conv (conv.onChannel change)
  | unanchored : Touch rules facts conv conv.dropAnchor
  | anchored (permitted : rules.anchors conv.key) : Touch rules facts conv conv.anchored
  | admitted (row : Message) (fresh : row.msgid ≠ "" → row.msgid ∉ conv.messageIds)
      (permitted : MessageKind.counted row.kind = true → rules.lands conv row) :
      Touch rules facts conv (capMessages facts (admitMessage (conv.know row.msgid) row)).2
  | rewritten (last : Message) (body : String) (newest : conv.messages.getLast? = some last) :
      Touch rules facts conv
        { conv with messages := conv.messages.dropLast ++ [{ last with body }] }
  | dropped (caption : ∀ last, conv.messages.getLast? = some last → last.kind = .event) :
      Touch rules facts conv (dropLastTranscriptRow facts conv).2
  | spliced (event : HistoryEvent) (anchorUse : AnchorUse)
      (permitted : rules.splices facts conv event anchorUse)
      (consumed : event.kind = .chat → anchorUse = .consume) :
      Touch rules facts conv (spliceHistory facts conv event anchorUse).2
  | cleared : Touch rules facts conv conv.cleared
  | retargeted (target : String)
      (named : rules.opens (facts.caseMapping conv.key.networkId) conv.key target) :
      Touch rules facts conv { conv with target }

section Chains

variable [CharacterClasses] [Storage Disk] {rules : Rules Disk}

/-- A chain of touches of one conversation, with the facts they go with. -/
inductive Touches (rules : Rules Disk) (facts : Facts Disk) (conv : ConversationState) :
    Facts Disk → ConversationState → Prop
  | refl : Touches rules facts conv facts conv
  | framed {middle changed : Facts Disk} {touched : ConversationState}
      (prior : Touches rules facts conv middle touched) (same : Framed middle changed) :
      Touches rules facts conv changed touched
  | touch {middle : Facts Disk} {touched next : ConversationState}
      (prior : Touches rules facts conv middle touched) (touch : Touch rules middle touched next) :
      Touches rules facts conv middle next

namespace Touches

variable {facts middle changed : Facts Disk} {conv touched next : ConversationState}

theorem trans (first : Touches rules facts conv middle touched)
    (second : Touches rules middle touched changed next) :
    Touches rules facts conv changed next := by
  induction second with
  | refl => exact first
  | framed prior same inductionHypothesis => exact .framed inductionHypothesis same
  | touch prior touch inductionHypothesis => exact .touch inductionHypothesis touch

theorem single (touch : Touch rules facts conv touched) : Touches rules facts conv facts touched :=
  .touch .refl touch

theorem of_framed (same : Framed facts changed) : Touches rules facts conv changed conv :=
  .framed .refl same

/-- Touches change no facts but the framed ones. -/
theorem facts_framed (touches : Touches rules facts conv changed next) :
    Framed facts changed := by
  induction touches with
  | refl => exact .refl _
  | framed prior same inductionHypothesis => exact inductionHypothesis.trans same
  | touch prior touch inductionHypothesis => exact inductionHypothesis

end Touches

/-- What a call can do to the store at a time. -/
inductive Move [Platform] (rules : Rules Disk) : EventReducer Disk → EventReducer Disk → Prop
  | facts {reducer : EventReducer Disk} {facts : Facts Disk}
      (framed : Framed reducer.facts facts) : Move rules reducer { reducer with facts }
  | hold {reducer : EventReducer Disk} (key : ConversationKey) (event : HistoryEvent)
      (replayed : event.kind ≠ .chat)
      (named : rules.opens (reducer.facts.caseMapping key.networkId) key event.target) :
      Move rules reducer
        { reducer with facts.pendingPlayback := reducer.facts.pendingPlayback.insert key event }
  | touch {reducer : EventReducer Disk} {key : ConversationKey} {conv touched : ConversationState}
      {facts : Facts Disk} (found : reducer.conversations[key]? = some conv)
      (touches : Touches rules reducer.facts conv facts touched) :
      Move rules reducer { facts, conversations := reducer.conversations.insert key touched }
  | create {reducer : EventReducer Disk} {key : ConversationKey} (displayTarget : String)
      (missing : reducer.conversations[key]? = none)
      (named : rules.opens (reducer.facts.caseMapping key.networkId) key displayTarget) :
      Move rules reducer
        { facts :=
            (hydrateFromLog reducer.facts (freshConversation reducer.facts key displayTarget)).1
          conversations := reducer.conversations.insert key
            (hydrateFromLog reducer.facts (freshConversation reducer.facts key displayTarget)).2 }
  | remove {reducer : EventReducer Disk} (key : ConversationKey)
      (permitted : rules.permits (.removes key)) :
      Move rules reducer (reducer.removeConversation key)
  | forget {reducer : EventReducer Disk} (networkId : String)
      (permitted : rules.permits (.forgets networkId)) :
      Move rules reducer (reducer.forgetNetwork networkId)
  | rename {reducer : EventReducer Disk} {oldKey : ConversationKey} {conv : ConversationState}
      (newNick caption : String) (found : reducer.conversations[oldKey]? = some conv)
      (direct : conv.isChannel = false)
      (differs : oldKey ≠ reducer.conversationKey oldKey.networkId newNick)
      (permitted :
        rules.permits (.renames oldKey (reducer.conversationKey oldKey.networkId newNick)))
      (moves : rules.moves reducer.facts oldKey
        (reducer.conversationKey oldKey.networkId newNick)
        reducer.conversations[reducer.conversationKey oldKey.networkId newNick]?
        (appendEvent reducer.facts { conv with target := newNick } caption true true).2) :
      Move rules reducer
        ((reducer.onConversation oldKey fun facts conv =>
          appendEvent facts { conv with target := newNick } caption true true).moveDirect oldKey
            (reducer.conversationKey oldKey.networkId newNick) newNick)
  | features {reducer : EventReducer Disk} (networkId : String) (features : Isupport)
      (permitted : rules.permits (.advertises networkId features)) :
      Move rules reducer
        { reducer with
          facts.features := Function.update reducer.facts.features networkId (some features) }
  | mute {reducer : EventReducer Disk} (key : ConversationKey) (muted : Bool)
      (permitted : rules.permits (.mutes key muted)) :
      Move rules reducer (reducer.setMuted key muted)
  | select {reducer : EventReducer Disk} (selected : Option ConversationKey)
      (permitted : rules.permits (.selects selected)) :
      Move rules reducer { reducer with facts.selected := selected }

/-- A chain of moves. -/
abbrev Chain [Platform] (rules : Rules Disk) : EventReducer Disk → EventReducer Disk → Prop :=
  Relation.ReflTransGen (Move rules)

end Chains

section Conversations

variable [CharacterClasses] [Storage Disk] (rules : Rules Disk) (facts : Facts Disk)
  (conv : ConversationState)

omit [CharacterClasses] [Storage Disk] in
/-- Forgetting rows treats the conversation the same way whatever the facts are. -/
theorem forgetRows_conv (changed : Facts Disk) (rows : List Message) :
    (forgetRows changed conv rows).2 = (forgetRows facts conv rows).2 := by
  unfold forgetRows
  induction rows generalizing facts changed conv with
  | nil => rfl
  | cons row rest inductionHypothesis =>
      rw [List.foldl_cons, List.foldl_cons]
      have same : (forgetTranscriptMsgid changed conv row.msgid).2 =
          (forgetTranscriptMsgid facts conv row.msgid).2 := by
        unfold forgetTranscriptMsgid
        split
        · rfl
        · rfl
      have reached : forgetTranscriptMsgid facts conv row.msgid =
          ((forgetTranscriptMsgid facts conv row.msgid).1,
            (forgetTranscriptMsgid changed conv row.msgid).2) := by rw [same]
      dsimp only
      rw [reached]
      exact inductionHypothesis _ _ _

omit [CharacterClasses] [Storage Disk] in
/-- The cap treats the conversation the same way whatever the facts are. -/
theorem capMessages_conv (changed : Facts Disk) :
    (capMessages changed conv).2 = (capMessages facts conv).2 := by
  unfold capMessages capWithPolicy
  split
  · rfl
  · rw [if_pos rfl, if_pos rfl]
    dsimp only
    rw [forgetRows_conv facts conv changed]
    split
    · rfl
    · rfl

/-- Admitting a fresh row is a touch. -/
theorem admitLogged_touches (row : Message)
    (fresh : row.msgid ≠ "" → row.msgid ∉ conv.messageIds)
    (permitted : MessageKind.counted row.kind = true → rules.lands conv row) :
    Touches rules facts conv (admitLogged facts (conv.know row.msgid) row).1
      (admitLogged facts (conv.know row.msgid) row).2 := by
  refine .framed ?_ (admitLogged_framed facts (conv.know row.msgid) row)
  have touch : Touch rules facts conv
      (capMessages facts (admitMessage (conv.know row.msgid) row)).2 := .admitted row fresh permitted
  rw [capMessages_conv (persistMessage facts (conv.know row.msgid)
    { row with sequence := (conv.know row.msgid).nextSequence })] at touch
  exact .single touch

/-- An event row is a chain of touches. -/
theorem appendEvent_touches (body : String) (collapsible membership : Bool) :
    Touches rules facts conv (appendEvent facts conv body collapsible membership).1
      (appendEvent facts conv body collapsible membership).2 := by
  rcases appendEvent_cases facts conv body collapsible membership with
    same | ⟨shown, same⟩ | ⟨last, text, newest, same⟩ | ⟨caption, same⟩
  · rw [same]
    exact .refl
  · rw [same]
    exact admitLogged_touches rules facts conv { kind := .event, body, collapsible := shown }
      (fun named => absurd rfl named) fun chat => by cases chat
  · rw [same]
    exact .single (.rewritten last text newest)
  · rw [same]
    exact .framed (.single (.dropped caption)) (dropLastTranscriptRow_framed ..)

/-- A plain row is a chain of touches. -/
theorem appendPlain_touches (kind : MessageKind) (plain : MessageKind.counted kind = false)
    (body : String) :
    Touches rules facts conv (appendPlain facts conv kind body).1
      (appendPlain facts conv kind body).2 :=
  .framed (.single (.admitted { kind, body } (fun named => absurd rfl named)
    fun chat => absurd (plain.symm.trans chat) Bool.false_ne_true)) (capWithPolicy_framed ..)

/-- The accounting of a row that arrived is a touch. -/
theorem noteChatArrival_touches (key : ConversationKey) (arrival : ChatArrival)
    (issued : conv.Badged → conv.Issued arrival.sequence) :
    Touches rules facts conv (noteChatArrival facts conv key arrival).1
      (noteChatArrival facts conv key arrival).2 := by
  refine .framed ?_ (noteChatArrival_framed ..)
  have keeps := fun badged : conv.Badged => badged.noteChatArrival facts key (issued badged)
  obtain ⟨unread, mentions, unreadMark, same⟩ := noteChatArrival_cases facts conv key arrival
  rw [same] at keeps ⊢
  exact .single (.counted conv.typing unread mentions unreadMark conv.readMarker
    conv.historyPageCapTail keeps)

/-- A splice is a touch. -/
theorem spliceHistory_touches (event : HistoryEvent) (anchorUse : AnchorUse)
    (permitted : rules.splices facts conv event anchorUse)
    (consumed : event.kind = .chat → anchorUse = .consume) :
    Touches rules facts conv (spliceHistory facts conv event anchorUse).1
      (spliceHistory facts conv event anchorUse).2 :=
  .framed (.single (.spliced event anchorUse permitted consumed)) (spliceHistory_framed ..)

variable {facts conv} in
/-- Changing the typing hints is a touch. -/
theorem typing_touches (typing : StringMap TypingHint) :
    Touches rules facts conv facts { conv with typing } :=
  .single (.counted typing conv.unread conv.mentions conv.unreadMark conv.readMarker
    conv.historyPageCapTail fun badged => badged.recast)

variable {facts conv} in
/-- Disarming the tail cap is a touch. -/
theorem capTail_touches (historyPageCapTail : Bool) :
    Touches rules facts conv facts { conv with historyPageCapTail } :=
  .single (.counted conv.typing conv.unread conv.mentions conv.unreadMark conv.readMarker
    historyPageCapTail fun badged => badged.recast)

omit [CharacterClasses] [Storage Disk] in
/-- Two changes of the channel half are one. -/
theorem onChannel_onChannel (first second : ChannelState → ChannelState) :
    (conv.onChannel first).onChannel second = conv.onChannel fun channel =>
      second (first channel) := by
  unfold ConversationState.onChannel
  dsimp only
  rw [Option.map_map]
  rfl

omit [CharacterClasses] [Storage Disk] in
/-- Emptying the members lists no one. -/
theorem rostered_empty (networkId : String) (members : StringMap MemberState) :
    Rostered facts networkId members ∅ := by
  intro nick member found
  rw [Std.TreeMap.getElem?_emptyc] at found
  cases found

omit [CharacterClasses] [Storage Disk] in
/-- Keeping members lists no one new. -/
theorem rostered_refl (networkId : String) (members : StringMap MemberState) :
    Rostered facts networkId members members :=
  fun _ member found => .inl ⟨member, found, rfl⟩

omit [CharacterClasses] [Storage Disk] in
/-- Erasing a member lists no one new. -/
theorem rostered_erase (networkId : String) (members : StringMap MemberState) (gone : String) :
    Rostered facts networkId members (members.erase gone) := by
  intro nick member found
  rw [Std.TreeMap.getElem?_erase] at found
  split at found
  · cases found
  · exact .inl ⟨member, found, rfl⟩

omit [CharacterClasses] [Storage Disk] in
variable {facts} in
/-- Entering a member under the folded nick keeps the members well listed. -/
theorem Rostered.insert {networkId : String} {members changed : StringMap MemberState}
    (rostered : Rostered facts networkId members changed) {nick : String} {member : MemberState}
    (named : facts.normalize networkId member.displayNick = nick) :
    Rostered facts networkId members (changed.insert nick member) := by
  intro other entered found
  rw [Std.TreeMap.getElem?_insert] at found
  split at found
  · rename_i same
    cases found
    rw [Std.LawfulEqCmp.eq_of_compare same] at named
    exact .inr named
  · exact rostered other entered found

/-- Leaving a channel is a chain of touches. -/
theorem leftState_touches : Touches rules facts conv facts (leftState conv) := by
  have emptied : Touch rules facts conv.dropAnchor (conv.dropAnchor.onChannel fun channel =>
      { channel with
        joined := false, members := ∅, namesSyncing := false, namesSyncStarted := none }) :=
    .roster _ fun channel _ => ⟨rfl, rostered_empty facts _ _⟩
  rw [ConversationState.dropAnchor, onChannel_onChannel] at emptied
  exact (Touches.touch (.single .unanchored) emptied).trans (capTail_touches rules false)

/-- The departure of a member is a chain of touches. -/
theorem departMember_touches (normalized : String) (own : Bool) :
    Touches rules facts conv facts (departMember conv normalized own) := by
  have erased : Touches rules facts conv facts (conv.onChannel fun channel =>
      { channel with members := channel.members.erase normalized }) :=
    .single (.roster _ fun channel _ => ⟨rfl, rostered_erase facts _ _ _⟩)
  unfold departMember
  cases own with
  | false => exact erased
  | true => exact erased.trans (leftState_touches ..)

end Conversations

end Omairc.Irc.Reducer

import Omairc.Controller.Paths
import Omairc.Controller.Reference

/-!
# Keys and the case mapping over runs of the controller

A welcome starts the features of a network over and every ISUPPORT line adds to them, and
neither files again what is in use. As long as both fold the names in use the way the
mapping in force does, every conversation is found by its target.
-/

namespace Omairc

open Omairc.Irc Omairc.Irc.Reducer Omairc.Storage Omairc.Text

variable {Log : Type}

namespace Controller

/-- The tokens of an ISUPPORT line on top of the features in force. -/
def advertised (controller : Controller Log) (networkId : String) (message : IrcMessage) :
    Isupport :=
  ((message.params.drop 1).dropLast.map wireText).foldl Isupport.applyToken
    (controller.reducer.facts.isupport networkId)

/-- A step replaces the case mapping of a network only by one that folds the names in use
there alike. A welcome takes everybody off the channels and drops what is held, so the
targets of its conversations are in use and nothing else is. -/
def KeepsNames (controller : Controller Log) : Label → Prop
  | .deliver networkId (.registered _) _ =>
      TargetsUnmoved controller.reducer networkId ({} : Isupport).features.caseMapping
  | .deliver networkId (.isupport message) _ =>
      let mapping := (controller.advertised networkId message).features.caseMapping
      message.params.length ≤ 2 ∨
        TargetsUnmoved controller.reducer networkId mapping ∧
        HeldUnmoved controller.reducer networkId mapping ∧
        MembersUnmoved controller.reducer networkId mapping
  | _ => True

/-- The acts of a step that replaces no features and forgets no network. -/
def ordinary : Reducer.Act → Prop
  | .advertises _ _ | .forgets _ => False
  | _ => True

theorem ordinary_ordinary : Ordinary ordinary where
  settled _ _ := id
  keeps _ := id
  selects _ := trivial

/-- The sessions carry names, and every name the reducer files something under is the
folded spelling of what it shows. -/
structure Consistent (controller : Controller Log) : Prop where
  agrees : Agrees controller.reducer
  named : "" ∉ controller.sessions

section Steps

variable [Platform] [CharacterClasses] [TranscriptLog Log] {controller next : Controller Log}

/-- A path keeps the agreement. -/
theorem Path.agrees {after : Controller Log}
    (path : Path (fun _ => True) ordinary controller after) (agrees : Agrees controller.reducer) :
    Agrees after.reducer :=
  agrees.chain ordinary_ordinary.settled
    (path.chain agrees.toAddressed (.everywhere controller.reducer))

/-- One call of the reducer that replaces no features is a path. -/
theorem call_path {hosts : String → Prop} {permits : Reducer.Act → Prop} (call : Call (Stored Log))
    (follows : Follows (naming hosts permits) controller.reducer call) :
    Path hosts permits controller (controller.onReducer (·.perform call)) :=
  ⟨fun addressed hosted => perform_chain addressed.keyed (addressed.holds hosted) follows
    ((naming_lenient hosts permits).lands_call (addressed.holds hosted) fun _ _ _ _ _ _ => trivial)⟩

omit [Platform] [CharacterClasses] in
theorem dropping_ordinary (key : ConversationKey) : Dropping ordinary key := ⟨trivial, trivial⟩

/-- Every intent but forgetting a network and starting over is a path. -/
theorem intend_path {intent : Intent} (kept : ∀ networkId, intent ≠ .forgetNetwork networkId)
    (running : intent ≠ .restart) :
    Path (fun _ => True) ordinary controller (controller.intend intent) := by
  have all := ordinary_ordinary
  cases intent with
  | revealConversation networkId target => exact revealConversation_path all trivial target
  | selectConversation networkId target => exact select_path all networkId target
  | openStatus networkId =>
      rw [intend, openStatus]
      split
      · exact .refl _
      · exact .of_eq rfl
  | leaveStatus => exact .of_eq rfl
  | openDirect nick => exact openDirect_path all (fun _ _ => trivial) nick
  | query surface link nick text now =>
      exact dispatchQuery_path all (fun _ => trivial) (fun _ _ => trivial) link nick text now
  | closeSelected => exact closeSelected_path all fun key _ => dropping_ordinary key
  | closeConversation networkId target => exact closeConversation_path all (dropping_ordinary _)
  | joinChannel link networkId channel => exact joinChannel_path all link networkId channel
  | join surface link argument => exact dispatchJoin_path all link (fun _ => trivial) argument
  | part surface link channel => exact dispatchPart_path link _ channel
  | say link text now => exact sendSelected_path all (fun _ _ => trivial) link .say text now
  | action link text now => exact sendSelected_path all (fun _ _ => trivial) link .action text now
  | send link networkId target text kind now =>
      exact quietSend_path all (fun _ _ => trivial) link networkId target text kind now
  | mute networkId target muted => exact applyMute_path trivial
  | clear networkId target => exact call_path (.clearMessages _) trivial
  | markAllRead => exact call_path .markAllRead trivial
  | setWindowActive active =>
      have activated : Path (fun _ => True) ordinary controller
          (controller.onReducer (·.setWindowActive active)) :=
        call_path (.setWindowActive active) trivial
      rw [intend]
      cases selected : controller.selected with
      | none => exact activated
      | some key =>
          by_cases focused : active = true
          · simp only [if_pos focused]
            exact activated.trans all (call_path (.markRead key) trivial)
          · simp only [if_neg focused]
            exact activated
  | setMembershipNoise noise => exact call_path (.setMembershipNoise noise) trivial
  | setHighlightWords networkId words =>
      exact call_path (.setHighlightWords networkId words) trivial
  | setNetworkOrder order => exact .of_eq rfl
  | requestOlderHistory =>
      rw [intend]
      cases selected : controller.selected with
      | none => exact .refl _
      | some key => exact call_path (.markHistoryPageCapTail key) trivial
  | followEnd =>
      rw [intend]
      cases selected : controller.selected with
      | none => exact .refl _
      | some key => exact call_path (.clearHistoryPageCapTail key) trivial
  | restoreDirects networkId targets =>
      rw [intend]
      split
      · exact restoreOpenDirects_path all trivial targets
      · exact .refl _
  | createSession networkId words =>
      rw [intend, createSession]
      split
      · exact .refl _
      · exact (attachStoreHooks_path all (fun _ _ => trivial) words).since rfl
  | discardSession networkId => exact .of_eq rfl
  | restartDemo networkId words =>
      rw [intend, restartDemo, createSession]
      split
      · exact .of_eq rfl
      · exact (attachStoreHooks_path all (fun _ _ => trivial) words).since rfl
  | forgetNetwork networkId => exact absurd rfl (kept networkId)
  | restart => exact absurd rfl running

/-- A welcome whose reset folds the targets in use alike keeps the agreement. -/
theorem onRegistered_agrees (agrees : Agrees controller.reducer) {networkId : String}
    (named : networkId ≠ "")
    (unmoved : TargetsUnmoved controller.reducer networkId ({} : Isupport).features.caseMapping)
    (nick : String) (now : Instant) :
    Agrees (controller.onRegistered networkId nick now).reducer := by
  have welcomed := agrees.welcome named unmoved nick now
  unfold onRegistered
  generalize started : ({ controller with
    currentNicks := Function.update controller.currentNicks networkId (some nick)
    reducer := controller.reducer.setServerFeatures networkId {} } : Controller Log) = current
  have folded : Agrees (current.onReducer fun reducer =>
      reducer.apply (.welcome networkId nick) now).reducer := by
    rw [← started]
    exact welcomed
  exact (apply_folded_path ordinary_ordinary (.welcome networkId nick) now).agrees folded

/-- What was held is taken out and noted without new features. -/
theorem endMotd_agrees (agrees : Agrees controller.reducer) (networkId : String)
    (targets : Option (List String)) : Agrees (controller.endMotd networkId targets).reducer := by
  have all := ordinary_ordinary
  have settled : Agrees (controller.onReducer fun reducer =>
      let advertised := reducer.facts.isupport networkId
      if advertised.features.caseMappingKnown then reducer
      else
        reducer.setServerFeatures networkId
          { advertised with features := advertised.features.markCaseMappingKnown }).reducer := by
    unfold onReducer
    dsimp only
    split
    · exact agrees
    · -- The end of the MOTD names no mapping, so every name is folded as before.
      refine agrees.setServerFeatures ?_ ?_ ?_
      · exact fun _ _ _ _ => rfl
      · exact fun _ _ _ _ => rfl
      · exact fun _ _ _ _ _ _ _ _ _ => rfl
  unfold endMotd
  dsimp only at settled ⊢
  cases targets with
  | none => exact settled
  | some targets =>
      refine (releaseHeld_path all networkId).agrees (Path.agrees ?_ settled)
      exact restoreOpenDirects_path all trivial targets

/-- A delivery that keeps the names in use keeps the agreement. -/
theorem deliver_agrees (agrees : Agrees controller.reducer) {networkId : String}
    (named : networkId ≠ "") {delivery : Delivery} {now : Instant}
    (keeps : KeepsNames controller (.deliver networkId delivery now)) :
    Agrees (controller.deliver networkId now delivery).reducer := by
  have all := ordinary_ordinary
  cases delivery with
  | registered nick => exact onRegistered_agrees agrees named keeps nick now
  | isupport message =>
      rw [deliver, applyIsupport]
      split
      · exact agrees
      · rename_i long
        obtain ⟨targets, held, members⟩ := keeps.resolve_left long
        exact agrees.setServerFeatures targets held members
  | endMotd targets => exact endMotd_agrees agrees networkId targets
  | translated link event =>
      refine (handleEvent_path all link trivial ?_ (fun _ _ _ => dropping_ordinary _) now).agrees
        agrees
      cases event <;> first | exact trivial | exact fun _ _ _ _ => trivial
  | discovered name requested =>
      exact (noteDiscoveredTarget_path all trivial trivial requested).agrees agrees
  | emptyDirect target => exact (dropEmptyDirect_path trivial).agrees agrees
  | capabilities away metadata typing =>
      have presence : Path (fun _ => True) ordinary controller
          (controller.onReducer (·.clearPresenceFacts networkId away metadata)) :=
        call_path (.clearPresenceFacts networkId away metadata) trivial
      rw [deliver]
      by_cases cleared : away = true ∨ metadata = true
      · by_cases typed : typing = true
        · simp only [if_pos cleared, if_pos typed]
          exact (presence.trans all (call_path (.clearTypingFacts networkId) trivial)).agrees agrees
        · simp only [if_pos cleared, if_neg typed]
          exact presence.agrees agrees
      · by_cases typed : typing = true
        · simp only [if_neg cleared, if_pos typed]
          exact (call_path (.clearTypingFacts networkId) trivial).agrees agrees
        · simp only [if_neg cleared, if_neg typed]
          exact agrees
  | readMarker target marker =>
      have marked : Agrees (controller.reducer.applyServerReadMarker
          (controller.reducer.conversationKey networkId target) marker) :=
        (call_path (.applyServerReadMarker _ marker) trivial).agrees agrees
      exact marked
  | olderPageFailed target =>
      have cleared : Agrees (controller.reducer.clearHistoryPageCapTail
          (controller.reducer.conversationKey networkId target)) :=
        (call_path (.clearHistoryPageCapTail _) trivial).agrees agrees
      exact cleared

omit [Platform] [CharacterClasses] [TranscriptLog Log] in
/-- A controller that starts over holds nothing. -/
theorem start_agrees (disk : Stored Log) (log : Bool) (mutes : CaseListStore)
    (networkOrder : List String) : Agrees (start disk log mutes networkOrder).reducer := by
  refine ⟨⟨?_, ?_, ?_⟩, ?_⟩
  · exact fun key conv found => absurd found (by rw [start, Std.TreeMap.getElem?_emptyc]; exact nofun)
  · exact fun key conv found => absurd found (by rw [start, Std.TreeMap.getElem?_emptyc]; exact nofun)
  · exact fun key conv found => absurd found (by rw [start, Std.TreeMap.getElem?_emptyc]; exact nofun)
  · exact fun key conv found => absurd found (by rw [start, Std.TreeMap.getElem?_emptyc]; exact nofun)

omit [Platform] [CharacterClasses] [TranscriptLog Log] in
theorem start_consistent (disk : Stored Log) (log : Bool) (mutes : CaseListStore)
    (networkOrder : List String) : Consistent (start disk log mutes networkOrder) :=
  ⟨start_agrees disk log mutes networkOrder, Finset.notMem_empty ""⟩

/-- An intent keeps the agreement. -/
theorem intend_agrees (agrees : Agrees controller.reducer) (intent : Intent) :
    Agrees (controller.intend intent).reducer := by
  by_cases forgets : ∃ networkId, intent = .forgetNetwork networkId
  · obtain ⟨networkId, rfl⟩ := forgets
    rw [intend, forgetNetwork]
    split
    · exact agrees
    · have closed : Chain (naming (fun _ => True) Reducer.Act.featureless) controller.reducer
          ((controller.discardSession networkId).onClosed (·.forget networkId)).reducer :=
        facts_chain ⟨rfl, rfl, rfl, fun _ _ => id⟩
      exact agrees.chain featureless_settled (closed.tail (.forget networkId trivial))
  · by_cases restarts : intent = .restart
    · rw [restarts]
      exact start_agrees ..
    · exact (intend_path (fun networkId same => forgets ⟨networkId, same⟩) restarts).agrees agrees

/-- A session carries a name after every intent. -/
theorem intend_named (named : "" ∉ controller.sessions) (intent : Intent) :
    "" ∉ (controller.intend intent).sessions := by
  have created : ∀ (current : Controller Log) (networkId : String) (words : List String),
      "" ∉ current.sessions → "" ∉ (current.createSession networkId words).sessions := by
    intro current networkId words before
    unfold createSession
    split
    · exact before
    · rename_i fresh
      have sessions : (({ current with sessions := insert networkId current.sessions } :
          Controller Log).attachStoreHooks networkId words).sessions =
          insert networkId current.sessions := by
        unfold attachStoreHooks
        dsimp only [onReducer]
        split
        · rfl
        · rfl
      rw [sessions, Finset.mem_insert]
      exact not_or.mpr ⟨fun same => fresh same.symm, before⟩
  have still : ∀ after : Controller Log, Kept controller after → "" ∉ after.sessions := by
    intro after kept
    rw [kept.sessions]
    exact named
  cases intent with
  | createSession networkId words => exact created controller networkId words named
  | restartDemo networkId words => exact created _ networkId words named
  | discardSession networkId => exact fun listed => named (Finset.mem_of_mem_erase listed)
  | forgetNetwork networkId =>
      rw [intend, forgetNetwork]
      split
      · exact named
      · exact fun listed => named (Finset.mem_of_mem_erase listed)
  | restart => exact Finset.notMem_empty ""
  | revealConversation networkId target =>
      exact still _ (revealConversation_shown networkId target).kept
  | selectConversation networkId target => exact still _ (select_shown networkId target).kept
  | openStatus networkId =>
      rw [intend, openStatus]
      split
      · exact named
      · exact named
  | leaveStatus => exact named
  | openDirect nick => exact still _ (openDirect_shown nick).kept
  | query surface link nick text now =>
      exact still _ (dispatchQuery_kept link _ nick text now)
  | closeSelected =>
      rw [intend, closeSelected]
      split
      · exact named
      · rename_i key selected
        exact still _ (closeKey_kept key)
  | closeConversation networkId target =>
      rw [intend, closeConversation]
      split
      · exact named
      · split
        · exact named
        · exact still _ (closeKey_kept _)
  | joinChannel link networkId channel => exact still _ (joinChannel_kept link networkId channel)
  | join surface link argument => exact still _ (dispatchJoin_kept link _ argument)
  | part surface link channel => exact still _ (dispatchPart_kept link _ channel)
  | say link text now => exact still _ (sendSelected_kept link .say text now)
  | action link text now => exact still _ (sendSelected_kept link .action text now)
  | send link networkId target text kind now =>
      exact still _ (quietSend_kept link networkId target text kind now)
  | mute networkId target muted =>
      rw [intend, applyMute]
      split
      · exact named
      · exact named
  | clear networkId target => exact named
  | markAllRead => exact named
  | setWindowActive active =>
      rw [intend]
      exact named
  | setMembershipNoise noise => exact named
  | setHighlightWords networkId words => exact named
  | setNetworkOrder order => exact named
  | requestOlderHistory => exact named
  | followEnd => exact named
  | restoreDirects networkId targets =>
      rw [intend]
      split
      · exact still _ (restoreOpenDirects_shown networkId targets).kept
      · exact named

/-- A delivery creates and discards no session. -/
theorem deliver_sessions (controller : Controller Log) (networkId : String) (now : Instant)
    (delivery : Delivery) :
    (controller.deliver networkId now delivery).sessions = controller.sessions := by
  cases delivery with
  | registered nick => exact (apply_shown (.welcome networkId nick) now).kept.sessions
  | isupport message => exact (applyIsupport_shown networkId message).kept.sessions
  | endMotd targets => exact (endMotd_shown networkId targets).kept.sessions
  | translated link event => exact (handleEvent_kept link _ now).sessions
  | discovered name requested => exact (noteDiscoveredTarget_shown networkId name requested).kept.sessions
  | emptyDirect target => exact (dropEmptyDirect_shown networkId target).kept.sessions
  | capabilities away metadata typing => rfl
  | readMarker target marker => rfl
  | olderPageFailed target => rfl

/-- A step that keeps the names in use keeps the agreement. -/
theorem step_consistent {label : Label} (consistent : Consistent controller)
    (keeps : KeepsNames controller label) (taken : step controller label = some next) :
    Consistent next := by
  cases label with
  | intent intent =>
      cases taken
      exact ⟨intend_agrees consistent.agrees intent, intend_named consistent.named intent⟩
  | deliver networkId delivery now =>
      rw [step] at taken
      split at taken
      · rename_i allowed
        cases taken
        have named : networkId ≠ "" := fun blank => consistent.named (blank ▸ allowed.1)
        refine ⟨deliver_agrees consistent.agrees named keeps, ?_⟩
        rw [deliver_sessions]
        exact consistent.named
      · cases taken

/-- In every run whose steps keep the names in use, whatever the controller files something
under is the folded spelling of what it shows. -/
theorem runs_consistent {disk : Stored Log} {log : Bool} {mutes : CaseListStore}
    {networkOrder : List String}
    (runs : Semantics.Runs step KeepsNames (start disk log mutes networkOrder) controller) :
    Consistent controller :=
  runs.invariant Consistent (start_consistent ..) fun consistent keeps taken =>
    step_consistent consistent keeps taken

/-- In every run whose steps keep the names in use, every conversation is found by its own
target, no two conversations of a network have targets that are equal under its mapping,
and no channel lists two members whose nicks are. -/
theorem keys_agree_with_mapping {disk : Stored Log} {log : Bool} {mutes : CaseListStore}
    {networkOrder : List String}
    (runs : Semantics.Runs step KeepsNames (start disk log mutes networkOrder) controller) :
    (∀ (key : ConversationKey) (conv : ConversationState), controller.find key = some conv →
      controller.find (controller.reducer.conversationKey key.networkId conv.target) = some conv) ∧
    (∀ (left right : ConversationKey) (first second : ConversationState),
      controller.find left = some first → controller.find right = some second →
      left.networkId = right.networkId →
      (controller.caseMapping left.networkId).normalize first.target =
        (controller.caseMapping left.networkId).normalize second.target → left = right) ∧
    ∀ (key : ConversationKey) (conv : ConversationState) (channel : ChannelState)
      (one other : String) (first second : MemberState), controller.find key = some conv →
      conv.channel = some channel → channel.members[one]? = some first →
      channel.members[other]? = some second →
      (controller.caseMapping key.networkId).normalize first.displayNick =
        (controller.caseMapping key.networkId).normalize second.displayNick → one = other := by
  have agrees := (runs_consistent runs).agrees
  have named : ∀ (key : ConversationKey) (conv : ConversationState),
      controller.find key = some conv →
      (controller.caseMapping key.networkId).normalize conv.target = key.normalizedTarget := by
    intro key conv found
    have own := agrees.named key conv found
    rw [Named, agrees.keyed key conv found] at own
    exact own
  refine ⟨fun key conv found => ?_, fun left right first second one other network alike => ?_,
    fun key conv channel one other first second found own listed present alike => ?_⟩
  · have same : controller.reducer.conversationKey key.networkId conv.target = key :=
      congrArg (ConversationKey.mk key.networkId) (named key conv found)
    rw [same]
    exact found
  · have targets := named right second other
    rw [← network, ← alike, named left first one] at targets
    cases left
    cases right
    cases network
    cases targets
    rfl
  · have left := agrees.listed key conv found channel one first own listed
    have right := agrees.listed key conv found channel other second own present
    rw [agrees.keyed key conv found] at left right
    exact left.symm.trans (alike.trans right)

end Steps

section Witness

local instance agreementPlatform : Platform := Session.reference
local instance agreementClasses : CharacterClasses := asciiClasses
local instance agreementLog : TranscriptLog LoggedLines := loggedLines

/-- A session without an echo or an invite. -/
def plainLink : Link := { nick := "me" }

/-- A direct message whose author is spelled with a bracket. -/
def bracketLine : Event :=
  .message (chatLine "net" "foo[" "foo[" "hi" "")

/-- A message opens a direct conversation. -/
theorem keys_agree_with_mapping_bracket :
    ∃ controller : Controller LoggedLines,
      Semantics.Runs step KeepsNames (start ⟨[], {}⟩ false {} []) controller ∧
      (controller.find { networkId := "net", normalizedTarget := "foo\x7b" }).isSome ∧
      ∀ (key : ConversationKey) (conv : ConversationState), controller.find key = some conv →
        controller.find (controller.reducer.conversationKey key.networkId conv.target) =
          some conv := by
  have opened : (Semantics.runAll step (start ⟨[], {}⟩ false {} [] : Controller LoggedLines)
      [.intent (.createSession "net" []), .deliver "net" (.translated plainLink bracketLine) 0]).any
      (fun controller =>
        (controller.find { networkId := "net", normalizedTarget := "foo\x7b" }).isSome) = true := by
    decide +kernel
  obtain ⟨controller, taken, found⟩ := Session.exists_of_any opened
  obtain ⟨created, first, rest⟩ := Option.bind_eq_some_iff.mp taken
  obtain ⟨_, second, last⟩ := Option.bind_eq_some_iff.mp rest
  cases last
  have runs : Semantics.Runs step KeepsNames (start ⟨[], {}⟩ false {} []) controller := by
    refine .step (.step .refl ?_ first) ?_ second
    · exact trivial
    · exact trivial
  exact ⟨controller, runs, found, (keys_agree_with_mapping runs).1⟩

/-- An ISUPPORT line that names the ASCII mapping. -/
def asciiLine : IrcMessage :=
  { command := "005"
    params := [utf8 "me", utf8 "CASEMAPPING=ascii", utf8 "are supported by this server"] }

/-- The network folds only ASCII letters, and the second welcome starts over. -/
def relearnedLabels : List Label :=
  [.intent (.createSession "net" []), .deliver "net" (.registered "me") 0,
    .deliver "net" (.isupport asciiLine) 0, .deliver "net" (.translated plainLink bracketLine) 0,
    .deliver "net" (.registered "me") 1]

/-- After the second welcome the direct message is not found by its own target. -/
theorem keys_agree_not_always :
    ∃ controller : Controller LoggedLines,
      Semantics.Runs step Semantics.unguarded (start ⟨[], {}⟩ false {} []) controller ∧
      ∃ (key : ConversationKey) (conv : ConversationState), controller.find key = some conv ∧
        controller.find (controller.reducer.conversationKey key.networkId conv.target) = none := by
  have lost : (Semantics.runAll step (start ⟨[], {}⟩ false {} [] : Controller LoggedLines)
      relearnedLabels).any (fun controller =>
        (controller.find { networkId := "net", normalizedTarget := "foo[" }).any fun conv =>
          (controller.find (controller.reducer.conversationKey "net" conv.target)).isNone) = true := by
    decide +kernel
  obtain ⟨controller, runs, shown⟩ := runs_labels lost
  obtain ⟨conv, found, missing⟩ := Session.exists_of_any shown
  exact ⟨controller, runs, _, conv, found, Option.isNone_iff_eq_none.mp missing⟩

end Witness

end Controller

end Omairc

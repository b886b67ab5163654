import Omairc.Irc.CapabilityTable

/-!
# Negotiations

The calls of a negotiation in any order, and the tokens that they act on one by one. A row
is enabled after a negotiation only where the client asked for it, the server then granted
it, and nothing has withdrawn it since.
-/

namespace Omairc.Irc

open Omairc.Text

/-- The operations of a negotiation. -/
inductive NegotiationCall
  | advertise (tokens : List String)
  | withdraw (tokens : List String)
  | takeRequest
  | acknowledge (tokens : List String)
  | reject (tokens : List String)
  | abandonOutstanding
  | reset (saslCredentialsAvailable : Bool)

/-- What one token, or one decision of the client, does in a negotiation. -/
inductive NegotiationEvent
  | advertised (token : String)
  | withdrawn (token : String)
  | asked
  | acknowledged (token : String)
  | rejected (token : String)
  | abandoned
  | reset (saslCredentialsAvailable : Bool)

/-- The negotiation after a call. -/
def NegotiationCall.apply (caps : IrcCapabilityNegotiation) :
    NegotiationCall → IrcCapabilityNegotiation
  | advertise tokens => caps.advertise tokens
  | withdraw tokens => caps.withdraw tokens
  | takeRequest => caps.takeRequest.1
  | acknowledge tokens => (caps.acknowledge tokens).1
  | reject tokens => (caps.reject tokens).1
  | abandonOutstanding => caps.abandonOutstanding.1
  | reset saslCredentialsAvailable => .new saslCredentialsAvailable

/-- A call acts on its tokens in order. -/
def NegotiationCall.events : NegotiationCall → List NegotiationEvent
  | advertise tokens => tokens.map .advertised
  | withdraw tokens => tokens.map .withdrawn
  | takeRequest => [.asked]
  | acknowledge tokens => tokens.map .acknowledged
  | reject tokens => tokens.map .rejected
  | abandonOutstanding => [.abandoned]
  | reset saslCredentialsAvailable => [.reset saslCredentialsAvailable]

namespace NegotiationEvent

/-- The negotiation after an event. -/
def apply (caps : IrcCapabilityNegotiation) : NegotiationEvent → IrcCapabilityNegotiation
  | advertised token => caps.advertiseToken token
  | withdrawn token => caps.withdrawToken token
  | asked => caps.takeRequest.1
  | acknowledged token => (IrcCapabilityNegotiation.acknowledgeToken (caps, ∅) token).1
  | rejected token => (IrcCapabilityNegotiation.rejectToken (caps, ∅) token).1
  | abandoned => caps.abandonOutstanding.1
  | reset saslCredentialsAvailable => .new saslCredentialsAvailable

/-- A row is granted: an ACK names it without taking it back. -/
def Grants (wanted : WantedToken) : NegotiationEvent → Prop
  | acknowledged token => Names token wanted ∧ startsWithChar token '-' = false
  | _ => False

/-- A granted row is withdrawn: a DEL names it, an ACK takes it back, or the connection
starts over. -/
def Withdraws (wanted : WantedToken) : NegotiationEvent → Prop
  | withdrawn token => Names token wanted
  | acknowledged token => Names token wanted ∧ startsWithChar token '-' = true
  | reset _ => True
  | _ => False

/-- A request of a row ends without a grant: a NAK or a DEL names it, the timeout gives it
up, or the connection starts over. -/
def Refuses (wanted : WantedToken) : NegotiationEvent → Prop
  | withdrawn token | rejected token => Names token wanted
  | abandoned | reset _ => True
  | _ => False

end NegotiationEvent

/-- The negotiation after events. -/
def negotiated (saslCredentialsAvailable : Bool) (events : List NegotiationEvent) :
    IrcCapabilityNegotiation :=
  events.foldl NegotiationEvent.apply (.new saslCredentialsAvailable)

/-- The events ask for a row, and nothing refuses it afterwards. -/
def Awaited (saslCredentialsAvailable : Bool) (events : List NegotiationEvent)
    (wanted : WantedToken) : Prop :=
  ∃ before between, events = before ++ .asked :: between ∧
    (negotiated saslCredentialsAvailable before).takeRequest.2.Asks wanted ∧
      ∀ event ∈ between, ¬ event.Refuses wanted

/-- The events ask for a row, then grant it before anything refused it, and nothing
withdraws it afterwards. -/
def Granted (saslCredentialsAvailable : Bool) (events : List NegotiationEvent)
    (wanted : WantedToken) : Prop :=
  ∃ before grant after, events = before ++ grant :: after ∧
    Awaited saslCredentialsAvailable before wanted ∧ grant.Grants wanted ∧
      ∀ event ∈ after, ¬ event.Withdraws wanted

/-! ## One event -/

section Event

variable (caps : IrcCapabilityNegotiation) (wanted : WantedToken) (event : NegotiationEvent)

/-- A row waits for an answer if it did before and was not refused, or if it is asked for. -/
theorem requested_apply (waits : (event.apply caps).tokens wanted = some .requested) :
    (caps.tokens wanted = some .requested ∧ ¬ event.Refuses wanted) ∨
      event = .asked ∧ caps.takeRequest.2.Asks wanted := by
  cases event with
  | advertised token =>
      rw [NegotiationEvent.apply] at waits
      rcases caps.advertiseToken_tokens token wanted with unchanged | ⟨-, -, advertised⟩
      · exact .inl ⟨unchanged.symm.trans waits, id⟩
      · cases advertised.symm.trans waits
  | withdrawn token =>
      rw [NegotiationEvent.apply] at waits
      rcases caps.withdrawToken_tokens token wanted with ⟨other, unchanged⟩ | ⟨-, forgotten⟩
      · exact .inl ⟨unchanged.symm.trans waits, other⟩
      · cases forgotten.symm.trans waits
  | asked =>
      rw [NegotiationEvent.apply] at waits
      rcases caps.takeRequest_tokens wanted with unchanged | ⟨-, -, -, asks⟩
      · exact .inl ⟨unchanged.symm.trans waits, id⟩
      · exact .inr ⟨rfl, asks⟩
  | acknowledged token =>
      rw [NegotiationEvent.apply] at waits
      rcases IrcCapabilityNegotiation.acknowledgeToken_tokens token wanted (caps, ∅) with
        ⟨unchanged, -⟩ | ⟨-, moved⟩
      · exact .inl ⟨unchanged.symm.trans waits, id⟩
      · split at moved
        all_goals cases moved.2.symm.trans waits
  | rejected token =>
      rw [NegotiationEvent.apply] at waits
      rcases IrcCapabilityNegotiation.rejectToken_tokens token wanted (caps, ∅) with
        ⟨unchanged, unawaited⟩ | ⟨-, -, refused⟩
      · have waited := unchanged.symm.trans waits
        exact .inl ⟨waited, fun named => unawaited named waited⟩
      · cases refused.symm.trans waits
  | abandoned =>
      rw [NegotiationEvent.apply] at waits
      have outcome := caps.abandonOutstanding_tokens wanted
      rw [waits] at outcome
      split at outcome
      · cases outcome
      · rename_i settled
        exact absurd outcome.symm settled
  | reset saslCredentialsAvailable => cases waits

/-- A row is granted if it was before and was not withdrawn, or if it waited and is granted. -/
theorem enabled_apply (granted : (event.apply caps).tokens wanted = some .enabled) :
    (caps.tokens wanted = some .enabled ∧ ¬ event.Withdraws wanted) ∨
      event.Grants wanted ∧ caps.tokens wanted = some .requested := by
  cases event with
  | advertised token =>
      rw [NegotiationEvent.apply] at granted
      rcases caps.advertiseToken_tokens token wanted with unchanged | ⟨-, -, advertised⟩
      · exact .inl ⟨unchanged.symm.trans granted, id⟩
      · cases advertised.symm.trans granted
  | withdrawn token =>
      rw [NegotiationEvent.apply] at granted
      rcases caps.withdrawToken_tokens token wanted with ⟨other, unchanged⟩ | ⟨-, forgotten⟩
      · exact .inl ⟨unchanged.symm.trans granted, other⟩
      · cases forgotten.symm.trans granted
  | asked =>
      rw [NegotiationEvent.apply] at granted
      rcases caps.takeRequest_tokens wanted with unchanged | ⟨-, requested, -⟩
      · exact .inl ⟨unchanged.symm.trans granted, id⟩
      · cases requested.symm.trans granted
  | acknowledged token =>
      rw [NegotiationEvent.apply] at granted
      rcases IrcCapabilityNegotiation.acknowledgeToken_tokens token wanted (caps, ∅) with
        ⟨unchanged, unmoved⟩ | ⟨named, moved⟩
      · have held := unchanged.symm.trans granted
        refine .inl ⟨held, fun ⟨names, minus⟩ => unmoved names ?_⟩
        rw [if_pos minus]
        exact held
      · split at moved
        · cases moved.2.symm.trans granted
        · rename_i plain
          exact .inr ⟨⟨named, eq_false_of_ne_true plain⟩, moved.1⟩
  | rejected token =>
      rw [NegotiationEvent.apply] at granted
      rcases IrcCapabilityNegotiation.rejectToken_tokens token wanted (caps, ∅) with
        ⟨unchanged, -⟩ | ⟨-, -, refused⟩
      · exact .inl ⟨unchanged.symm.trans granted, id⟩
      · cases refused.symm.trans granted
  | abandoned =>
      rw [NegotiationEvent.apply] at granted
      have outcome := caps.abandonOutstanding_tokens wanted
      rw [granted] at outcome
      split at outcome
      · cases outcome
      · exact .inl ⟨outcome.symm, id⟩
  | reset saslCredentialsAvailable => cases granted

/-- No event brings a second spelling. -/
theorem oneSpelling_apply (one : caps.OneSpelling) : (event.apply caps).OneSpelling := by
  by_cases asks : event = .asked
  · subst asks
    exact one.takeRequest
  · refine one.of_fewer fun wanted played => ?_
    rcases played with waits | granted
    · rcases requested_apply caps wanted event waits with ⟨waited, -⟩ | ⟨asked, -⟩
      · exact .inl waited
      · exact (asks asked).elim
    · rcases enabled_apply caps wanted event granted with ⟨held, -⟩ | ⟨-, waited⟩
      · exact .inr held
      · exact .inl waited

end Event

/-! ## Runs -/

section Runs

variable {saslCredentialsAvailable : Bool} {wanted : WantedToken}

theorem negotiated_append_singleton (events : List NegotiationEvent) (event : NegotiationEvent) :
    negotiated saslCredentialsAvailable (events ++ [event]) =
      event.apply (negotiated saslCredentialsAvailable events) := by
  rw [negotiated, List.foldl_append]
  rfl

/-- Where a row waits for an answer it was asked for, and not refused since. -/
theorem awaited_of_requested (events : List NegotiationEvent)
    (waits : (negotiated saslCredentialsAvailable events).tokens wanted = some .requested) :
    Awaited saslCredentialsAvailable events wanted := by
  induction events using List.reverseRecOn with
  | nil => cases waits
  | append_singleton events event inductionHypothesis =>
      rw [negotiated_append_singleton] at waits
      rcases requested_apply _ wanted event waits with ⟨waited, unrefused⟩ | ⟨rfl, asks⟩
      · obtain ⟨before, between, rfl, asks, kept⟩ := inductionHypothesis waited
        refine ⟨before, between ++ [event], by simp, asks, fun later listed => ?_⟩
        rcases List.mem_append.mp listed with early | last
        · exact kept later early
        · obtain rfl := List.mem_singleton.mp last
          exact unrefused
      · exact ⟨events, [], rfl, asks, by simp⟩

/-- Where a row is enabled it was asked for, then granted, and not withdrawn since. -/
theorem granted_of_enabled (events : List NegotiationEvent)
    (enabled : (negotiated saslCredentialsAvailable events).tokens wanted = some .enabled) :
    Granted saslCredentialsAvailable events wanted := by
  induction events using List.reverseRecOn with
  | nil => cases enabled
  | append_singleton events event inductionHypothesis =>
      rw [negotiated_append_singleton] at enabled
      rcases enabled_apply _ wanted event enabled with ⟨held, unwithdrawn⟩ | ⟨grants, waited⟩
      · obtain ⟨before, grant, after, rfl, awaited, grants, kept⟩ := inductionHypothesis held
        refine ⟨before, grant, after ++ [event], by simp, awaited, grants, fun later listed => ?_⟩
        rcases List.mem_append.mp listed with early | last
        · exact kept later early
        · obtain rfl := List.mem_singleton.mp last
          exact unwithdrawn
      · exact ⟨events, event, [], rfl, awaited_of_requested events waited, grants, by simp⟩

theorem oneSpelling_negotiated (events : List NegotiationEvent) :
    (negotiated saslCredentialsAvailable events).OneSpelling := by
  induction events using List.reverseRecOn with
  | nil =>
      rintro first second - (waits | granted) -
      · cases waits
      · cases granted
  | append_singleton events event inductionHypothesis =>
      rw [negotiated_append_singleton]
      exact oneSpelling_apply _ event inductionHypothesis

/-- A call does what its events do. -/
theorem NegotiationCall.apply_eq (caps : IrcCapabilityNegotiation) (call : NegotiationCall) :
    call.apply caps = call.events.foldl NegotiationEvent.apply caps := by
  cases call with
  | advertise tokens =>
      rw [events, List.foldl_map]
      rfl
  | withdraw tokens =>
      rw [events, List.foldl_map]
      rfl
  | takeRequest => rfl
  | acknowledge tokens =>
      have pass (tokens : List String) (caps : IrcCapabilityNegotiation)
          (granted : IrcCapabilitySet) :
          (tokens.foldl IrcCapabilityNegotiation.acknowledgeToken (caps, granted)).1 =
            (tokens.map NegotiationEvent.acknowledged).foldl NegotiationEvent.apply caps := by
        induction tokens generalizing caps granted with
        | nil => rfl
        | cons token rest inductionHypothesis =>
            rw [List.foldl_cons, List.map_cons, List.foldl_cons, NegotiationEvent.apply,
              ← IrcCapabilityNegotiation.acknowledgeToken_fst caps granted]
            generalize IrcCapabilityNegotiation.acknowledgeToken (caps, granted) token = moved
            exact inductionHypothesis moved.1 moved.2
      exact pass tokens caps ∅
  | reject tokens =>
      have pass (tokens : List String) (caps : IrcCapabilityNegotiation)
          (refused : IrcCapabilitySet) :
          (tokens.foldl IrcCapabilityNegotiation.rejectToken (caps, refused)).1 =
            (tokens.map NegotiationEvent.rejected).foldl NegotiationEvent.apply caps := by
        induction tokens generalizing caps refused with
        | nil => rfl
        | cons token rest inductionHypothesis =>
            rw [List.foldl_cons, List.map_cons, List.foldl_cons, NegotiationEvent.apply,
              ← IrcCapabilityNegotiation.rejectToken_fst caps refused]
            generalize IrcCapabilityNegotiation.rejectToken (caps, refused) token = moved
            exact inductionHypothesis moved.1 moved.2
      exact pass tokens caps ∅
  | abandonOutstanding => rfl
  | reset saslCredentialsAvailable => rfl

end Runs

/-- The negotiation after calls. -/
def negotiation (saslCredentialsAvailable : Bool) (calls : List NegotiationCall) :
    IrcCapabilityNegotiation :=
  calls.foldl NegotiationCall.apply (.new saslCredentialsAvailable)

/-- Calls do what their events do, one after the other. -/
theorem negotiation_eq (saslCredentialsAvailable : Bool) (calls : List NegotiationCall) :
    negotiation saslCredentialsAvailable calls =
      negotiated saslCredentialsAvailable (calls.flatMap NegotiationCall.events) := by
  unfold negotiation negotiated
  induction calls using List.reverseRecOn with
  | nil => rfl
  | append_singleton calls call inductionHypothesis =>
      rw [List.foldl_append, List.foldl_cons, List.foldl_nil, inductionHypothesis,
        List.flatMap_append, List.foldl_append, NegotiationCall.apply_eq]
      simp

/-- Whatever the order of its calls, a negotiation enables only what it asked for and was
granted without a later withdrawal, in one spelling at a time; an answer that nothing waits for
changes nothing, except that an ACK may take back what is enabled; a request asks for everything
at once; and it asks for a row only while its dependency is advertised, asked for or enabled. -/
theorem negotiation_lawful (saslCredentialsAvailable : Bool) (calls : List NegotiationCall) :
    let caps := negotiation saslCredentialsAvailable calls
    (∀ wanted, caps.tokens wanted = some .enabled →
        Granted saslCredentialsAvailable (calls.flatMap NegotiationCall.events) wanted) ∧
      caps.OneSpelling ∧
      (∀ tokens, (∀ token ∈ tokens, caps.UnsolicitedAck token) →
        caps.acknowledge tokens = (caps, ∅)) ∧
      (∀ token wanted, Names token wanted → startsWithChar token '-' = true →
        caps.tokens wanted = some .enabled →
          (caps.acknowledge [token]).1.tokens wanted = some .refused) ∧
      (∀ tokens, (∀ token ∈ tokens, caps.UnsolicitedNak token) →
        caps.reject tokens = (caps, ∅)) ∧
      caps.takeRequest.1.takeRequest = (caps.takeRequest.1, {}) ∧
      ∀ wanted, caps.tokens wanted ≠ some .requested →
        caps.takeRequest.1.tokens wanted = some .requested → caps.DependencyStands wanted := by
  intro caps
  have events : caps = negotiated saslCredentialsAvailable
      (calls.flatMap NegotiationCall.events) := negotiation_eq _ _
  have granted (wanted : WantedToken) (enabled : caps.tokens wanted = some .enabled) :
      Granted saslCredentialsAvailable (calls.flatMap NegotiationCall.events) wanted := by
    rw [events] at enabled
    exact granted_of_enabled _ enabled
  have one : caps.OneSpelling := by
    rw [events]
    exact oneSpelling_negotiated _
  clear_value caps
  refine ⟨granted, one, fun tokens => caps.acknowledge_of_unsolicited, ?_,
    fun tokens => caps.reject_of_unsolicited,
    caps.takeRequest.1.takeRequest_of_idle caps.takeRequest_idle, fun wanted unasked asked => ?_⟩
  · intro token wanted named minus enabled
    rcases IrcCapabilityNegotiation.acknowledgeToken_tokens token wanted (caps, ∅) with
      ⟨-, unmoved⟩ | ⟨-, moved⟩
    · have other := unmoved named
      rw [if_pos minus] at other
      exact (other enabled).elim
    · rw [if_pos minus] at moved
      rw [IrcCapabilityNegotiation.acknowledge, List.foldl_cons, List.foldl_nil]
      exact moved.2
  · rcases caps.takeRequest_tokens wanted with unchanged | ⟨-, -, stands, -⟩
    · exact (unasked (unchanged.symm.trans asked)).elim
    · exact stands

/-- Metadata is granted, and the batches it depends on are refused. -/
def orphanedMetadata : List NegotiationCall :=
  [.advertise ["batch", "draft/metadata-2"], .takeRequest, .acknowledge ["draft/metadata-2"],
    .reject ["batch"]]

/-- The server grants what it was asked for. -/
def grantedAway : List NegotiationCall :=
  [.advertise ["away-notify"], .takeRequest, .acknowledge ["away-notify"]]

/-- Metadata is enabled after its dependency was refused, and an ACK that nothing asked for
takes back what was granted. -/
theorem negotiation_takes_back :
    (¬ ∀ saslCredentialsAvailable calls wanted,
      (negotiation saslCredentialsAvailable calls).tokens wanted = some .enabled →
        (negotiation saslCredentialsAvailable calls).DependencyStands wanted) ∧
      ¬ ∀ saslCredentialsAvailable calls tokens,
        (∀ token ∈ tokens,
          (negotiation saslCredentialsAvailable calls).UnsolicitedNak token) →
        ((negotiation saslCredentialsAvailable calls).acknowledge tokens).1 =
          negotiation saslCredentialsAvailable calls := by
  constructor
  · intro law
    have enabled : (negotiation false orphanedMetadata).tokens .metadata2 = some .enabled := by
      decide +kernel
    have orphaned : (negotiation false orphanedMetadata).anyToken .batch
        [.advertised, .requested, .enabled] = false := by
      decide +kernel
    exact Bool.eq_false_iff.mp orphaned (law false orphanedMetadata .metadata2 enabled .batch rfl)
  · intro law
    have settled : (negotiation false grantedAway).settled = true := by
      decide +kernel
    have before : (negotiation false grantedAway).tokens .awayNotify = some .enabled := by
      decide +kernel
    have after : ((negotiation false grantedAway).acknowledge ["-away-notify"]).1.tokens
        .awayNotify = some .refused := by
      decide +kernel
    have kept := law false grantedAway ["-away-notify"] fun _ _ wanted _ =>
      (IrcCapabilityNegotiation.settled_iff _).mp settled wanted
    rw [kept, before] at after
    cases after

end Omairc.Irc

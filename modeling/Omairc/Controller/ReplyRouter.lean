import Mathlib.Logic.Function.Basic
import Omairc.Irc.ServerFeatures
import Omairc.Irc.World
import Omairc.Platform

/-!
# The watches of WHOIS and CTCP requests

A request arms a watch, and the reply that matches it is copied to the conversation the
request came from. With labeled responses a watch is kept under the request label. A CTCP
request keeps one under its nick and command besides, since another client answers without
a label. The number of its request goes with a watch as a record.
-/

namespace Omairc.Replies

open Omairc.Text Omairc.Irc

/-- The key of a plain WHOIS watch: the nick under the case mapping of its network. -/
structure WhoisKey where
  networkId : String
  normalizedNick : String
  deriving DecidableEq

/-- The key of a plain CTCP watch: the nick, and the command in capitals. -/
structure CtcpKey where
  networkId : String
  normalizedNick : String
  command : String
  deriving DecidableEq

/-- The key of a labeled watch. -/
structure LabeledKey where
  networkId : String
  requestLabel : String
  deriving DecidableEq

/-- What a labeled request asked for. -/
inductive LabeledKind
  | whois
  | ctcp
  deriving DecidableEq

structure WhoisWatch where
  destination : Option ConversationKey
  failedIsAmbiguous : Bool := false
  metadataEmitted : Bool := false

structure CtcpWatch where
  destination : Option ConversationKey
  request : Nat

structure LabeledWatch where
  kind : LabeledKind
  destination : Option ConversationKey
  metadataEmitted : Bool := false
  request : Nat

/-- The watches that are pending. -/
structure ReplyWatches where
  whois : WhoisKey → Option WhoisWatch := fun _ => none
  ctcp : CtcpKey → Option CtcpWatch := fun _ => none
  labeled : LabeledKey → Option LabeledWatch := fun _ => none

/-- How far a WHOIS line brings the exchange. -/
inductive WhoisProgress
  | detail
  | terminal
  | failed
  deriving DecidableEq

/-- The WHOIS detail of a Status entry. -/
structure WhoisLine where
  nick : String
  text : String
  progress : WhoisProgress

/-- Whether the line ends the WHOIS exchange. -/
def WhoisLine.isTerminal (line : WhoisLine) : Bool := line.progress ≠ .detail

/-- The CTCP reply of a Status entry. -/
structure CtcpReplyLine where
  nick : String
  command : String

inductive LogSeverity
  | trace
  | info
  | alert
  deriving DecidableEq

/-- A classified line, as far as it is routed. -/
structure StatusEntry where
  networkId : String
  severity : LogSeverity := .info
  label : String := ""
  requestLabel : String := ""
  text : String
  whoisLine : Option WhoisLine := none
  ctcpReply : Option CtcpReplyLine := none

/-- A CTCP request that the session accepted. -/
structure Request where
  number : Nat
  key : CtcpKey

/-- A CTCP reply that was copied: on account of which request, under which key, and whether
that request had failed before. -/
structure Copy where
  request : Nat
  key : CtcpKey
  late : Bool

/-- How a session meets a request: whether it labels requests, and whether it writes the
line. -/
structure Link where
  labeledResponse : Bool := false
  accepts : Bool := true

/-- The router with what it reads of the reducer and the sessions, and a record of the rows it
copied and of what became of the requests. -/
structure Router where
  watches : ReplyWatches := {}
  caseMapping : String → IrcCaseMapping := fun _ => .rfc1459
  registered : String → Bool := fun _ => false
  nextRequestLabel : String → Nat := fun _ => 0
  status : List (String × String) := []
  transcripts : List (ConversationKey × String) := []
  requests : Nat := 0
  accepted : List Request := []
  failed : List Nat := []
  copies : List Copy := []

/-- Whether a labeled standard reply is copied: FAIL, WARN, NOTE, or a numeric 4xx or 5xx. -/
def copiesLabeledStandardReply (label : String) : Bool :=
  label == "FAIL" || label == "WARN" || label == "NOTE" ||
    match label.toList with
    | [first, second, third] =>
        (first == '4' || first == '5') && second.isDigit && third.isDigit
    | _ => false

namespace Router

/-- The nick of a key: trimmed, under the case mapping of the network. -/
def normalizedNick (router : Router) (networkId nick : String) : String :=
  (router.caseMapping networkId).normalize (trim nick)

/-- The key of a WHOIS watch, unless the network or the nick is empty. -/
def whoisKey (router : Router) (networkId nick : String) : Option WhoisKey :=
  if networkId = "" ∨ trim nick = "" then none
  else some ⟨networkId, router.normalizedNick networkId nick⟩

/-- The nick and the command of a CTCP query or reply. -/
def ctcpName [Platform] (router : Router) (networkId nick command : String) : CtcpKey :=
  ⟨networkId, router.normalizedNick networkId nick, Platform.toUppercase (trim command)⟩

/-- The key of a CTCP watch, unless the network, the nick or the command is empty. -/
def ctcpKey [Platform] (router : Router) (networkId nick command : String) : Option CtcpKey :=
  if networkId = "" ∨ trim nick = "" ∨ Platform.toUppercase (trim command) = "" then none
  else some (router.ctcpName networkId nick command)

/-- The key of a watch is the nick and the command it is for. -/
theorem ctcpName_of_key [Platform] {router : Router} {networkId nick command : String}
    {key : CtcpKey} (named : router.ctcpKey networkId nick command = some key) :
    router.ctcpName networkId nick command = key := by
  unfold ctcpKey at named
  split at named
  · cases named
  · exact Option.some_inj.mp named

theorem ctcpKey_congr [Platform] {router other : Router}
    (same : router.caseMapping = other.caseMapping) (networkId nick command : String) :
    router.ctcpKey networkId nick command = other.ctcpKey networkId nick command := by
  rw [ctcpKey, ctcpKey, ctcpName, ctcpName, normalizedNick, normalizedNick, same]

/-- Change the watches. -/
def onWatches (router : Router) (change : ReplyWatches → ReplyWatches) : Router :=
  { router with watches := change router.watches }

/-- Set or drop one plain WHOIS watch. -/
def setWhois (router : Router) (key : WhoisKey) (watch : Option WhoisWatch) : Router :=
  router.onWatches fun watches => { watches with whois := Function.update watches.whois key watch }

/-- Set or drop one plain CTCP watch. -/
def setCtcp (router : Router) (key : CtcpKey) (watch : Option CtcpWatch) : Router :=
  router.onWatches fun watches => { watches with ctcp := Function.update watches.ctcp key watch }

/-- Set or drop one labeled watch. -/
def setLabeled (router : Router) (key : LabeledKey) (watch : Option LabeledWatch) : Router :=
  router.onWatches fun watches =>
    { watches with labeled := Function.update watches.labeled key watch }

section Lookups

variable {router : Router}

@[simp] theorem setCtcp_self (key : CtcpKey) (watch : Option CtcpWatch) :
    (router.setCtcp key watch).watches.ctcp key = watch :=
  Function.update_self ..

theorem setCtcp_of_ne {key other : CtcpKey} (apart : other ≠ key) (watch : Option CtcpWatch) :
    (router.setCtcp key watch).watches.ctcp other = router.watches.ctcp other :=
  Function.update_of_ne apart ..

@[simp] theorem setLabeled_self (label : LabeledKey) (watch : Option LabeledWatch) :
    (router.setLabeled label watch).watches.labeled label = watch :=
  Function.update_self ..

theorem setLabeled_of_ne {label other : LabeledKey} (apart : other ≠ label)
    (watch : Option LabeledWatch) :
    (router.setLabeled label watch).watches.labeled other = router.watches.labeled other :=
  Function.update_of_ne apart ..

/-- A watch that is armed where none was, and dropped again. -/
theorem setWhois_restored {key : WhoisKey} (free : router.watches.whois key = none)
    (watch : Option WhoisWatch) : (router.setWhois key watch).setWhois key none = router := by
  show router.onWatches (fun watches =>
    { watches with
      whois := Function.update (Function.update watches.whois key watch) key none }) = router
  rw [← free]
  simp only [onWatches, Function.update_idem, Function.update_eq_self]

theorem setCtcp_restored {key : CtcpKey} (free : router.watches.ctcp key = none)
    (watch : Option CtcpWatch) : (router.setCtcp key watch).setCtcp key none = router := by
  show router.onWatches (fun watches =>
    { watches with
      ctcp := Function.update (Function.update watches.ctcp key watch) key none }) = router
  rw [← free]
  simp only [onWatches, Function.update_idem, Function.update_eq_self]

theorem setLabeled_restored {label : LabeledKey} (free : router.watches.labeled label = none)
    (watch : Option LabeledWatch) :
    (router.setLabeled label watch).setLabeled label none = router := by
  show router.onWatches (fun watches =>
    { watches with
      labeled := Function.update (Function.update watches.labeled label watch) label none }) =
        router
  rw [← free]
  simp only [onWatches, Function.update_idem, Function.update_eq_self]

theorem setCtcp_setLabeled (key : CtcpKey) (plain : Option CtcpWatch) (label : LabeledKey)
    (watch : Option LabeledWatch) :
    (router.setCtcp key plain).setLabeled label watch =
      (router.setLabeled label watch).setCtcp key plain :=
  rfl

end Lookups

/-- Copy one row into a conversation. -/
def applyWhoisTranscript (router : Router) (destination : ConversationKey) (body : String) :
    Router :=
  { router with transcripts := router.transcripts ++ [(destination, body)] }

/-- Copy one reply, unless there is no destination or nothing to copy. -/
def copyToDestination (router : Router) (destination : Option ConversationKey) (text : String) :
    Router :=
  match destination with
  | some destination =>
      if text ≠ "" then router.applyWhoisTranscript destination text else router
  | none => router

/-- Copy a CTCP reply and record on whose account. -/
def copyReply (router : Router) (request : Nat) (key : CtcpKey)
    (destination : Option ConversationKey) (text : String) : Router :=
  let router := router.copyToDestination destination text
  if destination.isSome && text ≠ "" then
    { router with
      copies := router.copies ++ [⟨request, key, decide (request ∈ router.failed)⟩] }
  else router

/-- A session's label for a new request, empty when it labels none. -/
def startLabeledRequest (router : Router) (networkId : String) (link : Link) : Router × String :=
  if !link.labeledResponse then (router, "")
  else
    let next := router.nextRequestLabel networkId + 1
    ({ router with nextRequestLabel := Function.update router.nextRequestLabel networkId next },
      "lr" ++ toString next)

/-- Drop every watch of a network. -/
def forgetReplies (router : Router) (networkId : String) : Router :=
  router.onWatches fun watches =>
    { whois := fun key => if key.networkId = networkId then none else watches.whois key
      ctcp := fun key => if key.networkId = networkId then none else watches.ctcp key
      labeled := fun key => if key.networkId = networkId then none else watches.labeled key }

/-- A nick's delivery changed under a plain WHOIS watch, so its 401 is ambiguous. -/
def noteNickDelivery (router : Router) (networkId target : String) (isChannel : Bool) : Router :=
  if isChannel then router
  else
    match router.whoisKey networkId target with
    | none => router
    | some key =>
        match router.watches.whois key with
        | none => router
        | some watch => router.setWhois key (some { watch with failedIsAmbiguous := true })

/-- The session finished a labeled request: its watch goes. -/
def requestLabelFinished (router : Router) (networkId requestLabel : String) : Router :=
  if networkId = "" ∨ requestLabel = "" then router
  else router.setLabeled ⟨networkId, requestLabel⟩ none

/-- Whether a destination is of another network. -/
def elsewhere (networkId : String) (destination : Option ConversationKey) : Bool :=
  destination.any fun destination => destination.networkId ≠ networkId

/-- Send a WHOIS and arm its watch. -/
def sendWhois (router : Router) (link : Link) (networkId nick : String)
    (destination : Option ConversationKey) : Router × Bool :=
  match router.whoisKey networkId nick with
  | none => (router, false)
  | some key =>
      if elsewhere networkId destination then (router, false)
      else
        let number := router.requests
        let (router, label) :=
          { router with requests := number + 1 }.startLabeledRequest networkId link
        if label ≠ "" then
          let labeled : LabeledKey := ⟨networkId, label⟩
          let router := router.setLabeled labeled
            (some { kind := .whois, destination, request := number })
          if !link.accepts then (router.setLabeled labeled none, false) else (router, true)
        else
          let router := router.setWhois key (some { destination })
          if !link.accepts then (router.setWhois key none, false) else (router, true)

/-- Send a CTCP query and arm its watches. -/
def sendCtcpQuery [Platform] (router : Router) (link : Link) (networkId nick command : String)
    (destination : Option ConversationKey) : Router × Bool :=
  match router.ctcpKey networkId nick command with
  | none => (router, false)
  | some key =>
      if elsewhere networkId destination then (router, false)
      else
        let number := router.requests
        let (router, label) :=
          { router with requests := number + 1 }.startLabeledRequest networkId link
        let labeled : LabeledKey := ⟨networkId, label⟩
        let router :=
          if label ≠ "" then
            router.setLabeled labeled (some { kind := .ctcp, destination, request := number })
          else router
        let router := router.setCtcp key (some { destination, request := number })
        if !link.accepts then
          let router := if label ≠ "" then router.setLabeled labeled none else router
          (router.setCtcp key none, false)
        else ({ router with accepted := ⟨number, key⟩ :: router.accepted }, true)

/-- The line goes to the destination, and on the first detail line the metadata facts go to
Status and the destination. -/
def applyWhoisDetail (router : Router) (networkId : String) (line : WhoisLine)
    (destination : Option ConversationKey) (emitMetadata : Bool) (metadata : List String) :
    Router :=
  let copy (router : Router) (text : String) : Router :=
    match destination with
    | some destination => router.applyWhoisTranscript destination text
    | none => router
  let router := copy router line.text
  if !emitMetadata then router
  else
    metadata.foldl (fun router text =>
      copy { router with status := router.status ++ [(networkId, text)] } text) router

/-- A WHOIS detail writes rows, to Status and to the conversation it came from. -/
theorem applyWhoisDetail_keeps (Kept : Router → Prop)
    (copied : ∀ router destination body, Kept router →
      Kept (router.applyWhoisTranscript destination body))
    (shown : ∀ router rows, Kept router → Kept { router with status := rows })
    {router : Router} (kept : Kept router) {networkId : String} {line : WhoisLine}
    {destination : Option ConversationKey} {emitMetadata : Bool} {metadata : List String} :
    Kept (router.applyWhoisDetail networkId line destination emitMetadata metadata) := by
  cases destination with
  | none =>
      have listed : ∀ (texts : List String) (current : Router), Kept current →
          Kept (texts.foldl (fun router text =>
            { router with status := router.status ++ [(networkId, text)] }) current) := by
        intro texts
        induction texts with
        | nil => exact fun _ => id
        | cons text rest inductionHypothesis =>
            exact fun current kept => inductionHypothesis _ (shown current _ kept)
      unfold applyWhoisDetail
      dsimp only
      split
      · exact kept
      · exact listed metadata router kept
  | some destination =>
      have listed : ∀ (texts : List String) (current : Router), Kept current →
          Kept (texts.foldl (fun router text =>
            { router with status := router.status ++ [(networkId, text)] }.applyWhoisTranscript
              destination text) current) := by
        intro texts
        induction texts with
        | nil => exact fun _ => id
        | cons text rest inductionHypothesis =>
            exact fun current kept =>
              inductionHypothesis _ (copied _ _ _ (shown current _ kept))
      unfold applyWhoisDetail
      dsimp only
      split
      · exact copied router _ _ kept
      · exact listed metadata _ (copied router _ _ kept)

/-- Route a WHOIS line that no label carries. -/
def routeWhoisLine (router : Router) (networkId : String) (line : WhoisLine)
    (metadata : List String) : Router :=
  match router.whoisKey networkId line.nick with
  | none => router
  | some key =>
      match router.watches.whois key with
      | none => router
      | some watch =>
          if line.progress = .failed ∧ watch.failedIsAmbiguous then router
          else
            let emitMetadata := line.progress == .detail && !watch.metadataEmitted
            let router :=
              if emitMetadata then router.setWhois key (some { watch with metadataEmitted := true })
              else router
            let router :=
              router.applyWhoisDetail networkId line watch.destination emitMetadata metadata
            if line.isTerminal then router.setWhois key none else router

theorem routeWhoisLine_caseMapping (router : Router) (networkId : String) (line : WhoisLine)
    (metadata : List String) :
    (router.routeWhoisLine networkId line metadata).caseMapping = router.caseMapping := by
  have detail : ∀ (current : Router) (destination : Option ConversationKey) (emit : Bool),
      current.caseMapping = router.caseMapping →
      (current.applyWhoisDetail networkId line destination emit metadata).caseMapping =
        router.caseMapping := fun current destination emit same =>
    applyWhoisDetail_keeps (fun changed => changed.caseMapping = router.caseMapping)
      (fun _ _ _ => id) (fun _ _ => id) same
  unfold routeWhoisLine
  split
  · rfl
  split
  · rfl
  split
  · rfl
  · dsimp only
    split
    · refine detail _ _ _ ?_
      split <;> rfl
    · refine detail _ _ _ ?_
      split <;> rfl

/-- Route a WHOIS line that a labeled request carries. -/
def routeLabeledWhois (router : Router) (key : LabeledKey) (line : WhoisLine)
    (metadata : List String) : Router :=
  match router.watches.labeled key with
  | none => router
  | some watch =>
      if watch.kind ≠ .whois then router
      else
        let emitMetadata := line.progress == .detail && !watch.metadataEmitted
        let router :=
          if emitMetadata then router.setLabeled key (some { watch with metadataEmitted := true })
          else router
        let router :=
          router.applyWhoisDetail key.networkId line watch.destination emitMetadata metadata
        if line.isTerminal then router.setLabeled key none else router

/-- Route a CTCP reply that a labeled request carries. Both watches end with it. -/
def routeLabeledCtcp [Platform] (router : Router) (key : LabeledKey) (line : CtcpReplyLine)
    (text : String) : Router :=
  match router.watches.labeled key with
  | none => router
  | some watch =>
      if watch.kind ≠ .ctcp then router
      else
        let name := router.ctcpName key.networkId line.nick line.command
        let router := router.setLabeled key none
        let router :=
          match router.ctcpKey key.networkId line.nick line.command with
          | some ctcp => router.setCtcp ctcp none
          | none => router
        router.copyReply watch.request name watch.destination text

/-- Route a plain CTCP reply. -/
def routeCtcpReply [Platform] (router : Router) (networkId : String) (line : CtcpReplyLine)
    (text : String) : Router :=
  match router.ctcpKey networkId line.nick line.command with
  | none => router
  | some key =>
      match router.watches.ctcp key with
      | none => router
      | some watch =>
          (router.setCtcp key none).copyReply watch.request key watch.destination text

/-- A labeled standard reply is copied, and an alert ends the watch. -/
def routeLabeledStandardReply (router : Router) (entry : StatusEntry) : Router :=
  let key : LabeledKey := ⟨entry.networkId, entry.requestLabel⟩
  match router.watches.labeled key with
  | none => router
  | some watch =>
      let router :=
        if copiesLabeledStandardReply entry.label then
          router.copyToDestination watch.destination entry.text
        else router
      if entry.severity = .alert then
        { router.setLabeled key none with failed := watch.request :: router.failed }
      else router

/-- Route an entry to the labeled watch it answers, or to the plain watches when it carries no
label. `metadata` is what the reducer knows about the nick of a WHOIS. -/
def routeStatusEntry [Platform] (router : Router) (entry : StatusEntry) (metadata : List String) :
    Router :=
  if entry.requestLabel ≠ "" then
    let key : LabeledKey := ⟨entry.networkId, entry.requestLabel⟩
    match router.watches.labeled key with
    | none => router
    | some watch =>
        match watch.kind, entry.whoisLine, entry.ctcpReply with
        | .whois, some line, _ => router.routeLabeledWhois key line metadata
        | .ctcp, _, some line => router.routeLabeledCtcp key line entry.text
        | _, _, _ => router.routeLabeledStandardReply entry
  else
    let router :=
      match entry.whoisLine with
      | some line => router.routeWhoisLine entry.networkId line metadata
      | none => router
    match entry.ctcpReply with
    | some line => router.routeCtcpReply entry.networkId line entry.text
    | none => router

/-- Write an entry to Status and route it. -/
def statusEntry [Platform] (router : Router) (entry : StatusEntry) (metadata : List String) :
    Router :=
  { router with status := router.status ++ [(entry.networkId, entry.text)] }.routeStatusEntry
    entry metadata

end Router

end Omairc.Replies

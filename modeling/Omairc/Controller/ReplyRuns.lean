import Mathlib.Data.List.Perm.Subperm
import Omairc.Controller.ReplyRouter
import Omairc.Semantics.Execution
import Omairc.Session.LabelLedger

/-!
# Reply watches over whole runs

Every accepted CTCP request gets at most one copied reply, as long as its two watches end
together. They do not always: a plain reply and an alert end one of them, and a refused
request drops a watch that another one armed.
-/

namespace Omairc.Replies

open Omairc.Text Omairc.Irc

/-- What reaches the router. -/
inductive Act
  | whois (link : Link) (networkId nick : String) (destination : Option ConversationKey)
  | ctcp (link : Link) (networkId nick command : String) (destination : Option ConversationKey)
  | entry (entry : StatusEntry) (metadata : List String)
  | labelFinished (networkId requestLabel : String)
  | nickDelivery (networkId target : String) (isChannel : Bool)
  | labelTaken (networkId : String)
  | caseMapping (networkId : String) (mapping : IrcCaseMapping)
  | welcome (networkId : String)
  | recreate (networkId : String)

namespace Router

variable [Platform]

/-- One act, and whether it was accepted. A request needs a registered session, a welcome
forgets the watches of its network, and a new session starts its labels over. -/
def perform (router : Router) : Act → Router × Bool
  | .whois link networkId nick destination =>
      if router.registered networkId then router.sendWhois link networkId nick destination
      else (router, false)
  | .ctcp link networkId nick command destination =>
      if router.registered networkId then
        router.sendCtcpQuery link networkId nick command destination
      else (router, false)
  | .entry entry metadata => (router.statusEntry entry metadata, true)
  | .labelFinished networkId requestLabel => (router.requestLabelFinished networkId requestLabel, true)
  | .nickDelivery networkId target isChannel =>
      (router.noteNickDelivery networkId target isChannel, true)
  | .labelTaken networkId =>
      ((router.startLabeledRequest networkId { labeledResponse := true }).1, true)
  | .caseMapping networkId mapping =>
      ({ router with caseMapping := Function.update router.caseMapping networkId mapping }, true)
  | .welcome networkId =>
      ({ router.forgetReplies networkId with
          registered := Function.update router.registered networkId true }, true)
  | .recreate networkId =>
      ({ router with
          registered := Function.update router.registered networkId false
          nextRequestLabel := Function.update router.nextRequestLabel networkId 0 }, true)

/-- One step. -/
def step (router : Router) (act : Act) : Option Router := some (router.perform act).1

/-- The two watches of a CTCP request end together, and a refused request finds no plain watch
under its key. -/
def WatchesEndTogether (router : Router) : Act → Prop
  | .whois link networkId nick _ =>
      link.accepts = false → link.labeledResponse = false →
        ∀ key, router.whoisKey networkId nick = some key → router.watches.whois key = none
  | .ctcp link networkId nick command _ =>
      link.accepts = false →
        ∀ key, router.ctcpKey networkId nick command = some key → router.watches.ctcp key = none
  | .entry entry _ =>
      if entry.requestLabel = "" then
        ∀ line key plain, entry.ctcpReply = some line →
          router.ctcpKey entry.networkId line.nick line.command = some key →
          router.watches.ctcp key = some plain →
          ∀ label labeled, router.watches.labeled label = some labeled →
            labeled.request ≠ plain.request
      else
        ∀ labeled, router.watches.labeled ⟨entry.networkId, entry.requestLabel⟩ = some labeled →
          labeled.kind = .ctcp →
          match entry.ctcpReply with
          | some line =>
              ∀ key, ⟨labeled.request, key⟩ ∈ router.accepted →
                router.ctcpKey entry.networkId line.nick line.command = some key
          | none =>
              entry.severity = .alert →
                ∀ key plain, router.watches.ctcp key = some plain → plain.request ≠ labeled.request
  | _ => True

/-- The requests whose reply was copied. -/
def answered (router : Router) : List Nat := router.copies.map Copy.request

end Router

/-! ## The invariant -/

/-- Every watch of a CTCP request belongs to an accepted request that was neither answered nor
failed, a labeled watch to one request alone under a label its session has handed out, and
every copy to an accepted request of its own. -/
structure Linked (router : Router) : Prop where
  plain : ∀ key watch, router.watches.ctcp key = some watch →
    ⟨watch.request, key⟩ ∈ router.accepted ∧ watch.request ∉ router.answered ∧
      watch.request ∉ router.failed
  labeled : ∀ label watch, router.watches.labeled label = some watch → watch.kind = .ctcp →
    (∃ key, ⟨watch.request, key⟩ ∈ router.accepted) ∧ watch.request ∉ router.answered ∧
      watch.request ∉ router.failed
  whois : ∀ label watch, router.watches.labeled label = some watch → watch.kind = .whois →
    ∀ key, ⟨watch.request, key⟩ ∉ router.accepted
  owners : ∀ label other watch twin, router.watches.labeled label = some watch →
    router.watches.labeled other = some twin → watch.request = twin.request → label = other
  begun : ∀ label watch, router.watches.labeled label = some watch →
    watch.request < router.requests
  labels : ∀ label watch, router.watches.labeled label = some watch →
    router.registered label.networkId = true →
    ∃ begun < router.nextRequestLabel label.networkId,
      label.requestLabel = Session.requestLabelAt begun
  numbered : (router.accepted.map Request.number).Nodup
  accepted : ∀ request ∈ router.accepted, request.number < router.requests
  failed : ∀ number ∈ router.failed, number < router.requests
  once : router.answered.Nodup
  copied : ∀ copy ∈ router.copies, ⟨copy.request, copy.key⟩ ∈ router.accepted ∧ copy.late = false

/-- A change that takes watches away, or leaves them with their requests. -/
structure Narrows (before after : Router) : Prop where
  plain : ∀ key watch, after.watches.ctcp key = some watch →
    before.watches.ctcp key = some watch
  labeled : ∀ label watch, after.watches.labeled label = some watch →
    ∃ old, before.watches.labeled label = some old ∧ old.kind = watch.kind ∧
      old.request = watch.request
  labels : ∀ label watch, after.watches.labeled label = some watch →
    after.registered label.networkId = true → before.registered label.networkId = true ∧
      before.nextRequestLabel label.networkId ≤ after.nextRequestLabel label.networkId
  requests : before.requests ≤ after.requests
  accepted : after.accepted = before.accepted
  failed : after.failed = before.failed
  copies : after.copies = before.copies

namespace Narrows

variable {first second third router : Router}

theorem refl (router : Router) : Narrows router router where
  plain _ _ := id
  labeled _ watch found := ⟨watch, found, rfl, rfl⟩
  labels _ _ _ registered := ⟨registered, le_rfl⟩
  requests := le_rfl
  accepted := rfl
  failed := rfl
  copies := rfl

theorem trans (left : Narrows first second) (right : Narrows second third) :
    Narrows first third where
  plain key watch found := left.plain key watch (right.plain key watch found)
  labeled label watch found := by
    obtain ⟨middle, between, kind, request⟩ := right.labeled label watch found
    obtain ⟨old, before, kind', request'⟩ := left.labeled label middle between
    exact ⟨old, before, kind'.trans kind, request'.trans request⟩
  labels label watch found registered := by
    obtain ⟨middle, between, _, _⟩ := right.labeled label watch found
    obtain ⟨still, later⟩ := right.labels label watch found registered
    obtain ⟨before, earlier⟩ := left.labels label middle between still
    exact ⟨before, earlier.trans later⟩
  requests := left.requests.trans right.requests
  accepted := right.accepted.trans left.accepted
  failed := right.failed.trans left.failed
  copies := right.copies.trans left.copies

/-- Only what is copied and written, and the plain WHOIS watches, are new. -/
theorem of_tables (ctcp : second.watches.ctcp = first.watches.ctcp)
    (labeled : second.watches.labeled = first.watches.labeled)
    (registered : second.registered = first.registered)
    (labels : second.nextRequestLabel = first.nextRequestLabel)
    (requests : second.requests = first.requests) (accepted : second.accepted = first.accepted)
    (failed : second.failed = first.failed) (copies : second.copies = first.copies) :
    Narrows first second where
  plain key watch found := ctcp ▸ found
  labeled label watch found := ⟨watch, labeled ▸ found, rfl, rfl⟩
  labels label watch found still := by
    rw [registered] at still
    exact ⟨still, (congrFun labels _).ge⟩
  requests := requests.ge
  accepted := accepted
  failed := failed
  copies := copies

/-- A labeled watch that goes, or keeps its request. -/
theorem setLabeled {label : LabeledKey} {watch : Option LabeledWatch}
    (kept : ∀ new, watch = some new → ∃ old, router.watches.labeled label = some old ∧
      old.kind = new.kind ∧ old.request = new.request) :
    Narrows router (router.setLabeled label watch) where
  plain _ _ := id
  labeled other found there := by
    by_cases same : other = label
    · subst same
      exact kept found ((Router.setLabeled_self ..).symm.trans there)
    · exact ⟨found, (Router.setLabeled_of_ne same watch).symm.trans there, rfl, rfl⟩
  labels _ _ _ registered := ⟨registered, le_rfl⟩
  requests := le_rfl
  accepted := rfl
  failed := rfl
  copies := rfl

theorem dropLabeled (router : Router) (label : LabeledKey) :
    Narrows router (router.setLabeled label none) :=
  setLabeled nofun

theorem dropCtcp (router : Router) (key : CtcpKey) : Narrows router (router.setCtcp key none) where
  plain other watch found := by
    by_cases same : other = key
    · subst same
      exact absurd ((Router.setCtcp_self ..).symm.trans found) nofun
    · exact (Router.setCtcp_of_ne same none).symm.trans found
  labeled _ watch found := ⟨watch, found, rfl, rfl⟩
  labels _ _ _ registered := ⟨registered, le_rfl⟩
  requests := le_rfl
  accepted := rfl
  failed := rfl
  copies := rfl

end Narrows

/-- What narrows the watches keeps them linked. -/
theorem Linked.narrow {before after : Router} (linked : Linked before)
    (narrows : Narrows before after) : Linked after := by
  have answered : after.answered = before.answered :=
    congrArg (List.map Copy.request) narrows.copies
  refine ⟨?_, ?_, ?_, ?_, ?_, ?_, ?_, ?_, ?_, ?_, ?_⟩
  · intro key watch found
    rw [narrows.accepted, answered, narrows.failed]
    exact linked.plain key watch (narrows.plain key watch found)
  · intro label watch found kind
    obtain ⟨old, there, sameKind, request⟩ := narrows.labeled label watch found
    rw [narrows.accepted, answered, narrows.failed, ← request]
    exact linked.labeled label old there (sameKind.trans kind)
  · intro label watch found kind
    obtain ⟨old, there, sameKind, request⟩ := narrows.labeled label watch found
    rw [narrows.accepted, ← request]
    exact linked.whois label old there (sameKind.trans kind)
  · intro label other watch twin found present same
    obtain ⟨old, there, _, request⟩ := narrows.labeled label watch found
    obtain ⟨older, here, _, request'⟩ := narrows.labeled other twin present
    exact linked.owners label other old older there here (request.trans (same.trans request'.symm))
  · intro label watch found
    obtain ⟨old, there, _, request⟩ := narrows.labeled label watch found
    exact request ▸ (linked.begun label old there).trans_le narrows.requests
  · intro label watch found registered
    obtain ⟨old, there, _, _⟩ := narrows.labeled label watch found
    obtain ⟨still, later⟩ := narrows.labels label watch found registered
    obtain ⟨begun, bound, text⟩ := linked.labels label old there still
    exact ⟨begun, bound.trans_le later, text⟩
  · rw [narrows.accepted]
    exact linked.numbered
  · intro request listed
    rw [narrows.accepted] at listed
    exact (linked.accepted request listed).trans_le narrows.requests
  · intro number listed
    rw [narrows.failed] at listed
    exact (linked.failed number listed).trans_le narrows.requests
  · rw [answered]
    exact linked.once
  · intro copy listed
    rw [narrows.copies] at listed
    rw [narrows.accepted]
    exact linked.copied copy listed

/-! ## Routing -/

namespace Narrows

variable {router : Router}

theorem applyWhoisTranscript (router : Router) (destination : ConversationKey) (body : String) :
    Narrows router (router.applyWhoisTranscript destination body) :=
  of_tables rfl rfl rfl rfl rfl rfl rfl rfl

theorem copyToDestination (router : Router) (destination : Option ConversationKey)
    (text : String) : Narrows router (router.copyToDestination destination text) := by
  unfold Router.copyToDestination
  split
  · split
    · exact applyWhoisTranscript ..
    · exact .refl router
  · exact .refl router

theorem applyWhoisDetail (router : Router) (networkId : String) (line : WhoisLine)
    (destination : Option ConversationKey) (emitMetadata : Bool) (metadata : List String) :
    Narrows router
      (router.applyWhoisDetail networkId line destination emitMetadata metadata) :=
  Router.applyWhoisDetail_keeps (Narrows router)
    (fun _ destination body kept => kept.trans (applyWhoisTranscript _ destination body))
    (fun _ _ kept => kept.trans (of_tables rfl rfl rfl rfl rfl rfl rfl rfl)) (.refl router)

theorem setWhois (router : Router) (key : WhoisKey) (watch : Option WhoisWatch) :
    Narrows router (router.setWhois key watch) :=
  of_tables rfl rfl rfl rfl rfl rfl rfl rfl

theorem routeWhoisLine (router : Router) (networkId : String) (line : WhoisLine)
    (metadata : List String) : Narrows router (router.routeWhoisLine networkId line metadata) := by
  unfold Router.routeWhoisLine
  split
  · exact .refl router
  split
  · exact .refl router
  split
  · exact .refl router
  · rename_i key _ _ watch _ _
    have marked : Narrows router
        (if (line.progress == .detail && !watch.metadataEmitted) = true then
          router.setWhois key (some { watch with metadataEmitted := true })
        else router) := by
      split
      · exact setWhois ..
      · exact .refl router
    dsimp only
    split
    · exact (marked.trans (applyWhoisDetail ..)).trans (setWhois ..)
    · exact marked.trans (applyWhoisDetail ..)

theorem routeLabeledWhois (router : Router) (label : LabeledKey) (line : WhoisLine)
    (metadata : List String) : Narrows router (router.routeLabeledWhois label line metadata) := by
  unfold Router.routeLabeledWhois
  split
  · exact .refl router
  split
  · exact .refl router
  · rename_i watch there _
    have marked : Narrows router
        (if (line.progress == .detail && !watch.metadataEmitted) = true then
          router.setLabeled label (some { watch with metadataEmitted := true })
        else router) := by
      split
      · refine setLabeled fun new same => ?_
        cases same
        exact ⟨watch, there, rfl, rfl⟩
      · exact .refl router
    dsimp only
    split
    · exact (marked.trans (applyWhoisDetail ..)).trans (dropLabeled ..)
    · exact marked.trans (applyWhoisDetail ..)

theorem forgetReplies (router : Router) (networkId : String) :
    Narrows router (router.forgetReplies networkId) where
  plain key watch found := by
    have found : (if key.networkId = networkId then none else router.watches.ctcp key) =
        some watch := found
    split at found
    · cases found
    · exact found
  labeled label watch found := by
    have found : (if label.networkId = networkId then none else router.watches.labeled label) =
        some watch := found
    split at found
    · cases found
    · exact ⟨watch, found, rfl, rfl⟩
  labels _ _ _ registered := ⟨registered, le_rfl⟩
  requests := le_rfl
  accepted := rfl
  failed := rfl
  copies := rfl

theorem noteNickDelivery (router : Router) (networkId target : String) (isChannel : Bool) :
    Narrows router (router.noteNickDelivery networkId target isChannel) := by
  unfold Router.noteNickDelivery
  split
  · exact .refl router
  split
  · exact .refl router
  split
  · exact .refl router
  · exact setWhois ..

theorem requestLabelFinished (router : Router) (networkId requestLabel : String) :
    Narrows router (router.requestLabelFinished networkId requestLabel) := by
  unfold Router.requestLabelFinished
  split
  · exact .refl router
  · exact dropLabeled ..

theorem startLabeledRequest (router : Router) (networkId : String) (link : Link) :
    Narrows router (router.startLabeledRequest networkId link).1 := by
  unfold Router.startLabeledRequest
  split
  · exact .refl router
  · refine ⟨fun _ _ => id, fun _ watch found => ⟨watch, found, rfl, rfl⟩, ?_, le_rfl, rfl, rfl, rfl⟩
    intro label watch _ registered
    refine ⟨registered, ?_⟩
    show _ ≤ Function.update router.nextRequestLabel networkId _ label.networkId
    by_cases same : label.networkId = networkId
    · rw [same, Function.update_self]
      exact Nat.le_succ _
    · rw [Function.update_of_ne same]

end Narrows

namespace Linked

variable {router : Router}

theorem not_answered (linked : Linked router) : router.requests ∉ router.answered := by
  intro listed
  obtain ⟨copy, there, same⟩ := List.mem_map.mp listed
  have earlier := linked.accepted _ (linked.copied copy there).1
  exact absurd (same ▸ earlier) (lt_irrefl _)

/-- A number is of one request. -/
theorem key_unique (linked : Linked router) {number : Nat} {key other : CtcpKey}
    (listed : ⟨number, key⟩ ∈ router.accepted) (there : ⟨number, other⟩ ∈ router.accepted) :
    key = other :=
  congrArg Request.key (List.inj_on_of_nodup_map linked.numbered listed there rfl)

/-- The next request is accepted. -/
theorem accept (linked : Linked router) (key : CtcpKey) :
    Linked { router with
      requests := router.requests + 1
      accepted := ⟨router.requests, key⟩ :: router.accepted } where
  plain other watch found := by
    obtain ⟨listed, fresh, running⟩ := linked.plain other watch found
    exact ⟨List.mem_cons_of_mem _ listed, fresh, running⟩
  labeled label watch found kind := by
    obtain ⟨⟨other, listed⟩, fresh, running⟩ := linked.labeled label watch found kind
    exact ⟨⟨other, List.mem_cons_of_mem _ listed⟩, fresh, running⟩
  whois label watch found kind other listed := by
    rcases List.mem_cons.mp listed with same | earlier
    · rw [Request.mk.injEq] at same
      exact absurd (same.1 ▸ linked.begun label watch found) (lt_irrefl _)
    · exact linked.whois label watch found kind other earlier
  owners := linked.owners
  begun label watch found := (linked.begun label watch found).trans (Nat.lt_succ_self _)
  labels := linked.labels
  numbered := by
    refine List.nodup_cons.mpr ⟨fun listed => ?_, linked.numbered⟩
    obtain ⟨request, there, same⟩ := List.mem_map.mp listed
    exact absurd (same ▸ linked.accepted request there) (lt_irrefl _)
  accepted request listed := by
    rcases List.mem_cons.mp listed with rfl | earlier
    · exact Nat.lt_succ_self _
    · exact (linked.accepted request earlier).trans (Nat.lt_succ_self _)
  failed number listed := (linked.failed number listed).trans (Nat.lt_succ_self _)
  once := linked.once
  copied copy listed := by
    obtain ⟨there, early⟩ := linked.copied copy listed
    exact ⟨List.mem_cons_of_mem _ there, early⟩

/-- The plain watch of an accepted request is armed. -/
theorem armCtcp (linked : Linked router) (key : CtcpKey) (watch : CtcpWatch)
    (listed : ⟨watch.request, key⟩ ∈ router.accepted) (fresh : watch.request ∉ router.answered)
    (running : watch.request ∉ router.failed) : Linked (router.setCtcp key (some watch)) :=
  { linked with
    plain := by
      intro other found there
      by_cases same : other = key
      · subst same
        rw [Router.setCtcp_self, Option.some_inj] at there
        subst there
        exact ⟨listed, fresh, running⟩
      · rw [Router.setCtcp_of_ne same] at there
        exact linked.plain other found there }

/-- The labeled watch of a request is armed under a label that its session has handed out. -/
theorem armLabeled (linked : Linked router) (label : LabeledKey) (watch : LabeledWatch)
    (own : ∀ other twin, router.watches.labeled other = some twin →
      watch.request ≠ twin.request)
    (handed : ∃ begun < router.nextRequestLabel label.networkId,
      label.requestLabel = Session.requestLabelAt begun)
    (begun : watch.request < router.requests)
    (ctcp : watch.kind = .ctcp → (∃ key, ⟨watch.request, key⟩ ∈ router.accepted) ∧
      watch.request ∉ router.answered ∧ watch.request ∉ router.failed)
    (whois : watch.kind = .whois → ∀ key, ⟨watch.request, key⟩ ∉ router.accepted) :
    Linked (router.setLabeled label (some watch)) := by
  have found : ∀ other twin, (router.setLabeled label (some watch)).watches.labeled other =
      some twin → other = label ∧ twin = watch ∨
        other ≠ label ∧ router.watches.labeled other = some twin := by
    intro other twin there
    by_cases same : other = label
    · subst same
      rw [Router.setLabeled_self, Option.some_inj] at there
      exact .inl ⟨rfl, there.symm⟩
    · rw [Router.setLabeled_of_ne same] at there
      exact .inr ⟨same, there⟩
  refine { linked with labeled := ?_, whois := ?_, owners := ?_, begun := ?_, labels := ?_ }
  · intro other twin there kind
    rcases found other twin there with ⟨rfl, rfl⟩ | ⟨_, earlier⟩
    · exact ctcp kind
    · exact linked.labeled other twin earlier kind
  · intro other twin there kind
    rcases found other twin there with ⟨rfl, rfl⟩ | ⟨_, earlier⟩
    · exact whois kind
    · exact linked.whois other twin earlier kind
  · intro first second one two here there same
    rcases found first one here with ⟨rfl, rfl⟩ | ⟨_, earlier⟩
    · rcases found second two there with ⟨rfl, rfl⟩ | ⟨_, older⟩
      · rfl
      · exact absurd same (own second two older)
    · rcases found second two there with ⟨rfl, rfl⟩ | ⟨_, older⟩
      · exact absurd same.symm (own first one earlier)
      · exact linked.owners first second one two earlier older same
  · intro other twin there
    rcases found other twin there with ⟨rfl, rfl⟩ | ⟨_, earlier⟩
    · exact begun
    · exact linked.begun other twin earlier
  · intro other twin there registered
    rcases found other twin there with ⟨rfl, rfl⟩ | ⟨_, earlier⟩
    · exact handed
    · exact linked.labels other twin earlier registered

/-- A copy on account of a request that no watch waits for any more. -/
theorem record (linked : Linked router) {copy : Copy}
    (listed : ⟨copy.request, copy.key⟩ ∈ router.accepted)
    (fresh : copy.request ∉ router.answered) (early : copy.late = false)
    (plain : ∀ key watch, router.watches.ctcp key = some watch → watch.request ≠ copy.request)
    (labeled : ∀ label watch, router.watches.labeled label = some watch →
      watch.request ≠ copy.request) :
    Linked { router with copies := router.copies ++ [copy] } := by
  have answered : ∀ number, number ∈ (router.copies ++ [copy]).map Copy.request →
      number ∈ router.answered ∨ number = copy.request := by
    intro number there
    rw [List.map_append, List.mem_append, List.map_singleton, List.mem_singleton] at there
    exact there
  refine { linked with plain := ?_, labeled := ?_, once := ?_, copied := ?_ }
  · intro key watch found
    obtain ⟨there, before, running⟩ := linked.plain key watch found
    exact ⟨there, fun now => (answered _ now).elim before (plain key watch found), running⟩
  · intro label watch found kind
    obtain ⟨there, before, running⟩ := linked.labeled label watch found kind
    exact ⟨there, fun now => (answered _ now).elim before (labeled label watch found), running⟩
  · show ((router.copies ++ [copy]).map Copy.request).Nodup
    rw [List.map_append, List.nodup_append]
    refine ⟨linked.once, List.nodup_singleton _, ?_⟩
    intro number there other same
    rw [List.map_singleton, List.mem_singleton] at same
    rw [same]
    exact fun equal => fresh (equal ▸ there)
  · intro other there
    rcases List.mem_append.mp there with earlier | now
    · exact linked.copied other earlier
    · rw [List.mem_singleton] at now
      rw [now]
      exact ⟨listed, early⟩

/-- The reply of a request that no watch waits for any more is copied. -/
theorem copyReply (linked : Linked router) {number : Nat} {key : CtcpKey}
    (listed : ⟨number, key⟩ ∈ router.accepted) (fresh : number ∉ router.answered)
    (running : number ∉ router.failed)
    (plain : ∀ other watch, router.watches.ctcp other = some watch → watch.request ≠ number)
    (labeled : ∀ label watch, router.watches.labeled label = some watch →
      watch.request ≠ number)
    (destination : Option ConversationKey) (text : String) :
    Linked (router.copyReply number key destination text) := by
  have narrows := Narrows.copyToDestination router destination text
  have shown := linked.narrow narrows
  unfold Router.copyReply
  dsimp only
  split
  · refine shown.record ?_ ?_ ?_ ?_ ?_
    · rw [narrows.accepted]
      exact listed
    · show number ∉ (router.copyToDestination destination text).copies.map Copy.request
      rw [narrows.copies]
      exact fresh
    · rw [narrows.failed]
      exact decide_eq_false running
    · exact fun other watch found => plain other watch (narrows.plain other watch found)
    · intro label watch found
      obtain ⟨old, there, _, request⟩ := narrows.labeled label watch found
      exact request ▸ labeled label old there
  · exact shown

/-- A request whose watches have ended fails. -/
theorem fail (linked : Linked router) {number : Nat} (begun : number < router.requests)
    (plain : ∀ key watch, router.watches.ctcp key = some watch → watch.request ≠ number)
    (labeled : ∀ label watch, router.watches.labeled label = some watch →
      watch.request ≠ number) :
    Linked { router with failed := number :: router.failed } :=
  { linked with
    plain := by
      intro key watch found
      obtain ⟨there, before, running⟩ := linked.plain key watch found
      exact ⟨there, before, List.not_mem_cons_of_ne_of_not_mem (plain key watch found) running⟩
    labeled := by
      intro label watch found kind
      obtain ⟨there, before, running⟩ := linked.labeled label watch found kind
      exact ⟨there, before, List.not_mem_cons_of_ne_of_not_mem (labeled label watch found) running⟩
    failed := by
      intro other there
      rcases List.mem_cons.mp there with rfl | earlier
      · exact begun
      · exact linked.failed other earlier }

/-! ## Requests -/

/-- A session that labels no requests. -/
theorem startLabeledRequest_plain {link : Link} (off : link.labeledResponse = false)
    (networkId : String) : router.startLabeledRequest networkId link = (router, "") := by
  rw [Router.startLabeledRequest, off]
  rfl

/-- A session that labels them hands out the next label. -/
theorem startLabeledRequest_labeled {link : Link} (on : link.labeledResponse = true)
    (networkId : String) :
    router.startLabeledRequest networkId link =
      ({ router with
          nextRequestLabel := Function.update router.nextRequestLabel networkId
            (router.nextRequestLabel networkId + 1) },
        Session.requestLabelAt (router.nextRequestLabel networkId)) := by
  rw [Router.startLabeledRequest, on]
  rfl

theorem requestLabelAt_ne_empty (begun : Nat) : Session.requestLabelAt begun ≠ "" := by
  simp [Session.requestLabelAt]

/-- The next label of a registered session is under no watch. -/
theorem label_free (linked : Linked router) {networkId : String}
    (registered : router.registered networkId = true) :
    router.watches.labeled
      ⟨networkId, Session.requestLabelAt (router.nextRequestLabel networkId)⟩ = none := by
  cases found : router.watches.labeled
      ⟨networkId, Session.requestLabelAt (router.nextRequestLabel networkId)⟩ with
  | none => rfl
  | some watch =>
      obtain ⟨begun, earlier, same⟩ := linked.labels _ watch found registered
      exact absurd (Session.requestLabelAt_injective same ▸ earlier) (lt_irrefl _)

/-- The number of the next request. -/
theorem number (router : Router) :
    Narrows router { router with requests := router.requests + 1 } :=
  { Narrows.refl router with requests := Nat.le_succ _ }

/-- A refused query that finds no plain watch under its key leaves the watches as they were. -/
theorem sendCtcpQuery_refused [Platform] (linked : Linked router) {link : Link}
    {networkId nick command : String} {destination : Option ConversationKey}
    (registered : router.registered networkId = true) (refused : link.accepts = false)
    (free : ∀ key, router.ctcpKey networkId nick command = some key →
      router.watches.ctcp key = none) :
    (router.sendCtcpQuery link networkId nick command destination).1.watches = router.watches ∧
      Narrows router (router.sendCtcpQuery link networkId nick command destination).1 := by
  unfold Router.sendCtcpQuery
  split
  · exact ⟨rfl, .refl router⟩
  split
  · exact ⟨rfl, .refl router⟩
  rename_i key named _
  have numbered := number router
  have begun := numbered.trans (.startLabeledRequest _ networkId link)
  cases labels : link.labeledResponse with
  | false =>
      rw [startLabeledRequest_plain labels] at begun
      simp only [startLabeledRequest_plain labels, refused, ne_eq, not_true_eq_false, if_false,
        Bool.not_false, if_true]
      rw [Router.setCtcp_restored]
      · exact ⟨rfl, begun⟩
      · exact free key named
  | true =>
      have empty := label_free linked registered
      rw [startLabeledRequest_labeled labels] at begun
      simp only [startLabeledRequest_labeled labels, refused, ne_eq, requestLabelAt_ne_empty,
        not_false_eq_true, if_true, Bool.not_false]
      rw [Router.setCtcp_setLabeled, Router.setLabeled_restored, Router.setCtcp_restored]
      · exact ⟨rfl, begun⟩
      · exact free key named
      · exact empty

/-- A refused WHOIS that finds no plain watch under its key, or is labeled, leaves the watches
as they were. -/
theorem sendWhois_refused (linked : Linked router) {link : Link} {networkId nick : String}
    {destination : Option ConversationKey} (registered : router.registered networkId = true)
    (refused : link.accepts = false)
    (free : link.labeledResponse = false → ∀ key, router.whoisKey networkId nick = some key →
      router.watches.whois key = none) :
    (router.sendWhois link networkId nick destination).1.watches = router.watches ∧
      Narrows router (router.sendWhois link networkId nick destination).1 := by
  unfold Router.sendWhois
  split
  · exact ⟨rfl, .refl router⟩
  split
  · exact ⟨rfl, .refl router⟩
  rename_i key named _
  have numbered := number router
  have begun := numbered.trans (.startLabeledRequest _ networkId link)
  cases labels : link.labeledResponse with
  | false =>
      rw [startLabeledRequest_plain labels] at begun
      simp only [startLabeledRequest_plain labels, refused, ne_eq, not_true_eq_false, if_false,
        Bool.not_false, if_true]
      rw [Router.setWhois_restored]
      · exact ⟨rfl, begun⟩
      · exact free labels key named
  | true =>
      have empty := label_free linked registered
      rw [startLabeledRequest_labeled labels] at begun
      simp only [startLabeledRequest_labeled labels, refused, ne_eq, requestLabelAt_ne_empty,
        not_false_eq_true, if_true, Bool.not_false]
      rw [Router.setLabeled_restored]
      · exact ⟨rfl, begun⟩
      · exact empty

/-- The next label of a session, once it is handed out. -/
theorem handed (router : Router) (networkId : String) :
    ∃ begun < Function.update router.nextRequestLabel networkId
        (router.nextRequestLabel networkId + 1) networkId,
      Session.requestLabelAt (router.nextRequestLabel networkId) = Session.requestLabelAt begun :=
  ⟨router.nextRequestLabel networkId, by rw [Function.update_self]; exact Nat.lt_succ_self _, rfl⟩

/-- An accepted query arms its watches. -/
theorem sendCtcpQuery_accepted [Platform] (linked : Linked router) {link : Link}
    {networkId nick command : String} {destination : Option ConversationKey}
    (accepts : link.accepts = true) :
    Linked (router.sendCtcpQuery link networkId nick command destination).1 := by
  unfold Router.sendCtcpQuery
  split
  · exact linked
  split
  · exact linked
  rename_i key _ _
  have begun := linked.accept key
  have running : router.requests ∉ router.failed := fun there =>
    absurd (linked.failed _ there) (lt_irrefl _)
  have listed : ⟨router.requests, key⟩ ∈
      (⟨router.requests, key⟩ :: router.accepted : List Request) := List.mem_cons_self
  cases labels : link.labeledResponse with
  | false =>
      simp only [startLabeledRequest_plain labels, accepts, ne_eq, not_true_eq_false, if_false,
        Bool.not_true, Bool.false_eq_true]
      exact begun.armCtcp key ⟨destination, router.requests⟩ listed linked.not_answered running
  | true =>
      have labeled := begun.narrow (.startLabeledRequest _ networkId link)
      rw [startLabeledRequest_labeled labels] at labeled
      simp only [startLabeledRequest_labeled labels, accepts, ne_eq, requestLabelAt_ne_empty,
        not_false_eq_true, if_true, Bool.not_true, Bool.false_eq_true, if_false]
      have armed := labeled.armLabeled
        ⟨networkId, Session.requestLabelAt (router.nextRequestLabel networkId)⟩
        { kind := .ctcp, destination, request := router.requests }
        (fun other twin found same => absurd (same ▸ linked.begun other twin found) (lt_irrefl _))
        (handed router networkId) (Nat.lt_succ_self _)
        (fun _ => ⟨⟨key, listed⟩, linked.not_answered, running⟩) nofun
      exact armed.armCtcp key ⟨destination, router.requests⟩ listed linked.not_answered running

/-- An accepted WHOIS arms its watch. -/
theorem sendWhois_accepted (linked : Linked router) {link : Link} {networkId nick : String}
    {destination : Option ConversationKey} (accepts : link.accepts = true) :
    Linked (router.sendWhois link networkId nick destination).1 := by
  unfold Router.sendWhois
  split
  · exact linked
  split
  · exact linked
  rename_i key _ _
  have begun := linked.narrow ((number router).trans (.startLabeledRequest _ networkId link))
  cases labels : link.labeledResponse with
  | false =>
      rw [startLabeledRequest_plain labels] at begun
      simp only [startLabeledRequest_plain labels, accepts, ne_eq, not_true_eq_false, if_false,
        Bool.not_true, Bool.false_eq_true]
      exact begun.narrow (.setWhois ..)
  | true =>
      rw [startLabeledRequest_labeled labels] at begun
      simp only [startLabeledRequest_labeled labels, accepts, ne_eq, requestLabelAt_ne_empty,
        not_false_eq_true, if_true, Bool.not_true, Bool.false_eq_true, if_false]
      refine begun.armLabeled _ _ ?_ (handed router networkId) (Nat.lt_succ_self _) nofun ?_
      · exact fun other twin found same =>
          absurd (same ▸ linked.begun other twin found) (lt_irrefl _)
      · exact fun _ other listed => absurd (linked.accepted _ listed) (lt_irrefl _)

/-! ## Replies -/

/-- A plain reply whose labeled watch has ended. -/
theorem routeCtcpReply [Platform] (linked : Linked router) {networkId text : String}
    {line : CtcpReplyLine}
    (ended : ∀ key plain, router.ctcpKey networkId line.nick line.command = some key →
      router.watches.ctcp key = some plain → ∀ label labeled,
        router.watches.labeled label = some labeled → labeled.request ≠ plain.request) :
    Linked (router.routeCtcpReply networkId line text) := by
  unfold Router.routeCtcpReply
  split
  · exact linked
  rename_i key named
  split
  · exact linked
  rename_i watch found
  obtain ⟨listed, fresh, running⟩ := linked.plain key watch found
  have dropped := Narrows.dropCtcp router key
  refine (linked.narrow dropped).copyReply listed fresh running ?_ (ended key watch named found) ..
  intro other twin there same
  have earlier := dropped.plain other twin there
  have key_eq : other = key := linked.key_unique (linked.plain other twin earlier).1 (same ▸ listed)
  subst key_eq
  exact absurd ((Router.setCtcp_self ..).symm.trans there) nofun

/-- A labeled reply that names the nick and the command of its request. -/
theorem routeLabeledCtcp [Platform] (linked : Linked router) {label : LabeledKey} {text : String}
    {line : CtcpReplyLine}
    (named : ∀ watch, router.watches.labeled label = some watch → watch.kind = .ctcp →
      ∀ key, ⟨watch.request, key⟩ ∈ router.accepted →
        router.ctcpKey label.networkId line.nick line.command = some key) :
    Linked (router.routeLabeledCtcp label line text) := by
  unfold Router.routeLabeledCtcp
  split
  · exact linked
  rename_i watch found
  split
  · exact linked
  rename_i isCtcp
  have kind : watch.kind = .ctcp := not_not.mp isCtcp
  obtain ⟨⟨key, listed⟩, fresh, running⟩ := linked.labeled label watch found kind
  have key_named := named watch found kind key listed
  have name : router.ctcpName label.networkId line.nick line.command = key :=
    Router.ctcpName_of_key key_named
  have found_key : (router.setLabeled label none).ctcpKey label.networkId line.nick line.command =
      some key := key_named
  dsimp only
  rw [found_key, name]
  have unlabeled := Narrows.dropLabeled router label
  have dropped := unlabeled.trans (.dropCtcp _ key)
  refine (linked.narrow dropped).copyReply listed fresh running ?_ ?_ ..
  · intro other twin there same
    have earlier := dropped.plain other twin there
    have equal : other = key := linked.key_unique (linked.plain other twin earlier).1 (same ▸ listed)
    subst equal
    exact absurd ((Router.setCtcp_self ..).symm.trans there) nofun
  · intro other twin there same
    obtain ⟨old, earlier, _, request⟩ := dropped.labeled other twin there
    have equal : other = label :=
      linked.owners other label old watch earlier found (request.trans same)
    subst equal
    exact absurd ((Router.setLabeled_self ..).symm.trans there) nofun

/-- A labeled standard reply. An alert finds the plain watch of its request ended. -/
theorem routeLabeledStandardReply (linked : Linked router) {entry : StatusEntry}
    (ended : ∀ watch, router.watches.labeled ⟨entry.networkId, entry.requestLabel⟩ = some watch →
      entry.severity = .alert → ∀ key plain, router.watches.ctcp key = some plain →
        plain.request ≠ watch.request) :
    Linked (router.routeLabeledStandardReply entry) := by
  unfold Router.routeLabeledStandardReply
  dsimp only
  split
  · exact linked
  rename_i watch found
  have copied : Narrows router
      (if copiesLabeledStandardReply entry.label = true then
        router.copyToDestination watch.destination entry.text
      else router) := by
    split
    · exact .copyToDestination ..
    · exact .refl router
  split
  · rename_i alert
    have dropped := copied.trans (.dropLabeled _ ⟨entry.networkId, entry.requestLabel⟩)
    refine (linked.narrow dropped).fail
      ((linked.begun _ watch found).trans_le dropped.requests) ?_ ?_
    · exact fun key plain there => ended watch found alert key plain (dropped.plain key plain there)
    · intro other twin there same
      obtain ⟨old, earlier, _, request⟩ := dropped.labeled other twin there
      have equal : other = ⟨entry.networkId, entry.requestLabel⟩ :=
        linked.owners other _ old watch earlier found (request.trans same)
      subst equal
      exact absurd ((Router.setLabeled_self ..).symm.trans there) nofun
  · exact linked.narrow copied

/-- A line under the guard. -/
theorem statusEntry [Platform] (linked : Linked router) {entry : StatusEntry}
    {metadata : List String} (allowed : router.WatchesEndTogether (.entry entry metadata)) :
    Linked (router.statusEntry entry metadata) := by
  have shown : Linked { router with status := router.status ++ [(entry.networkId, entry.text)] } :=
    linked.narrow (.of_tables rfl rfl rfl rfl rfl rfl rfl rfl)
  unfold Router.statusEntry Router.routeStatusEntry
  dsimp only [Router.WatchesEndTogether] at allowed
  split
  · rename_i labeled
    rw [if_neg labeled] at allowed
    dsimp only
    split
    · exact shown
    rename_i watch found
    have pending : router.watches.labeled ⟨entry.networkId, entry.requestLabel⟩ = some watch := found
    have standard : entry.ctcpReply = none ∨ watch.kind = .whois →
        Linked (Router.routeLabeledStandardReply
          { router with status := router.status ++ [(entry.networkId, entry.text)] } entry) := by
      intro unanswered
      refine shown.routeLabeledStandardReply fun other there alert key plain armed => ?_
      obtain rfl : other = watch := Option.some_inj.mp (there.symm.trans found)
      cases kind : other.kind with
      | whois =>
          exact fun same => linked.whois _ other pending kind key
            (same ▸ (linked.plain key plain armed).1)
      | ctcp =>
          have without : entry.ctcpReply = none := unanswered.resolve_right (by rw [kind]; nofun)
          have free := allowed other pending kind
          rw [without] at free
          exact free alert key plain armed
    split
    · exact shown.narrow (.routeLabeledWhois ..)
    · rename_i line kind reply
      refine shown.routeLabeledCtcp fun other there isCtcp => ?_
      have named := allowed other there isCtcp
      rw [reply] at named
      exact named
    · rename_i noWhois noCtcp
      refine standard ?_
      cases kind : watch.kind with
      | whois => exact .inr rfl
      | ctcp =>
          left
          cases reply : entry.ctcpReply with
          | none => rfl
          | some line => exact (noCtcp line kind reply).elim
  · rename_i plain
    rw [if_pos (not_not.mp plain)] at allowed
    have answered {next : Router} (routed : Narrows
        { router with status := router.status ++ [(entry.networkId, entry.text)] } next)
        (mapping : next.caseMapping = router.caseMapping) {line : CtcpReplyLine}
        (reply : entry.ctcpReply = some line) :
        Linked (next.routeCtcpReply entry.networkId line entry.text) := by
      refine (shown.narrow routed).routeCtcpReply
        fun key armed named found label labeled pending => ?_
      have earlier := routed.plain key armed found
      obtain ⟨old, before, _, request⟩ := routed.labeled label labeled pending
      have original : router.ctcpKey entry.networkId line.nick line.command = some key := by
        rw [← named]
        exact Router.ctcpKey_congr mapping.symm ..
      exact request ▸ allowed line key armed reply original earlier label old before
    dsimp only
    cases entry.whoisLine with
    | none =>
        split
        · rename_i line reply
          exact answered (.refl _) rfl reply
        · exact shown
    | some whois =>
        split
        · rename_i line reply
          exact answered (.routeWhoisLine ..) (Router.routeWhoisLine_caseMapping ..) reply
        · exact shown.narrow (.routeWhoisLine ..)

/-! ## Acts -/

/-- A request that its session would write, but that is refused, is never begun. -/
theorem sendCtcpQuery_unsent [Platform] {link : Link} {networkId nick command : String}
    {destination : Option ConversationKey} (accepts : link.accepts = true)
    (refused : (router.sendCtcpQuery link networkId nick command destination).2 = false) :
    (router.sendCtcpQuery link networkId nick command destination).1 = router := by
  unfold Router.sendCtcpQuery at refused ⊢
  split
  · rfl
  split
  · rfl
  rename_i named within
  simp only [named, within, accepts, Bool.not_true, Bool.false_eq_true, if_false] at refused
  cases refused

theorem sendWhois_unsent {link : Link} {networkId nick : String}
    {destination : Option ConversationKey} (accepts : link.accepts = true)
    (refused : (router.sendWhois link networkId nick destination).2 = false) :
    (router.sendWhois link networkId nick destination).1 = router := by
  unfold Router.sendWhois at refused ⊢
  split
  · rfl
  split
  · rfl
  rename_i named within
  simp only [named, within, accepts, Bool.not_true, Bool.false_eq_true, if_false] at refused
  split at refused <;> cases refused

/-- A welcome takes every watch of its network. -/
theorem welcome (linked : Linked router) (networkId : String) :
    Linked { router.forgetReplies networkId with
      registered := Function.update router.registered networkId true } :=
  have forgotten := linked.narrow (.forgetReplies router networkId)
  { forgotten with
    labels := by
      intro label watch found registered
      have other : label.networkId ≠ networkId := by
        intro same
        have gone : (if label.networkId = networkId then none
            else router.watches.labeled label) = some watch := found
        rw [if_pos same] at gone
        cases gone
      have still : router.registered label.networkId = true := by
        rw [← Function.update_of_ne other true router.registered]
        exact registered
      exact forgotten.labels label watch found still }

/-- A new session is not registered, whatever its labels are. -/
theorem recreate (linked : Linked router) (networkId : String) :
    Linked { router with
      registered := Function.update router.registered networkId false
      nextRequestLabel := Function.update router.nextRequestLabel networkId 0 } :=
  { linked with
    labels := by
      intro label watch found registered
      have other : label.networkId ≠ networkId := by
        rintro same
        have off : Function.update router.registered networkId false label.networkId = true :=
          registered
        rw [same, Function.update_self] at off
        cases off
      have still : router.registered label.networkId = true := by
        rw [← Function.update_of_ne other false router.registered]
        exact registered
      obtain ⟨begun, earlier, text⟩ := linked.labels label watch found still
      refine ⟨begun, ?_, text⟩
      show begun < Function.update router.nextRequestLabel networkId 0 label.networkId
      rw [Function.update_of_ne other]
      exact earlier }

/-- A refused request, under the guard. -/
theorem refuses [Platform] (linked : Linked router) {act : Act}
    (allowed : router.WatchesEndTogether act) (refused : (router.perform act).2 = false) :
    (router.perform act).1.watches = router.watches := by
  cases act with
  | whois link networkId nick destination =>
      simp only [Router.perform] at refused ⊢
      split
      · rename_i registered
        rw [if_pos registered] at refused
        cases accepts : link.accepts with
        | false =>
            exact (linked.sendWhois_refused registered accepts fun plain key named =>
              allowed accepts plain key named).1
        | true => exact congrArg Router.watches (sendWhois_unsent accepts refused)
      · rfl
  | ctcp link networkId nick command destination =>
      simp only [Router.perform] at refused ⊢
      split
      · rename_i registered
        rw [if_pos registered] at refused
        cases accepts : link.accepts with
        | false =>
            exact (linked.sendCtcpQuery_refused registered accepts fun key named =>
              allowed accepts key named).1
        | true => exact congrArg Router.watches (sendCtcpQuery_unsent accepts refused)
      · rfl
  | _ => cases refused

/-- Every act under the guard keeps the watches linked. -/
theorem perform [Platform] (linked : Linked router) {act : Act}
    (allowed : router.WatchesEndTogether act) : Linked (router.perform act).1 := by
  cases act with
  | whois link networkId nick destination =>
      simp only [Router.perform]
      split
      · rename_i registered
        cases accepts : link.accepts with
        | false =>
            exact linked.narrow (linked.sendWhois_refused registered accepts
              fun plain key named => allowed accepts plain key named).2
        | true => exact linked.sendWhois_accepted accepts
      · exact linked
  | ctcp link networkId nick command destination =>
      simp only [Router.perform]
      split
      · rename_i registered
        cases accepts : link.accepts with
        | false =>
            exact linked.narrow (linked.sendCtcpQuery_refused registered accepts
              fun key named => allowed accepts key named).2
        | true => exact linked.sendCtcpQuery_accepted accepts
      · exact linked
  | entry entry metadata => exact linked.statusEntry allowed
  | labelFinished networkId requestLabel => exact linked.narrow (.requestLabelFinished ..)
  | nickDelivery networkId target isChannel => exact linked.narrow (.noteNickDelivery ..)
  | labelTaken networkId => exact linked.narrow (.startLabeledRequest ..)
  | caseMapping networkId mapping =>
      exact linked.narrow (.of_tables rfl rfl rfl rfl rfl rfl rfl rfl)
  | welcome networkId => exact linked.welcome networkId
  | recreate networkId => exact linked.recreate networkId

end Linked

/-! ## Runs -/

namespace Router

/-- The router of a client that has just started. -/
theorem linked_start : Linked {} where
  plain := nofun
  labeled := nofun
  whois := nofun
  owners := nofun
  begun := nofun
  labels := nofun
  numbered := List.nodup_nil
  accepted := nofun
  failed := nofun
  once := List.nodup_nil
  copied := nofun

/-- Every run whose requests end their watches together keeps them linked. -/
theorem linked_of_runs [Platform] {router : Router}
    (runs : Semantics.Runs step WatchesEndTogether {} router) : Linked router := by
  refine runs.invariant Linked linked_start fun linked allowed transition => ?_
  cases transition
  exact linked.perform allowed

end Router

/-- The copied replies for a nick and command are at most the accepted requests. -/
theorem Linked.copies_le {router : Router} (linked : Linked router) (key : CtcpKey) :
    (router.copies.map Copy.key).count key ≤ (router.accepted.map Request.key).count key := by
  let owner (copy : Copy) : Request := ⟨copy.request, copy.key⟩
  have distinct : (router.copies.map owner).Nodup := by
    refine List.Nodup.of_map Request.number ?_
    rw [List.map_map]
    exact linked.once
  have listed : ∀ request ∈ router.copies.map owner, request ∈ router.accepted := by
    intro request there
    obtain ⟨copy, member, rfl⟩ := List.mem_map.mp there
    exact (linked.copied copy member).1
  have keys : (router.copies.map owner).map Request.key = router.copies.map Copy.key := by
    rw [List.map_map]
    rfl
  obtain ⟨owners, perm, sublist⟩ := distinct.subperm listed
  rw [← keys, ← (perm.map Request.key).count_eq key]
  exact (sublist.map Request.key).count_le key

/-- In a run whose requests end their watches together, no reply is copied twice or on account
of a failed request, and a refused request leaves the watches as they were. -/
theorem reply_watches_counted [Platform] {router : Router}
    (runs : Semantics.Runs Router.step Router.WatchesEndTogether {} router) :
    (∀ key, (router.copies.map Copy.key).count key ≤ (router.accepted.map Request.key).count key) ∧
      (∀ copy ∈ router.copies, copy.late = false) ∧
      ∀ act, router.WatchesEndTogether act → (router.perform act).2 = false →
        (router.perform act).1.watches = router.watches := by
  have linked := Router.linked_of_runs runs
  refine ⟨linked.copies_le, ?_, ?_⟩
  · exact fun copy listed => (linked.copied copy listed).2
  · exact fun act allowed refused => linked.refuses allowed refused

section Witness

local instance replyPlatform : Platform := Session.reference

/-- Where the rows of these runs go. -/
private def fromLee : Option ConversationKey := some ⟨"net", "lee"⟩

/-- The reply of bob to a version query. -/
private def answer (requestLabel : String) : StatusEntry :=
  { networkId := "net", requestLabel, text := "VERSION reply from bob: x"
    ctcpReply := some ⟨"bob", "VERSION"⟩ }

/-- A version query to bob. -/
private def query (link : Link) : Act := .ctcp link "net" "bob" "VERSION" fromLee

/-- A plain query and its reply. -/
theorem reply_watches_counted_answered :
    ∃ router, Semantics.Runs Router.step Router.WatchesEndTogether {} router ∧
      (router.copies.map Copy.key).count ⟨"net", "bob", "VERSION"⟩ = 1 ∧
      (router.copies.map Copy.key).count ⟨"net", "bob", "VERSION"⟩ ≤
        (router.accepted.map Request.key).count ⟨"net", "bob", "VERSION"⟩ ∧
      ∀ copy ∈ router.copies, copy.late = false := by
  let welcomed := (Router.perform {} (.welcome "net")).1
  let asked := (welcomed.perform (query {})).1
  have unlabeled : ∀ label, asked.watches.labeled label = none := by
    have forgotten : ∀ label, welcomed.watches.labeled label = none := fun _ => ite_self none
    have same : asked.watches.labeled = welcomed.watches.labeled := by rfl
    exact fun label => (congrFun same label).trans (forgotten label)
  have runs : Semantics.Runs Router.step Router.WatchesEndTogether {}
      (asked.perform (.entry (answer "") [])).1 := by
    have begun : Router.WatchesEndTogether {} (.welcome "net") := trivial
    have sent : welcomed.WatchesEndTogether (query {}) := nofun
    have replied : asked.WatchesEndTogether (.entry (answer "") []) := by
      intro line key plain _ _ _ label labeled pending
      rw [unlabeled label] at pending
      cases pending
    exact .step (.step (.step .refl begun rfl) sent rfl) replied rfl
  have copied : ((asked.perform (.entry (answer "") [])).1.copies.map Copy.key).count
      ⟨"net", "bob", "VERSION"⟩ = 1 := by
    decide
  have counted := reply_watches_counted runs
  exact ⟨_, runs, copied, counted.1 _, counted.2.1⟩

/-- A plain reply leaves the labeled watch of its request, so the labeled reply is copied
besides. An alert leaves the plain watch, so a plain reply is copied on account of the failed
request. A refused request drops the plain watch of another. -/
theorem watches_end_apart :
    (∃ router, Semantics.Runs Router.step Semantics.unguarded {} router ∧
      (router.accepted.map Request.key).count ⟨"net", "bob", "VERSION"⟩ = 1 ∧
      (router.copies.map Copy.key).count ⟨"net", "bob", "VERSION"⟩ = 2) ∧
    (∃ router, Semantics.Runs Router.step Semantics.unguarded {} router ∧
      ∃ copy ∈ router.copies, copy.late = true) ∧
    ∃ router, Semantics.Runs Router.step Semantics.unguarded {} router ∧
      (router.perform (query { accepts := false })).2 = false ∧
      (router.watches.ctcp ⟨"net", "bob", "VERSION"⟩).isSome ∧
      (router.perform (query { accepts := false })).1.watches.ctcp ⟨"net", "bob", "VERSION"⟩ =
        none := by
  have twice : (Semantics.runAll Router.step {} [.welcome "net", query { labeledResponse := true },
      .entry (answer "") [], .entry (answer "lr1") []]).any (fun router =>
        decide ((router.accepted.map Request.key).count ⟨"net", "bob", "VERSION"⟩ = 1 ∧
          (router.copies.map Copy.key).count ⟨"net", "bob", "VERSION"⟩ = 2)) = true := by
    decide
  have late : (Semantics.runAll Router.step {} [.welcome "net", query { labeledResponse := true },
      .entry { networkId := "net", severity := .alert, label := "401", requestLabel := "lr1"
               text := "No such nick" } [], .entry (answer "") []]).any (fun router =>
        decide (∃ copy ∈ router.copies, copy.late = true)) = true := by
    decide
  have dropped : (Semantics.runAll Router.step {} [.welcome "net", query {}]).any (fun router =>
        decide ((router.perform (query { accepts := false })).2 = false ∧
          (router.watches.ctcp ⟨"net", "bob", "VERSION"⟩).isSome ∧
          (router.perform (query { accepts := false })).1.watches.ctcp
            ⟨"net", "bob", "VERSION"⟩ = none)) = true := by
    decide
  refine ⟨?_, ?_, ?_⟩
  · obtain ⟨router, reached, counts⟩ := Session.exists_of_any twice
    exact ⟨router, .of_runAll reached, of_decide_eq_true counts⟩
  · obtain ⟨router, reached, copied⟩ := Session.exists_of_any late
    exact ⟨router, .of_runAll reached, of_decide_eq_true copied⟩
  · obtain ⟨router, reached, gone⟩ := Session.exists_of_any dropped
    exact ⟨router, .of_runAll reached, of_decide_eq_true gone⟩

end Witness

end Omairc.Replies

import Omairc.Irc.Capability

/-!
# The rows of a negotiation

What each operation does to one row of the wanted table. LS and NEW make a row advertised
and DEL forgets it, an ACK grants what waits for one and may take it back, a NAK and the
timeout refuse what waits. A pass over the table asks for every row that can be requested.
-/

namespace Omairc.Irc

open Omairc.Text

/-- A token names a row of the wanted table. -/
def Names (token : String) (wanted : WantedToken) : Prop := wantedFor (tokenName token) = some wanted

/-- A request lists a row. -/
def IrcCapabilityRequest.Asks (request : IrcCapabilityRequest) (wanted : WantedToken) : Prop :=
  ∃ line ∈ request.lines, wanted.text ∈ splitText ' ' line

/-- The words of a line are those it was joined from. -/
theorem splitText_joinTexts {words : List String} (some : words ≠ [])
    (plain : ∀ word ∈ words, ' ' ∉ word.toList) :
    splitText ' ' (joinTexts " " words) = words := by
  rw [splitText, joinTexts, String.toList_ofList]
  have separated : " ".toList = [' '] := rfl
  rw [separated, List.splitOn_intercalate]
  · simp [Function.comp_def]
  · intro word present
    obtain ⟨text, listed, rfl⟩ := List.mem_map.mp present
    exact plain text listed
  · simpa using some

/-- No spelling has a space. -/
theorem WantedToken.text_plain (wanted : WantedToken) : ' ' ∉ wanted.text.toList := by
  cases wanted
  all_goals decide

namespace IrcCapabilityNegotiation

variable (caps : IrcCapabilityNegotiation) (token : String) (wanted : WantedToken)

/-- A row that waits for an answer, or that is granted. -/
def InPlay : Prop := caps.tokens wanted = some .requested ∨ caps.tokens wanted = some .enabled

@[simp] theorem setState_tokens (state : TokenState) (other : WantedToken) :
    (caps.setState wanted state).tokens other =
      if other = wanted then some state else caps.tokens other :=
  Function.update_apply ..

/-- Some row of a capability is in one of the states. -/
theorem anyToken_iff {capability : IrcCapability} {states : List TokenState} :
    caps.anyToken capability states = true ↔
      ∃ wanted state, wanted.capability = capability ∧ caps.tokens wanted = some state ∧
        state ∈ states := by
  simp only [anyToken, List.any_eq_true, mem_wantedTokens, true_and, Bool.and_eq_true,
    decide_eq_true_eq, Option.any_eq_true, List.contains_iff_mem]
  constructor
  · rintro ⟨wanted, same, state, found, listed⟩
    exact ⟨wanted, state, same, found, listed⟩
  · rintro ⟨wanted, state, same, found, listed⟩
    exact ⟨wanted, same, state, found, listed⟩

/-- Nothing waits for an answer. -/
theorem settled_iff : caps.settled = true ↔ ∀ wanted, caps.tokens wanted ≠ some .requested := by
  simp [settled]

/-! ## The tokens of a line -/

/-- An advertised token leaves a row, or makes it advertised where it was not in play. -/
theorem advertiseToken_tokens :
    (caps.advertiseToken token).tokens wanted = caps.tokens wanted ∨
      Names token wanted ∧ ¬ caps.InPlay wanted ∧
        (caps.advertiseToken token).tokens wanted = some .advertised := by
  delta Names advertiseToken
  generalize wantedFor (tokenName token) = found
  cases found with
  | none => exact .inl rfl
  | some named =>
      simp only
      split_ifs with refused settled
      · exact .inl rfl
      · exact .inl rfl
      all_goals
        simp only [Bool.or_eq_true, decide_eq_true_eq, not_or] at settled
        rw [setState_tokens]
        split
        · rename_i same
          subst same
          exact .inr ⟨rfl, fun play => play.elim settled.2 settled.1, rfl⟩
        · exact .inl rfl

/-- A withdrawn token forgets the row it names. -/
theorem withdrawToken_tokens :
    (¬ Names token wanted ∧ (caps.withdrawToken token).tokens wanted = caps.tokens wanted) ∨
      Names token wanted ∧ (caps.withdrawToken token).tokens wanted = none := by
  delta Names withdrawToken
  generalize wantedFor (tokenName token) = found
  cases found with
  | none => exact .inl ⟨nofun, rfl⟩
  | some named =>
      have forgotten : (Function.update caps.tokens named none) wanted =
          if wanted = named then none else caps.tokens wanted := Function.update_apply ..
      by_cases same : wanted = named
      · subst same
        rw [if_pos rfl] at forgotten
        simp only
        refine .inr ⟨trivial, ?_⟩
        split_ifs
        all_goals exact forgotten
      · rw [if_neg same] at forgotten
        simp only
        refine .inl ⟨fun names => same (Option.some.inj names).symm, ?_⟩
        split_ifs
        all_goals exact forgotten

variable (progress : IrcCapabilityNegotiation × IrcCapabilitySet)

/-- An acknowledged token grants a row that waits for an answer, or takes back a granted one. -/
theorem acknowledgeToken_tokens :
    (acknowledgeToken progress token).1.tokens wanted = progress.1.tokens wanted ∧
        (Names token wanted → progress.1.tokens wanted ≠
          if startsWithChar token '-' then some .enabled else some .requested) ∨
      Names token wanted ∧
        if startsWithChar token '-' then
          progress.1.tokens wanted = some .enabled ∧
            (acknowledgeToken progress token).1.tokens wanted = some .refused
        else
          progress.1.tokens wanted = some .requested ∧
            (acknowledgeToken progress token).1.tokens wanted = some .enabled := by
  obtain ⟨caps, granted⟩ := progress
  delta Names acknowledgeToken
  generalize wantedFor (tokenName token) = found
  cases found with
  | none => exact .inl ⟨rfl, fun impossible => nomatch impossible⟩
  | some named =>
      by_cases same : wanted = named
      · subst same
        simp only
        split_ifs with minus enabled waiting
        · exact .inr ⟨trivial, enabled, by simp⟩
        · exact .inl ⟨rfl, fun _ => enabled⟩
        · exact .inl ⟨rfl, fun _ => waiting⟩
        all_goals exact .inr ⟨trivial, not_not.mp waiting, by simp⟩
      · refine .inl ⟨?_, fun names => (same (Option.some.inj names.symm)).elim⟩
        simp only
        split_ifs
        all_goals simp [same]

/-- A rejected token refuses a row that waits for an answer. -/
theorem rejectToken_tokens :
    (rejectToken progress token).1.tokens wanted = progress.1.tokens wanted ∧
        (Names token wanted → progress.1.tokens wanted ≠ some .requested) ∨
      Names token wanted ∧ progress.1.tokens wanted = some .requested ∧
        (rejectToken progress token).1.tokens wanted = some .refused := by
  obtain ⟨caps, refused⟩ := progress
  delta Names rejectToken
  generalize wantedFor (tokenName token) = found
  cases found with
  | none => exact .inl ⟨rfl, fun impossible => nomatch impossible⟩
  | some named =>
      by_cases same : wanted = named
      · subst same
        simp only
        split_ifs with waiting
        · exact .inl ⟨rfl, fun _ => waiting⟩
        · exact .inr ⟨trivial, not_not.mp waiting, by simp⟩
      · refine .inl ⟨?_, fun names => (same (Option.some.inj names.symm)).elim⟩
        simp only
        split_ifs
        all_goals simp [same]

/-- No row waits for the ACK of a token, nor is one granted that the ACK takes back. -/
def UnsolicitedAck : Prop :=
  ∀ wanted, Names token wanted →
    caps.tokens wanted ≠ if startsWithChar token '-' then some .enabled else some .requested

/-- No row waits for the NAK of a token. -/
def UnsolicitedNak : Prop := ∀ wanted, Names token wanted → caps.tokens wanted ≠ some .requested

variable {caps} {token}

theorem acknowledgeToken_of_unsolicited (unsolicited : caps.UnsolicitedAck token)
    (granted : IrcCapabilitySet) : acknowledgeToken (caps, granted) token = (caps, granted) := by
  revert unsolicited
  delta UnsolicitedAck Names acknowledgeToken
  generalize wantedFor (tokenName token) = found
  intro unsolicited
  cases found with
  | none => rfl
  | some named =>
      have unmoved := unsolicited named rfl
      simp only
      split at unmoved
      · rename_i minus
        rw [if_pos minus, if_neg unmoved]
      · rename_i plain
        rw [if_neg plain, if_pos unmoved]

theorem rejectToken_of_unsolicited (unsolicited : caps.UnsolicitedNak token)
    (refused : IrcCapabilitySet) : rejectToken (caps, refused) token = (caps, refused) := by
  revert unsolicited
  delta UnsolicitedNak Names rejectToken
  generalize wantedFor (tokenName token) = found
  intro unsolicited
  cases found with
  | none => rfl
  | some named => exact if_pos (unsolicited named rfl)

/-- An ACK that nothing waits for changes nothing. -/
theorem acknowledge_of_unsolicited {tokens : List String}
    (unsolicited : ∀ token ∈ tokens, caps.UnsolicitedAck token) :
    caps.acknowledge tokens = (caps, ∅) := by
  unfold acknowledge
  induction tokens with
  | nil => rfl
  | cons token rest inductionHypothesis =>
      rw [List.foldl_cons, acknowledgeToken_of_unsolicited (unsolicited token List.mem_cons_self)]
      exact inductionHypothesis fun later listed => unsolicited later (List.mem_cons_of_mem _ listed)

/-- A NAK that nothing waits for changes nothing. -/
theorem reject_of_unsolicited {tokens : List String}
    (unsolicited : ∀ token ∈ tokens, caps.UnsolicitedNak token) :
    caps.reject tokens = (caps, ∅) := by
  unfold reject
  induction tokens with
  | nil => rfl
  | cons token rest inductionHypothesis =>
      rw [List.foldl_cons, rejectToken_of_unsolicited (unsolicited token List.mem_cons_self)]
      exact inductionHypothesis fun later listed => unsolicited later (List.mem_cons_of_mem _ listed)

/-- What an ACK makes of the rows does not depend on what it granted before. -/
theorem acknowledgeToken_fst (caps : IrcCapabilityNegotiation) (granted : IrcCapabilitySet)
    (token : String) :
    (acknowledgeToken (caps, granted) token).1 = (acknowledgeToken (caps, ∅) token).1 := by
  delta acknowledgeToken
  generalize wantedFor (tokenName token) = found
  cases found with
  | none => rfl
  | some named =>
      simp only
      split_ifs
      all_goals rfl

theorem rejectToken_fst (caps : IrcCapabilityNegotiation) (refused : IrcCapabilitySet)
    (token : String) :
    (rejectToken (caps, refused) token).1 = (rejectToken (caps, ∅) token).1 := by
  delta rejectToken
  generalize wantedFor (tokenName token) = found
  cases found with
  | none => rfl
  | some named =>
      simp only
      split_ifs
      all_goals rfl

variable (caps)

/-- The timeout refuses every row that waits for an answer. -/
theorem abandonOutstanding_tokens :
    caps.abandonOutstanding.1.tokens wanted =
      if caps.tokens wanted = some .requested then some .refused else caps.tokens wanted := by
  have pass (rows : List WantedToken) (progress : IrcCapabilityNegotiation × IrcCapabilitySet) :
      (rows.foldl abandonToken progress).1.tokens wanted =
        if wanted ∈ rows ∧ progress.1.tokens wanted = some .requested then some .refused
        else progress.1.tokens wanted := by
    induction rows generalizing progress with
    | nil => simp
    | cons row rest inductionHypothesis =>
        rw [List.foldl_cons, inductionHypothesis, abandonToken]
        by_cases waiting : progress.1.tokens row = some .requested
        · by_cases same : wanted = row
          · subst same
            simp [waiting]
          · simp [waiting, same]
        · by_cases same : wanted = row
          · subst same
            simp [waiting]
          · simp [waiting, same]
  rw [abandonOutstanding, pass]
  simp

/-! ## A pass over the table -/

/-- The row's dependency was advertised, and neither refused nor withdrawn. -/
def DependencyStands : Prop :=
  ∀ dependency, wanted.dependency = some dependency →
    caps.anyToken dependency [.advertised, .requested, .enabled] = true

theorem isRequestable_iff :
    caps.isRequestable wanted = true ↔
      caps.tokens wanted = some .advertised ∧
        caps.anyToken wanted.capability [.enabled, .requested] = false ∧
        (wanted.needsCredentials = true → caps.saslCredentialsAvailable = true) ∧
        caps.DependencyStands wanted := by
  unfold isRequestable DependencyStands
  cases wanted.dependency
  all_goals simp [and_assoc, or_iff_not_imp_left]

/-- Asking for an advertised row makes no other row requestable. -/
theorem isRequestable_of_requested {row : WantedToken} (advertised : caps.tokens row = some .advertised)
    (requestable : (caps.setState row .requested).isRequestable wanted = true) :
    caps.isRequestable wanted = true := by
  rw [isRequestable_iff] at requestable ⊢
  obtain ⟨offered, unplayed, credentials, stands⟩ := requestable
  refine ⟨?_, ?_, credentials, fun dependency depends => ?_⟩
  · rw [setState_tokens] at offered
    split at offered
    · cases offered
    · exact offered
  · refine eq_false_of_ne_true fun played => ?_
    obtain ⟨other, state, same, found, listed⟩ := caps.anyToken_iff.mp played
    refine Bool.eq_false_iff.mp unplayed (anyToken_iff _ |>.mpr ⟨other, state, same, ?_, listed⟩)
    rw [setState_tokens, if_neg, found]
    rintro rfl
    rw [advertised] at found
    cases found
    simp at listed
  · obtain ⟨other, state, same, found, listed⟩ := (anyToken_iff _).mp (stands dependency depends)
    rw [setState_tokens] at found
    split at found
    · rename_i asked
      exact caps.anyToken_iff.mpr ⟨other, .advertised, same, asked ▸ advertised, by simp⟩
    · exact caps.anyToken_iff.mpr ⟨other, state, same, found, listed⟩

/-- At most one spelling of each capability waits for an answer or is granted. -/
def OneSpelling : Prop :=
  ∀ first second : WantedToken, first.capability = second.capability → caps.InPlay first →
    caps.InPlay second → first = second

/-- Rows that leave play bring no second spelling. -/
theorem OneSpelling.of_fewer {caps after : IrcCapabilityNegotiation} (one : caps.OneSpelling)
    (fewer : ∀ wanted, after.InPlay wanted → caps.InPlay wanted) : after.OneSpelling :=
  fun first second same left right => one first second same (fewer first left) (fewer second right)

/-- Asking for a requestable row brings no second spelling. -/
theorem OneSpelling.asks {caps : IrcCapabilityNegotiation} (one : caps.OneSpelling)
    {wanted : WantedToken} (requestable : caps.isRequestable wanted = true) :
    (caps.setState wanted .requested).OneSpelling := by
  obtain ⟨-, unplayed, -, -⟩ := caps.isRequestable_iff wanted |>.mp requestable
  have alone (other : WantedToken) (same : other.capability = wanted.capability) :
      ¬ caps.InPlay other := by
    intro played
    refine Bool.eq_false_iff.mp unplayed (caps.anyToken_iff.mpr ?_)
    rcases played with waiting | granted
    · exact ⟨other, .requested, same, waiting, by simp⟩
    · exact ⟨other, .enabled, same, granted, by simp⟩
  have others {other : WantedToken} (different : other ≠ wanted)
      (played : (caps.setState wanted .requested).InPlay other) : caps.InPlay other := by
    simpa [InPlay, different] using played
  intro first second same left right
  by_cases here : first = wanted
  · by_contra apart
    have elsewhere : second ≠ wanted := fun there => apart (here.trans there.symm)
    exact alone second (same.symm.trans (congrArg _ here)) (others elsewhere right)
  · by_cases there : second = wanted
    · exact (alone first (same.trans (congrArg _ there)) (others here left)).elim
    · exact one first second same (others here left) (others there right)

/-- How far a pass over the table came: the rows it asked for were advertised, and it lists
them. -/
structure Scanned (caps : IrcCapabilityNegotiation) (scan : RequestScan) : Prop where
  words : ∀ text, text ∈ scan.request.lines ∨ text ∈ scan.presence → ' ' ∉ text.toList
  rows : ∀ wanted, scan.caps.tokens wanted = caps.tokens wanted ∨
    caps.tokens wanted = some .advertised ∧ scan.caps.tokens wanted = some .requested ∧
      caps.DependencyStands wanted ∧
        (wanted.text ∈ scan.request.lines ∨ wanted.text ∈ scan.presence)

theorem requestToken_of_idle {scan : RequestScan} {wanted : WantedToken}
    (idle : scan.caps.isRequestable wanted = false) : requestToken scan wanted = scan := by
  rw [requestToken, idle]
  rfl

/-- A requestable row is asked for, and its spelling is listed. -/
theorem requestToken_of_requestable {scan : RequestScan} {wanted : WantedToken}
    (requestable : scan.caps.isRequestable wanted = true) :
    (requestToken scan wanted).caps = scan.caps.setState wanted .requested ∧
      ∀ text, text ∈ (requestToken scan wanted).request.lines ∨
          text ∈ (requestToken scan wanted).presence ↔
        text = wanted.text ∨ text ∈ scan.request.lines ∨ text ∈ scan.presence := by
  rw [requestToken, requestable]
  refine ⟨rfl, fun text => ?_⟩
  by_cases own : wanted.ownRequestLine = true
  · by_cases sasl : wanted.capability = .sasl
    all_goals
      simp [own, sasl]
      tauto
  · by_cases sasl : wanted.capability = .sasl
    all_goals
      simp [own, sasl]
      tauto

/-- The states of the rows a dependency looks at stand through a pass. -/
theorem Scanned.dependencyStands {scan : RequestScan} (scanned : Scanned caps scan)
    {wanted : WantedToken} (stands : scan.caps.DependencyStands wanted) :
    caps.DependencyStands wanted := by
  intro dependency depends
  obtain ⟨other, state, same, found, listed⟩ := (anyToken_iff _).mp (stands dependency depends)
  rcases scanned.rows other with unchanged | ⟨advertised, -⟩
  · exact caps.anyToken_iff.mpr ⟨other, state, same, unchanged.symm.trans found, listed⟩
  · exact caps.anyToken_iff.mpr ⟨other, .advertised, same, advertised, by simp⟩

theorem Scanned.next {scan : RequestScan} (scanned : Scanned caps scan) (wanted : WantedToken) :
    Scanned caps (requestToken scan wanted) := by
  by_cases requestable : scan.caps.isRequestable wanted = true
  · obtain ⟨asked, listed⟩ := requestToken_of_requestable requestable
    obtain ⟨offered, -, -, stands⟩ := (isRequestable_iff _ _).mp requestable
    refine ⟨fun text present => ?_, fun other => ?_⟩
    · rcases (listed text).mp present with rfl | earlier
      · exact wanted.text_plain
      · exact scanned.words text earlier
    · rw [asked, setState_tokens, listed]
      by_cases same : other = wanted
      · subst same
        rw [if_pos rfl]
        rcases scanned.rows other with unchanged | ⟨advertised, requested, -⟩
        · exact .inr ⟨unchanged.symm.trans offered, rfl, scanned.dependencyStands _ stands, .inl rfl⟩
        · rw [requested] at offered
          cases offered
      · rw [if_neg same]
        rcases scanned.rows other with unchanged | ⟨advertised, requested, stood, present⟩
        · exact .inl unchanged
        · exact .inr ⟨advertised, requested, stood, .inr present⟩
  · rw [requestToken_of_idle (eq_false_of_ne_true requestable)]
    exact scanned

/-- The result of a pass over the table. -/
def RequestScan.result (scan : RequestScan) : IrcCapabilityNegotiation × IrcCapabilityRequest :=
  (scan.caps, { scan.request with
    lines := if scan.presence = [] then scan.request.lines
      else scan.request.lines ++ [joinTexts " " scan.presence] })

theorem takeRequest_eq : caps.takeRequest = (wantedTokens.foldl requestToken { caps }).result := by
  delta takeRequest RequestScan.result
  generalize wantedTokens.foldl requestToken { caps } = scan
  rfl

theorem foldl_requestToken_scanned (rows : List WantedToken) {scan : RequestScan}
    (scanned : Scanned caps scan) : Scanned caps (rows.foldl requestToken scan) := by
  induction rows generalizing scan with
  | nil => exact scanned
  | cons row rest inductionHypothesis => exact inductionHypothesis (scanned.next _ row)

/-- What the result of a pass lists, it asks for. -/
theorem Scanned.asks {scan : RequestScan} (scanned : Scanned caps scan) {wanted : WantedToken}
    (listed : wanted.text ∈ scan.request.lines ∨ wanted.text ∈ scan.presence) :
    scan.result.2.Asks wanted := by
  rcases listed with own | shared
  · refine ⟨wanted.text, ?_, ?_⟩
    · rw [RequestScan.result]
      simp only
      split
      · exact own
      · exact List.mem_append_left _ own
    · have single : splitText ' ' (joinTexts " " [wanted.text]) = [wanted.text] :=
        splitText_joinTexts (by simp) (by simpa using wanted.text_plain)
      have joined : joinTexts " " [wanted.text] = wanted.text := by simp [joinTexts]
      rw [joined] at single
      simp [single]
  · have some : scan.presence ≠ [] := List.ne_nil_of_mem shared
    refine ⟨joinTexts " " scan.presence, ?_, ?_⟩
    · rw [RequestScan.result]
      simp only
      rw [if_neg some]
      exact List.mem_append_right _ (List.mem_singleton.mpr rfl)
    · rw [splitText_joinTexts some fun word present => scanned.words word (.inr present)]
      exact shared

/-- What a request makes of a row: it is as before, or it was advertised and is asked for
while its dependency stands. -/
theorem takeRequest_tokens :
    caps.takeRequest.1.tokens wanted = caps.tokens wanted ∨
      caps.tokens wanted = some .advertised ∧ caps.takeRequest.1.tokens wanted = some .requested ∧
        caps.DependencyStands wanted ∧ caps.takeRequest.2.Asks wanted := by
  have start : Scanned caps { caps } :=
    ⟨fun text present => present.elim nofun nofun, fun wanted => .inl rfl⟩
  have scanned := foldl_requestToken_scanned caps wantedTokens start
  rw [takeRequest_eq]
  revert scanned
  generalize wantedTokens.foldl requestToken { caps } = scan
  intro scanned
  rcases scanned.rows wanted with unchanged | ⟨advertised, requested, stands, listed⟩
  · exact .inl unchanged
  · exact .inr ⟨advertised, requested, stands, scanned.asks _ listed⟩

/-- A pass over rows leaves none of them requestable, nor any that was not. -/
theorem foldl_requestToken_idle (rows : List WantedToken) (scan : RequestScan)
    (wanted : WantedToken) (settled : wanted ∈ rows ∨ scan.caps.isRequestable wanted = false) :
    (rows.foldl requestToken scan).caps.isRequestable wanted = false := by
  induction rows generalizing scan with
  | nil => exact settled.resolve_left List.not_mem_nil
  | cons row rest inductionHypothesis =>
      rw [List.foldl_cons]
      apply inductionHypothesis
      by_cases later : wanted ∈ rest
      · exact .inl later
      · refine .inr ?_
        by_cases requestable : scan.caps.isRequestable row = true
        · obtain ⟨asked, -⟩ := requestToken_of_requestable requestable
          rw [asked]
          by_cases same : wanted = row
          · subst same
            refine eq_false_of_ne_true fun again => ?_
            have offered := ((isRequestable_iff _ _).mp again).1
            simp at offered
          · have idle : scan.caps.isRequestable wanted = false := by
              refine settled.resolve_left fun listed => ?_
              exact (List.mem_cons.mp listed).elim same later
            refine eq_false_of_ne_true fun again => Bool.eq_false_iff.mp idle ?_
            exact isRequestable_of_requested _ _ ((isRequestable_iff _ _).mp requestable).1 again
        · rw [requestToken_of_idle (eq_false_of_ne_true requestable)]
          rcases settled with listed | idle
          · rcases List.mem_cons.mp listed with rfl | listed
            · exact eq_false_of_ne_true requestable
            · exact (later listed).elim
          · exact idle

/-- After a request nothing is requestable. -/
theorem takeRequest_idle : caps.takeRequest.1.isRequestable wanted = false := by
  have idle := foldl_requestToken_idle wantedTokens { caps } wanted (.inl (mem_wantedTokens wanted))
  rw [takeRequest_eq]
  revert idle
  generalize wantedTokens.foldl requestToken { caps } = scan
  exact id

/-- Where nothing is requestable, a request asks for nothing and changes nothing. -/
theorem takeRequest_of_idle (idle : ∀ wanted, caps.isRequestable wanted = false) :
    caps.takeRequest = (caps, {}) := by
  have pass (rows : List WantedToken) :
      rows.foldl requestToken { caps } = ({ caps } : RequestScan) := by
    induction rows with
    | nil => rfl
    | cons row rest inductionHypothesis =>
        have passed : requestToken { caps } row = { caps } := requestToken_of_idle (idle row)
        rw [List.foldl_cons, passed, inductionHypothesis]
  rw [takeRequest_eq, pass]
  rfl

/-- A request brings no second spelling. -/
theorem OneSpelling.takeRequest {caps : IrcCapabilityNegotiation} (one : caps.OneSpelling) :
    caps.takeRequest.1.OneSpelling := by
  have pass (rows : List WantedToken) (scan : RequestScan) (one : scan.caps.OneSpelling) :
      (rows.foldl requestToken scan).caps.OneSpelling := by
    induction rows generalizing scan with
    | nil => exact one
    | cons row rest inductionHypothesis =>
        apply inductionHypothesis
        by_cases requestable : scan.caps.isRequestable row = true
        · rw [(requestToken_of_requestable requestable).1]
          exact one.asks requestable
        · rw [requestToken_of_idle (eq_false_of_ne_true requestable)]
          exact one
  have passed := pass wantedTokens { caps } one
  rw [takeRequest_eq]
  revert passed
  generalize wantedTokens.foldl requestToken { caps } = scan
  exact id

end IrcCapabilityNegotiation

end Omairc.Irc

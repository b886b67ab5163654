import Omairc.Session.SaslFraming

/-!
# The discipline of a SCRAM exchange

Over every sequence of payloads, an exchange opens once, answers the server-first
message once, and verifies the server once, in that order. It answers only a nonce that
continues its own, a salt and an iteration count it accepts, and it verifies only the
signature it expects. When the machine refuses a challenge, nothing goes out any more. A
payload that is refused before it is a challenge leaves the exchange open: there the
session fails, and handles no further payload.
-/

namespace Omairc.Session

open Omairc.Text Omairc.Irc

/-- A payload of the server, and what the system's random source would give at that time. -/
structure Challenge where
  payload : Bytes
  entropy : Option Bytes := none

/-- What one payload comes to. -/
inductive ScramEvent
  | clientFirst (sent : Bytes)
  | clientFinal (serverFirst sent : Bytes)
  | verified (serverFinal : Bytes)
  | rejected
  | malformed
  | waiting
  deriving DecidableEq

/-- A message of the client, or the verified server. -/
def ScramEvent.isProgress : ScramEvent → Bool
  | .clientFirst _ | .clientFinal _ _ | .verified _ => true
  | _ => false

/-- A failure of the exchange. -/
def ScramEvent.isFailure : ScramEvent → Bool
  | .rejected | .malformed => true
  | _ => false

section Definitions

variable [Platform]

namespace ScramExchange

/-- What a payload came to, by where the exchange stood and what it replied. The machine rejects
a whole challenge; what is refused before that is malformed. -/
def event (before : ScramExchange) (payload : Bytes) (reply : ScramReply) : ScramEvent :=
  match reply, before.phase, (before.incoming.take payload).2 with
  | .continue, _, _ => .waiting
  | .send raw, .awaitPrompt, _ => .clientFirst raw
  | .send raw, .awaitServerFirst, .ok (some challenge) => .clientFinal challenge raw
  | .send _, .awaitServerFinal, .ok (some challenge) => .verified challenge
  | .fail, .awaitServerFirst, .ok (some _) => .rejected
  | .fail, .awaitServerFinal, .ok (some _) => .rejected
  | _, _, _ => .malformed

/-- Take payloads one by one, with what each came to. -/
def run (account password : String) (exchange : ScramExchange) :
    List Challenge → ScramExchange × List ScramEvent
  | [] => (exchange, [])
  | challenge :: rest =>
      let (next, reply) := exchange.takePayload challenge.payload account password challenge.entropy
      let (last, events) := next.run account password rest
      (last, exchange.event challenge.payload reply :: events)

end ScramExchange

/-- What a client derives from a server-first message. -/
structure Derivation where
  clientNonce : Bytes
  serverFirst : Bytes
  serverNonce : Bytes
  salt : Bytes
  iterations : Nat

namespace Derivation

/-- The client-first message without its header. -/
def firstBare (account : String) (clientNonce : Bytes) : Bytes :=
  utf8 "n=" ++ escapeSaslName account ++ utf8 ",r=" ++ clientNonce

/-- The client-first message. -/
def clientFirst (account : String) (clientNonce : Bytes) : Bytes :=
  utf8 "n,," ++ firstBare account clientNonce

variable (derivation : Derivation)

/-- The client-final message without its proof. -/
def withoutProof : Bytes := utf8 "c=biws,r=" ++ derivation.serverNonce

/-- The text that both sides sign. -/
def authMessage (account : String) : Bytes :=
  firstBare account derivation.clientNonce ++ [44] ++ derivation.serverFirst ++ [44] ++
    derivation.withoutProof

/-- The salted password. -/
def salted (password : String) : Bytes :=
  Platform.pbkdf2HmacSha256 (utf8 password) derivation.salt derivation.iterations

/-- The key the server signs with. -/
def serverKey (password : String) : Bytes :=
  Platform.hmacSha256 (derivation.salted password) (utf8 "Server Key")

/-- The signature the client expects of the server. -/
def serverSignature (account password : String) : Bytes :=
  Platform.hmacSha256 (derivation.serverKey password) (derivation.authMessage account)

/-- The client-final message, with its proof. -/
def clientFinal (account password : String) : Bytes :=
  let clientKey := Platform.hmacSha256 (derivation.salted password) (utf8 "Client Key")
  let clientSignature :=
    Platform.hmacSha256 (Platform.sha256 clientKey) (derivation.authMessage account)
  derivation.withoutProof ++ utf8 ",p=" ++
    Platform.base64Encode (List.zipWith (· ^^^ ·) clientKey clientSignature)

/-- The server-first message is one that may be answered: it is no error, its nonce strictly
continues the client's, its salt decodes, and its iteration count is within the range. -/
structure Accepted : Prop where
  acceptable : acceptableNonce derivation.clientNonce = true
  continues : ∃ more, more ≠ [] ∧ derivation.serverNonce = derivation.clientNonce ++ more
  range : minIterations ≤ derivation.iterations ∧ derivation.iterations ≤ maxIterations
  attributes : ∃ attributes salt iterations,
    parseAttributes derivation.serverFirst (utf8 "rsi") = .ok attributes ∧
      attributes.serverError = false ∧ attributes.nonce = some derivation.serverNonce ∧
      attributes.salt = some salt ∧ decodeBase64 salt = .ok derivation.salt ∧
      attributes.iterations = some iterations ∧
      parseIterations iterations = .ok derivation.iterations

/-- The server-final message carries exactly the expected signature. -/
def Verifies (account password : String) (serverFinal : Bytes) : Prop :=
  ∃ attributes verifier, parseAttributes serverFinal (utf8 "v") = .ok attributes ∧
    attributes.serverError = false ∧ attributes.verifier = some verifier ∧
    decodeBase64 verifier = .ok (derivation.serverSignature account password)

end Derivation

/-- The progress an exchange may make: client-first, then one client-final for a server-first
message that may be answered, then the server verified by its expected signature. -/
inductive Disciplined (account password : String) : List ScramEvent → Prop
  | unopened : Disciplined account password []
  | opened (clientNonce : Bytes) (acceptable : acceptableNonce clientNonce = true) :
      Disciplined account password [.clientFirst (Derivation.clientFirst account clientNonce)]
  | answered (derivation : Derivation) (accepted : derivation.Accepted) :
      Disciplined account password
        [.clientFirst (Derivation.clientFirst account derivation.clientNonce),
          .clientFinal derivation.serverFirst (derivation.clientFinal account password)]
  | verified (derivation : Derivation) (accepted : derivation.Accepted) (serverFinal : Bytes)
      (verifies : derivation.Verifies account password serverFinal) :
      Disciplined account password
        [.clientFirst (Derivation.clientFirst account derivation.clientNonce),
          .clientFinal derivation.serverFirst (derivation.clientFinal account password),
          .verified serverFinal]

end Definitions

section Runs

variable [Platform] {account password : String}

/-! ## The machine -/

/-- The machine after client-first. -/
def SaslScram.opened (account password : String) (clientNonce : Bytes) : SaslScram where
  step := .awaitServerFirst
  password := password
  clientNonce := clientNonce
  clientFirstBare := Derivation.firstBare account clientNonce

/-- The machine after client-final. -/
def SaslScram.answered (account password : String) (derivation : Derivation) : SaslScram :=
  { SaslScram.opened account password derivation.clientNonce with
    step := .awaitServerFinal
    password := ""
    authMessage := derivation.authMessage account
    serverKey := derivation.serverKey password }

/-- An exchange begins with an acceptable nonce. -/
theorem SaslScram.start_ok {entropy : Option Bytes} {scram : SaslScram} {message : Bytes}
    (started : SaslScram.start account password entropy = (scram, .ok message)) :
    ∃ clientNonce, acceptableNonce clientNonce = true ∧
      scram = .opened account password clientNonce ∧
        message = Derivation.clientFirst account clientNonce := by
  rw [SaslScram.start] at started
  split at started
  · cases started
  · dsimp only at started
    split at started
    · cases started
    · rename_i acceptable
      rw [Bool.not_eq_true', Bool.not_eq_false] at acceptable
      obtain ⟨rfl, same⟩ := Prod.mk.inj started
      exact ⟨_, acceptable, rfl, (Except.ok.inj same).symm⟩

omit [Platform] in
/-- An iteration count that is read is within the range. -/
theorem parseIterations_range {text : Bytes} {iterations : Nat}
    (read : parseIterations text = .ok iterations) :
    minIterations ≤ iterations ∧ (iterations : Int) ≤ maxIterations := by
  rw [parseIterations] at read
  split at read
  · cases read
  · split at read
    · cases read
    · split at read
      · rename_i count _ range
        rw [← Except.ok.inj read, Int.toNat_of_nonneg (by
          have least : (0 : Int) ≤ minIterations := by decide
          omega)]
        exact range
      · cases read

omit [Platform] in
/-- A nonce that continues the client's is the client's with something behind it. -/
theorem continues_of_guard {clientNonce serverNonce : Bytes}
    (guard : ¬ (serverNonce.length ≤ clientNonce.length ||
      !clientNonce.isPrefixOf serverNonce) = true) :
    ∃ more, more ≠ [] ∧ serverNonce = clientNonce ++ more := by
  simp only [Bool.or_eq_true, decide_eq_true_eq, Bool.not_eq_true', not_or, Nat.not_le,
    Bool.not_eq_false, List.isPrefixOf_iff_prefix] at guard
  obtain ⟨longer, more, rfl⟩ := guard
  refine ⟨more, ?_, rfl⟩
  rintro rfl
  simp at longer

/-- The machine answers only a server-first message that may be answered. -/
theorem SaslScram.clientFinalFor_ok {clientNonce message clientFinal : Bytes} {next : SaslScram}
    (acceptable : acceptableNonce clientNonce = true)
    (answered : (SaslScram.opened account password clientNonce).clientFinalFor message =
      .ok (next, clientFinal)) :
    ∃ derivation : Derivation, derivation.Accepted ∧ derivation.clientNonce = clientNonce ∧
      derivation.serverFirst = message ∧ next = .answered account password derivation ∧
        clientFinal = derivation.clientFinal account password := by
  rw [clientFinalFor] at answered
  cases parsed : parseAttributes message (utf8 "rsi") with
  | error failure =>
      rw [parsed] at answered
      cases answered
  | ok attributes =>
      simp only [parsed, bind, Except.bind] at answered
      cases rejected : attributes.serverError with
      | true =>
          rw [rejected] at answered
          cases answered
      | false =>
          simp only [rejected, Bool.false_eq_true, if_false, pure, Except.pure] at answered
          cases nonce : attributes.nonce with
          | none =>
              rw [nonce] at answered
              cases answered
          | some serverNonce =>
              cases salted : attributes.salt with
              | none =>
                  rw [nonce, salted] at answered
                  cases answered
              | some encoded =>
                  cases counted : attributes.iterations with
                  | none =>
                      rw [nonce, salted, counted] at answered
                      cases answered
                  | some digits =>
                      simp only [nonce, salted, counted] at answered
                      split at answered
                      · cases answered
                      · rename_i guard
                        cases iterated : parseIterations digits with
                        | error failure =>
                            rw [iterated] at answered
                            cases answered
                        | ok iterations =>
                            cases decoded : decodeBase64 encoded with
                            | error failure =>
                                simp only [iterated, decoded] at answered
                                cases answered
                            | ok salt =>
                                simp only [iterated, decoded, Except.ok.injEq, Prod.mk.injEq]
                                  at answered
                                obtain ⟨rfl, rfl⟩ := answered
                                refine ⟨⟨clientNonce, message, serverNonce, salt, iterations⟩,
                                  ⟨acceptable, continues_of_guard guard,
                                    parseIterations_range iterated, ?_⟩, rfl, rfl, rfl, rfl⟩
                                exact ⟨attributes, encoded, digits, parsed, rejected, nonce,
                                  salted, decoded, counted, iterated⟩

/-- The machine verifies only the expected signature. -/
theorem SaslScram.verifyServerFinal_ok {derivation : Derivation} {message : Bytes}
    (verified :
      (SaslScram.answered account password derivation).verifyServerFinal message = .ok ()) :
    derivation.Verifies account password message := by
  rw [verifyServerFinal] at verified
  cases parsed : parseAttributes message (utf8 "v") with
  | error failure =>
      rw [parsed] at verified
      cases verified
  | ok attributes =>
      simp only [parsed, bind, Except.bind] at verified
      cases rejected : attributes.serverError with
      | true =>
          rw [rejected] at verified
          cases verified
      | false =>
          simp only [rejected, Bool.false_eq_true, if_false, pure, Except.pure] at verified
          cases signed : attributes.verifier with
          | none =>
              rw [signed] at verified
              cases verified
          | some encoded =>
              cases decoded : decodeBase64 encoded with
              | error failure =>
                  simp only [signed, decoded] at verified
                  cases verified
              | ok verifier =>
                  simp only [signed, decoded] at verified
                  split at verified
                  · rename_i same
                    refine ⟨attributes, encoded, parsed, rejected, signed, ?_⟩
                    rw [decoded, ← same]
                    rfl
                  · cases verified

/-! ## The exchange -/

/-- Where an exchange stands after some progress. The machine is idle once it refused a
challenge. -/
inductive Stands (account password : String) : ScramExchange → List ScramEvent → Prop
  | unopened {exchange : ScramExchange} (phase : exchange.phase = .awaitPrompt) :
      Stands account password exchange []
  | opened {exchange : ScramExchange} (clientNonce : Bytes)
      (acceptable : acceptableNonce clientNonce = true)
      (phase : exchange.phase = .awaitServerFirst)
      (machine : exchange.scram = .opened account password clientNonce ∨
        exchange.scram.step = .idle) :
      Stands account password exchange
        [.clientFirst (Derivation.clientFirst account clientNonce)]
  | answered {exchange : ScramExchange} (derivation : Derivation) (accepted : derivation.Accepted)
      (phase : exchange.phase = .awaitServerFinal)
      (machine : exchange.scram = .answered account password derivation ∨
        exchange.scram.step = .idle) :
      Stands account password exchange
        [.clientFirst (Derivation.clientFirst account derivation.clientNonce),
          .clientFinal derivation.serverFirst (derivation.clientFinal account password)]
  | verified {exchange : ScramExchange} (derivation : Derivation) (accepted : derivation.Accepted)
      (serverFinal : Bytes) (verifies : derivation.Verifies account password serverFinal)
      (phase : exchange.phase = .verified) :
      Stands account password exchange
        [.clientFirst (Derivation.clientFirst account derivation.clientNonce),
          .clientFinal derivation.serverFirst (derivation.clientFinal account password),
          .verified serverFinal]

namespace Stands

variable {exchange : ScramExchange} {progress : List ScramEvent}

/-- Such progress is disciplined. -/
theorem disciplined (stands : Stands account password exchange progress) :
    Disciplined account password progress := by
  cases stands with
  | unopened => exact .unopened
  | opened clientNonce acceptable => exact .opened clientNonce acceptable
  | answered derivation accepted => exact .answered derivation accepted
  | verified derivation accepted serverFinal verifies =>
      exact .verified derivation accepted serverFinal verifies

/-- The server is verified exactly when that is part of the progress. -/
theorem isVerified_iff (stands : Stands account password exchange progress) :
    exchange.isVerified = true ↔ ∃ serverFinal, .verified serverFinal ∈ progress := by
  cases stands with
  | unopened phase => simp [ScramExchange.isVerified, phase]
  | opened clientNonce acceptable phase => simp [ScramExchange.isVerified, phase]
  | answered derivation accepted phase => simp [ScramExchange.isVerified, phase]
  | verified derivation accepted serverFinal verifies phase =>
      simp [ScramExchange.isVerified, phase]

end Stands

/-- The machine refused a challenge: the exchange waits for a message the machine will not take. -/
structure Dead (exchange : ScramExchange) : Prop where
  phase : exchange.phase = .awaitServerFirst ∨ exchange.phase = .awaitServerFinal
  idle : exchange.scram.step = .idle

/-- What one payload does to an exchange. -/
structure Advances (account password : String) (exchange : ScramExchange)
    (progress : List ScramEvent) (next : ScramExchange) (event : ScramEvent) : Prop where
  stands : Stands account password next (progress ++ [event].filter ScramEvent.isProgress)
  rejected : event = .rejected → Dead next
  dead : Dead exchange → Dead next ∧ event.isProgress = false

/-- One payload takes an exchange a step on at most. -/
theorem Stands.takePayload {exchange : ScramExchange} {progress : List ScramEvent}
    (stands : Stands account password exchange progress) (challenge : Challenge) :
    Advances account password exchange progress
      (exchange.takePayload challenge.payload account password challenge.entropy).1
      (exchange.event challenge.payload
        (exchange.takePayload challenge.payload account password challenge.entropy).2) := by
  have alive (waits : exchange.phase = .awaitPrompt ∨ exchange.phase = .verified) :
      ¬ Dead exchange := by
    intro dead
    rcases waits with phase | phase
    all_goals
      rcases dead.phase with other | other
      all_goals exact absurd (phase.symm.trans other) (by decide)
  cases stands with
  | unopened phase =>
      have fresh := alive (.inl phase)
      unfold ScramExchange.takePayload ScramExchange.event
      rw [phase]
      dsimp only
      split
      · exact ⟨.unopened phase, nofun, fun dead => absurd dead fresh⟩
      · cases started : SaslScram.start account password challenge.entropy with
        | mk scram result =>
            cases result with
            | error failure =>
                exact ⟨.unopened rfl, nofun, fun dead => absurd dead fresh⟩
            | ok message =>
                obtain ⟨clientNonce, acceptable, machine, rfl⟩ := SaslScram.start_ok started
                exact ⟨.opened clientNonce acceptable rfl (.inl machine), nofun,
                  fun dead => absurd dead fresh⟩
  | opened clientNonce acceptable phase machine =>
      unfold ScramExchange.takePayload ScramExchange.event
      rw [phase]
      dsimp only
      cases taken : exchange.incoming.take challenge.payload with
      | mk incoming result =>
          cases result with
          | error failure =>
              exact ⟨.opened clientNonce acceptable rfl machine, nofun,
                fun dead => ⟨⟨.inl rfl, dead.idle⟩, rfl⟩⟩
          | ok whole =>
              cases whole with
              | none =>
                  exact ⟨.opened clientNonce acceptable rfl machine, nofun,
                    fun dead => ⟨⟨.inl rfl, dead.idle⟩, rfl⟩⟩
              | some message =>
                  rcases machine with machine | idle
                  · have awake : ¬ Dead exchange := fun dead => by
                      have step := dead.idle
                      rw [machine] at step
                      cases step
                    have awaits : ¬ (SaslScram.opened account password clientNonce).step ≠
                        .awaitServerFirst := not_not_intro rfl
                    dsimp only
                    rw [machine, SaslScram.takeServerFirst, if_neg awaits]
                    cases answered :
                        (SaslScram.opened account password clientNonce).clientFinalFor message with
                    | error failure =>
                        exact ⟨.opened clientNonce acceptable rfl (.inr rfl),
                          fun _ => ⟨.inl rfl, rfl⟩, fun dead => absurd dead awake⟩
                    | ok result =>
                        obtain ⟨derivation, accepted, rfl, rfl, machine, final⟩ :=
                          SaslScram.clientFinalFor_ok acceptable answered
                        obtain ⟨next, clientFinal⟩ := result
                        dsimp only at machine final
                        subst final
                        exact ⟨.answered derivation accepted rfl (.inl machine), nofun,
                          fun dead => absurd dead awake⟩
                  · have asleep : exchange.scram.step ≠ .awaitServerFirst := by
                      rw [idle]
                      decide
                    dsimp only
                    rw [SaslScram.takeServerFirst, if_pos asleep]
                    exact ⟨.opened clientNonce acceptable rfl (.inr idle),
                      fun _ => ⟨.inl rfl, idle⟩, fun _ => ⟨⟨.inl rfl, idle⟩, rfl⟩⟩
  | answered derivation accepted phase machine =>
      unfold ScramExchange.takePayload ScramExchange.event
      rw [phase]
      dsimp only
      cases taken : exchange.incoming.take challenge.payload with
      | mk incoming result =>
          cases result with
          | error failure =>
              exact ⟨.answered derivation accepted rfl machine, nofun,
                fun dead => ⟨⟨.inr rfl, dead.idle⟩, rfl⟩⟩
          | ok whole =>
              cases whole with
              | none =>
                  exact ⟨.answered derivation accepted rfl machine, nofun,
                    fun dead => ⟨⟨.inr rfl, dead.idle⟩, rfl⟩⟩
              | some message =>
                  rcases machine with machine | idle
                  · have awake : ¬ Dead exchange := fun dead => by
                      have step := dead.idle
                      rw [machine] at step
                      cases step
                    have awaits : ¬ (SaslScram.answered account password derivation).step ≠
                        .awaitServerFinal := not_not_intro rfl
                    dsimp only
                    rw [machine, SaslScram.takeServerFinal, if_neg awaits]
                    cases verified : (SaslScram.answered account password
                        derivation).verifyServerFinal message with
                    | error failure =>
                        exact ⟨.answered derivation accepted rfl (.inr rfl),
                          fun _ => ⟨.inr rfl, rfl⟩, fun dead => absurd dead awake⟩
                    | ok result =>
                        exact ⟨.verified derivation accepted message
                          (SaslScram.verifyServerFinal_ok verified) rfl, nofun,
                          fun dead => absurd dead awake⟩
                  · have asleep : exchange.scram.step ≠ .awaitServerFinal := by
                      rw [idle]
                      decide
                    dsimp only
                    rw [SaslScram.takeServerFinal, if_pos asleep]
                    exact ⟨.answered derivation accepted rfl (.inr idle),
                      fun _ => ⟨.inr rfl, idle⟩, fun _ => ⟨⟨.inr rfl, idle⟩, rfl⟩⟩
  | verified derivation accepted serverFinal verifies phase =>
      have closed := alive (.inr phase)
      unfold ScramExchange.takePayload ScramExchange.event
      rw [phase]
      exact ⟨.verified derivation accepted serverFinal verifies phase, nofun,
        fun dead => absurd dead closed⟩

/-- The first payload of a run, then the others. -/
theorem ScramExchange.run_cons (exchange : ScramExchange) (challenge : Challenge)
    (rest : List Challenge) :
    exchange.run account password (challenge :: rest) =
      ((ScramExchange.run account password
          (exchange.takePayload challenge.payload account password challenge.entropy).1 rest).1,
        exchange.event challenge.payload
            (exchange.takePayload challenge.payload account password challenge.entropy).2 ::
          (ScramExchange.run account password
            (exchange.takePayload challenge.payload account password challenge.entropy).1
            rest).2) :=
  rfl

/-- The events of a run, and where it ends. -/
theorem Stands.run {exchange : ScramExchange} {progress : List ScramEvent}
    (stands : Stands account password exchange progress) (challenges : List Challenge) :
    Stands account password (exchange.run account password challenges).1
        (progress ++ (exchange.run account password challenges).2.filter ScramEvent.isProgress) ∧
      (Dead exchange →
        ∀ event ∈ (exchange.run account password challenges).2, event.isProgress = false) ∧
      ∀ front back, (exchange.run account password challenges).2 = front ++ .rejected :: back →
        ∀ event ∈ back, event.isProgress = false := by
  induction challenges generalizing exchange progress with
  | nil =>
      refine ⟨by simpa [ScramExchange.run] using stands,
        fun _ event present => (by cases present), fun front back same => ?_⟩
      exact absurd same.symm (by simp [ScramExchange.run])
  | cons challenge rest inductionHypothesis =>
      have advances := stands.takePayload challenge
      obtain ⟨later, quiet, sticky⟩ := inductionHypothesis advances.stands
      rw [ScramExchange.run_cons]
      refine ⟨?_, fun dead => ?_, fun front back same => ?_⟩
      · rw [← List.singleton_append, List.filter_append, ← List.append_assoc]
        exact later
      · obtain ⟨still, silent⟩ := advances.dead dead
        intro event present
        rcases List.mem_cons.mp present with rfl | present
        · exact silent
        · exact quiet still event present
      · cases front with
        | nil =>
            obtain ⟨first, same⟩ := List.cons.inj same
            exact same ▸ quiet (advances.rejected first)
        | cons first front =>
            exact sticky front back (List.cons.inj same).2

/-! ## The session that drives it -/

/-- A session that does not authenticate handles no payload. -/
theorem Core.handleAuthenticate_of_state_ne {core : Core} (idle : core.state ≠ .sasl)
    (message : IrcMessage) : core.handleAuthenticate message = core := by
  rw [handleAuthenticate, if_pos]
  simp [idle]

/-- The session gives up with its exchange. -/
theorem Core.handleScramAuthenticate_fails {core : Core} {exchange : ScramExchange}
    {payload : Bytes} (driven : core.sasl.scram = some exchange)
    (fails : (exchange.takePayload payload core.config.saslAccountName core.config.saslSecret
      core.readings.entropy).2 = .fail) :
    (core.handleScramAuthenticate payload).state = .failed := by
  unfold handleScramAuthenticate
  rw [driven]
  dsimp only
  rw [fails]
  exact congrArg Control.state (fail_fatal_toControl _ _ _)

/-- Over every sequence of payloads, a fresh exchange makes disciplined progress and nothing
else: it is verified exactly when its progress says so, and once its machine refused a challenge
it makes none. A session fails with its exchange, and a failed session handles no payload. -/
theorem scram_exchange_disciplined (account password : String) (challenges : List Challenge) :
    Disciplined account password
        ((ScramExchange.run account password {} challenges).2.filter ScramEvent.isProgress) ∧
      ((ScramExchange.run account password {} challenges).1.isVerified = true ↔
        ∃ serverFinal,
          .verified serverFinal ∈ (ScramExchange.run account password {} challenges).2) ∧
      (∀ front back,
        (ScramExchange.run account password {} challenges).2 = front ++ .rejected :: back →
          ∀ event ∈ back, event.isProgress = false) ∧
      (∀ (core : Core) (exchange : ScramExchange) (payload : Bytes),
        core.sasl.scram = some exchange →
          (exchange.takePayload payload core.config.saslAccountName core.config.saslSecret
            core.readings.entropy).2 = .fail →
            (core.handleScramAuthenticate payload).state = .failed) ∧
      ∀ (core : Core) (message : IrcMessage),
        core.state = .failed → core.handleAuthenticate message = core := by
  obtain ⟨stands, -, sticky⟩ := Stands.run
    (.unopened rfl : Stands account password {} []) challenges
  rw [List.nil_append] at stands
  refine ⟨stands.disciplined, ?_, sticky, fun core exchange payload driven fails =>
    Core.handleScramAuthenticate_fails driven fails, fun core message failed =>
    Core.handleAuthenticate_of_state_ne (by rw [failed]; decide) message⟩
  rw [stands.isVerified_iff]
  constructor
  · rintro ⟨serverFinal, present⟩
    exact ⟨serverFinal, List.mem_of_mem_filter present⟩
  · rintro ⟨serverFinal, present⟩
    exact ⟨serverFinal, List.mem_filter.mpr ⟨present, rfl⟩⟩

end Runs

section Reference

local instance scramPlatform : Platform := reference

/-- A failure alone stops no exchange: this one answers after a payload that is no base64. -/
theorem failed_exchange_answers_later :
    ¬ ∀ (account password : String) (challenges : List Challenge) (front back : List ScramEvent)
        (failure : ScramEvent), failure.isFailure = true →
          (ScramExchange.run account password {} challenges).2 = front ++ failure :: back →
            ∀ event ∈ back, event.isProgress = false := by
  intro sticky
  let challenges : List Challenge :=
    [⟨utf8 "+", some (List.replicate 16 0)⟩, ⟨utf8 "!", none⟩,
      ⟨encodeBase64 (utf8 "r=AAAAAAAAAAAAAAAAAAAAAA==x,s=QQ==,i=4096"), none⟩]
  let events := (ScramExchange.run "nick" "pass" {} challenges).2
  have fails : events.drop 1 = .malformed :: events.drop 2 := by decide
  have answers : ¬ ∀ event ∈ events.drop 2, event.isProgress = false := by decide
  refine answers (sticky "nick" "pass" challenges (events.take 1) (events.drop 2) .malformed rfl ?_)
  rw [← fails, List.take_append_drop]

end Reference

end Omairc.Session

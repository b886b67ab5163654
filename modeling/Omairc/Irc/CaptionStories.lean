import Omairc.Irc.CaptionText

/-!
# Stories of captions

A caption tells a story: what the members of a channel did, in order. A story grows by one act at a
time. A join that undoes the departure right before it drops both, and a nick change goes on with
the one right before it. The clauses of a story are read back, as long as no name in them can be
taken for a verb.
-/

namespace Omairc.Irc

open Omairc.Text

/-! ## Stories -/

/-- What a member did. -/
inductive Act
  | joined (nick shownAccount : String)
  | left (nick : String)
  | quit (nick : String)
  | renamed (oldNick newNick : String)

/-- The line of an act. -/
def Act.line : Act → String
  | .joined nick shownAccount => joinLine nick shownAccount
  | .left nick => partLine nick
  | .quit nick => quitLine nick
  | .renamed oldNick newNick => nickLine oldNick newNick

/-- An act of valid nicknames, with an account of one word. -/
def Act.IsValid : Act → Prop
  | .joined nick shownAccount => IsNick nick ∧ ' ' ∉ shownAccount.toList
  | .left nick => IsNick nick
  | .quit nick => IsNick nick
  | .renamed oldNick newNick => IsNick oldNick ∧ IsNick newNick

instance : (act : Act) → Decidable act.IsValid
  | .joined _ _ => inferInstanceAs (Decidable (_ ∧ _))
  | .left nick => inferInstanceAs (Decidable (IsNick nick))
  | .quit nick => inferInstanceAs (Decidable (IsNick nick))
  | .renamed _ _ => inferInstanceAs (Decidable (_ ∧ _))

/-- Whether an act undoes another one: a join right behind a departure of the same nick. -/
def undoes (same : String → String → Bool) : Act → Act → Bool
  | .left gone, .joined nick _ => same gone nick
  | .quit gone, .joined nick _ => same gone nick
  | _, _ => false

/-- The nick change that two of them make, the second right behind the first. -/
def chained (same : String → String → Bool) : Act → Act → Option Act
  | .renamed first new, .renamed old latest =>
      if same new old then some (.renamed first latest) else none
  | _, _ => none

/-- A story with one more act, and how the act met it. -/
def foldAct (same : String → String → Bool) (story : List Act) (act : Act) :
    List Act × FoldKind :=
  match story.getLast? with
  | none => ([act], .merge)
  | some last =>
      if undoes same last act then (story.dropLast, .cancel)
      else
        match chained same last act with
        | some longer => (story.dropLast ++ [longer], .chain)
        | none => (story ++ [act], .merge)

/-- The story of some acts. -/
def storyOf (same : String → String → Bool) (acts : List Act) : List Act :=
  acts.foldl (fun story act => (foldAct same story act).1) []

/-- The clause of an act alone. -/
def Act.clause : Act → Clause
  | .joined nick shownAccount => .joined [shownName nick shownAccount]
  | .left nick => .left [nick]
  | .quit nick => .quit [nick]
  | .renamed oldNick newNick => .nick oldNick newNick

/-- Two clauses of one verb are one clause. -/
def Clause.extend : Clause → Clause → Option Clause
  | .joined tokens, .joined more => some (.joined (tokens ++ more))
  | .left tokens, .left more => some (.left (tokens ++ more))
  | .quit tokens, .quit more => some (.quit (tokens ++ more))
  | _, _ => none

/-- Clauses with one more behind them. -/
def addClause (clauses : List Clause) (clause : Clause) : List Clause :=
  match clauses.getLast?.bind fun last => last.extend clause with
  | some longer => clauses.dropLast ++ [longer]
  | none => clauses ++ [clause]

/-- The clauses of a story: acts of one verb that follow one another are told in one clause. -/
def clausesOf (story : List Act) : List Clause :=
  story.foldl (fun clauses act => addClause clauses act.clause) []

/-- The caption of a story. There is none without acts. -/
def captionOf (story : List Act) : Option String :=
  if story = [] then none else some (renderClauses (clausesOf story))

/-- A caption with one more line folded into it. -/
def foldLine (same : String → String → Bool) (caption : Option String) (line : String) :
    Option String :=
  match caption with
  | none => some line
  | some existing =>
      let folded := foldMembership existing line same
      if folded.dropRow then none else some folded.body

/-! ## Clear acts -/

/-- The last word of an act's line. -/
def Act.word : Act → String
  | .joined _ _ => "joined"
  | .left _ => "left"
  | .quit _ => "quit"
  | .renamed _ newNick => newNick

def Act.isRename : Act → Bool
  | .renamed _ _ => true
  | _ => false

/-- The name that an act's line shows first. -/
def Act.name : Act → String
  | .joined nick shownAccount => shownName nick shownAccount
  | .left nick => nick
  | .quit nick => nick
  | .renamed oldNick _ => oldNick

/-- The verbs of departures and joins. -/
def verbWords : List String := ["joined", "left", "quit"]

/-- Two acts look like acts of one verb, and are not: their lines end with the word of a verb, which
is the new nick of one of them. -/
def Misleads (last act : Act) : Prop :=
  last.word = act.word ∧ act.word ∈ verbWords ∧ (last.isRename || act.isRename) = true

/-- The name of an act hides behind another one: it begins with the word of a verb, and is told in
one clause with the act before it. -/
def Hides (last act : Act) : Prop :=
  (last.clause.extend act.clause).isSome = true ∧ opensWithVerb act.name = true

instance (last act : Act) : Decidable (Misleads last act) :=
  inferInstanceAs (Decidable (_ ∧ _ ∧ _))

instance (last act : Act) : Decidable (Hides last act) := inferInstanceAs (Decidable (_ ∧ _))

/-- An act that no reader takes for another one behind a story. -/
def IsClear (same : String → String → Bool) (story : List Act) (act : Act) : Prop :=
  (foldAct same story act).2 = .merge →
    ∀ last ∈ story.getLast?, ¬ Misleads last act ∧ ¬ Hides last act

instance (same : String → String → Bool) (story : List Act) (act : Act) :
    Decidable (IsClear same story act) :=
  inferInstanceAs (Decidable (_ → ∀ last ∈ story.getLast?, ¬ Misleads last act ∧ ¬ Hides last act))

/-! ## Clauses of a story -/

@[simp] theorem renderClause_clause (act : Act) : renderClause act.clause = act.line := by
  cases act with
  | joined nick shownAccount =>
      rw [Act.clause, renderClause, joinTexts_single, shownName, Act.line, joinLine]
      split
      · rfl
      · simp [String.append_assoc]
  | left nick => rw [Act.clause, renderClause, joinTexts_single, Act.line, partLine]
  | quit nick => rw [Act.clause, renderClause, joinTexts_single, Act.line, quitLine]
  | renamed oldNick newNick => rfl

theorem addClause_nil (clause : Clause) : addClause [] clause = [clause] := rfl

theorem addClause_concat (earlier : List Clause) (last clause : Clause) :
    addClause (earlier ++ [last]) clause =
      match last.extend clause with
      | some longer => earlier ++ [longer]
      | none => earlier ++ [last] ++ [clause] := by
  rw [addClause, List.getLast?_concat, Option.bind_some, List.dropLast_concat]

theorem clausesOf_concat (story : List Act) (act : Act) :
    clausesOf (story ++ [act]) = addClause (clausesOf story) act.clause := by
  rw [clausesOf, List.foldl_concat]
  rfl

/-- The last act of a story is told at the end of its last clause. -/
theorem clausesOf_cases (story : List Act) (act : Act) :
    ∃ earlier last, clausesOf (story ++ [act]) = earlier ++ [last] ∧
      (clausesOf story = earlier ∧ last = act.clause ∨
        ∃ shorter, clausesOf story = earlier ++ [shorter] ∧
          shorter.extend act.clause = some last) := by
  rw [clausesOf_concat]
  rcases List.eq_nil_or_concat' (clausesOf story) with empty | ⟨earlier, shorter, shape⟩
  · rw [empty, addClause_nil]
    exact ⟨[], act.clause, rfl, .inl ⟨rfl, rfl⟩⟩
  · rw [shape, addClause_concat]
    cases longer : shorter.extend act.clause with
    | none => exact ⟨earlier ++ [shorter], act.clause, rfl, .inl ⟨rfl, rfl⟩⟩
    | some last => exact ⟨earlier, last, rfl, .inr ⟨shorter, rfl, longer⟩⟩

theorem clausesOf_ne_nil {story : List Act} (full : story ≠ []) : clausesOf story ≠ [] := by
  obtain ⟨before, act, rfl⟩ := (List.eq_nil_or_concat' story).resolve_left full
  obtain ⟨earlier, last, shape, -⟩ := clausesOf_cases before act
  rw [shape]
  simp

/-- The caption of a story is read back at every point of it. -/
def IsReadableStory (story : List Act) : Prop :=
  ∀ before, before <+: story → ∀ clause ∈ clausesOf before, clause.IsReadable

theorem IsReadableStory.of_prefix {story before : List Act} (readable : IsReadableStory story)
    (start : before <+: story) : IsReadableStory before :=
  fun earlier inside => readable earlier (inside.trans start)

/-- A story with one more act is read back when its clauses are. -/
theorem IsReadableStory.concat {story : List Act} {act : Act} (readable : IsReadableStory story)
    (whole : ∀ clause ∈ clausesOf (story ++ [act]), clause.IsReadable) :
    IsReadableStory (story ++ [act]) := by
  intro before start
  rcases List.prefix_concat_iff.mp start with rfl | inside
  · exact whole
  · exact readable before inside

theorem isReadableStory_nil : IsReadableStory [] := by
  intro before start
  rw [List.prefix_nil.mp start]
  exact nofun

/-- The name of a valid act. -/
theorem Act.IsValid.name {act : Act} (valid : act.IsValid) : IsName act.name := by
  cases act with
  | joined nick shownAccount => exact ⟨nick, shownAccount, rfl, valid.1, valid.2⟩
  | left nick => exact ⟨nick, "", rfl, valid, by simp⟩
  | quit nick => exact ⟨nick, "", rfl, valid, by simp⟩
  | renamed oldNick newNick => exact ⟨oldNick, "", rfl, valid.1, by simp⟩

/-- Names with one more behind them that no reader takes for a verb. -/
theorem AreNames.concat {tokens : List String} {token : String} (names : AreNames tokens)
    (name : IsName token) (quiet : opensWithVerb token = false) : AreNames (tokens ++ [token]) where
  full := by simp
  names := by
    intro other there
    rcases List.mem_append.mp there with earlier | last
    · exact names.names other earlier
    · exact List.mem_singleton.mp last ▸ name
  behind := by
    intro other there
    rw [List.tail_append_of_ne_nil names.full] at there
    rcases List.mem_append.mp there with earlier | last
    · exact names.behind other earlier
    · exact List.mem_singleton.mp last ▸ quiet

/-- The clauses of names. -/
def IsNaming (make : List String → Clause) : Prop :=
  make = .joined ∨ make = .left ∨ make = .quit

theorem IsNaming.readable {make : List String → Clause} (naming : IsNaming make)
    (tokens : List String) : (make tokens).IsReadable ↔ AreNames tokens := by
  rcases naming with rfl | rfl | rfl
  all_goals rfl

/-- The clause of a valid act is read back. -/
theorem Act.IsValid.readable {act : Act} (valid : act.IsValid) : act.clause.IsReadable := by
  have single : AreNames [act.name] :=
    { full := List.cons_ne_nil _ _
      names := fun _ there => List.mem_singleton.mp there ▸ valid.name
      behind := nofun }
  cases act with
  | joined nick shownAccount => exact single
  | left nick => exact single
  | quit nick => exact single
  | renamed oldNick newNick => exact valid

/-- A clause grows by the name of an act of its verb. -/
theorem Clause.extend_act {clause longer : Clause} {act : Act}
    (grows : clause.extend act.clause = some longer) :
    ∃ make tokens, IsNaming make ∧ clause = make tokens ∧ act.clause = make [act.name] ∧
      longer = make (tokens ++ [act.name]) := by
  cases act with
  | joined nick shownAccount =>
      cases clause with
      | joined tokens => exact ⟨.joined, tokens, .inl rfl, rfl, rfl, (Option.some.inj grows).symm⟩
      | left _ => cases grows
      | quit _ => cases grows
      | nick _ _ => cases grows
  | left nick =>
      cases clause with
      | left tokens =>
          exact ⟨.left, tokens, .inr (.inl rfl), rfl, rfl, (Option.some.inj grows).symm⟩
      | joined _ => cases grows
      | quit _ => cases grows
      | nick _ _ => cases grows
  | quit nick =>
      cases clause with
      | quit tokens =>
          exact ⟨.quit, tokens, .inr (.inr rfl), rfl, rfl, (Option.some.inj grows).symm⟩
      | joined _ => cases grows
      | left _ => cases grows
      | nick _ _ => cases grows
  | renamed oldNick newNick => cases clause <;> cases grows

/-- A clause that ends with an act: it tells the act alone, or the act behind others. -/
def EndsWith (clause : Clause) (act : Act) : Prop :=
  clause = act.clause ∨ ∃ shorter : Clause, shorter.extend act.clause = some clause

/-- What extends a clause extends the clause of its last act. -/
theorem EndsWith.extend {clause : Clause} {last : Act} (ends : EndsWith clause last)
    (next : Clause) : (clause.extend next).isSome = (last.clause.extend next).isSome := by
  rcases ends with rfl | ⟨shorter, grows⟩
  · rfl
  · obtain ⟨make, tokens, naming, -, alone, rfl⟩ := Clause.extend_act grows
    rw [alone]
    rcases naming with rfl | rfl | rfl
    all_goals
      cases next
      all_goals rfl

/-! ## Steps of a story -/

theorem foldAct_nil (same : String → String → Bool) (act : Act) :
    foldAct same [] act = ([act], .merge) := rfl

theorem foldAct_concat (same : String → String → Bool) (before : List Act) (last act : Act) :
    foldAct same (before ++ [last]) act =
      if undoes same last act then (before, .cancel)
      else
        match chained same last act with
        | some longer => (before ++ [longer], .chain)
        | none => (before ++ [last] ++ [act], .merge) := by
  rw [foldAct, List.getLast?_concat, List.dropLast_concat]

theorem chained_cases {same : String → String → Bool} {last act longer : Act}
    (chains : chained same last act = some longer) :
    ∃ first new old latest, last = .renamed first new ∧ act = .renamed old latest ∧
      same new old = true ∧ longer = .renamed first latest := by
  cases last with
  | renamed first new =>
      cases act with
      | renamed old latest =>
          rw [chained] at chains
          split at chains
          · rename_i equal
            exact ⟨first, new, old, latest, rfl, rfl, equal, (Option.some.inj chains).symm⟩
          · cases chains
      | joined _ _ => cases chains
      | left _ => cases chains
      | quit _ => cases chains
  | joined _ _ => cases chains
  | left _ => cases chains
  | quit _ => cases chains

/-- Nothing extends with a nick change. -/
theorem Clause.extend_nick (clause : Clause) (oldNick newNick : String) :
    clause.extend (.nick oldNick newNick) = none := by
  cases clause
  all_goals rfl

/-- A nick change is a clause of its own. -/
theorem clausesOf_renamed (story : List Act) (oldNick newNick : String) :
    clausesOf (story ++ [.renamed oldNick newNick]) =
      clausesOf story ++ [.nick oldNick newNick] := by
  rw [clausesOf_concat, Act.clause]
  rcases List.eq_nil_or_concat' (clausesOf story) with empty | ⟨earlier, last, shape⟩
  · rw [empty]
    rfl
  · rw [shape, addClause_concat, Clause.extend_nick]

/-- A clear act keeps a caption readable. -/
theorem IsReadableStory.step {same : String → String → Bool} {story : List Act} {act : Act}
    (readable : IsReadableStory story) (valid : act.IsValid) (clear : IsClear same story act) :
    IsReadableStory (foldAct same story act).1 := by
  rcases List.eq_nil_or_concat' story with rfl | ⟨before, last, rfl⟩
  · rw [foldAct_nil]
    refine isReadableStory_nil.concat ?_
    intro clause there
    rw [List.mem_singleton.mp there]
    exact valid.readable
  · have earlier : IsReadableStory before := readable.of_prefix (List.prefix_append _ _)
    have here := readable _ List.prefix_rfl
    rw [IsClear] at clear
    rw [foldAct_concat] at clear ⊢
    split
    · exact earlier
    · rename_i kept
      rw [if_neg kept] at clear
      cases chains : chained same last act with
      | some longer =>
          obtain ⟨first, new, old, latest, rfl, rfl, -, rfl⟩ := chained_cases chains
          refine earlier.concat ?_
          rw [clausesOf_renamed] at here ⊢
          intro clause there
          rcases List.mem_append.mp there with before | own
          · exact here clause (List.mem_append_left _ before)
          · rw [List.mem_singleton.mp own]
            have old := here (.nick first new) (List.mem_append_right _ List.mem_cons_self)
            exact ⟨old.1, valid.2⟩
      | none =>
          rw [chains] at clear
          obtain ⟨-, shown⟩ := clear rfl last List.getLast?_concat
          refine readable.concat ?_
          obtain ⟨earlier', clause, shape, ⟨own, rfl⟩ | ⟨shorter, own, grows⟩⟩ :=
            clausesOf_cases (before ++ [last]) act
          · rw [shape]
            intro clause there
            rcases List.mem_append.mp there with old | new
            · exact here clause (own ▸ old)
            · exact List.mem_singleton.mp new ▸ valid.readable
          · rw [shape]
            rw [own] at here
            intro other there
            rcases List.mem_append.mp there with old | new
            · exact here other (List.mem_append_left _ old)
            · rw [List.mem_singleton.mp new]
              have ends : EndsWith shorter last := by
                obtain ⟨earlier'', clause', shape', ends⟩ := clausesOf_cases before last
                rw [shape'] at own
                obtain ⟨-, same⟩ := List.append_inj' own rfl
                rw [← List.singleton_inj.mp same]
                rcases ends with ⟨-, alone⟩ | ⟨other, -, grows⟩
                · exact .inl alone
                · exact .inr ⟨other, grows⟩
              have quiet : opensWithVerb act.name = false := by
                rw [Hides, ← ends.extend, grows] at shown
                simpa using shown
              have old := here shorter (List.mem_append_right _ List.mem_cons_self)
              obtain ⟨make, tokens, naming, rfl, -, rfl⟩ := Clause.extend_act grows
              rw [naming.readable] at old ⊢
              exact old.concat valid.name quiet

end Omairc.Irc

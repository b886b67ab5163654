import Omairc.Irc.CaptionStories
import Omairc.Irc.Reducer.Transcript

/-!
# Runs of captions

The fold of caption texts tells the story of the lines that went into it, as long as no name can be
taken for a verb.
-/

namespace Omairc.Irc

open Omairc.Text

/-! ## Captions that are joined -/

/-- The last word of a clause. -/
def Clause.word : Clause → String
  | .joined _ => "joined"
  | .left _ => "left"
  | .quit _ => "quit"
  | .nick _ newNick => newNick

/-- A clause that is read back ends with a space and a word. -/
theorem Clause.IsReadable.ends {clause : Clause} (readable : clause.IsReadable) :
    ' ' ∉ clause.word.toList ∧
      ∃ front, (renderClause clause).toList = front ++ ' ' :: clause.word.toList := by
  cases clause with
  | joined tokens =>
      rw [renderClause, Clause.word, String.toList_append]
      exact ⟨by decide, _, rfl⟩
  | left tokens =>
      rw [renderClause, Clause.word, String.toList_append]
      exact ⟨by decide, _, rfl⟩
  | quit tokens =>
      rw [renderClause, Clause.word, String.toList_append]
      exact ⟨by decide, _, rfl⟩
  | nick oldNick newNick =>
      refine ⟨readable.2.2.1, oldNick.toList ++ " is now".toList, ?_⟩
      rw [renderClause, Clause.word, nickLine]
      simp

/-- A word behind a space at the end of a text is the last word. -/
theorem eq_of_suffix {left right front text : List Char} (spaceless : ' ' ∉ left)
    (spaceless' : ' ' ∉ right) (ends : ' ' :: left <:+ text)
    (shape : text = front ++ ' ' :: right) : left = right := by
  have ends' : ' ' :: right <:+ text := ⟨front, shape.symm⟩
  rcases List.suffix_or_suffix_of_suffix ends ends' with inside | inside
  · rcases List.suffix_cons_iff.mp inside with same | within
    · exact (List.cons.inj same).2
    · exact absurd (within.subset List.mem_cons_self) spaceless'
  · rcases List.suffix_cons_iff.mp inside with same | within
    · exact (List.cons.inj same).2.symm
    · exact absurd (within.subset List.mem_cons_self) spaceless

/-- A caption ends with its last clause. -/
theorem renderClauses_concat (earlier : List Clause) :
    ∃ front, ∀ clause : Clause, (renderClauses (earlier ++ [clause])).toList =
      front ++ (renderClause clause).toList := by
  induction earlier with
  | nil => exact ⟨[], fun clause => by rw [List.nil_append, renderClauses_single]; rfl⟩
  | cons first earlier inductionHypothesis =>
      obtain ⟨front, shape⟩ := inductionHypothesis
      refine ⟨(renderClause first).toList ++ ',' :: ' ' :: front, fun clause => ?_⟩
      obtain ⟨second, rest, more⟩ := List.exists_cons_of_ne_nil
        (show earlier ++ [clause] ≠ [] by simp)
      rw [List.cons_append, more, toList_renderClauses_cons, ← more, shape clause,
        List.append_assoc, List.cons_append, List.cons_append]

/-- A caption with one clause more behind it. -/
theorem renderClauses_append {clauses : List Clause} (full : clauses ≠ []) (clause : Clause) :
    renderClauses (clauses ++ [clause]) = renderClauses clauses ++ ", " ++ renderClause clause := by
  refine String.toList_injective ?_
  induction clauses with
  | nil => exact absurd rfl full
  | cons first more inductionHypothesis =>
      cases more with
      | nil =>
          rw [List.singleton_append, toList_renderClauses_cons, renderClauses_single,
            renderClauses_single]
          simp
      | cons second rest =>
          rw [List.cons_append, List.cons_append, toList_renderClauses_cons, ← List.cons_append,
            inductionHypothesis (List.cons_ne_nil _ _)]
          simp [toList_renderClauses_cons]

/-- The texts that end the clauses of names. -/
def suffixes : List String := [" joined", " left", " quit"]

/-- Captions with a common suffix are joined in front of it. -/
theorem collapseEventBody_common {front back suffix : String} (listed : suffix ∈ suffixes) :
    collapseEventBody (front ++ suffix) (back ++ suffix) = front ++ ", " ++ back ++ suffix := by
  have common : (suffix.toList.isSuffixOf (front ++ suffix).toList &&
      suffix.toList.isSuffixOf (back ++ suffix).toList) = true := by
    simp [List.isSuffixOf_iff_suffix]
  have found : [" joined", " left", " quit"].find? (fun suffix' =>
      suffix'.toList.isSuffixOf (front ++ suffix).toList &&
        suffix'.toList.isSuffixOf (back ++ suffix).toList) = some suffix := by
    cases first : [" joined", " left", " quit"].find? fun suffix' =>
        suffix'.toList.isSuffixOf (front ++ suffix).toList &&
          suffix'.toList.isSuffixOf (back ++ suffix).toList with
    | none => exact absurd common (List.find?_eq_none.mp first suffix listed)
    | some suffix' =>
        have only : ∀ left ∈ suffixes, ∀ right ∈ suffixes, left.toList <:+ right.toList →
            left = right := by decide
        have listed' : suffix' ∈ suffixes := List.mem_of_find?_eq_some first
        have ends := List.find?_some first
        rw [Bool.and_eq_true, List.isSuffixOf_iff_suffix] at ends
        have own : suffix.toList <:+ (front ++ suffix).toList := by simp
        rcases List.suffix_or_suffix_of_suffix ends.1 own with inside | inside
        · rw [only suffix' listed' suffix listed inside]
        · rw [only suffix listed suffix' listed' inside]
  have head (text : String) : String.ofList ((text ++ suffix).toList.take
      ((text ++ suffix).toList.length - suffix.toList.length)) = text := by
    rw [String.toList_append, List.length_append, Nat.add_sub_cancel, List.take_left,
      String.ofList_toList]
  rw [collapseEventBody, found]
  dsimp only
  rw [head, head]

/-- Captions without a common suffix are joined with a comma. -/
theorem collapseEventBody_apart {existing incoming : String}
    (apart : ∀ suffix ∈ suffixes, suffix.toList <:+ existing.toList →
      ¬ suffix.toList <:+ incoming.toList) :
    collapseEventBody existing incoming = existing ++ ", " ++ incoming := by
  have none : [" joined", " left", " quit"].find? (fun suffix =>
      suffix.toList.isSuffixOf existing.toList && suffix.toList.isSuffixOf incoming.toList) =
        none := by
    refine List.find?_eq_none.mpr ?_
    intro suffix listed ends
    rw [Bool.and_eq_true, List.isSuffixOf_iff_suffix, List.isSuffixOf_iff_suffix] at ends
    exact apart suffix listed ends.1 ends.2
  rw [collapseEventBody, none]

theorem IsNaming.render {make : List String → Clause} (naming : IsNaming make) :
    ∃ suffix ∈ suffixes, ∀ tokens, renderClause (make tokens) = joinTexts ", " tokens ++ suffix := by
  rcases naming with rfl | rfl | rfl
  · exact ⟨" joined", by decide, fun _ => rfl⟩
  · exact ⟨" left", by decide, fun _ => rfl⟩
  · exact ⟨" quit", by decide, fun _ => rfl⟩

/-- The last act of a story ends its last clause. -/
theorem clausesOf_ends (before : List Act) (last : Act) :
    ∃ earlier clause, clausesOf (before ++ [last]) = earlier ++ [clause] ∧ EndsWith clause last := by
  obtain ⟨earlier, clause, shape, ⟨-, alone⟩ | ⟨shorter, -, grows⟩⟩ := clausesOf_cases before last
  · exact ⟨earlier, clause, shape, .inl alone⟩
  · exact ⟨earlier, clause, shape, .inr ⟨shorter, grows⟩⟩

theorem Act.word_clause (act : Act) : act.clause.word = act.word := by
  cases act
  all_goals rfl

theorem EndsWith.word {clause : Clause} {last : Act} (ends : EndsWith clause last) :
    clause.word = last.word := by
  rw [← last.word_clause]
  rcases ends with rfl | ⟨shorter, grows⟩
  · rfl
  · obtain ⟨make, tokens, naming, -, alone, rfl⟩ := Clause.extend_act grows
    rw [alone]
    rcases naming with rfl | rfl | rfl
    all_goals rfl

/-- Acts with one verb are told in one clause. -/
theorem extend_of_word {last act : Act} (same : last.word = act.word)
    (named : (last.isRename || act.isRename) = false) :
    (last.clause.extend act.clause).isSome = true := by
  cases last
  all_goals
    cases act
    all_goals simp_all [Act.word, Act.isRename, Act.clause, Clause.extend]

/-- A caption with the line of an act behind it tells the story with the act. -/
theorem collapseEventBody_clausesOf {before : List Act} {last act : Act}
    (readable : IsReadableStory (before ++ [last])) (valid : act.IsValid)
    (shown : ¬ Misleads last act) :
    collapseEventBody (renderClauses (clausesOf (before ++ [last]))) act.line =
      renderClauses (clausesOf (before ++ [last] ++ [act])) := by
  have here := readable _ List.prefix_rfl
  rw [clausesOf_concat (before ++ [last])]
  obtain ⟨earlier, clause, shape, ends⟩ := clausesOf_ends before last
  rw [shape] at here ⊢
  have own := here clause (List.mem_append_right _ List.mem_cons_self)
  obtain ⟨front, render⟩ := renderClauses_concat earlier
  rw [addClause_concat]
  cases grows : clause.extend act.clause with
  | some longer =>
      dsimp only
      obtain ⟨make, tokens, naming, rfl, alone, rfl⟩ := Clause.extend_act grows
      obtain ⟨suffix, listed, text⟩ := naming.render
      have full := ((naming.readable tokens).mp own).full
      have existing : renderClauses (earlier ++ [make tokens]) =
          String.ofList front ++ joinTexts ", " tokens ++ suffix := by
        refine String.toList_injective ?_
        rw [render, text]
        simp
      have incoming : act.line = act.name ++ suffix := by
        rw [← renderClause_clause, alone, text, joinTexts_single]
      rw [existing, incoming, collapseEventBody_common listed]
      refine String.toList_injective ?_
      rw [render, text, joinTexts_concat _ full]
      simp
  | none =>
      dsimp only
      have longer := renderClauses_append (show earlier ++ [clause] ≠ [] by simp) act.clause
      rw [longer, renderClause_clause]
      refine collapseEventBody_apart ?_
      intro suffix listed inside inside'
      have words : ∀ suffix ∈ suffixes, ∃ word ∈ verbWords,
          suffix.toList = ' ' :: word.toList ∧ ' ' ∉ word.toList := by decide
      obtain ⟨word, verb, text, spaceless⟩ := words suffix listed
      rw [text] at inside inside'
      obtain ⟨spaceless', front', shape'⟩ := own.ends
      obtain ⟨spaceless'', front'', shape''⟩ := valid.readable.ends
      have wordOf : word = last.word := by
        have whole : (renderClauses (earlier ++ [clause])).toList =
            front ++ front' ++ ' ' :: clause.word.toList := by
          rw [render, shape', List.append_assoc]
        rw [← ends.word]
        exact String.toList_injective (eq_of_suffix spaceless spaceless' inside whole)
      have wordOf' : word = act.word := by
        rw [renderClause_clause] at shape''
        rw [← act.word_clause]
        exact String.toList_injective (eq_of_suffix spaceless spaceless'' inside' shape'')
      cases named : last.isRename || act.isRename with
      | true => exact shown ⟨wordOf.symm.trans wordOf', wordOf' ▸ verb, named⟩
      | false =>
          have told := extend_of_word (wordOf.symm.trans wordOf') named
          rw [← ends.extend, grows] at told
          cases told

/-! ## Steps of a caption -/

/-- What begins with a space is not found in a nickname, and found behind it where it is. -/
theorem findText_nick {pattern nick : List Char} (spaceless : ' ' ∉ nick) (rest : List Char) :
    findText (' ' :: pattern) (nick ++ rest) =
      (findText (' ' :: pattern) rest).map (· + nick.length) := by
  induction nick with
  | nil => exact Option.map_id'.symm
  | cons char nick inductionHypothesis =>
      rw [List.mem_cons, not_or] at spaceless
      have other : ¬ (' ' :: pattern).isPrefixOf (char :: (nick ++ rest)) = true := fun opens =>
        spaceless.1 (List.cons_prefix_cons.mp (List.isPrefixOf_iff_prefix.mp opens)).1
      rw [List.cons_append, findText, if_neg other, inductionHypothesis spaceless.2,
        Option.map_map]
      rfl

/-- The nick of a name. -/
theorem membershipNick_shownName {nick shownAccount : String} (valid : IsNick nick) :
    membershipNick (shownName nick shownAccount) = nick := by
  obtain ⟨full, spaceless, -⟩ := valid
  have pattern : " (".toList = ' ' :: ['('] := by decide
  rw [shownName, membershipNick, pattern]
  by_cases plain : shownAccount = ""
  · rw [if_pos plain]
    have none : findText (' ' :: ['(']) nick.toList = none := by
      have found : findText (' ' :: ['(']) (nick.toList ++ []) = _ := findText_nick spaceless []
      rw [List.append_nil] at found
      rw [found]
      rfl
    rw [none]
    split
    all_goals rfl
  · rw [if_neg plain]
    have text : (nick ++ " (" ++ shownAccount ++ ")").toList =
        nick.toList ++ ((' ' :: ['(']) ++ (shownAccount.toList ++ [')'])) := by simp
    have closed : (nick ++ " (" ++ shownAccount ++ ")").toList.getLast? = some ')' := by
      rw [String.toList_append]
      exact List.getLast?_concat
    obtain ⟨length, size⟩ : ∃ length, nick.toList.length = length + 1 :=
      Nat.exists_eq_succ_of_ne_zero fun empty =>
        full (String.toList_eq_nil_iff.mp (List.length_eq_zero_iff.mp empty))
    have found : findText (' ' :: ['(']) (nick ++ " (" ++ shownAccount ++ ")").toList =
        some (length + 1) := by
      rw [text, findText_nick spaceless, findText_here _ _ (List.cons_ne_nil _ _), Option.map_some,
        Nat.zero_add, size]
    rw [if_pos closed, found, text]
    dsimp only
    rw [← size, List.take_left, String.ofList_toList]

/-- A departure at the end of a story is the last name of its last clause. Without it the clauses are
those of the story before. -/
theorem clausesOf_departed {before : List Act} {last : Act} {gone : String}
    (readable : IsReadableStory before) (departure : last.clause = .left [gone] ∨
      last.clause = .quit [gone]) (named : last.name = gone) :
    ∃ make : List String → Clause, ∃ earlier tokens,
      (last.clause = .left [gone] ∧ make = .left ∨ last.clause = .quit [gone] ∧ make = .quit) ∧
        clausesOf (before ++ [last]) = earlier ++ [make (tokens ++ [gone])] ∧
        clausesOf before = earlier ++ if tokens = [] then [] else [make tokens] := by
  obtain ⟨earlier, clause, shape, ⟨own, rfl⟩ | ⟨shorter, own, grows⟩⟩ := clausesOf_cases before last
  · rcases departure with alone | alone
    · exact ⟨.left, earlier, [], .inl ⟨alone, rfl⟩, alone ▸ shape, by simpa using own⟩
    · exact ⟨.quit, earlier, [], .inr ⟨alone, rfl⟩, alone ▸ shape, by simpa using own⟩
  · obtain ⟨make, tokens, naming, rfl, alone, rfl⟩ := Clause.extend_act grows
    have here := readable _ List.prefix_rfl
    rw [own] at here
    have full := ((naming.readable tokens).mp
      (here _ (List.mem_append_right _ List.mem_cons_self))).full
    rw [named] at alone shape
    refine ⟨make, earlier, tokens, ?_, shape, by rw [own, if_neg full]⟩
    rw [alone] at departure ⊢
    rcases naming with rfl | rfl | rfl
    · rcases departure with wrong | wrong
      · cases wrong
      · cases wrong
    · exact .inl ⟨rfl, rfl⟩
    · exact .inr ⟨rfl, rfl⟩

/-- A story of valid acts whose caption is read back. -/
structure IsTold (story : List Act) : Prop where
  valid : ∀ act ∈ story, act.IsValid
  readable : IsReadableStory story

/-- A clear act keeps a story told. -/
theorem IsTold.step {same : String → String → Bool} {story : List Act} {act : Act}
    (told : IsTold story) (valid : act.IsValid) (clear : IsClear same story act) :
    IsTold (foldAct same story act).1 where
  readable := told.readable.step valid clear
  valid := by
    rcases List.eq_nil_or_concat' story with rfl | ⟨before, last, rfl⟩
    · rw [foldAct_nil]
      intro other there
      exact List.mem_singleton.mp there ▸ valid
    · have earlier (other : Act) (there : other ∈ before) : other.IsValid :=
        told.valid other (List.mem_append_left _ there)
      have own := told.valid last (List.mem_append_right _ List.mem_cons_self)
      rw [foldAct_concat]
      split
      · exact earlier
      · cases chains : chained same last act with
        | some longer =>
            obtain ⟨first, new, old, latest, rfl, rfl, -, rfl⟩ := chained_cases chains
            intro other there
            rcases List.mem_append.mp there with before | last
            · exact earlier other before
            · exact List.mem_singleton.mp last ▸ ⟨own.1, valid.2⟩
        | none =>
            intro other there
            rcases List.mem_append.mp there with before | last
            · exact told.valid other before
            · exact List.mem_singleton.mp last ▸ valid

/-- A caption is read back. -/
theorem IsTold.reads {story : List Act} (told : IsTold story) (full : story ≠ []) :
    parseClauses (renderClauses (clausesOf story)) = some (clausesOf story) :=
  parseClauses_render (clausesOf_ne_nil full) (told.readable _ List.prefix_rfl)

/-- A line is read back. -/
theorem Act.IsValid.reads {act : Act} (valid : act.IsValid) :
    parseClauses act.line = some [act.clause] := by
  rw [← renderClause_clause, ← renderClauses_single]
  refine parseClauses_render (List.cons_ne_nil _ _) ?_
  intro clause there
  exact List.mem_singleton.mp there ▸ valid.readable

/-- The fold of a story's caption and a line, in the words of the story. -/
def foldOf (next : List Act × FoldKind) : MembershipFold where
  kind := next.2
  dropRow := next.1.isEmpty
  body := (captionOf next.1).getD ""

theorem foldOf_concat (before : List Act) (act : Act) (kind : FoldKind) :
    foldOf (before ++ [act], kind) =
      { kind, body := renderClauses (clausesOf (before ++ [act])) } := by
  have full : before ++ [act] ≠ [] := by simp
  rw [foldOf, captionOf, if_neg full]
  simp

/-- A cancel leaves the caption of the story before. -/
theorem foldOf_cancel (before : List Act) :
    foldOf (before, .cancel) = cancelFold (clausesOf before) := by
  rw [foldOf, cancelFold, captionOf]
  cases before with
  | nil => rfl
  | cons act before =>
      rw [if_neg (List.cons_ne_nil _ _), if_neg (clausesOf_ne_nil (List.cons_ne_nil _ _))]
      rfl

/-- The fold of the last clause of a caption and the clause of a line. -/
def foldClause (existing incoming : String) (same : String → String → Bool)
    (earlier : List Clause) : Clause → Clause → MembershipFold
  | .left tokens, .joined joined =>
      if cancels same tokens joined then
        cancelFold (earlier ++ if tokens.dropLast = [] then [] else [.left tokens.dropLast])
      else mergeFold existing incoming
  | .quit tokens, .joined joined =>
      if cancels same tokens joined then
        cancelFold (earlier ++ if tokens.dropLast = [] then [] else [.quit tokens.dropLast])
      else mergeFold existing incoming
  | .nick first new, .nick old latest =>
      if same new old then
        { kind := .chain, body := renderClauses (earlier ++ [.nick first latest]) }
      else mergeFold existing incoming
  | _, _ => mergeFold existing incoming

/-- The fold of a caption and a line that are read. -/
theorem foldMembership_read {existing incoming : String} (same : String → String → Bool)
    {earlier : List Clause} {clause next : Clause}
    (read : parseClauses existing = some (earlier ++ [clause]))
    (read' : parseClauses incoming = some [next]) :
    foldMembership existing incoming same =
      foldClause existing incoming same earlier clause next := by
  rw [foldMembership, read, read']
  dsimp only
  rw [List.getLast?_concat, List.dropLast_concat]
  cases clause
  all_goals
    cases next
    all_goals rfl

/-- A join cancels the last name of a departure when their nicks are the same. -/
theorem cancels_concat {same : String → String → Bool} {tokens : List String}
    {gone nick shownAccount : String} (valid : IsNick gone) (valid' : IsNick nick) :
    cancels same (tokens ++ [gone]) [shownName nick shownAccount] = same gone nick := by
  have bare : membershipNick gone = gone := by
    have plain : membershipNick (shownName gone "") = gone := membershipNick_shownName valid
    rwa [shownName, if_pos rfl] at plain
  rw [cancels, List.getLast?_concat, Option.any_some, bare, membershipNick_shownName valid']

/-- The fold of a caption and a line is the fold of the story and the act. -/
theorem foldMembership_foldAct {same : String → String → Bool} {before : List Act} {last act : Act}
    (told : IsTold (before ++ [last])) (valid : act.IsValid)
    (clear : IsClear same (before ++ [last]) act) :
    foldMembership (renderClauses (clausesOf (before ++ [last]))) act.line same =
      foldOf (foldAct same (before ++ [last]) act) := by
  have own := told.valid last (List.mem_append_right _ List.mem_cons_self)
  have reads {clauses : List Clause} (shape : clausesOf (before ++ [last]) = clauses) :
      parseClauses (renderClauses (clausesOf (before ++ [last]))) = some clauses :=
    (told.reads (by simp)).trans (congrArg some shape)
  have merged (kept : undoes same last act = false) (apart : chained same last act = none) :
      mergeFold (renderClauses (clausesOf (before ++ [last]))) act.line =
        foldOf (foldAct same (before ++ [last]) act) := by
    have next : foldAct same (before ++ [last]) act = (before ++ [last] ++ [act], .merge) := by
      rw [foldAct_concat, kept, if_neg Bool.false_ne_true, apart]
    obtain ⟨shown, -⟩ := clear (congrArg Prod.snd next) last List.getLast?_concat
    rw [next, foldOf_concat, mergeFold, collapseEventBody_clausesOf told.readable valid shown]
  have departed {gone : String} (departure : last.clause = .left [gone] ∨
      last.clause = .quit [gone]) (named : last.name = gone) (nick : IsNick gone)
      (only : undoes same last act = undoes same (.left gone) act) (apart : chained same last act = none) :
      foldMembership (renderClauses (clausesOf (before ++ [last]))) act.line same =
        foldOf (foldAct same (before ++ [last]) act) := by
    obtain ⟨make, earlier, tokens, which, shape, shorter⟩ :=
      clausesOf_departed (told.readable.of_prefix (List.prefix_append _ _)) departure named
    rw [foldMembership_read same (reads shape) valid.reads]
    cases act with
    | joined joining shownAccount =>
        have decides : cancels same (tokens ++ [gone]) [shownName joining shownAccount] =
            same gone joining := cancels_concat nick valid.1
        have fold : foldClause (renderClauses (clausesOf (before ++ [last])))
            (Act.joined joining shownAccount).line same earlier (make (tokens ++ [gone]))
              (.joined [shownName joining shownAccount]) =
            if same gone joining then
              cancelFold (earlier ++ if tokens = [] then [] else [make tokens])
            else mergeFold (renderClauses (clausesOf (before ++ [last])))
              (Act.joined joining shownAccount).line := by
          rcases which with ⟨-, rfl⟩ | ⟨-, rfl⟩
          all_goals rw [foldClause, decides, List.dropLast_concat]
        refine fold.trans ?_
        split
        · rename_i undone
          rw [foldAct_concat, if_pos (only.trans undone), foldOf_cancel, shorter]
        · rename_i kept
          exact merged (only.trans (Bool.eq_false_iff.mpr kept)) apart
    | left _ =>
        refine Eq.trans ?_ (merged only apart)
        rcases which with ⟨-, rfl⟩ | ⟨-, rfl⟩
        all_goals rfl
    | quit _ =>
        refine Eq.trans ?_ (merged only apart)
        rcases which with ⟨-, rfl⟩ | ⟨-, rfl⟩
        all_goals rfl
    | renamed _ _ =>
        refine Eq.trans ?_ (merged only apart)
        rcases which with ⟨-, rfl⟩ | ⟨-, rfl⟩
        all_goals rfl
  obtain ⟨earlier, clause, shape, ends⟩ := clausesOf_ends before last
  cases last with
  | joined nick shownAccount =>
      rw [foldMembership_read same (reads shape) valid.reads]
      have named : ∃ tokens, clause = .joined tokens := by
        rcases ends with alone | ⟨other, grows⟩
        · exact ⟨_, alone⟩
        · obtain ⟨make, tokens, naming, -, alone, rfl⟩ := Clause.extend_act grows
          rcases naming with rfl | rfl | rfl
          · exact ⟨_, rfl⟩
          · cases alone
          · cases alone
      obtain ⟨tokens, rfl⟩ := named
      refine Eq.trans ?_ (merged (by cases act <;> rfl) rfl)
      cases act <;> rfl
  | left gone => exact departed (.inl rfl) rfl own (by cases act <;> rfl) rfl
  | quit gone => exact departed (.inr rfl) rfl own (by cases act <;> rfl) rfl
  | renamed first new =>
      have changed : clausesOf (before ++ [.renamed first new]) =
          clausesOf before ++ [.nick first new] := clausesOf_renamed before first new
      rw [foldMembership_read same (reads changed) valid.reads]
      cases act with
      | renamed old latest =>
          rw [Act.clause, foldClause]
          split
          · rename_i equal
            have chains : chained same (.renamed first new) (.renamed old latest) =
                some (.renamed first latest) := if_pos equal
            rw [foldAct_concat, show undoes same (.renamed first new) (.renamed old latest) = false
              from rfl, if_neg Bool.false_ne_true, chains]
            dsimp only
            rw [foldOf_concat, clausesOf_renamed]
          · rename_i differs
            exact merged rfl (if_neg differs)
      | joined _ _ => exact merged rfl rfl
      | left _ => exact merged rfl rfl
      | quit _ => exact merged rfl rfl

/-! ## Runs -/

/-- A caption with the line of a clear act folded into it tells the story with the act. -/
theorem IsTold.folds {same : String → String → Bool} {story : List Act} {act : Act}
    (told : IsTold story) (valid : act.IsValid) (clear : IsClear same story act) :
    foldLine same (captionOf story) act.line = captionOf (foldAct same story act).1 := by
  rcases List.eq_nil_or_concat' story with rfl | ⟨before, last, rfl⟩
  · rw [foldAct_nil]
    show some act.line = some (renderClauses (clausesOf [act]))
    rw [← renderClause_clause, ← renderClauses_single]
    rfl
  · have full : before ++ [last] ≠ [] := by simp
    have fold := foldMembership_foldAct told valid clear
    rw [captionOf, if_neg full, foldLine, fold, foldOf]
    cases next : (foldAct same (before ++ [last]) act).1 with
    | nil => rfl
    | cons first rest =>
        rw [captionOf, if_neg (List.cons_ne_nil _ _)]
        rfl

/-- Acts that are clear one after another, behind a story. -/
def IsClearRun (same : String → String → Bool) : List Act → List Act → Prop
  | _, [] => True
  | story, act :: acts => IsClear same story act ∧ IsClearRun same (foldAct same story act).1 acts

instance decidableIsClearRun (same : String → String → Bool) :
    (story acts : List Act) → Decidable (IsClearRun same story acts)
  | _, [] => isTrue trivial
  | story, act :: acts =>
      haveI := decidableIsClearRun same (foldAct same story act).1 acts
      inferInstanceAs (Decidable (_ ∧ _))

/-- The story of some acts behind another story. -/
def continueStory (same : String → String → Bool) (story : List Act) (acts : List Act) : List Act :=
  acts.foldl (fun story act => (foldAct same story act).1) story

/-- The part of a clear run is clear. -/
theorem IsClearRun.split {same : String → String → Bool} {story before after : List Act}
    (clear : IsClearRun same story (before ++ after)) :
    IsClearRun same story before ∧ IsClearRun same (continueStory same story before) after := by
  induction before generalizing story with
  | nil => exact ⟨trivial, clear⟩
  | cons act before inductionHypothesis =>
      obtain ⟨here, later⟩ := clear
      obtain ⟨start, rest⟩ := inductionHypothesis later
      exact ⟨⟨here, start⟩, rest⟩

/-- A clear run of lines folds into the caption of the story of their acts. -/
theorem IsTold.run {same : String → String → Bool} {story acts : List Act} (told : IsTold story)
    (valid : ∀ act ∈ acts, act.IsValid) (clear : IsClearRun same story acts) :
    IsTold (continueStory same story acts) ∧
      acts.foldl (fun caption act => foldLine same caption act.line) (captionOf story) =
        captionOf (continueStory same story acts) := by
  induction acts generalizing story with
  | nil => exact ⟨told, rfl⟩
  | cons act acts inductionHypothesis =>
      obtain ⟨here, later⟩ := clear
      have own := valid act List.mem_cons_self
      obtain ⟨told', run⟩ := inductionHypothesis (told.step own here)
        (fun other there => valid other (List.mem_cons_of_mem _ there)) later
      refine ⟨told', ?_⟩
      rw [List.foldl_cons, told.folds own here]
      exact run

theorem isTold_nil : IsTold [] where
  valid := nofun
  readable := isReadableStory_nil

theorem storyOf_concat (same : String → String → Bool) (acts : List Act) (act : Act) :
    storyOf same (acts ++ [act]) = (foldAct same (storyOf same acts) act).1 := by
  rw [storyOf, List.foldl_concat]
  rfl

/-- A story cancels its last act, and nothing else. -/
theorem foldAct_cancel_iff (same : String → String → Bool) (story : List Act) (act : Act) :
    (foldAct same story act).2 = .cancel ↔ ∃ last ∈ story.getLast?, undoes same last act = true := by
  rcases List.eq_nil_or_concat' story with rfl | ⟨before, last, rfl⟩
  · rw [foldAct_nil]
    exact ⟨nofun, nofun⟩
  · rw [foldAct_concat, List.getLast?_concat]
    cases undone : undoes same last act with
    | true =>
        rw [if_pos rfl]
        exact ⟨fun _ => ⟨last, rfl, undone⟩, fun _ => rfl⟩
    | false =>
        rw [if_neg Bool.false_ne_true]
        refine ⟨fun cancels => ?_, ?_⟩
        · cases chains : chained same last act with
          | some longer =>
              rw [chains] at cancels
              cases cancels
          | none =>
              rw [chains] at cancels
              cases cancels
        · rintro ⟨other, ⟨⟩, undone'⟩
          rw [undone] at undone'
          cases undone'

/-- A story that loses everything cancels its last act. -/
theorem foldAct_cancel_of_nil {same : String → String → Bool} {story : List Act} {act : Act}
    (gone : (foldAct same story act).1 = []) : (foldAct same story act).2 = .cancel := by
  rcases List.eq_nil_or_concat' story with rfl | ⟨before, last, rfl⟩
  · cases gone
  · rw [foldAct_concat] at gone ⊢
    split
    · rfl
    · rename_i kept
      rw [if_neg kept] at gone
      cases chains : chained same last act with
      | some longer =>
          rw [chains] at gone
          exact absurd gone (by simp)
      | none =>
          rw [chains] at gone
          exact absurd gone (by simp)

section Rows

open Reducer

variable {Disk : Type} [Storage Disk]

/-- The caption row of a conversation with a membership line behind it: the row is rewritten, and
goes when its caption does. -/
theorem appendEvent_caption {facts : Facts Disk} {conv : ConversationState} {row : Message}
    {line : String} (folding : facts.membershipNoise = .folded)
    (last : conv.messages.getLast? = some row) (event : row.kind = .event)
    (open_ : row.collapsible = true) :
    appendEvent facts conv line true true =
      let folded := foldMembership row.body line (facts.equals conv.key.networkId)
      if folded.kind = .cancel ∧ folded.dropRow = true then dropLastTranscriptRow facts conv
      else (facts, { conv with
        messages := conv.messages.dropLast ++ [{ row with body := folded.body }] }) := by
  have shown : ¬ (true = true ∧ MembershipNoise.folded = .hidden) := by simp
  have whole : ¬ (true = true ∧ MembershipNoise.folded = .every) := by simp
  rw [appendEvent, folding, last]
  dsimp only
  rw [if_neg shown, if_neg whole, if_pos ⟨rfl, rfl, event, open_⟩, if_pos rfl]
  split_ifs with cancels gone both both both
  · rfl
  · exact absurd ⟨cancels, gone⟩ both
  · exact absurd both.2 gone
  · rfl
  · exact absurd both.1 cancels
  · rfl

/-- A conversation whose last row shows a caption. -/
structure ShowsCaption (same : String → String → Bool) (facts : Facts Disk)
    (conv : ConversationState) (row : Message) : Prop where
  folding : facts.membershipNoise = .folded
  mapping : facts.equals conv.key.networkId = same
  last : conv.messages.getLast? = some row
  event : row.kind = .event
  open_ : row.collapsible = true

/-- The conversation whose caption row tells another story. -/
def retell (facts : Facts Disk) (conv : ConversationState) (row : Message) :
    Option String → Facts Disk × ConversationState
  | none => dropLastTranscriptRow facts conv
  | some caption =>
      (facts, { conv with messages := conv.messages.dropLast ++ [{ row with body := caption }] })

/-- A membership line behind a caption row retells its story. -/
theorem ShowsCaption.append {same : String → String → Bool} {facts : Facts Disk}
    {conv : ConversationState} {row : Message} {story : List Act} {act : Act}
    (shows_ : ShowsCaption same facts conv row) (told : IsTold story) (valid : act.IsValid)
    (clear : IsClear same story act) (caption : captionOf story = some row.body) :
    appendEvent facts conv act.line true true =
      retell facts conv row (captionOf (foldAct same story act).1) := by
  obtain ⟨folding, mapping, last, event, open_⟩ := shows_
  rw [appendEvent_caption folding last event open_, mapping]
  rcases List.eq_nil_or_concat' story with rfl | ⟨before, latest, rfl⟩
  · cases caption
  · rw [captionOf, if_neg (by simp)] at caption
    rw [← Option.some.inj caption, foldMembership_foldAct told valid clear]
    cases next : (foldAct same (before ++ [latest]) act).1 with
    | nil =>
        refine (if_pos ⟨foldAct_cancel_of_nil next, ?_⟩).trans rfl
        rw [foldOf, next]
        rfl
    | cons first rest =>
        have kept : ¬ ((foldOf (foldAct same (before ++ [latest]) act)).kind = .cancel ∧
            (foldOf (foldAct same (before ++ [latest]) act)).dropRow = true) := by
          rintro ⟨-, dropped⟩
          rw [foldOf, next] at dropped
          cases dropped
        refine (if_neg kept).trans ?_
        rw [foldOf, next]
        rfl

end Rows

/-- In a clear run, the lines folded one by one into a caption give the caption of the story of their
acts, at every point of the run. A line cancels exactly when its act undoes the last one, and the
row goes exactly when nothing of the story is left. -/
theorem captions_tell_stories (same : String → String → Bool) {acts : List Act}
    (valid : ∀ act ∈ acts, act.IsValid) (clear : IsClearRun same [] acts) :
    (∀ before after, acts = before ++ after →
      before.foldl (fun caption act => foldLine same caption act.line) none =
        captionOf (storyOf same before)) ∧
      (∀ before act after existing, acts = before ++ act :: after →
        captionOf (storyOf same before) = some existing →
          ((foldMembership existing act.line same).kind = .cancel ↔
            ∃ last ∈ (storyOf same before).getLast?, undoes same last act = true) ∧
          ((foldMembership existing act.line same).dropRow = true ↔
            storyOf same (before ++ [act]) = [])) ∧
      ∀ (Disk : Type) [Reducer.Storage Disk] (facts : Reducer.Facts Disk)
        (conv : Reducer.ConversationState) (row : Message) before act after,
        acts = before ++ act :: after → ShowsCaption same facts conv row →
          captionOf (storyOf same before) = some row.body →
            Reducer.appendEvent facts conv act.line true true =
              retell facts conv row (captionOf (storyOf same (before ++ [act]))) := by
  have told {before : List Act} {act : Act} {after : List Act}
      (shape : acts = before ++ act :: after) :
      IsTold (storyOf same before) ∧ act.IsValid ∧ IsClear same (storyOf same before) act := by
    subst shape
    obtain ⟨start, here, -⟩ := clear.split
    exact ⟨(isTold_nil.run (fun act there => valid act (List.mem_append_left _ there)) start).1,
      valid act (List.mem_append_right _ List.mem_cons_self), here⟩
  refine ⟨?_, ?_, ?_⟩
  · rintro before after rfl
    exact (isTold_nil.run (fun act there => valid act (List.mem_append_left _ there))
      clear.split.1).2
  · intro before act after existing shape caption
    obtain ⟨told, own, clear⟩ := told shape
    rw [storyOf_concat]
    generalize storyOf same before = story at told caption clear
    rcases List.eq_nil_or_concat' story with rfl | ⟨earlier, last, rfl⟩
    · cases caption
    · rw [captionOf, if_neg (by simp)] at caption
      rw [← Option.some.inj caption, foldMembership_foldAct told own clear]
      refine ⟨foldAct_cancel_iff same (earlier ++ [last]) act, ?_⟩
      exact List.isEmpty_iff
  · intro Disk _ facts conv row before act after shape shows_ caption
    obtain ⟨told, own, clear⟩ := told shape
    rw [storyOf_concat]
    exact shows_.append told own clear caption

/-- A departure that is undone leaves the caption before it. -/
theorem captions_tell_stories_undone :
    [Act.left "ann", .quit "bob", .joined "Bob" "", .renamed "ann" "anna"].foldl
        (fun caption act => foldLine IrcCaseMapping.rfc1459.equals caption act.line) none =
      some "ann left, ann is now anna" := by
  have run := (captions_tell_stories IrcCaseMapping.rfc1459.equals
    (show ∀ act ∈ [Act.left "ann", .quit "bob", .joined "Bob" "", .renamed "ann" "anna"],
      act.IsValid by decide) (by decide)).1 _ [] (List.append_nil _).symm
  refine run.trans ?_
  decide

/-- A name that begins with the word of a verb hides a departure from the join that undoes it. -/
theorem caption_hides_name :
    ¬ ∀ acts : List Act, (∀ act ∈ acts, act.IsValid) →
      acts.foldl (fun caption act => foldLine IrcCaseMapping.rfc1459.equals caption act.line) none =
        captionOf (storyOf IrcCaseMapping.rfc1459.equals acts) := by
  intro tells
  have folded := tells [.left "ann", .left "lefty", .joined "lefty" ""] (by decide)
  exact absurd folded (by decide)

end Omairc.Irc

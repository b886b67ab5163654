import Omairc.Irc.MembershipNoise

/-!
# Captions that are read again

A caption is read back to its clauses, as long as no name that stands behind another one begins
with the word of a verb: the reader takes the first verb that it finds for the end of a clause.
-/

namespace Omairc.Irc

open Omairc.Text

/-! ## Verbs in a text -/

/-- A verb stands at the start of a text. -/
def StartsVerb (text : List Char) : Prop := ∃ entry ∈ verbs, entry.1 <+: text

/-- No verb starts in a text that goes on with `rest`. -/
def IsVerbless : List Char → List Char → Prop
  | [], _ => True
  | char :: text, rest => ¬ StartsVerb (char :: (text ++ rest)) ∧ IsVerbless text rest

/-- A verb begins with a space. -/
theorem startsVerb_space {char : Char} {text : List Char} (starts : StartsVerb (char :: text)) :
    char = ' ' := by
  obtain ⟨entry, listed, opens⟩ := starts
  have all : ∀ entry ∈ verbs, entry.1.head? = some ' ' := by decide
  have first := all entry listed
  obtain ⟨pattern, verb⟩ := entry
  cases pattern with
  | nil => cases first
  | cons space pattern =>
      rw [← (List.cons_prefix_cons.mp opens).1]
      exact Option.some.inj first

namespace IsVerbless

theorem append {left right rest : List Char} :
    IsVerbless (left ++ right) rest ↔ IsVerbless left (right ++ rest) ∧ IsVerbless right rest := by
  induction left with
  | nil => exact ⟨fun verbless => ⟨trivial, verbless⟩, fun verbless => verbless.2⟩
  | cons char left inductionHypothesis =>
      rw [List.cons_append, IsVerbless, IsVerbless, inductionHypothesis, and_assoc,
        List.append_assoc]

/-- A text without spaces has no verb. -/
theorem of_spaceless {text : List Char} (spaceless : ' ' ∉ text) (rest : List Char) :
    IsVerbless text rest := by
  induction text with
  | nil => trivial
  | cons char text inductionHypothesis =>
      rw [List.mem_cons, not_or] at spaceless
      exact ⟨fun starts => spaceless.1 (startsVerb_space starts).symm,
        inductionHypothesis spaceless.2⟩

/-- A verb is not found in a text that has none. -/
theorem findText {entry : List Char × Verb} (listed : entry ∈ verbs) {text rest : List Char}
    (verbless : IsVerbless text rest) :
    findText entry.1 (text ++ rest) = (findText entry.1 rest).map (· + text.length) := by
  induction text with
  | nil => exact Option.map_id'.symm
  | cons char text inductionHypothesis =>
      obtain ⟨here, later⟩ := verbless
      have other : ¬ entry.1.isPrefixOf (char :: (text ++ rest)) = true := fun opens =>
        here ⟨entry, listed, List.isPrefixOf_iff_prefix.mp opens⟩
      rw [List.cons_append, Irc.findText, if_neg other, inductionHypothesis later, Option.map_map]
      rfl

end IsVerbless

/-- A verb at the start of a text is found there. -/
theorem findText_here (pattern rest : List Char) (full : pattern ≠ []) :
    findText pattern (pattern ++ rest) = some 0 := by
  obtain ⟨char, more, rfl⟩ := List.exists_cons_of_ne_nil full
  rw [List.cons_append, findText, if_pos]
  exact List.isPrefixOf_iff_prefix.mpr (List.prefix_append (char :: more) rest)

/-- Another verb at the start of a text is found later, or not at all. -/
theorem findText_later {other text : List Char} (full : text ≠ [])
    (apart : ¬ other.isPrefixOf text = true) :
    ∃ position : Option Nat, findText other text = position.map (· + 1) := by
  obtain ⟨char, more, rfl⟩ := List.exists_cons_of_ne_nil full
  exact ⟨findText other more, if_neg apart⟩

/-- Where a verb is found, with the verb and its length. -/
def candidateOf (text : List Char) (entry : List Char × Verb) : Option (Nat × Verb × Nat) :=
  (findText entry.1 text).map fun position => (position, entry.2, entry.1.length)

/-- The nearer of what was found and a candidate. -/
def nearer (best : Option (Nat × Verb × Nat)) (candidate : Nat × Verb × Nat) :
    Option (Nat × Verb × Nat) :=
  match best with
  | none => some candidate
  | some found => if candidate.1 < found.1 then some candidate else some found

theorem earliestVerb_eq (text : List Char) :
    earliestVerb text = (verbs.filterMap (candidateOf text)).foldl nearer none := rfl

/-- The nearest candidate is found, wherever it stands. -/
theorem foldl_nearer {before after : List (Nat × Verb × Nat)} {best : Nat × Verb × Nat}
    (farther : ∀ candidate ∈ before ++ after, best.1 < candidate.1) :
    (before ++ best :: after).foldl nearer none = some best := by
  have keeps (candidates : List (Nat × Verb × Nat))
      (farther : ∀ candidate ∈ candidates, best.1 < candidate.1) :
      candidates.foldl nearer (some best) = some best := by
    induction candidates with
    | nil => rfl
    | cons candidate candidates inductionHypothesis =>
        have here := farther candidate List.mem_cons_self
        rw [List.foldl_cons, nearer, if_neg (by omega)]
        exact inductionHypothesis fun other there => farther other (List.mem_cons_of_mem _ there)
  have takes (candidates : List (Nat × Verb × Nat)) (found : Option (Nat × Verb × Nat))
      (before : ∀ earlier ∈ found, best.1 < earlier.1)
      (farther : ∀ candidate ∈ candidates, best.1 < candidate.1) :
      nearer (candidates.foldl nearer found) best = some best := by
    induction candidates generalizing found with
    | nil =>
        cases found with
        | none => rfl
        | some earlier => exact if_pos (before earlier rfl)
    | cons candidate candidates inductionHypothesis =>
        refine inductionHypothesis _ ?_ fun other there =>
          farther other (List.mem_cons_of_mem _ there)
        have here := farther candidate List.mem_cons_self
        intro earlier kept
        cases found with
        | none => exact Option.some.inj kept ▸ here
        | some found =>
            rw [nearer] at kept
            split at kept
            · exact Option.some.inj kept ▸ here
            · exact before earlier kept
  rw [List.foldl_append, List.foldl_cons]
  rw [takes before none nofun fun candidate there => farther candidate
    (List.mem_append_left _ there)]
  exact keeps after fun candidate there => farther candidate (List.mem_append_right _ there)

/-- The verb behind a text that has none is the first one. -/
theorem earliestVerb_append {entry : List Char × Verb} (listed : entry ∈ verbs)
    {text rest : List Char} (verbless : IsVerbless text (entry.1 ++ rest)) :
    earliestVerb (text ++ (entry.1 ++ rest)) = some (text.length, entry.2, entry.1.length) := by
  have nonempty : ∀ entry ∈ verbs, entry.1 ≠ [] := by decide
  have full : entry.1 ++ rest ≠ [] := by simp [nonempty entry listed]
  have own : candidateOf (text ++ (entry.1 ++ rest)) entry =
      some (text.length, entry.2, entry.1.length) := by
    rw [candidateOf, verbless.findText listed, findText_here entry.1 rest (nonempty entry listed),
      Option.map_some, Option.map_some, Nat.zero_add]
  -- The other verbs are found behind this one, or not at all.
  have farther (other : List Char × Verb) (there : other ∈ verbs) (differs : other ≠ entry)
      (candidate : Nat × Verb × Nat)
      (found : candidateOf (text ++ (entry.1 ++ rest)) other = some candidate) :
      text.length < candidate.1 := by
    have apart : ∀ other ∈ verbs, ∀ entry ∈ verbs, other ≠ entry →
        ¬ other.1 <+: entry.1 ∧ ¬ entry.1 <+: other.1 := by decide
    obtain ⟨inside, outside⟩ := apart other there entry listed differs
    have unopened : ¬ other.1.isPrefixOf (entry.1 ++ rest) = true := by
      intro opens
      rcases List.prefix_or_prefix_of_prefix (List.isPrefixOf_iff_prefix.mp opens)
        (List.prefix_append entry.1 rest) with before | before
      · exact inside before
      · exact outside before
    obtain ⟨position, later⟩ := findText_later full unopened
    rw [candidateOf, verbless.findText there, later, Option.map_map, Option.map_map] at found
    obtain ⟨index, -, rfl⟩ := Option.map_eq_some_iff.mp found
    show text.length < index + 1 + text.length
    omega
  obtain ⟨before, after, shape⟩ := List.append_of_mem listed
  have distinct : verbs.Nodup := by decide
  rw [shape, List.perm_middle.nodup_iff, List.nodup_cons] at distinct
  rw [earliestVerb_eq, shape, List.filterMap_append, List.filterMap_cons_some own]
  refine foldl_nearer ?_
  intro candidate there
  rw [← List.filterMap_append] at there
  obtain ⟨other, here, found⟩ := List.mem_filterMap.mp there
  refine farther other ?_ ?_ candidate found
  · rw [shape]
    rcases List.mem_append.mp here with left | right
    · exact List.mem_append_left _ left
    · exact List.mem_append_right _ (List.mem_cons_of_mem _ right)
  · rintro rfl
    exact distinct.1 here

/-! ## Names in a caption -/

/-- A nickname: not empty, without spaces and commas. -/
def IsNick (nick : String) : Prop := nick ≠ "" ∧ ' ' ∉ nick.toList ∧ ',' ∉ nick.toList

instance (nick : String) : Decidable (IsNick nick) := inferInstanceAs (Decidable (_ ∧ _ ∧ _))

/-- A nickname as a join line shows it, with its account or without. -/
def shownName (nick shownAccount : String) : String :=
  if shownAccount = "" then nick else nick ++ " (" ++ shownAccount ++ ")"

/-- A name in a caption. -/
def IsName (token : String) : Prop :=
  ∃ nick shownAccount, token = shownName nick shownAccount ∧ IsNick nick ∧
    ' ' ∉ shownAccount.toList

/-- Whether a name begins with the word of a verb, so that it is read as the verb behind another
name. -/
def opensWithVerb (token : String) : Bool :=
  ["joined", "left", "quit"].any fun word => word.toList.isPrefixOf token.toList

/-- The characters of a name: a nickname, and an account in parentheses or nothing. -/
theorem IsName.parts {token : String} (name : IsName token) :
    ∃ nick account : List Char, token.toList = nick ++ account ∧ nick ≠ [] ∧ ' ' ∉ nick ∧
      ',' ∉ nick ∧ (account = [] ∨ ∃ inner, account = ' ' :: '(' :: (inner ++ [')']) ∧
        ' ' ∉ inner) := by
  obtain ⟨nick, shown, rfl, ⟨full, spaceless, commaless⟩, clean⟩ := name
  have full' : nick.toList ≠ [] := fun empty => full (String.toList_eq_nil_iff.mp empty)
  rw [shownName]
  split
  · exact ⟨nick.toList, [], (List.append_nil _).symm, full', spaceless, commaless, .inl rfl⟩
  · refine ⟨nick.toList, ' ' :: '(' :: (shown.toList ++ [')']), ?_, full', spaceless, commaless,
      .inr ⟨shown.toList, rfl, clean⟩⟩
    simp

theorem IsName.ne_nil {token : String} (name : IsName token) : token.toList ≠ [] := by
  obtain ⟨nick, account, text, full, -⟩ := name.parts
  rw [text]
  simp [full]

/-- A name has no verb. -/
theorem IsName.verbless {token : String} (name : IsName token) (rest : List Char) :
    IsVerbless token.toList rest := by
  obtain ⟨nick, account, text, -, spaceless, -, rfl | ⟨inner, rfl, clean⟩⟩ := name.parts
  · rw [text, List.append_nil]
    exact .of_spaceless spaceless rest
  · rw [text, IsVerbless.append]
    refine ⟨.of_spaceless spaceless _, ?_, ?_⟩
    · rintro ⟨entry, listed, opens⟩
      have second : ∀ entry ∈ verbs, entry.1.head? = some ' ' ∧ entry.1.tail.head? ≠ some '(' ∧
          entry.1.tail ≠ [] := by decide
      obtain ⟨-, apart, full⟩ := second entry listed
      obtain ⟨pattern, verb⟩ := entry
      match pattern with
      | [] => exact full rfl
      | [_] => exact full rfl
      | _ :: next :: pattern =>
          have same := (List.cons_prefix_cons.mp (List.cons_prefix_cons.mp opens).2).1
          exact apart (congrArg some same)
    · refine .of_spaceless ?_ rest
      simp [clean]

/-- A character that begins no separator belongs to the first piece. -/
theorem splitCommaSpace_cons {char : Char} {rest piece : List Char} {pieces : List (List Char)}
    (apart : char = ',' → rest.head? ≠ some ' ') (split : splitCommaSpace rest = piece :: pieces) :
    splitCommaSpace (char :: rest) = (char :: piece) :: pieces := by
  rw [splitCommaSpace, split]
  rintro later rfl rfl
  exact apart rfl rfl

/-- A separator in a text has something behind its comma that is no space. -/
def IsPlain (text : List Char) : Prop :=
  ∀ before after, text = before ++ ',' :: after → after ≠ [] ∧ after.head? ≠ some ' '

theorem IsPlain.tail {char : Char} {text : List Char} (plain : IsPlain (char :: text)) :
    IsPlain text := fun before after shape => plain (char :: before) after (by rw [shape]; rfl)

/-- A piece in front of a separator. -/
theorem splitCommaSpace_append {piece : List Char} (plain : IsPlain piece) (rest : List Char) :
    splitCommaSpace (piece ++ ',' :: ' ' :: rest) = piece :: splitCommaSpace rest := by
  induction piece with
  | nil => rfl
  | cons char piece inductionHypothesis =>
      refine splitCommaSpace_cons ?_ (inductionHypothesis plain.tail)
      rintro rfl
      obtain ⟨full, apart⟩ := plain [] piece rfl
      show (piece ++ ',' :: ' ' :: rest).head? ≠ some ' '
      rwa [List.head?_append_of_ne_nil _ full]

/-- A piece alone. -/
theorem splitCommaSpace_alone {piece : List Char} (plain : IsPlain piece) :
    splitCommaSpace piece = [piece] := by
  induction piece with
  | nil => rfl
  | cons char piece inductionHypothesis =>
      refine splitCommaSpace_cons ?_ (inductionHypothesis plain.tail)
      rintro rfl
      exact (plain [] piece rfl).2

/-- A text without commas in front changes nothing. -/
theorem IsPlain.of_commaless {left right : List Char} (commaless : ',' ∉ left)
    (plain : IsPlain right) : IsPlain (left ++ right) := by
  intro before after split
  rcases List.append_eq_append_iff.mp split with ⟨more, -, here⟩ | ⟨more, shape, here⟩
  · exact plain more after here
  · cases more with
    | nil => exact plain [] after here.symm
    | cons char more =>
        refine absurd ?_ commaless
        rw [shape, ← (List.cons.inj here).1]
        exact List.mem_append_right _ List.mem_cons_self

/-- An account that is closed has no separator. -/
theorem IsPlain.of_spaceless {inner : List Char} (clean : ' ' ∉ inner) :
    IsPlain (inner ++ [')']) := by
  intro before after split
  constructor
  · rintro rfl
    have last := congrArg List.getLast? split
    rw [List.getLast?_concat, List.getLast?_concat] at last
    exact absurd (Option.some.inj last) (by decide)
  · intro space
    have present : ' ' ∈ inner ++ [')'] := by
      rw [split]
      exact List.mem_append_right _ (List.mem_cons_of_mem _ (List.mem_of_mem_head? space))
    simp [clean] at present

/-- A name has no separator. -/
theorem IsName.plain {token : String} (name : IsName token) : IsPlain token.toList := by
  obtain ⟨nick, account, text, -, -, commaless, shape⟩ := name.parts
  rw [text]
  refine IsPlain.of_commaless commaless ?_
  rcases shape with rfl | ⟨inner, rfl, clean⟩
  · intro before after split
    simp at split
  · have closed : IsPlain ([' ', '('] ++ (inner ++ [')'])) :=
      .of_commaless (by decide) (.of_spaceless clean)
    exact closed

/-! ## Clauses -/

/-- Names that are read back: no name behind another one begins with the word of a verb. -/
structure AreNames (tokens : List String) : Prop where
  full : tokens ≠ []
  names : ∀ token ∈ tokens, IsName token
  behind : ∀ token ∈ tokens.tail, opensWithVerb token = false

/-- The names of a clause, one more in front. -/
theorem toList_joinTexts_cons (first second : String) (rest : List String) :
    (joinTexts ", " (first :: second :: rest)).toList =
      first.toList ++ ',' :: ' ' :: (joinTexts ", " (second :: rest)).toList := by
  rw [joinTexts_cons_cons]
  simp

/-- A clause that is read back. -/
def Clause.IsReadable : Clause → Prop
  | .joined tokens => AreNames tokens
  | .left tokens => AreNames tokens
  | .quit tokens => AreNames tokens
  | .nick oldNick newNick => IsNick oldNick ∧ IsNick newNick

/-- Names are split at their separators. -/
theorem splitCommaSpace_names {tokens : List String} (full : tokens ≠ [])
    (names : ∀ token ∈ tokens, IsName token) :
    splitCommaSpace (joinTexts ", " tokens).toList = tokens.map String.toList := by
  induction tokens with
  | nil => exact absurd rfl full
  | cons first rest inductionHypothesis =>
      have plain := (names first List.mem_cons_self).plain
      cases rest with
      | nil =>
          rw [joinTexts_single]
          exact splitCommaSpace_alone plain
      | cons second rest =>
          rw [toList_joinTexts_cons, splitCommaSpace_append plain, inductionHypothesis
            (List.cons_ne_nil _ _) fun token there => names token (List.mem_cons_of_mem _ there)]
          rfl

theorem splitTokens_names {tokens : List String} (full : tokens ≠ [])
    (names : ∀ token ∈ tokens, IsName token) :
    splitTokens (joinTexts ", " tokens).toList = tokens := by
  have kept : (tokens.map String.toList).filter (· ≠ []) = tokens.map String.toList := by
    refine List.filter_eq_self.mpr ?_
    intro text there
    obtain ⟨token, listed, rfl⟩ := List.mem_map.mp there
    simpa using (names token listed).ne_nil
  rw [splitTokens, splitCommaSpace_names full names, kept, List.map_map]
  conv_rhs => rw [← List.map_id tokens]
  exact List.map_congr_left fun token _ => String.ofList_toList

/-- What a verb behind a space, or a separator, looks like at its start. -/
def IsAfterName (rest : List Char) : Prop :=
  rest.head? = some ',' ∨ rest.head? = some ' ' ∧ rest.tail.head? ≠ some 'n'

/-- A word at the start of a name does not reach behind it. -/
theorem prefix_name {word nick rest : List Char} (spaceless : ' ' ∉ word) (commaless : ',' ∉ word)
    (after : IsAfterName rest) (opens : word <+: nick ++ rest) : word <+: nick := by
  rcases List.prefix_or_prefix_of_prefix opens (List.prefix_append nick rest) with inside | outside
  · exact inside
  · obtain ⟨more, rfl⟩ := outside
    cases more with
    | nil =>
        exact (List.append_nil nick).symm ▸ List.prefix_rfl
    | cons char more =>
        rw [List.prefix_append_right_inj] at opens
        cases rest with
        | nil => exact absurd opens (by simp)
        | cons first rest =>
            have same := (List.cons_prefix_cons.mp opens).1
            have present : char ∈ nick ++ char :: more := by simp
            rcases after with comma | ⟨space, -⟩
            · rw [same, Option.some.inj comma] at present
              exact absurd (same ▸ Option.some.inj comma ▸ present) commaless
            · rw [same, Option.some.inj space] at present
              exact absurd (same ▸ Option.some.inj space ▸ present) spaceless

/-- A name behind another one is not taken for a verb. -/
theorem IsName.not_startsVerb {token : String} (name : IsName token)
    (opens : opensWithVerb token = false) {rest : List Char} (after : IsAfterName rest) :
    ¬ StartsVerb (' ' :: (token.toList ++ rest)) := by
  obtain ⟨nick, account, text, -, spaceless, commaless, shape⟩ := name.parts
  have after' : IsAfterName (account ++ rest) := by
    rcases shape with rfl | ⟨inner, rfl, -⟩
    · exact after
    · exact .inr ⟨rfl, by simp⟩
  rw [text, List.append_assoc]
  rintro ⟨entry, listed, starts⟩
  have word (word : String) (here : word ∈ ["joined", "left", "quit"])
      (reads : word.toList <+: nick ++ (account ++ rest)) : False := by
    have clean : ∀ word ∈ ["joined", "left", "quit"], ' ' ∉ word.toList ∧ ',' ∉ word.toList := by
      decide
    obtain ⟨spaces, commas⟩ := clean word here
    have inside := prefix_name spaces commas after' reads
    rw [opensWithVerb, List.any_eq_false] at opens
    refine opens word here (List.isPrefixOf_iff_prefix.mpr ?_)
    rw [text]
    exact inside.trans (List.prefix_append _ _)
  rw [verbs, List.mem_cons, List.mem_cons, List.mem_cons, List.mem_singleton] at listed
  rcases listed with rfl | rfl | rfl | rfl
  · exact word "joined" (by simp) (List.cons_prefix_cons.mp starts).2
  · exact word "left" (by simp) (List.cons_prefix_cons.mp starts).2
  · exact word "quit" (by simp) (List.cons_prefix_cons.mp starts).2
  · have reads : ['i', 's'] ++ [' ', 'n', 'o', 'w', ' '] <+: nick ++ (account ++ rest) :=
      (List.cons_prefix_cons.mp starts).2
    obtain ⟨more, rfl⟩ := prefix_name (by decide) (by decide) after'
      ((List.prefix_append _ _).trans reads)
    rw [List.append_assoc, List.prefix_append_right_inj] at reads
    cases more with
    | nil =>
        obtain ⟨later, behind⟩ := reads
        rw [List.nil_append] at behind
        rw [← behind] at after'
        rcases after' with comma | ⟨-, apart⟩
        · exact absurd (Option.some.inj comma) (by decide)
        · exact apart rfl
    | cons char more =>
        have space := (List.cons_prefix_cons.mp reads).1
        refine spaceless ?_
        rw [space]
        simp

/-- Names in front of their verb have no other verb. -/
theorem AreNames.verbless {tokens : List String} (names : AreNames tokens) {rest : List Char}
    (after : IsAfterName rest) : IsVerbless (joinTexts ", " tokens).toList rest := by
  obtain ⟨full, names, behind⟩ := names
  induction tokens with
  | nil => exact absurd rfl full
  | cons first more inductionHypothesis =>
      have name := names first List.mem_cons_self
      cases more with
      | nil =>
          rw [joinTexts_single]
          exact name.verbless rest
      | cons second more =>
          have second' := names second (List.mem_cons_of_mem _ List.mem_cons_self)
          have quiet := behind second List.mem_cons_self
          have later := inductionHypothesis (List.cons_ne_nil _ _)
            (fun token there => names token (List.mem_cons_of_mem _ there))
            (fun token there => behind token (List.mem_cons_of_mem _ there))
          rw [toList_joinTexts_cons, IsVerbless.append]
          refine ⟨name.verbless _, ?_, ?_, later⟩
          · exact fun starts => absurd (startsVerb_space starts) (by decide)
          · cases more with
            | nil =>
                rw [joinTexts_single]
                exact second'.not_startsVerb quiet after
            | cons third more =>
                rw [toList_joinTexts_cons, List.append_assoc]
                exact second'.not_startsVerb quiet (.inl rfl)

/-- What follows a clause in a caption: nothing, or a separator. -/
def IsBehind (rest : List Char) : Prop := rest = [] ∨ rest.head? = some ','

/-- The text of names is not empty. -/
theorem AreNames.text_ne_nil {tokens : List String} (names : AreNames tokens) :
    (joinTexts ", " tokens).toList ≠ [] := by
  obtain ⟨full, names, -⟩ := names
  cases tokens with
  | nil => exact absurd rfl full
  | cons first rest =>
      have here := (names first List.mem_cons_self).ne_nil
      cases rest with
      | nil =>
          rw [joinTexts_single]
          exact here
      | cons second rest =>
          rw [toList_joinTexts_cons]
          simp

/-- Names and their verb are read as a clause. -/
theorem parseClause_names {tokens : List String} (names : AreNames tokens)
    {entry : List Char × Verb} (listed : entry ∈ verbs) (other : entry.2 ≠ .nick)
    (rest : List Char) :
    parseClause ((joinTexts ", " tokens).toList ++ (entry.1 ++ rest)) =
      some (match entry.2 with
        | .joined => Clause.joined tokens
        | .left => Clause.left tokens
        | _ => Clause.quit tokens, rest) := by
  have after : IsAfterName (entry.1 ++ rest) := by
    rw [verbs, List.mem_cons, List.mem_cons, List.mem_cons, List.mem_singleton] at listed
    rcases listed with rfl | rfl | rfl | rfl
    · exact .inr ⟨rfl, fun same => absurd (Option.some.inj same) (by decide)⟩
    · exact .inr ⟨rfl, fun same => absurd (Option.some.inj same) (by decide)⟩
    · exact .inr ⟨rfl, fun same => absurd (Option.some.inj same) (by decide)⟩
    · exact absurd rfl other
  have found := earliestVerb_append listed (names.verbless after)
  have nonempty : ¬ (joinTexts ", " tokens).toList.length = 0 :=
    fun empty => names.text_ne_nil (List.length_eq_zero_iff.mp empty)
  have named : ((joinTexts ", " tokens).toList ++ (entry.1 ++ rest)).take
      (joinTexts ", " tokens).toList.length = (joinTexts ", " tokens).toList := List.take_left
  have behind : ((joinTexts ", " tokens).toList ++ (entry.1 ++ rest)).drop
      ((joinTexts ", " tokens).toList.length + entry.1.length) = rest := by
    rw [← List.append_assoc]
    exact List.drop_left' List.length_append
  have split := splitTokens_names names.full names.names
  have full := names.full
  rw [parseClause, found]
  dsimp only
  rw [if_neg nonempty, named, behind]
  obtain ⟨pattern, verb⟩ := entry
  cases verb with
  | joined => simp [split, full]
  | left => simp [split, full]
  | quit => simp [split, full]
  | nick => exact absurd rfl other

/-- A nick change is read as a clause. -/
theorem parseClause_nick {oldNick newNick : String} (old : IsNick oldNick) (new : IsNick newNick)
    {rest : List Char} (behind : IsBehind rest) :
    parseClause ((nickLine oldNick newNick).toList ++ rest) =
      some (.nick oldNick newNick, rest) := by
  have text : (nickLine oldNick newNick).toList ++ rest =
      oldNick.toList ++ (" is now ".toList ++ (newNick.toList ++ rest)) := by
    simp [nickLine]
  have listed : (" is now ".toList, Verb.nick) ∈ verbs := by decide
  have found := earliestVerb_append listed (IsVerbless.of_spaceless old.2.1
    (" is now ".toList ++ (newNick.toList ++ rest)))
  have nonempty : ¬ oldNick.toList.length = 0 := fun empty =>
    old.1 (String.toList_eq_nil_iff.mp (List.length_eq_zero_iff.mp empty))
  have full : newNick.toList ≠ [] := fun empty => new.1 (String.toList_eq_nil_iff.mp empty)
  have named : (oldNick.toList ++ (" is now ".toList ++ (newNick.toList ++ rest))).take
      oldNick.toList.length = oldNick.toList := List.take_left
  have later : (oldNick.toList ++ (" is now ".toList ++ (newNick.toList ++ rest))).drop
      (oldNick.toList.length + " is now ".toList.length) = newNick.toList ++ rest := by
    rw [← List.append_assoc]
    exact List.drop_left' List.length_append
  have stops : (newNick.toList ++ rest).takeWhile (· ≠ ',') = newNick.toList := by
    have inside : ∀ char ∈ newNick.toList, decide (char ≠ ',') = true := by
      intro char present
      rw [decide_eq_true_eq]
      rintro rfl
      exact new.2.2 present
    rw [List.takeWhile_append_of_pos inside]
    rcases behind with rfl | comma
    · rw [List.takeWhile_nil, List.append_nil]
    · cases rest with
      | nil => cases comma
      | cons char rest =>
          rw [Option.some.inj comma, List.takeWhile_cons_of_neg (by decide), List.append_nil]
  have kept : ¬ (newNick.toList = [] ∨ ' ' ∈ newNick.toList) :=
    not_or.mpr ⟨full, new.2.1⟩
  rw [text, parseClause, found]
  dsimp only
  rw [if_neg nonempty, named, later, stops, if_neg kept, List.drop_left, String.ofList_toList,
    String.ofList_toList]

/-- A clause is read back. -/
theorem parseClause_render {clause : Clause} (readable : clause.IsReadable) {rest : List Char}
    (behind : IsBehind rest) :
    parseClause ((renderClause clause).toList ++ rest) = some (clause, rest) := by
  cases clause with
  | joined tokens =>
      have listed : (" joined".toList, Verb.joined) ∈ verbs := by decide
      rw [renderClause, String.toList_append, List.append_assoc]
      exact parseClause_names readable listed nofun rest
  | left tokens =>
      have listed : (" left".toList, Verb.left) ∈ verbs := by decide
      rw [renderClause, String.toList_append, List.append_assoc]
      exact parseClause_names readable listed nofun rest
  | quit tokens =>
      have listed : (" quit".toList, Verb.quit) ∈ verbs := by decide
      rw [renderClause, String.toList_append, List.append_assoc]
      exact parseClause_names readable listed nofun rest
  | nick oldNick newNick => exact parseClause_nick readable.1 readable.2 behind

theorem renderClause_ne_nil (clause : Clause) : (renderClause clause).toList ≠ [] := by
  cases clause with
  | joined tokens => simp [renderClause]
  | left tokens => simp [renderClause]
  | quit tokens => simp [renderClause]
  | nick oldNick newNick => simp [renderClause, nickLine]

/-! ## Captions -/

theorem toList_renderClauses_cons (first second : Clause) (rest : List Clause) :
    (renderClauses (first :: second :: rest)).toList =
      (renderClause first).toList ++ ',' :: ' ' :: (renderClauses (second :: rest)).toList :=
  toList_joinTexts_cons _ _ _

theorem renderClauses_single (clause : Clause) : renderClauses [clause] = renderClause clause :=
  joinTexts_single _ _

theorem renderClauses_ne_nil {clauses : List Clause} (full : clauses ≠ []) :
    (renderClauses clauses).toList ≠ [] := by
  match clauses with
  | [] => exact absurd rfl full
  | [clause] =>
      rw [renderClauses_single]
      exact renderClause_ne_nil clause
  | first :: second :: rest =>
      rw [toList_renderClauses_cons]
      simp

/-- A caption has at least as many characters as clauses. -/
theorem length_le_renderClauses (clauses : List Clause) :
    clauses.length ≤ (renderClauses clauses).toList.length := by
  induction clauses with
  | nil => exact Nat.zero_le _
  | cons first more inductionHypothesis =>
      have here := List.length_pos_of_ne_nil (renderClause_ne_nil first)
      cases more with
      | nil =>
          rw [renderClauses_single]
          exact here
      | cons second rest =>
          have longer : (second :: rest).length + 1 ≤ (renderClause first).toList.length +
              ((renderClauses (second :: rest)).toList.length + 1 + 1) := by omega
          rw [toList_renderClauses_cons, List.length_append]
          exact longer

/-- Clauses are read back. -/
theorem parseClausesFrom_render {clauses : List Clause} (full : clauses ≠ [])
    (readable : ∀ clause ∈ clauses, clause.IsReadable) {fuel : Nat} (enough : clauses.length ≤ fuel) :
    parseClausesFrom fuel (renderClauses clauses).toList = some clauses := by
  induction clauses generalizing fuel with
  | nil => exact absurd rfl full
  | cons first more inductionHypothesis =>
      have here := readable first List.mem_cons_self
      cases fuel with
      | zero => cases enough
      | succ fuel =>
          cases more with
          | nil =>
              have read : parseClause ((renderClause first).toList ++ []) = some (first, []) :=
                parseClause_render here (.inl rfl)
              rw [List.append_nil] at read
              rw [renderClauses_single, parseClausesFrom, read]
              rfl
          | cons second rest =>
              have later := inductionHypothesis (List.cons_ne_nil _ _)
                (fun clause there => readable clause (List.mem_cons_of_mem _ there))
                (Nat.le_of_succ_le_succ enough)
              have filled : ¬ (renderClauses (second :: rest)).toList = [] :=
                renderClauses_ne_nil (List.cons_ne_nil _ _)
              rw [toList_renderClauses_cons, parseClausesFrom, parseClause_render here (.inr rfl),
                Option.bind_some]
              refine (if_neg filled).trans ?_
              rw [later]
              rfl

/-- A caption is read back. -/
theorem parseClauses_render {clauses : List Clause} (full : clauses ≠ [])
    (readable : ∀ clause ∈ clauses, clause.IsReadable) :
    parseClauses (renderClauses clauses) = some clauses := by
  rw [parseClauses, parseClausesFrom_render full readable (length_le_renderClauses clauses)]
  simp

end Omairc.Irc

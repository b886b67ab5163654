import Omairc.Text.Strings

/-!
# Membership captions

Join, part, quit and nick lines are one caption each. A run of them can fold into one
caption; the fold works on caption text, which it parses into clauses and renders
again.
-/

namespace Omairc.Irc

open Omairc.Text

/-- How join, part, quit and nick lines show. -/
inductive MembershipNoise
  | folded
  | every
  | hidden
  deriving DecidableEq

/-- One join line. -/
def joinLine (nick shownAccount : String) : String :=
  if shownAccount = "" then nick ++ " joined" else nick ++ " (" ++ shownAccount ++ ") joined"

/-- One part line. -/
def partLine (nick : String) : String := nick ++ " left"

/-- One quit line. -/
def quitLine (nick : String) : String := nick ++ " quit"

/-- One nick-change line. -/
def nickLine (oldNick newNick : String) : String := oldNick ++ " is now " ++ newNick

/-- How one incoming membership line meets the caption before it. -/
inductive FoldKind
  | merge
  | cancel
  | chain
  deriving DecidableEq

/-- The result of folding one incoming line onto a caption. `dropRow` means that the
whole caption cancelled out. -/
structure MembershipFold where
  kind : FoldKind
  dropRow : Bool := false
  body : String

/-- One clause of a caption. -/
inductive Clause
  | joined (tokens : List String)
  | left (tokens : List String)
  | quit (tokens : List String)
  | nick (oldNick newNick : String)

/-- The verbs of the clauses. -/
inductive Verb
  | joined
  | left
  | quit
  | nick
  deriving DecidableEq

/-- The text of each verb, with the blanks around it. -/
def verbs : List (List Char × Verb) :=
  [(" joined".toList, .joined), (" left".toList, .left), (" quit".toList, .quit),
    (" is now ".toList, .nick)]

/-- Where a pattern first occurs in a text. -/
def findText (pattern : List Char) : List Char → Option Nat
  | [] => if pattern = [] then some 0 else none
  | text@(_ :: rest) =>
      if pattern.isPrefixOf text then some 0 else (findText pattern rest).map (· + 1)

/-- The pieces of a text around every occurrence of `", "`. -/
def splitCommaSpace : List Char → List (List Char)
  | [] => [[]]
  | ',' :: ' ' :: rest => [] :: splitCommaSpace rest
  | character :: rest =>
      match splitCommaSpace rest with
      | [] => [[character]]
      | piece :: pieces => (character :: piece) :: pieces

/-- The comma-separated nicks of a clause, empty entries dropped. -/
def splitTokens (text : List Char) : List String :=
  ((splitCommaSpace text).filter (· ≠ [])).map String.ofList

/-- The text of a clause. -/
def renderClause : Clause → String
  | .joined tokens => joinTexts ", " tokens ++ " joined"
  | .left tokens => joinTexts ", " tokens ++ " left"
  | .quit tokens => joinTexts ", " tokens ++ " quit"
  | .nick oldNick newNick => nickLine oldNick newNick

/-- The text of a caption. -/
def renderClauses (clauses : List Clause) : String := joinTexts ", " (clauses.map renderClause)

/-- The verb found earliest in a text, with its position and length. -/
def earliestVerb (text : List Char) : Option (Nat × Verb × Nat) :=
  (verbs.filterMap fun (suffix, verb) =>
    (findText suffix text).map fun position => (position, verb, suffix.length)).foldl
      (fun best candidate =>
        match best with
        | none => some candidate
        | some found => if candidate.1 < found.1 then some candidate else some found) none

/-- The first clause of a text and what follows it. -/
def parseClause (rest : List Char) : Option (Clause × List Char) :=
  match earliestVerb rest with
  | none => none
  | some (position, verb, length) =>
      if position = 0 then none
      else
        let named := rest.take position
        let remaining := rest.drop (position + length)
        match verb with
        | .nick =>
            let new := remaining.takeWhile (· ≠ ',')
            if new = [] ∨ ' ' ∈ new then none
            else some (.nick (String.ofList named) (String.ofList new), remaining.drop new.length)
        | .joined | .left | .quit =>
            let tokens := splitTokens named
            if tokens = [] then none
            else
              let clause :=
                match verb with
                | .joined => Clause.joined tokens
                | .left => Clause.left tokens
                | _ => Clause.quit tokens
              some (clause, remaining)

/-- The clauses of a text. Each one takes at least two characters, so a text has fewer
clauses than characters. -/
def parseClausesFrom : Nat → List Char → Option (List Clause)
  | 0, _ => none
  | fuel + 1, rest =>
      (parseClause rest).bind fun (clause, remaining) =>
        match remaining with
        | [] => some [clause]
        | ',' :: ' ' :: next =>
            if next = [] then none
            else (parseClausesFrom fuel next).map (clause :: ·)
        | _ => none

/-- Split a caption into clauses. There are none when the text is not one Omairc writes,
or when it does not render to the same text again. -/
def parseClauses (body : String) : Option (List Clause) :=
  (parseClausesFrom body.toList.length body.toList).filter fun clauses =>
    renderClauses clauses == body

/-- The nick in a joined token, which may carry an account. -/
def membershipNick (token : String) : String :=
  if token.toList.getLast? = some ')' then
    match findText " (".toList token.toList with
    | some (position + 1) => String.ofList (token.toList.take (position + 1))
    | _ => token
  else token

/-- Two captions of the same verb merge their names. Otherwise they join with a comma. -/
def collapseEventBody (existing incoming : String) : String :=
  match [" joined", " left", " quit"].find? fun suffix =>
      suffix.toList.isSuffixOf existing.toList && suffix.toList.isSuffixOf incoming.toList with
  | some suffix =>
      String.ofList (existing.toList.take (existing.toList.length - suffix.toList.length)) ++ ", "
        ++ String.ofList (incoming.toList.take (incoming.toList.length - suffix.toList.length))
        ++ suffix
  | none => existing ++ ", " ++ incoming

/-- The ordinary fold: append to the caption. -/
def mergeFold (existing incoming : String) : MembershipFold :=
  { kind := .merge, body := collapseEventBody existing incoming }

/-- Whether a join undoes the last departure of a caption. -/
def cancels (same : String → String → Bool) (tokens joined : List String) : Bool :=
  match joined with
  | [nick] => (tokens.getLast?).any fun last => same (membershipNick last) (membershipNick nick)
  | _ => false

/-- A caption without its last departure. -/
def cancelFold (clauses : List Clause) : MembershipFold :=
  if clauses = [] then { kind := .cancel, dropRow := true, body := "" }
  else { kind := .cancel, body := renderClauses clauses }

/-- Fold an incoming line onto a caption. A join by the nick that just left or quit
cancels that departure. A nick change chains onto the one before it. Anything else
merges as plain text. -/
def foldMembership (existing incoming : String) (same : String → String → Bool) :
    MembershipFold :=
  match parseClauses existing, parseClauses incoming with
  | some clauses, some [next] =>
      let earlier := clauses.dropLast
      match clauses.getLast?, next with
      | some (.left tokens), .joined joined =>
          if cancels same tokens joined then
            cancelFold (earlier ++
              if tokens.dropLast = [] then [] else [.left tokens.dropLast])
          else mergeFold existing incoming
      | some (.quit tokens), .joined joined =>
          if cancels same tokens joined then
            cancelFold (earlier ++
              if tokens.dropLast = [] then [] else [.quit tokens.dropLast])
          else mergeFold existing incoming
      | some (.nick first new), .nick old latest =>
          if same new old then
            { kind := .chain, body := renderClauses (earlier ++ [.nick first latest]) }
          else mergeFold existing incoming
      | _, _ => mergeFold existing incoming
  | _, _ => mergeFold existing incoming

end Omairc.Irc

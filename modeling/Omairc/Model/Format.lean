import Omairc.Irc.PlainText
import Omairc.Text.Pieces

/-!
# Clickable text

What a click on a line can reach: its URLs, and the channel names that do not start inside one.
-/

namespace Omairc.Model

open Omairc.Text
open Omairc.Irc

/-- The closing mark behind a text has no opening one in it. -/
def isUnmatched (opener closer : Char) (upTo : List Char) : Bool :=
  upTo.count opener < upTo.count closer

/-! ## URLs -/

/-- Byte length of a leading `http://` or `https://`. -/
def httpSchemePrefixLen (rest : List Char) : Option Nat :=
  if (rest.take 8).map Char.toLower = ['h', 't', 't', 'p', 's', ':', '/', '/'] then some 8
  else if (rest.take 7).map Char.toLower = ['h', 't', 't', 'p', ':', '/', '/'] then some 7
  else none

/-- What ends a URL. All of it is ASCII, so bytes are looked at as characters. -/
def stopsUrl (char : Char) : Bool :=
  [' ', '\t', '\n', '\x0c', '\r', '<', '>', '"', '\''].contains char

/-- A URL without the sentence marks and unmatched closing brackets at its end. -/
def trimHttpUrlMatch (raw : List Char) : List Char :=
  trimEnd (fun last upTo =>
    ['.', ',', ';', ':', '!', '?'].contains last || last == ')' && isUnmatched '(' ')' upTo ||
      last == ']' && isUnmatched '[' ']' upTo) raw

/-- The http(s) URL policy. -/
def isAllowedHttpUrl (url : List Char) : Bool :=
  let scheme := url.takeWhile fun char => char != ':'
  let tail := url.dropWhile fun char => char != ':'
  let rest := tail.drop 3
  (scheme.map Char.toLower == ['h', 't', 't', 'p'] ||
      scheme.map Char.toLower == ['h', 't', 't', 'p', 's']) &&
    [':', '/', '/'].isPrefixOf tail && !rest.isEmpty &&
      rest.all fun char => char != '\n' && char != '\r' && char != ' '

/-- A scheme and what stands behind it, up to what ends a URL. -/
def rawHttpUrl (scheme : Nat) (rest : List Char) : List Char :=
  rest.take scheme ++ (rest.drop scheme).takeWhile fun char => !stopsUrl char

/-- The URLs in the rest of a text that begins at an offset. -/
def httpLinkRangesFrom (start : Nat) : List Char → List Span
  | [] => []
  | first :: tail =>
      -- A scheme and at least one more byte.
      if byteSize (first :: tail) ≤ 7 then []
      else
        match httpSchemePrefixLen (first :: tail) with
        | none => httpLinkRangesFrom (start + byteSize [first]) tail
        | some scheme =>
            let raw := rawHttpUrl scheme (first :: tail)
            let trimmed := trimHttpUrlMatch raw
            let range :=
              if !trimmed.isEmpty && isAllowedHttpUrl trimmed then
                [⟨start, start + byteSize trimmed⟩]
              else []
            range ++
              -- A bare scheme is passed by one character at a time.
              if raw.length = scheme then httpLinkRangesFrom (start + byteSize [first]) tail
              else httpLinkRangesFrom (start + byteSize raw) (tail.drop (raw.length - 1))
termination_by rest => rest.length
decreasing_by
  all_goals simp only [List.length_cons, List.length_drop]
  all_goals omega

def httpLinkRanges (text : String) : List Span := httpLinkRangesFrom 0 text.toList

/-- The text of a line and its links. Its styled runs are no part of what a click reaches. -/
structure FormattedText where
  plain : String
  links : List Span

/-- Formats one IRC line. -/
def formatIrc (text : String) : FormattedText :=
  ⟨plainIrcText text, httpLinkRanges (plainIrcText text)⟩

/-! ## Channel names -/

/-- The server features that a scan for channel names reads: what starts a name, and the ranks that
may sit in front of one. -/
structure ChannelFeatures where
  channelTypes : String := "#&"
  prefixSymbols : String := "~&@%+"

/-- A channel name in a line, with its range. -/
structure ChannelNameSpan where
  range : Span
  name : String

/-- What may come just before a channel name. -/
def isChannelBoundary (char : Char) : Bool :=
  isWhitespace char || ['(', '[', '\x7b', '<', '"', '\'', ','].contains char

/-- What ends a channel token. -/
def stopsChannelName (char : Char) : Bool :=
  char.toNat < 0x20 || char == '\x7f' || isWhitespace char || char == ',' || char == ':'

def isChannelType (char : Char) (chantypes : String) : Bool :=
  char.toNat < 128 && chantypes.toList.contains char

/-- Whether a character is one of the network's PREFIX symbols. -/
def isRankSymbol (char : Char) (prefixes : String) : Bool :=
  char.toNat < 128 && prefixes.toList.contains char

/-- The opening mark of a closing one. -/
def openerOf : Char → Option Char
  | ')' => some '('
  | ']' => some '['
  | '\x7d' => some '\x7b'
  | '>' => some '<'
  | _ => none

/-- A channel token without the sentence marks, quotes and unmatched closing brackets at its
end. -/
def trimChannelName (raw : List Char) : List Char :=
  trimEnd (fun last upTo =>
    ['.', ',', ';', ':', '!', '?', '"', '\''].contains last ||
      (openerOf last).any fun opener => isUnmatched opener last upTo) raw

/-- The channel names in the rest of a text that begins at an offset, behind a character. -/
def channelNameRangesFrom (features : ChannelFeatures) (previous : Option Char) (start : Nat) :
    List Char → List ChannelNameSpan
  | [] => []
  | first :: tail =>
      let boundary := previous.all fun previous =>
        isRankSymbol previous features.prefixSymbols || isChannelBoundary previous
      if !boundary || !isChannelType first features.channelTypes then
        channelNameRangesFrom features (some first) (start + byteSize [first]) tail
      else
        let token := first :: tail.takeWhile fun char => !stopsChannelName char
        let name := trimChannelName token
        let isChannel := name.head?.any fun first => isChannelType first features.channelTypes
        let span :=
          if isChannel && 2 ≤ name.length then
            [⟨⟨start, start + byteSize name⟩, String.ofList name⟩]
          else []
        span ++ channelNameRangesFrom features token.getLast? (start + byteSize token)
          (tail.drop (token.length - 1))
termination_by rest => rest.length
decreasing_by
  all_goals simp only [List.length_cons, List.length_drop]
  all_goals omega

/-- The channel names in a text. -/
def channelNameRanges (text : String) (features : ChannelFeatures) : List ChannelNameSpan :=
  if features.channelTypes = "" then []
  else channelNameRangesFrom features none 0 text.toList

/-- The channel names in a line that a click can reach: those that do not start inside a URL. -/
def channelHits (text : FormattedText) (features : ChannelFeatures) : List ChannelNameSpan :=
  (channelNameRanges text.plain features).filter fun span =>
    !text.links.any fun link => link.start ≤ span.range.start && span.range.start < link.stop

/-! ## Hits -/

/-- What a click on a text does. -/
inductive TextHit
  | url (url : String)
  | channel (name : String)
  deriving DecidableEq

/-- Every clickable piece of a line: the URLs first, then the channel names. -/
def textHits (text : FormattedText) (features : ChannelFeatures) : List (Span × TextHit) :=
  (text.links.map fun range => (range, .url (String.ofList (range.text text.plain.toList)))) ++
    (channelHits text features).map fun span => (span.range, .channel span.name)

end Omairc.Model

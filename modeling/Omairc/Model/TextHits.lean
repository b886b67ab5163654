import Omairc.Model.Format

/-!
# Clickable ranges

The ranges that a click can reach are in the text, between characters and not empty, and every URL
among them is allowed. No two of them meet, but for a channel name in which a URL starts: that name
ends with the scheme of the URL.
-/

namespace Omairc.Model

open Omairc.Text
open Omairc.Irc

/-! ## URLs -/

/-- The schemes of a URL. -/
def IsHttpScheme (scheme : List Char) : Prop :=
  scheme.map Char.toLower = ['h', 't', 't', 'p'] ∨
    scheme.map Char.toLower = ['h', 't', 't', 'p', 's']

/-- An allowed URL has a scheme and something behind it. -/
theorem isAllowedHttpUrl_cases {url : List Char} (allowed : isAllowedHttpUrl url = true) :
    ∃ scheme rest, url = scheme ++ ':' :: '/' :: '/' :: rest ∧ IsHttpScheme scheme ∧ rest ≠ [] := by
  simp only [isAllowedHttpUrl, Bool.and_eq_true, Bool.or_eq_true, beq_iff_eq,
    Bool.not_eq_true', List.isEmpty_eq_false_iff] at allowed
  obtain ⟨⟨⟨scheme, marks⟩, full⟩, _⟩ := allowed
  obtain ⟨rest, tail⟩ := List.isPrefixOf_iff_prefix.mp marks
  refine ⟨url.takeWhile fun char => char != ':', rest, ?_, scheme, ?_⟩
  · calc url = url.takeWhile (fun char => char != ':') ++ url.dropWhile (fun char => char != ':') :=
          List.takeWhile_append_dropWhile.symm
      _ = _ := by rw [← tail]; rfl
  · rw [← tail] at full
    exact full

/-- No part of a bare scheme is an allowed URL. -/
theorem isAllowedHttpUrl_bare {rest trimmed : List Char} {scheme : Nat}
    (opens : httpSchemePrefixLen rest = some scheme) (inside : trimmed <+: rest.take scheme) :
    isAllowedHttpUrl trimmed = false := by
  rw [Bool.eq_false_iff]
  intro allowed
  obtain ⟨front, behind, rfl, named, full⟩ := isAllowedHttpUrl_cases allowed
  obtain ⟨char, behind, rfl⟩ := List.exists_cons_of_ne_nil full
  have lower := inside.map Char.toLower
  rw [List.map_append] at lower
  simp only [httpSchemePrefixLen] at opens
  split_ifs at opens with https http
  · cases opens
    rw [https] at lower
    rcases named with named | named <;> simp [named] at lower
  · cases opens
    rw [http] at lower
    rcases named with named | named <;> simp [named] at lower

/-- A leading scheme is not empty. -/
theorem httpSchemePrefixLen_pos {rest : List Char} {scheme : Nat}
    (opens : httpSchemePrefixLen rest = some scheme) : 0 < scheme := by
  simp only [httpSchemePrefixLen] at opens
  split_ifs at opens <;> cases opens <;> decide

/-- What was taken from the front of a text, and what is left. -/
theorem drop_pred_length {first : Char} {tail raw : List Char} (opens : raw <+: first :: tail)
    (full : raw ≠ []) : first :: tail = raw ++ tail.drop (raw.length - 1) := by
  obtain ⟨rest, shape⟩ := opens
  obtain ⟨char, more, rfl⟩ := List.exists_cons_of_ne_nil full
  rw [List.cons_append, List.cons.injEq] at shape
  obtain ⟨rfl, rfl⟩ := shape
  rw [List.length_cons, Nat.add_sub_cancel, List.drop_left, List.cons_append]

/-- A match begins the text. -/
theorem rawHttpUrl_prefix (scheme : Nat) (rest : List Char) : rawHttpUrl scheme rest <+: rest := by
  obtain ⟨behind, shape⟩ := List.takeWhile_prefix (fun char => !stopsUrl char)
    (l := rest.drop scheme)
  refine ⟨behind, ?_⟩
  rw [rawHttpUrl, List.append_assoc, shape, List.take_append_drop]

/-- A match is not empty. -/
theorem rawHttpUrl_ne_nil {first : Char} {tail : List Char} {scheme : Nat}
    (opens : httpSchemePrefixLen (first :: tail) = some scheme) :
    rawHttpUrl scheme (first :: tail) ≠ [] := by
  obtain ⟨more, rfl⟩ := Nat.exists_eq_succ_of_ne_zero (httpSchemePrefixLen_pos opens).ne'
  rw [rawHttpUrl, List.take_succ_cons, List.cons_append]
  exact List.cons_ne_nil _ _

/-- The scan for URLs finds allowed ones. -/
theorem httpLinkRangesFrom_finds (start : Nat) (rest : List Char) :
    ∃ finds, httpLinkRangesFrom start rest = finds.map Prod.fst ∧
      Finds (fun url _ => isAllowedHttpUrl url = true) start rest finds := by
  induction start, rest using httpLinkRangesFrom.induct with
  | case1 start => exact ⟨[], by rw [httpLinkRangesFrom]; rfl, .nil start []⟩
  | case2 start first tail short =>
      exact ⟨[], by rw [httpLinkRangesFrom, if_pos short]; rfl, .nil start _⟩
  | case3 start first tail long noScheme inductionHypothesis =>
      obtain ⟨finds, ranges, found⟩ := inductionHypothesis
      refine ⟨finds, ?_, .skip [first] tail found⟩
      rw [httpLinkRangesFrom, if_neg long, noScheme]
      exact ranges
  | case4 start first tail long scheme opens raw one behind =>
      have prefixed : raw <+: first :: tail := rawHttpUrl_prefix scheme (first :: tail)
      have full : raw ≠ [] := rawHttpUrl_ne_nil opens
      have begins : trimHttpUrlMatch raw <+: raw := trimEnd_prefix _ raw
      rw [httpLinkRangesFrom, if_neg long, opens]
      dsimp only
      rw [show rawHttpUrl scheme (first :: tail) = raw from rfl]
      clear_value raw
      by_cases bare : raw.length = scheme
      · -- A bare scheme is not allowed, and the scan goes on behind its first character.
        have inside : trimHttpUrlMatch raw <+: (first :: tail).take scheme := by
          rw [← bare, ← List.prefix_iff_eq_take.mp prefixed]
          exact begins
        obtain ⟨finds, ranges, found⟩ := one
        refine ⟨finds, ?_, .skip [first] tail found⟩
        rw [isAllowedHttpUrl_bare opens inside, Bool.and_false, if_neg Bool.false_ne_true,
          List.nil_append, if_pos bare]
        exact ranges
      · obtain ⟨finds, ranges, found⟩ := behind
        rw [if_neg bare]
        have taken := drop_pred_length prefixed full
        by_cases allowed : (!(trimHttpUrlMatch raw).isEmpty &&
            isAllowedHttpUrl (trimHttpUrlMatch raw)) = true
        · rw [if_pos allowed, ranges, List.singleton_append]
          rw [Bool.and_eq_true, Bool.not_eq_true', List.isEmpty_eq_false_iff] at allowed
          rw [taken]
          exact ⟨_ :: finds, rfl,
            found.front raw _ begins allowed.1 fun _ _ => allowed.2⟩
        · rw [if_neg allowed, List.nil_append, ranges, taken]
          exact ⟨finds, rfl, .skip raw _ found⟩

/-! ## Channel names -/

/-- A channel name is the trimmed front of a token: what follows the first character of the token is
nothing that stops a name, and the text ends behind it or goes on with something that does. -/
structure IsName (name back : List Char) (first : Char) (tail off rest : List Char) : Prop where
  trimmed : name = trimChannelName (first :: tail)
  token : first :: tail = name ++ off
  back : back = off ++ rest
  goesOn : ∀ char ∈ tail, stopsChannelName char = false
  stops : ∀ char ∈ rest.head?, stopsChannelName char = true

/-- What follows a token is nothing, or something that stops a name. -/
theorem stops_dropWhile (tail : List Char) :
    ∀ char ∈ (tail.dropWhile fun char => !stopsChannelName char).head?,
      stopsChannelName char = true := by
  intro char first
  have stops := List.head?_dropWhile_not (fun char => !stopsChannelName char) tail
  rw [Option.mem_def.mp first] at stops
  rw [← Bool.not_eq_false']
  exact stops

/-- What is left of a text behind a token. -/
theorem drop_token (first : Char) (tail : List Char) :
    tail.drop ((first :: tail.takeWhile fun char => !stopsChannelName char).length - 1) =
      tail.dropWhile fun char => !stopsChannelName char := by
  have cut : (tail.takeWhile (fun char => !stopsChannelName char) ++
      tail.dropWhile (fun char => !stopsChannelName char)).drop
        (tail.takeWhile fun char => !stopsChannelName char).length =
      tail.dropWhile fun char => !stopsChannelName char := List.drop_left
  rw [List.takeWhile_append_dropWhile] at cut
  rw [List.length_cons, Nat.add_sub_cancel]
  exact cut

/-- The scan for channel names finds trimmed tokens. -/
theorem channelNameRangesFrom_finds (features : ChannelFeatures) (previous : Option Char)
    (start : Nat) (rest : List Char) :
    ∃ finds, channelNameRangesFrom features previous start rest =
        finds.map (fun find => ⟨find.1, String.ofList find.2⟩) ∧
      Finds (fun name back => ∃ first tail off rest, IsName name back first tail off rest)
        start rest finds := by
  induction previous, start, rest using channelNameRangesFrom.induct features with
  | case1 previous start =>
      exact ⟨[], by rw [channelNameRangesFrom]; rfl, .nil start []⟩
  | case2 previous start first tail boundary passes inductionHypothesis =>
      obtain ⟨finds, spans, found⟩ := inductionHypothesis
      refine ⟨finds, ?_, .skip [first] tail found⟩
      rw [channelNameRangesFrom, if_pos passes]
      exact spans
  | case3 previous start first tail boundary opens token inductionHypothesis =>
      obtain ⟨finds, spans, found⟩ := inductionHypothesis
      have begins : trimChannelName token <+: token := trimEnd_prefix _ token
      have taken : first :: tail = token ++ tail.dropWhile fun char => !stopsChannelName char := by
        rw [List.cons_append, List.takeWhile_append_dropWhile]
      rw [drop_token] at spans found
      rw [channelNameRangesFrom, if_neg opens]
      dsimp only
      rw [drop_token, spans, taken]
      split
      · rename_i named
        rw [Bool.and_eq_true, decide_eq_true_eq] at named
        refine ⟨_ :: finds, rfl, found.front token _ begins ?_ ?_⟩
        · exact List.ne_nil_of_length_pos (Nat.lt_of_lt_of_le Nat.zero_lt_two named.2)
        · intro off whole
          refine ⟨first, _, off, _, rfl, whole, rfl, ?_, stops_dropWhile tail⟩
          intro char listed
          have goesOn : (!stopsChannelName char) = true :=
            @List.mem_takeWhile_imp _ (fun char => !stopsChannelName char) _ _ listed
          rw [Bool.not_eq_true'] at goesOn
          exact goesOn
      · exact ⟨finds, rfl, .skip token _ found⟩

/-! ## Meetings -/

/-- Two ranges of which one ends before the other begins. -/
def Apart (left right : Span) : Prop := left.stop ≤ right.start ∨ right.stop ≤ left.start

/-- A channel name runs into a URL: it begins in front of the URL and ends inside of it, and what
they share is the URL's scheme. -/
structure RunsInto (text : List Char) (name url : Span) : Prop where
  before : name.start < url.start
  inside : name.stop < url.stop
  shared : IsHttpScheme ((⟨url.start, name.stop⟩ : Span).text text)

/-- A character whose small form is ASCII is ASCII. -/
theorem ascii_of_toLower {char : Char} (small : char.toLower.toNat < 128) : char.toNat < 128 := by
  delta Char.toLower at small
  split at small
  · rename_i upper
    have last : char.val ≤ 'Z'.val := upper.2
    exact lt_of_le_of_lt (UInt32.le_iff_toNat_le.mp last) (by decide)
  · exact small

/-- A letter of a scheme stops no channel name and is not trimmed. -/
theorem schemeLetter {char : Char} (letter : char.toLower ∈ ['h', 't', 'p', 's']) :
    stopsChannelName char = false ∧
      ['.', ',', ';', ':', '!', '?', '"', '\''].contains char = false ∧ openerOf char = none := by
  have small : char.toNat < 128 := by
    apply ascii_of_toLower
    have all : ['h', 't', 'p', 's'].all (fun letter => decide (letter.toNat < 128)) = true := by
      decide
    exact of_decide_eq_true (List.all_eq_true.mp all _ letter)
  have every : ∀ code < 128, (Char.ofNat code).toLower ∈ ['h', 't', 'p', 's'] →
      stopsChannelName (Char.ofNat code) = false ∧
        ['.', ',', ';', ':', '!', '?', '"', '\''].contains (Char.ofNat code) = false ∧
          openerOf (Char.ofNat code) = none := by decide
  have here := every char.toNat small
  rw [Char.ofNat_toNat] at here
  exact here letter

/-- A scheme is made of its letters. -/
theorem IsHttpScheme.letters {scheme : List Char} (named : IsHttpScheme scheme) :
    ∀ char ∈ scheme, char.toLower ∈ ['h', 't', 'p', 's'] := by
  intro char listed
  have small : char.toLower ∈ scheme.map Char.toLower := List.mem_map_of_mem listed
  rcases named with named | named <;> rw [named] at small <;> simp at small ⊢ <;> grind

/-- The last letter of a scheme is kept at the end of a channel name. -/
theorem trimChannelName_scheme (front : List Char) {scheme : List Char}
    (named : IsHttpScheme scheme) : trimChannelName (front ++ scheme) = front ++ scheme := by
  rcases List.eq_nil_or_concat' scheme with rfl | ⟨before, last, rfl⟩
  · rcases named with named | named <;> cases named
  · obtain ⟨_, unmarked, unopened⟩ :=
      schemeLetter (named.letters last (List.mem_append_right _ List.mem_cons_self))
    rw [← List.append_assoc]
    apply trimEnd_of_kept
    intro upTo
    rw [unmarked, unopened]
    rfl

/-- A text up to the first character that stops a channel name is determined. -/
theorem stop_unique {left right leftRest rightRest : List Char}
    (same : left ++ leftRest = right ++ rightRest)
    (leftGoes : ∀ char ∈ left, stopsChannelName char = false)
    (rightGoes : ∀ char ∈ right, stopsChannelName char = false)
    (leftStops : ∀ char ∈ leftRest.head?, stopsChannelName char = true)
    (rightStops : ∀ char ∈ rightRest.head?, stopsChannelName char = true) : left = right := by
  induction left generalizing right with
  | nil =>
      cases right with
      | nil => rfl
      | cons char right =>
          have stops := leftStops char (by rw [List.nil_append] at same; rw [same]; rfl)
          rw [rightGoes char List.mem_cons_self] at stops
          cases stops
  | cons char left inductionHypothesis =>
      cases right with
      | nil =>
          have stops := rightStops char (by rw [List.nil_append] at same; rw [← same]; rfl)
          rw [leftGoes char List.mem_cons_self] at stops
          cases stops
      | cons other right =>
          rw [List.cons_append, List.cons_append, List.cons.injEq] at same
          obtain ⟨rfl, same⟩ := same
          rw [inductionHypothesis same (fun char listed => leftGoes char (List.mem_cons_of_mem _ listed))
            fun char listed => rightGoes char (List.mem_cons_of_mem _ listed)]

/-- A name in which a URL starts ends with the scheme of the URL. -/
theorem runsInto_of_starts {text front url behind front' name back : List Char}
    (urlShape : text = front ++ (url ++ behind)) (allowed : isAllowedHttpUrl url = true)
    (nameShape : text = front' ++ (name ++ back))
    (isName : ∃ first tail off rest, IsName name back first tail off rest)
    (before : byteSize front' < byteSize front)
    (inside : byteSize front < byteSize front' + byteSize name) :
    RunsInto text (Span.of front' name) (Span.of front url) := by
  obtain ⟨first, tail, off, rest, isName⟩ := isName
  obtain ⟨scheme, more, rfl, named, full⟩ := isAllowedHttpUrl_cases allowed
  -- The text in the token in front of the URL.
  obtain ⟨ahead, rfl, shape⟩ :=
    exists_between (nameShape.symm.trans urlShape) before.le
  have started : ahead ≠ [] := by
    rintro rfl
    simp at before
  have token : (first :: tail) ++ rest = ahead ++ ((scheme ++ ':' :: '/' :: '/' :: more) ++ behind) := by
    rw [isName.token, List.append_assoc, ← isName.back]
    exact shape
  have fits : byteSize ahead ≤ byteSize (first :: tail) := by
    rw [isName.token, byteSize_append]
    rw [byteSize_append] at inside
    omega
  obtain ⟨between, cut, reads⟩ := exists_between token.symm fits
  -- The token ends at the first character that stops a name, the colon behind the scheme.
  have between_eq : between = scheme := by
    obtain ⟨char, ahead, rfl⟩ := List.exists_cons_of_ne_nil started
    rw [List.cons_append, List.cons.injEq] at cut
    rw [List.append_assoc] at reads
    refine stop_unique reads.symm ?_ (fun char listed => (schemeLetter (named.letters char listed)).1)
      isName.stops ?_
    · intro char listed
      exact isName.goesOn char (cut.2 ▸ List.mem_append_right _ listed)
    · intro char first
      cases first
      decide
  have whole : name = ahead ++ scheme := by
    rw [isName.trimmed, cut, between_eq, trimChannelName_scheme ahead named]
  subst whole
  have shared : (⟨byteSize (front' ++ ahead), byteSize front' + byteSize (ahead ++ scheme)⟩ : Span) =
      Span.of (front' ++ ahead) scheme := by
    rw [Span.of, byteSize_append, byteSize_append, Nat.add_assoc]
  refine ⟨before, ?_, ?_⟩
  · have positive := byteSize_pos (List.cons_ne_nil ':' ('/' :: '/' :: more))
    simp only [Span.of, byteSize_append]
    omega
  · rw [urlShape, List.append_assoc scheme]
    change IsHttpScheme (Span.text _ ⟨byteSize (front' ++ ahead), byteSize front' + byteSize (ahead ++ scheme)⟩)
    rw [shared, Span.text_of]
    exact named

/-! ## Hits -/

/-- A hit is about the text at its range, which is an allowed URL where it is one. -/
def TextHit.Reads : TextHit → List Char → Prop
  | .url address, chars => address.toList = chars ∧ isAllowedHttpUrl chars = true
  | .channel name, chars => name.toList = chars

/-- A range in a text, between characters and not empty. -/
structure IsRange (text : List Char) (range : Span) : Prop where
  nonempty : range.start < range.stop
  inBounds : range.stop ≤ byteSize text
  start : IsCharBoundary text range.start
  stop : IsCharBoundary text range.stop

/-- The range of a piece is one. -/
theorem isRange_of (front back : List Char) {piece : List Char} (full : piece ≠ []) :
    IsRange (front ++ (piece ++ back)) (Span.of front piece) where
  nonempty := by
    have positive := byteSize_pos full
    dsimp only [Span.of]
    omega
  inBounds := by
    dsimp only [Span.of]
    rw [byteSize_append, byteSize_append]
    omega
  start := ⟨front, piece ++ back, rfl, rfl⟩
  stop := ⟨front ++ piece, back, (List.append_assoc _ _ _).symm,
    (byteSize_append front piece).symm⟩

/-- The links of a line are those that the scan finds in its plain text. -/
theorem links_finds (text : String) :
    ∃ finds, (formatIrc text).links = finds.map Prod.fst ∧
      Finds (fun url _ => isAllowedHttpUrl url = true) 0 (formatIrc text).plain.toList finds :=
  httpLinkRangesFrom_finds 0 (plainIrcText text).toList

/-- The channel names in a text are those that the scan finds. -/
theorem channelNameRanges_finds (text : String) (features : ChannelFeatures) :
    ∃ finds, channelNameRanges text features =
        finds.map (fun find => ⟨find.1, String.ofList find.2⟩) ∧
      Finds (fun name back => ∃ first tail off rest, IsName name back first tail off rest)
        0 text.toList finds := by
  rw [channelNameRanges]
  split
  · exact ⟨[], rfl, .nil 0 _⟩
  · exact channelNameRangesFrom_finds features none 0 text.toList

/-- **Clickable ranges.** Every range that a click can reach is in the text, between characters and
not empty; the text at the range of a URL is an allowed one. Two of them meet only where a channel
name runs into a URL. -/
theorem textHits_ranges (text : String) (features : ChannelFeatures) :
    (∀ hit ∈ textHits (formatIrc text) features,
      IsRange (formatIrc text).plain.toList hit.1 ∧
        hit.2.Reads (hit.1.text (formatIrc text).plain.toList)) ∧
      (textHits (formatIrc text) features).Pairwise fun first second =>
        Apart first.1 second.1 ∨
          ∃ url name, first.2 = .url url ∧ second.2 = .channel name ∧
            RunsInto (formatIrc text).plain.toList second.1 first.1 := by
  obtain ⟨urls, links, urlsFound⟩ := links_finds text
  obtain ⟨names, spans, namesFound⟩ := channelNameRanges_finds (formatIrc text).plain features
  constructor
  · intro hit listed
    rcases List.mem_append.mp listed with url | channel
    · obtain ⟨range, linked, rfl⟩ := List.mem_map.mp url
      rw [links] at linked
      obtain ⟨find, found, rfl⟩ := List.mem_map.mp linked
      obtain ⟨front, back, shape, full, allowed, range⟩ := urlsFound.placed_of found
      dsimp only
      rw [range, TextHit.Reads, String.toList_ofList, shape, Span.text_of]
      exact ⟨isRange_of front back full, rfl, allowed⟩
    · obtain ⟨span, reached, rfl⟩ := List.mem_map.mp channel
      have spanned := (List.mem_filter.mp reached).1
      rw [spans] at spanned
      obtain ⟨find, found, rfl⟩ := List.mem_map.mp spanned
      obtain ⟨front, back, shape, full, _, range⟩ := namesFound.placed_of found
      dsimp only
      rw [range, TextHit.Reads, String.toList_ofList, shape, Span.text_of]
      exact ⟨isRange_of front back full, rfl⟩
  · refine List.pairwise_append.mpr ⟨?_, ?_, ?_⟩
    · rw [links, List.map_map, List.pairwise_map]
      exact urlsFound.apart.imp fun behind => .inl (.inl behind)
    · rw [channelHits, List.pairwise_map]
      apply List.Pairwise.filter
      rw [spans, List.pairwise_map]
      exact namesFound.apart.imp fun behind => .inl (.inl behind)
    · intro urlHit url nameHit name
      obtain ⟨urlRange, linked, rfl⟩ := List.mem_map.mp url
      obtain ⟨span, reached, rfl⟩ := List.mem_map.mp name
      obtain ⟨spanned, outside⟩ := List.mem_filter.mp reached
      have notInside : ¬ (urlRange.start ≤ span.range.start ∧ span.range.start < urlRange.stop) := by
        rintro ⟨after, before⟩
        have within : (formatIrc text).links.any (fun link =>
            link.start ≤ span.range.start && span.range.start < link.stop) = true :=
          List.any_eq_true.mpr ⟨urlRange, linked, by simp [after, before]⟩
        rw [within] at outside
        cases outside
      rw [links] at linked
      obtain ⟨urlFind, found, rfl⟩ := List.mem_map.mp linked
      obtain ⟨front, behind, shape, _, allowed, urlRange⟩ := urlsFound.placed_of found
      rw [spans] at spanned
      obtain ⟨nameFind, found, rfl⟩ := List.mem_map.mp spanned
      obtain ⟨front', back, nameShape, _, isName, nameRange⟩ := namesFound.placed_of found
      dsimp only at notInside ⊢
      rw [urlRange, nameRange] at notInside ⊢
      by_cases apart : Apart (Span.of front urlFind.2) (Span.of front' nameFind.2)
      · exact .inl apart
      · -- The name begins outside the URL and meets it, so the URL starts in the name.
        refine .inr ⟨_, _, rfl, rfl, runsInto_of_starts shape allowed nameShape isName ?_ ?_⟩
        all_goals simp only [Apart, Span.of, not_or, not_le] at apart notInside
        all_goals omega

/-- A channel name and the URL that starts inside of it can both be clicked. -/
theorem textHits_meet :
    ¬ ∀ (text : String) (features : ChannelFeatures),
      (textHits (formatIrc text) features).Pairwise fun first second =>
        Apart first.1 second.1 := by
  intro apart
  have hits : textHits (formatIrc "#xhttp://a.b") {} =
      [(⟨2, 12⟩, .url "http://a.b"), (⟨0, 6⟩, .channel "#xhttp")] := by decide +kernel
  have pair := apart "#xhttp://a.b" {}
  rw [hits, List.pairwise_pair] at pair
  simp [Apart] at pair

end Omairc.Model

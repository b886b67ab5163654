import Omairc.Irc.PlainText
import Omairc.Text.Tiling

/-!
# Styled runs

One walk over a message finds its styled runs. Every control code closes the run before it
and changes the style, and every other character lengthens the plain text. The walk and the
plain text skip the same characters, so the runs tile the plain text, between characters.
-/

namespace Omairc.Irc

open Omairc.Text

/-- A color of a text. -/
inductive IrcColor
  | palette (index : Nat)
  | rgb (red green blue : Nat)

/-- Every attribute a control code can set. -/
structure IrcStyle where
  bold : Bool := false
  italic : Bool := false
  underline : Bool := false
  reverse : Bool := false
  monospace : Bool := false
  strikethrough : Bool := false
  fg : Option IrcColor := none
  bg : Option IrcColor := none

/-- A styled stretch of the plain text, as a range of bytes. -/
structure StyledRun where
  range : Span
  style : IrcStyle

/-- The value of an ASCII hex digit. -/
def hexDigitValue (digit : Char) : Nat :=
  if digit.isDigit then digit.toNat - 48
  else if 'a' ≤ digit then digit.toNat - 87
  else digit.toNat - 55

/-- The one or two decimal digits at an index, and the index behind them. -/
def readCode (chars : List Char) (index : Nat) : Option (Nat × Nat) :=
  match chars[index]?.filter Char.isDigit with
  | none => none
  | some first =>
      match chars[index + 1]?.filter Char.isDigit with
      | none => some (first.toNat - 48, index + 1)
      | some second => some ((first.toNat - 48) * 10 + (second.toNat - 48), index + 2)

/-- Six hex digits at `start` as a color. -/
def rgbAt (chars : List Char) (start : Nat) : Option IrcColor :=
  if !sixHexAt chars start then none
  else
    let value :=
      ((chars.drop start).take 6).foldl (fun value digit => value * 16 + hexDigitValue digit) 0
    some (.rgb (value / 65536 % 256) (value / 256 % 256) (value % 256))

/-- Apply the color code at `start`. A bare code resets both colors; an index outside the palette
keeps the color. -/
def applyMircColor (chars : List Char) (start : Nat) (style : IrcStyle) : IrcStyle :=
  match readCode chars (start + 1) with
  | none => { style with fg := none, bg := none }
  | some (fg, index) =>
      let fore := if fg ≤ 15 then { style with fg := some (.palette fg) } else style
      if chars[index]? = some ',' then
        match readCode chars (index + 1) with
        | none => fore
        | some (bg, _) => if bg ≤ 15 then { fore with bg := some (.palette bg) } else fore
      else fore

/-- Apply the hex color code at `start`. -/
def applyHexColor (chars : List Char) (start : Nat) (style : IrcStyle) : IrcStyle :=
  match rgbAt chars (start + 1) with
  | none => style
  | some fg =>
      let fore := { style with fg := some fg }
      if chars[start + 7]? = some ',' then
        match rgbAt chars (start + 8) with
        | none => fore
        | some bg => { fore with bg := some bg }
      else fore

/-- The style after a formatting code of one character. -/
def IrcStyle.switch (style : IrcStyle) (code : Char) : Option IrcStyle :=
  if code = Irc.bold then some { style with bold := !style.bold }
  else if code = Irc.italic then some { style with italic := !style.italic }
  else if code = Irc.underline then some { style with underline := !style.underline }
  else if code = Irc.reverse then some { style with reverse := !style.reverse }
  else if code = Irc.monospace then some { style with monospace := !style.monospace }
  else if code = Irc.strikethrough then some { style with strikethrough := !style.strikethrough }
  else if code = reset then some {}
  else none

/-- Where a walk stands: the closed runs, the style, the length of the plain text so far, and
where the open run begins. -/
structure Walk where
  runs : List StyledRun := []
  style : IrcStyle := {}
  plainLen : Nat := 0
  runStart : Nat := 0

/-- End the open run with the style it was written in. -/
def Walk.closeRun (walk : Walk) : Walk :=
  { walk with
    runs :=
      if walk.runStart < walk.plainLen then
        walk.runs ++ [⟨⟨walk.runStart, walk.plainLen⟩, walk.style⟩]
      else walk.runs
    runStart := walk.plainLen }

/-- Walk on from an index to the end. -/
def styledRunsFrom (chars : List Char) (index : Nat) (walk : Walk) : Walk :=
  if inside : index < chars.length then
    if chars[index] = color then
      styledRunsFrom chars (consumeMircColor chars index + 1)
        { walk.closeRun with style := applyMircColor chars index walk.style }
    else if chars[index] = hexColor then
      styledRunsFrom chars (consumeHexColor chars index + 1)
        { walk.closeRun with
          style :=
            if consumeHexColor chars index > index then applyHexColor chars index walk.style
            else walk.style }
    else
      match walk.style.switch chars[index] with
      | some style => styledRunsFrom chars (index + 1) { walk.closeRun with style }
      | none =>
          styledRunsFrom chars (index + 1)
            { walk with plainLen := walk.plainLen + chars[index].utf8Size }
  else walk.closeRun
termination_by chars.length - index
decreasing_by
  · have := le_consumeMircColor chars index
    omega
  · have := le_consumeHexColor chars index
    omega
  · omega
  · omega

/-- Every styled run of a text, in order. -/
def styledRuns (text : String) : List StyledRun := (styledRunsFrom text.toList 0 {}).runs

/-- A code switches the style exactly when the plain text leaves it out. -/
theorem IrcStyle.switch_isSome (style : IrcStyle) (code : Char) :
    (style.switch code).isSome = isFormatCode code := by
  unfold switch isFormatCode
  simp only [apply_ite Option.isSome, Option.isSome_some, Option.isSome_none]
  rw [Bool.eq_iff_iff]
  simp only [Bool.or_eq_true, beq_iff_eq, Bool.ite_eq_true_distrib, if_true_left]
  tauto

/-- A walk that has written some plain text: its closed runs tile that text as far as the open
run begins, and begin and end between characters. -/
structure Walk.Writes (walk : Walk) (plain : List Char) : Prop where
  plainLen : walk.plainLen = (encode plain).length
  tiles : Tiles 0 (walk.runs.map StyledRun.range) walk.runStart
  runStart : walk.runStart ≤ walk.plainLen
  opened : IsCharBoundary plain walk.runStart
  bounds : ∀ run ∈ walk.runs,
    IsCharBoundary plain run.range.start ∧ IsCharBoundary plain run.range.stop

namespace Walk.Writes

variable {walk : Walk} {plain : List Char}

/-- The walk begins with no plain text. -/
theorem start : Writes {} [] where
  plainLen := rfl
  tiles := .nil 0
  runStart := le_rfl
  opened := .end []
  bounds _ present := absurd present List.not_mem_nil

/-- The style has no say in where the runs stand. -/
theorem restyle (writes : walk.Writes plain) (style : IrcStyle) :
    Writes { walk with style } plain :=
  ⟨writes.plainLen, writes.tiles, writes.runStart, writes.opened, writes.bounds⟩

/-- Closing the open run reaches the end of the plain text. -/
theorem closeRun (writes : walk.Writes plain) : walk.closeRun.Writes plain where
  plainLen := writes.plainLen
  tiles := by
    unfold Walk.closeRun
    dsimp only
    split
    · rename_i nonempty
      rw [List.map_append]
      exact writes.tiles.concat nonempty
    · rename_i empty
      rw [show walk.plainLen = walk.runStart from
        le_antisymm (Nat.le_of_not_lt empty) writes.runStart]
      exact writes.tiles
  runStart := le_rfl
  opened := (congrArg (IsCharBoundary plain) writes.plainLen).mpr (.end plain)
  bounds := by
    intro run present
    unfold Walk.closeRun at present
    dsimp only at present
    split at present
    · rcases List.mem_append.mp present with closed | last
      · exact writes.bounds run closed
      · rw [List.mem_singleton.mp last]
        exact ⟨writes.opened,
          (congrArg (IsCharBoundary plain) writes.plainLen).mpr (.end plain)⟩
    · exact writes.bounds run present

/-- One more character. -/
theorem write (writes : walk.Writes plain) (code : Char) :
    Writes { walk with plainLen := walk.plainLen + code.utf8Size } (plain ++ [code]) where
  plainLen := by
    show walk.plainLen + code.utf8Size = _
    rw [encode_append, List.length_append, writes.plainLen, encode_cons, encode_nil,
      List.append_nil, String.length_utf8EncodeChar]
  tiles := writes.tiles
  runStart := writes.runStart.trans (Nat.le_add_right _ _)
  opened := writes.opened.append [code]
  bounds run present :=
    ⟨(writes.bounds run present).1.append [code], (writes.bounds run present).2.append [code]⟩

end Walk.Writes

/-- The walk writes what stripping keeps. -/
theorem styledRunsFrom_writes (chars : List Char) (index : Nat) {walk : Walk} {plain : List Char}
    (writes : walk.Writes plain) :
    (styledRunsFrom chars index walk).Writes
        (plain ++ (stripIrcColorsFrom chars index).filter fun code => !isFormatCode code) ∧
      (styledRunsFrom chars index walk).runStart = (styledRunsFrom chars index walk).plainLen := by
  fun_induction styledRunsFrom chars index walk generalizing plain with
  | case1 index walk inside isColor inductionHypothesis =>
      rw [stripIrcColorsFrom, dif_pos inside, if_pos isColor]
      exact inductionHypothesis (writes.closeRun.restyle _)
  | case2 index walk inside notColor isHexColor inductionHypothesis =>
      rw [stripIrcColorsFrom, dif_pos inside, if_neg notColor, if_pos isHexColor]
      exact inductionHypothesis (writes.closeRun.restyle _)
  | case3 index walk inside notColor notHexColor style switched inductionHypothesis =>
      have format : isFormatCode chars[index] = true := by
        rw [← walk.style.switch_isSome, switched]
        rfl
      rw [stripIrcColorsFrom, dif_pos inside, if_neg notColor, if_neg notHexColor,
        List.filter_cons_of_neg (by simp [format])]
      exact inductionHypothesis (writes.closeRun.restyle style)
  | case4 index walk inside notColor notHexColor kept inductionHypothesis =>
      have shown : isFormatCode chars[index] = false := by
        rw [← walk.style.switch_isSome, kept]
        rfl
      rw [stripIrcColorsFrom, dif_pos inside, if_neg notColor, if_neg notHexColor,
        List.filter_cons_of_pos (by simp [shown]), List.append_cons]
      exact inductionHypothesis (writes.write chars[index])
  | case5 index walk outside =>
      rw [stripIrcColorsFrom, dif_neg outside, List.filter_nil, List.append_nil]
      exact ⟨writes.closeRun, rfl⟩

/-- The styled runs tile the plain text: nonempty ranges, one beginning where the other ends, from
its first byte to its last, each between two characters. Their slices are the plain text. -/
theorem styledRuns_tile_plainIrcText (text : String) :
    Tiles 0 ((styledRuns text).map StyledRun.range) (byteLength (plainIrcText text)) ∧
      (∀ run ∈ styledRuns text,
        IsCharBoundary (plainIrcText text).toList run.range.start ∧
          IsCharBoundary (plainIrcText text).toList run.range.stop) ∧
      ((styledRuns text).map StyledRun.range).flatMap (Span.slice (utf8 (plainIrcText text))) =
        utf8 (plainIrcText text) := by
  obtain ⟨writes, closed⟩ := styledRunsFrom_writes text.toList 0 Walk.Writes.start
  have plain : (plainIrcText text).toList =
      [] ++ (stripIrcColorsFrom text.toList 0).filter fun code => !isFormatCode code := by
    rw [plainIrcText, stripIrcColors, String.toList_ofList, String.toList_ofList, List.nil_append]
  rw [← plain] at writes
  have tiles : Tiles 0 ((styledRuns text).map StyledRun.range)
      (byteLength (plainIrcText text)) := by
    rw [byteLength, utf8_eq_encode, ← writes.plainLen, ← closed]
    exact writes.tiles
  refine ⟨tiles, writes.bounds, ?_⟩
  rw [tiles.flatMap_slice]
  simp [Span.slice, byteLength]

end Omairc.Irc

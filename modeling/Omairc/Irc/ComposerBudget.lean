import Omairc.Irc.BodySplit
import Omairc.Text.Strings

/-!
# The budget of a composer

How many bytes a draft may hold so that one send stays inside one frame. The budget and
the body splitter compute the room beside the wrapper on their own, and they agree.
-/

namespace Omairc.Irc

open Omairc.Text

/-- The CTCP ACTION wrapper around a body. -/
def actionWrapperBytes : Nat := 9

/-- What the composer holds in front of the body of an action. -/
def mePrefixBytes : Nat := 4

/-- What stands in front of the body of a message. -/
def privmsgLead (target : String) : Bytes := utf8 ("PRIVMSG " ++ target ++ " :")

/-- What stands in front of the body of an action. -/
def actionLead (target : String) : Bytes := utf8 ("PRIVMSG " ++ target ++ " :\x01ACTION ")

/-- What stands behind the body of an action. -/
def actionSuffix : Bytes := utf8 "\x01"

/-- The bytes of a draft that one frame carries. The empty target is Status, whose draft
is the whole line. -/
def composerByteBudget (target : String) (features : IrcServerFeatures) : Nat :=
  let frame := features.lineLength
  if frame < crlfBytes then 0
  else if target = "" then frame - crlfBytes
  else
    let leadLength := byteLength "PRIVMSG " + byteLength target + byteLength " :"
    if leadLength + 3 > frame then 0 else frame - leadLength - crlfBytes

/-- The bytes of a `/me` draft that one frame carries. -/
def actionComposerByteBudget (target : String) (features : IrcServerFeatures) : Nat :=
  let privmsg := composerByteBudget target features
  if privmsg < actionWrapperBytes then 0 else privmsg - actionWrapperBytes + mePrefixBytes

/-- Whether a draft starts, after spaces and tabs, with `/me` and a space. -/
def draftIsAction (draft : String) : Bool :=
  let trimmed := (utf8 draft).dropWhile fun byte => byte == 32 || byte == 9
  trimmed.head? == some 47 &&
    match position 32 trimmed with
    | none => false
    | some space =>
        let token := trimmed.take space
        token.length == 3 && (token[1]? == some 109 || token[1]? == some 77) &&
          (token[2]? == some 101 || token[2]? == some 69)

/-- The bytes one draft may hold. -/
def composerByteBudgetForDraft (target draft : String) (features : IrcServerFeatures) : Nat :=
  if target = "" || !draftIsAction draft then composerByteBudget target features
  else actionComposerByteBudget target features

/-- One chunk carries a whole body. -/
def SentWhole (lead body suffix : Bytes) (features : IrcServerFeatures) : Prop :=
  (splitTrailingParam lead body suffix features).length = 1

/-- A lone chunk is the body itself. -/
theorem Rejoins.alone {chunk body : Bytes} (rejoins : Rejoins [chunk] body) : chunk = body := by
  cases rejoins with
  | last => rfl
  | soft rejoins => cases rejoins
  | hard rejoins => cases rejoins

/-- A clean body is sent whole exactly when it stands in one frame with its wrapper. -/
theorem sentWhole_iff {lead suffix : Bytes} {body : String} {features : IrcServerFeatures}
    (some : utf8 body ≠ []) (cleanLead : containsForbidden lead = false)
    (cleanBody : containsForbidden (utf8 body) = false)
    (cleanSuffix : containsForbidden suffix = false) :
    SentWhole lead (utf8 body) suffix features ↔
      lead.length + byteLength body + suffix.length + crlfBytes ≤ features.lineLength := by
  have filled : 1 ≤ byteLength body := List.length_pos_iff.mpr some
  unfold SentWhole
  by_cases room : lead.length + suffix.length + 3 ≤ features.lineLength
  · have splits : Splits lead (utf8 body) suffix features :=
      ⟨some, cleanLead, cleanBody, cleanSuffix, room⟩
    have fits : byteLength body ≤ maxBody lead suffix features ↔
        lead.length + byteLength body + suffix.length + crlfBytes ≤ features.lineLength := by
      unfold maxBody crlfBytes
      omega
    rw [splitTrailingParam_of_splits splits, ← fits]
    constructor
    · intro one
      cases split : splitChunks (maxBody lead suffix features) (utf8 body) with
      | none =>
          rw [split] at one
          cases one
      | some chunks =>
          rw [split, Option.getD_some] at one
          obtain ⟨chunk, rfl⟩ := List.length_eq_one_iff.mp one
          obtain ⟨rejoins, -⟩ := splitChunks_rejoins (utf8_eq_encode body).symm some split
          obtain ⟨-, within, -⟩ := mem_splitChunks split chunk (List.mem_singleton_self chunk)
          rwa [rejoins.alone] at within
    · intro within
      have fits : (utf8 body).length ≤ maxBody lead suffix features := within
      unfold splitChunks
      rw [if_neg some, if_pos fits]
      rfl
  · have refused : ¬Splits lead (utf8 body) suffix features := fun splits =>
      room splits.2.2.2.2
    rw [splitTrailingParam_of_not_splits refused]
    unfold crlfBytes
    simp only [List.length_nil, Nat.zero_ne_one, false_iff]
    omega

/-- A `/me` draft is an action, whatever its body. -/
theorem draftIsAction_me (body : String) : draftIsAction ("/me " ++ body) = true := by
  have bytes : utf8 ("/me " ++ body) = 47 :: 109 :: 101 :: 32 :: utf8 body := by
    rw [utf8_append]
    rfl
  unfold draftIsAction
  rw [bytes]
  rfl

section Agreement

variable (target : String) (features : IrcServerFeatures)

/-- A message is within the budget exactly when it is sent whole. -/
def MessageAgrees : Prop :=
  ∀ body : String, body ≠ "" → containsForbidden (utf8 body) = false →
    (byteLength body ≤ composerByteBudget target features ↔
      SentWhole (privmsgLead target) (utf8 body) [] features)

/-- The draft of an action is within its budget exactly when the action is sent whole. -/
def ActionAgrees : Prop :=
  ∀ body : String, body ≠ "" → containsForbidden (utf8 body) = false →
    (byteLength ("/me " ++ body) ≤ composerByteBudgetForDraft target ("/me " ++ body) features ↔
      SentWhole (actionLead target) (utf8 body) actionSuffix features)

/-- A line on Status is within the budget exactly when it stands in one frame. -/
def StatusAgrees : Prop :=
  ∀ body : String, body ≠ "" → containsForbidden (utf8 body) = false →
    (byteLength body ≤ composerByteBudget "" features ↔ SentWhole [] (utf8 body) [] features)

end Agreement

/-- A text that is not empty has bytes. -/
theorem utf8_ne_nil {text : String} (some : text ≠ "") : utf8 text ≠ [] := by
  rw [← utf8_empty]
  exact fun same => some (utf8_injective same)

/-- The budget of a conversation, by the frame it fills. -/
theorem le_composerByteBudget_iff {target : String} {features : IrcServerFeatures} {size : Nat}
    (named : target ≠ "") (some : 1 ≤ size) :
    size ≤ composerByteBudget target features ↔
      (privmsgLead target).length + size + crlfBytes ≤ features.lineLength := by
  have lead : (privmsgLead target).length = 10 + byteLength target := by
    unfold privmsgLead byteLength
    rw [utf8_append, utf8_append, List.length_append, List.length_append]
    change 8 + _ + 2 = _
    omega
  have fixed : byteLength "PRIVMSG " + byteLength target + byteLength " :" =
      10 + byteLength target := by
    change 8 + _ + 2 = _
    omega
  unfold composerByteBudget
  simp only [if_neg named, lead, fixed, crlfBytes]
  split
  · omega
  · split
    · omega
    · omega

/-- For every conversation with a clean target the budget and the splitter agree, on
messages and on actions, and on Status they agree on the raw line. -/
theorem composer_budget_agrees (target : String) (features : IrcServerFeatures)
    (named : target ≠ "") (clean : containsForbidden (utf8 target) = false) :
    MessageAgrees target features ∧ ActionAgrees target features ∧ StatusAgrees features := by
  have cleanMessage : containsForbidden (privmsgLead target) = false := by
    unfold privmsgLead
    rw [utf8_append, utf8_append, containsForbidden_append, containsForbidden_append, clean]
    decide
  have cleanAction : containsForbidden (actionLead target) = false := by
    unfold actionLead
    rw [utf8_append, utf8_append, containsForbidden_append, containsForbidden_append, clean]
    decide
  have wrapper : (actionLead target).length + actionSuffix.length =
      (privmsgLead target).length + actionWrapperBytes := by
    unfold actionLead privmsgLead
    rw [utf8_append, utf8_append, utf8_append, utf8_append]
    simp only [List.length_append]
    change 8 + _ + 10 + 1 = 8 + _ + 2 + 9
    omega
  refine ⟨?_, ?_, ?_⟩
  · intro body some cleanBody
    have filled : 1 ≤ byteLength body := List.length_pos_iff.mpr (utf8_ne_nil some)
    rw [sentWhole_iff (utf8_ne_nil some) cleanMessage cleanBody containsForbidden_nil,
      le_composerByteBudget_iff named filled]
    exact Iff.rfl
  · intro body some cleanBody
    have filled : 1 ≤ byteLength body := List.length_pos_iff.mpr (utf8_ne_nil some)
    have draft : byteLength ("/me " ++ body) = mePrefixBytes + byteLength body := by
      unfold byteLength
      rw [utf8_append, List.length_append]
      rfl
    have budget : composerByteBudgetForDraft target ("/me " ++ body) features =
        actionComposerByteBudget target features := by
      unfold composerByteBudgetForDraft
      rw [draftIsAction_me]
      simp [named]
    rw [sentWhole_iff (utf8_ne_nil some) cleanAction cleanBody (by decide), draft, budget]
    have room : byteLength body + actionWrapperBytes ≤ composerByteBudget target features ↔
        (privmsgLead target).length + (byteLength body + actionWrapperBytes) + crlfBytes ≤
          features.lineLength := le_composerByteBudget_iff named (by omega)
    have fits : mePrefixBytes + byteLength body ≤ actionComposerByteBudget target features ↔
        byteLength body + actionWrapperBytes ≤ composerByteBudget target features := by
      unfold actionComposerByteBudget mePrefixBytes actionWrapperBytes
      dsimp only
      split
      · omega
      · omega
    rw [fits, room]
    omega
  · intro body some cleanBody
    rw [sentWhole_iff (utf8_ne_nil some) containsForbidden_nil cleanBody containsForbidden_nil]
    have filled : 1 ≤ byteLength body := List.length_pos_iff.mpr (utf8_ne_nil some)
    unfold composerByteBudget
    simp only [List.length_nil, crlfBytes, if_true]
    split
    · omega
    · omega

/-- The budgets of a channel agree with the splitter. -/
theorem composer_budget_agrees_channel :
    MessageAgrees "#omarchy" {} ∧ ActionAgrees "#omarchy" {} ∧ StatusAgrees {} :=
  composer_budget_agrees "#omarchy" {} (by decide) (by decide)

/-- The budget of Status is that of a raw line, so a message to the empty target is not
sent whole within it, and no message to a target with a NUL is sent at all. -/
theorem budget_of_odd_targets :
    ¬MessageAgrees "" { lineLength := 20 } ∧ ¬MessageAgrees "a\x00" { lineLength := 20 } := by
  constructor
  · intro agrees
    have whole := (agrees "twelve bytes" (by decide) (by decide)).mp (by decide)
    rw [sentWhole_iff (utf8_ne_nil (by decide)) (by decide) (by decide) (by decide)] at whole
    revert whole
    decide
  · intro agrees
    have whole := (agrees "hi" (by decide) (by decide)).mp (by decide)
    revert whole
    unfold SentWhole
    rw [splitTrailingParam_of_not_splits]
    · decide
    · rintro ⟨-, clean, -⟩
      revert clean
      decide


end Omairc.Irc

import Omairc.Text.Strings

/-!
# Numbers as text

A number reads back from its decimal text.
-/

namespace Omairc.Text

/-- The digits of a number are read as the number. -/
theorem parseDigits_toDigits (value : Nat) : parseDigits (Nat.toDigits 10 value) = some value := by
  have digits : (Nat.toDigits 10 value).all Char.isDigit = true := by
    rw [List.all_eq_true]
    intro digit listed
    exact Nat.isDigit_of_mem_toDigits (by omega) (by omega) listed
  have some_ : (Nat.toDigits 10 value).isEmpty = false :=
    List.isEmpty_eq_false_iff.mpr Nat.toDigits_ne_nil
  rw [parseDigits, digits, some_]
  have read : digitsValue (Nat.toDigits 10 value) = value := Nat.ofDigitChars_ten_toDigits
  rw [read]
  rfl

/-- The first digit of a number is not a sign. -/
theorem toDigits_unsigned (value : Nat) : ∃ digit rest,
    Nat.toDigits 10 value = digit :: rest ∧ digit ≠ '-' ∧ digit ≠ '+' := by
  cases split : Nat.toDigits 10 value with
  | nil => exact absurd split Nat.toDigits_ne_nil
  | cons digit rest =>
      have isDigit : digit.isDigit = true :=
        Nat.isDigit_of_mem_toDigits (by omega) (by omega) (split ▸ List.mem_cons_self ..)
      refine ⟨digit, rest, rfl, ?_, ?_⟩
      · rintro rfl
        exact absurd isDigit (by decide)
      · rintro rfl
        exact absurd isDigit (by decide)

theorem isDigit_visible {character : Char} (digit : character.isDigit = true) :
    isWhitespace character = false := by
  simp only [Char.isDigit, Bool.and_eq_true, decide_eq_true_eq] at digit
  have low : 48 ≤ character.toNat := digit.1
  have high : character.toNat ≤ 57 := digit.2
  unfold isWhitespace
  simp only [Bool.or_eq_false_iff, Bool.and_eq_false_iff, decide_eq_false_iff_not, beq_eq_false_iff_ne]
  omega

/-- A text without white space is not trimmed. -/
theorem trim_visible {text : String}
    (visible : ∀ character ∈ text.toList, isWhitespace character = false) : trim text = text := by
  have front : text.toList.dropWhile isWhitespace = text.toList := by
    cases split : text.toList with
    | nil => rfl
    | cons first rest =>
        rw [List.dropWhile_cons_of_neg]
        rw [visible first (split ▸ List.mem_cons_self ..)]
        exact Bool.false_ne_true
  have back : text.toList.rdropWhile isWhitespace = text.toList := by
    rw [List.rdropWhile_eq_self_iff]
    intro some_
    rw [visible _ (List.getLast_mem some_)]
    exact Bool.false_ne_true
  rw [trim, front, back, String.ofList_toList]

/-- The decimal text of an unsigned number below a bound is read as the number. -/
theorem parseUnsigned_repr {bound value : Nat} (small : value < bound) :
    parseUnsigned bound (trim (toString value)) = some value := by
  have text : (toString value).toList = Nat.toDigits 10 value := Nat.toList_repr
  have visible : trim (toString value) = toString value := by
    apply trim_visible
    intro character listed
    rw [text] at listed
    exact isDigit_visible (Nat.isDigit_of_mem_toDigits (by omega) (by omega) listed)
  obtain ⟨digit, rest, digits, _, unsigned⟩ := toDigits_unsigned value
  have read := parseDigits_toDigits value
  rw [digits] at read
  rw [visible, parseUnsigned, text, digits]
  refine Option.filter_eq_some_iff.mpr ⟨?_, decide_eq_true small⟩
  split
  · rename_i same
    cases same
    exact absurd rfl unsigned
  · exact read

/-- The decimal text of a 64-bit number is read as the number. -/
theorem parseInt64_repr {value : Int} (low : -(2 ^ 63) ≤ value) (high : value < 2 ^ 63) :
    parseInt64 (trim (toString value)) = some value := by
  cases value with
  | ofNat value =>
      have text : (toString (Int.ofNat value)).toList = Nat.toDigits 10 value := Nat.toList_repr
      have visible : trim (toString (Int.ofNat value)) = toString (Int.ofNat value) := by
        apply trim_visible
        intro character listed
        rw [text] at listed
        exact isDigit_visible (Nat.isDigit_of_mem_toDigits (by omega) (by omega) listed)
      obtain ⟨digit, rest, digits, minus, plus⟩ := toDigits_unsigned value
      have read := parseDigits_toDigits value
      rw [digits] at read
      rw [visible, parseInt64, text, digits]
      refine Option.filter_eq_some_iff.mpr ⟨?_, decide_eq_true ⟨low, high⟩⟩
      split
      · rename_i same
        cases same
        exact absurd rfl minus
      · rename_i same
        cases same
        exact absurd rfl plus
      · rw [read]
        rfl
  | negSucc value =>
      have text : (toString (Int.negSucc value)).toList = '-' :: Nat.toDigits 10 (value + 1) := by
        show ("-" ++ (value + 1).repr).toList = _
        rw [String.toList_append, Nat.toList_repr]
        rfl
      have visible : trim (toString (Int.negSucc value)) = toString (Int.negSucc value) := by
        apply trim_visible
        intro character listed
        rw [text] at listed
        rcases List.mem_cons.mp listed with rfl | digit
        · decide
        · exact isDigit_visible (Nat.isDigit_of_mem_toDigits (by omega) (by omega) digit)
      rw [visible, parseInt64, text]
      refine Option.filter_eq_some_iff.mpr ⟨?_, decide_eq_true ⟨low, high⟩⟩
      simp only [parseDigits_toDigits]
      rfl

end Omairc.Text

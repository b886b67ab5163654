import Omairc.Session.Reference
import Omairc.Storage.StsPolicies
import Omairc.Text.Lossy

/-!
# Names of files for texts

The name of the file of a text: its safe bytes as they are and the others in hex, a first
byte in hex where the name would be one of a device, and the digest of the text where the
name would be too long. A name that looks like a digest is escaped, so that reading a name
back gives its text.
-/

namespace Omairc.Storage

open Omairc.Text

/-- Bytes that stand in a name as they are. A dot does unless it is the last byte. -/
def isSafeStorageByte (byte : UInt8) (isLastByte : Bool) : Bool :=
  isAsciiLowercase byte || isAsciiDigit byte ||
    [35, 38, 43, 45, 95, 123, 125, 126, 91, 93, 94].contains byte || (byte == 46 && !isLastByte)

/-- A byte in hex behind a percent sign. -/
def percentEncodeByte (byte : UInt8) : List Char := '%' :: hexByte byte

/-- The safe bytes as they are, the others in hex. -/
def encodeStorageBytes : Bytes → List Char
  | [] => []
  | byte :: rest =>
      (if isSafeStorageByte byte rest.isEmpty then [Char.ofNat byte.toNat]
        else percentEncodeByte byte) ++ encodeStorageBytes rest

/-- The first byte in hex in any case. -/
def encodeWithLeadingEscape : Bytes → List Char
  | [] => []
  | first :: rest => percentEncodeByte first ++ encodeStorageBytes rest

/-- The digest of a text that is too long. -/
def hashLongSegment [Platform] (bytes : Bytes) : List Char :=
  'h' :: (Platform.sha256 bytes).flatMap hexByte

/-- Spaces and dots. -/
def isSpaceOrDot (char : Char) : Bool := char == ' ' || char == '.'

/-- A name without the spaces and dots at its end. -/
def trimTrailingSpacesAndDots (text : List Char) : List Char := text.rdropWhile isSpaceOrDot

/-- The part of a name that decides whether it is one of a device. -/
def deviceBaseToken (fullName : List Char) : List Char :=
  (trimTrailingSpacesAndDots fullName).takeWhile (· ≠ '.')

/-- Whether a stem is the name of a device. -/
def deviceBaseMatches (stem : List Char) : Bool :=
  let lowered := (trimTrailingSpacesAndDots stem).map Char.toLower
  if lowered.isEmpty then false
  else if [['c', 'o', 'n'], ['p', 'r', 'n'], ['a', 'u', 'x'], ['n', 'u', 'l']].contains lowered then
    true
  else
    match lowered with
    | [first, second, third, suffix] =>
        ([first, second, third] == ['c', 'o', 'm'] || [first, second, third] == ['l', 'p', 't']) &&
          (suffix.isDigit || ['\u00b9', '\u00b2', '\u00b3'].contains suffix)
    | _ => false

/-- Whether a text with its extension names a device. -/
def isWin32DeviceName (text extension : String) : Bool :=
  deviceBaseMatches (deviceBaseToken (text ++ extension).toList)

/-- The digits of a digest in a name. -/
def isHashDigit (character : UInt8) : Bool :=
  isAsciiDigit character || (97 ≤ character && character ≤ 102)

/-- Whether a name is the one of a digest. -/
def storageSegmentIsHash (segment : String) : Bool :=
  match utf8 segment with
  | [] => false
  | first :: rest =>
      rest.length == 64 && first == 104 && rest.all isHashDigit

/-- Texts that all share one name. -/
def isDotName (text : String) : Bool := text == "" || text == "." || text == ".."

/-- The name of the file of a text. -/
def storageSegment [Platform] (text : String) (extensionForDeviceCheck : Option String) : String :=
  let extension := extensionForDeviceCheck.getD ""
  if isDotName text then "_"
  else
    let bytes := utf8 text
    let segment := String.ofList <|
      if isWin32DeviceName text extension then encodeWithLeadingEscape bytes
      else encodeStorageBytes bytes
    if byteLength segment + byteLength extension > 255 then String.ofList (hashLongSegment bytes)
    else if storageSegmentIsHash segment then
      String.ofList (percentEncodeByte 104 ++ segment.toList.drop 1)
    else segment

/-- The value of a hex digit of either case. -/
def hexDigitValue (character : UInt8) : Option UInt8 :=
  if isAsciiDigit character then some (character - 48)
  else if 97 ≤ character && character ≤ 102 then some (character - 87)
  else if 65 ≤ character && character ≤ 70 then some (character - 55)
  else none

/-- The byte of two hex digits. -/
def hexByteValue (high low : UInt8) : Option UInt8 :=
  match hexDigitValue high, hexDigitValue low with
  | some high, some low => some (high <<< 4 ||| low)
  | _, _ => none

/-- Bytes with the escaped ones read back. -/
def decodeStorageBytes : Bytes → Bytes
  | byte :: high :: low :: rest =>
      match if byte = 37 then hexByteValue high low else none with
      | some value => value :: decodeStorageBytes rest
      | none => byte :: decodeStorageBytes (high :: low :: rest)
  | byte :: rest => byte :: decodeStorageBytes rest
  | [] => []

/-- Bytes as characters of the same number. -/
def latin1BytesToString (raw : Bytes) : String :=
  String.ofList (raw.map fun byte => Char.ofNat byte.toNat)

/-- The text of a name. The name of a digest is its own. -/
def decodeStorageSegment (segment : String) : String :=
  if storageSegmentIsHash segment then segment
  else
    let decodedBytes := decodeStorageBytes (utf8 segment)
    let decoded := fromUtf8Lossy decodedBytes
    if decoded = "" && !decodedBytes.isEmpty then latin1BytesToString decodedBytes else decoded

/-! ## Names of devices -/

/-- A text is what stays of it, and spaces and dots. -/
theorem exists_trimmed (text : List Char) : ∃ back,
    text = trimTrailingSpacesAndDots text ++ back ∧ ∀ char ∈ back, isSpaceOrDot char = true :=
  ⟨text.rtakeWhile isSpaceOrDot, List.rdropWhile_append_rtakeWhile.symm,
    fun _ => List.mem_rtakeWhile_imp⟩

/-- A character that is neither a space nor a dot stays. -/
theorem mem_trimTrailingSpacesAndDots {text : List Char} {char : Char} (present : char ∈ text)
    (solid : isSpaceOrDot char = false) : char ∈ trimTrailingSpacesAndDots text := by
  obtain ⟨back, whole, blank⟩ := exists_trimmed text
  rw [whole] at present
  rcases List.mem_append.mp present with stays | dropped
  · exact stays
  · rw [blank char dropped] at solid
    cases solid

/-- Spaces and dots at the end have no say. -/
theorem trimTrailingSpacesAndDots_append (front : List Char) {back : List Char}
    (blank : ∀ char ∈ back, isSpaceOrDot char = true) :
    trimTrailingSpacesAndDots (front ++ back) = trimTrailingSpacesAndDots front := by
  unfold trimTrailingSpacesAndDots List.rdropWhile
  rw [List.reverse_append, List.dropWhile_append_of_pos]
  intro char present
  exact blank char (List.mem_reverse.mp present)

/-- What stands in front of the first dot decides about a device. -/
theorem deviceBaseMatches_deviceBaseToken (fullName : List Char) :
    deviceBaseMatches (deviceBaseToken fullName) =
      deviceBaseMatches (fullName.takeWhile (· ≠ '.')) := by
  have same : trimTrailingSpacesAndDots (deviceBaseToken fullName) =
      trimTrailingSpacesAndDots (fullName.takeWhile (· ≠ '.')) := by
    obtain ⟨back, whole, blank⟩ := exists_trimmed fullName
    unfold deviceBaseToken
    conv_rhs => rw [whole, List.takeWhile_append]
    split
    · rename_i dotless
      have bare := (List.takeWhile_prefix _).eq_of_length dotless
      rw [bare, trimTrailingSpacesAndDots_append]
      intro char present
      exact blank char ((List.takeWhile_prefix _).subset present)
    · rfl
  unfold deviceBaseMatches
  rw [same]

/-- No name of a device has one of these characters. -/
theorem deviceBaseMatches_of_mem {stem : List Char} {char : Char} (present : char ∈ stem)
    (foreign : char = '%' ∨ char = 'h' ∨ char = '_') : deviceBaseMatches stem = false := by
  have solid : isSpaceOrDot char = false := by
    rcases foreign with rfl | rfl | rfl
    all_goals rfl
  have lower : char.toLower = char := by
    rcases foreign with rfl | rfl | rfl
    all_goals rfl
  have listed : char ∈ (trimTrailingSpacesAndDots stem).map Char.toLower :=
    List.mem_map.mpr ⟨char, mem_trimTrailingSpacesAndDots present solid, lower⟩
  rw [Bool.eq_false_iff]
  intro device
  unfold deviceBaseMatches at device
  generalize (trimTrailingSpacesAndDots stem).map Char.toLower = lowered at device listed
  dsimp only at device
  split at device
  · cases device
  · split at device
    · rename_i named
      simp only [List.contains_cons, List.contains_nil, Bool.or_false, Bool.or_eq_true,
        beq_iff_eq] at named
      rcases named with rfl | rfl | rfl | rfl
      all_goals
        rcases foreign with rfl | rfl | rfl
        all_goals exact absurd listed (by decide)
    · split at device
      · simp only [Bool.and_eq_true, Bool.or_eq_true, beq_iff_eq, List.cons.injEq, and_true,
          List.contains_cons, List.contains_nil, Bool.or_false] at device
        obtain ⟨front, suffix⟩ := device
        simp only [List.mem_cons, List.not_mem_nil, or_false] at listed
        rcases front with ⟨rfl, rfl, rfl⟩ | ⟨rfl, rfl, rfl⟩
        all_goals
          rcases foreign with rfl | rfl | rfl
          all_goals
            have last := listed.resolve_left (by decide) |>.resolve_left (by decide)
              |>.resolve_left (by decide)
            subst last
            exact absurd suffix (by decide)
      · cases device

/-- A name is no device's when one of these characters stands in front of its first dot. -/
theorem isWin32DeviceName_of_mem {text extension : String} {char : Char}
    (present : char ∈ (text ++ extension).toList.takeWhile (· ≠ '.'))
    (foreign : char = '%' ∨ char = 'h' ∨ char = '_') :
    isWin32DeviceName text extension = false := by
  rw [isWin32DeviceName, deviceBaseMatches_deviceBaseToken]
  exact deviceBaseMatches_of_mem present foreign

/-- An extension that begins with a dot has no say. -/
theorem isWin32DeviceName_dotted (text : String) {extension : String}
    (dotted : ∀ first ∈ extension.toList.head?, first = '.') :
    isWin32DeviceName text extension = isWin32DeviceName text "" := by
  unfold isWin32DeviceName
  rw [deviceBaseMatches_deviceBaseToken, deviceBaseMatches_deviceBaseToken, String.toList_append,
    String.append_empty, List.takeWhile_append]
  split
  · rename_i dotless
    rw [(List.takeWhile_prefix _).eq_of_length dotless]
    cases shape : extension.toList with
    | nil => rw [List.takeWhile_nil, List.append_nil]
    | cons first rest =>
        have dot : first = '.' := dotted first (by rw [shape]; rfl)
        rw [List.takeWhile_cons_of_neg (by simp [dot]), List.append_nil]
  · rfl

/-! ## Spellings -/

/-- The ways to spell bytes: each as it is where it is safe, or in hex. -/
inductive Spells : List Char → Bytes → Prop
  | nil : Spells [] []
  | literal {chars : List Char} {rest : Bytes} (byte : UInt8)
      (safe : isSafeStorageByte byte rest.isEmpty = true) (spells : Spells chars rest) :
      Spells (Char.ofNat byte.toNat :: chars) (byte :: rest)
  | escaped {chars : List Char} {rest : Bytes} (byte : UInt8) (spells : Spells chars rest) :
      Spells (percentEncodeByte byte ++ chars) (byte :: rest)

/-- The encoder spells its bytes. -/
theorem encodeStorageBytes_spells (bytes : Bytes) : Spells (encodeStorageBytes bytes) bytes := by
  induction bytes with
  | nil => exact .nil
  | cons byte rest inductionHypothesis =>
      rw [encodeStorageBytes]
      split
      · rename_i safe
        exact .literal byte safe inductionHypothesis
      · exact .escaped byte inductionHypothesis

/-- The encoder that escapes the first byte spells its bytes. -/
theorem encodeWithLeadingEscape_spells (bytes : Bytes) :
    Spells (encodeWithLeadingEscape bytes) bytes := by
  cases bytes with
  | nil => exact .nil
  | cons first rest => exact .escaped first (encodeStorageBytes_spells rest)

/-- Characters of a name: small letters, digits and some punctuation. -/
def isNameCharacter (char : Char) : Bool :=
  char.isLower || char.isDigit || "#&+-_{}~[]^.%".toList.contains char

/-- What one byte looks like in a name. -/
theorem safe_byte (byte : UInt8) :
    (∀ isLast, isSafeStorageByte byte isLast = true →
      byte ≠ 37 ∧ isNameCharacter (Char.ofNat byte.toNat) = true ∧
        String.utf8EncodeChar (Char.ofNat byte.toNat) = [byte]) ∧
      (isSafeStorageByte byte true = true → isSpaceOrDot (Char.ofNat byte.toNat) = false) := by
  revert byte
  exact byte_forall (by decide +kernel)

/-- The two hex digits of a byte, and how they are read back. -/
theorem hexByte_digits (byte : UInt8) :
    ∃ high low, hexByte byte = [high, low] ∧
      encode [high, low] = [UInt8.ofNat high.toNat, UInt8.ofNat low.toNat] ∧
        hexByteValue (UInt8.ofNat high.toNat) (UInt8.ofNat low.toNat) = some byte ∧
          ∀ digit ∈ [high, low], isNameCharacter digit = true ∧ isSpaceOrDot digit = false ∧
            isHashDigit (UInt8.ofNat digit.toNat) = true := by
  refine ⟨_, _, rfl, ?_⟩
  simp only [List.forall_mem_cons, List.not_mem_nil, false_implies, implies_true, and_true]
  revert byte
  exact byte_forall (by decide +kernel)

/-- A byte that is no percent sign is read as it is. -/
theorem decodeStorageBytes_cons {byte : UInt8} (literal : byte ≠ 37) (rest : Bytes) :
    decodeStorageBytes (byte :: rest) = byte :: decodeStorageBytes rest := by
  match rest with
  | [] => rfl
  | [_] => rfl
  | high :: low :: more => rw [decodeStorageBytes, if_neg literal]

/-- A byte in hex is read back. -/
theorem decodeStorageBytes_escaped {byte high low : UInt8}
    (reads : hexByteValue high low = some byte) (rest : Bytes) :
    decodeStorageBytes (37 :: high :: low :: rest) = byte :: decodeStorageBytes rest := by
  rw [decodeStorageBytes, if_pos rfl, reads]

namespace Spells

variable {chars : List Char} {bytes : Bytes}

/-- A spelling is made of the characters of a name. -/
theorem named (spells : Spells chars bytes) : ∀ char ∈ chars, isNameCharacter char = true := by
  induction spells with
  | nil => exact nofun
  | literal byte safe _ inductionHypothesis =>
      intro char present
      rcases List.mem_cons.mp present with rfl | present
      · exact ((safe_byte byte).1 _ safe).2.1
      · exact inductionHypothesis char present
  | escaped byte _ inductionHypothesis =>
      intro char present
      obtain ⟨high, low, shape, -, -, digits⟩ := hexByte_digits byte
      rw [percentEncodeByte, shape] at present
      rcases List.mem_append.mp present with here | present
      · rcases List.mem_cons.mp here with rfl | digit
        · rfl
        · exact (digits char digit).1
      · exact inductionHypothesis char present

/-- Only no bytes are spelled by no characters. -/
theorem ne_nil {byte : UInt8} {rest : Bytes} (spells : Spells chars (byte :: rest)) :
    chars ≠ [] := by
  cases spells with
  | literal => exact nofun
  | escaped => exact nofun

/-- A spelling ends in no space and no dot. -/
theorem ending (spells : Spells chars bytes) :
    chars.getLast?.any isSpaceOrDot = false := by
  induction spells with
  | nil => rfl
  | @literal chars rest byte safe spells inductionHypothesis =>
      cases rest with
      | nil =>
          cases spells
          exact (safe_byte byte).2 safe
      | cons next rest =>
          rw [List.getLast?_cons_of_ne_nil spells.ne_nil]
          exact inductionHypothesis
  | @escaped chars rest byte spells inductionHypothesis =>
      cases rest with
      | nil =>
          cases spells
          obtain ⟨high, low, shape, -, -, digits⟩ := hexByte_digits byte
          rw [List.append_nil, percentEncodeByte, shape]
          exact (digits low (by simp)).2.1
      | cons next rest =>
          rw [List.getLast?_append_of_ne_nil _ spells.ne_nil]
          exact inductionHypothesis

/-- A spelling is read back. -/
theorem decode (spells : Spells chars bytes) : decodeStorageBytes (encode chars) = bytes := by
  induction spells with
  | nil => rfl
  | literal byte safe _ inductionHypothesis =>
      obtain ⟨literal, -, single⟩ := (safe_byte byte).1 _ safe
      rw [encode_cons, single, List.singleton_append, decodeStorageBytes_cons literal,
        inductionHypothesis]
  | escaped byte _ inductionHypothesis =>
      obtain ⟨high, low, shape, bytes, reads, -⟩ := hexByte_digits byte
      rw [encode_append, percentEncodeByte, shape, encode_cons, bytes]
      show decodeStorageBytes (37 :: _ :: _ :: encode _) = _
      rw [decodeStorageBytes_escaped reads, inductionHypothesis]

end Spells

/-- A name that is no digest's and spells a text is read as that text. -/
theorem decodeStorageSegment_spells {chars : List Char} {text : String}
    (spells : Spells chars (utf8 text))
    (plain : storageSegmentIsHash (String.ofList chars) = false) :
    decodeStorageSegment (String.ofList chars) = text := by
  have decoded : decodeStorageBytes (utf8 (String.ofList chars)) = utf8 text := by
    rw [utf8_eq_encode, String.toList_ofList, spells.decode]
  rw [decodeStorageSegment, plain, if_neg Bool.false_ne_true]
  dsimp only
  rw [decoded, fromUtf8Lossy_utf8, if_neg]
  intro odd
  rw [Bool.and_eq_true, decide_eq_true_eq] at odd
  rw [odd.1] at odd
  exact absurd odd.2 (by decide)

/-! ## Names of digests -/

/-- Bytes are determined by their digits. -/
theorem hexByte_flatMap_injective {left right : Bytes}
    (same : left.flatMap hexByte = right.flatMap hexByte) : left = right := by
  induction left generalizing right with
  | nil =>
      cases right with
      | nil => rfl
      | cons byte rest => cases same
  | cons byte rest inductionHypothesis =>
      cases right with
      | nil => cases same
      | cons other more =>
          rw [List.flatMap_cons, List.flatMap_cons] at same
          obtain ⟨digits, later⟩ := List.append_inj same rfl
          obtain ⟨high, low, shape, -, reads, -⟩ := hexByte_digits byte
          obtain ⟨high', low', shape', -, reads', -⟩ := hexByte_digits other
          rw [shape, shape', List.cons.injEq, List.cons.injEq] at digits
          obtain ⟨rfl, rfl, -⟩ := digits
          rw [reads] at reads'
          rw [Option.some.inj reads', inductionHypothesis later]

/-- The bytes of the digits of some bytes. -/
theorem encode_hexByte_flatMap (bytes : Bytes) :
    (encode (bytes.flatMap hexByte)).length = 2 * bytes.length ∧
      ∀ byte ∈ encode (bytes.flatMap hexByte), isHashDigit byte = true := by
  induction bytes with
  | nil => exact ⟨rfl, nofun⟩
  | cons byte rest inductionHypothesis =>
      obtain ⟨high, low, shape, coded, -, digits⟩ := hexByte_digits byte
      rw [List.flatMap_cons, encode_append, shape, coded]
      refine ⟨?_, fun other present => ?_⟩
      · rw [List.length_append, inductionHypothesis.1]
        simp only [List.length_cons, List.length_nil]
        omega
      · rcases List.mem_append.mp present with here | later
        · rcases List.mem_cons.mp here with rfl | here
          · exact (digits high (by simp)).2.2
          · exact List.mem_singleton.mp here ▸ (digits low (by simp)).2.2
        · exact inductionHypothesis.2 other later

/-- The bytes of a name that is a digest's are read as they are. -/
theorem decodeStorageBytes_hash {segment : String} (hash : storageSegmentIsHash segment = true) :
    decodeStorageBytes (utf8 segment) = utf8 segment := by
  have literal (bytes : Bytes) (clean : ∀ byte ∈ bytes, byte ≠ 37) :
      decodeStorageBytes bytes = bytes := by
    induction bytes with
    | nil => rfl
    | cons byte rest inductionHypothesis =>
        rw [decodeStorageBytes_cons (clean byte List.mem_cons_self), inductionHypothesis
          fun other present => clean other (List.mem_cons_of_mem _ present)]
  unfold storageSegmentIsHash at hash
  split at hash
  · cases hash
  · rename_i first rest shape
    rw [Bool.and_eq_true, Bool.and_eq_true, List.all_eq_true, beq_iff_eq, beq_iff_eq] at hash
    obtain ⟨⟨-, rfl⟩, digits⟩ := hash
    rw [shape]
    refine literal _ fun byte present => ?_
    rcases List.mem_cons.mp present with rfl | present
    · decide
    · rintro rfl
      exact absurd (digits 37 present) (by decide)

/-- A name in front of which a percent sign stands is no digest's. -/
theorem storageSegmentIsHash_percent (chars : List Char) :
    storageSegmentIsHash (String.ofList ('%' :: chars)) = false := by
  rw [storageSegmentIsHash, utf8_eq_encode, String.toList_ofList, encode_cons]
  show (_ && (37 : UInt8) == 104 && _) = false
  rw [show ((37 : UInt8) == 104) = false from rfl, Bool.and_false, Bool.false_and]

/-! ## The name of a text -/

/-- The characters of a name are ASCII, and in their small form. -/
theorem isNameCharacter_spec {char : Char} (named : isNameCharacter char = true) :
    char.toNat < 128 ∧ char.toLower = char := by
  have ascii : char.toNat < 128 := by
    unfold isNameCharacter at named
    rw [Bool.or_eq_true, Bool.or_eq_true] at named
    rcases named with (lower | digit) | mark
    · delta Char.isLower at lower
      simp only [Bool.and_eq_true, decide_eq_true_eq, UInt32.le_iff_toNat_le] at lower
      exact lower.2.trans_lt (by decide)
    · simp only [Char.isDigit, Bool.and_eq_true, decide_eq_true_eq,
        UInt32.le_iff_toNat_le] at digit
      exact digit.2.trans_lt (by decide)
    · have marks : "#&+-_{}~[]^.%".toList.all (fun mark => decide (mark.toNat < 128)) = true := by
        decide
      rw [List.all_eq_true] at marks
      exact of_decide_eq_true (marks char (List.contains_iff_mem.mp mark))
  have small : ∀ code < 128, isNameCharacter (Char.ofNat code) = true →
      (Char.ofNat code).toLower = Char.ofNat code := by decide
  have lower := small char.toNat ascii
  rw [Char.ofNat_toNat] at lower
  exact ⟨ascii, lower named⟩

/-- A name has as many bytes as characters. -/
theorem byteLength_of_named {chars : List Char}
    (named : ∀ char ∈ chars, isNameCharacter char = true) :
    byteLength (String.ofList chars) = chars.length := by
  rw [byteLength, utf8_eq_encode, String.toList_ofList]
  induction chars with
  | nil => rfl
  | cons char rest inductionHypothesis =>
      have ascii := (isNameCharacter_spec (named char List.mem_cons_self)).1
      rw [encode_cons, utf8EncodeChar_of_lt ascii, List.singleton_append, List.length_cons,
        List.length_cons, inductionHypothesis fun other present =>
          named other (List.mem_cons_of_mem _ present)]

/-- In front of the first dot, the encoder leaves a text as it is or writes a percent sign. -/
theorem encodeStorageBytes_base (chars extension : List Char) :
    '%' ∈ (encodeStorageBytes (encode chars) ++ extension).takeWhile (· ≠ '.') ∨
      (encodeStorageBytes (encode chars) ++ extension).takeWhile (· ≠ '.') =
        (chars ++ extension).takeWhile (· ≠ '.') := by
  induction chars with
  | nil => exact .inr rfl
  | cons char rest inductionHypothesis =>
      cases coded : String.utf8EncodeChar char with
      | nil => exact absurd coded (String.utf8EncodeChar_ne_nil)
      | cons byte more =>
          rw [encode_cons, coded, List.cons_append, encodeStorageBytes]
          split
          · rename_i safe
            obtain ⟨-, named, single⟩ := (safe_byte byte).1 _ safe
            have same : Char.ofNat byte.toNat = char ∧ more = [] := by
              have parts : String.utf8EncodeChar char ++ [] =
                  String.utf8EncodeChar (Char.ofNat byte.toNat) ++ more := by
                rw [single, List.append_nil, coded, List.singleton_append]
              have here := utf8EncodeChar_append_inj parts
              rw [here] at parts
              exact ⟨here.symm, (List.append_cancel_left parts).symm⟩
            obtain ⟨rfl, rfl⟩ := same
            rw [List.nil_append, List.singleton_append, List.cons_append, List.cons_append]
            by_cases dot : Char.ofNat byte.toNat = '.'
            · right
              rw [List.takeWhile_cons_of_neg (by simp [dot]),
                List.takeWhile_cons_of_neg (by simp [dot])]
            · rw [List.takeWhile_cons_of_pos (by simp [dot]),
                List.takeWhile_cons_of_pos (by simp [dot])]
              rcases inductionHypothesis with escaped | same
              · exact .inl (List.mem_cons_of_mem _ escaped)
              · exact .inr (congrArg _ same)
          · left
            exact List.mem_cons_self

/-- The encoder makes no device's name of a text that has none. -/
theorem isWin32DeviceName_encoded {text extension : String}
    (harmless : isWin32DeviceName text extension = false) :
    isWin32DeviceName (String.ofList (encodeStorageBytes (utf8 text))) extension = false := by
  rw [utf8_eq_encode]
  rcases encodeStorageBytes_base text.toList extension.toList with escaped | same
  · refine isWin32DeviceName_of_mem ?_ (.inl rfl)
    rw [String.toList_append, String.toList_ofList]
    exact escaped
  · rw [isWin32DeviceName, deviceBaseMatches_deviceBaseToken] at harmless ⊢
    rw [String.toList_append] at harmless ⊢
    rw [String.toList_ofList, same]
    exact harmless

/-- A name that begins with one of these characters is no device's. -/
theorem isWin32DeviceName_begins (chars : List Char) (extension : String) {first : Char}
    (foreign : first = '%' ∨ first = 'h' ∨ first = '_') :
    isWin32DeviceName (String.ofList (first :: chars)) extension = false := by
  have solid : (decide (first ≠ '.')) = true := by
    rcases foreign with rfl | rfl | rfl
    all_goals rfl
  have present :
      first ∈ (String.ofList (first :: chars) ++ extension).toList.takeWhile (· ≠ '.') := by
    rw [String.toList_append, String.toList_ofList, List.cons_append, List.takeWhile_cons,
      if_pos solid]
    exact List.mem_cons_self
  exact isWin32DeviceName_of_mem present foreign

/-- A spelling that looks like a digest's name spells the text that is that name. -/
theorem Spells.hash {chars : List Char} {text : String} (spells : Spells chars (utf8 text))
    (hash : storageSegmentIsHash (String.ofList chars) = true) :
    storageSegmentIsHash text = true ∧ chars.length = 65 ∧
      Spells (percentEncodeByte 104 ++ chars.drop 1) (utf8 text) := by
  have same : String.ofList chars = text := by
    refine utf8_injective ?_
    rw [← decodeStorageBytes_hash hash, utf8_eq_encode, String.toList_ofList, spells.decode]
  have size := byteLength_of_named spells.named
  rw [byteLength, same] at size
  rw [same] at hash
  refine ⟨hash, ?_⟩
  have begins := hash
  rw [storageSegmentIsHash] at begins
  split at begins
  · cases begins
  · rename_i first rest shape
    rw [Bool.and_eq_true, Bool.and_eq_true, beq_iff_eq, beq_iff_eq] at begins
    obtain ⟨⟨long, rfl⟩, -⟩ := begins
    rw [shape] at spells size ⊢
    rw [List.length_cons, long] at size
    refine ⟨size.symm, ?_⟩
    cases spells with
    | literal byte safe spells => exact .escaped 104 spells
    | escaped byte spells =>
        rw [← same] at hash
        rw [percentEncodeByte, List.cons_append, storageSegmentIsHash_percent] at hash
        cases hash

section Names

variable [Platform]

/-- The name of a text is safe: it is made of small letters, digits and some punctuation, it is no
device's, and it ends in no space and no dot. -/
structure SafeName (segment extension : String) : Prop where
  named : ∀ char ∈ segment.toList, isNameCharacter char = true
  device : isWin32DeviceName segment extension = false
  ending : segment.toList.getLast?.any isSpaceOrDot = false

/-- The forms of a name: the one shared name, a digest, and a spelling that is no digest's. -/
inductive Named (text extension : String) : String → Prop
  | shared (dots : isDotName text = true) : Named text extension "_"
  | hashed (undotted : isDotName text = false) :
      Named text extension (String.ofList (hashLongSegment (utf8 text)))
  | spelled (undotted : isDotName text = false) (chars : List Char)
      (spells : Spells chars (utf8 text))
      (plain : storageSegmentIsHash (String.ofList chars) = false)
      (device : isWin32DeviceName (String.ofList chars) extension = false)
      (fits : chars.length + byteLength extension ≤ 255 ∨
        storageSegmentIsHash text = true ∧ chars.length = 67) :
      Named text extension (String.ofList chars)

/-- Every name has one of the forms. -/
theorem storageSegment_named (text : String) (extension : Option String) :
    Named text (extension.getD "") (storageSegment text extension) := by
  unfold storageSegment
  dsimp only
  generalize extension.getD "" = extension
  cases dots : isDotName text with
  | true => exact .shared dots
  | false =>
      rw [if_neg Bool.false_ne_true]
      have coded : ∃ chars, (if isWin32DeviceName text extension = true then
            encodeWithLeadingEscape (utf8 text) else encodeStorageBytes (utf8 text)) = chars ∧
          Spells chars (utf8 text) ∧
            isWin32DeviceName (String.ofList chars) extension = false := by
        refine ⟨_, rfl, ?_⟩
        split
        · refine ⟨encodeWithLeadingEscape_spells _, ?_⟩
          cases shape : utf8 text with
          | nil =>
              have blank : text = "" := utf8_injective shape
              rw [blank] at dots
              cases dots
          | cons first rest => exact isWin32DeviceName_begins _ _ (.inl rfl)
        · rename_i harmless
          exact ⟨encodeStorageBytes_spells _,
            isWin32DeviceName_encoded (Bool.eq_false_iff.mpr harmless)⟩
      obtain ⟨chars, coded, spells, device⟩ := coded
      rw [coded]
      have size := byteLength_of_named spells.named
      split
      · exact .hashed dots
      · rename_i short
        rw [size, Nat.not_lt] at short
        cases hash : storageSegmentIsHash (String.ofList chars) with
        | false =>
            rw [if_neg Bool.false_ne_true]
            exact .spelled dots chars spells hash device (.inl short)
        | true =>
            obtain ⟨shaped, size, spells⟩ := spells.hash hash
            rw [if_pos rfl, String.toList_ofList]
            refine .spelled dots _ spells (storageSegmentIsHash_percent _)
              (isWin32DeviceName_begins _ _ (.inl rfl)) (.inr ⟨shaped, ?_⟩)
            rw [List.length_append, List.length_drop, size]
            rfl

/-- The characters of a digest's name. -/
theorem mem_hashLongSegment {bytes : Bytes} {char : Char}
    (present : char ∈ hashLongSegment bytes) :
    isNameCharacter char = true ∧ isSpaceOrDot char = false := by
  rcases List.mem_cons.mp present with rfl | present
  · exact ⟨by decide, rfl⟩
  · obtain ⟨byte, -, digit⟩ := List.mem_flatMap.mp present
    obtain ⟨high, low, shape, -, -, digits⟩ := hexByte_digits byte
    rw [shape] at digit
    exact ⟨(digits char digit).1, (digits char digit).2.1⟩

/-- A digest's name looks like one. -/
theorem storageSegmentIsHash_hashLongSegment (digest : ∀ raw, (Platform.sha256 raw).length = 32)
    (bytes : Bytes) : storageSegmentIsHash (String.ofList (hashLongSegment bytes)) = true := by
  obtain ⟨size, digits⟩ := encode_hexByte_flatMap (Platform.sha256 bytes)
  rw [digest] at size
  rw [storageSegmentIsHash, utf8_eq_encode, String.toList_ofList, hashLongSegment, encode_cons]
  show (_ == 64 && (104 : UInt8) == 104 && _) = true
  rw [Bool.and_eq_true, Bool.and_eq_true, List.all_eq_true]
  exact ⟨⟨beq_iff_eq.mpr size, rfl⟩, digits⟩

/-- Every name is safe. -/
theorem Named.safeName {text extension segment : String} (named : Named text extension segment) :
    SafeName segment extension := by
  cases named with
  | shared dots =>
      have mark : "_".toList.all isNameCharacter = true := by decide
      exact ⟨List.all_eq_true.mp mark, isWin32DeviceName_begins [] extension (.inr (.inr rfl)), rfl⟩
  | hashed undotted =>
      refine ⟨?_, isWin32DeviceName_begins _ _ (.inr (.inl rfl)), ?_⟩
      · rw [String.toList_ofList]
        exact fun char present => (mem_hashLongSegment present).1
      · rw [String.toList_ofList, Option.any_eq_false]
        intro last ends
        exact (mem_hashLongSegment (List.mem_of_getLast? ends)).2
  | spelled undotted chars spells plain device fits =>
      refine ⟨?_, device, ?_⟩
      · rw [String.toList_ofList]
        exact spells.named
      · rw [String.toList_ofList]
        exact spells.ending

/-- A name and its extension are within the limit, but for long extensions. -/
theorem Named.within (digest : ∀ raw, (Platform.sha256 raw).length = 32)
    {text extension segment : String} (named : Named text extension segment)
    (room : byteLength extension ≤ 188 ∨
      byteLength extension ≤ 190 ∧ storageSegmentIsHash text = false) :
    byteLength segment + byteLength extension ≤ 255 := by
  cases named with
  | shared dots =>
      have size : byteLength "_" = 1 := by decide
      rw [size]
      omega
  | hashed undotted =>
      have size : (hashLongSegment (utf8 text)).length = 65 := by
        have each : (Platform.sha256 (utf8 text)).map (fun byte => (hexByte byte).length) =
            (Platform.sha256 (utf8 text)).map fun _ => 2 := rfl
        rw [hashLongSegment, List.length_cons, List.length_flatMap, each, List.map_const',
          List.sum_replicate_nat, digest]
      rw [byteLength_of_named fun char present => (mem_hashLongSegment present).1, size]
      omega
  | spelled undotted chars spells plain device fits =>
      rw [byteLength_of_named spells.named]
      rcases fits with fits | ⟨shaped, size⟩
      · exact fits
      · rw [shaped] at room
        simp only [Bool.true_eq_false, and_false, or_false] at room
        omega

/-- A name that is no digest's is read back as its text. -/
theorem Named.decode (digest : ∀ raw, (Platform.sha256 raw).length = 32)
    {text extension segment : String} (named : Named text extension segment)
    (undotted : isDotName text = false) (plain : storageSegmentIsHash segment = false) :
    decodeStorageSegment segment = text := by
  cases named with
  | shared dots =>
      rw [dots] at undotted
      cases undotted
  | hashed =>
      rw [storageSegmentIsHash_hashLongSegment digest] at plain
      cases plain
  | spelled _ chars spells plain => exact decodeStorageSegment_spells spells plain

/-- A name of two texts is the name of their one digest. -/
theorem Named.collide (digest : ∀ raw, (Platform.sha256 raw).length = 32)
    {text other extension extension' segment : String} (named : Named text extension segment)
    (others : Named other extension' segment) (undotted : isDotName text = false)
    (undotted' : isDotName other = false) :
    text = other ∨ Platform.sha256 (utf8 text) = Platform.sha256 (utf8 other) := by
  cases hash : storageSegmentIsHash segment with
  | false =>
      exact .inl ((named.decode digest undotted hash).symm.trans
        (others.decode digest undotted' hash))
  | true =>
      cases named with
      | shared dots =>
          rw [dots] at undotted
          cases undotted
      | spelled _ chars spells plain =>
          rw [plain] at hash
          cases hash
      | hashed =>
          generalize same : String.ofList (hashLongSegment (utf8 text)) = segment at others
          cases others with
          | shared dots =>
              rw [dots] at undotted'
              cases undotted'
          | spelled _ chars spells plain =>
              rw [same, plain] at hash
              cases hash
          | hashed =>
              refine .inr (hexByte_flatMap_injective ?_)
              exact List.tail_eq_of_cons_eq (String.ofList_injective same)

omit [Platform] in
/-- A safe name is in its small form. -/
theorem SafeName.asciiLowercase {segment extension : String} (safe : SafeName segment extension) :
    asciiLowercase segment = segment := by
  have small : segment.toList.map Char.toLower = segment.toList :=
    (List.map_congr_left fun char present =>
      (isNameCharacter_spec (safe.named char present)).2).trans (List.map_id _)
  rw [Text.asciiLowercase, small, String.ofList_toList]

omit [Platform] in
/-- A name with its extension that is the other's but for case is the other's. -/
theorem SafeName.of_asciiLowercase {segment other extension : String}
    (safe : SafeName segment extension) (others : SafeName other extension)
    (same : Text.asciiLowercase (segment ++ extension) = Text.asciiLowercase (other ++ extension)) :
    segment = other := by
  have parts (name : String) : (Text.asciiLowercase (name ++ extension)).toList =
      (Text.asciiLowercase name).toList ++ extension.toList.map Char.toLower := by
    rw [Text.asciiLowercase, Text.asciiLowercase, String.toList_ofList, String.toList_ofList,
      String.toList_append, List.map_append]
  have whole := congrArg String.toList same
  rw [parts, parts, safe.asciiLowercase, others.asciiLowercase] at whole
  exact String.toList_injective (List.append_cancel_right whole)

/-- The names of texts. Every name is safe, and stays within the limit together with an extension
that leaves room for a digest. A name that is no digest's is read back as its text, unless the
text shares the one name of the empty and dot names. Apart from those, two texts whose digests do
not collide have names, and files under one extension, that differ in more than case. -/
theorem storageSegment_names (digest : ∀ raw, (Platform.sha256 raw).length = 32)
    (text other : String) (extension extension' : Option String) :
    SafeName (storageSegment text extension) (extension.getD "") ∧
      ((∀ first ∈ (extension.getD "").toList.head?, first = '.') →
        isWin32DeviceName (storageSegment text extension) "" = false) ∧
      (byteLength (extension.getD "") ≤ 188 ∨
          byteLength (extension.getD "") ≤ 190 ∧ storageSegmentIsHash text = false →
        byteLength (storageSegment text extension) + byteLength (extension.getD "") ≤ 255) ∧
      (isDotName text = false → storageSegmentIsHash (storageSegment text extension) = false →
        decodeStorageSegment (storageSegment text extension) = text) ∧
      (isDotName text = false → isDotName other = false →
        (Platform.sha256 (utf8 text) = Platform.sha256 (utf8 other) → text = other) →
          (storageSegment text extension = storageSegment other extension' → text = other) ∧
          (asciiLowercase (storageSegment text extension ++ extension.getD "") =
            asciiLowercase (storageSegment other extension ++ extension.getD "") →
              text = other)) := by
  have named := storageSegment_named text extension
  have apart (undotted : isDotName text = false) (undotted' : isDotName other = false)
      (distinct : Platform.sha256 (utf8 text) = Platform.sha256 (utf8 other) → text = other)
      (extension' : Option String)
      (same : storageSegment text extension = storageSegment other extension') : text = other :=
    (named.collide digest (same ▸ storageSegment_named other extension') undotted undotted').elim
      id distinct
  refine ⟨named.safeName, fun dotted => ?_, named.within digest, named.decode digest,
    fun undotted undotted' distinct =>
      ⟨apart undotted undotted' distinct extension', fun same => ?_⟩⟩
  · rw [← isWin32DeviceName_dotted _ dotted]
    exact named.safeName.device
  · exact apart undotted undotted' distinct extension
      (named.safeName.of_asciiLowercase (storageSegment_named other extension).safeName same)

end Names

section Reference

/-- The reference platform with the SHA-256 digests of "b" and of 256 letters "a", the latter in the
place of any other. -/
local instance segmentPlatform : Platform :=
  { Session.reference with
    sha256 := fun raw =>
      if raw = [98] then
        [0x3e, 0x23, 0xe8, 0x16, 0x00, 0x39, 0x59, 0x4a, 0x33, 0x89, 0x4f, 0x65, 0x64, 0xe1, 0xb1,
          0x34, 0x8b, 0xbd, 0x7a, 0x00, 0x88, 0xd4, 0x2c, 0x4a, 0xcb, 0x73, 0xee, 0xae, 0xd5, 0x9c,
          0x00, 0x9d]
      else
        [0x02, 0xd7, 0x16, 0x0d, 0x77, 0xe1, 0x8c, 0x64, 0x47, 0xbe, 0x80, 0xc2, 0xe3, 0x55, 0xc7,
          0xed, 0x43, 0x88, 0x54, 0x52, 0x71, 0x70, 0x2c, 0x50, 0x25, 0x3b, 0x09, 0x14, 0xc6, 0x5c,
          0xe5, 0xfe] }

/-- A text that is named by its digest and one that is not. -/
theorem storageSegment_names_apart :
    storageSegment (String.ofList (List.replicate 256 'a')) none ≠ storageSegment "b" none := by
  have digest (raw : Bytes) : (Platform.sha256 raw).length = 32 := by
    show (if raw = [98] then _ else _ : Bytes).length = 32
    split
    all_goals rfl
  intro same
  have names := (storageSegment_names digest (String.ofList (List.replicate 256 'a')) "b" none none)
  exact absurd ((names.2.2.2.2 (by decide +kernel) (by decide +kernel)
    (fun collide => absurd collide (by decide +kernel))).1 same) (by decide +kernel)

/-- Where a name does not keep a promise: it is too long behind the escape of a digest's name, a
shared name is not read back, and a name alone is a device's where its extension had none. -/
theorem storageSegment_breaks :
    ¬ (∀ text extension : String,
        byteLength (storageSegment text (some extension)) + byteLength extension ≤ 255) ∧
      ¬ (∀ text : String, storageSegmentIsHash (storageSegment text none) = false →
        decodeStorageSegment (storageSegment text none) = text) ∧
      ¬ (∀ text extension : String,
        isWin32DeviceName (storageSegment text (some extension)) "" = false) := by
  refine ⟨fun within => ?_, fun reads => ?_, fun harmless => ?_⟩
  · have short := within (String.ofList ('h' :: List.replicate 64 'a'))
      (String.ofList (List.replicate 189 'x'))
    -- The kernel counts the bytes of lists, not of strings.
    simp only [storageSegment, isWin32DeviceName, byteLength, utf8_eq_encode, String.toList_append,
      String.toList_ofList, Option.getD_some] at short
    exact absurd short (by decide +kernel)
  · exact absurd (reads "" (by decide)) (by decide)
  · exact absurd (harmless "con" "x") (by decide)

end Reference

end Omairc.Storage

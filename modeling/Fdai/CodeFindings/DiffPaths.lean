import Fdai.CodeFindings.GitDiff
import Fdai.CodeFindings.UnifiedDiff

/-!
# The paths of a diff, as they are read

Git prints a path in quotes or as it is, and the parser reads it from the header of its file, from
the lines of a rename, or from the lines that name the old and the new file.

* A path in quotes is always read back (`unquote_quoteText`).
* One without quotes loses the blanks at its end (`stripPrefix_fileLabel`).
* On the header it is also cut where it contains ` b/` (`openFile_same`).
-/

namespace Fdai.Core.DiffGuard

open Fdai.Lines GitDiff

variable {characterName : Text → Option ℕ}

/-! ## Quotes -/

theorem digitIn_digitChar (n : ℕ) (small : n < 8) :
    digitIn 8 (Nat.digitChar n) = some n := by
  interval_cases n <;> decide

variable {c : Char}

theorem readEscape_digit (isOctal : (digitIn 8 c).isSome) (rest : Text) :
    readEscape characterName (c :: rest) =
      some ([(readOctal 3 0 (c :: rest)).1], (readOctal 3 0 (c :: rest)).2) := by
  have noLetter : letterEscape c = none := by
    unfold letterEscape
    split <;> first | rfl | cases isOctal
  unfold readEscape
  split <;> simp_all [digitIn]

theorem readEscape_letter {value : ℕ} (letter : letterEscape c = some value)
    (rest : Text) : readEscape characterName (c :: rest) = some ([value], rest) := by
  unfold readEscape
  split <;> simp_all [letterEscape]

theorem decodeEscapes_letter {value : ℕ} (letter : letterEscape c = some value)
    (fuel : ℕ) (rest : Text) : decodeEscapes characterName (fuel + 1) ('\\' :: c :: rest) =
      (decodeEscapes characterName fuel rest).map (value :: ·) := by
  simp only [decodeEscapes, readEscape_letter letter, bind, Option.bind]
  cases decodeEscapes characterName fuel rest <;> rfl

theorem readEscape_octal {n : ℕ} (isByte : n < 256) (rest : Text) :
    readEscape characterName (octal n ++ rest) = some ([n], rest) := by
  have first := digitIn_digitChar (n / 64) (by omega)
  have second := digitIn_digitChar (n / 8 % 8) (by omega)
  have third := digitIn_digitChar (n % 8) (by omega)
  have value : 8 * (8 * (n / 64) + n / 8 % 8) + n % 8 = n := by omega
  have read : readOctal 3 0 (octal n ++ rest) = (n, rest) := by
    simp [octal, readOctal, first, second, third, value]
  unfold octal at read ⊢
  rw [List.cons_append] at read ⊢
  rw [readEscape_digit (by simp [first]), read]

/-- A printed byte is read as the byte. -/
theorem decodeEscapes_quoteByte (byte : UInt8) (fuel : ℕ) (rest : Text) :
    decodeEscapes characterName (fuel + 1) (quoteByte byte ++ rest) =
      (decodeEscapes characterName fuel rest).map (byte.toNat :: ·) := by
  have isByte : byte.toNat < 256 := byte.toNat_lt
  unfold quoteByte
  generalize byte.toNat = n at isByte
  split
  case h_10 notSlash =>
    split
    · simp only [List.cons_append, decodeEscapes, readEscape_octal isByte, bind, Option.bind]
      cases decodeEscapes characterName fuel rest <;> rfl
    rename_i printed
    have code : (Char.ofNat n).toNat = n := by
      have valid : n.isValidChar := .inl (by omega)
      rw [Char.ofNat, dif_pos valid]
      rfl
    have notEscape : Char.ofNat n ≠ '\\' := by
      intro isSlash
      rw [isSlash] at code
      exact notSlash code.symm
    rw [List.singleton_append, decodeEscapes]
    · simp only [code, bind, Option.bind]
      cases decodeEscapes characterName fuel rest <;> rfl
    · exact notEscape
  all_goals exact decodeEscapes_letter (by decide) fuel rest

theorem decodeEscapes_bytes (bytes : List UInt8) {fuel : ℕ} (enough : bytes.length ≤ fuel) :
    decodeEscapes characterName fuel (bytes.flatMap quoteByte) = some (bytes.map UInt8.toNat) := by
  induction bytes generalizing fuel with
  | nil => cases fuel <;> rfl
  | cons byte bytes ih =>
    obtain ⟨fuel, rfl⟩ : ∃ before, fuel = before + 1 :=
      Nat.exists_eq_add_one.2 (Nat.zero_lt_of_lt enough)
    rw [List.flatMap_cons, decodeEscapes_quoteByte, ih (by simpa using enough)]
    rfl

/-- The printed form of a byte: a character or an escape. -/
theorem quoteByte_cases (byte : UInt8) :
    (∃ c, quoteByte byte = [c] ∧ c ≠ '"' ∧ c ≠ '\\' ∧ 0x20 ≤ c.toNat ∧ c.toNat < 0x7f) ∨
      ∃ c digits, quoteByte byte = '\\' :: c :: digits ∧ 0x20 ≤ c.toNat ∧ c.toNat < 0x7f ∧
        ∀ d ∈ digits, 48 ≤ d.toNat ∧ d.toNat < 56 := by
  have isByte : byte.toNat < 256 := byte.toNat_lt
  unfold quoteByte
  generalize byte.toNat = n at isByte
  split
  case h_10 notQuote notSlash =>
    split
    · refine .inr ⟨_, _, rfl, ?_, ?_, ?_⟩
      · rw [Nat.toNat_digitChar_of_lt_ten (by omega)]
        omega
      · rw [Nat.toNat_digitChar_of_lt_ten (by omega)]
        omega
      · intro d inside
        simp only [List.mem_cons, List.not_mem_nil, or_false] at inside
        rcases inside with rfl | rfl <;>
        · rw [Nat.toNat_digitChar_of_lt_ten (by omega)]
          omega
    · rename_i printed
      have code : (Char.ofNat n).toNat = n := by
        have valid : n.isValidChar := .inl (by omega)
        rw [Char.ofNat, dif_pos valid]
        rfl
      refine .inl ⟨_, rfl, ?_, ?_, by omega, by omega⟩
      · intro isQuote
        rw [isQuote] at code
        exact notQuote code.symm
      · intro isSlash
        rw [isSlash] at code
        exact notSlash code.symm
  all_goals exact .inr ⟨_, [], rfl, by decide, by decide, by simp⟩

theorem quoteByte_printed {byte : UInt8} {c : Char} (inside : c ∈ quoteByte byte) :
    0x20 ≤ c.toNat ∧ c.toNat < 0x7f := by
  rcases quoteByte_cases byte with ⟨d, printed, -, -, low, high⟩ | ⟨d, digits, printed, low, high, digit⟩
  · rw [printed, List.mem_singleton] at inside
    exact inside ▸ ⟨low, high⟩
  rw [printed, List.mem_cons, List.mem_cons] at inside
  rcases inside with rfl | rfl | inside
  · decide
  · exact ⟨low, high⟩
  · have bounds := digit c inside
    omega

theorem quoteText_printed {text : Text} {c : Char} (inside : c ∈ quoteText text) :
    0x20 ≤ c.toNat ∧ c.toNat < 0x7f := by
  simp only [quoteText, List.mem_cons, List.mem_append, List.mem_flatMap, List.not_mem_nil,
    or_false] at inside
  rcases inside with rfl | ⟨byte, -, inside⟩ | rfl
  · decide
  · exact quoteByte_printed inside
  · decide

theorem encodeLatin_ascii {text : Text} (ascii : ∀ c ∈ text, c.toNat < 0x100) :
    encodeLatin text = text := by
  induction text with
  | nil => rfl
  | cons c text ih =>
    have first := ascii c List.mem_cons_self
    have later := ih fun d inside => ascii d (List.mem_cons_of_mem c inside)
    unfold encodeLatin at later ⊢
    rw [List.flatMap_cons, later, if_pos first]
    rfl

theorem length_flatMap_quoteByte (bytes : List UInt8) :
    bytes.length ≤ (bytes.flatMap quoteByte).length := by
  induction bytes with
  | nil => simp
  | cons byte bytes ih =>
    have nonempty : 1 ≤ (quoteByte byte).length := by
      rcases quoteByte_cases byte with ⟨_, printed, -⟩ | ⟨_, _, printed, -⟩ <;> simp [printed]
    rw [List.flatMap_cons, List.length_append, List.length_cons]
    omega

theorem decodeUtf8_encode (text : Text) :
    decodeUtf8 ((text.flatMap String.utf8EncodeChar).map UInt8.toNat) = some text := by
  have bytes : (text.flatMap String.utf8EncodeChar).map (UInt8.ofNat ∘ UInt8.toNat) =
      text.flatMap String.utf8EncodeChar := by
    simp [Function.comp_def]
  have decoded : (text.flatMap String.utf8EncodeChar).toByteArray.utf8Decode? =
      some text.toArray := List.utf8Decode?_utf8Encode
  have small : ((text.flatMap String.utf8EncodeChar).map UInt8.toNat).all (· < 0x100) = true := by
    simp only [List.all_map, List.all_eq_true, Function.comp_apply, decide_eq_true_eq]
    intro byte _
    exact byte.toNat_lt
  rw [decodeUtf8, if_pos small, List.map_map, bytes, decoded]
  rfl

/-- **A text in quotes** is read back. -/
theorem unquote_quoteText (text : Text) : unquote characterName (quoteText text) = text := by
  have ascii : ∀ c ∈ (text.flatMap String.utf8EncodeChar).flatMap quoteByte, c.toNat < 0x100 := by
    intro c inside
    obtain ⟨byte, -, inside⟩ := List.mem_flatMap.1 inside
    have printed := quoteByte_printed inside
    omega
  have decoded : decodeEscapes characterName _ _ = _ :=
    decodeEscapes_bytes (text.flatMap String.utf8EncodeChar) (length_flatMap_quoteByte _)
  unfold quoteText
  generalize printed_eq : (text.flatMap String.utf8EncodeChar).flatMap quoteByte = printed at *
  obtain ⟨c, rest, cons⟩ : ∃ c rest, printed ++ ['"'] = c :: rest :=
    List.exists_cons_of_ne_nil (by simp)
  have ends : (c :: rest).getLast? = some '"' := by simp [← cons]
  have inner : (c :: rest).dropLast = printed := by simp [← cons]
  rw [cons, unquote, if_pos ends, inner, encodeLatin_ascii ascii]
  simp only [decoded, Option.bind_some, decodeUtf8_encode, Option.getD_some]

/-- A text without a quote before it is left as it is. -/
theorem unquote_of_head {text : Text} (noQuote : text.head? ≠ some '"') :
    unquote characterName text = text := by
  unfold unquote
  split
  · simp at noQuote
  · rfl

theorem strip_length_le (text : Text) : (strip text).length ≤ text.length :=
  (List.rdropWhile_prefix _ _).length_le.trans (List.dropWhile_suffix _).length_le

/-- Behind a character that is not blank, `strip` removes blanks at the end only. -/
theorem strip_append (start text : Text) (first last : Char)
    (starts : start.head? = some first) (ends : start.getLast? = some last)
    (firstInk : isSpace first = false) (lastInk : isSpace last = false) :
    strip (start ++ text) = start ++ text.rdropWhile isSpace := by
  obtain ⟨later, rfl⟩ := List.head?_eq_some_iff.1 starts
  obtain ⟨before, before_eq⟩ := List.getLast?_eq_some_iff.1 ends
  unfold strip
  rw [List.cons_append, List.dropWhile_cons_of_neg (by simp [firstInk]), ← List.cons_append,
    before_eq]
  unfold List.rdropWhile
  rw [List.reverse_append, List.reverse_concat, List.dropWhile_append]
  split
  · rename_i blank
    rw [List.isEmpty_iff.1 blank, List.dropWhile_cons_of_neg (by simp [lastInk])]
    simp
  · simp

/-- A path as the line that names its file shows it. -/
def shown (path : GitPath) : Text :=
  if path.quoted then path.chars else path.chars.rdropWhile isSpace

/-- The letters of the sides. -/
abbrev IsSide (side : Text) : Prop := side = "a/".toList ∨ side = "b/".toList

variable {side : Text}

theorem unquote_side (isSide : IsSide side) (text : Text) :
    unquote characterName (side ++ text) = side ++ text := by
  apply unquote_of_head
  rcases isSide with rfl | rfl <;> simp

theorem ofSide (isSide : IsSide side) (text : Text) :
    (if side ++ text = "/dev/null".toList then none
      else some (((after "a/".toList (side ++ text)).or
        (after "b/".toList (side ++ text))).getD (side ++ text))) = some text := by
  rcases isSide with rfl | rfl <;> simp [after]

theorem stripPrefix_side (isSide : IsSide side) (text : Text) :
    stripPrefix characterName (side ++ text) = some (text.rdropWhile isSpace) := by
  have stripped : strip (side ++ text) = side ++ text.rdropWhile isSpace := by
    rcases isSide with rfl | rfl
    · exact strip_append _ text 'a' '/' rfl rfl rfl rfl
    · exact strip_append _ text 'b' '/' rfl rfl rfl rfl
  simp only [stripPrefix, stripped, unquote_side isSide, ofSide isSide]

theorem stripPrefix_quoteText (isSide : IsSide side) (text : Text)
    {blanks : Text} (isBlank : blanks.rdropWhile isSpace = []) :
    stripPrefix characterName (quoteText (side ++ text) ++ blanks) = some text := by
  have stripped : strip (quoteText (side ++ text) ++ blanks) = quoteText (side ++ text) := by
    have split := strip_append (quoteText (side ++ text)) blanks '"' '"' rfl
      (by simp [quoteText, List.getLast?_cons]) rfl rfl
    rw [split, isBlank, List.append_nil]
  simp only [stripPrefix, stripped, unquote_quoteText, ofSide isSide]

/-- A path behind its side, and the tab after it. -/
theorem stripPrefix_label (isSide : IsSide side) (path : GitPath) (tab : Bool) :
    stripPrefix characterName (path.label side ++ if tab then ['\t'] else []) =
      some (shown path) := by
  have isBlank : (if tab then ['\t'] else []).rdropWhile isSpace = [] := by
    cases tab <;> rfl
  unfold GitPath.label shown
  split
  · exact stripPrefix_quoteText isSide path.chars isBlank
  rw [List.append_assoc, stripPrefix_side isSide]
  cases tab
  · simp
  · exact congrArg some (List.rdropWhile_concat_pos isSpace _ '\t' rfl)

/-- **The old or the new file, as its line is read.** -/
theorem stripPrefix_fileLabel (isSide : IsSide side) (path : Option GitPath) :
    stripPrefix characterName (fileLabel path side) = path.map shown := by
  cases path with
  | none =>
    have stripped : strip "/dev/null".toList = "/dev/null".toList := by
      have split := strip_append "/dev/null".toList [] '/' 'l' rfl rfl rfl rfl
      simpa using split
    have plain : unquote characterName "/dev/null".toList = "/dev/null".toList :=
      unquote_of_head (by simp)
    unfold fileLabel sideLabel stripPrefix
    simp only [Option.any_none, Bool.false_eq_true, ↓reduceIte, List.append_nil, stripped, plain,
      Option.map_none]
  | some path => exact stripPrefix_label isSide path (decide (' ' ∈ path.chars))

/-- **The files of a rename, as their lines are read.** -/
theorem unquote_label (path : GitPath) : unquote characterName (path.label []) = path.chars := by
  unfold GitPath.label
  split
  · exact unquote_quoteText _
  rename_i notQuoted
  apply unquote_of_head
  intro isQuote
  have inside : '"' ∈ path.chars := List.mem_of_mem_head? isQuote
  have quoted : path.quoted = true := List.any_eq_true.2 ⟨'"', inside, rfl⟩
  exact notQuoted quoted

/-! ## The header -/

theorem readQuoted_quoteByte (byte : UInt8) (rest : Text) :
    readQuoted (quoteByte byte ++ rest) =
      (readQuoted rest).map fun (word, rest) => (quoteByte byte ++ word, rest) := by
  have digits_read : ∀ digits : Text, (∀ d ∈ digits, 48 ≤ d.toNat ∧ d.toNat < 56) →
      readQuoted (digits ++ rest) =
        (readQuoted rest).map fun (word, rest) => (digits ++ word, rest) := by
    intro digits isDigit
    induction digits with
    | nil => simp
    | cons d digits ih =>
      have bounds := isDigit d List.mem_cons_self
      have later := ih fun c inside => isDigit c (List.mem_cons_of_mem d inside)
      have notQuote : d ≠ '"' := by
        rintro rfl
        simp at bounds
      have notSlash : d ≠ '\\' := by
        rintro rfl
        simp at bounds
      rw [List.cons_append, readQuoted, later, Option.map_map]
      · rfl
      · exact notQuote
      · exact fun c rest isSlash _ => notSlash isSlash
      · exact fun isSlash _ => notSlash isSlash
  rcases quoteByte_cases byte with ⟨c, printed, notQuote, notSlash, -⟩ |
      ⟨c, digits, printed, -, -, isDigit⟩
  · rw [printed, List.singleton_append, readQuoted]
    · rfl
    · exact notQuote
    · exact fun c rest isSlash _ => notSlash isSlash
    · exact fun isSlash _ => notSlash isSlash
  rw [printed, List.cons_append, List.cons_append, readQuoted, digits_read digits isDigit,
    Option.map_map]
  rfl

theorem readQuoted_bytes (bytes : List UInt8) (rest : Text) :
    readQuoted (bytes.flatMap quoteByte ++ '"' :: rest) =
      some (bytes.flatMap quoteByte ++ ['"'], rest) := by
  induction bytes with
  | nil => rfl
  | cons byte bytes ih =>
    rw [List.flatMap_cons, List.append_assoc, readQuoted_quoteByte, ih, Option.map_some,
      List.append_assoc]

theorem quotedWord_quoteText (text rest : Text) :
    quotedWord (quoteText text ++ rest) = some (quoteText text, rest) := by
  unfold quoteText
  rw [List.cons_append, List.append_assoc, List.singleton_append]
  simp only [quotedWord, readQuoted_bytes, Option.map_some]

/-- Two words in quotes. -/
theorem openFile_quoteText (first second : Text) :
    openFile characterName (quoteText first ++ ' ' :: quoteText second) =
      { oldPath := stripPrefix characterName (quoteText first)
        newPath := stripPrefix characterName (quoteText second) } := by
  have isWord_second : isWord (quoteText second) = true := by
    have word := quotedWord_quoteText second []
    rw [List.append_nil] at word
    simp [isWord, word]
  have words : headerWords (quoteText first ++ ' ' :: quoteText second) =
      some (quoteText first, quoteText second) := by
    simp [headerWords, quotedWord_quoteText, secondWord, isWord_second]
  have hasQuote : (quoteText first ++ ' ' :: quoteText second).contains '"' = true := by
    simp [quoteText]
  simp only [openFile, words, hasQuote]

/-- A path that the line of its file shows as it is. -/
def PlainEnd (path : GitPath) : Prop := path.quoted ∨ path.chars.getLast? ≠ some ' '

/-- A path that its header shows as it is. -/
def PlainName (path : GitPath) : Prop :=
  path.quoted ∨ (path.chars.getLast? ≠ some ' ' ∧ ¬ " b/".toList <:+: path.chars)

variable {path : GitPath}

theorem space_of_bare (bare : path.quoted = false)
    (inside : c ∈ path.chars) : isSpace c = true ↔ c = ' ' := by
  have printed := List.any_eq_false.1 bare c inside
  simp only [needsQuote, Bool.or_eq_true, decide_eq_true_eq, not_or, not_lt, not_le] at printed
  constructor
  · intro blank
    simp only [isSpace, Bool.or_eq_true, Bool.and_eq_true, decide_eq_true_eq, beq_iff_eq] at blank
    have code : c.toNat = 32 := by omega
    exact Char.toNat_inj.1 code
  · rintro rfl
    rfl

theorem noQuote_of_bare (bare : path.quoted = false) : '"' ∉ path.chars := by
  intro inside
  have printed := List.any_eq_false.1 bare '"' inside
  exact printed rfl

/-- A path without quotes ends in ink, or in a blank that is removed. -/
theorem rdropWhile_bare (bare : path.quoted = false) :
    path.chars.rdropWhile isSpace = path.chars ↔ path.chars.getLast? ≠ some ' ' := by
  rw [List.rdropWhile_eq_self_iff]
  constructor
  · intro ink isLast
    apply ink path.nonempty
    have last_eq := List.getLast?_eq_some_getLast path.nonempty
    rw [isLast, Option.some.injEq] at last_eq
    rw [← last_eq]
    rfl
  · intro ink nonempty blank
    have isSpace_eq := (space_of_bare bare (List.getLast_mem nonempty)).1 blank
    rw [List.getLast?_eq_some_getLast nonempty, isSpace_eq] at ink
    exact ink rfl

/-- **A path is shown as it is** unless it ends in a blank. -/
theorem shown_eq : shown path = path.chars ↔ PlainEnd path := by
  unfold shown PlainEnd
  cases bare : path.quoted with
  | true => simp
  | false => simpa using rdropWhile_bare bare

theorem openFile_bare {names : Text} (noQuote : '"' ∉ names) :
    openFile characterName names =
      match cut " b/".toList names with
      | some (first, second) =>
        { oldPath := stripPrefix characterName first
          newPath := stripPrefix characterName ("b/".toList ++ second) }
      | none => { oldPath := stripPrefix characterName names } := by
  have absent : names.contains '"' = false := by simpa using noQuote
  unfold openFile
  rw [absent]
  cases headerWords names <;> rfl

/-- The first ` b/` of a header is the one between its names, unless the path has one. -/
theorem cut_names {path : Text} (absent : ¬ " b/".toList <:+: path) (rest : Text) :
    cut " b/".toList ("a/".toList ++ path ++ (" b/".toList ++ rest)) =
      some ("a/".toList ++ path, rest) := by
  apply cut_append rest (by simp)
  intro start nonempty isSuffix
  apply Option.eq_none_iff_forall_ne_some.2
  intro later found
  have same := after_eq_some.1 found
  have isSuffix : start <:+ 'a' :: '/' :: path := isSuffix
  rw [List.suffix_cons_iff, List.suffix_cons_iff] at isSuffix
  rcases isSuffix with rfl | rfl | isSuffix
  · simp at same
  · simp at same
  · apply absent
    match start, nonempty, same, isSuffix with
    | [_], _, same, _ => simp at same
    | [_, _], _, same, _ => simp at same
    | c :: d :: e :: start, _, same, isSuffix =>
      have chars : c = ' ' ∧ d = 'b' ∧ e = '/' := by
        simp at same
        tauto
      obtain ⟨rfl, rfl, rfl⟩ := chars
      exact (List.prefix_append [' ', 'b', '/'] start).isInfix.trans isSuffix.isInfix

/-- **The header of a file that keeps its path**, read as it is. -/
theorem openFile_same (plain : PlainName path) :
    openFile characterName (path.label "a/".toList ++ ' ' :: path.label "b/".toList) =
      { oldPath := some path.chars, newPath := some path.chars } := by
  cases bare : path.quoted with
  | true =>
    have first := @stripPrefix_label characterName _ (.inl rfl) path false
    have second := @stripPrefix_label characterName _ (.inr rfl) path false
    simp only [GitPath.label, shown, bare, Bool.false_eq_true, ↓reduceIte, List.append_nil] at *
    rw [openFile_quoteText, first, second]
  | false =>
    unfold PlainName at plain
    rw [bare] at plain
    simp only [Bool.false_eq_true, false_or] at plain
    have ends := (rdropWhile_bare bare).2 plain.1
    have noQuote := noQuote_of_bare bare
    have found := cut_names plain.2 path.chars
    have first := @stripPrefix_side characterName _ (.inl rfl) path.chars
    have second := @stripPrefix_side characterName _ (.inr rfl) path.chars
    simp only [GitPath.label, bare, Bool.false_eq_true, ↓reduceIte]
    change openFile characterName ("a/".toList ++ path.chars ++ (" b/".toList ++ path.chars)) = _
    rw [openFile_bare (by simpa using noQuote), found]
    simp only [first, second, ends]

theorem stripPrefix_length {value path : Text} (noQuote : '"' ∉ value)
    (read : stripPrefix characterName value = some path) : path.length ≤ value.length := by
  have shorter := strip_length_le value
  have bare : unquote characterName (strip value) = strip value := by
    apply unquote_of_head
    intro isQuote
    have inside : '"' ∈ strip value := List.mem_of_mem_head? isQuote
    exact noQuote ((List.dropWhile_sublist _).subset ((List.rdropWhile_prefix _ _).subset inside))
  simp only [stripPrefix, bare] at read
  split at read
  · cases read
  rw [Option.some.injEq] at read
  cases first : after "a/".toList (strip value) with
  | some rest =>
    have same := after_eq_some.1 first
    rw [first] at read
    obtain rfl : rest = path := read
    rw [same, List.length_append] at shorter
    omega
  | none =>
    cases second : after "b/".toList (strip value) with
    | some rest =>
      have same := after_eq_some.1 second
      rw [first, second] at read
      obtain rfl : rest = path := read
      rw [same, List.length_append] at shorter
      omega
    | none =>
      rw [first, second] at read
      obtain rfl : strip value = path := read
      exact shorter

/-- A path with ` b/` in it is cut there, so neither name of its header is read as it is. -/
theorem openFile_cut (bare : path.quoted = false) (occurs : " b/".toList <:+: path.chars) :
    let file := openFile characterName (path.label "a/".toList ++ ' ' :: path.label "b/".toList)
    file.oldPath ≠ some path.chars ∧ file.newPath ≠ some path.chars := by
  have noQuote := noQuote_of_bare bare
  obtain ⟨before, behind, path_eq⟩ := occurs
  have length_eq := congrArg List.length path_eq
  simp only [List.length_append] at length_eq
  have three : " b/".toList.length = 3 := rfl
  obtain ⟨first, later, found, short⟩ := cut_occurs " b/".toList ("a/".toList ++ before)
    (behind ++ (" b/".toList ++ path.chars)) (by simp)
  have names_eq : "a/".toList ++ before ++ (" b/".toList ++ (behind ++
      (" b/".toList ++ path.chars))) =
      "a/".toList ++ path.chars ++ (" b/".toList ++ path.chars) := by
    rw [← path_eq]
    simp only [List.append_assoc]
  rw [names_eq] at found
  have two : ("a/".toList ++ before).length = 2 + before.length := by
    rw [List.length_append]
    rfl
  have split := cut_eq_some found
  have opened : openFile characterName (path.label "a/".toList ++ ' ' :: path.label "b/".toList) =
      { oldPath := stripPrefix characterName first
        newPath := stripPrefix characterName ("b/".toList ++ later) } := by
    simp only [GitPath.label, bare, Bool.false_eq_true, ↓reduceIte]
    change openFile characterName ("a/".toList ++ path.chars ++ (" b/".toList ++ path.chars)) = _
    rw [openFile_bare (by simpa using noQuote), found]
  have longer : path.chars.length < later.length := by
    have total := congrArg List.length split
    simp only [List.length_append] at total
    have side : "a/".toList.length = 2 := rfl
    omega
  rw [opened]
  constructor
  · intro read
    have noQuoteFirst : '"' ∉ first := by
      intro inside
      have inNames : '"' ∈ "a/".toList ++ path.chars ++ (" b/".toList ++ path.chars) := by
        rw [split]
        exact List.mem_append_left _ inside
      have absent : '"' ∉ "a/".toList ++ path.chars ++ (" b/".toList ++ path.chars) := by
        simpa using noQuote
      exact absent inNames
    have bound := stripPrefix_length noQuoteFirst read
    omega
  · intro read
    rw [stripPrefix_side (.inr rfl), Option.some.injEq] at read
    have isSuffix : path.chars <:+ later := by
      have inNames : path.chars <:+ "a/".toList ++ path.chars ++ (" b/".toList ++ path.chars) :=
        (List.suffix_append _ _).trans (List.suffix_append _ _)
      have laterInNames : later <:+ "a/".toList ++ path.chars ++ (" b/".toList ++ path.chars) := by
        rw [split]
        exact (List.suffix_append _ _).trans (List.suffix_append _ _)
      exact List.suffix_of_suffix_length_le inNames laterInNames (by omega)
    obtain ⟨start, later_eq⟩ := isSuffix
    have ink : later.rdropWhile isSpace = later := by
      rw [List.rdropWhile_eq_self_iff]
      intro nonempty blank
      have last_eq : later.getLast nonempty = path.chars.getLast path.nonempty := by
        simp only [← later_eq]
        exact List.getLast_append_of_ne_nil _ path.nonempty
      have inkPath := List.rdropWhile_last_not isSpace later (by
        rw [read]
        exact path.nonempty)
      simp only [read] at inkPath
      rw [last_eq] at blank
      exact inkPath blank
    rw [ink] at read
    rw [read] at longer
    omega

/-- **A name of a header is read as it is only if the path is plain.** -/
theorem plainName_of_openFile {path : GitPath} (read : (openFile characterName
        (path.label "a/".toList ++ ' ' :: path.label "b/".toList)).oldPath = some path.chars ∨
      (openFile characterName
        (path.label "a/".toList ++ ' ' :: path.label "b/".toList)).newPath = some path.chars) :
    PlainName path := by
  unfold PlainName
  cases bare : path.quoted with
  | true => exact .inl rfl
  | false =>
    right
    have notCut : ¬ " b/".toList <:+: path.chars := by
      intro occurs
      have cut := @openFile_cut characterName path bare occurs
      exact read.elim cut.1 cut.2
    refine ⟨?_, notCut⟩
    have noQuote := noQuote_of_bare bare
    have found := cut_names notCut path.chars
    simp only [GitPath.label, bare, Bool.false_eq_true, ↓reduceIte] at read
    change (openFile characterName ("a/".toList ++ path.chars ++
        (" b/".toList ++ path.chars))).oldPath = _ ∨
      (openFile characterName ("a/".toList ++ path.chars ++
        (" b/".toList ++ path.chars))).newPath = _ at read
    rw [openFile_bare (by simpa using noQuote), found] at read
    simp only [stripPrefix_side (.inl rfl), stripPrefix_side (.inr rfl), Option.some.injEq,
      or_self] at read
    exact (rdropWhile_bare bare).1 read

end Fdai.Core.DiffGuard

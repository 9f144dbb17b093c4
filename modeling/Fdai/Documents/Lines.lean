import Mathlib.Data.List.Infix
import Mathlib.Data.List.TakeWhile
import Mathlib.Data.Nat.Digits.Defs
import Mathlib.Tactic.IntervalCases

/-!
# Texts, their lines and the numbers in them

A text is a list of characters.

* `splitlines` splits a text at every line break a terminal knows: the newline, but also the form
  feed, the vertical tab and the separators of Unicode, and a carriage return with or without a
  newline after it.
* `Unbroken` — a line without any of them, which `splitlines` gives back as it is; and
  `firstLine`, what it gives for a line that has one.
* `after` — the rest of a text behind a given beginning; `cut` — the two sides of the first
  occurrence of a separator.
* `decimal` writes a number and `readNumber` reads one.
-/

namespace Fdai.Lines

abbrev Text := List Char

/-! ## Lines -/

/-- The characters at which `splitlines` breaks. -/
def isLineBreak (c : Char) : Bool :=
  let n := c.toNat
  (10 ≤ n && n ≤ 13) || (28 ≤ n && n ≤ 30) || n == 0x85 || n == 0x2028 || n == 0x2029

def splitlines : Text → List Text
  | [] => []
  | '\r' :: '\n' :: rest => [] :: splitlines rest
  | c :: rest =>
    if isLineBreak c then [] :: splitlines rest
    else
      match splitlines rest with
      | [] => [[c]]
      | line :: lines => (c :: line) :: lines

/-- A text without a line break. -/
abbrev Unbroken (text : Text) : Prop := ∀ c ∈ text, isLineBreak c = false

-- The characters of the text are checked, not all characters.
instance (text : Text) : Decidable (Unbroken text) := List.decidableBAll _ text

/-- The text up to its first line break. -/
def firstLine (text : Text) : Text := text.takeWhile fun c => !isLineBreak c

variable {c : Char} {rest : Text}

theorem splitlines_break (isBreak : isLineBreak c = true)
    (single : c ≠ '\r' ∨ rest.head? ≠ some '\n') :
    splitlines (c :: rest) = [] :: splitlines rest := by
  rw [splitlines, if_pos isBreak]
  rintro tail rfl rfl
  simp at single

theorem splitlines_newline (rest : Text) : splitlines ('\n' :: rest) = [] :: splitlines rest :=
  splitlines_break rfl (.inl (by decide))

theorem splitlines_crlf (rest : Text) :
    splitlines ('\r' :: '\n' :: rest) = [] :: splitlines rest := by
  simp [splitlines]

variable {line : Text} {lines : List Text}

theorem splitlines_cons
    (unbroken : isLineBreak c = false) (split : splitlines rest = line :: lines) :
    splitlines (c :: rest) = (c :: line) :: lines := by
  have notReturn : c ≠ '\r' := by
    rintro rfl
    cases unbroken
  unfold splitlines
  split
  · simp_all
  · simp_all
  · simp_all

/-- **The line that begins a text** goes up to its first break. -/
theorem splitlines_firstLine (line rest : Text) :
    ∃ more, splitlines (line ++ '\n' :: rest) = firstLine line :: more := by
  induction line with
  | nil => exact ⟨_, splitlines_newline rest⟩
  | cons c line ih =>
    obtain ⟨more, split⟩ := ih
    by_cases isBreak : isLineBreak c
    · have first : firstLine (c :: line) = [] := by simp [firstLine, isBreak]
      rw [first, List.cons_append]
      by_cases single : c ≠ '\r' ∨ (line ++ '\n' :: rest).head? ≠ some '\n'
      · exact ⟨_, splitlines_break isBreak single⟩
      push Not at single
      obtain ⟨rfl, newline⟩ := single
      obtain ⟨tail, cons⟩ := List.head?_eq_some_iff.1 newline
      rw [cons]
      exact ⟨_, splitlines_crlf tail⟩
    · have first : firstLine (c :: line) = c :: firstLine line := by simp [firstLine, isBreak]
      rw [first]
      exact ⟨more, splitlines_cons (by simpa using isBreak) split⟩

theorem splitlines_append (unbroken : Unbroken line)
    (split : splitlines rest = [] :: lines) : splitlines (line ++ rest) = line :: lines := by
  induction line with
  | nil => exact split
  | cons c line ih =>
    have later : Unbroken line := fun d inside => unbroken d (List.mem_cons_of_mem c inside)
    exact splitlines_cons (unbroken c List.mem_cons_self) (ih later)

/-- **An unbroken line** is given back as it is. -/
theorem splitlines_unbroken (rest : Text) (unbroken : Unbroken line) :
    splitlines (line ++ '\n' :: rest) = line :: splitlines rest :=
  splitlines_append unbroken (splitlines_newline rest)

theorem firstLine_eq_self : firstLine line = line ↔ Unbroken line := by
  unfold firstLine Unbroken
  simp [List.takeWhile_eq_self_iff]

/-- A line that is unbroken, or ends in a carriage return and has no other break. -/
def UnbrokenButReturn (line : Text) : Prop :=
  Unbroken line ∨ ∃ before, Unbroken before ∧ line = before ++ ['\r']

/-- The line without a carriage return at its end. -/
def withoutReturn (line : Text) : Text :=
  if line.getLast? = some '\r' then line.dropLast else line

theorem splitlines_unbrokenButReturn (rest : Text) (unbroken : UnbrokenButReturn line) :
    splitlines (line ++ '\n' :: rest) = withoutReturn line :: splitlines rest := by
  rcases unbroken with unbroken | ⟨before, unbroken, rfl⟩
  · have notReturn : line.getLast? ≠ some '\r' := by
      intro isLast
      have isBreak := unbroken '\r' (List.mem_of_getLast? isLast)
      cases isBreak
    rw [withoutReturn, if_neg notReturn]
    exact splitlines_unbroken rest unbroken
  · rw [withoutReturn, if_pos (by simp), List.dropLast_concat, List.append_assoc]
    exact splitlines_append unbroken (splitlines_crlf rest)

/-- A line behind an unbroken beginning. -/
theorem UnbrokenButReturn.append (start : Text) (unbroken : Unbroken start)
    (rest : UnbrokenButReturn line) : UnbrokenButReturn (start ++ line) := by
  rcases rest with rest | ⟨before, rest, rfl⟩
  · left
    intro c inside
    exact (List.mem_append.1 inside).elim (unbroken c) (rest c)
  refine .inr ⟨start ++ before, ?_, (List.append_assoc _ _ _).symm⟩
  intro c inside
  exact (List.mem_append.1 inside).elim (unbroken c) (rest c)

theorem withoutReturn_eq_self (unbroken : Unbroken line) : withoutReturn line = line := by
  apply if_neg
  intro isLast
  have isBreak := unbroken '\r' (List.mem_of_getLast? isLast)
  cases isBreak

/-- A carriage return at the end is behind every unbroken beginning. -/
theorem withoutReturn_append (start line : Text) (unbroken : Unbroken start) :
    withoutReturn (start ++ line) = start ++ withoutReturn line := by
  cases line using List.reverseRecOn with
  | nil =>
    rw [List.append_nil, withoutReturn_eq_self unbroken]
    exact (List.append_nil start).symm
  | append_singleton line c =>
    by_cases isReturn : c = '\r'
    · rw [isReturn, ← List.append_assoc]
      simp [withoutReturn]
    · simp [withoutReturn, isReturn, List.getLast?_append]

/-- The text of lines, each ended by a newline. -/
def textOf (lines : List Text) : Text := lines.flatMap fun line => line ++ ['\n']

@[simp] theorem textOf_nil : textOf [] = [] := rfl

theorem textOf_cons (line : Text) (lines : List Text) :
    textOf (line :: lines) = line ++ '\n' :: textOf lines := by
  simp [textOf]

@[simp] theorem textOf_append (lines later : List Text) :
    textOf (lines ++ later) = textOf lines ++ textOf later := by
  simp [textOf]

/-- **Plain lines are given back**, up to carriage returns. -/
theorem splitlines_textOf (rest : Text) (unbroken : ∀ line ∈ lines, UnbrokenButReturn line) :
    splitlines (textOf lines ++ rest) = lines.map withoutReturn ++ splitlines rest := by
  induction lines with
  | nil => rfl
  | cons line lines ih =>
    have first := unbroken line List.mem_cons_self
    have later := ih fun other inside => unbroken other (List.mem_cons_of_mem line inside)
    rw [textOf_cons, List.append_assoc, List.cons_append, splitlines_unbrokenButReturn _ first,
      later, List.map_cons, List.cons_append]

/-- What follows a given beginning. -/
def after : Text → Text → Option Text
  | [], text => some text
  | _ :: _, [] => none
  | c :: expected, d :: text => if c = d then after expected text else none

@[simp] theorem after_append (expected text : Text) :
    after expected (expected ++ text) = some text := by
  induction expected with
  | nil => rfl
  | cons c expected ih => simp [after, ih]

theorem after_eq_some {expected text : Text} :
    after expected text = some rest ↔ text = expected ++ rest := by
  constructor
  · intro found
    induction expected generalizing text with
    | nil => simpa [after] using found
    | cons c expected ih =>
      rcases text with _ | ⟨d, text⟩
      · cases found
      simp only [after] at found
      split at found
      · rename_i same
        rw [ih found, same, List.cons_append]
      · cases found
  · rintro rfl
    exact after_append expected rest

/-- The two sides of the first occurrence of a separator. -/
def cut (separator : Text) : Text → Option (Text × Text)
  | [] => none
  | c :: text =>
    match after separator (c :: text) with
    | some rest => some ([], rest)
    | none => (cut separator text).map fun (before, rest) => (c :: before, rest)

/-- **A separator that does not begin earlier** is found. -/
theorem cut_append {separator before : Text} (rest : Text) (nonempty : separator ≠ [])
    (earlier : ∀ start, start ≠ [] → start <:+ before →
      after separator (start ++ (separator ++ rest)) = none) :
    cut separator (before ++ (separator ++ rest)) = some (before, rest) := by
  induction before with
  | nil =>
    obtain ⟨c, tail, cons⟩ := List.exists_cons_of_ne_nil nonempty
    have found := after_append separator rest
    rw [cons, List.cons_append] at found
    simp only [cons, List.nil_append, List.cons_append, cut, found]
  | cons c before ih =>
    have notHere := earlier (c :: before) (List.cons_ne_nil c before) List.suffix_rfl
    have later := ih fun start some_start isSuffix =>
      earlier start some_start (isSuffix.trans (List.suffix_cons c before))
    rw [List.cons_append] at notHere ⊢
    simp only [cut, notHere, later, Option.map_some]

theorem cut_eq_some {separator text before : Text}
    (found : cut separator text = some (before, rest)) :
    text = before ++ (separator ++ rest) := by
  induction text generalizing before with
  | nil => cases found
  | cons c text ih =>
    simp only [cut] at found
    split at found
    · rename_i tail here
      obtain ⟨rfl, rfl⟩ : [] = before ∧ tail = rest := by simpa using found
      rw [List.nil_append]
      exact after_eq_some.1 here
    obtain ⟨⟨earlier, later⟩, inside, same⟩ := Option.map_eq_some_iff.1 found
    obtain ⟨rfl, rfl⟩ : c :: earlier = before ∧ later = rest := by simpa using same
    rw [ih inside, List.cons_append]

theorem cut_occurs (separator before rest : Text) (nonempty : separator ≠ []) :
    ∃ first later, cut separator (before ++ (separator ++ rest)) = some (first, later) ∧
      first.length ≤ before.length := by
  induction before with
  | nil => exact ⟨[], rest, cut_append rest nonempty (by simp_all), Nat.le_refl _⟩
  | cons c before ih =>
    obtain ⟨first, later, found, short⟩ := ih
    rw [List.cons_append]
    unfold cut
    split
    · exact ⟨[], _, rfl, Nat.zero_le _⟩
    · refine ⟨c :: first, later, by rw [found]; rfl, ?_⟩
      simpa using short

/-- The zeros of the decimal digits of Unicode 15, each followed by the other nine digits. -/
def decimalZeros : List ℕ :=
  [0x30, 0x660, 0x6f0, 0x7c0, 0x966, 0x9e6, 0xa66, 0xae6, 0xb66, 0xbe6, 0xc66, 0xce6, 0xd66,
    0xde6, 0xe50, 0xed0, 0xf20, 0x1040, 0x1090, 0x17e0, 0x1810, 0x1946, 0x19d0, 0x1a80, 0x1a90,
    0x1b50, 0x1bb0, 0x1c40, 0x1c50, 0xa620, 0xa8d0, 0xa900, 0xa9d0, 0xa9f0, 0xaa50, 0xabf0, 0xff10,
    0x104a0, 0x10d30, 0x11066, 0x110f0, 0x11136, 0x111d0, 0x112f0, 0x11450, 0x114d0, 0x11650,
    0x116c0, 0x11730, 0x118e0, 0x11950, 0x11c50, 0x11d50, 0x11da0, 0x11f50, 0x16a60, 0x16ac0,
    0x16b50, 0x1d7ce, 0x1d7d8, 0x1d7e2, 0x1d7ec, 0x1d7f6, 0x1e140, 0x1e2f0, 0x1e4f0, 0x1e950,
    0x1fbf0]

def digitValue (c : Char) : Option ℕ :=
  (decimalZeros.find? fun first => first ≤ c.toNat && c.toNat < first + 10).map (c.toNat - ·)

/-- The digits that begin a text, read onto a number, and what follows them. -/
def readDigits : ℕ → Text → ℕ × Text
  | value, [] => (value, [])
  | value, c :: rest =>
    match digitValue c with
    | some digit => readDigits (10 * value + digit) rest
    | none => (value, c :: rest)

/-- The number that begins a text, and what follows it. -/
def readNumber : Text → Option (ℕ × Text)
  | [] => none
  | c :: rest => (digitValue c).map fun digit => readDigits digit rest

/-- A number in decimal. -/
@[irreducible]
def decimal (n : ℕ) : Text := if n = 0 then ['0'] else (Nat.digits 10 n).reverse.map Nat.digitChar

theorem digitValue_digitChar {digit : ℕ} (small : digit < 10) :
    digitValue (Nat.digitChar digit) = some digit := by
  interval_cases digit <;> decide

theorem readDigits_map {digits : List ℕ} (small : ∀ digit ∈ digits, digit < 10) (value : ℕ)
    (rest : Text) :
    readDigits value (digits.reverse.map Nat.digitChar ++ rest) =
      readDigits (value * 10 ^ digits.length + Nat.ofDigits 10 digits) rest := by
  induction digits generalizing rest with
  | nil => simp [Nat.ofDigits]
  | cons digit digits ih =>
    have later : ∀ digit ∈ digits, digit < 10 := fun d inside =>
      small d (List.mem_cons_of_mem digit inside)
    have read := digitValue_digitChar (small digit List.mem_cons_self)
    rw [List.reverse_cons, List.map_append, List.append_assoc, ih later]
    simp only [List.map_cons, List.map_nil, List.cons_append, List.nil_append, readDigits, read,
      List.length_cons, Nat.ofDigits_cons]
    congr 1
    ring

theorem readNumber_eq (text : Text) (isDigit : (digitValue c).isSome) :
    readNumber (c :: text) = some (readDigits 0 (c :: text)) := by
  obtain ⟨digit, read⟩ := Option.isSome_iff_exists.1 isDigit
  simp [readNumber, readDigits, read]

/-- **A number is read back**, up to what follows it. -/
theorem readNumber_decimal (n : ℕ) (rest : Text) (noDigit : digitValue c = none) :
    readNumber (decimal n ++ c :: rest) = some (n, c :: rest) := by
  unfold decimal
  split
  · rename_i isZero
    rw [isZero, List.singleton_append, readNumber_eq _ (by decide)]
    simp [readDigits, noDigit, show digitValue '0' = some 0 by decide]
  rename_i nonzero
  have small : ∀ digit ∈ Nat.digits 10 n, digit < 10 := fun digit inside =>
    Nat.digits_lt_base (by omega) inside
  have read := readDigits_map small 0 (c :: rest)
  rw [Nat.ofDigits_digits, zero_mul, zero_add] at read
  have stops : readDigits n (c :: rest) = (n, c :: rest) := by simp [readDigits, noDigit]
  rw [stops] at read
  have nonempty : (Nat.digits 10 n).reverse ≠ [] := by
    simpa [Nat.digits_ne_nil_iff_ne_zero] using nonzero
  obtain ⟨first, later, cons⟩ := List.exists_cons_of_ne_nil nonempty
  have firstSmall : first < 10 := small first (by
    rw [← List.mem_reverse, cons]
    exact List.mem_cons_self)
  rw [cons, List.map_cons, List.cons_append] at read ⊢
  rw [readNumber_eq _ (by simp [digitValue_digitChar firstSmall]), read]

theorem unbroken_decimal (n : ℕ) : Unbroken (decimal n) := by
  intro c inside
  have isDigit : ∃ digit < 10, c = Nat.digitChar digit := by
    unfold decimal at inside
    split at inside
    · exact ⟨0, by omega, List.mem_singleton.1 inside⟩
    · obtain ⟨digit, isIn, rfl⟩ := List.mem_map.1 inside
      exact ⟨digit, Nat.digits_lt_base (by omega) (List.mem_reverse.1 isIn), rfl⟩
  obtain ⟨digit, small, rfl⟩ := isDigit
  interval_cases digit <;> rfl

end Fdai.Lines

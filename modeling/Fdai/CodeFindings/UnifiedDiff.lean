import Fdai.Documents.Lines
import Fdai.Providers.Text

/-!
# Reading a unified diff

The diff guard reads the output of `git diff` line by line.

* `unquote` — a path as git quotes it.
* `Parser` — where the parser stands: the files read so far, and how many lines the current hunk
  still has on either side.
* `Parser.step` — one line; `parseUnifiedDiff` — a text.

A path that cannot be decoded is read as `unparseable`. The names of characters, for the escape
`\N`, are a parameter.
-/

namespace Fdai.Core.DiffGuard

open Fdai.Lines

/-- `_MAX_LINE`. -/
@[irreducible] def maxLine : ℕ := 10000

def unparseable : Text := "\u0000unparseable".toList

/-- The changes of one file. -/
structure FileDiff where
  oldPath : Option Text := none
  newPath : Option Text := none
  binary : Bool := false
  added : List (ℕ × Text) := []
  removed : List Text := []

/-- `FileDiff.path`: an empty path counts as none. -/
def FileDiff.path (file : FileDiff) : Text :=
  match file.newPath, file.oldPath with
  | some (c :: path), _ => c :: path
  | _, some path => path
  | _, none => []

/-! ## Quoted paths -/

/-- The digits of a number below `16 ^ size` in hexadecimal. -/
def hexadecimal (n : ℕ) : ℕ → Text
  | 0 => []
  | size + 1 => hexadecimal (n / 16) size ++ [Nat.digitChar (n % 16)]

/-- `encode("latin-1", "backslashreplace")`, a byte as the character of its code. -/
def encodeLatin (text : Text) : Text :=
  text.flatMap fun c =>
    if c.toNat < 0x100 then [c]
    else if c.toNat < 0x10000 then '\\' :: 'u' :: hexadecimal c.toNat 4
    else '\\' :: 'U' :: hexadecimal c.toNat 8

/-- The value of a digit, in a base of at most 16. -/
def digitIn (base : ℕ) (c : Char) : Option ℕ :=
  let n := c.toNat
  let value := if 48 ≤ n ∧ n ≤ 57 then some (n - 48)
    else if 65 ≤ n ∧ n ≤ 70 then some (n - 55)
    else if 97 ≤ n ∧ n ≤ 102 then some (n - 87)
    else none
  value.filter (· < base)

/-- So many hexadecimal digits, and what follows them. -/
def readHex : ℕ → ℕ → Text → Option (ℕ × Text)
  | 0, value, rest => some (value, rest)
  | _ + 1, _, [] => none
  | size + 1, value, c :: rest => do
    let digit ← digitIn 16 c
    readHex size (16 * value + digit) rest

/-- At most so many octal digits, and what follows them. -/
def readOctal : ℕ → ℕ → Text → ℕ × Text
  | 0, value, rest => (value, rest)
  | _ + 1, value, [] => (value, [])
  | size + 1, value, c :: rest =>
    match digitIn 8 c with
    | some digit => readOctal size (8 * value + digit) rest
    | none => (value, c :: rest)

def letterEscape : Char → Option ℕ
  | '\\' => some 0x5c
  | '\'' => some 0x27
  | '"' => some 0x22
  | 'b' => some 8
  | 'f' => some 12
  | 't' => some 9
  | 'n' => some 10
  | 'r' => some 13
  | 'v' => some 11
  | 'a' => some 7
  | _ => none

section Escapes

variable (characterName : Text → Option ℕ)

/-- What follows a backslash, as the code points it stands for, and the rest. -/
def readEscape : Text → Option (List ℕ × Text)
  | [] => none
  | '\n' :: rest => some ([], rest)
  | 'x' :: rest => (readHex 2 0 rest).map fun (value, rest) => ([value], rest)
  | 'u' :: rest => (readHex 4 0 rest).map fun (value, rest) => ([value], rest)
  | 'U' :: rest => do
    let (value, rest) ← readHex 8 0 rest
    if 0x10ffff < value then none else some ([value], rest)
  | 'N' :: rest => do
    let rest ← after ['{'] rest
    let (name, rest) ← cut ['}'] rest
    let value ← characterName name
    some ([value], rest)
  | c :: rest =>
    match letterEscape c with
    | some value => some ([value], rest)
    | none =>
      if (digitIn 8 c).isSome then
        let (value, rest) := readOctal 3 0 (c :: rest)
        some ([value], rest)
      else some ([0x5c, c.toNat], rest)

/-- `decode("unicode_escape")`, as code points. -/
def decodeEscapes : ℕ → Text → Option (List ℕ)
  | _, [] => some []
  | 0, _ :: _ => none
  | fuel + 1, '\\' :: text => do
    let (points, rest) ← readEscape characterName text
    let later ← decodeEscapes fuel rest
    some (points ++ later)
  | fuel + 1, c :: text => do
    let later ← decodeEscapes fuel text
    some (c.toNat :: later)

/-- `encode("latin-1")` and `decode("utf-8")`. -/
def decodeUtf8 (points : List ℕ) : Option Text :=
  if points.all (· < 0x100) then
    ((points.map UInt8.ofNat).toByteArray.utf8Decode?).map Array.toList
  else none

def unquote (value : Text) : Text :=
  match value with
  | '"' :: c :: rest =>
    if (c :: rest).getLast? = some '"' then
      let inner := encodeLatin (c :: rest).dropLast
      ((decodeEscapes characterName inner.length inner).bind decodeUtf8).getD unparseable
    else value
  | _ => value

def strip (value : Text) : Text := (value.dropWhile isSpace).rdropWhile isSpace

def stripPrefix (value : Text) : Option Text :=
  let path := unquote characterName (strip value)
  if path = "/dev/null".toList then none
  else some (((after "a/".toList path).or (after "b/".toList path)).getD path)

/-- What is left of a quoted word behind its opening quote: the rest of the word, and the rest of
the line. -/
def readQuoted : Text → Option (Text × Text)
  | [] => none
  | '"' :: rest => some (['"'], rest)
  | '\\' :: c :: rest => (readQuoted rest).map fun (word, rest) => ('\\' :: c :: word, rest)
  | '\\' :: [] => none
  | c :: rest => (readQuoted rest).map fun (word, rest) => (c :: word, rest)

/-- A word that begins with a quote, and the rest of the line. -/
def quotedWord : Text → Option (Text × Text)
  | '"' :: rest => (readQuoted rest).map fun (word, rest) => ('"' :: word, rest)
  | _ => none

/-- A text that is one word, quoted or without blanks. -/
def isWord (text : Text) : Bool :=
  (match quotedWord text with
    | some (_, []) => true
    | _ => false) || (!text.isEmpty && text.all fun c => !isSpace c)

/-- The second word of a header, behind the first. -/
def secondWord (first : Text) : Text → Option (Text × Text)
  | ' ' :: second => if isWord second then some (first, second) else none
  | _ => none

/-- `_HEADER`, behind `diff --git `: the two words of a header. -/
def headerWords (names : Text) : Option (Text × Text) :=
  ((quotedWord names).bind fun (first, rest) => secondWord first rest).or <|
    let first := names.takeWhile fun c => !isSpace c
    if first.isEmpty then none else secondWord first (names.drop first.length)

def openFile (names : Text) : FileDiff :=
  match headerWords names, names.contains '"' with
  | some (first, second), true =>
    { oldPath := stripPrefix characterName first, newPath := stripPrefix characterName second }
  | _, _ =>
    match cut " b/".toList names with
    | some (first, second) =>
      { oldPath := stripPrefix characterName first
        newPath := stripPrefix characterName ("b/".toList ++ second) }
    | none => { oldPath := stripPrefix characterName names }

/-- The lines between the header of a file and its hunks: the file they leave, if they are any. -/
def FileDiff.readExtended (file : FileDiff) (line : Text) : Option FileDiff :=
  if let some value := after "--- ".toList line then
    some { file with oldPath := stripPrefix characterName value }
  else if let some value := after "+++ ".toList line then
    some { file with newPath := stripPrefix characterName value }
  else if (after "deleted file mode".toList line).isSome then some { file with newPath := none }
  else if (after "new file mode".toList line).isSome then some { file with oldPath := none }
  else if let some value := after "rename from ".toList line then
    some { file with oldPath := some (unquote characterName value) }
  else if let some value := after "rename to ".toList line then
    some { file with newPath := some (unquote characterName value) }
  else if (after "Binary files".toList line).isSome || (after "GIT binary patch".toList line).isSome
    then some { file with binary := true }
  else none

end Escapes

structure HunkHeader where
  oldCount : ℕ
  newStart : ℕ
  newCount : ℕ

/-- `\d+(?:,(\d+))?`: a start, a count that may be left out, and what follows them. -/
def readSpan (text : Text) : Option (ℕ × Option ℕ × Text) := do
  let (start, rest) ← readNumber text
  match rest with
  | ',' :: rest => (readNumber rest).map fun (count, rest) => (start, some count, rest)
  | _ => some (start, none, rest)

/-- `_HUNK`. -/
def hunkHeader (line : Text) : Option HunkHeader := do
  let rest ← after "@@ -".toList line
  let (_, oldCount, rest) ← readSpan rest
  let rest ← after " +".toList rest
  let (newStart, newCount, rest) ← readSpan rest
  let _ ← after " @@".toList rest
  some ⟨oldCount.getD 1, newStart, newCount.getD 1⟩

/-- Where the parser stands. -/
structure Parser where
  /-- The files before the current one. -/
  files : List FileDiff := []
  current : Option FileDiff := none
  oldLeft : ℤ := 0
  newLeft : ℤ := 0
  newLine : ℕ := 0

namespace Parser

/-- All the files read so far. -/
def result (s : Parser) : List FileDiff := s.files ++ s.current.toList

/-- Whether the current hunk has lines left. -/
def inHunk (s : Parser) : Bool := 0 < s.oldLeft || 0 < s.newLeft

/-- One line of a hunk. -/
def readBody (s : Parser) (line : Text) : Parser :=
  match s.current, line with
  | _, '\\' :: _ => s
  | some file, '+' :: body =>
    { s with
      current := some { file with added := file.added ++ [(s.newLine, body.take maxLine)] }
      newLine := s.newLine + 1
      newLeft := s.newLeft - 1 }
  | some file, '-' :: body =>
    { s with
      current := some { file with removed := file.removed ++ [body.take maxLine] }
      oldLeft := s.oldLeft - 1 }
  | _, _ =>
    { s with
      newLine := s.newLine + 1
      oldLeft := s.oldLeft - 1
      newLeft := s.newLeft - 1 }

/-- The line that begins a hunk. -/
def readHunkHeader (s : Parser) (line : Text) : Parser :=
  match hunkHeader line with
  | some ⟨oldCount, newStart, newCount⟩ =>
    { s with oldLeft := oldCount, newLine := newStart, newLeft := newCount }
  | none => s

variable (characterName : Text → Option ℕ)

/-- One line outside of the hunks. -/
def readHeader (s : Parser) (line : Text) : Parser :=
  match after "diff --git ".toList line with
  | some names => { s with files := s.result, current := some (openFile characterName names) }
  | none =>
    match s.current with
    | none => s
    | some file =>
      match file.readExtended characterName line with
      | some file => { s with current := some file }
      | none => s.readHunkHeader line

def step (s : Parser) (line : Text) : Parser :=
  if s.inHunk then s.readBody line else s.readHeader characterName line

end Parser

def parseUnifiedDiff (characterName : Text → Option ℕ) (text : Text) : List FileDiff :=
  ((splitlines text).foldl (Parser.step characterName) {}).result

end Fdai.Core.DiffGuard

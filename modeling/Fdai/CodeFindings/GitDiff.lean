import Fdai.Documents.Lines

/-!
# The text of a diff

What `git diff` prints for a list of file changes, in its default format.

* `GitPath` — a path; one with a quote, a backslash, a control character or a character outside of
  ASCII is printed in quotes, its bytes in UTF-8.
* `Hunk` — the changed lines of a part of a file. The text of a line is any text.
* `FileChange` — a file that is created, deleted, changed, moved or renamed, and its hunks.
-/

namespace Fdai.Core.GitDiff

open Fdai.Lines

@[ext]
structure GitPath where
  chars : Text
  nonempty : chars ≠ []
  noNul : '\u0000' ∉ chars

/-- A character that puts a path in quotes. -/
def needsQuote (c : Char) : Bool := c.toNat < 0x20 || c = '"' || c = '\\' || 0x7f ≤ c.toNat

/-- A byte in three octal digits. -/
def octal (n : ℕ) : Text :=
  [Nat.digitChar (n / 64), Nat.digitChar (n / 8 % 8), Nat.digitChar (n % 8)]

/-- A byte of a quoted path. -/
def quoteByte (byte : UInt8) : Text :=
  match byte.toNat with
  | 7 => ['\\', 'a']
  | 8 => ['\\', 'b']
  | 9 => ['\\', 't']
  | 10 => ['\\', 'n']
  | 11 => ['\\', 'v']
  | 12 => ['\\', 'f']
  | 13 => ['\\', 'r']
  | 34 => ['\\', '"']
  | 92 => ['\\', '\\']
  | n => if n < 0x20 ∨ 0x7f ≤ n then '\\' :: octal n else [Char.ofNat n]

def quoteText (text : Text) : Text :=
  '"' :: ((text.flatMap String.utf8EncodeChar).flatMap quoteByte ++ ['"'])

/-- Whether a path is printed in quotes. -/
def GitPath.quoted (path : GitPath) : Bool := path.chars.any needsQuote

/-- A path behind the letter of its side. -/
def GitPath.label (path : GitPath) (side : Text) : Text :=
  if path.quoted then quoteText (side ++ path.chars) else side ++ path.chars

/-- The old or the new file. -/
def sideLabel (path : Option GitPath) (side : Text) : Text :=
  match path with
  | none => "/dev/null".toList
  | some path => path.label side

/-- A file on the line that names it: a tab ends a path with blanks. -/
def fileLabel (path : Option GitPath) (side : Text) : Text :=
  sideLabel path side ++ if path.any (' ' ∈ ·.chars) then ['\t'] else []

inductive HunkLine where
  | context (text : Text)
  | removed (text : Text)
  | added (text : Text)
  /-- The line before this one ends its file without a newline. -/
  | noNewline
  deriving DecidableEq

namespace HunkLine

/-- The printed line. -/
def line : HunkLine → Text
  | context text => ' ' :: text
  | removed text => '-' :: text
  | added text => '+' :: text
  | noNewline => "\\ No newline at end of file".toList

/-- How many lines of the old file it is. -/
def inOld : HunkLine → ℕ
  | context _ | removed _ => 1
  | added _ | noNewline => 0

/-- How many lines of the new file it is. -/
def inNew : HunkLine → ℕ
  | context _ | added _ => 1
  | removed _ | noNewline => 0

end HunkLine

/-- The lines of the old file. -/
def oldCount (lines : List HunkLine) : ℕ := (lines.map HunkLine.inOld).sum

/-- The lines of the new file. -/
def newCount (lines : List HunkLine) : ℕ := (lines.map HunkLine.inNew).sum

/-- The added lines, the next line of the new file having the given number. -/
def addedFrom (number : ℕ) : List HunkLine → List (ℕ × Text)
  | [] => []
  | .context _ :: lines => addedFrom (number + 1) lines
  | .removed _ :: lines => addedFrom number lines
  | .added text :: lines => (number, text) :: addedFrom (number + 1) lines
  | .noNewline :: lines => addedFrom number lines

def removedFrom : List HunkLine → List Text
  | [] => []
  | .removed text :: lines => text :: removedFrom lines
  | _ :: lines => removedFrom lines

/-- A part of a file with its changes. -/
structure Hunk where
  oldStart : ℕ
  newStart : ℕ
  /-- What follows the numbers: the text of a line above. -/
  heading : Text
  lines : List HunkLine
  deriving DecidableEq

/-- A start and a count, left out when it is one. -/
def span (start count : ℕ) : Text :=
  decimal start ++ if count = 1 then [] else ',' :: decimal count

namespace Hunk

def numbers (hunk : Hunk) : Text :=
  "@@ -".toList ++ (span hunk.oldStart (oldCount hunk.lines) ++ (" +".toList ++
    (span hunk.newStart (newCount hunk.lines) ++ " @@".toList)))

/-- The lines of a hunk. -/
def text (hunk : Hunk) : List Text :=
  (hunk.numbers ++ hunk.heading) :: hunk.lines.map HunkLine.line

end Hunk

/-! ## Changes -/

/-- The paths a change touches. -/
inductive Touched where
  | created (mode : ℕ) (path : GitPath)
  | deleted (mode : ℕ) (path : GitPath)
  /-- The paths differ if the file is renamed. -/
  | kept (oldPath newPath : GitPath)

namespace Touched

def oldPath : Touched → Option GitPath
  | created _ _ => none
  | deleted _ path => some path
  | kept oldPath _ => some oldPath

def newPath : Touched → Option GitPath
  | created _ path => some path
  | deleted _ _ => none
  | kept _ newPath => some newPath

/-- The paths on the header. -/
def names : Touched → GitPath × GitPath
  | created _ path => (path, path)
  | deleted _ path => (path, path)
  | kept oldPath newPath => (oldPath, newPath)

def modeLine : Touched → List Text
  | created mode _ => ["new file mode ".toList ++ decimal mode]
  | deleted mode _ => ["deleted file mode ".toList ++ decimal mode]
  | kept _ _ => []

/-- Whether the file is renamed. -/
def renamed : Touched → Bool
  | kept oldPath newPath => oldPath.chars ≠ newPath.chars
  | _ => false

/-- The lines that say that a file is renamed. -/
def renameLines : Touched → List Text
  | kept oldPath newPath =>
    if oldPath.chars ≠ newPath.chars then
      ["rename from ".toList ++ oldPath.label [], "rename to ".toList ++ newPath.label []]
    else []
  | _ => []

end Touched

/-- A line about a change that names no path. -/
inductive Note where
  | oldMode (mode : ℕ)
  | newMode (mode : ℕ)
  | similarity (percent : ℕ)
  | dissimilarity (percent : ℕ)
  /-- The names of the contents, in hexadecimal digits. -/
  | index (oldObject newObject : List (Fin 16)) (mode : Option ℕ)

/-- The name of a content. -/
def objectName (digits : List (Fin 16)) : Text := digits.map fun (digit : Fin 16) => Nat.digitChar digit.val

/-- The printed line. -/
def Note.line : Note → Text
  | oldMode mode => "old mode ".toList ++ decimal mode
  | newMode mode => "new mode ".toList ++ decimal mode
  | similarity percent => "similarity index ".toList ++ (decimal percent ++ ['%'])
  | dissimilarity percent => "dissimilarity index ".toList ++ (decimal percent ++ ['%'])
  | index oldObject newObject mode =>
    "index ".toList ++ (objectName oldObject ++ ("..".toList ++ (objectName newObject ++
      (mode.map fun mode => ' ' :: decimal mode).getD [])))

/-- What changes in a file. -/
inductive Content where
  | binary
  /-- No hunk if only the mode or the name changes, or an empty file is created or deleted. -/
  | patch (hunks : List Hunk)
  deriving DecidableEq

def Content.hunkList : Content → List Hunk
  | binary => []
  | patch hunks => hunks

structure FileChange where
  touched : Touched
  /-- The lines before those of a renamed file, and the lines after them. -/
  notesBefore : List Note
  notesAfter : List Note
  content : Content

namespace FileChange

def header (change : FileChange) : Text :=
  let (oldPath, newPath) := change.touched.names
  "diff --git ".toList ++ (oldPath.label "a/".toList ++ ' ' :: newPath.label "b/".toList)

/-- The lines that name the old and the new file. -/
def fileLines (touched : Touched) : List Text :=
  ["--- ".toList ++ fileLabel touched.oldPath "a/".toList,
    "+++ ".toList ++ fileLabel touched.newPath "b/".toList]

def contentLines (change : FileChange) : List Text :=
  match change.content with
  | .binary => ["Binary files ".toList ++ (sideLabel change.touched.oldPath "a/".toList ++
      (" and ".toList ++ (sideLabel change.touched.newPath "b/".toList ++ " differ".toList)))]
  | .patch [] => []
  | .patch (_ :: _) => fileLines change.touched

/-- The lines between the header of a change and its hunks. -/
def extended (change : FileChange) : List Text :=
  change.touched.modeLine ++ change.notesBefore.map Note.line ++ change.touched.renameLines ++
    change.notesAfter.map Note.line ++ change.contentLines

def lines (change : FileChange) : List Text :=
  change.header :: change.extended ++ change.content.hunkList.flatMap Hunk.text

/-- The added lines, with their numbers. -/
def added (change : FileChange) : List (ℕ × Text) :=
  change.content.hunkList.flatMap fun hunk => addedFrom hunk.newStart hunk.lines

/-- The removed lines. -/
def removed (change : FileChange) : List Text :=
  change.content.hunkList.flatMap fun hunk => removedFrom hunk.lines

end FileChange

/-- **The text of a list of changes.** -/
def diffText (changes : List FileChange) : Text := textOf (changes.flatMap FileChange.lines)

end Fdai.Core.GitDiff

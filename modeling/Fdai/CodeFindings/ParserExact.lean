import Fdai.CodeFindings.DiffPaths

/-!
# What the parser reads

The parser stands before a hunk with the counts of its header, and every line of the hunk takes
from them what it is. So if no line of a change breaks in two, and none is cut, the parser reads
the change line by line, and is behind its last hunk when the next header begins.

* `HunkLine.ContextPlain`, `HunkLine.ChangePlain` — a line of a hunk that is read as it is.
* `recorded` — the file that is recorded for a change: its paths as its lines show them.
-/

namespace Fdai.Core.DiffGuard

open Fdai.Lines GitDiff

variable {characterName : Text → Option ℕ}

/-- A line of context that does not break in two. -/
def HunkLine.ContextPlain : HunkLine → Prop
  | .context text => UnbrokenButReturn text
  | _ => True

/-- A changed line that does not break, and is not cut. -/
def HunkLine.ChangePlain : HunkLine → Prop
  | .removed text | .added text => Unbroken text ∧ text.length ≤ maxLine
  | _ => True

/-- The text around the changed lines of a hunk does not break in two. -/
def Hunk.ContextPlain (hunk : Hunk) : Prop :=
  UnbrokenButReturn hunk.heading ∧ ∀ line ∈ hunk.lines, HunkLine.ContextPlain line

/-- The changed lines of a hunk are read as they are. -/
def Hunk.ChangePlain (hunk : Hunk) : Prop := ∀ line ∈ hunk.lines, HunkLine.ChangePlain line

/-- A line of a hunk, as it is split off. -/
def piece (line : HunkLine) : Text := withoutReturn line.line

theorem piece_context (text : Text) : piece (.context text) = ' ' :: withoutReturn text :=
  withoutReturn_append [' '] text (by decide)

variable {text : Text}

theorem unbroken_cons {c : Char} (first : isLineBreak c = false)
    (unbroken : Unbroken text) : Unbroken (c :: text) := by
  intro d inside
  rcases List.mem_cons.1 inside with rfl | inside
  · exact first
  · exact unbroken d inside

theorem unbroken_append {start : Text} (first : Unbroken start) (unbroken : Unbroken text) :
    Unbroken (start ++ text) := by
  intro c inside
  exact (List.mem_append.1 inside).elim (first c) (unbroken c)

theorem piece_added (unbroken : Unbroken text) : piece (.added text) = '+' :: text :=
  withoutReturn_eq_self (unbroken_cons rfl unbroken)

theorem piece_removed (unbroken : Unbroken text) : piece (.removed text) = '-' :: text :=
  withoutReturn_eq_self (unbroken_cons rfl unbroken)

theorem unbroken_line {line : HunkLine} (context : HunkLine.ContextPlain line)
    (change : HunkLine.ChangePlain line) : UnbrokenButReturn line.line := by
  cases line with
  | context text => exact UnbrokenButReturn.append [' '] (by decide) context
  | removed text | added text => exact .inl (unbroken_cons rfl change.1)
  | noNewline => exact .inl (by decide)

/-! ## The lines of a hunk -/

variable {line : Text}

namespace Parser

@[simp] theorem inHunk_done (files : List FileDiff) (current : Option FileDiff) (number : ℕ) :
    inHunk ⟨files, current, 0, 0, number⟩ = false := rfl

/-- The parser in a hunk: the file is open, and the counts are those of the lines left. -/
def before (files : List FileDiff) (file : FileDiff) (number : ℕ) (lines : List HunkLine) :
    Parser :=
  ⟨files, some file, oldCount lines, newCount lines, number⟩

variable {files : List FileDiff} {file : FileDiff} {number : ℕ}

/-- Outside of a hunk, a line that says nothing is skipped. -/
theorem step_inert (noHeader : after "diff --git ".toList line = none)
    (noPath : file.readExtended characterName line = none) (noHunk : hunkHeader line = none) :
    step characterName ⟨files, some file, 0, 0, number⟩ line =
      ⟨files, some file, 0, 0, number⟩ := by
  simp only [step, inHunk_done, Bool.false_eq_true, ↓reduceIte, readHeader, readHunkHeader,
    noHeader, noPath, noHunk]

/-- Outside of a hunk, a line about the file. -/
theorem step_extended {next : FileDiff}
    (noHeader : after "diff --git ".toList line = none)
    (read : file.readExtended characterName line = some next) :
    step characterName ⟨files, some file, 0, 0, number⟩ line =
      ⟨files, some next, 0, 0, number⟩ := by
  simp only [step, inHunk_done, Bool.false_eq_true, ↓reduceIte, readHeader, noHeader, read]

theorem piece_noNewline : piece .noNewline = "\\ No newline at end of file".toList :=
  withoutReturn_eq_self (by decide)

/-- The marker of a missing newline is skipped, in a hunk and behind it. -/
theorem step_noNewline (files : List FileDiff) (file : FileDiff) (number : ℕ)
    (lines : List HunkLine) :
    step characterName (before files file number lines) (piece .noNewline) =
      before files file number lines := by
  rw [piece_noNewline]
  by_cases inside : inHunk (before files file number lines)
  · rw [step, if_pos inside]
    simp [before, readBody]
  · simp only [step, inside, Bool.false_eq_true, ↓reduceIte]
    simp [before, readHeader, readHunkHeader, FileDiff.readExtended, hunkHeader, after]

theorem inHunk_before
    {lines : List HunkLine} (some_left : 0 < oldCount lines ∨ 0 < newCount lines) :
    inHunk (before files file number lines) = true := by
  simpa [before, inHunk] using some_left

@[simp] theorem oldCount_cons (line : HunkLine) (lines : List HunkLine) :
    oldCount (line :: lines) = line.inOld + oldCount lines := by
  simp [oldCount]

@[simp] theorem newCount_cons (line : HunkLine) (lines : List HunkLine) :
    newCount (line :: lines) = line.inNew + newCount lines := by
  simp [newCount]

theorem step_context (files : List FileDiff) (file : FileDiff) (number : ℕ) (text : Text)
    (lines : List HunkLine) :
    step characterName (before files file number (.context text :: lines))
      (piece (.context text)) = before files file (number + 1) lines := by
  have inside : inHunk (before files file number (.context text :: lines)) = true :=
    inHunk_before (.inl (by simp [HunkLine.inOld]))
  rw [piece_context, step, if_pos inside]
  simp [before, readBody, HunkLine.inOld, HunkLine.inNew]

/-- An added line, or the part of it that is split off. -/
theorem step_added (files : List FileDiff) (file : FileDiff) (number : ℕ) (text part : Text)
    (lines : List HunkLine) :
    step characterName (before files file number (.added text :: lines)) ('+' :: part) =
      before files { file with added := file.added ++ [(number, part.take maxLine)] }
        (number + 1) lines := by
  have inside : inHunk (before files file number (.added text :: lines)) = true :=
    inHunk_before (.inr (by simp [HunkLine.inNew]))
  rw [step, if_pos inside]
  simp [before, readBody, HunkLine.inOld, HunkLine.inNew]

/-- A removed line, or the part of it that is split off. -/
theorem step_removed (files : List FileDiff) (file : FileDiff) (number : ℕ) (text part : Text)
    (lines : List HunkLine) :
    step characterName (before files file number (.removed text :: lines)) ('-' :: part) =
      before files { file with removed := file.removed ++ [part.take maxLine] } number lines := by
  have inside : inHunk (before files file number (.removed text :: lines)) = true :=
    inHunk_before (.inl (by simp [HunkLine.inOld]))
  rw [step, if_pos inside]
  simp [before, readBody, HunkLine.inOld, HunkLine.inNew]

def withLines (file : FileDiff) (number : ℕ) (lines : List HunkLine) : FileDiff :=
  { file with
    added := file.added ++ addedFrom number lines
    removed := file.removed ++ removedFrom lines }

/-- **The lines of a hunk are read** as they are. -/
theorem read_lines (files : List FileDiff) (file : FileDiff) (number : ℕ)
    {lines : List HunkLine} (plain : ∀ line ∈ lines, HunkLine.ChangePlain line) :
    ∃ later, (lines.map piece).foldl (step characterName) (before files file number lines) =
      ⟨files, some (withLines file number lines), 0, 0, later⟩ := by
  induction lines generalizing file number with
  | nil => exact ⟨number, by simp [before, withLines, addedFrom, removedFrom, oldCount, newCount]⟩
  | cons line lines ih =>
    have here := plain line List.mem_cons_self
    have rest := fun file number =>
      ih file number fun other inside => plain other (List.mem_cons_of_mem line inside)
    rw [List.map_cons, List.foldl_cons]
    cases line with
    | context text =>
      rw [step_context]
      exact rest file (number + 1)
    | removed text =>
      rw [piece_removed here.1, step_removed, List.take_of_length_le here.2]
      simpa [withLines, addedFrom, removedFrom] using
        rest { file with removed := file.removed ++ [text] } number
    | added text =>
      rw [piece_added here.1, step_added, List.take_of_length_le here.2]
      simpa [withLines, addedFrom, removedFrom] using
        rest { file with added := file.added ++ [(number, text)] } (number + 1)
    | noNewline =>
      have skipped : before files file number (.noNewline :: lines) =
          before files file number lines := by
        simp [before, HunkLine.inOld, HunkLine.inNew]
      rw [skipped, step_noNewline]
      exact rest file number

theorem readSpan_span (start count : ℕ) (rest : Text) (blank : rest.head? = some ' ') :
    readSpan (span start count ++ rest) =
      some (start, if count = 1 then none else some count, rest) := by
  have noDigit : digitValue ' ' = none := by decide
  have noComma : digitValue ',' = none := by decide
  obtain ⟨rest, rfl⟩ := List.head?_eq_some_iff.1 blank
  unfold span
  split
  · rw [List.append_nil]
    simp [readSpan, readNumber_decimal start rest noDigit]
  · rw [List.append_assoc, List.cons_append]
    simp [readSpan, readNumber_decimal start _ noComma, readNumber_decimal count rest noDigit]

theorem hunkHeader_numbers (hunk : Hunk) (heading : Text) : hunkHeader (hunk.numbers ++ heading) =
      some ⟨oldCount hunk.lines, hunk.newStart, newCount hunk.lines⟩ := by
  have oldSpan := readSpan_span hunk.oldStart (oldCount hunk.lines)
    (" +".toList ++ (span hunk.newStart (newCount hunk.lines) ++ (" @@".toList ++ heading)))
    (by simp)
  have newSpan := readSpan_span hunk.newStart (newCount hunk.lines) (" @@".toList ++ heading)
    (by simp)
  have count (n : ℕ) : (if n = 1 then none else some n).getD 1 = n := by
    split <;> simp_all
  unfold Hunk.numbers hunkHeader
  simp only [List.append_assoc, after_append, bind, Option.bind, oldSpan, newSpan, count]

theorem unbroken_span (start count : ℕ) : Unbroken (span start count) := by
  unfold span
  apply unbroken_append (unbroken_decimal start)
  split
  · intro c inside
    cases inside
  · exact unbroken_cons rfl (unbroken_decimal count)

theorem unbroken_numbers (hunk : Hunk) : Unbroken hunk.numbers := by
  unfold Hunk.numbers
  apply unbroken_append (by decide)
  apply unbroken_append (unbroken_span _ _)
  apply unbroken_append (by decide)
  exact unbroken_append (unbroken_span _ _) (by decide)

/-- The header of a hunk sets the counts. -/
theorem step_numbers (files : List FileDiff) (file : FileDiff) (number : ℕ) (hunk : Hunk) :
    step characterName ⟨files, some file, 0, 0, number⟩
      (withoutReturn (hunk.numbers ++ hunk.heading)) = before files file hunk.newStart hunk.lines := by
  have noHeader : after "diff --git ".toList (hunk.numbers ++ withoutReturn hunk.heading) =
      none := by
    simp [Hunk.numbers, after]
  have noPath : file.readExtended characterName
      (hunk.numbers ++ withoutReturn hunk.heading) = none := by
    simp [Hunk.numbers, FileDiff.readExtended, after]
  rw [withoutReturn_append _ _ (unbroken_numbers hunk)]
  simp only [step, inHunk_done, Bool.false_eq_true, ↓reduceIte, readHeader, readHunkHeader,
    noHeader, noPath, hunkHeader_numbers]
  rfl

/-- The file behind hunks. -/
def withHunks (file : FileDiff) (hunks : List Hunk) : FileDiff :=
  { file with
    added := file.added ++ hunks.flatMap fun hunk => addedFrom hunk.newStart hunk.lines
    removed := file.removed ++ hunks.flatMap fun hunk => removedFrom hunk.lines }

theorem withHunks_cons (file : FileDiff) (hunk : Hunk) (hunks : List Hunk) :
    withHunks file (hunk :: hunks) = withHunks (withLines file hunk.newStart hunk.lines) hunks := by
  simp [withHunks, withLines]

theorem read_hunk (files : List FileDiff) (file : FileDiff) (number : ℕ) {hunk : Hunk}
    (plain : Hunk.ChangePlain hunk) :
    ∃ later, (hunk.text.map withoutReturn).foldl (step characterName)
        ⟨files, some file, 0, 0, number⟩ =
      ⟨files, some (withLines file hunk.newStart hunk.lines), 0, 0, later⟩ := by
  unfold Hunk.text
  rw [List.map_cons, List.map_map, List.foldl_cons, step_numbers]
  exact read_lines files file hunk.newStart plain

/-- **The hunks of a file are read.** -/
theorem read_hunks (files : List FileDiff) (file : FileDiff) (number : ℕ) {hunks : List Hunk}
    (plain : ∀ hunk ∈ hunks, Hunk.ChangePlain hunk) :
    ∃ later, ((hunks.flatMap Hunk.text).map withoutReturn).foldl (step characterName)
        ⟨files, some file, 0, 0, number⟩ =
      ⟨files, some (withHunks file hunks), 0, 0, later⟩ := by
  induction hunks generalizing file number with
  | nil => exact ⟨number, by simp [withHunks]⟩
  | cons hunk hunks ih =>
    obtain ⟨number, read⟩ := read_hunk files file number (plain hunk List.mem_cons_self)
    obtain ⟨later, rest⟩ := ih (withLines file hunk.newStart hunk.lines) number
      fun other inside => plain other (List.mem_cons_of_mem hunk inside)
    refine ⟨later, ?_⟩
    rw [List.flatMap_cons, List.map_append, List.foldl_append, read, rest, withHunks_cons]

end Parser

/-! ## The lines before the hunks -/

theorem unbroken_of_printed
    (printed : ∀ c ∈ text, 0x20 ≤ c.toNat ∧ c.toNat < 0x7f) : Unbroken text := by
  intro c inside
  have bounds := printed c inside
  simp only [isLineBreak, Bool.or_eq_false_iff, Bool.and_eq_false_iff, decide_eq_false_iff_not,
    beq_eq_false_iff_ne]
  omega

variable {side : Text}

theorem unbroken_label (unbroken : Unbroken side) (path : GitPath) :
    Unbroken (path.label side) := by
  unfold GitPath.label
  split
  · exact unbroken_of_printed fun c inside => quoteText_printed inside
  rename_i bare
  apply unbroken_append unbroken
  apply unbroken_of_printed
  intro c inside
  have printed := List.any_eq_false.1 (Bool.eq_false_of_not_eq_true bare) c inside
  simp only [needsQuote, Bool.or_eq_true, decide_eq_true_eq, not_or, not_lt, not_le] at printed
  omega

theorem unbroken_sideLabel (unbroken : Unbroken side) (path : Option GitPath) :
    Unbroken (sideLabel path side) := by
  cases path with
  | none => exact show Unbroken "/dev/null".toList by decide
  | some path => exact unbroken_label unbroken path

theorem unbroken_fileLabel (unbroken : Unbroken side) (path : Option GitPath) :
    Unbroken (fileLabel path side) := by
  apply unbroken_append (unbroken_sideLabel unbroken path)
  split
  · decide
  · intro c inside
    cases inside

theorem unbroken_objectName (digits : List (Fin 16)) : Unbroken (objectName digits) := by
  intro c inside
  obtain ⟨digit, -, rfl⟩ := List.mem_map.1 inside
  have every : ∀ digit : Fin 16, isLineBreak (Nat.digitChar digit) = false := by decide
  exact every digit

theorem unbroken_note (note : Note) : Unbroken note.line := by
  cases note with
  | oldMode mode | newMode mode => exact unbroken_append (by decide) (unbroken_decimal mode)
  | similarity percent | dissimilarity percent =>
    exact unbroken_append (by decide) (unbroken_append (unbroken_decimal percent) (by decide))
  | index oldObject newObject mode =>
    apply unbroken_append (by decide)
    apply unbroken_append (unbroken_objectName oldObject)
    apply unbroken_append (by decide)
    apply unbroken_append (unbroken_objectName newObject)
    cases mode with
    | none => exact fun c inside => absurd inside List.not_mem_nil
    | some mode => exact unbroken_cons rfl (unbroken_decimal mode)

theorem unbroken_header (change : FileChange) : Unbroken change.header := by
  apply unbroken_append (by decide)
  apply unbroken_append (unbroken_label (by decide) _)
  exact unbroken_cons rfl (unbroken_label (by decide) _)

theorem unbroken_extended {change : FileChange} (inside : line ∈ change.extended) :
    Unbroken line := by
  simp only [FileChange.extended, List.mem_append, List.mem_map] at inside
  rcases inside with (((inside | ⟨note, -, rfl⟩) | inside) | ⟨note, -, rfl⟩) | inside
  · cases touched : change.touched with
    | created mode path | deleted mode path =>
      rw [touched] at inside
      rw [List.mem_singleton.1 inside]
      exact unbroken_append (by decide) (unbroken_decimal mode)
    | kept oldPath newPath =>
      rw [touched] at inside
      cases inside
  · exact unbroken_note note
  · cases touched : change.touched with
    | created mode path | deleted mode path =>
      rw [touched] at inside
      cases inside
    | kept oldPath newPath =>
      rw [touched] at inside
      simp only [Touched.renameLines] at inside
      split at inside
      · simp only [List.mem_cons, List.not_mem_nil, or_false] at inside
        rcases inside with rfl | rfl
        · exact unbroken_append (by decide) (unbroken_label (by decide) oldPath)
        · exact unbroken_append (by decide) (unbroken_label (by decide) newPath)
      · cases inside
  · exact unbroken_note note
  · unfold FileChange.contentLines at inside
    split at inside
    · rw [List.mem_singleton.1 inside]
      apply unbroken_append (by decide)
      apply unbroken_append (unbroken_sideLabel (by decide) _)
      apply unbroken_append (by decide)
      exact unbroken_append (unbroken_sideLabel (by decide) _) (by decide)
    · cases inside
    · simp only [FileChange.fileLines, List.mem_cons, List.not_mem_nil, or_false] at inside
      rcases inside with rfl | rfl
      · exact unbroken_append (by decide) (unbroken_fileLabel (by decide) _)
      · exact unbroken_append (by decide) (unbroken_fileLabel (by decide) _)

/-- The paths behind the line that creates or deletes the file. -/
def modeRead (touched : Touched) (file : FileDiff) : FileDiff :=
  match touched with
  | .created _ _ => { file with oldPath := none }
  | .deleted _ _ => { file with newPath := none }
  | .kept _ _ => file

/-- The paths behind the lines of a rename. -/
def renameRead (touched : Touched) (file : FileDiff) : FileDiff :=
  match touched with
  | .kept oldPath newPath =>
    if oldPath.chars ≠ newPath.chars then
      { file with oldPath := some oldPath.chars, newPath := some newPath.chars }
    else file
  | _ => file

/-- The file behind the lines of its content. -/
def contentRead (change : FileChange) (file : FileDiff) : FileDiff :=
  match change.content with
  | .binary => { file with binary := true }
  | .patch [] => file
  | .patch (_ :: _) =>
    { file with
      oldPath := change.touched.oldPath.map shown
      newPath := change.touched.newPath.map shown }

/-- The names of a header. -/
def names (change : FileChange) : Text :=
  change.touched.names.1.label "a/".toList ++ ' ' :: change.touched.names.2.label "b/".toList

/-- The file that is open before the hunks of a change. -/
def opened (characterName : Text → Option ℕ) (change : FileChange) : FileDiff :=
  contentRead change (renameRead change.touched (modeRead change.touched
    (openFile characterName (names change))))

namespace Parser

section Steps

variable (files : List FileDiff) (file : FileDiff) (number : ℕ)

theorem step_note (note : Note) : step characterName ⟨files, some file, 0, 0, number⟩ note.line =
      ⟨files, some file, 0, 0, number⟩ := by
  obtain ⟨start, text, line_eq, isStart⟩ : ∃ start text, note.line = start ++ text ∧
      start ∈ ["old mode ".toList, "new mode ".toList, "similarity index ".toList,
        "dissimilarity index ".toList, "index ".toList] := by
    cases note <;> exact ⟨_, _, rfl, by simp⟩
  rw [line_eq]
  simp only [List.mem_cons, List.not_mem_nil, or_false] at isStart
  have noHeader : after "diff --git ".toList (start ++ text) = none := by
    rcases isStart with rfl | rfl | rfl | rfl | rfl <;> simp [after]
  have noPath : file.readExtended characterName (start ++ text) = none := by
    rcases isStart with rfl | rfl | rfl | rfl | rfl <;> simp [FileDiff.readExtended, after]
  have noHunk : hunkHeader (start ++ text) = none := by
    rcases isStart with rfl | rfl | rfl | rfl | rfl <;> simp [hunkHeader, after]
  exact step_inert noHeader noPath noHunk

theorem read_notes (notes : List Note) :
    (notes.map Note.line).foldl (step characterName) ⟨files, some file, 0, 0, number⟩ =
      ⟨files, some file, 0, 0, number⟩ := by
  induction notes with
  | nil => rfl
  | cons note notes ih => rw [List.map_cons, List.foldl_cons, step_note, ih]

theorem read_mode (touched : Touched) :
    touched.modeLine.foldl (step characterName) ⟨files, some file, 0, 0, number⟩ =
      ⟨files, some (modeRead touched file), 0, 0, number⟩ := by
  cases touched with
  | created mode path =>
    have noHeader : after "diff --git ".toList ("new file mode ".toList ++ decimal mode) =
        none := by simp [after]
    have read : file.readExtended characterName ("new file mode ".toList ++ decimal mode) =
        some { file with oldPath := none } := by simp [FileDiff.readExtended, after]
    exact step_extended noHeader read
  | deleted mode path =>
    have noHeader : after "diff --git ".toList ("deleted file mode ".toList ++ decimal mode) =
        none := by simp [after]
    have read : file.readExtended characterName ("deleted file mode ".toList ++ decimal mode) =
        some { file with newPath := none } := by simp [FileDiff.readExtended, after]
    exact step_extended noHeader read
  | kept oldPath newPath => rfl

theorem read_rename (touched : Touched) :
    touched.renameLines.foldl (step characterName) ⟨files, some file, 0, 0, number⟩ =
      ⟨files, some (renameRead touched file), 0, 0, number⟩ := by
  cases touched with
  | created mode path | deleted mode path => rfl
  | kept oldPath newPath =>
    simp only [Touched.renameLines, renameRead]
    split
    · have noHeader (text : Text) : after "diff --git ".toList ("rename from ".toList ++ text) =
          none ∧ after "diff --git ".toList ("rename to ".toList ++ text) = none := by
        simp [after]
      have readOld (file : FileDiff) (text : Text) :
          file.readExtended characterName ("rename from ".toList ++ text) =
            some { file with oldPath := some (unquote characterName text) } := by
        simp [FileDiff.readExtended, after]
      have readNew (file : FileDiff) (text : Text) :
          file.readExtended characterName ("rename to ".toList ++ text) =
            some { file with newPath := some (unquote characterName text) } := by
        simp [FileDiff.readExtended, after]
      rw [List.foldl_cons, List.foldl_cons, List.foldl_nil,
        step_extended (noHeader _).1 (readOld _ _), step_extended (noHeader _).2 (readNew _ _),
        unquote_label, unquote_label]
    · rfl

theorem read_files (touched : Touched) :
    (FileChange.fileLines touched).foldl (step characterName) ⟨files, some file, 0, 0, number⟩ =
      ⟨files, some { file with
        oldPath := touched.oldPath.map shown, newPath := touched.newPath.map shown },
        0, 0, number⟩ := by
  have noHeader (text : Text) : after "diff --git ".toList ("--- ".toList ++ text) = none ∧
      after "diff --git ".toList ("+++ ".toList ++ text) = none := by
    simp [after]
  have readOld (file : FileDiff) (text : Text) :
      file.readExtended characterName ("--- ".toList ++ text) =
        some { file with oldPath := stripPrefix characterName text } := by
    simp [FileDiff.readExtended, after]
  have readNew (file : FileDiff) (text : Text) :
      file.readExtended characterName ("+++ ".toList ++ text) =
        some { file with newPath := stripPrefix characterName text } := by
    simp [FileDiff.readExtended, after]
  unfold FileChange.fileLines
  rw [List.foldl_cons, List.foldl_cons, List.foldl_nil,
    step_extended (noHeader _).1 (readOld _ _), step_extended (noHeader _).2 (readNew _ _),
    stripPrefix_fileLabel (.inl rfl), stripPrefix_fileLabel (.inr rfl)]

theorem read_content (change : FileChange) :
    change.contentLines.foldl (step characterName) ⟨files, some file, 0, 0, number⟩ =
      ⟨files, some (contentRead change file), 0, 0, number⟩ := by
  unfold FileChange.contentLines contentRead
  generalize change.content = content
  match content with
  | .binary =>
    have noHeader (text : Text) : after "diff --git ".toList ("Binary files ".toList ++ text) =
        none := by simp [after]
    have read (text : Text) : file.readExtended characterName ("Binary files ".toList ++ text) =
        some { file with binary := true } := by simp [FileDiff.readExtended, after]
    dsimp only
    rw [List.foldl_cons, List.foldl_nil, step_extended (noHeader _) (read _)]
  | .patch [] => rfl
  | .patch (_ :: _) => exact read_files files file number change.touched

end Steps

/-- The state in which the parser reads the header of a file. -/
def Rests (s : Parser) : Prop := s.inHunk = false ∧ s.oldLeft = 0 ∧ s.newLeft = 0

/-- **The lines before the hunks of a change are read.** -/
theorem read_opened {s : Parser} (rests : Rests s) (change : FileChange) :
    ∃ number, (change.header :: change.extended).foldl (step characterName) s =
      ⟨s.result, some (opened characterName change), 0, 0, number⟩ := by
  obtain ⟨outside, noOld, noNew⟩ := rests
  have header_read : step characterName s change.header =
      ⟨s.result, some (openFile characterName (names change)), 0, 0, s.newLine⟩ := by
    have names_eq : after "diff --git ".toList change.header = some (names change) :=
      after_append _ _
    simp only [step, outside, Bool.false_eq_true, ↓reduceIte, readHeader, names_eq, noOld, noNew]
  refine ⟨s.newLine, ?_⟩
  rw [List.foldl_cons, header_read]
  unfold FileChange.extended
  rw [List.foldl_append, List.foldl_append, List.foldl_append, List.foldl_append, read_mode,
    read_notes, read_rename, read_notes, read_content]
  rfl

end Parser

/-! ## The files of a diff -/

/-- The text around the changed lines does not break in two. -/
def ContextPlain (change : FileChange) : Prop :=
  ∀ hunk ∈ change.content.hunkList, Hunk.ContextPlain hunk

/-- The changed lines are read as they are. -/
def ChangePlain (change : FileChange) : Prop :=
  ∀ hunk ∈ change.content.hunkList, Hunk.ChangePlain hunk

/-- **The file that is recorded for a change.** -/
def recorded (characterName : Text → Option ℕ) (change : FileChange) : FileDiff :=
  { opened characterName change with added := change.added, removed := change.removed }

theorem opened_lines (change : FileChange) :
    (opened characterName change).added = [] ∧ (opened characterName change).removed = [] := by
  have blank (names : Text) : (openFile characterName names).added = [] ∧
      (openFile characterName names).removed = [] := by
    unfold openFile
    split
    · exact ⟨rfl, rfl⟩
    · split <;> exact ⟨rfl, rfl⟩
  have mode (touched : Touched) (file : FileDiff) : (modeRead touched file).added = file.added ∧
      (modeRead touched file).removed = file.removed := by
    cases touched <;> exact ⟨rfl, rfl⟩
  have rename (touched : Touched) (file : FileDiff) : (renameRead touched file).added = file.added ∧
        (renameRead touched file).removed = file.removed := by
    cases touched with
    | created | deleted => exact ⟨rfl, rfl⟩
    | kept =>
      simp only [renameRead]
      split <;> exact ⟨rfl, rfl⟩
  have content (file : FileDiff) : (contentRead change file).added = file.added ∧
      (contentRead change file).removed = file.removed := by
    unfold contentRead
    split <;> exact ⟨rfl, rfl⟩
  unfold opened
  rw [(content _).1, (content _).2, (rename _ _).1, (rename _ _).2, (mode _ _).1, (mode _ _).2]
  exact blank _

theorem withHunks_opened (change : FileChange) :
    Parser.withHunks (opened characterName change) change.content.hunkList =
      recorded characterName change := by
  obtain ⟨noAdded, noRemoved⟩ := @opened_lines characterName change
  simp [Parser.withHunks, recorded, noAdded, noRemoved, FileChange.added, FileChange.removed]

theorem unbroken_hunk {hunk : Hunk} (context : Hunk.ContextPlain hunk)
    (change : Hunk.ChangePlain hunk) : ∀ line ∈ hunk.text, UnbrokenButReturn line := by
  intro line inside
  rcases List.mem_cons.1 inside with rfl | inside
  · exact UnbrokenButReturn.append _ (Parser.unbroken_numbers hunk) context.1
  · obtain ⟨line, isLine, rfl⟩ := List.mem_map.1 inside
    exact unbroken_line (context.2 line isLine) (change line isLine)

/-- The lines of a change before its hunks are given back as they are. -/
theorem splitlines_opened (change : FileChange) (rest : Text) :
    splitlines (textOf (change.header :: change.extended) ++ rest) =
      change.header :: change.extended ++ splitlines rest := by
  have unbroken : ∀ line ∈ change.header :: change.extended, Unbroken line := by
    intro line inside
    rcases List.mem_cons.1 inside with rfl | inside
    · exact unbroken_header change
    · exact unbroken_extended inside
  rw [splitlines_textOf rest fun line inside => .inl (unbroken line inside)]
  congr 1
  exact (List.map_congr_left fun line inside => withoutReturn_eq_self (unbroken line inside)).trans
    (List.map_id' _)

namespace Parser

/-- **A change is read**, and its file is recorded. -/
theorem read_change {s : Parser} (rests : Rests s) {change : FileChange} (rest : Text)
    (context : DiffGuard.ContextPlain change) (plain : DiffGuard.ChangePlain change) :
    ∃ number, (splitlines (textOf change.lines ++ rest)).foldl (step characterName) s =
      (splitlines rest).foldl (step characterName)
        ⟨s.result, some (recorded characterName change), 0, 0, number⟩ := by
  obtain ⟨number, opened_read⟩ := @read_opened characterName s rests change
  obtain ⟨later, hunks_read⟩ := @read_hunks characterName s.result
    (opened characterName change) number _ plain
  have unbroken : ∀ line ∈ change.content.hunkList.flatMap Hunk.text, UnbrokenButReturn line := by
    intro line inside
    obtain ⟨hunk, isHunk, inside⟩ := List.mem_flatMap.1 inside
    exact unbroken_hunk (context hunk isHunk) (plain hunk isHunk) line inside
  refine ⟨later, ?_⟩
  unfold FileChange.lines
  rw [textOf_append, List.append_assoc, splitlines_opened, splitlines_textOf rest unbroken,
    List.foldl_append, opened_read, List.foldl_append, hunks_read, withHunks_opened]

end Parser

/-- **One file is recorded for each change.** -/
theorem parse_recorded {changes : List FileChange}
    (context : ∀ change ∈ changes, ContextPlain change)
    (plain : ∀ change ∈ changes, ChangePlain change) :
    parseUnifiedDiff characterName (diffText changes) = changes.map (recorded characterName) := by
  have read : ∀ (s : Parser), Parser.Rests s →
      ((splitlines (diffText changes)).foldl (Parser.step characterName) s).result =
        s.result ++ changes.map (recorded characterName) := by
    induction changes with
    | nil =>
      intro s _
      simp [diffText, splitlines]
    | cons change changes ih =>
      intro s rests
      obtain ⟨number, step⟩ := @Parser.read_change characterName s rests change
        (diffText changes) (context change List.mem_cons_self) (plain change List.mem_cons_self)
      have text_eq : diffText (change :: changes) = textOf change.lines ++ diffText changes := by
        simp [diffText]
      rw [text_eq, step, ih (fun other inside => context other (List.mem_cons_of_mem _ inside))
        (fun other inside => plain other (List.mem_cons_of_mem _ inside)) _ ⟨rfl, rfl, rfl⟩]
      simp [Parser.result]
  exact read {} ⟨rfl, rfl, rfl⟩

end Fdai.Core.DiffGuard

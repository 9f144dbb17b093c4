import Fdai.CodeFindings.DiffGuard
import Fdai.CodeFindings.ParserExact

/-!
# What the diff guard sees

The guard sees a diff if it records one file for each change, with its paths, its added lines and
their numbers, and its removed lines; then a diff that passes is within the policy.

* `Seen` and `WithinPolicy` — the two parts of this.
* `change_plain` — a diff that is seen has no changed line that breaks or is cut.
* `guard_sees_iff` — and that, with plain paths, is also enough.

A file never loses a line that was recorded for it. So the first changed line that is not read as
it is leaves a trace that no later line removes.
-/

namespace Fdai.Core.DiffGuard

open Fdai.Lines GitDiff

variable {characterName : Text → Option ℕ}

def seen (change : FileChange) : FileDiff where
  oldPath := change.touched.oldPath.map GitPath.chars
  newPath := change.touched.newPath.map GitPath.chars
  binary := change.content = .binary
  added := change.added
  removed := change.removed

/-- **The diff is read as it is.** -/
def Seen (characterName : Text → Option ℕ) (changes : List FileChange) : Prop :=
  parseUnifiedDiff characterName (diffText changes) = changes.map seen

structure WithinPolicy (policy : Policy) (allowedPaths : List Text) (changes : List FileChange) :
    Prop where
  paths_allowed : ∀ change ∈ changes, ∀ path,
    change.touched.oldPath = some path ∨ change.touched.newPath = some path →
      pathMatches path.chars allowedPaths = true ∧
        ∀ entry ∈ policy.forbiddenPaths, pathMatches path.chars entry.globs = false
  /-- No added line matches a forbidden pattern. -/
  added_clean : ∀ change ∈ changes, ∀ line ∈ change.added,
    ∀ pattern ∈ policy.forbiddenAddedPatterns, pattern.search line.2 = false
  /-- No test file is deleted or moved. -/
  tests_kept : ∀ change ∈ changes, ∀ path, change.touched.oldPath = some path →
    pathMatches path.chars policy.testPathGlobs = true →
      change.touched.newPath.map GitPath.chars = some path.chars
  /-- No test file is left with fewer assertion lines. -/
  assertions_kept : ∀ change ∈ changes, ∀ path, change.touched.newPath = some path →
    pathMatches path.chars policy.testPathGlobs = true → assertionCount policy change.removed ≤
        assertionCount policy (change.added.map Prod.snd)

/-- **The guard sees a diff**: it is read as it is, and passes only if it is within the policy. -/
structure Sees (characterName : Text → Option ℕ) (changes : List FileChange) : Prop where
  seen : Seen characterName changes
  within : ∀ allowedPaths policy,
    (evaluateDiff characterName (diffText changes) allowedPaths policy).ok = true →
      WithinPolicy policy allowedPaths changes

/-! ## A recorded line stays recorded -/

/-- One file has all the lines of another, in order and first. -/
def Grown (file later : FileDiff) : Prop :=
  file.added <+: later.added ∧ file.removed <+: later.removed

theorem Grown.refl (file : FileDiff) : Grown file file := ⟨List.prefix_rfl, List.prefix_rfl⟩

variable {later : FileDiff}

theorem Grown.trans {file middle : FileDiff} (first : Grown file middle)
    (second : Grown middle later) : Grown file later :=
  ⟨first.1.trans second.1, first.2.trans second.2⟩

/-- Every file stays in its place, and has all its lines. -/
def Kept (files later : List FileDiff) : Prop :=
  ∀ (place : ℕ) (file : FileDiff), files[place]? = some file → ∃ grown, later[place]? = some grown ∧ Grown file grown

theorem Kept.refl (files : List FileDiff) : Kept files files :=
  fun _ file isFile => ⟨file, isFile, Grown.refl file⟩

theorem Kept.trans {files middle later : List FileDiff} (first : Kept files middle)
    (second : Kept middle later) : Kept files later := by
  intro place file isFile
  obtain ⟨grown, isGrown, grows⟩ := first place file isFile
  obtain ⟨more, isMore, growsMore⟩ := second place grown isGrown
  exact ⟨more, isMore, grows.trans growsMore⟩

theorem kept_concat (files : List FileDiff) (file : FileDiff) : Kept files (files ++ [file]) := by
  intro place other isOther
  have inside := (List.getElem?_eq_some_iff.1 isOther).1
  exact ⟨other, by rw [List.getElem?_append_left inside, isOther], Grown.refl other⟩

theorem kept_last (files : List FileDiff) {file : FileDiff} (grown : Grown file later) :
    Kept (files ++ [file]) (files ++ [later]) := by
  intro place other isOther
  rcases Nat.lt_or_ge place files.length with inside | behind
  · rw [List.getElem?_append_left inside] at isOther
    exact ⟨other, by rw [List.getElem?_append_left inside, isOther], Grown.refl other⟩
  rw [List.getElem?_append_right behind] at isOther
  obtain ⟨isPlace, rfl⟩ : place - files.length = 0 ∧ file = other := by
    rcases List.getElem?_eq_some_iff.1 isOther with ⟨short, same⟩
    have first : place - files.length = 0 := by simpa using short
    exact ⟨first, by simpa [first] using same⟩
  exact ⟨later, by rw [List.getElem?_append_right behind, isPlace]; rfl, grown⟩

namespace Parser

theorem kept_readBody (s : Parser) (line : Text) : Kept s.result (s.readBody line).result := by
  unfold readBody
  split
  · exact Kept.refl _
  · rename_i file body current
    simp only [result, current, Option.toList_some]
    exact kept_last _ ⟨List.prefix_append _ _, List.prefix_rfl⟩
  · rename_i file body current
    simp only [result, current, Option.toList_some]
    exact kept_last _ ⟨List.prefix_rfl, List.prefix_append _ _⟩
  · exact Kept.refl _

variable {file : FileDiff}

theorem grown_readExtended {line : Text}
    (read : file.readExtended characterName line = some later) : Grown file later := by
  unfold FileDiff.readExtended at read
  split at read
  · cases read
    exact Grown.refl _
  split at read
  · cases read
    exact Grown.refl _
  split at read
  · cases read
    exact Grown.refl _
  split at read
  · cases read
    exact Grown.refl _
  split at read
  · cases read
    exact Grown.refl _
  split at read
  · cases read
    exact Grown.refl _
  split at read
  · cases read
    exact Grown.refl _
  · cases read

theorem kept_readHeader (s : Parser) (line : Text) :
    Kept s.result (s.readHeader characterName line).result := by
  unfold readHeader
  split
  · exact kept_concat _ _
  split
  · exact Kept.refl _
  rename_i file current
  split
  · rename_i later read
    simp only [result, current, Option.toList_some]
    exact kept_last _ (grown_readExtended read)
  · unfold readHunkHeader
    split <;> exact Kept.refl _

theorem kept_step (s : Parser) (line : Text) :
    Kept s.result (s.step characterName line).result := by
  unfold step
  split
  · exact kept_readBody s line
  · exact kept_readHeader s line

/-- **No line removes a line that was recorded.** -/
theorem kept_lines (s : Parser) (lines : List Text) :
    Kept s.result (lines.foldl (step characterName) s).result := by
  induction lines generalizing s with
  | nil => exact Kept.refl _
  | cons line lines ih => exact (kept_step s line).trans (ih _)

/-! ## A changed line that is not read as it is -/

/-- What is recorded of a line is the line only if it does not break, and is not cut. -/
theorem plain_of_take {text : Text} (same : (firstLine text).take maxLine = text) :
    Unbroken text ∧ text.length ≤ maxLine := by
  have short := congrArg List.length same
  rw [List.length_take] at short
  have isPrefix : firstLine text <+: text := List.takeWhile_prefix _
  have first_le := isPrefix.length_le
  have whole : firstLine text = text := isPrefix.eq_of_length (by omega)
  exact ⟨firstLine_eq_self.1 whole, by omega⟩

/-- The rest of a text leads to given files. -/
def Leads (characterName : Text → Option ℕ) (s : Parser) (text : Text) (goal : List FileDiff) :
    Prop :=
  ((splitlines text).foldl (step characterName) s).result = goal

variable {files goal : List FileDiff} {number : ℕ} {reached : FileDiff}

/-- What is recorded in the open file, the goal has. -/
theorem grown_of_leads {lines : List HunkLine} {rest : List Text}
    (leads : (rest.foldl (step characterName) (before files file number lines)).result = goal)
    (isReached : goal[files.length]? = some reached) :
    Grown file reached := by
  have isFile : (before files file number lines).result[files.length]? = some file := by
    simp [before, result]
  obtain ⟨grown, isGrown, grows⟩ := @kept_lines characterName
    (before files file number lines) rest files.length file isFile
  rw [leads, isReached, Option.some.injEq] at isGrown
  rw [isGrown]
  exact grows

/-- The entry behind a common beginning. -/
theorem entry_of_prefix {α : Type} {start more whole : List α} {entry other : α}
    (expected : start ++ entry :: more <+: whole) (recorded : start ++ [other] <+: whole) :
    other = entry := by
  obtain ⟨behind, rfl⟩ := expected
  obtain ⟨later, same⟩ := recorded
  simp only [List.append_assoc, List.cons_append, List.nil_append, List.append_cancel_left_eq,
    List.cons.injEq] at same
  exact same.1

theorem textOf_line (line : HunkLine) (lines : List HunkLine) (rest : Text) :
    textOf ((line :: lines).map HunkLine.line) ++ rest =
      line.line ++ '\n' :: (textOf (lines.map HunkLine.line) ++ rest) := by
  rw [List.map_cons, textOf_cons, List.append_assoc, List.cons_append]

/-- **The changed lines of a hunk that is seen are plain.** By induction on the lines: all that
were read are in the open file, and the goal has the next one behind them. -/
theorem plain_of_lines
    {lines : List HunkLine} (context : ∀ line ∈ lines, HunkLine.ContextPlain line) {rest : Text}
    (leads : Leads characterName (before files file number lines)
      (textOf (lines.map HunkLine.line) ++ rest) goal)
    (isReached : goal[files.length]? = some reached)
    (expected : Grown (withLines file number lines) reached) :
    ∀ line ∈ lines, HunkLine.ChangePlain line := by
  induction lines generalizing file number with
  | nil => exact fun line inside => absurd inside List.not_mem_nil
  | cons line lines ih =>
    have here := context line List.mem_cons_self
    have later : ∀ line ∈ lines, HunkLine.ContextPlain line := fun other inside =>
      context other (List.mem_cons_of_mem line inside)
    have plain : HunkLine.ChangePlain line := by
      cases line with
      | context text | noNewline => exact True.intro
      | added text =>
        obtain ⟨more, split⟩ := splitlines_firstLine ('+' :: text)
          (textOf (lines.map HunkLine.line) ++ rest)
        have first : firstLine ('+' :: text) = '+' :: firstLine text := by
          simp [firstLine, show isLineBreak '+' = false from rfl]
        have lines_eq : splitlines (textOf ((HunkLine.added text :: lines).map HunkLine.line) ++
            rest) = ('+' :: firstLine text) :: more := by
          rw [textOf_line, ← first]
          exact split
        unfold Leads at leads
        rw [lines_eq, List.foldl_cons, step_added] at leads
        have grown := (grown_of_leads leads isReached).1
        have same := entry_of_prefix expected.1 grown
        exact plain_of_take (Prod.mk.inj same).2
      | removed text =>
        obtain ⟨more, split⟩ := splitlines_firstLine ('-' :: text)
          (textOf (lines.map HunkLine.line) ++ rest)
        have first : firstLine ('-' :: text) = '-' :: firstLine text := by
          simp [firstLine, show isLineBreak '-' = false from rfl]
        have lines_eq : splitlines (textOf ((HunkLine.removed text :: lines).map HunkLine.line) ++
            rest) = ('-' :: firstLine text) :: more := by
          rw [textOf_line, ← first]
          exact split
        unfold Leads at leads
        rw [lines_eq, List.foldl_cons, step_removed] at leads
        have grown := (grown_of_leads leads isReached).2
        have same := entry_of_prefix expected.2 grown
        exact plain_of_take same
    unfold Leads at leads
    rw [textOf_line, splitlines_unbrokenButReturn _ (unbroken_line here plain), List.foldl_cons]
      at leads
    have others : ∀ line ∈ lines, HunkLine.ChangePlain line := by
      cases line with
      | context text =>
        rw [← piece, step_context] at leads
        exact ih later leads expected
      | noNewline =>
        have skipped : before files file number (.noNewline :: lines) =
            before files file number lines := by
          simp [before, HunkLine.inOld, HunkLine.inNew]
        rw [← piece, skipped, step_noNewline] at leads
        exact ih later leads expected
      | added text =>
        rw [← piece, piece_added plain.1, step_added, List.take_of_length_le plain.2] at leads
        apply ih later leads
        simpa [withLines, addedFrom, removedFrom] using expected
      | removed text =>
        rw [← piece, piece_removed plain.1, step_removed, List.take_of_length_le plain.2] at leads
        apply ih later leads
        simpa [withLines, addedFrom, removedFrom] using expected
    intro other inside
    rcases List.mem_cons.1 inside with rfl | inside
    · exact plain
    · exact others other inside

/-- **The hunks of a file that is seen are plain.** -/
theorem plain_of_hunks {hunks : List Hunk}
    (context : ∀ hunk ∈ hunks, Hunk.ContextPlain hunk) {rest : Text}
    (leads : Leads characterName ⟨files, some file, 0, 0, number⟩
      (textOf (hunks.flatMap Hunk.text) ++ rest) goal)
    (isReached : goal[files.length]? = some reached)
    (expected : Grown (withHunks file hunks) reached) :
    ∀ hunk ∈ hunks, Hunk.ChangePlain hunk := by
  induction hunks generalizing file number with
  | nil => exact fun hunk inside => absurd inside List.not_mem_nil
  | cons hunk hunks ih =>
    have here := context hunk List.mem_cons_self
    rw [withHunks_cons] at expected
    have withinLines : Grown (withLines file hunk.newStart hunk.lines) reached :=
      Grown.trans ⟨List.prefix_append _ _, List.prefix_append _ _⟩ expected
    have plain : Hunk.ChangePlain hunk := by
      have headed := UnbrokenButReturn.append _ (unbroken_numbers hunk) here.1
      have text_eq : textOf ((hunk :: hunks).flatMap Hunk.text) ++ rest =
          (hunk.numbers ++ hunk.heading) ++ '\n' :: (textOf (hunk.lines.map HunkLine.line) ++
              (textOf (hunks.flatMap Hunk.text) ++ rest)) := by
        rw [List.flatMap_cons, textOf_append, Hunk.text, textOf_cons]
        simp only [List.append_assoc, List.cons_append]
      unfold Leads at leads
      rw [text_eq, splitlines_unbrokenButReturn _ headed, List.foldl_cons, step_numbers] at leads
      exact plain_of_lines here.2 leads isReached withinLines
    have others : ∀ hunk ∈ hunks, Hunk.ChangePlain hunk := by
      obtain ⟨later, read⟩ := @read_hunk characterName files file number hunk plain
      have text_eq : textOf ((hunk :: hunks).flatMap Hunk.text) ++ rest =
          textOf hunk.text ++ (textOf (hunks.flatMap Hunk.text) ++ rest) := by
        rw [List.flatMap_cons, textOf_append, List.append_assoc]
      unfold Leads at leads
      rw [text_eq, splitlines_textOf _ (unbroken_hunk here plain), List.foldl_append, read] at leads
      exact ih (fun other inside => context other (List.mem_cons_of_mem hunk inside)) leads expected
    intro other inside
    rcases List.mem_cons.1 inside with rfl | inside
    · exact plain
    · exact others other inside

end Parser

/-- **A diff that is seen has plain changed lines.** -/
theorem change_plain {changes : List FileChange}
    (context : ∀ change ∈ changes, ContextPlain change) (isSeen : Seen characterName changes) :
    ∀ change ∈ changes, ChangePlain change := by
  have plain : ∀ (s : Parser), Parser.Rests s → ∀ earlier : List FileDiff,
      earlier.length = s.result.length →
      Parser.Leads characterName s (diffText changes) (earlier ++ changes.map seen) →
        ∀ change ∈ changes, ChangePlain change := by
    clear isSeen
    induction changes with
    | nil => exact fun _ _ _ _ _ change inside => absurd inside List.not_mem_nil
    | cons change changes ih =>
      intro s rests earlier length_eq leads
      have here := context change List.mem_cons_self
      have isReached : (earlier ++ (change :: changes).map seen)[s.result.length]? =
          some (seen change) := by
        rw [← length_eq]
        simp
      have text_eq : diffText (change :: changes) = textOf change.lines ++ diffText changes := by
        simp [diffText]
      have plain : ChangePlain change := by
        obtain ⟨number, opened_read⟩ := @Parser.read_opened characterName s rests change
        have expected : Grown (Parser.withHunks (opened characterName change)
            change.content.hunkList) (seen change) := by
          rw [withHunks_opened]
          exact Grown.refl _
        unfold Parser.Leads at leads
        rw [text_eq, FileChange.lines, textOf_append, List.append_assoc, splitlines_opened,
          List.foldl_append, opened_read] at leads
        exact Parser.plain_of_hunks here leads isReached expected
      have others : ∀ change ∈ changes, ChangePlain change := by
        obtain ⟨number, read⟩ := @Parser.read_change characterName s rests change
          (diffText changes) here plain
        unfold Parser.Leads at leads
        rw [text_eq, read] at leads
        apply ih (fun other inside => context other (List.mem_cons_of_mem change inside))
          ⟨s.result, some (recorded characterName change), 0, 0, number⟩
          ⟨Parser.inHunk_done _ _ _, rfl, rfl⟩ (earlier ++ [seen change])
        · simp [Parser.result, length_eq, Nat.add_assoc]
        · simpa [Parser.Leads] using leads
      intro other inside
      rcases List.mem_cons.1 inside with rfl | inside
      · exact plain
      · exact others other inside
  exact plain {} ⟨rfl, rfl, rfl⟩ [] rfl isSeen

/-! ## The paths -/

/-- The paths of a change are read as they are: from the lines of its files if it has hunks, from
the lines of a rename, or from its header. -/
def PathsPlain (change : FileChange) : Prop :=
  match change.content with
  | .patch (_ :: _) => ∀ path,
    change.touched.oldPath = some path ∨ change.touched.newPath = some path → PlainEnd path
  | _ => change.touched.renamed = true ∨ PlainName change.touched.names.1

/-- The file before the lines of its content. -/
private def named (characterName : Text → Option ℕ) (change : FileChange) : FileDiff :=
  renameRead change.touched (modeRead change.touched (openFile characterName (names change)))

/-- The names of a header, as far as they stay, are read as they are if the path is plain. -/
theorem named_paths (change : FileChange) :
    ((named characterName change).oldPath = change.touched.oldPath.map GitPath.chars ∧
        (named characterName change).newPath = change.touched.newPath.map GitPath.chars) ↔
      change.touched.renamed = true ∨ PlainName change.touched.names.1 := by
  unfold named names
  cases change.touched with
  | created mode path =>
    simp only [renameRead, modeRead, Touched.names, Touched.oldPath, Touched.newPath,
      Touched.renamed, Option.map_none, Option.map_some, Bool.false_eq_true, false_or, true_and]
    constructor
    · intro read
      exact plainName_of_openFile (.inr read)
    · intro plain
      rw [openFile_same plain]
  | deleted mode path =>
    simp only [renameRead, modeRead, Touched.names, Touched.oldPath, Touched.newPath,
      Touched.renamed, Option.map_none, Option.map_some, Bool.false_eq_true, false_or, and_true]
    constructor
    · intro read
      exact plainName_of_openFile (.inl read)
    · intro plain
      rw [openFile_same plain]
  | kept oldPath newPath =>
    simp only [renameRead, modeRead, Touched.names, Touched.oldPath, Touched.newPath,
      Touched.renamed, Option.map_some, decide_eq_true_eq]
    by_cases same : oldPath.chars = newPath.chars
    · obtain rfl : oldPath = newPath := GitPath.ext same
      simp only [ne_eq, not_true_eq_false, ↓reduceIte, false_or]
      constructor
      · intro read
        exact plainName_of_openFile (.inl read.1)
      · intro plain
        rw [openFile_same plain]
        exact ⟨rfl, rfl⟩
    · simp [same]

/-- Only the line about a binary content says that it is binary. -/
theorem opened_binary (change : FileChange) :
    (opened characterName change).binary = decide (change.content = .binary) := by
  have blank (names : Text) : (openFile characterName names).binary = false := by
    unfold openFile
    split
    · rfl
    · split <;> rfl
  have mode (touched : Touched) (file : FileDiff) :
      (modeRead touched file).binary = file.binary := by
    cases touched <;> rfl
  have rename (touched : Touched) (file : FileDiff) :
      (renameRead touched file).binary = file.binary := by
    cases touched with
    | created | deleted => rfl
    | kept =>
      simp only [renameRead]
      split <;> rfl
  unfold opened contentRead
  split
  · rename_i isBinary
    simp [isBinary]
  · rename_i noHunks
    simp [noHunks, rename, mode, blank]
  · rename_i someHunks
    simp [someHunks, rename, mode, blank]

/-- **The paths of a change are read as they are if they are plain.** -/
theorem recorded_eq_seen (change : FileChange) :
    recorded characterName change = seen change ↔ PathsPlain change := by
  have binary := @opened_binary characterName change
  have paths : recorded characterName change = seen change ↔
      (opened characterName change).oldPath = change.touched.oldPath.map GitPath.chars ∧
        (opened characterName change).newPath = change.touched.newPath.map GitPath.chars := by
    simp [recorded, seen, binary]
  have path_iff (path : Option GitPath) :
      path.map shown = path.map GitPath.chars ↔ ∀ p, path = some p → PlainEnd p := by
    cases path with
    | none => simp
    | some path => simp [shown_eq]
  rw [paths]
  unfold PathsPlain opened contentRead
  rcases change.content with _ | _ | _
  · exact named_paths change
  · exact named_paths change
  simp only [path_iff]
  constructor
  · rintro ⟨old, new⟩ path (isOld | isNew)
    · exact old path isOld
    · exact new path isNew
  · intro plain
    exact ⟨fun path isOld => plain path (.inl isOld), fun path isNew => plain path (.inr isNew)⟩

/-- **A diff that is seen passes only if it is within the policy.** -/
theorem withinPolicy_of_ok {changes : List FileChange} (isSeen : Seen characterName changes)
    {allowedPaths : List Text} {policy : Policy}
    (passes : (evaluateDiff characterName (diffText changes) allowedPaths policy).ok = true) :
    WithinPolicy policy allowedPaths changes := by
  have clean : ∀ change ∈ changes, fileViolations policy allowedPaths (seen change) = [] := by
    intro change isChange
    apply violations_of_ok passes
    rw [isSeen]
    exact List.mem_map_of_mem isChange
  refine ⟨?_, ?_, ?_, ?_⟩
  · intro change isChange path isPath
    have none_here := clean change isChange
    simp only [fileViolations, List.append_eq_nil_iff] at none_here
    have touched : path.chars ∈ (seen change).touched := by
      simp only [FileDiff.touched, List.mem_dedup, List.mem_filter, List.mem_append,
        Option.mem_toList, decide_eq_true_eq]
      refine ⟨?_, path.nonempty⟩
      rcases isPath with isOld | isNew
      · exact .inl (by simp [seen, isOld])
      · exact .inr (by simp [seen, isNew])
    have path_clean := List.flatMap_eq_nil_iff.1 none_here.1.1.1.1.2 path.chars touched
    simp only [pathViolations, List.append_eq_nil_iff] at path_clean
    constructor
    · by_contra notAllowed
      simp [notAllowed] at path_clean
    · intro entry isEntry
      have notForbidden := List.filterMap_eq_nil_iff.1 path_clean.1 entry isEntry
      by_contra forbidden
      simp [forbidden] at notForbidden
  · intro change isChange line isLine pattern isPattern
    have none_here := clean change isChange
    simp only [fileViolations, List.append_eq_nil_iff] at none_here
    have line_clean := List.flatMap_eq_nil_iff.1 none_here.2 line isLine
    have pattern_clean := List.filterMap_eq_nil_iff.1 line_clean pattern isPattern
    by_contra found
    simp [found] at pattern_clean
  · intro change isChange path isOld isTest
    have none_here := clean change isChange
    simp only [fileViolations, List.append_eq_nil_iff] at none_here
    have kept := none_here.1.1.2
    simp only [deletedTestViolations, seen, isOld, Option.map_some, isTest, Bool.true_and,
      decide_eq_true_eq] at kept
    by_contra moved
    simp [moved] at kept
  · intro change isChange path isNew isTest
    have none_here := clean change isChange
    simp only [fileViolations, List.append_eq_nil_iff] at none_here
    have path_eq : (seen change).path = path.chars := by
      obtain ⟨c, chars, cons⟩ := List.exists_cons_of_ne_nil path.nonempty
      simp [FileDiff.path, seen, isNew, cons]
    have kept := none_here.1.2
    simp only [assertionViolations, path_eq, isTest, ↓reduceIte] at kept
    by_contra lost
    simp [seen, not_le.1 lost] at kept

/-- **The guard sees a diff if its changed lines and paths are plain, and only then**, where the
text around the changed lines does not break in two. A changed line is plain if it has no line
break other than the newline that ends it, and at most `maxLine` characters. -/
theorem guard_sees_iff (characterName : Text → Option ℕ) (changes : List FileChange)
    (context : ∀ change ∈ changes, ContextPlain change) :
    Sees characterName changes ↔ ∀ change ∈ changes, ChangePlain change ∧ PathsPlain change := by
  constructor
  · intro sees change isChange
    have plain := change_plain context sees.seen
    have recorded_all := @parse_recorded characterName changes context plain
    have same := sees.seen
    unfold Seen at same
    rw [recorded_all] at same
    have here := List.map_eq_map_iff.1 same change isChange
    exact ⟨plain change isChange, (recorded_eq_seen change).1 here⟩
  · intro plain
    have isSeen : Seen characterName changes := by
      unfold Seen
      rw [parse_recorded context fun change isChange => (plain change isChange).1]
      apply List.map_congr_left
      intro change isChange
      exact (recorded_eq_seen change).2 (plain change isChange).2
    exact ⟨isSeen, fun allowedPaths policy passes => withinPolicy_of_ok isSeen passes⟩

def changeOf (lines : List HunkLine) : FileChange where
  touched := .kept ⟨['x'], by decide, by decide⟩ ⟨['x'], by decide, by decide⟩
  notesBefore := []
  notesAfter := [.index [1, 10] [2, 11] (some 100644)]
  content := .patch [⟨1, 1, " def f():".toList, lines⟩]

/-- A file with one line changed and one added is seen. -/
theorem guard_sees_plain : Sees (fun _ => none)
    [changeOf [.context "a".toList, .removed "b".toList, .added "c".toList, .added [],
      .context "d\r".toList]] := by
  refine (guard_sees_iff _ _ ?_).2 ?_
  · intro change isChange
    rw [List.mem_singleton.1 isChange]
    intro hunk isHunk
    rw [List.mem_singleton.1 isHunk]
    refine ⟨.inl (by decide +kernel), ?_⟩
    intro line isLine
    simp only [List.mem_cons, List.not_mem_nil, or_false] at isLine
    rcases isLine with rfl | rfl | rfl | rfl | rfl
    · exact .inl (by decide +kernel)
    · exact True.intro
    · exact True.intro
    · exact True.intro
    · exact .inr ⟨['d'], by decide +kernel, by decide +kernel⟩
  · intro change isChange
    rw [List.mem_singleton.1 isChange]
    constructor
    · intro hunk isHunk
      rw [List.mem_singleton.1 isHunk]
      intro line isLine
      simp only [List.mem_cons, List.not_mem_nil, or_false] at isLine
      unfold HunkLine.ChangePlain maxLine
      rcases isLine with rfl | rfl | rfl | rfl | rfl
      · exact True.intro
      · exact ⟨by decide +kernel, by decide +kernel⟩
      · exact ⟨by decide +kernel, by decide +kernel⟩
      · exact ⟨by decide +kernel, by decide +kernel⟩
      · exact True.intro
    · rintro path (isOld | isNew)
      · cases isOld
        exact .inr (by decide +kernel)
      · cases isNew
        exact .inr (by decide +kernel)

/-- A policy against switching verification off. -/
def noVerifyOff : Policy where
  forbiddenAddedPatterns := [⟨"tls-off", fun line => (cut "verify=False".toList line).isSome, ""⟩]

/-- **An added line that is not seen.** The form feed in the first added line breaks it in two, the
second half counts as a line of context and ends the hunk, and the second added line is skipped. -/
theorem added_line_hidden : (evaluateDiff (fun _ => none)
      (diffText [changeOf [.added "a\u000cb".toList, .added "verify=False".toList]])
      ["x".toList] noVerifyOff).ok = true ∧
    ¬ WithinPolicy noVerifyOff ["x".toList]
      [changeOf [.added "a\u000cb".toList, .added "verify=False".toList]] ∧
    ¬ Sees (fun _ => none) [changeOf [.added "a\u000cb".toList, .added "verify=False".toList]] := by
  have passes : (evaluateDiff (fun _ => none)
      (diffText [changeOf [.added "a\u000cb".toList, .added "verify=False".toList]])
      ["x".toList] noVerifyOff).ok = true := by decide +kernel
  have outside : ¬ WithinPolicy noVerifyOff ["x".toList]
      [changeOf [.added "a\u000cb".toList, .added "verify=False".toList]] := by
    intro within
    have clean := within.added_clean _ List.mem_cons_self (2, "verify=False".toList)
      (by decide +kernel) _ List.mem_cons_self
    revert clean
    decide +kernel
  exact ⟨passes, outside, fun sees => outside (sees.within _ _ passes)⟩

end Fdai.Core.DiffGuard

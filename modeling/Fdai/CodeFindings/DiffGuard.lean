import Mathlib.Data.List.Dedup
import Fdai.CodeFindings.UnifiedDiff

/-!
# The diff guard

The guard reads the diff of a remediation and reports what the policy does not allow: a path
outside of the allowed ones, a forbidden path, an added line that matches a forbidden pattern, a
test file that goes or loses assertions, a binary change.

* `pathMatches` — whether a path matches one of some globs.
* `evaluateDiff` — the guard.

The regular expressions of the policy are given by the lines in which they are found.
-/

namespace Fdai.Core.DiffGuard

open Fdai.Lines

/-! ## Globs -/

/-- A part of the expression for a glob. -/
inductive GlobToken where
  /-- `(?:.*/)?`, for `**/`. -/
  | directories
  /-- `.*`, for `**`. -/
  | anything
  /-- `[^/]*`, for `*`. -/
  | segment
  /-- `[^/]`, for `?`. -/
  | one
  | char (c : Char)

/-- `replace("**/**/", "**/")`. -/
def collapseOnce : Text → Text
  | '*' :: '*' :: '/' :: '*' :: '*' :: '/' :: rest => '*' :: '*' :: '/' :: collapseOnce rest
  | c :: rest => c :: collapseOnce rest
  | [] => []

/-- The loop of `glob_to_regex` over repeated spans. A pass that changes anything shortens the
pattern, so there are no more passes than characters. -/
def collapseSpans : ℕ → Text → Text
  | 0, pattern => pattern
  | passes + 1, pattern =>
    let next := collapseOnce pattern
    if next = pattern then pattern else collapseSpans passes next

/-- The parts of a pattern. -/
def globTokens : Text → List GlobToken
  | [] => []
  | '*' :: '*' :: '/' :: rest => .directories :: globTokens rest
  | '*' :: '*' :: rest => .anything :: globTokens rest
  | '*' :: rest => .segment :: globTokens rest
  | '?' :: rest => .one :: globTokens rest
  | c :: rest => .char c :: globTokens rest

def globToRegex (pattern : Text) : List GlobToken :=
  globTokens (collapseSpans pattern.length pattern)

/-- What may be left of a text behind a run of some characters. -/
def rests (inRun : Char → Bool) : Text → List Text
  | [] => [[]]
  | c :: text => (c :: text) :: if inRun c then rests inRun text else []

/-- Whether the expression matches a whole text, or all but a newline at its end. The dot stands
for any character but a newline. -/
def globMatches : List GlobToken → Text → Bool
  | [], text => text = [] || text = ['\n']
  | .directories :: tokens, text => globMatches tokens text ||
      ((rests (· ≠ '\n') text).filterMap (after ['/'])).any (globMatches tokens)
  | .anything :: tokens, text => (rests (· ≠ '\n') text).any (globMatches tokens)
  | .segment :: tokens, text => (rests (· ≠ '/') text).any (globMatches tokens)
  | .one :: _, [] => false
  | .one :: tokens, c :: text => c ≠ '/' && globMatches tokens text
  | .char _ :: _, [] => false
  | .char c :: tokens, d :: text => c = d && globMatches tokens text

def pathMatches (path : Text) (globs : List Text) : Bool :=
  globs.any fun glob => globMatches (globToRegex glob) path

example : pathMatches "src/a/b.py".toList ["**/**/*.py".toList] = true := by decide +kernel

/-- An entry of `forbidden_paths`. -/
structure ForbiddenPaths where
  id : String
  globs : List Text
  description : String := ""

/-- An entry of `forbidden_added_patterns`. -/
structure ForbiddenPattern where
  id : String
  search : Text → Bool
  description : String := ""

structure Policy where
  maxDiffBytes : ℕ := 5000000
  testPathGlobs : List Text := []
  forbiddenPaths : List ForbiddenPaths := []
  forbiddenAddedPatterns : List ForbiddenPattern := []
  testAssertionPatterns : List (Text → Bool) := []

structure Violation where
  ruleId : String
  path : Text
  line : Option ℕ
  detail : String

/-- The value of `evaluate_diff`. -/
structure Evaluation where
  ok : Bool
  violations : List Violation
  filesChecked : ℕ

/-- The paths of a file: empty ones are none, and one path counts once. -/
def FileDiff.touched (file : FileDiff) : List Text :=
  ((file.oldPath.toList ++ file.newPath.toList).filter (· ≠ [])).dedup

/-- A path that could not be decoded. -/
def unsafeViolations (file : FileDiff) : List Violation :=
  if file.touched.any fun path => path = unparseable || path.contains '\u0000' then
    [⟨"unsafe-path", file.path, none, "path could not be decoded"⟩]
  else []

/-- A path that is forbidden, or not allowed. -/
def pathViolations (policy : Policy) (allowedPaths : List Text) (path : Text) : List Violation :=
  (policy.forbiddenPaths.filterMap fun entry =>
    if pathMatches path entry.globs then some ⟨entry.id, path, none, entry.description⟩
    else none) ++
  if pathMatches path allowedPaths then []
  else [⟨"outside-allowed-paths", path, none, "path is not in the fix group's allowed paths"⟩]

def binaryViolations (file : FileDiff) : List Violation :=
  if file.binary then
    [⟨"binary-change", file.path, none, "binary changes cannot be inspected"⟩]
  else []

/-- A test file that is deleted or moved. -/
def deletedTestViolations (policy : Policy) (file : FileDiff) : List Violation :=
  match file.oldPath with
  | none => []
  | some oldPath =>
    if pathMatches oldPath policy.testPathGlobs && file.newPath ≠ some oldPath then
      [⟨"test-file-deleted", if oldPath = [] then file.path else oldPath, none,
        "test file deleted or moved"⟩]
    else []

def assertionCount (policy : Policy) (lines : List Text) : ℕ :=
  lines.countP fun body => policy.testAssertionPatterns.any fun search => search body

/-- A test file that loses assertions. -/
def assertionViolations (policy : Policy) (file : FileDiff) : List Violation :=
  if pathMatches file.path policy.testPathGlobs then
    let removed := assertionCount policy file.removed
    let added := assertionCount policy (file.added.map Prod.snd)
    if added < removed then
      [⟨"test-assertion-removed", file.path, none,
        toString (removed - added) ++ " assertion lines removed"⟩]
    else []
  else []

/-- The added lines that match a forbidden pattern. -/
def addedViolations (policy : Policy) (file : FileDiff) : List Violation :=
  file.added.flatMap fun (lineNo, body) =>
    policy.forbiddenAddedPatterns.filterMap fun pattern =>
      if pattern.search body then some ⟨pattern.id, file.path, some lineNo, pattern.description⟩
      else none

def fileViolations (policy : Policy) (allowedPaths : List Text) (file : FileDiff) :
    List Violation :=
  unsafeViolations file ++ file.touched.flatMap (pathViolations policy allowedPaths) ++
    binaryViolations file ++ deletedTestViolations policy file ++
    assertionViolations policy file ++ addedViolations policy file

/-- The length of a text in UTF-8. -/
def byteCount (text : Text) : ℕ := (text.map Char.utf8Size).sum

def evaluateDiff (characterName : Text → Option ℕ) (diffText : Text) (allowedPaths : List Text)
    (policy : Policy) : Evaluation :=
  if policy.maxDiffBytes < byteCount diffText then
    ⟨false, [⟨"diff-too-large", [], none,
      "diff exceeds " ++ toString policy.maxDiffBytes ++ " bytes"⟩], 0⟩
  else
    let files := parseUnifiedDiff characterName diffText
    let violations := files.flatMap (fileViolations policy allowedPaths)
    ⟨violations.isEmpty, violations, files.length⟩

theorem violations_of_ok {characterName : Text → Option ℕ} {diffText : Text}
    {allowedPaths : List Text} {policy : Policy}
    (passes : (evaluateDiff characterName diffText allowedPaths policy).ok = true)
    {file : FileDiff} (isFile : file ∈ parseUnifiedDiff characterName diffText) :
    fileViolations policy allowedPaths file = [] := by
  unfold evaluateDiff at passes
  split at passes
  · cases passes
  · exact List.flatMap_eq_nil_iff.1 (List.isEmpty_iff.1 passes) file isFile

end Fdai.Core.DiffGuard

import Mathlib.Data.List.DropRight

/-!
# Stripped texts

* `strip`, `isBlank` — `str.strip`, and the test for a text of blanks only.
* `replaceChars` — `str.replace`; `replaceChars_back` says when it is undone.
-/

namespace Fdai.Core

/-- The characters `str.strip` removes. -/
def isSpace (c : Char) : Bool :=
  let n := c.toNat
  (9 ≤ n && n ≤ 13) || (28 ≤ n && n ≤ 32) || n == 0x85 || n == 0xa0 || n == 0x1680 ||
    (0x2000 ≤ n && n ≤ 0x200a) || n == 0x2028 || n == 0x2029 || n == 0x202f ||
    n == 0x205f || n == 0x3000

/-- `not value.strip()`: nothing is left of the text once it is stripped. -/
def isBlank (text : String) : Bool := text.toList.all isSpace

@[irreducible]
def strip (text : String) : String :=
  String.ofList ((text.toList.dropWhile isSpace).reverse.dropWhile isSpace).reverse

/-- `_identifier`: not blank, at most 256 characters, and none of them a control character. -/
def isIdentifier (value : String) : Bool :=
  !isBlank value && value.length ≤ 256 && value.toList.all fun char => 32 ≤ char.toNat

theorem strip_empty : strip "" = "" := by
  unfold strip
  rfl

/-- A prefix of what is left of a list once its first blanks are gone has no blank to drop. -/
theorem dropWhile_of_start {p : Char → Bool} {chars rest : List Char}
    (isPrefix : rest <+: chars.dropWhile p) : rest.dropWhile p = rest := by
  rw [List.dropWhile_eq_self_iff]
  intro nonempty
  have first := List.dropWhile_get_zero_not p chars (nonempty.trans_le isPrefix.length_le)
  rwa [List.get_eq_getElem, ← List.IsPrefix.getElem isPrefix nonempty] at first

/-- **Stripping again** changes nothing. -/
@[simp] theorem strip_strip (text : String) : strip (strip text) = strip text := by
  unfold strip
  rw [String.toList_ofList]
  change String.ofList ((((text.toList.dropWhile isSpace).rdropWhile isSpace).dropWhile
    isSpace).rdropWhile isSpace) =
      String.ofList ((text.toList.dropWhile isSpace).rdropWhile isSpace)
  rw [dropWhile_of_start (List.rdropWhile_prefix isSpace _), List.rdropWhile_idempotent]

/-- A text between two characters that are not blank is stripped already. -/
theorem strip_ofList {first last : Char} {between : List Char} (first_text : isSpace first = false)
    (last_text : isSpace last = false) :
    strip (String.ofList (first :: (between ++ [last]))) =
      String.ofList (first :: (between ++ [last])) := by
  unfold strip
  rw [String.toList_ofList, List.dropWhile_cons_of_neg (by simp [first_text]), List.reverse_cons,
    List.reverse_append, List.reverse_singleton, List.singleton_append, List.cons_append,
    List.dropWhile_cons_of_neg (by simp [last_text])]
  simp

/-- A text without blanks is stripped already. -/
theorem strip_of_noSpace {text : String} (noSpace : ∀ c ∈ text.toList, isSpace c = false) :
    strip text = text := by
  have keeps (chars : List Char) (none : ∀ c ∈ chars, isSpace c = false) :
      chars.dropWhile isSpace = chars := by
    cases chars with
    | nil => rfl
    | cons first rest => exact List.dropWhile_cons_of_neg (by simp [none first List.mem_cons_self])
  unfold strip
  rw [keeps _ noSpace, keeps _ fun c isChar => noSpace c (List.mem_reverse.1 isChar),
    List.reverse_reverse, String.ofList_toList]

/-- No character of a text is a blank. -/
def isSpaceless (text : String) : Bool := text.toList.all fun c => !isSpace c

theorem isSpaceless_iff {text : String} :
    isSpaceless text = true ↔ ∀ c ∈ text.toList, isSpace c = false := by
  unfold isSpaceless
  simp

theorem strip_of_isSpaceless {text : String} (spaceless : isSpaceless text = true) :
    strip text = text :=
  strip_of_noSpace (isSpaceless_iff.1 spaceless)

/-- A stripped text has no blank at its end: what follows it does not stay. -/
theorem strip_newline {core : List Char} (noSpace : ∀ c ∈ core, isSpace c = false) :
    strip (String.ofList (core ++ ['\n'])) = String.ofList core := by
  rcases core with _ | ⟨first, rest⟩
  · unfold strip
    rw [String.toList_ofList]
    rfl
  have keeps : (first :: rest).reverse.dropWhile isSpace = (first :: rest).reverse := by
    rcases reversed : (first :: rest).reverse with _ | ⟨last, others⟩
    · rfl
    have isLast : last ∈ first :: rest := by
      rw [← List.mem_reverse, reversed]
      exact List.mem_cons_self
    exact List.dropWhile_cons_of_neg (by simp [noSpace last isLast])
  unfold strip
  rw [String.toList_ofList, List.cons_append, List.dropWhile_cons_of_neg
    (by simp [noSpace first List.mem_cons_self]), ← List.cons_append, List.reverse_append]
  show String.ofList (List.dropWhile isSpace ('\n' :: (first :: rest).reverse)).reverse = _
  rw [List.dropWhile_cons_of_pos (by decide), keeps, List.reverse_reverse]

/-- The rest of a text in which `old` is replaced, once so many characters are passed over. -/
def replaceFrom (old new : List Char) : ℕ → List Char → List Char
  | _, [] => []
  | skipped + 1, _ :: rest => replaceFrom old new skipped rest
  | 0, first :: rest =>
    if old.isPrefixOf (first :: rest) then new ++ replaceFrom old new (old.length - 1) rest
    else first :: replaceFrom old new 0 rest

/-- `str.replace`, of a text that is not empty. -/
def replaceChars (old new : String) (text : String) : String :=
  String.ofList (replaceFrom old.toList new.toList 0 text.toList)

theorem replaceFrom_cons (old new rest : List Char) (first : Char) :
    replaceFrom old new 0 (first :: rest) = if old.isPrefixOf (first :: rest) then
      new ++ replaceFrom old new (old.length - 1) rest else first :: replaceFrom old new 0 rest := rfl

theorem mem_replaceFrom {old new text : List Char} {skipped : ℕ} {c : Char}
    (isChar : c ∈ replaceFrom old new skipped text) : c ∈ new ∨ c ∈ text := by
  induction text generalizing skipped with
  | nil =>
    unfold replaceFrom at isChar
    cases isChar
  | cons first rest ih =>
    cases skipped with
    | succ skipped => exact (ih isChar).imp_right (List.mem_cons_of_mem _)
    | zero =>
      unfold replaceFrom at isChar
      split at isChar
      · rcases List.mem_append.1 isChar with isNew | isRest
        · exact .inl isNew
        · exact (ih isRest).imp_right (List.mem_cons_of_mem _)
      rcases List.mem_cons.1 isChar with rfl | isRest
      · exact .inr List.mem_cons_self
      · exact (ih isRest).imp_right (List.mem_cons_of_mem _)

/-- A character that stands for `old`, replaced by `old`. -/
theorem replaceFrom_back {old text : List Char} {mark : Char} (nonempty : old ≠ [])
    (unmarked : mark ∉ text) (skipped : ℕ) :
    replaceFrom [mark] old 0 (replaceFrom old [mark] skipped text) = text.drop skipped := by
  induction text generalizing skipped with
  | nil =>
    cases skipped <;> rfl
  | cons first rest ih =>
    have unmarkedRest : mark ∉ rest := fun isRest => unmarked (List.mem_cons_of_mem _ isRest)
    cases skipped with
    | succ skipped => exact ih unmarkedRest skipped
    | zero =>
      rw [replaceFrom_cons]
      by_cases isPrefix : old.isPrefixOf (first :: rest) = true
      · obtain ⟨after, split⟩ := List.isPrefixOf_iff_prefix.1 isPrefix
        have isMark : [mark].isPrefixOf
            (mark :: replaceFrom old [mark] (old.length - 1) rest) = true := by simp
        rw [if_pos isPrefix, List.singleton_append, replaceFrom_cons, if_pos isMark]
        show old ++ replaceFrom [mark] old 0 (replaceFrom old [mark] (old.length - 1) rest) = _
        rw [ih unmarkedRest, ← split]
        obtain ⟨head, tail, rfl⟩ := List.exists_cons_of_ne_nil nonempty
        obtain ⟨rfl, rfl⟩ := List.cons.inj split
        simp
      · have differs : mark ≠ first := fun same => unmarked (same ▸ List.mem_cons_self)
        have apart : ¬ [mark].isPrefixOf (first :: replaceFrom old [mark] 0 rest) = true := by
          simp [differs]
        rw [if_neg isPrefix, replaceFrom_cons, if_neg apart, ih unmarkedRest]
        rfl

/-- **Replacing back**: where a text has no mark, marking what is replaced loses nothing. -/
theorem replaceChars_back {old text : String} {mark : Char} (nonempty : old.toList ≠ [])
    (unmarked : mark ∉ text.toList) :
    replaceChars (String.ofList [mark]) old (replaceChars old (String.ofList [mark]) text) =
      text := by
  unfold replaceChars
  rw [String.toList_ofList, String.toList_ofList, replaceFrom_back nonempty unmarked,
    List.drop_zero, String.ofList_toList]

end Fdai.Core

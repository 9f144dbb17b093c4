import Mathlib.Data.List.Infix
import Fdai.OntologyPlatform.TopologyHistory

/-!
# Predicates over the properties of an object

* `jsonValuesEqual` — the equality of JSON values in the ontology: numbers by the decimals that are
  written for them, and a Boolean only to a Boolean.
* `matchesPredicate` — whether the properties of an object satisfy a predicate.
* `pushedFilters` — the predicates that a store evaluates itself: equalities, and texts among some.
* `matches_of_pushed` — if every predicate is pushed, the pushed filters say what the predicates say.
-/

namespace Fdai.Core.OntologyPlatform.ObjectSets

open Fdai.Documents Fdai.Sequences

/-- What the language and its library decide. -/
structure Python where
  /-- `Decimal(str(…))` of a float. -/
  decimal : PyFloat → ℚ
  /-- `unicodedata.normalize("NFKC", …).casefold()`. -/
  fold : String → String
  /-- `>=` of two values that are not both numbers; `none` where it raises `TypeError`. -/
  atLeast : Json → Json → Option Bool
  /-- `<=` of two such values. -/
  atMost : Json → Json → Option Bool
  /-- `repr` of a text. -/
  repr : String → String

variable (python : Python)

/-- The decimal of a number that is no Boolean. -/
def decimalOf : Json → Option ℚ
  | .int z => some z
  | .float f => some (python.decimal f)
  | _ => none

/-- `json_values_equal` of two values that are not both lists or both mappings. -/
def scalarsEqual (a b : Json) : Bool :=
  match a, b with
  | .bool a, .bool b => a = b
  | .text a, .text b => a = b
  | .null, .null => true
  | a, b =>
    match decimalOf python a, decimalOf python b with
    | some a, some b => a = b
    | _, _ => false

mutual

def jsonValuesEqual : Json → Json → Bool
  | .object as, .object bs => as.length = bs.length && jsonFieldsEqual as bs
  | .list as, .list bs => jsonItemsEqual as bs
  | a, b => scalarsEqual python a b

def jsonItemsEqual : List Json → List Json → Bool
  | [], [] => true
  | a :: as, b :: bs => jsonValuesEqual a b && jsonItemsEqual as bs
  | _, _ => false

def jsonFieldsEqual : List (String × Json) → List (String × Json) → Bool
  | [], _ => true
  | (name, a) :: as, bs =>
    (match bs.lookup name with
      | some b => jsonValuesEqual a b
      | none => false) && jsonFieldsEqual as bs

end

inductive ObjectPredicateOperator where
  | equals | notEquals | «in» | exists | absent | atLeast | atMost | contains | equalsIgnoreCase
  deriving DecidableEq

structure ObjectPredicate where
  property : String
  operator : ObjectPredicateOperator := .equals
  equals : Json := .null
  values : List Json := []

def orderedCompare (left right : Json) (atLeast : Bool) : Bool :=
  match left, right with
  | .bool _, _ | _, .bool _ => false
  | left, right =>
    match decimalOf python left, decimalOf python right with
    | some left, some right => if atLeast then left ≥ right else left ≤ right
    | _, _ =>
      ((if atLeast then python.atLeast left right else python.atMost left right)).getD false

def contains (container member : Json) : Bool :=
  match container, member with
  | .list items, member => items.any fun value => jsonValuesEqual python value member
  | .text text, .text part => part.toList <:+: text.toList
  | .object fields, .text name => (fields.lookup name).isSome
  | _, _ => false

def matchesPredicate (properties : List (String × Json)) (predicate : ObjectPredicate) : Bool :=
  match predicate.operator, properties.lookup predicate.property with
  | .exists, found => found.isSome
  | .absent, found => found.isNone
  | _, none => false
  | .equals, some value => jsonValuesEqual python value predicate.equals
  | .notEquals, some value => !jsonValuesEqual python value predicate.equals
  | .in, some value => predicate.values.any fun candidate => jsonValuesEqual python value candidate
  | .atLeast, some value => orderedCompare python value predicate.equals true
  | .atMost, some value => orderedCompare python value predicate.equals false
  | .equalsIgnoreCase, some value =>
    match value, predicate.equals with
    | .text value, .text other => python.fold value = python.fold other
    | _, _ => false
  | .contains, some value => contains python value predicate.equals

def objectMatchesPredicates (properties : List (String × Json))
    (predicates : List ObjectPredicate) : Bool :=
  predicates.all (matchesPredicate python properties)

/-! ## Pushed filters -/

def textsOf (values : List Json) : Option (List String) :=
  values.mapM fun
    | .text value => some value
    | _ => none

/-- The filter of an equality. -/
def equalityOf (predicate : ObjectPredicate) : Option (String × Json) :=
  if predicate.operator = .equals then some (predicate.property, predicate.equals) else none

/-- The filter of a text among some. -/
def textInOf (predicate : ObjectPredicate) : Option (String × List String) :=
  if predicate.operator = .in then
    (textsOf predicate.values).map fun texts => (predicate.property, texts)
  else none

/-- `_pushed_filters`: of the equalities of one property, the last; and so of the texts. -/
def pushedFilters (predicates : List ObjectPredicate) :
    List (String × Json) × List (String × List String) :=
  ((Keyed.ofList Prod.fst (predicates.filterMap equalityOf)).values,
    (Keyed.ofList Prod.fst (predicates.filterMap textInOf)).values)

def satisfiesEquality (properties : List (String × Json)) (filter : String × Json) : Bool :=
  match properties.lookup filter.1 with
  | some value => jsonValuesEqual python value filter.2
  | none => false

def satisfiesTextIn (properties : List (String × Json)) (filter : String × List String) : Bool :=
  match properties.lookup filter.1 with
  | some (.text value) => value ∈ filter.2
  | _ => false

section

variable {python} {properties : List (String × Json)} {predicate : ObjectPredicate}
variable {predicates : List ObjectPredicate}

/-- **An equality filter** says what its predicate says. -/
theorem satisfiesEquality_iff {filter : String × Json} (isFilter : equalityOf predicate = some filter) :
    satisfiesEquality python properties filter = matchesPredicate python properties predicate := by
  unfold equalityOf at isFilter
  split at isFilter
  swap
  · cases isFilter
  rename_i isEquals
  obtain rfl := Option.some.inj isFilter
  unfold satisfiesEquality matchesPredicate
  rw [isEquals]
  cases properties.lookup predicate.property with
  | none | some value => rfl

theorem any_texts {values : List Json} {texts : List String} (value : Json)
    (areTexts : textsOf values = some texts) :
    (values.any fun candidate => jsonValuesEqual python value candidate) =
      match value with
      | .text value => decide (value ∈ texts)
      | _ => false := by
  unfold textsOf at areTexts
  induction values generalizing texts with
  | nil =>
    obtain rfl : [] = texts := Option.some.inj areTexts
    cases value <;> rfl
  | cons first values ih =>
    rw [List.mapM_cons] at areTexts
    obtain ⟨text, isText, areTexts⟩ := Option.bind_eq_some_iff.1 areTexts
    obtain ⟨rest, isRest, areTexts⟩ := Option.bind_eq_some_iff.1 areTexts
    obtain rfl := Option.some.inj areTexts
    rw [List.any_cons, ih isRest]
    cases first with
    | text first =>
      obtain rfl := Option.some.inj isText
      cases value with
      | text value =>
        show (decide (value = first) || decide (value ∈ rest)) = decide (value ∈ first :: rest)
        rw [Bool.eq_iff_iff]
        simp
      | _ => rfl
    | _ => cases isText

theorem length_textsOf {values : List Json} {texts : List String}
    (areTexts : textsOf values = some texts) : texts.length = values.length := by
  unfold textsOf at areTexts
  induction values generalizing texts with
  | nil =>
    obtain rfl : [] = texts := Option.some.inj areTexts
    rfl
  | cons first values ih =>
    rw [List.mapM_cons] at areTexts
    obtain ⟨text, isText, areTexts⟩ := Option.bind_eq_some_iff.1 areTexts
    obtain ⟨rest, isRest, areTexts⟩ := Option.bind_eq_some_iff.1 areTexts
    obtain rfl := Option.some.inj areTexts
    rw [List.length_cons, List.length_cons, ih isRest]

/-- **A text filter** says what its predicate says. -/
theorem satisfiesTextIn_iff {filter : String × List String} (isFilter : textInOf predicate = some filter) :
    satisfiesTextIn properties filter = matchesPredicate python properties predicate := by
  unfold textInOf at isFilter
  split at isFilter
  swap
  · cases isFilter
  rename_i isIn
  obtain ⟨texts, areTexts, rfl⟩ := Option.map_eq_some_iff.1 isFilter
  unfold satisfiesTextIn matchesPredicate
  rw [isIn]
  rcases properties.lookup predicate.property with _ | value
  · rfl
  dsimp only
  rw [any_texts value areTexts]
  cases value <;> rfl

/-- **The pushed filters** hold where the predicates hold. -/
theorem pushed_of_matches (holds : objectMatchesPredicates python properties predicates = true) :
    (∀ filter ∈ (pushedFilters predicates).1, satisfiesEquality python properties filter = true) ∧
      ∀ filter ∈ (pushedFilters predicates).2, satisfiesTextIn properties filter = true := by
  have each := List.all_eq_true.1 holds
  constructor
  · intro filter isFilter
    obtain ⟨predicate, isPredicate, isPushed⟩ :=
      List.mem_filterMap.1 (Keyed.mem_of_mem_ofList isFilter)
    rw [satisfiesEquality_iff isPushed]
    exact each predicate isPredicate
  · intro filter isFilter
    obtain ⟨predicate, isPredicate, isPushed⟩ :=
      List.mem_filterMap.1 (Keyed.mem_of_mem_ofList isFilter)
    rw [satisfiesTextIn_iff isPushed]
    exact each predicate isPredicate

theorem length_filters_le (predicates : List ObjectPredicate) :
    (predicates.filterMap equalityOf).length + (predicates.filterMap textInOf).length ≤
      predicates.length := by
  induction predicates with
  | nil => exact le_refl 0
  | cons predicate predicates ih =>
    rw [List.filterMap_cons, List.filterMap_cons, List.length_cons]
    rcases isEquality : equalityOf predicate with _ | filter
    · rcases textInOf predicate with _ | _
      · exact Nat.le_succ_of_le ih
      dsimp only
      rw [List.length_cons]
      omega
    have noText : textInOf predicate = none := by
      unfold equalityOf at isEquality
      unfold textInOf
      split at isEquality
      · rename_i isEquals
        rw [isEquals]
        rfl
      · cases isEquality
    rw [noText]
    dsimp only
    rw [List.length_cons]
    omega

theorem filter_of_length
    (asMany : (predicates.filterMap equalityOf).length + (predicates.filterMap textInOf).length =
      predicates.length) :
    ∀ predicate ∈ predicates, equalityOf predicate ≠ none ∨ textInOf predicate ≠ none := by
  induction predicates with
  | nil => exact fun _ isPredicate => by cases isPredicate
  | cons first predicates ih =>
    rw [List.filterMap_cons, List.filterMap_cons, List.length_cons] at asMany
    have atMost := length_filters_le predicates
    have here : equalityOf first ≠ none ∨ textInOf first ≠ none := by
      by_contra neither
      rw [not_or, not_not, not_not] at neither
      rw [neither.1, neither.2] at asMany
      dsimp only at asMany
      omega
    have others : (predicates.filterMap equalityOf).length +
        (predicates.filterMap textInOf).length = predicates.length := by
      have one := length_filters_le [first]
      rw [List.filterMap_cons, List.filterMap_cons] at one
      revert asMany one here
      rcases equalityOf first with _ | _
      · rcases textInOf first with _ | _
        · exact fun _ here => by simp at here
        intro asMany _ _
        dsimp only at asMany
        rw [List.length_cons] at asMany
        omega
      cases textInOf first with
      | none =>
        intro asMany _ _
        dsimp only at asMany
        rw [List.length_cons] at asMany
        omega
      | some _ => exact fun _ _ one => by simp at one
    intro predicate isPredicate
    rcases List.mem_cons.1 isPredicate with rfl | isPredicate
    · exact here
    · exact ih others predicate isPredicate

/-- **If as many filters are pushed as there are predicates**, they say what the predicates say. -/
theorem matches_of_pushed
    (asMany : (pushedFilters predicates).1.length + (pushedFilters predicates).2.length =
      predicates.length)
    (equal : ∀ filter ∈ (pushedFilters predicates).1,
      satisfiesEquality python properties filter = true)
    (among : ∀ filter ∈ (pushedFilters predicates).2, satisfiesTextIn properties filter = true) :
    objectMatchesPredicates python properties predicates = true := by
  have fewer := @Keyed.length_ofList_le _ _ Prod.fst _ (predicates.filterMap equalityOf)
  have fewer' := @Keyed.length_ofList_le _ _ Prod.fst _ (predicates.filterMap textInOf)
  have atMost := length_filters_le predicates
  unfold pushedFilters at asMany
  dsimp only at asMany
  refine List.all_eq_true.2 fun predicate isPredicate => ?_
  rcases filter_of_length (by omega) predicate isPredicate with isPushed | isPushed
  · obtain ⟨filter, isFilter⟩ := Option.ne_none_iff_exists'.1 isPushed
    rw [← satisfiesEquality_iff isFilter]
    exact equal filter (Keyed.mem_ofList_of_length (by omega)
      (List.mem_filterMap.2 ⟨predicate, isPredicate, isFilter⟩))
  obtain ⟨filter, isFilter⟩ := Option.ne_none_iff_exists'.1 isPushed
  rw [← satisfiesTextIn_iff isFilter]
  exact among filter (Keyed.mem_ofList_of_length (by omega)
    (List.mem_filterMap.2 ⟨predicate, isPredicate, isFilter⟩))

end

end Fdai.Core.OntologyPlatform.ObjectSets

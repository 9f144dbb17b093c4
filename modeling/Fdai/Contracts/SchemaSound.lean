import Fdai.Contracts.Compatibility

/-!
# What a compatible report is worth

A report is **sound** when every document that conforms to the old schema is accepted by the new
one, and every field the old schema declares, at any depth, is declared by the new one.

A compatible report is not always sound, because the walk never looks at

* the `type` and `enum` of the two root schemas and of a pair of element schemas, nor at the
  `items` of the two (so of an array in an array it sees nothing);
* a name that is newly required and that the new schema does not declare as a property;
* an `enum` value, but for its text: values of two types may be written alike;
* the inside of a pair of fields that are neither two objects nor two plain arrays with element
  schemas.

`unseen` says of one document that it meets the new schema at these places, and `keptUnseen` says
of one declared field that it is not lost there. They are all that a compatible report leaves open
(`compatible_sound_iff`).
-/

namespace Fdai.Core.Compatibility

open Fdai.JsonSchema

/-- **A sound replacement** of a schema. -/
structure Sound (old new : Schema) : Prop where
  accepted : ∀ value, old.conforms value = true → new.accepts value = true
  kept : ∀ steps name, old.declares (steps ++ [.field name]) = true →
    new.declares (steps ++ [.field name]) = true

/-- The pair of element schemas that the walk enters. -/
def comparedItems (o n : Schema) : Option (Schema × Schema) :=
  if bothArrays o n then
    match o.items, n.items with
    | some oi, some ni => some (oi, ni)
    | _, _ => none
  else none

/-- A new value written like an old one admits what the old one admits. -/
def enumUnseen (texts : Texts) (oe ne : Option (List Json)) (value : Json) : Bool :=
  match oe, ne with
  | some oe, some ne =>
    oe.all fun old => !old.same value || texts.str old ∉ ne.map texts.str ||
      enumAdmits (some ne) value
  | _, _ => true

mutual

/-- A value meets the new schema at the places inside it that the walk of the pair leaves out. -/
def unseenInside (texts : Texts) : Json → Schema → Schema → Bool
  | .object fields, old, new =>
    new.required.all (fun name => name ∈ old.required || (new.property name).isSome ||
      (fields.lookup name).isSome) && unseenFields texts fields old new
  | .array elements, _, new => new.admitsInside (.array elements)
  | _, _, _ => true

/-- The fields of an object, each against the pair of schemas its name is bound to. -/
def unseenFields (texts : Texts) : List (String × Json) → Schema → Schema → Bool
  | [], _, _ => true
  | (name, value) :: rest, old, new =>
    (match old.property name, new.property name with
      | some o, some n =>
        enumUnseen texts o.enum n.enum value &&
          (if isObject o && isObject n then unseenInside texts value o n
            else match comparedItems o n with
              | some (oi, ni) => unseenArray texts value oi ni
              | none => n.admitsInside value)
      | _, _ => true) && unseenFields texts rest old new

/-- The elements of an array, against a pair of element schemas that the walk enters. -/
def unseenArray (texts : Texts) : Json → Schema → Schema → Bool
  | .array elements, oi, ni => unseenElements texts elements oi ni
  | _, _, _ => true

/-- Each element meets the element schema's own keywords, and the places inside it. -/
def unseenElements (texts : Texts) : List Json → Schema → Schema → Bool
  | [], _, _ => true
  | value :: rest, oi, ni =>
    ni.admits value && unseenInside texts value oi ni && unseenElements texts rest oi ni

end

/-- **A document meets the new schema wherever the walk never looks.** -/
def unseen (texts : Texts) (old new : Schema) (value : Json) : Bool :=
  new.admits value && unseenInside texts value old new

/-- **A declared field is not lost** where the walk never looks. -/
def keptUnseen : Schema → Schema → List Step → Prop
  | _, _, [] => True
  | old, new, .element :: rest =>
    old.declares (.element :: rest) = true → new.declares (.element :: rest) = true
  | old, new, .field name :: rest =>
    match old.property name, new.property name with
    | some o, some n =>
      if isObject o && isObject n then keptUnseen o n rest
      else
        match comparedItems o n, rest with
        | some (oi, ni), .element :: inner => keptUnseen oi ni inner
        | _, _ => o.declares rest = true → n.declares rest = true
    | _, _ => True

/-! ## The values of a compatible pair -/

theorem comparedItems_eq_some {o n oi ni : Schema} : comparedItems o n = some (oi, ni) ↔
      bothArrays o n = true ∧ o.items = some oi ∧ n.items = some ni := by
  unfold comparedItems
  rcases arrays : bothArrays o n with _ | _
  · simp
  rcases olds : o.items with _ | oi'
  · simp
  cases news : n.items with
  | none | some ni' => simp

variable {texts : Texts}

theorem unseenFields_iff {fields : List (String × Json)} {old new : Schema} :
    unseenFields texts fields old new = true ↔
      ∀ name value, (name, value) ∈ fields → ∀ o n, old.property name = some o →
        new.property name = some n →
        enumUnseen texts o.enum n.enum value = true ∧
          ((isObject o && isObject n) = true → unseenInside texts value o n = true) ∧
          ((isObject o && isObject n) = false → (∀ oi ni, comparedItems o n = some (oi, ni) →
              unseenArray texts value oi ni = true) ∧
            (comparedItems o n = none → n.admitsInside value = true)) := by
  induction fields with
  | nil => simp [unseenFields]
  | cons head rest ih =>
    obtain ⟨first, content⟩ := head
    rw [unseenFields, Bool.and_eq_true, ih]
    simp only [List.mem_cons, Prod.mk.injEq]
    constructor
    · rintro ⟨here, later⟩ name value (⟨rfl, rfl⟩ | isLater) o n ofOld ofNew
      · rw [ofOld, ofNew] at here
        dsimp only at here
        rw [Bool.and_eq_true] at here
        refine ⟨here.1, fun objects => ?_, fun notObjects => ⟨fun oi ni compared => ?_, ?_⟩⟩
        · rw [if_pos objects] at here
          exact here.2
        · rw [if_neg (by simp [notObjects]), compared] at here
          exact here.2
        · intro uncompared
          rw [if_neg (by simp [notObjects]), uncompared] at here
          exact here.2
      · exact later name value isLater o n ofOld ofNew
    · intro every
      refine ⟨?_, fun name value isLater => every name value (.inr isLater)⟩
      rcases ofOld : old.property first with _ | o
      · rfl
      rcases ofNew : new.property first with _ | n
      · rfl
      obtain ⟨enums, objects, others⟩ := every first content (.inl ⟨rfl, rfl⟩) o n ofOld ofNew
      simp only [enums, Bool.true_and]
      cases both : isObject o && isObject n with
      | true => simpa using objects both
      | false =>
        cases compared : comparedItems o n with
        | none => simpa using (others both).2 compared
        | some pair => simpa using (others both).1 pair.1 pair.2 compared

theorem unseenElements_iff {elements : List Json} {oi ni : Schema} :
    unseenElements texts elements oi ni = true ↔
      ∀ value ∈ elements, unseen texts oi ni value = true := by
  induction elements with
  | nil => simp [unseenElements]
  | cons first rest ih => simp [unseenElements, unseen, ih]

/-- A clean comparison of two `enum` keywords admits the old values, but for those written like
another value. -/
theorem enumAdmits_of_clean {path : String}
    {oe ne : Option (List Json)} (clean : Clean (enumChange texts path oe ne)) {value : Json}
    (open_ : enumUnseen texts oe ne value = true) (admitted : enumAdmits oe value = true) :
    enumAdmits ne value = true := by
  rcases enum_of_clean clean with rfl | ⟨old, new, rfl, rfl, written⟩
  · rfl
  obtain ⟨listed, isListed, isSame⟩ := List.any_eq_true.1 admitted
  have alike := List.all_eq_true.1 open_ listed isListed
  simpa [isSame, written listed isListed] using alike

/-- The inside of a value is accepted by the new schema of a pair, if a clean walk has entered the
pair and the rest is met. -/
private def InsideKept (texts : Texts) (value : Json) : Prop :=
  ∀ {old new : Schema} {pre : String}, Clean (diff texts old new pre) →
    old.conforms value = true → unseenInside texts value old new = true →
    new.admitsInside value = true

/-- The same of each element of an array. -/
private def ElementsKept (texts : Texts) (value : Json) : Prop :=
  ∀ elements, value = .array elements → ∀ element ∈ elements, InsideKept texts element

/-- One field of an object, by what a clean walk has seen of its pair of schemas. -/
theorem accepts_of_fieldSeen {o n : Schema} {path : String} {value : Json}
    (seen : FieldSeen texts o n path) (conforming : o.conforms value = true)
    (enums : enumUnseen texts o.enum n.enum value = true)
    (objects : (isObject o && isObject n) = true → unseenInside texts value o n = true)
    (arrays : (isObject o && isObject n) = false → ∀ oi ni, comparedItems o n = some (oi, ni) →
      unseenArray texts value oi ni = true)
    (others : (isObject o && isObject n) = false → comparedItems o n = none →
      n.admitsInside value = true)
    (inside : InsideKept texts value) (elements : ElementsKept texts value) :
    n.accepts value = true := by
  have admitted := (Schema.accepts_iff.1 (Schema.conforms_iff.1 conforming).1).1
  simp only [Schema.admits, Bool.and_eq_true] at admitted
  have own : n.admits value = true := by
    simp only [Schema.admits, Bool.and_eq_true]
    exact ⟨typeAdmits_of_clean seen.types admitted.1,
      enumAdmits_of_clean seen.enums enums admitted.2⟩
  refine Schema.accepts_iff.2 ⟨own, ?_⟩
  cases both : isObject o && isObject n with
  | true => exact inside (seen.inside both) conforming (objects both)
  | false =>
    rcases compared : comparedItems o n with _ | pair
    · exact others both compared
    obtain ⟨oi, ni⟩ := pair
    obtain ⟨isArrays, ofOld, ofNew⟩ := comparedItems_eq_some.1 compared
    -- the walk has entered the two element schemas
    have clean := seen.elements both isArrays
    have entered : Clean (diff texts oi ni (path ++ "[].")) := by
      obtain ⟨type, enum, required, properties, items⟩ := o
      obtain rfl : items = some oi := ofOld
      simpa [diffItems, diffElements, ofNew] using clean
    cases value with
    | array values =>
      have met := arrays both oi ni compared
      simp only [unseenArray, unseenElements_iff, unseen, Bool.and_eq_true] at met
      simp only [Schema.admitsInside, ofNew, Schema.admitsElements_iff]
      intro element isElement
      have sub := Schema.conforms_element conforming ofOld isElement
      exact Schema.accepts_iff.2 ⟨(met element isElement).1,
        elements values rfl element isElement entered sub (met element isElement).2⟩
    | object fields =>
      have isArray : o.type = some (.one .array) := by
        simp only [bothArrays, Bool.and_eq_true, decide_eq_true_eq] at isArrays
        exact isArrays.1
      simp [isArray, typeAdmits, JsonType.admits] at admitted
    | _ => rfl

/-- **What the walk and the rest say of the inside of a value.** The induction is on the value:
each field and each element comes with a pair of schemas that the walk has entered. -/
theorem insideKept (texts : Texts) (value : Json) :
    InsideKept texts value ∧ ElementsKept texts value := by
  induction value using Json.nested_induction with
  | scalar value notArray notObject =>
    constructor
    · intro old new pre clean conforming rest
      cases value with
      | array elements => exact absurd rfl (notArray elements)
      | object fields => exact absurd rfl (notObject fields)
      | _ => rfl
    · intro elements isArray
      exact absurd isArray (notArray elements)
  | array elements ih =>
    constructor
    · intro old new pre clean conforming rest
      simpa [unseenInside] using rest
    · rintro _ ⟨⟩ element isElement
      exact (ih element isElement).1
  | object fields ih =>
    constructor
    · intro old new pre clean conforming rest
      have seen := seen_of_clean clean
      rw [unseenInside, Bool.and_eq_true, unseenFields_iff] at rest
      obtain ⟨required, shared⟩ := rest
      simp only [List.all_eq_true, Bool.or_eq_true, decide_eq_true_eq] at required
      simp only [Schema.admitsInside, Bool.and_eq_true, List.all_eq_true, Schema.admitsFields_iff]
      constructor
      · intro name isRequired
        rcases seen.required name isRequired with ofOld | undeclared
        · exact Schema.conforms_required conforming ofOld
        rcases required name isRequired with (ofOld | declared) | present
        · exact Schema.conforms_required conforming ofOld
        · simp [undeclared] at declared
        · exact present
      · intro name value isField n ofNew
        obtain ⟨o, ofOld, sub⟩ := Schema.conforms_field conforming isField
        obtain ⟨n', ofNew', fieldSeen⟩ := seen.fields name o ofOld
        obtain rfl : n' = n := Option.some.inj (ofNew'.symm.trans ofNew)
        obtain ⟨enums, objects, others⟩ := shared name value isField o n' ofOld ofNew
        exact accepts_of_fieldSeen fieldSeen sub enums objects (fun both => (others both).1)
          (fun both => (others both).2) (ih name value isField).1 (ih name value isField).2
    · rintro _ ⟨⟩

/-- **Nothing more is asked**: a value that the new schema accepts meets it wherever the walk does
not look. -/
theorem unseen_of_accepts (value : Json) :
    (∀ {old new : Schema}, new.admitsInside value = true →
      unseenInside texts value old new = true) ∧
    (∀ {oi ni : Schema} {elements : List Json}, value = .array elements →
      (∀ element ∈ elements, ni.accepts element = true) →
      unseenArray texts value oi ni = true) := by
  induction value using Json.nested_induction with
  | scalar value notArray notObject =>
    constructor
    · intro old new inside
      cases value with
      | array elements => exact absurd rfl (notArray elements)
      | object fields => exact absurd rfl (notObject fields)
      | _ => rfl
    · intro oi ni elements isArray
      exact absurd isArray (notArray elements)
  | array elements ih =>
    constructor
    · intro old new inside
      simpa [unseenInside] using inside
    · rintro oi ni _ ⟨⟩ accepted
      rw [unseenArray, unseenElements_iff]
      intro element isElement
      obtain ⟨own, inside⟩ := Schema.accepts_iff.1 (accepted element isElement)
      simp only [unseen, own, Bool.true_and]
      exact (ih element isElement).1 inside
  | object fields ih =>
    constructor
    · intro old new inside
      simp only [Schema.admitsInside, Bool.and_eq_true, List.all_eq_true,
        Schema.admitsFields_iff] at inside
      rw [unseenInside, Bool.and_eq_true, unseenFields_iff]
      constructor
      · simp only [List.all_eq_true, Bool.or_eq_true]
        exact fun name isRequired => .inr (inside.1 name isRequired)
      · intro name value isField o n ofOld ofNew
        obtain ⟨own, inner⟩ := Schema.accepts_iff.1 (inside.2 name value isField n ofNew)
        refine ⟨?_, fun _ => (ih name value isField).1 inner, fun _ => ⟨?_, fun _ => inner⟩⟩
        · simp only [Schema.admits, Bool.and_eq_true] at own
          unfold enumUnseen
          split
          next listed _ ofNewEnum =>
            rw [ofNewEnum] at own
            simp [own.2]
          next => rfl
        · intro oi ni compared
          cases value with
          | array values =>
            refine (ih name _ isField).2 rfl ?_
            simp only [Schema.admitsInside, (comparedItems_eq_some.1 compared).2.2,
              Schema.admitsElements_iff] at inner
            exact inner
          | _ => rfl
    · rintro oi ni _ ⟨⟩

/-- **No declared field is lost** in a pair that a clean walk has entered, if none is lost where it
does not look. -/
theorem declares_of_clean :
    ∀ (steps : List Step) {old new : Schema} {pre : String}, Clean (diff texts old new pre) →
      keptUnseen old new steps → old.declares steps = true → new.declares steps = true
  | [], _, _, _, _, _, _ => rfl
  | .element :: rest, _, _, _, _, kept, declared => by
    rw [keptUnseen] at kept
    exact kept declared
  | .field name :: rest, old, new, pre, clean, kept, declared => by
    rcases ofOld : old.property name with _ | o
    · simp [Schema.declares, Schema.step, ofOld] at declared
    obtain ⟨n, ofNew, seen⟩ := (seen_of_clean clean).fields name o ofOld
    simp only [keptUnseen, ofOld, ofNew] at kept
    simp only [Schema.declares, Schema.step, ofOld] at declared
    simp only [Schema.declares, Schema.step, ofNew]
    cases both : isObject o && isObject n with
    | true =>
      rw [if_pos both] at kept
      exact declares_of_clean rest (seen.inside both) kept declared
    | false =>
      rw [if_neg (by simp [both])] at kept
      split at kept
      next oi ni inner compared =>
        obtain ⟨isArrays, ofOldItems, ofNewItems⟩ := comparedItems_eq_some.1 compared
        have entered : Clean (diff texts oi ni (pre ++ name ++ "[].")) := by
          have cleanItems := seen.elements both isArrays
          obtain ⟨type, enum, required, properties, items⟩ := o
          obtain rfl : items = some oi := ofOldItems
          simpa [diffItems, diffElements, ofNewItems] using cleanItems
        simp only [Schema.declares, Schema.step, ofOldItems] at declared
        simp only [Schema.declares, Schema.step, ofNewItems]
        exact declares_of_clean inner entered kept declared
      next => exact kept declared
termination_by steps => steps.length

/-- Nothing more is asked: a field that is not lost is not lost where the walk does not look. -/
theorem keptUnseen_of_declares : ∀ (steps : List Step) {old new : Schema},
      (old.declares steps = true → new.declares steps = true) → keptUnseen old new steps
  | [], _, _, _ => by simp [keptUnseen]
  | .element :: rest, _, _, kept => by
    rw [keptUnseen]
    exact kept
  | .field name :: rest, old, new, kept => by
    simp only [Schema.declares, Schema.step] at kept
    rw [keptUnseen]
    split
    next o n ofOld ofNew =>
      rw [ofOld, ofNew] at kept
      split
      next => exact keptUnseen_of_declares rest kept
      next =>
        split
        next oi ni inner compared =>
          obtain ⟨-, ofOldItems, ofNewItems⟩ := comparedItems_eq_some.1 compared
          simp only [Schema.declares, Schema.step, ofOldItems, ofNewItems] at kept
          exact keptUnseen_of_declares inner kept
        next => exact kept
    next => trivial
termination_by steps => steps.length

/-- **A compatible report is sound exactly when the rest holds.** Of two schemas that are reported
compatible, the new one accepts every document conforming to the old one and keeps every field, if
and only if each conforming document meets the new schema, and each declared field is kept, at the
places where the walk never looks. -/
theorem compatible_sound_iff (texts : Texts) (old new : Schema)
    (compatible : (checkSchemaCompatibility texts old new).isCompatible = true) :
    Sound old new ↔ (∀ value, old.conforms value = true → unseen texts old new value = true) ∧
      ∀ steps name, keptUnseen old new (steps ++ [.field name]) := by
  have clean := isCompatible_iff.1 compatible
  constructor
  · intro sound
    constructor
    · intro value conforming
      obtain ⟨own, inside⟩ := Schema.accepts_iff.1 (sound.accepted value conforming)
      simp only [unseen, own, Bool.true_and]
      exact (unseen_of_accepts value).1 inside
    · intro steps name
      exact keptUnseen_of_declares _ (sound.kept steps name)
  · rintro ⟨rest, kept⟩
    constructor
    · intro value conforming
      have met := rest value conforming
      simp only [unseen, Bool.and_eq_true] at met
      exact Schema.accepts_iff.2 ⟨met.1, (insideKept texts value).1 clean conforming met.2⟩
    · intro steps name declared
      exact declares_of_clean _ clean (kept steps name) declared

/-- `str` of the values that a schema can list in one word, and a text in single quotes. -/
def scalarTexts : Texts where
  str
    | .string value => value
    | .bool value => if value then "True" else "False"
    | .null => "None"
    | .number value => if value.den = 1 then toString value.num else ""
    | _ => ""
  quote value := "'" ++ value ++ "'"

/-- A schema of objects with these properties. -/
def objectOf (properties : List (String × Schema)) : Schema :=
  { Schema.any with type := some (.one .object), properties := some properties }

/-- A schema of arrays of these elements. -/
def arrayOf (item : Schema) : Schema :=
  { Schema.any with type := some (.one .array), items := some item }

/-- A schema of the values of some types. -/
def scalar (type : TypeKeyword) : Schema := { Schema.any with type := some type }

/-- A new optional field in the elements of an array, and one widened to `null`. -/
theorem compatible_sound_iff_tags : (checkSchemaCompatibility scalarTexts
      (objectOf [("tags", arrayOf (objectOf [("k", scalar (.one .string))]))])
      (objectOf [("tags", arrayOf (objectOf [("k", scalar (.many [.string, .null])),
        ("label", scalar (.one .string))]))])).isCompatible = true ∧
    (Sound (objectOf [("tags", arrayOf (objectOf [("k", scalar (.one .string))]))])
        (objectOf [("tags", arrayOf (objectOf [("k", scalar (.many [.string, .null])),
          ("label", scalar (.one .string))]))]) ↔
      (∀ value, (objectOf [("tags", arrayOf (objectOf [("k", scalar (.one .string))]))]).conforms
          value = true →
        unseen scalarTexts (objectOf [("tags", arrayOf (objectOf [("k", scalar (.one .string))]))])
          (objectOf [("tags", arrayOf (objectOf [("k", scalar (.many [.string, .null])),
            ("label", scalar (.one .string))]))]) value = true) ∧
      ∀ steps name, keptUnseen
        (objectOf [("tags", arrayOf (objectOf [("k", scalar (.one .string))]))])
        (objectOf [("tags", arrayOf (objectOf [("k", scalar (.many [.string, .null])),
          ("label", scalar (.one .string))]))]) (steps ++ [.field name])) := by
  have compatible : (checkSchemaCompatibility scalarTexts
      (objectOf [("tags", arrayOf (objectOf [("k", scalar (.one .string))]))])
      (objectOf [("tags", arrayOf (objectOf [("k", scalar (.many [.string, .null])),
        ("label", scalar (.one .string))]))])).isCompatible = true := by decide +kernel
  exact ⟨compatible, compatible_sound_iff scalarTexts _ _ compatible⟩

/-- **The type of array elements flips** unseen: an array of texts becomes an array of integers,
and the report is compatible. -/
theorem element_type_unseen : (checkSchemaCompatibility scalarTexts
      (objectOf [("tags", arrayOf (scalar (.one .string)))])
      (objectOf [("tags", arrayOf (scalar (.one .integer)))])).isCompatible = true ∧
    ¬ Sound (objectOf [("tags", arrayOf (scalar (.one .string)))])
      (objectOf [("tags", arrayOf (scalar (.one .integer)))]) := by
  refine ⟨by decide +kernel, fun sound => ?_⟩
  have accepted := sound.accepted (.object [("tags", .array [.string "a"])]) (by decide +kernel)
  exact absurd accepted (by decide +kernel)

end Fdai.Core.Compatibility

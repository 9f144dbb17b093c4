import Mathlib.Data.List.Nodup
import Fdai.StandingAuthority.Record

/-!
# What a parsed record has

A document that the schema accepts and that is parsed gives a record whose texts are stripped, whose
lists are as long as the schema asks and whose instants a `datetime` can name.

* `text_eq_ok`, `textTuple_eq_ok`, `instant_eq_ok`, … — what each field was read from.
* `IsText`, `AdmittedApproval`, `AdmittedPins`, … — what the parts of a record have.
* `Admitted` — what a record has; `admitted_of_fromMapping` — every parsed one has it.
-/

namespace Fdai.Core.StandingRecords

open Fdai.Documents Fdai.Documents.Check
open Fdai.JsonSchema (JsonType)

/-! ## Texts -/

/-- A text that is stripped and not empty. -/
def IsText (value : String) : Prop := strip value = value ∧ value ≠ ""

section

variable {host : Host} {value : Mapping} {key content raw : String} {core : List Char → Bool}

theorem isText_strip (nonempty : strip raw ≠ "") : IsText (strip raw) :=
  ⟨strip_strip raw, nonempty⟩

theorem text_eq_ok : text value key = .ok content ↔
    ∃ raw, value.lookup key = some (.text raw) ∧ strip raw = content ∧ content ≠ "" := by
  unfold text
  constructor
  · intro read
    split at read
    · rename_i raw found
      split at read
      · cases read
      rename_i nonempty
      obtain rfl := Except.ok.inj read
      exact ⟨raw, found, rfl, nonempty⟩
    · cases read
  · rintro ⟨raw, found, rfl, nonempty⟩
    rw [found]
    exact if_neg nonempty

theorem isText_of_text (read : text value key = .ok content) : IsText content := by
  obtain ⟨raw, -, rfl, nonempty⟩ := text_eq_ok.1 read
  exact isText_strip nonempty

/-- One of some texts without white space. -/
theorem mem_of_text {values : List String} (read : text value key = .ok content)
    (spaceless : ∀ value ∈ values, isSpaceless value = true)
    (accepted : ∀ json ∈ value.lookup key, textEnum values json = true) : content ∈ values := by
  obtain ⟨raw, found, rfl, -⟩ := text_eq_ok.1 read
  have isValue : raw ∈ values :=
    of_decide_eq_true (allOf_cons.1 (allOf_cons.1 (accepted _ found)).2).1
  rw [strip_of_isSpaceless (spaceless raw isValue)]
  exact isValue

theorem isText_of_optionalText {found : Option String}
    (read : optionalText value key = .ok found) : ∀ content ∈ found, IsText content := by
  unfold optionalText at read
  split at read
  · obtain rfl := Except.ok.inj read
    exact fun _ isContent => by cases isContent
  · obtain rfl := Except.ok.inj read
    exact fun _ isContent => by cases isContent
  · rcases isText : text value key with error | content
    · rw [isText] at read
      cases read
    rw [isText] at read
    obtain rfl := Except.ok.inj read
    intro content' isContent
    obtain rfl := Option.some.inj isContent
    exact isText_of_text isText

theorem textEntry_eq_ok {item : Json} : textEntry key item = .ok content ↔
    ∃ raw, item = .text raw ∧ strip raw = content ∧ content ≠ "" := by
  unfold textEntry
  constructor
  · intro read
    split at read
    · rename_i raw
      split at read
      · cases read
      rename_i nonempty
      obtain rfl := Except.ok.inj read
      exact ⟨raw, rfl, rfl, nonempty⟩
    · cases read
  · rintro ⟨raw, rfl, rfl, nonempty⟩
    exact if_neg nonempty

variable {contents : List String}

theorem textTuple_eq_ok : textTuple value key = .ok contents ↔
    ∃ items, value.lookup key = some (.list items) ∧ items.mapM (textEntry key) = .ok contents := by
  unfold textTuple
  constructor
  · intro read
    split at read
    · rename_i items found
      exact ⟨items, found, read⟩
    · cases read
  · rintro ⟨items, found, read⟩
    rw [found]
    exact read

theorem isText_of_textTuple
    (read : textTuple value key = .ok contents) : ∀ content ∈ contents, IsText content := by
  obtain ⟨items, -, mapped⟩ := textTuple_eq_ok.1 read
  refine forall_of_mapM mapped fun item _ content isContent => ?_
  obtain ⟨raw, -, rfl, nonempty⟩ := textEntry_eq_ok.1 isContent
  exact isText_strip nonempty

/-- A list of texts that the schema asks to have items has some. -/
theorem ne_nil_of_textTuple (read : textTuple value key = .ok contents)
    (accepted : ∀ json ∈ value.lookup key, minItems 1 json = true) : contents ≠ [] := by
  obtain ⟨items, found, mapped⟩ := textTuple_eq_ok.1 read
  have long : decide (1 ≤ items.length) = true := accepted _ found
  have length := length_of_mapM mapped
  rintro rfl
  rw [← length] at long
  cases long

theorem integer_eq_ok {number : ℤ} :
    integer value key = .ok number ↔ value.lookup key = some (.int number) := by
  unfold integer
  constructor
  · intro read
    split at read
    · rename_i raw found
      obtain rfl := Except.ok.inj read
      exact found
    · cases read
  · intro found
    rw [found]

theorem boolean_eq_ok {flag : Bool} :
    boolean value key = .ok flag ↔ value.lookup key = some (.bool flag) := by
  unfold boolean
  constructor
  · intro read
    split at read
    · rename_i raw found
      obtain rfl := Except.ok.inj read
      exact found
    · cases read
  · intro found
    rw [found]

/-- An integer that the schema bounds below. -/
theorem le_of_integer {number least : ℤ} (read : integer value key = .ok number)
    (accepted : ∀ json ∈ value.lookup key, allOf [ofType .integer, minimum least] json = true) :
    least ≤ number :=
  of_decide_eq_true (allOf_cons.1 (allOf_cons.1 (accepted _ (integer_eq_ok.1 read))).2).1

theorem instant_eq_ok {at_ : ℤ} : instant host value key = .ok at_ ↔
    ∃ raw, text value key = .ok raw ∧
      host.fromisoformat (replaceChars "Z" "+00:00" raw) = some (.aware at_) ∧
        InDatetimeRange at_ := by
  unfold instant
  rw [bind_eq_ok]
  refine exists_congr fun raw => and_congr_right fun _ => ?_
  constructor
  · intro read
    split at read
    · cases read
    · cases read
    · rename_i parsed found
      split at read
      · rename_i inRange
        obtain rfl := Except.ok.inj read
        exact ⟨found, inRange⟩
      · cases read
  · rintro ⟨found, inRange⟩
    rw [found]
    exact if_pos inRange

theorem inRange_of_instant {at_ : ℤ} (read : instant host value key = .ok at_) :
    InDatetimeRange at_ := by
  obtain ⟨-, -, -, inRange⟩ := instant_eq_ok.1 read
  exact inRange

/-- A pattern whose matches have no white space, and are not empty. -/
def Spaceless (core : List Char → Bool) : Prop :=
  ∀ chars, core chars = true → chars ≠ [] ∧ ∀ c ∈ chars, isSpace c = false

/-- **A pattern** that is found in a text matches it once it is stripped. -/
theorem core_of_anchored (spaceless : Spaceless core) (found : anchored core raw = true) :
    core (strip raw).toList = true := by
  unfold anchored at found
  rcases Bool.or_eq_true _ _ ▸ found with whole | before
  · rw [strip_of_noSpace (spaceless _ whole).2]
    exact whole
  obtain ⟨newline, matched⟩ := Bool.and_eq_true _ _ ▸ before
  have newline : raw.toList.getLast? = some '\n' := of_decide_eq_true newline
  have split : raw = String.ofList (raw.toList.dropLast ++ ['\n']) := by
    obtain ⟨init, isInit⟩ := List.getLast?_eq_some_iff.1 newline
    rw [isInit, List.dropLast_concat, ← isInit, String.ofList_toList]
  rw [split, strip_newline (spaceless _ matched).2, String.toList_ofList]
  exact matched

theorem isText_of_core (spaceless : Spaceless core) (matched : core content.toList = true) :
    IsText content := by
  obtain ⟨nonempty, noSpace⟩ := spaceless _ matched
  refine ⟨strip_of_noSpace noSpace, ?_⟩
  rintro rfl
  exact nonempty rfl

theorem core_of_text (spaceless : Spaceless core) (read : text value key = .ok content)
    (accepted : ∀ json ∈ value.lookup key,
      allOf [ofType .string, pattern (anchored core)] json = true) :
    core content.toList = true := by
  obtain ⟨raw, found, rfl, -⟩ := text_eq_ok.1 read
  have isFound := (allOf_cons.1 (allOf_cons.1 (accepted _ found)).2).1
  exact core_of_anchored spaceless isFound

end

/-! ## What the patterns match -/

theorem isSpace_of_isNameChar {c : Char} (isChar : isNameChar c = true) : isSpace c = false := by
  have code : c.toNat = 45 ∨ c.toNat = 46 ∨ c.toNat = 95 ∨ (97 ≤ c.toNat ∧ c.toNat ≤ 122) ∨
      (48 ≤ c.toNat ∧ c.toNat ≤ 57) := by
    unfold isNameChar isLowerAlphanumeric at isChar
    simp only [Bool.or_eq_true, Bool.and_eq_true, decide_eq_true_eq] at isChar
    rcases isChar with (((letter | digit) | rfl) | rfl) | rfl
    · exact .inr (.inr (.inr (.inl letter)))
    · exact .inr (.inr (.inr (.inr digit)))
    · exact .inr (.inl rfl)
    · exact .inr (.inr (.inl rfl))
    · exact .inl rfl
  unfold isSpace
  dsimp only
  simp only [Bool.or_eq_false_iff, Bool.and_eq_false_iff, decide_eq_false_iff_not,
    beq_eq_false_iff_ne]
  omega

theorem isName_spaceless : Spaceless isName := by
  intro chars matched
  rcases chars with _ | ⟨first, rest⟩
  · cases matched
  obtain ⟨isFirst, isRest⟩ := Bool.and_eq_true _ _ ▸ matched
  refine ⟨List.cons_ne_nil _ _, ?_⟩
  intro c isChar
  refine isSpace_of_isNameChar ?_
  rcases List.mem_cons.1 isChar with rfl | isChar
  · simp [isNameChar, isFirst]
  · exact List.all_eq_true.1 isRest c isChar

theorem isAuthorizationId_spaceless : Spaceless isAuthorizationId := by
  intro chars matched
  unfold isAuthorizationId at matched
  simp only [Bool.and_eq_true] at matched
  exact isName_spaceless chars matched.1.1

theorem mem_intercalate {mark c : Char} {parts : List (List Char)}
    (isChar : c ∈ [mark].intercalate parts) : c = mark ∨ ∃ part ∈ parts, c ∈ part := by
  induction parts with
  | nil => cases isChar
  | cons part rest ih =>
    rcases rest with _ | ⟨next, rest⟩
    · rw [List.intercalate_singleton] at isChar
      exact .inr ⟨part, List.mem_cons_self, isChar⟩
    rw [List.intercalate_cons_cons, List.append_assoc, List.mem_append, List.mem_append,
      List.mem_singleton] at isChar
    rcases isChar with here | isMark | later
    · exact .inr ⟨part, List.mem_cons_self, here⟩
    · exact .inl isMark
    · refine (ih later).imp_right ?_
      rintro ⟨part', isPart, isChar⟩
      exact ⟨part', List.mem_cons_of_mem _ isPart, isChar⟩

/-- A text in parts without white space, with a mark between them that is none. -/
theorem noSpace_of_splitOn {chars : List Char} {mark : Char} (isMark : isSpace mark = false)
    (parts : ∀ part ∈ chars.splitOn mark, ∀ c ∈ part, isSpace c = false) :
    ∀ c ∈ chars, isSpace c = false := by
  intro c isChar
  have joined : [mark].intercalate (chars.splitOn mark) = chars := List.intercalate_splitOn mark
  rw [← joined] at isChar
  rcases mem_intercalate isChar with rfl | ⟨part, isPart, isChar⟩
  · exact isMark
  · exact parts part isPart c isChar

section

variable {host : Host}

theorem isVersion_spaceless (lawful : host.Lawful) : Spaceless (isVersion host) := by
  intro chars matched
  unfold isVersion at matched
  split at matched
  · rename_i major minor patch split
    have digits : ∀ part ∈ [major, minor, patch],
        part.isEmpty = false ∧ ∀ c ∈ part, host.isDecimal c = true := by
      intro part isPart
      have here := List.all_eq_true.1 matched part isPart
      simpa using here
    constructor
    · rintro rfl
      cases split
    · refine noSpace_of_splitOn (show isSpace '.' = false by decide) ?_
      rw [split]
      intro part isPart c isChar
      exact lawful.decimal c ((digits part isPart).2 c isChar)
  · cases matched

theorem isActionVersion_spaceless (lawful : host.Lawful) : Spaceless (isActionVersion host) := by
  intro chars matched
  unfold isActionVersion at matched
  split at matched
  · rename_i name version split
    obtain ⟨isNamed, isVersioned⟩ := Bool.and_eq_true _ _ ▸ matched
    constructor
    · rintro rfl
      cases split
    · refine noSpace_of_splitOn (show isSpace '@' = false by decide) ?_
      rw [split]
      intro part isPart
      rcases List.mem_pair.1 isPart with rfl | rfl
      · exact (isName_spaceless _ isNamed).2
      · exact (isVersion_spaceless lawful _ isVersioned).2
  · cases matched

end

def IsTextList (contents : List String) : Prop :=
  contents ≠ [] ∧ ∀ content ∈ contents, IsText content

structure AdmittedApproval (approval : Approval) : Prop where
  principal : IsText approval.principal
  roles : approval.roles ≠ []
  distinct : approval.roles.Nodup
  approvedAt : InDatetimeRange approval.approvedAt

section

variable (host : Host)

structure AdmittedPins (pins : AuthorizationPins) : Prop where
  policyDigest : IsText pins.policyDigest
  targetRevision : IsText pins.targetRevision
  versioned : pins.actionTypeVersions ≠ []
  actionTypeVersions : ∀ version ∈ pins.actionTypeVersions,
    isActionVersion host version.toList = true
  evidenceRevisions : ∀ revision ∈ pins.evidenceRevisions, IsText revision

structure AdmittedEnvelope (envelope : AuthorizationEnvelope) : Prop where
  actionTypes : IsTextList envelope.actionTypes
  maxBlastRadius : 1 ≤ envelope.maxBlastRadius
  maxDurationSeconds : 1 ≤ envelope.maxDurationSeconds
  rollbackContract : envelope.rollbackContract ∈ rollbackValues
  stopConditions : IsTextList envelope.stopConditions

structure AdmittedResponders (responders : Responders) : Prop where
  primary : IsText responders.primary
  backup : IsText responders.backup
  confirmedAt : InDatetimeRange responders.confirmedAt

structure AdmittedEvidence (evidence : AuthorizationEvidence) : Prop where
  precedentRef : ∀ ref ∈ evidence.precedentRef, IsText ref
  scenarioEvidenceRef : ∀ ref ∈ evidence.scenarioEvidenceRef, IsText ref

/-- **What a record has** beside what its constructor checks. -/
structure Admitted (fields : AuthorizationFields) : Prop where
  schemaVersion : isVersion host fields.schemaVersion.toList = true
  id : isAuthorizationId fields.id.toList = true
  operatorPrincipal : ∀ operator ∈ fields.operatorPrincipal, IsText operator
  requestedBy : IsText fields.requestedBy
  approved : fields.approvals ≠ []
  severally : fields.approvalProfile = .multiOperator → 2 ≤ fields.approvals.length
  approvals : ∀ approval ∈ fields.approvals, AdmittedApproval approval
  validFrom : InDatetimeRange fields.validFrom
  validUntil : InDatetimeRange fields.validUntil
  serviceRef : IsText fields.serviceRef
  scope : IsText fields.scope.value
  pins : AdmittedPins host fields.pins
  envelope : AdmittedEnvelope fields.envelope
  incidentClasses : IsTextList fields.incidentClasses
  responders : AdmittedResponders fields.responders
  evidence : AdmittedEvidence fields.evidence

end

/-! ## Parsing admits -/

section

variable {host : Host} {value : Mapping} {item : Json}

/-- A member of an enumeration has the value that it is looked up by. -/
theorem value_of_member {α : Type} {kind raw : String} {members : List α} {valueOf : α → String}
    {found : α} (read : member kind members valueOf raw = .ok found) : valueOf found = raw := by
  unfold member at read
  split at read
  · rename_i candidate isFound
    obtain rfl := Except.ok.inj read
    have isValue := List.find?_some isFound
    exact of_decide_eq_true isValue
  · cases read

/-- A role as the schema names it. -/
theorem role_of_item {role : ApproverRole} (accepted : textEnum roleValues item = true)
    (read : (textEntry "roles" item >>= approverRole) = .ok role) : item = .text role.value := by
  obtain ⟨raw, isRaw, found⟩ := bind_eq_ok.1 read
  obtain ⟨given, rfl, rfl, -⟩ := textEntry_eq_ok.1 isRaw
  have isRole : given ∈ roleValues := of_decide_eq_true (allOf_cons.1 (allOf_cons.1 accepted).2).1
  have spaceless : ∀ value ∈ roleValues, isSpaceless value = true := by decide
  have stripped : strip given = given := strip_of_isSpaceless (spaceless given isRole)
  rw [value_of_member found, stripped]

theorem nodup_of_roles {items : List Json} {roles : List ApproverRole}
    (accepted : allOf [ofType .array, minItems 1, uniqueItems, Check.items (textEnum roleValues)]
      (.list items) = true)
    (read : (items.mapM fun item => do
      let raw ← textEntry "roles" item
      approverRole raw) = .ok roles) : roles ≠ [] ∧ roles.Nodup := by
  rw [allOf_cons, allOf_cons, allOf_cons, allOf_cons] at accepted
  obtain ⟨-, some_, unique, each, -⟩ := accepted
  have same : items = roles.map fun role => Json.text role.value := by
    have pairs := mapM_eq_ok_iff.1 read
    clear read some_ unique
    induction pairs with
    | nil => rfl
    | cons isRole _ ih =>
      obtain ⟨here, others⟩ := Bool.and_eq_true _ _ ▸ each
      rw [List.map_cons, ← ih others, role_of_item here isRole]
  have length : 1 ≤ items.length := of_decide_eq_true some_
  have distinct : (Json.canonicalItems items).Nodup := of_decide_eq_true unique
  constructor
  · rintro rfl
    subst same
    exact absurd length (by decide)
  · rw [Json.canonicalItems_eq_map, same, List.map_map] at distinct
    exact List.Nodup.of_map _ distinct

theorem admittedApproval_of_approval {item : Mapping} {read : Approval}
    (accepted : approvalSchema (.object item) = true) (parsed : approval host item = .ok read) :
    AdmittedApproval read := by
  obtain ⟨principal, isPrincipal, parsed⟩ := bind_eq_ok.1 parsed
  obtain ⟨roles, isRoles, parsed⟩ := bind_eq_ok.1 parsed
  obtain ⟨approvedAt, isInstant, parsed⟩ := bind_eq_ok.1 parsed
  obtain rfl := Except.ok.inj parsed
  have object := (allOf_cons.1 accepted).1
  have admittedRoles : roles ≠ [] ∧ roles.Nodup := by
    unfold approvalRoles at isRoles
    split at isRoles
    · obtain ⟨_, -, isRoles⟩ := bind_eq_ok.1 isRoles
      obtain ⟨role, -, isRoles⟩ := bind_eq_ok.1 isRoles
      obtain rfl := Except.ok.inj isRoles
      exact ⟨List.cons_ne_nil _ _, List.nodup_singleton role⟩
    · obtain ⟨_, -, isRoles⟩ := bind_eq_ok.1 isRoles
      obtain ⟨role, -, isRoles⟩ := bind_eq_ok.1 isRoles
      obtain rfl := Except.ok.inj isRoles
      exact ⟨List.cons_ne_nil _ _, List.nodup_singleton role⟩
    · rename_i items found
      exact nodup_of_roles (accepts_field object rfl _ found) isRoles
    · cases isRoles
  exact ⟨isText_of_text isPrincipal, admittedRoles.1, admittedRoles.2, inRange_of_instant isInstant⟩

variable {key : String}

theorem mapping_eq_ok {child : Mapping} :
    mapping value key = .ok child ↔ value.lookup key = some (.object child) := by
  unfold mapping
  constructor
  · intro read
    split at read
    · rename_i fields found
      obtain rfl := Except.ok.inj read
      exact found
    · cases read
  · intro found
    rw [found]

theorem core_of_textTuple {core : List Char → Bool} {contents : List String}
    (spaceless : Spaceless core) (read : textTuple value key = .ok contents)
    (accepted : ∀ json ∈ value.lookup key, allOf [ofType .array, minItems 1,
      Check.items (allOf [ofType .string, pattern (anchored core)])] json = true) :
    ∀ content ∈ contents, core content.toList = true := by
  obtain ⟨items, found, mapped⟩ := textTuple_eq_ok.1 read
  have each := List.all_eq_true.1
    (allOf_cons.1 (allOf_cons.1 (allOf_cons.1 (accepted _ found)).2).2).1
  refine forall_of_mapM mapped fun item isItem content isContent => ?_
  obtain ⟨raw, rfl, rfl, -⟩ := textEntry_eq_ok.1 isContent
  exact core_of_anchored spaceless (allOf_cons.1 (allOf_cons.1 (each _ isItem)).2).1

theorem isTextList_of_textTuple {contents : List String} (read : textTuple value key = .ok contents)
    (accepted : ∀ json ∈ value.lookup key, allOf (minItems 1 :: textItems) json = true) :
    IsTextList contents := by
  refine ⟨ne_nil_of_textTuple read ?_, isText_of_textTuple read⟩
  intro json found
  exact (allOf_cons.1 (accepted json found)).1

theorem admittedPins_of_pins (lawful : host.Lawful) {read : AuthorizationPins}
    (accepted : ∀ json ∈ value.lookup "pins", pinsSchema host json = true)
    (parsed : pins value = .ok read) : AdmittedPins host read := by
  obtain ⟨child, isChild, parsed⟩ := bind_eq_ok.1 parsed
  obtain ⟨policyDigest, isPolicyDigest, parsed⟩ := bind_eq_ok.1 parsed
  obtain ⟨targetRevision, isTargetRevision, parsed⟩ := bind_eq_ok.1 parsed
  obtain ⟨versions, isVersions, parsed⟩ := bind_eq_ok.1 parsed
  obtain ⟨revisions, isRevisions, parsed⟩ := bind_eq_ok.1 parsed
  obtain rfl := Except.ok.inj parsed
  have object : pinsSchema host (.object child) = true := accepted _ (mapping_eq_ok.1 isChild)
  have versionSchema : ∀ json ∈ child.lookup "action_type_versions", _ := accepts_field object rfl
  exact {
    policyDigest := isText_of_text isPolicyDigest
    targetRevision := isText_of_text isTargetRevision
    versioned := by
      refine ne_nil_of_textTuple isVersions fun json found => ?_
      exact (allOf_cons.1 (allOf_cons.1 (versionSchema json found)).2).1
    actionTypeVersions := core_of_textTuple (isActionVersion_spaceless lawful) isVersions
      versionSchema
    evidenceRevisions := isText_of_textTuple isRevisions }

theorem admittedEnvelope_of_envelope {read : AuthorizationEnvelope}
    (accepted : ∀ json ∈ value.lookup "envelope", envelopeSchema json = true)
    (parsed : envelope value = .ok read) : AdmittedEnvelope read := by
  obtain ⟨child, isChild, parsed⟩ := bind_eq_ok.1 parsed
  obtain ⟨actionTypes, isActionTypes, parsed⟩ := bind_eq_ok.1 parsed
  obtain ⟨maxBlastRadius, isRadius, parsed⟩ := bind_eq_ok.1 parsed
  obtain ⟨maxDurationSeconds, isDuration, parsed⟩ := bind_eq_ok.1 parsed
  obtain ⟨reversible, -, parsed⟩ := bind_eq_ok.1 parsed
  obtain ⟨rollbackContract, isRollback, parsed⟩ := bind_eq_ok.1 parsed
  obtain ⟨stopConditions, isStop, parsed⟩ := bind_eq_ok.1 parsed
  obtain rfl := Except.ok.inj parsed
  have object : envelopeSchema (.object child) = true := accepted _ (mapping_eq_ok.1 isChild)
  exact {
    actionTypes := isTextList_of_textTuple isActionTypes (accepts_field object rfl)
    maxBlastRadius := le_of_integer isRadius (accepts_field object rfl)
    maxDurationSeconds := le_of_integer isDuration (accepts_field object rfl)
    rollbackContract := mem_of_text isRollback (by decide) (accepts_field object rfl)
    stopConditions := isTextList_of_textTuple isStop (accepts_field object rfl) }

theorem admittedResponders_of_responders {read : Responders}
    (parsed : responders host value = .ok read) : AdmittedResponders read := by
  obtain ⟨child, -, parsed⟩ := bind_eq_ok.1 parsed
  obtain ⟨primary, isPrimary, parsed⟩ := bind_eq_ok.1 parsed
  obtain ⟨backup, isBackup, parsed⟩ := bind_eq_ok.1 parsed
  obtain ⟨confirmedAt, isConfirmedAt, parsed⟩ := bind_eq_ok.1 parsed
  obtain rfl := Except.ok.inj parsed
  exact ⟨isText_of_text isPrimary, isText_of_text isBackup, inRange_of_instant isConfirmedAt⟩

theorem admittedEvidence_of_evidence {read : AuthorizationEvidence}
    (parsed : evidence value = .ok read) : AdmittedEvidence read := by
  obtain ⟨child, -, parsed⟩ := bind_eq_ok.1 parsed
  obtain ⟨historyReviewed, -, parsed⟩ := bind_eq_ok.1 parsed
  obtain ⟨precedentRef, isPrecedent, parsed⟩ := bind_eq_ok.1 parsed
  obtain ⟨scenarioEvidenceRef, isScenario, parsed⟩ := bind_eq_ok.1 parsed
  obtain rfl := Except.ok.inj parsed
  exact ⟨isText_of_optionalText isPrecedent, isText_of_optionalText isScenario⟩

theorem isText_of_scope {read : AuthorizationScope} (parsed : scope value = .ok read) :
    IsText read.value := by
  obtain ⟨child, -, parsed⟩ := bind_eq_ok.1 parsed
  obtain ⟨rawLevel, -, parsed⟩ := bind_eq_ok.1 parsed
  obtain ⟨level, -, parsed⟩ := bind_eq_ok.1 parsed
  obtain ⟨content, isContent, parsed⟩ := bind_eq_ok.1 parsed
  obtain rfl := Except.ok.inj parsed
  exact isText_of_text isContent

theorem sequence_eq_ok {items : List Mapping} :
    sequence value key = .ok items ↔ value.lookup key = some (.list (items.map .object)) := by
  unfold sequence
  constructor
  · intro read
    split at read
    · rename_i jsons found
      rw [found]
      have pairs := mapM_eq_ok_iff.1 read
      clear found read
      induction pairs with
      | nil => rfl
      | cons isObject _ ih =>
        split at isObject
        · obtain rfl := Except.ok.inj isObject
          rw [Option.some.inj ih |> Json.list.inj]
          rfl
        · cases isObject
    · cases read
  · intro found
    rw [found]
    refine mapM_eq_ok_iff.2 ?_
    rw [List.forall₂_map_left_iff]
    exact List.forall₂_same.2 fun _ _ => rfl

theorem severalOperators_of_profile (accepted : ∀ json ∈ value.lookup "approval_profile",
      textEnum ["multi-operator", "single-operator-production"] json = true)
    (read : approvalProfile value = .ok .multiOperator) :
    severalOperators (.object value) = true := by
  rcases found : value.lookup "approval_profile" with _ | json
  · simp [severalOperators, anyOf, refuses, required, found]
  obtain ⟨raw, isRaw, rfl⟩ := enum_iff.1 (allOf_cons.1 (allOf_cons.1 (accepted _ found)).2).1
  unfold approvalProfile at read
  rw [found] at read
  obtain ⟨content, isContent, isProfile⟩ := bind_eq_ok.1 read
  obtain rfl := value_of_member isProfile
  have spaceless : ∀ value ∈ ["multi-operator", "single-operator-production"],
      isSpaceless value = true := by decide
  obtain ⟨raw', found', stripped, -⟩ := text_eq_ok.1 isContent
  obtain rfl := Json.text.inj (Option.some.inj (found.symm.trans found'))
  rw [strip_of_isSpaceless (spaceless raw isRaw)] at stripped
  subst stripped
  simp [severalOperators, anyOf, allOf, refuses, required, properties, constText, enum, found,
    ApprovalProfile.value]

theorem two_le_of_severalOperators {items : List Json}
    (accepted : allOf profileRules (.object value) = true)
    (several : severalOperators (.object value) = true)
    (found : value.lookup "approvals" = some (.list items)) : 2 ≤ items.length := by
  have rule := (allOf_cons.1 accepted).1
  unfold ifThen at rule
  rw [several, Bool.not_true, Bool.false_or, allOf_cons, allOf_cons] at rule
  have approvals := (Bool.and_eq_true _ _ ▸ rule.2.1).1
  dsimp only at approvals
  rw [found] at approvals
  exact of_decide_eq_true (allOf_cons.1 approvals).1

/-- **Parsing admits**: what the schema asks of a document, its record has. -/
theorem admitted_of_fromMapping (lawful : host.Lawful) {authorization : StandingAuthorization}
    (parsed : fromMapping host value = .ok authorization) : Admitted host authorization.val := by
  obtain ⟨accepted, parsed⟩ := check_bind_eq_ok.1 parsed
  rw [validate_cons_eq_ok] at accepted
  obtain ⟨fields, isFields, parsed⟩ := bind_eq_ok.1 parsed
  obtain same := construct_eq_ok.1 parsed
  rw [same]
  obtain ⟨object, profiles, -⟩ := allOf_cons.1 accepted.1 |>.imp_right allOf_cons.1
  unfold readFields at isFields
  obtain ⟨schemaVersion, isVersion, isFields⟩ := bind_eq_ok.1 isFields
  obtain ⟨id, isId, isFields⟩ := bind_eq_ok.1 isFields
  obtain ⟨revision, -, isFields⟩ := bind_eq_ok.1 isFields
  obtain ⟨profile, isProfile, isFields⟩ := bind_eq_ok.1 isFields
  obtain ⟨operator, isOperator, isFields⟩ := bind_eq_ok.1 isFields
  obtain ⟨_, -, isFields⟩ := bind_eq_ok.1 isFields
  obtain ⟨status, -, isFields⟩ := bind_eq_ok.1 isFields
  obtain ⟨_, -, isFields⟩ := bind_eq_ok.1 isFields
  obtain ⟨mode, -, isFields⟩ := bind_eq_ok.1 isFields
  obtain ⟨requestedBy, isRequester, isFields⟩ := bind_eq_ok.1 isFields
  obtain ⟨items, isItems, isFields⟩ := bind_eq_ok.1 isFields
  obtain ⟨approvals, areApprovals, isFields⟩ := bind_eq_ok.1 isFields
  obtain ⟨quorum, -, isFields⟩ := bind_eq_ok.1 isFields
  obtain ⟨validFrom, isFrom, isFields⟩ := bind_eq_ok.1 isFields
  obtain ⟨validUntil, isUntil, isFields⟩ := bind_eq_ok.1 isFields
  obtain ⟨serviceRef, isService, isFields⟩ := bind_eq_ok.1 isFields
  obtain ⟨scope, isScope, isFields⟩ := bind_eq_ok.1 isFields
  obtain ⟨pins, arePins, isFields⟩ := bind_eq_ok.1 isFields
  obtain ⟨envelope, isEnvelope, isFields⟩ := bind_eq_ok.1 isFields
  obtain ⟨classes, areClasses, isFields⟩ := bind_eq_ok.1 isFields
  obtain ⟨responders, areResponders, isFields⟩ := bind_eq_ok.1 isFields
  obtain ⟨evidence, isEvidence, isFields⟩ := bind_eq_ok.1 isFields
  obtain rfl := Except.ok.inj isFields
  have isList := sequence_eq_ok.1 isItems
  have listed := accepts_field object rfl _ isList
  rw [allOf_cons, allOf_cons, allOf_cons] at listed
  obtain ⟨-, some_, each, -⟩ := listed
  have length := length_of_mapM areApprovals
  exact {
    schemaVersion := core_of_text (isVersion_spaceless lawful) isVersion (accepts_field object rfl)
    id := core_of_text isAuthorizationId_spaceless isId (accepts_field object rfl)
    operatorPrincipal := isText_of_optionalText isOperator
    requestedBy := isText_of_text isRequester
    approved := by
      rintro rfl
      have long : 1 ≤ (items.map Json.object).length := of_decide_eq_true some_
      rw [List.length_map, ← length] at long
      exact absurd long (by decide)
    severally := by
      rintro rfl
      have several := severalOperators_of_profile (accepts_field object rfl) isProfile
      have long := two_le_of_severalOperators profiles several isList
      rwa [List.length_map, ← length] at long
    approvals := by
      refine forall_of_mapM areApprovals fun item isItem approval isApproval => ?_
      refine admittedApproval_of_approval ?_ isApproval
      exact List.all_eq_true.1 each _ (List.mem_map_of_mem isItem)
    validFrom := inRange_of_instant isFrom
    validUntil := inRange_of_instant isUntil
    serviceRef := isText_of_text isService
    scope := isText_of_scope isScope
    pins := admittedPins_of_pins lawful (accepts_field object rfl) arePins
    envelope := admittedEnvelope_of_envelope (accepts_field object rfl) isEnvelope
    incidentClasses := isTextList_of_textTuple areClasses (accepts_field object rfl)
    responders := admittedResponders_of_responders areResponders
    evidence := admittedEvidence_of_evidence isEvidence }

end

end Fdai.Core.StandingRecords

import RuleArena.Foundation.JsonText
import RuleArena.Foundation.Table
import RuleArena.Oracle.Evaluator
import RuleArena.Runtime.Dispatch

/-!
# Compiling policies

A model is asked up to three times for the rules that a text describes, and is told why
its last reply was no good. What it replies is arbitrary: a text, read as a rule
specification if it is one, or an error. A reply is taken if it passes
`validateRuleSpec`, and compiled at once if it leaves no question and the text is not
vague; otherwise the user has to confirm it with a specification of their own.

Confirmed versions are numbered, valid and never changed, and the same content is
confirmed once (`PolicyService.versions_sound`).
-/

namespace RuleArena

/-! ## Rule specifications -/

structure SpecAmbiguity where
  ambiguityId : String
  fieldPath : String
  question : String
  deriving DecidableEq

/-- A rule specification, with what the compiler reads of it, and the JSON form of the whole
    (`model_dump`). -/
structure SpecDocument where
  ruleSpec : RuleSpec
  participantIds : List String
  assetIds : List String
  invariantIds : List String
  ambiguities : List SpecAmbiguity := []
  dump : Json
  deriving DecidableEq

/-- What the compiler takes from the libraries: how a reply is read, and texts without case. -/
class SpecReader where
  loads : String → Except String Json
  modelValidateJson : String → Except String SpecDocument
  casefold : String → String

def SpecDocument.scenarioType (spec : SpecDocument) : ScenarioType := spec.ruleSpec.scenarioType

/-- `BUILTIN_TEMPLATES` -/
def builtinTemplates : String → Option ScenarioType
  | "promotion" => some .promotion
  | "refund-points" => some .refundPoints
  | "membership-entitlement" => some .membershipEntitlement
  | _ => none

/-- `_FORBIDDEN_TEXT` -/
def forbiddenText : List String :=
  ["```", "eval(", "exec(", "__import__", "import os", "import subprocess", "select ", "insert ",
    "update ", "delete ", "\x7b\x7b", "\x7b%", "$\x7b"]

/-- `_VAGUE_MARKERS` -/
def vagueMarkers : List String :=
  ["看着办", "你决定", "酌情", "视情况", "适当", "尽量", "大致", "大概", "左右", "一些", "若干",
    "随意"]

/-- `token in text` -/
def Occurs (token text : String) : Prop := token.toList <:+: text.toList

instance (token text : String) : Decidable (Occurs token text) :=
  inferInstanceAs (Decidable (_ <:+: _))

namespace Json

mutual

/-- The text of `json.dumps` with its own separators. -/
def spaced : Json → List Char
  | arr items => '[' :: spacedArr items
  | obj members => Char.ofNat 123 :: spacedObj members
  | j => j.render

def spacedArr : List Json → List Char
  | [] => [']']
  | a :: as => spaced a ++ spacedItems as

def spacedItems : List Json → List Char
  | [] => [']']
  | a :: as => ',' :: ' ' :: (spaced a ++ spacedItems as)

def spacedObj : List (String × Json) → List Char
  | [] => [Char.ofNat 125]
  | (k, a) :: as =>
    '"' :: (renderChars k.toList ++ ':' :: ' ' :: (spaced a ++ spacedMembers as))

def spacedMembers : List (String × Json) → List Char
  | [] => [Char.ofNat 125]
  | (k, a) :: as =>
    ',' :: ' ' :: '"' :: (renderChars k.toList ++ ':' :: ' ' :: (spaced a ++ spacedMembers as))

end

end Json

section Reader

variable [SpecReader]

/-- `_contains_dynamic_code` -/
def ContainsDynamicCode (value : String) : Prop :=
  ∃ token ∈ forbiddenText, Occurs token (SpecReader.casefold value)

instance (value : String) : Decidable (ContainsDynamicCode value) :=
  inferInstanceAs (Decidable (∃ _ ∈ _, _))

/-- `validate_rule_spec` -/
def validateRuleSpec (spec : SpecDocument) (expected : ScenarioType) : List String :=
  (if spec.scenarioType ≠ expected then
    ["scenario_type does not match the selected template"] else []) ++
  (if ¬ spec.participantIds.Nodup then ["participant references must be unique"] else []) ++
  (if ¬ spec.assetIds.Nodup then ["asset references must be unique"] else []) ++
  (if ¬ spec.invariantIds.Nodup then ["invariant references must be unique"] else []) ++
  (if "" ∈ spec.participantIds ++ spec.assetIds then ["references must not be empty"] else []) ++
  (if ContainsDynamicCode (String.ofList spec.dump.sortKeys.spaced) then
    ["dynamic code, SQL, and template expressions are forbidden"] else [])

theorem scenarioType_of_valid {spec : SpecDocument} {expected : ScenarioType}
    (h : validateRuleSpec spec expected = []) : spec.scenarioType = expected := by
  by_contra other
  rw [validateRuleSpec, if_pos other] at h
  cases h

/-! ## Suggestions -/

/-- A segment of a field path: a name, and the digits of an index. -/
def fieldSegment (segment : List Char) : Option (String × Option (List Nat)) :=
  let name := segment.takeWhile fun c => c ≠ '[' ∧ c ≠ ']'
  if name = [] then none
  else
    match segment.dropWhile fun c => c ≠ '[' ∧ c ≠ ']' with
    | [] => some (String.ofList name, none)
    | '[' :: rest =>
      match spanDigits rest with
      | (d :: ds, [']']) | (d :: ds, [']', '\n']) => some (String.ofList name, some (d :: ds))
      | _ => none
    | _ => none

/-- `value_at_path`: an index of more than 4300 digits cannot be read. -/
def valueAtPath : Json → List (List Char) → Except PyException (Option Json)
  | current, [] => .ok (some current)
  | current, segment :: path =>
    match fieldSegment segment with
    | none => .ok none
    | some (name, index) =>
      match current.get? name, index with
      | none, _ => .ok none
      | some value, none => valueAtPath value path
      | some (.arr items), some digits =>
        if 4300 < digits.length then .error .valueError
        else
          match items[ofDigits digits]? with
          | none => .ok none
          | some item => valueAtPath item path
      | some _, some _ => .ok none

/-- `suggestion_for` -/
def suggestionFor (spec : SpecDocument) (fieldPath : String) : Except PyException (Option String) := do
  match ← valueAtPath spec.dump (fieldPath.toList.splitOn '.') with
  | none | some .null => return none
  | some value => return some (String.ofList value.render)

/-! ## Compiling -/

inductive CompileStatus
  | compiled
  | needsConfirmation
  | unsupportedRule
  | rejected
  deriving DecidableEq, Repr

structure ConfirmationQuestion where
  questionId : String
  fieldPath : String
  question : String
  suggestion : Option String := none
  deriving DecidableEq

structure CompileResult where
  status : CompileStatus
  templateId : String
  ruleSpec : Option SpecDocument := none
  questions : List ConfirmationQuestion := []
  errors : List String := []
  deriving DecidableEq

/-- What comes of asking the model: a text, an exception that counts as a bad reply, a failure of
    the transport or another error of HTTP, or any other exception. -/
inductive ModelReply
  | content (text : String)
  | invalid (message : String)
  | transportError
  | httpError
  | raised
  deriving DecidableEq

/-- How the attempts end: with the last errors and the last specification, and whether the
    transport has failed once; with a provider that is not available; or with an exception. -/
inductive AttemptsEnd
  | finished (errors : List String) (spec : Option SpecDocument) (transportFailed : Bool)
  | unavailable
  | raised

/-- A reply as a specification, or why it is none. -/
def readReply (text : String) : Except String SpecDocument := do
  match ← SpecReader.loads text with
  | .obj _ => SpecReader.modelValidateJson text
  | _ => throw "structured response must be an object"

/-- The attempts that are left, by their numbers. -/
def attemptAll (scenario : ScenarioType) (replies : Nat → ModelReply) :
    List Nat → List String → Option SpecDocument → Bool → AttemptsEnd
  | [], errors, spec, transportFailed => .finished errors spec transportFailed
  | attempt :: attempts, errors, spec, transportFailed =>
    match replies attempt with
    | .content text =>
      match readReply text with
      | .error message => attemptAll scenario replies attempts [message] spec transportFailed
      | .ok spec =>
        let errors := validateRuleSpec spec scenario
        if errors = [] then .finished [] (some spec) transportFailed
        else attemptAll scenario replies attempts errors (some spec) transportFailed
    | .invalid message => attemptAll scenario replies attempts [message] spec transportFailed
    | .transportError =>
      if attempt = 2 then .unavailable
      else attemptAll scenario replies attempts errors spec true
    | .httpError => .unavailable
    | .raised => .raised

/-- The questions that a specification leaves. -/
def specQuestions (spec : SpecDocument) : Except PyException (List ConfirmationQuestion) :=
  spec.ambiguities.mapM fun item => do
    return { questionId := item.ambiguityId, fieldPath := item.fieldPath, question := item.question
             suggestion := ← suggestionFor spec item.fieldPath }

/-- The markers of a vague text. -/
def matchedMarkers (text : String) : List String := vagueMarkers.filter (Occurs · text)

/-- The question that a vague text leaves. -/
def vagueQuestion (markers : List String) : ConfirmationQuestion where
  questionId := "vague-rule-text"
  fieldPath := "chinese_modification"
  question := "规则文本包含模糊表述（" ++ "、".intercalate markers ++
    "），编译出的默认值未必符合你的意图；请修改文本或确认接受当前编译结果。"

/-- After the attempts. -/
def concludeCompile (templateId text : String) (errors : List String) (spec : Option SpecDocument)
    (transportFailed : Bool) : Except PyException CompileResult :=
  match spec, errors with
  | some spec, [] => do
    let asked ← specQuestions spec
    let questions := if asked = [] ∧ matchedMarkers text ≠ [] then
      [vagueQuestion (matchedMarkers text)] else asked
    let status := if questions = [] then .compiled else .needsConfirmation
    return { status, templateId, ruleSpec := some spec, questions }
  | _, errors => .ok {
    status := .rejected
    templateId
    errors := if errors ≠ [] then errors
      else if transportFailed then ["model provider unavailable"]
      else ["model returned no conforming RuleSpec"] }

/-- `RuleCompiler.compile`, or `none` where an exception leaves it. -/
def RuleCompiler.compile (templates : String → Option ScenarioType) (templateId text : String)
    (replies : Nat → ModelReply) : Option CompileResult :=
  match templates templateId with
  | none => some {
      status := .unsupportedRule, templateId
      errors := ["unknown template or unsupported scenario"] }
  | some scenario =>
    if strip text.toList = [] ∨ ContainsDynamicCode text then
      some { status := .rejected, templateId
             errors := ["empty or executable rule text is not allowed"] }
    else
      match attemptAll scenario replies [0, 1, 2] [] none false with
      | .finished errors spec transportFailed =>
        (concludeCompile templateId text errors spec transportFailed).toOption
      | .unavailable => some {
          status := .rejected, templateId, errors := ["model provider unavailable"] }
      | .raised => none

/-! ## Policies -/

/-- The digest under which the content of a version is found again. -/
def contentDigest [Python] (templateId : String) (spec : SpecDocument) : String :=
  Python.sha256 (Json.canonical (.obj [("template_id", .str templateId), ("rule_spec", spec.dump),
    ("schema_version", .str "1.0")]))

/-- The policies: the confirmed versions, and the last draft of each. -/
structure PolicyService where
  store : RuleVersionStore SpecDocument := {}
  drafts : String → Option CompileResult := fun _ => none

/-- The answer to a confirmation: a version, a status code with its details, or an exception. -/
inductive ConfirmReply
  | version (version : RuleVersion SpecDocument)
  | refused (status : Nat) (detail : List String)
  | raised

/-- A call, with the identifier that is drawn for a new policy or version. -/
inductive PolicyCall
  | compile (policyId templateId text : String) (replies : Nat → ModelReply)
  | confirm (policyId : String) (confirmed : Option SpecDocument) (versionId : String)

/-- The identifier that is drawn for a new version. -/
def PolicyCall.versionId? : PolicyCall → Option String
  | compile .. => none
  | confirm _ _ versionId => some versionId

namespace PolicyService

variable [Python] (templates : String → Option ScenarioType) (service : PolicyService)

/-- `compile`: the draft is recorded, unless an exception leaves the compiler. -/
def compile (policyId templateId text : String) (replies : Nat → ModelReply) : PolicyService :=
  match RuleCompiler.compile templates templateId text replies with
  | none => service
  | some result => { service with drafts := insertEntry service.drafts policyId result }

/-- What is confirmed: the draft, or in its place a specification of the user. -/
def resultToConfirm (policyId : String) (confirmed : Option SpecDocument) :
    Except ConfirmReply CompileResult :=
  match service.drafts policyId, confirmed with
  | none, _ => .error (.refused 404 ["policy draft not found"])
  | some draft, none => .ok draft
  | some draft, some spec => do
    ensure (draft.status = .needsConfirmation)
      (.refused 409 ["confirmed_rule_spec is only accepted for an ambiguous draft"])
    ensure (spec.ambiguities = []) (.refused 409 ["ambiguities remain unresolved"])
    match templates draft.templateId with
    | none => .error .raised
    | some scenario =>
      ensure (validateRuleSpec spec scenario = []) (.refused 422 (validateRuleSpec spec scenario))
      return { status := .compiled, templateId := draft.templateId, ruleSpec := some spec }

/-- The specification of a result that may be confirmed. -/
def confirmable (result : CompileResult) : Except ConfirmReply SpecDocument :=
  match result.status, result.ruleSpec with
  | .compiled, some spec =>
    match builtinTemplates result.templateId with
    | some scenario => do
      ensure (validateRuleSpec spec scenario = [])
        (.refused 409 ["compiled RuleSpec failed deterministic confirmation validation"])
      return spec
    | none =>
      .error (.refused 409 ["compiled RuleSpec failed deterministic confirmation validation"])
  | _, _ => .error (.refused 409
      ["all ambiguities must be explicitly resolved and recompiled before confirmation"])

/-- `RuleVersionStore.confirm` -/
def storeVersion (policyId versionId : String) (result : CompileResult) :
    Except ConfirmReply (PolicyService × RuleVersion SpecDocument) := do
  let spec ← confirmable result
  let digest := contentDigest result.templateId spec
  let store := service.store.confirm contentDigest versionId policyId result.templateId spec
  match store.get ((service.store.byContent (policyId, digest)).getD versionId) with
  | some version => return ({ service with store }, version)
  | none => throw .raised

/-- `confirm` -/
def confirm (policyId : String) (confirmed : Option SpecDocument) (versionId : String) :
    PolicyService × ConfirmReply :=
  match service.resultToConfirm templates policyId confirmed >>=
      service.storeVersion policyId versionId with
  | .ok (service, version) => (service, .version version)
  | .error reply => (service, reply)

def call : PolicyCall → PolicyService
  | .compile policyId templateId text replies =>
    service.compile templates policyId templateId text replies
  | .confirm policyId confirmed versionId => (service.confirm templates policyId confirmed versionId).1

/-- The service after calls. -/
def after (calls : List PolicyCall) : PolicyService := calls.foldl (call templates) service

/-- The specification of a version is that of a draft that left no question, of a text that is not
    vague. -/
def Drafted (calls : List PolicyCall) (version : RuleVersion SpecDocument) : Prop :=
  ∃ text replies, .compile version.policyId version.templateId text replies ∈ calls ∧
    RuleCompiler.compile templates version.templateId text replies = some {
      status := .compiled, templateId := version.templateId, ruleSpec := some version.ruleSpec } ∧
    matchedMarkers text = []

/-- The specification of a version was supplied by the user. -/
def Supplied (calls : List PolicyCall) (version : RuleVersion SpecDocument) : Prop :=
  ∃ versionId, .confirm version.policyId (some version.ruleSpec) versionId ∈ calls

/-- A version is valid: its specification is of the scenario of its template, passes validation,
    leaves nothing open, and was compiled or supplied. -/
structure Valid (calls : List PolicyCall) (version : RuleVersion SpecDocument) : Prop where
  scenario : builtinTemplates version.templateId = some version.ruleSpec.scenarioType
  valid : validateRuleSpec version.ruleSpec version.ruleSpec.scenarioType = []
  resolved : version.ruleSpec.ambiguities = []
  origin : Drafted templates calls version ∨ Supplied calls version

/-- The versions of a policy. -/
def versionsOf (policyId : String) : List (RuleVersion SpecDocument) :=
  service.store.versions.filter fun version => version.policyId = policyId

/-- What holds of the service after calls. -/
structure Recorded (calls : List PolicyCall) (service : PolicyService) : Prop where
  drafts : ∀ policyId draft, service.drafts policyId = some draft → ∃ templateId text replies,
    .compile policyId templateId text replies ∈ calls ∧
      RuleCompiler.compile templates templateId text replies = some draft
  drawn : ∀ version ∈ service.store.versions, version.versionId ∈ calls.filterMap PolicyCall.versionId?
  keyed : (service.store.versions.map RuleVersion.versionId).Nodup
  content : ∀ version ∈ service.store.versions, service.store.byContent
    (version.policyId, contentDigest version.templateId version.ruleSpec) = some version.versionId
  numbered : ∀ policyId, (service.versionsOf policyId).map RuleVersion.version =
    List.range' 1 (service.versionsOf policyId).length
  valid : ∀ version ∈ service.store.versions, Valid templates calls version

/-- The versions after calls are append-only and valid: those of a policy are numbered, every version
    is valid, later calls change none, and content that is there is confirmed as the version that is
    there. -/
structure VersionsSound (calls : List PolicyCall) : Prop where
  numbered : ∀ policyId, ((after templates {} calls).versionsOf policyId).map RuleVersion.version =
    List.range' 1 ((after templates {} calls).versionsOf policyId).length
  valid : ∀ version ∈ (after templates {} calls).store.versions, Valid templates calls version
  kept : ∀ later, (after templates {} calls).store.versions <+:
    (after templates {} (calls ++ later)).store.versions
  again : ∀ version ∈ (after templates {} calls).store.versions, ∀ confirmed versionId result,
    (after templates {} calls).resultToConfirm templates version.policyId confirmed = .ok result →
    result.status = .compiled → result.templateId = version.templateId →
    result.ruleSpec = some version.ruleSpec →
      (after templates {} calls).confirm templates version.policyId confirmed versionId =
        (after templates {} calls, .version version)

/-! ## What is compiled -/

variable {templates} {service}

omit [SpecReader] [Python] in
theorem ambiguities_of_specQuestions {spec : SpecDocument} (h : specQuestions spec = .ok []) :
    spec.ambiguities = [] := by
  unfold specQuestions at h
  cases open' : spec.ambiguities with
  | nil => rfl
  | cons item items =>
    rw [open', List.mapM_cons] at h
    obtain ⟨_, -, h⟩ := Checked.bind_eq_ok.1 h
    obtain ⟨_, -, h⟩ := Checked.bind_eq_ok.1 h
    cases Checked.pure_eq_ok.1 h

omit [Python] in
/-- What is compiled at once leaves nothing open, and its text is not vague. -/
theorem compile_compiled {templateId text : String} {replies : Nat → ModelReply}
    {draft : CompileResult}
    (h : RuleCompiler.compile templates templateId text replies = some draft)
    (compiled : draft.status = .compiled) :
    ∃ spec, draft = { status := .compiled, templateId, ruleSpec := some spec } ∧
      spec.ambiguities = [] ∧ matchedMarkers text = [] := by
  unfold RuleCompiler.compile at h
  split at h
  · cases h
    cases compiled
  · split_ifs at h with refused
    · cases h
      cases compiled
    · split at h
      · rename_i errors found transportFailed _
        cases concluded : concludeCompile templateId text errors found transportFailed with
        | error => rw [concluded] at h; cases h
        | ok result =>
          rw [concluded] at h
          obtain rfl := Option.some.inj h
          unfold concludeCompile at concluded
          split at concluded
          · rename_i spec _
            obtain ⟨asked, asks, concluded⟩ := Checked.bind_eq_ok.1 concluded
            obtain rfl := Checked.pure_eq_ok.1 concluded
            dsimp only at compiled ⊢
            by_cases vague : asked = [] ∧ matchedMarkers text ≠ []
            · rw [if_pos vague] at compiled
              cases compiled
            · rw [if_neg vague] at compiled ⊢
              have none : asked = [] := by
                by_contra some
                rw [if_neg some] at compiled
                cases compiled
              subst none
              refine ⟨spec, rfl, ambiguities_of_specQuestions asks, ?_⟩
              by_contra markers
              exact vague ⟨rfl, markers⟩
          · obtain rfl := Except.ok.inj concluded
            cases compiled
      · cases h
        cases compiled
      · cases h

/-! ## What is confirmed -/

variable {policyId versionId : String} {confirmed : Option SpecDocument} {result : CompileResult}

omit [Python] in
theorem confirmable_ok {spec : SpecDocument} (h : confirmable result = .ok spec) :
    result.status = .compiled ∧ result.ruleSpec = some spec ∧
      builtinTemplates result.templateId = some spec.scenarioType ∧
      validateRuleSpec spec spec.scenarioType = [] := by
  unfold confirmable at h
  split at h
  · rename_i status ruleSpec
    split at h
    · rename_i scenario template
      simp only [Checked.bind_eq_ok, Checked.ensure_eq_ok, Checked.pure_eq_ok] at h
      obtain ⟨_, valid, rfl⟩ := h
      obtain rfl := scenarioType_of_valid valid
      exact ⟨status, ruleSpec, template, valid⟩
    · cases h
  · cases h

omit [Python] in
/-- What is confirmed is the draft, or a specification of the user that leaves nothing open. -/
theorem resultToConfirm_ok (h : service.resultToConfirm templates policyId confirmed = .ok result) :
    service.drafts policyId = some result ∨
      ∃ spec, confirmed = some spec ∧ spec.ambiguities = [] ∧ result.ruleSpec = some spec := by
  unfold resultToConfirm at h
  split at h
  · cases h
  · rename_i draft drafted
    exact .inl (drafted.trans (congrArg some (Except.ok.inj h)))
  · rename_i draft spec _
    simp only [Checked.bind_eq_ok, Checked.ensure_eq_ok] at h
    obtain ⟨_, -, _, resolved, h⟩ := h
    split at h
    · cases h
    · simp only [Checked.bind_eq_ok, Checked.ensure_eq_ok, Checked.pure_eq_ok] at h
      obtain ⟨_, -, rfl⟩ := h
      exact .inr ⟨spec, rfl, resolved, rfl⟩

theorem storeVersion_ok {service' : PolicyService} {version : RuleVersion SpecDocument}
    (h : service.storeVersion policyId versionId result = .ok (service', version)) :
    ∃ spec, confirmable result = .ok spec ∧ service' = { service with
      store := service.store.confirm contentDigest versionId policyId result.templateId spec } := by
  obtain ⟨spec, allowed, h⟩ := Checked.bind_eq_ok.1 h
  dsimp only at h
  split at h
  · obtain ⟨rfl, -⟩ := Prod.mk.inj (Checked.pure_eq_ok.1 h)
    exact ⟨spec, allowed, rfl⟩
  · cases h

/-! ## Runs of calls -/

variable {calls : List PolicyCall} {version : RuleVersion SpecDocument}

omit [Python] in
theorem Valid.mono (h : Valid templates calls version) (more : List PolicyCall) :
    Valid templates (calls ++ more) version where
  scenario := h.scenario
  valid := h.valid
  resolved := h.resolved
  origin := by
    obtain ⟨text, replies, mem, h⟩ | ⟨versionId, mem⟩ := h.origin
    · exact .inl ⟨text, replies, List.mem_append_left _ mem, h⟩
    · exact .inr ⟨versionId, List.mem_append_left _ mem⟩

theorem Recorded.mono (h : Recorded templates calls service) (more : List PolicyCall) :
    Recorded templates (calls ++ more) service where
  drafts := fun policyId draft drafted => by
    obtain ⟨templateId, text, replies, mem, h⟩ := h.drafts policyId draft drafted
    exact ⟨templateId, text, replies, List.mem_append_left _ mem, h⟩
  drawn := fun version mem => by
    rw [List.filterMap_append]
    exact List.mem_append_left _ (h.drawn version mem)
  keyed := h.keyed
  content := h.content
  numbered := h.numbered
  valid := fun version mem => (h.valid version mem).mono more

/-- A draft is recorded. -/
theorem Recorded.compile (h : Recorded templates calls service) (policyId templateId text : String)
    (replies : Nat → ModelReply) :
    Recorded templates (calls ++ [.compile policyId templateId text replies])
      (service.compile templates policyId templateId text replies) := by
  unfold PolicyService.compile
  split
  · exact h.mono _
  · rename_i result compiled
    refine { h.mono [.compile policyId templateId text replies] with drafts := ?_ }
    intro other draft drafted
    dsimp only at drafted
    by_cases same : other = policyId
    · subst same
      rw [insertEntry, Function.update_self] at drafted
      obtain rfl := Option.some.inj drafted
      exact ⟨templateId, text, replies, List.mem_append_right _ List.mem_cons_self, compiled⟩
    · rw [insertEntry, Function.update_of_ne same] at drafted
      exact (h.mono _).drafts other draft drafted

/-- A version of new content is recorded. -/
theorem Recorded.append (h : Recorded templates calls service) {spec : SpecDocument}
    {templateId : String} (new : versionId ∉ calls.filterMap PolicyCall.versionId?)
    (drawn : versionId ∈ (calls ++ [PolicyCall.confirm policyId confirmed versionId]).filterMap
      PolicyCall.versionId?)
    (unknown : service.store.byContent (policyId, contentDigest templateId spec) = none)
    (valid : ∀ version contentHash, Valid templates
      (calls ++ [.confirm policyId confirmed versionId])
      ⟨versionId, policyId, version, templateId, spec, contentHash⟩) :
    Recorded templates (calls ++ [.confirm policyId confirmed versionId]) { service with
      store := service.store.confirm contentDigest versionId policyId templateId spec } := by
  have old := h.mono [.confirm policyId confirmed versionId]
  unfold RuleVersionStore.confirm
  dsimp only
  rw [unknown]
  dsimp only
  constructor
  · exact old.drafts
  · intro version mem
    rcases List.mem_append.1 mem with mem | mem
    · exact old.drawn version mem
    · rw [List.mem_singleton.1 mem]
      exact drawn
  · rw [List.map_append, List.nodup_append]
    refine ⟨h.keyed, List.nodup_singleton _, ?_⟩
    rintro id listed _ single rfl
    obtain ⟨version, mem, rfl⟩ := List.mem_map.1 listed
    have same : version.versionId = versionId := List.mem_singleton.1 single
    exact new (same ▸ h.drawn version mem)
  · intro version mem
    rcases List.mem_append.1 mem with mem | mem
    · refine (Function.update_of_ne (fun same => ?_) _ _).trans (h.content version mem)
      rw [← same, h.content version mem] at unknown
      cases unknown
    · rw [List.mem_singleton.1 mem]
      exact Function.update_self ..
  · intro other
    rw [versionsOf, List.filter_append]
    by_cases same : other = policyId
    · subst same
      rw [List.filter_cons_of_pos (by exact decide_eq_true rfl), List.filter_nil, List.map_append,
        List.length_append, ← List.range'_append_1]
      refine congrArg₂ (· ++ ·) (h.numbered other) ?_
      exact congrArg (fun n => [1 + n]) List.countP_eq_length_filter
    · rw [List.filter_cons_of_neg (by simpa using Ne.symm same), List.filter_nil, List.append_nil]
      exact h.numbered other
  · intro version mem
    rcases List.mem_append.1 mem with mem | mem
    · exact old.valid version mem
    · rw [List.mem_singleton.1 mem]
      exact valid _ _

/-- A confirmation is recorded. -/
theorem Recorded.confirm (h : Recorded templates calls service)
    (new : versionId ∉ calls.filterMap PolicyCall.versionId?) :
    Recorded templates (calls ++ [.confirm policyId confirmed versionId])
      (service.confirm templates policyId confirmed versionId).1 := by
  unfold PolicyService.confirm
  split
  · rename_i service' version confirms
    obtain ⟨result, results, stores⟩ := Checked.bind_eq_ok.1 confirms
    obtain ⟨spec, allowed, rfl⟩ := storeVersion_ok stores
    obtain ⟨compiled, ruleSpec, template, valid⟩ := confirmable_ok allowed
    cases known : service.store.byContent (policyId, contentDigest result.templateId spec) with
    | some id =>
      unfold RuleVersionStore.confirm
      dsimp only
      rw [known]
      exact h.mono _
    | none =>
      have drawn : versionId ∈ (calls ++ [PolicyCall.confirm policyId confirmed versionId]).filterMap
          PolicyCall.versionId? := by
        rw [List.filterMap_append]
        exact List.mem_append_right _ List.mem_cons_self
      refine h.append new drawn known fun number contentHash => ?_
      rcases resultToConfirm_ok results with drafted | ⟨supplied, rfl, resolved, same⟩
      · obtain ⟨templateId, text, replies, mem, compiles⟩ := h.drafts policyId result drafted
        obtain ⟨spec', rfl, resolved, clear⟩ := compile_compiled compiles compiled
        obtain rfl := Option.some.inj ruleSpec
        exact ⟨template, valid, resolved,
          .inl ⟨text, replies, List.mem_append_left _ mem, compiles, clear⟩⟩
      · obtain rfl := Option.some.inj (same.symm.trans ruleSpec)
        exact ⟨template, valid, resolved,
          .inr ⟨versionId, List.mem_append_right _ List.mem_cons_self⟩⟩
  · exact h.mono _

theorem after_append (calls more : List PolicyCall) :
    service.after templates (calls ++ more) = (service.after templates calls).after templates more :=
  List.foldl_append

theorem recorded_after (fresh : (calls.filterMap PolicyCall.versionId?).Nodup) :
    Recorded templates calls (after templates {} calls) := by
  induction calls using List.reverseRecOn with
  | nil =>
    exact ⟨nofun, List.forall_mem_nil _, List.nodup_nil, List.forall_mem_nil _, fun _ => rfl,
      List.forall_mem_nil _⟩
  | append_singleton calls call ih =>
    rw [List.filterMap_append, List.nodup_append] at fresh
    have recorded := ih fresh.1
    rw [after_append]
    cases call with
    | compile policyId templateId text replies => exact recorded.compile policyId templateId text replies
    | confirm policyId confirmed versionId =>
      exact recorded.confirm fun mem => fresh.2.2 versionId mem versionId List.mem_cons_self rfl

/-- No call changes a version that is there. -/
theorem prefix_call (call : PolicyCall) :
    service.store.versions <+: (service.call templates call).store.versions := by
  cases call with
  | compile policyId templateId text replies =>
    unfold PolicyService.call PolicyService.compile
    dsimp only
    split <;> exact List.prefix_rfl
  | confirm policyId confirmed versionId =>
    unfold PolicyService.call PolicyService.confirm
    dsimp only
    split
    · rename_i confirms
      obtain ⟨result, -, stores⟩ := Checked.bind_eq_ok.1 confirms
      obtain ⟨spec, -, rfl⟩ := storeVersion_ok stores
      unfold RuleVersionStore.confirm
      dsimp only
      split
      · exact List.prefix_rfl
      · exact List.prefix_append _ _
    · exact List.prefix_rfl

theorem prefix_after (calls : List PolicyCall) :
    service.store.versions <+: (service.after templates calls).store.versions := by
  induction calls generalizing service with
  | nil => exact List.prefix_rfl
  | cons call calls ih => exact (prefix_call call).trans ih

/-- Content that is confirmed again is the version that is there. -/
theorem Recorded.confirm_again (h : Recorded templates calls service)
    (mem : version ∈ service.store.versions)
    (results : service.resultToConfirm templates version.policyId confirmed = .ok result)
    (compiled : result.status = .compiled) (template : result.templateId = version.templateId)
    (same : result.ruleSpec = some version.ruleSpec) :
    service.confirm templates version.policyId confirmed versionId = (service, .version version) := by
  have valid := h.valid version mem
  have known := h.content version mem
  have allowed : confirmable result = .ok version.ruleSpec := by
    unfold confirmable
    rw [compiled, same, template]
    dsimp only
    rw [valid.scenario]
    dsimp only
    rw [Checked.ensure_of_pos valid.valid]
    rfl
  have kept : service.store.confirm contentDigest versionId version.policyId version.templateId
      version.ruleSpec = service.store := by
    unfold RuleVersionStore.confirm
    dsimp only
    rw [known]
  have found : service.store.get version.versionId = some version :=
    Table.find?_of_mem h.keyed mem
  have stored : service.storeVersion version.policyId versionId result = .ok (service, version) := by
    unfold storeVersion
    rw [allowed, Checked.ok_bind, template, kept]
    dsimp only
    rw [known, Option.getD_some, found]
    rfl
  unfold PolicyService.confirm
  rw [results, Checked.ok_bind, stored]

/-- After any calls, whose new versions are named anew, the versions are append-only and valid. -/
theorem versions_sound (fresh : (calls.filterMap PolicyCall.versionId?).Nodup) :
    VersionsSound templates calls := by
  have recorded := @recorded_after _ _ templates calls fresh
  refine ⟨recorded.numbered, recorded.valid, fun later => ?_, ?_⟩
  · rw [after_append]
    exact prefix_after later
  · intro version mem confirmed versionId result results compiled template same
    exact recorded.confirm_again mem results compiled template same

end PolicyService

end Reader

/-! ## A confirmed text -/

theorem membership_allowed : ∀ rule ∈ [Rule.membership .unusedOnly],
    rule.ruleType ∈ ScenarioType.membershipEntitlement.ruleTypes := by
  decide

theorem membership_primary : ∃ rule ∈ [Rule.membership .unusedOnly],
    ScenarioType.membershipEntitlement.ruleTypes.head? = some rule.ruleType := by
  decide

theorem membership_unique : ([Rule.membership .unusedOnly].map Rule.ruleType).Nodup := by
  decide

/-- A membership as a specification, and its JSON form. -/
def membershipDocument : SpecDocument where
  ruleSpec :=
    { scenarioType := .membershipEntitlement, rules := [.membership .unusedOnly],
      allowed := membership_allowed, primary := membership_primary, unique := membership_unique }
  participantIds := []
  assetIds := []
  invariantIds := []
  dump := .obj [("schema_version", .str "1.0"), ("scenario_type", .str "MEMBERSHIP_ENTITLEMENT"),
    ("participants", .arr []), ("assets", .arr []),
    ("rules", .arr [.obj [("rule_type", .str "MEMBERSHIP"),
      ("price", .obj [("currency", .str "CNY"), ("amount", .str "5.00")]),
      ("entitlement_quantity", .int 1), ("refund_policy", .str "UNUSED_ONLY")]]),
    ("invariants", .arr []), ("ambiguities", .arr [])]

/-- The reply with this specification. -/
def membershipReply : String := String.ofList membershipDocument.dump.spaced

/-- A reader to compute with, which knows one reply. -/
@[reducible] def SpecReader.only (reply : String) (document : SpecDocument) : SpecReader where
  loads text := if text = reply then .ok document.dump else .error "Expecting value"
  modelValidateJson text := if text = reply then .ok document else .error "Field required"
  casefold text := String.ofList (text.toList.map Char.toLower)

/-- What a text is compiled to for which the model gives this reply. -/
theorem compile_only {reply templateId text : String} {document : SpecDocument}
    {members : List (String × Json)} {scenario : ScenarioType}
    (template : builtinTemplates templateId = some scenario) (dump : document.dump = .obj members)
    (valid : letI := SpecReader.only reply document
      validateRuleSpec document scenario = [])
    (filled : strip text.toList ≠ [])
    (clean : letI := SpecReader.only reply document; ¬ ContainsDynamicCode text) :
    letI := SpecReader.only reply document
    RuleCompiler.compile builtinTemplates templateId text (fun _ => .content reply) =
      (concludeCompile templateId text [] (some document) false).toOption := by
  let _ := SpecReader.only reply document
  have loads : SpecReader.loads reply = .ok (Json.obj members) := dump ▸ if_pos rfl
  have read : readReply reply = .ok document := by
    rw [readReply, loads]
    exact if_pos rfl
  rw [RuleCompiler.compile]
  simp only [template]
  rw [if_neg (not_or_intro filled clean), attemptAll]
  simp only [read]
  rw [if_pos valid]

namespace PolicyService

/-- A draft is confirmed twice, and then another policy, with a specification of the user. -/
theorem confirmed_versions [SpecReader] [Python] {templateId : String} {document : SpecDocument}
    {scenario : ScenarioType} {text vague : String} {replies : Nat → ModelReply}
    {questions : List ConfirmationQuestion}
    (template : builtinTemplates templateId = some scenario)
    (valid : validateRuleSpec document scenario = []) (clear : document.ambiguities = [])
    (drafted : RuleCompiler.compile builtinTemplates templateId text replies =
      some { status := .compiled, templateId, ruleSpec := some document })
    (asked : RuleCompiler.compile builtinTemplates templateId vague replies =
      some { status := .needsConfirmation, templateId, ruleSpec := some document, questions }) :
    ((after builtinTemplates {} [.compile "policy-1" templateId text replies,
      .confirm "policy-1" none "version-1", .confirm "policy-1" none "version-2",
      .compile "policy-2" templateId vague replies,
      .confirm "policy-2" (some document) "version-3"]).store.versions.map fun version =>
        (version.versionId, version.policyId, version.version)) =
      [("version-1", "policy-1", 1), ("version-3", "policy-2", 1)] := by
  have checked : confirmable { status := .compiled, templateId, ruleSpec := some document } =
      .ok document := by
    simp only [confirmable, template, valid]
    rfl
  simp [after, call, compile, drafted, asked, confirm, resultToConfirm, storeVersion, checked,
    RuleVersionStore.confirm, RuleVersionStore.get, insertEntry, clear, template, valid, ensure,
    pure, Except.pure, bind, Except.bind]

end PolicyService

/-- No token is in a text if none is among the codes of its characters. -/
theorem not_dynamic_only {reply : String} {document : SpecDocument} {text : List Char}
    (codes : ∀ token ∈ forbiddenText, ¬ token.toList.map Char.toNat <:+:
      (text.map Char.toLower).map Char.toNat) :
    letI := SpecReader.only reply document
    ¬ ContainsDynamicCode (String.ofList text) := by
  rintro ⟨token, mem, occurs⟩
  have lower : token.toList <:+:
      (String.ofList ((String.ofList text).toList.map Char.toLower)).toList := occurs
  rw [String.toList_ofList, String.toList_ofList] at lower
  exact codes token mem (lower.map Char.toNat)

theorem membershipDocument_codes : ∀ token ∈ forbiddenText, ¬ token.toList.map Char.toNat <:+:
    ((membershipDocument.dump.sortKeys.spaced.map Char.toLower).map Char.toNat) := by
  decide +kernel

theorem membershipDocument_valid :
    let _ := SpecReader.only membershipReply membershipDocument
    validateRuleSpec membershipDocument .membershipEntitlement = [] := by
  intro _
  rw [validateRuleSpec, if_neg (not_dynamic_only membershipDocument_codes)]
  decide

theorem PolicyService.versions_sound_membership :
    let _ := Python.transparent
    let _ := SpecReader.only membershipReply membershipDocument
    let calls : List PolicyCall := [
      .compile "policy-1" "membership-entitlement" "会员5元" fun _ => .content membershipReply,
      .confirm "policy-1" none "version-1", .confirm "policy-1" none "version-2",
      .compile "policy-2" "membership-entitlement" "会员5元左右" fun _ => .content membershipReply,
      .confirm "policy-2" (some membershipDocument) "version-3"]
    ((after builtinTemplates {} calls).store.versions.map fun version =>
      (version.versionId, version.policyId, version.version)) =
        [("version-1", "policy-1", 1), ("version-3", "policy-2", 1)] ∧
    VersionsSound builtinTemplates calls := by
  intro _ _ calls
  refine ⟨confirmed_versions rfl membershipDocument_valid rfl
    (compile_only rfl rfl membershipDocument_valid (by decide +kernel) (by decide +kernel))
    (compile_only rfl rfl membershipDocument_valid (by decide +kernel) (by decide +kernel)),
    versions_sound (by decide +kernel)⟩

end RuleArena

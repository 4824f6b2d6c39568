import Mathlib.Data.List.Sort
import TelemetryManager.Conditions
import TelemetryManager.KubeClient

/-! The status of the Telemetry resource.
For each kind of pipelines a checker sums up the conditions of all pipelines in one condition of the
Telemetry resource. The overall state is read off these three conditions. -/
namespace TelemetryManager.TelemetryStatus

/-! ## Status conditions -/

inductive ConditionStatus where
  | conditionTrue
  | conditionFalse
  | conditionUnknown
  deriving DecidableEq

structure Condition where
  type : String
  status : ConditionStatus
  observedGeneration : Int := 0
  lastTransitionTime : Option Int := none
  reason : String
  message : String

def findStatusCondition (conditions : List Condition) (type : String) : Option Condition :=
  conditions.find? fun c => c.type = type

/-- A time that is not given is the current time. -/
def transitionTime (now : Int) (new : Condition) : Option Int :=
  some (new.lastTransitionTime.getD now)

def overwrite (now : Int) (existing new : Condition) : Condition where
  type := existing.type
  status := new.status
  observedGeneration := new.observedGeneration
  lastTransitionTime :=
    if existing.status ≠ new.status then transitionTime now new else existing.lastTransitionTime
  reason := new.reason
  message := new.message

/-- Overwrite the first condition of the type, or append the new one. -/
def setStatusCondition (now : Int) (new : Condition) : List Condition → List Condition
  | [] => [{ new with lastTransitionTime := transitionTime now new }]
  | c :: rest =>
    if c.type = new.type then overwrite now c new :: rest
    else c :: setStatusCondition now new rest

/-! ## Component checkers -/

def typeConfigurationGenerated : String := "ConfigurationGenerated"
def typeGatewayHealthy : String := "GatewayHealthy"
def typeAgentHealthy : String := "AgentHealthy"
def typeFlowHealthy : String := "TelemetryFlowHealthy"

def reasonTLSCertificateAboutToExpire : String :=
  Conditions.Reason.text .tlsCertificateAboutToExpire

def reasonComponentsRunning : String := "ComponentsRunning"
def reasonNoPipelineDeployed : String := "NoPipelineDeployed"
def reasonResourceBlocksDeletion : String := "ResourceBlocksDeletion"

structure Pipeline where
  name : String
  conditions : List Condition

structure ComponentsChecker where
  type : String
  resourceType : String
  runningMessage : String

def logComponentsChecker : ComponentsChecker where
  type := "LogComponentsHealthy"
  resourceType := "LogPipelines"
  runningMessage := "All log components are running"

def metricComponentsChecker : ComponentsChecker where
  type := "MetricComponentsHealthy"
  resourceType := "MetricPipelines"
  runningMessage := "All metric components are running"

def traceComponentsChecker : ComponentsChecker where
  type := "TraceComponentsHealthy"
  resourceType := "TracePipelines"
  runningMessage := "All trace components are running"

def generateDeletionBlockedMessage (resourceType : String) (resourceNames : List String) :
    String :=
  "The deletion of the module is blocked. To unblock the deletion, delete the following resources: "
    ++ resourceType ++ " (" ++ ",".intercalate (resourceNames.insertionSort (· ≤ ·)) ++ ")"

namespace ComponentsChecker

variable (checker : ComponentsChecker)

/-- The condition of the component with what a condition of a pipeline says. -/
def report (c : Condition) : Condition where
  type := checker.type
  status := c.status
  reason := c.reason
  message := c.message

def checkForResourceBlocksDeletionCondition (pipelines : List Pipeline)
    (telemetryInDeletion : Bool) : Option Condition :=
  if telemetryInDeletion && pipelines ≠ [] then
    some {
      type := checker.type
      status := .conditionFalse
      reason := reasonResourceBlocksDeletion
      message := generateDeletionBlockedMessage checker.resourceType (pipelines.map (·.name)) }
  else none

def checkForNoPipelineDeployedCondition (pipelines : List Pipeline) : Option Condition :=
  if pipelines = [] then
    some {
      type := checker.type
      status := .conditionTrue
      reason := reasonNoPipelineDeployed
      message := "No pipelines have been deployed" }
  else none

/-- The order defines the priority of negative conditions. -/
def condTypes : List String :=
  [typeConfigurationGenerated, typeGatewayHealthy, typeAgentHealthy, typeFlowHealthy]

def falseCondition (p : Pipeline) (type : String) : Option Condition :=
  (findStatusCondition p.conditions type).filter (·.status = .conditionFalse)

def checkForFirstUnhealthyPipelineCondition (pipelines : List Pipeline) : Option Condition :=
  (condTypes.findSome? fun type => pipelines.findSome? fun p => falseCondition p type).map
    checker.report

def aboutToExpireCondition (p : Pipeline) : Option Condition :=
  (findStatusCondition p.conditions typeConfigurationGenerated).filter
    (·.reason = reasonTLSCertificateAboutToExpire)

def checkForFirstAboutToExpirePipelineCondition (pipelines : List Pipeline) : Option Condition :=
  (pipelines.findSome? aboutToExpireCondition).map checker.report

def running : Condition where
  type := checker.type
  status := .conditionTrue
  reason := reasonComponentsRunning
  message := checker.runningMessage

/-- The first finding, by the order of the checks. -/
def finding (pipelines : List Pipeline) (telemetryInDeletion : Bool) : Condition :=
  (checker.checkForResourceBlocksDeletionCondition pipelines telemetryInDeletion <|>
    checker.checkForNoPipelineDeployedCondition pipelines <|>
    checker.checkForFirstUnhealthyPipelineCondition pipelines <|>
    checker.checkForFirstAboutToExpirePipelineCondition pipelines).getD checker.running

theorem type_finding (pipelines : List Pipeline) (telemetryInDeletion : Bool) :
    (checker.finding pipelines telemetryInDeletion).type = checker.type := by
  unfold finding checkForResourceBlocksDeletionCondition checkForNoPipelineDeployedCondition
    checkForFirstUnhealthyPipelineCondition checkForFirstAboutToExpirePipelineCondition
  split
  · rfl
  · split
    · rfl
    · cases condTypes.findSome? fun type => pipelines.findSome? fun p => falseCondition p type with
      | some c => rfl
      | none =>
        cases pipelines.findSome? aboutToExpireCondition with
        | some c | none => rfl

def check (list : Except ApiError (List Pipeline)) (telemetryInDeletion : Bool) :
    Except GoError Condition :=
  match list with
  | .error err =>
    .error (.errorf ("failed to get list of " ++ checker.resourceType ++ ": ") (.api err) "")
  | .ok pipelines => .ok (checker.finding pipelines telemetryInDeletion)

end ComponentsChecker

/-! ## The status -/

inductive State where
  | ready
  | deleting
  | warning

structure Status where
  state : State
  conditions : List Condition

def checkerOf : PipelineKind → ComponentsChecker
  | .logPipeline => logComponentsChecker
  | .metricPipeline => metricComponentsChecker
  | .tracePipeline => traceComponentsChecker

def enabledHealthCheckers : List PipelineKind := [.logPipeline, .metricPipeline, .tracePipeline]

structure Observed where
  generation : Int
  telemetryInDeletion : Bool
  dependentCRsFound : Bool
  list : PipelineKind → Except ApiError (List Pipeline)

section Update

variable (now : Int) (o : Observed)

def updateComponentCondition (conditions : List Condition) (kind : PipelineKind) :
    Except GoError (List Condition) :=
  match (checkerOf kind).check (o.list kind) o.telemetryInDeletion with
  | .error err => .error (.errorf "unable to check component: " err "")
  | .ok newCondition =>
    .ok (setStatusCondition now { newCondition with observedGeneration := o.generation } conditions)

def needsAttention (c : Condition) : Bool :=
  c.status = .conditionFalse || c.reason = reasonTLSCertificateAboutToExpire

def updateOverallState (conditions : List Condition) : State :=
  if o.telemetryInDeletion then if o.dependentCRsFound then .warning else .deleting
  else if conditions.any needsAttention then .warning else .ready

/-- The part of `updateStatus` for the conditions and the state. -/
def updateStatus (status : Status) : Except GoError Status :=
  match enabledHealthCheckers.foldlM (updateComponentCondition now o) status.conditions with
  | .error err => .error (.errorf "failed to update component condition: " err "")
  | .ok conditions => .ok ⟨updateOverallState o conditions, conditions⟩

end Update

section Set

variable {now : Int} {new c : Condition} {conditions : List Condition}

def types (conditions : List Condition) : List String := conditions.map (·.type)

theorem types_cons : types (c :: conditions) = c.type :: types conditions := rfl

/-- The condition says the same as the other one. Only times and generations may differ. -/
structure Says (c other : Condition) : Prop where
  type : c.type = other.type
  status : c.status = other.status
  reason : c.reason = other.reason
  message : c.message = other.message

theorem find_setStatusCondition_self (now : Int) (new : Condition) (conditions : List Condition) :
    ∃ c, findStatusCondition (setStatusCondition now new conditions) new.type = some c ∧
      Says c new := by
  induction conditions with
  | nil => exact ⟨_, List.find?_cons_of_pos (by simp), rfl, rfl, rfl, rfl⟩
  | cons d rest ih =>
    by_cases htype : d.type = new.type
    · rw [setStatusCondition, if_pos htype]
      exact ⟨_, List.find?_cons_of_pos (by simpa [overwrite] using htype), htype, rfl, rfl, rfl⟩
    · rw [setStatusCondition, if_neg htype]
      simpa [findStatusCondition, htype] using ih

theorem find_setStatusCondition_of_ne {type : String} (h : type ≠ new.type) :
    findStatusCondition (setStatusCondition now new conditions) type =
      findStatusCondition conditions type := by
  induction conditions with
  | nil => simp [setStatusCondition, findStatusCondition, h.symm]
  | cons d rest ih =>
    by_cases htype : d.type = new.type
    · rw [setStatusCondition, if_pos htype]
      simp [findStatusCondition, overwrite, htype, h.symm]
    · rw [setStatusCondition, if_neg htype]
      simp only [findStatusCondition, List.find?_cons] at ih ⊢
      rw [ih]

theorem types_setStatusCondition : types (setStatusCondition now new conditions) =
    if new.type ∈ types conditions then types conditions else types conditions ++ [new.type] := by
  induction conditions with
  | nil => rfl
  | cons d rest ih =>
    by_cases htype : d.type = new.type
    · rw [setStatusCondition, if_pos htype]
      simp [types_cons, overwrite, htype]
    · rw [setStatusCondition, if_neg htype, types_cons, types_cons, ih]
      by_cases hmem : new.type ∈ types rest
      · simp [hmem]
      · simp [hmem, Ne.symm htype]

theorem nodup_types_setStatusCondition (hnodup : (types conditions).Nodup) :
    (types (setStatusCondition now new conditions)).Nodup := by
  rw [types_setStatusCondition]
  by_cases hmem : new.type ∈ types conditions
  · rwa [if_pos hmem]
  · rw [if_neg hmem, ← List.concat_eq_append]
    exact hnodup.concat hmem

theorem findStatusCondition_of_mem (hnodup : (types conditions).Nodup) (h : c ∈ conditions) :
    findStatusCondition conditions c.type = some c := by
  induction conditions with
  | nil => cases h
  | cons d rest ih =>
    obtain ⟨hd, hrest⟩ := List.nodup_cons.mp hnodup
    rcases List.mem_cons.mp h with rfl | hmem
    · simp [findStatusCondition]
    · have hne : d.type ≠ c.type := by
        intro heq
        apply hd
        exact List.mem_map.mpr ⟨c, hmem, heq.symm⟩
      rw [← ih hrest hmem]
      simp [findStatusCondition, hne]

end Set

section Check

variable {checker : ComponentsChecker} {pipelines : List Pipeline} {p : Pipeline} {type : String}
  {c : Condition}

def HasFalse (p : Pipeline) (type : String) : Prop :=
  ∃ c, findStatusCondition p.conditions type = some c ∧ c.status = .conditionFalse

def ExpiresSoon (p : Pipeline) : Prop :=
  ∃ c, findStatusCondition p.conditions typeConfigurationGenerated = some c ∧
    c.reason = reasonTLSCertificateAboutToExpire

/-- The first condition with the status false, by the priority of the types and then by the order of
the pipelines. -/
def FirstFalse (pipelines : List Pipeline) (c : Condition) : Prop :=
  ∃ higher type lower, ComponentsChecker.condTypes = higher ++ type :: lower ∧
    (∀ t ∈ higher, ∀ p ∈ pipelines, ¬ HasFalse p t) ∧
    ∃ earlier p later, pipelines = earlier ++ p :: later ∧
      (∀ p' ∈ earlier, ¬ HasFalse p' type) ∧
      findStatusCondition p.conditions type = some c ∧ c.status = .conditionFalse

theorem falseCondition_eq_some_iff : ComponentsChecker.falseCondition p type = some c ↔
    findStatusCondition p.conditions type = some c ∧ c.status = .conditionFalse := by
  simp [ComponentsChecker.falseCondition, Option.filter_eq_some_iff]

theorem falseCondition_eq_none_iff :
    ComponentsChecker.falseCondition p type = none ↔ ¬ HasFalse p type := by
  rw [Option.eq_none_iff_forall_ne_some]
  simp [falseCondition_eq_some_iff, HasFalse]

theorem aboutToExpireCondition_eq_some_iff :
    ComponentsChecker.aboutToExpireCondition p = some c ↔
      findStatusCondition p.conditions typeConfigurationGenerated = some c ∧
        c.reason = reasonTLSCertificateAboutToExpire := by
  simp [ComponentsChecker.aboutToExpireCondition, Option.filter_eq_some_iff]

theorem aboutToExpireCondition_eq_none_iff :
    ComponentsChecker.aboutToExpireCondition p = none ↔ ¬ ExpiresSoon p := by
  rw [Option.eq_none_iff_forall_ne_some]
  simp [aboutToExpireCondition_eq_some_iff, ExpiresSoon]

theorem findSome_falseCondition_eq_some_iff :
    (ComponentsChecker.condTypes.findSome? fun type =>
      pipelines.findSome? fun p => ComponentsChecker.falseCondition p type) = some c ↔
      FirstFalse pipelines c := by
  simp only [List.findSome?_eq_some_iff, List.findSome?_eq_none_iff, falseCondition_eq_some_iff,
    falseCondition_eq_none_iff, FirstFalse]
  constructor
  · rintro ⟨higher, type, lower, hsplit, ⟨earlier, p, later, hp, hc, hearlier⟩, hhigher⟩
    exact ⟨higher, type, lower, hsplit, hhigher, earlier, p, later, hp, hearlier, hc⟩
  · rintro ⟨higher, type, lower, hsplit, hhigher, earlier, p, later, hp, hearlier, hc⟩
    exact ⟨higher, type, lower, hsplit, ⟨earlier, p, later, hp, hc, hearlier⟩, hhigher⟩

theorem findSome_falseCondition_eq_none_iff :
    (ComponentsChecker.condTypes.findSome? fun type =>
      pipelines.findSome? fun p => ComponentsChecker.falseCondition p type) = none ↔
      ∀ type ∈ ComponentsChecker.condTypes, ∀ p ∈ pipelines, ¬ HasFalse p type := by
  simp [falseCondition_eq_none_iff]

/-- Without a deletion, a false condition comes before a certificate that expires soon, and that
before a success. -/
theorem finding_eq (checker : ComponentsChecker) (pipelines : List Pipeline) :
    checker.finding pipelines false =
      (checker.checkForNoPipelineDeployedCondition pipelines <|>
        checker.checkForFirstUnhealthyPipelineCondition pipelines <|>
        checker.checkForFirstAboutToExpirePipelineCondition pipelines).getD checker.running := rfl

theorem ne_nil_of_firstFalse (h : FirstFalse pipelines c) : pipelines ≠ [] := by
  obtain ⟨-, -, -, -, -, earlier, p, later, hsplit, -⟩ := h
  rw [hsplit]
  simp

theorem finding_of_firstFalse (h : FirstFalse pipelines c) :
    checker.finding pipelines false = checker.report c := by
  have hfirst := findSome_falseCondition_eq_some_iff.mpr h
  rw [finding_eq]
  simp only [ComponentsChecker.checkForNoPipelineDeployedCondition, ne_nil_of_firstFalse h,
    ComponentsChecker.checkForFirstUnhealthyPipelineCondition, hfirst]
  rfl

theorem noPipelineDeployed_ne : reasonNoPipelineDeployed ≠ reasonTLSCertificateAboutToExpire := by
  decide

theorem componentsRunning_ne : reasonComponentsRunning ≠ reasonTLSCertificateAboutToExpire := by
  decide

/-- All that a checker can find for pipelines of which none has a false condition. -/
theorem finding_of_noneFalse
    (h : ∀ type ∈ ComponentsChecker.condTypes, ∀ p ∈ pipelines, ¬ HasFalse p type) :
    (∃ p ∈ pipelines, ∃ c, checker.finding pipelines false = checker.report c ∧
      ExpiresSoon p ∧ c.reason = reasonTLSCertificateAboutToExpire) ∨
    ((∀ p ∈ pipelines, ¬ ExpiresSoon p) ∧
      (checker.finding pipelines false).status = .conditionTrue ∧
      (checker.finding pipelines false).reason ≠ reasonTLSCertificateAboutToExpire) := by
  by_cases hnil : pipelines = []
  · subst hnil
    exact .inr ⟨by simp, rfl, noPipelineDeployed_ne⟩
  have hnone := findSome_falseCondition_eq_none_iff.mpr h
  rw [finding_eq]
  simp only [ComponentsChecker.checkForNoPipelineDeployedCondition, hnil,
    ComponentsChecker.checkForFirstUnhealthyPipelineCondition, hnone,
    ComponentsChecker.checkForFirstAboutToExpirePipelineCondition]
  cases hexpire : pipelines.findSome? ComponentsChecker.aboutToExpireCondition with
  | some c =>
    obtain ⟨earlier, p, later, hsplit, hp, -⟩ := List.findSome?_eq_some_iff.mp hexpire
    have hc := aboutToExpireCondition_eq_some_iff.mp hp
    refine .inl ⟨p, by simp [hsplit], c, rfl, ⟨c, hc⟩, hc.2⟩
  | none =>
    refine .inr ⟨fun p hp => ?_, rfl, componentsRunning_ne⟩
    exact aboutToExpireCondition_eq_none_iff.mp (List.findSome?_eq_none_iff.mp hexpire p hp)

/-- A pipeline that its checker reports as a problem. -/
def HasProblem (p : Pipeline) : Prop :=
  (∃ type ∈ ComponentsChecker.condTypes, HasFalse p type) ∨ ExpiresSoon p

theorem needsAttention_iff : needsAttention c ↔
    c.status = .conditionFalse ∨ c.reason = reasonTLSCertificateAboutToExpire := by
  simp [needsAttention]

theorem needsAttention_finding_iff :
    needsAttention (checker.finding pipelines false) ↔ ∃ p ∈ pipelines, HasProblem p := by
  rw [needsAttention_iff]
  by_cases hfalse : ∀ type ∈ ComponentsChecker.condTypes, ∀ p ∈ pipelines, ¬ HasFalse p type
  · rcases @finding_of_noneFalse checker pipelines hfalse with
      ⟨p, hp, c, heq, hexpires, hreason⟩ | ⟨hnone, htrue, hreason⟩
    · rw [heq]
      exact ⟨fun _ => ⟨p, hp, .inr hexpires⟩, fun _ => .inr hreason⟩
    · rw [htrue]
      constructor
      · rintro (h | h)
        · cases h
        · exact absurd h hreason
      · rintro ⟨p, hp, ⟨type, htype, h⟩ | h⟩
        · exact absurd h (hfalse type htype p hp)
        · exact absurd h (hnone p hp)
  · obtain ⟨c, hc⟩ := Option.ne_none_iff_exists'.mp
      (mt findSome_falseCondition_eq_none_iff.mp hfalse)
    have hfirst := findSome_falseCondition_eq_some_iff.mp hc
    rw [finding_of_firstFalse hfirst]
    obtain ⟨higher, type, lower, htypes, -, earlier, p, later, hsplit, -, hfind, hstatus⟩ := hfirst
    have htype : type ∈ ComponentsChecker.condTypes := by simp [htypes]
    have hp : p ∈ pipelines := by simp [hsplit]
    exact ⟨fun _ => ⟨p, hp, .inl ⟨type, htype, c, hfind, hstatus⟩⟩, fun _ => .inl hstatus⟩

end Check

section Update

variable {now : Int} {o : Observed} {lists : PipelineKind → List Pipeline}

def finding (o : Observed) (lists : PipelineKind → List Pipeline) (kind : PipelineKind) :
    Condition :=
  (checkerOf kind).finding (lists kind) o.telemetryInDeletion

theorem type_finding (kind : PipelineKind) : (finding o lists kind).type = (checkerOf kind).type :=
  ComponentsChecker.type_finding _ _ _

structure Updated (o : Observed) (lists : PipelineKind → List Pipeline) (kinds : List PipelineKind)
    (before after : List Condition) : Prop where
  nodup : (types after).Nodup
  reported : ∀ kind ∈ kinds, ∃ c, findStatusCondition after (checkerOf kind).type = some c ∧
    Says c (finding o lists kind)
  kept : ∀ type, (∀ kind ∈ kinds, type ≠ (checkerOf kind).type) →
    findStatusCondition after type = findStatusCondition before type

theorem type_checkerOf_injective : Function.Injective fun kind => (checkerOf kind).type := by
  intro a b h
  cases a <;> cases b <;> first | rfl | exact absurd h (by decide)

theorem updateComponentCondition_ok (hlists : ∀ kind, o.list kind = .ok (lists kind))
    (conditions : List Condition) (kind : PipelineKind) :
    updateComponentCondition now o conditions kind = .ok (setStatusCondition now
      { finding o lists kind with observedGeneration := o.generation } conditions) := by
  simp only [updateComponentCondition, hlists kind, ComponentsChecker.check]
  rfl

/-- The updates go through and leave one condition for each kind. -/
theorem foldlM_updateComponentCondition (hlists : ∀ kind, o.list kind = .ok (lists kind))
    {kinds : List PipelineKind} (hkinds : kinds.Nodup) {before : List Condition}
    (hnodup : (types before).Nodup) :
    ∃ after, kinds.foldlM (updateComponentCondition now o) before = .ok after ∧
      Updated o lists kinds before after := by
  induction kinds generalizing before with
  | nil => exact ⟨before, rfl, hnodup, by simp, fun _ _ => rfl⟩
  | cons kind rest ih =>
    obtain ⟨hkind, hrest⟩ := List.nodup_cons.mp hkinds
    let new : Condition := { finding o lists kind with observedGeneration := o.generation }
    have hnew : new.type = (checkerOf kind).type := type_finding kind
    have htypes : ∀ k ∈ rest, (checkerOf kind).type ≠ (checkerOf k).type := by
      intro k hk heq
      rw [type_checkerOf_injective heq] at hkind
      exact hkind hk
    obtain ⟨after, hfold, h⟩ := ih hrest (nodup_types_setStatusCondition hnodup)
    refine ⟨after, ?_, h.nodup, ?_, ?_⟩
    · rw [List.foldlM_cons, updateComponentCondition_ok hlists]
      exact hfold
    · intro k hk
      rcases List.mem_cons.mp hk with rfl | hk
      · obtain ⟨c, hc, hsaid⟩ := find_setStatusCondition_self now new before
        rw [hnew] at hc
        exact ⟨c, (h.kept _ htypes).trans hc, hsaid.1, hsaid.2, hsaid.3, hsaid.4⟩
      · exact h.reported k hk
    · intro type hne
      have hrest : ∀ k ∈ rest, type ≠ (checkerOf k).type :=
        fun k hk => hne k (List.mem_cons_of_mem _ hk)
      rw [h.kept type hrest, find_setStatusCondition_of_ne]
      rw [hnew]
      exact hne kind List.mem_cons_self

structure OnlyComponents (conditions : List Condition) : Prop where
  nodup : (types conditions).Nodup
  types : ∀ c ∈ conditions, ∃ kind, c.type = (checkerOf kind).type

theorem mem_enabledHealthCheckers (kind : PipelineKind) : kind ∈ enabledHealthCheckers := by
  cases kind <;> decide

theorem Says.needsAttention_eq {c other : Condition} (h : Says c other) :
    needsAttention c = needsAttention other := by
  simp only [needsAttention, h.status, h.reason]

theorem any_needsAttention_iff {before after : List Condition} (hbefore : OnlyComponents before)
    (h : Updated o lists enabledHealthCheckers before after) :
    after.any needsAttention = true ↔ ∃ kind, needsAttention (finding o lists kind) = true := by
  rw [List.any_eq_true]
  constructor
  · rintro ⟨c, hc, hattention⟩
    have hfind := findStatusCondition_of_mem h.nodup hc
    by_cases hkind : ∃ kind, c.type = (checkerOf kind).type
    · obtain ⟨kind, htype⟩ := hkind
      obtain ⟨c', hc', hsaid⟩ := h.reported kind (mem_enabledHealthCheckers kind)
      rw [htype, hc'] at hfind
      cases hfind
      exact ⟨kind, hsaid.needsAttention_eq ▸ hattention⟩
    · rw [h.kept c.type fun kind _ heq => hkind ⟨kind, heq⟩] at hfind
      exact absurd (hbefore.types c (List.mem_of_find?_eq_some hfind)) hkind
  · rintro ⟨kind, hattention⟩
    obtain ⟨c, hc, hsaid⟩ := h.reported kind (mem_enabledHealthCheckers kind)
    exact ⟨c, List.mem_of_find?_eq_some hc, hsaid.needsAttention_eq.trans hattention⟩

theorem updateStatus_ok (hlists : ∀ kind, o.list kind = .ok (lists kind)) {status : Status}
    (hstatus : OnlyComponents status.conditions) :
    ∃ after, updateStatus now o status = .ok ⟨updateOverallState o after, after⟩ ∧
      Updated o lists enabledHealthCheckers status.conditions after := by
  obtain ⟨after, hfold, h⟩ :=
    @foldlM_updateComponentCondition now o lists hlists enabledHealthCheckers (by decide)
      status.conditions hstatus.nodup
  exact ⟨after, by simp only [updateStatus, hfold], h⟩

theorem state_eq_iff (hdeletion : o.telemetryInDeletion = false)
    (hlists : ∀ kind, o.list kind = .ok (lists kind)) {status updated : Status}
    (hstatus : OnlyComponents status.conditions) (h : updateStatus now o status = .ok updated) :
    (updated.state = .warning ↔ ∃ kind, ∃ p ∈ lists kind, HasProblem p) ∧
      (updated.state = .ready ↔ ¬ ∃ kind, ∃ p ∈ lists kind, HasProblem p) := by
  obtain ⟨after, hok, hupdated⟩ := @updateStatus_ok now o lists hlists status hstatus
  cases hok.symm.trans h
  have hproblem : after.any needsAttention = true ↔ ∃ kind, ∃ p ∈ lists kind, HasProblem p := by
    rw [any_needsAttention_iff hstatus hupdated]
    simp only [finding, hdeletion, needsAttention_finding_iff]
  rw [← hproblem]
  simp only [updateOverallState, hdeletion]
  cases after.any needsAttention <;> simp

end Update

/-- The Telemetry resource is not being deleted, and the pipelines can be listed. -/
def observing (generation : Int) (dependentCRsFound : Bool)
    (lists : PipelineKind → List Pipeline) : Observed :=
  ⟨generation, false, dependentCRsFound, fun kind => .ok (lists kind)⟩

/-- The state is a warning exactly if some pipeline has a problem, and ready otherwise. The order of
the pipelines does not matter for it. Each component reports its first false condition. -/
theorem telemetry_status (now generation : Int) (dependentCRsFound : Bool)
    (lists lists' : PipelineKind → List Pipeline) (hperm : ∀ kind, (lists' kind).Perm (lists kind))
    (status : Status) (hstatus : OnlyComponents status.conditions) :
    ∃ updated updated',
      updateStatus now (observing generation dependentCRsFound lists) status = .ok updated ∧
      updateStatus now (observing generation dependentCRsFound lists') status = .ok updated' ∧
      (updated.state = .warning ↔ ∃ kind, ∃ p ∈ lists kind, HasProblem p) ∧
      (updated.state = .ready ↔ ¬ ∃ kind, ∃ p ∈ lists kind, HasProblem p) ∧
      updated'.state = updated.state ∧
      ∀ kind first, FirstFalse (lists kind) first →
        ∃ c, findStatusCondition updated.conditions (checkerOf kind).type = some c ∧
          c.status = .conditionFalse ∧ c.reason = first.reason ∧ c.message = first.message := by
  obtain ⟨after, hok, hupdated⟩ := @updateStatus_ok now
    (observing generation dependentCRsFound lists) lists (fun _ => rfl) status hstatus
  obtain ⟨after', hok', hupdated'⟩ := @updateStatus_ok now
    (observing generation dependentCRsFound lists') lists' (fun _ => rfl) status hstatus
  have hstate := state_eq_iff rfl (fun _ => rfl) hstatus hok
  have hstate' := state_eq_iff rfl (fun _ => rfl) hstatus hok'
  have hproblem : (∃ kind, ∃ p ∈ lists' kind, HasProblem p) ↔
      ∃ kind, ∃ p ∈ lists kind, HasProblem p := by
    simp only [(hperm _).mem_iff]
  rw [hproblem] at hstate'
  refine ⟨_, _, hok, hok', hstate.1, hstate.2, ?_, fun kind first hfirst => ?_⟩
  · by_cases h : ∃ kind, ∃ p ∈ lists kind, HasProblem p
    · rw [hstate.1.mpr h]
      exact hstate'.1.mpr h
    · rw [hstate.2.mpr h]
      exact hstate'.2.mpr h
  · obtain ⟨c, hfind, hsaid⟩ := hupdated.reported kind (mem_enabledHealthCheckers kind)
    have hreport : finding (observing generation dependentCRsFound lists) lists kind =
        (checkerOf kind).report first := finding_of_firstFalse hfirst
    rw [hreport] at hsaid
    refine ⟨c, hfind, ?_, hsaid.reason, hsaid.message⟩
    rw [hsaid.status]
    obtain ⟨-, -, -, -, -, -, -, -, -, -, -, hfalse⟩ := hfirst
    exact hfalse

def healthyPipeline : Pipeline where
  name := "sample"
  conditions := [{
    type := typeConfigurationGenerated
    status := .conditionTrue
    reason := "GatewayConfigured"
    message := "" }]

def missingSecret : Condition where
  type := typeConfigurationGenerated
  status := .conditionFalse
  reason := "ReferencedSecretMissing"
  message := "One or more referenced Secrets are missing"

def brokenPipeline : Pipeline := ⟨"backend", [missingSecret]⟩

def sampleLists : PipelineKind → List Pipeline
  | .tracePipeline => [healthyPipeline, brokenPipeline]
  | _ => [healthyPipeline]

def sampleLists' : PipelineKind → List Pipeline
  | .tracePipeline => [brokenPipeline, healthyPipeline]
  | _ => [healthyPipeline]

def sampleStatus : Status where
  state := .ready
  conditions := [logComponentsChecker.running]

theorem telemetry_status_of_sample :
    OnlyComponents sampleStatus.conditions ∧
    ∃ updated updated',
      updateStatus 0 (observing 1 true sampleLists) sampleStatus = .ok updated ∧
      updateStatus 0 (observing 1 true sampleLists') sampleStatus = .ok updated' ∧
      (updated.state = .warning ↔ ∃ kind, ∃ p ∈ sampleLists kind, HasProblem p) ∧
      (updated.state = .ready ↔ ¬ ∃ kind, ∃ p ∈ sampleLists kind, HasProblem p) ∧
      updated'.state = updated.state ∧
      ∀ kind first, FirstFalse (sampleLists kind) first →
        ∃ c, findStatusCondition updated.conditions (checkerOf kind).type = some c ∧
          c.status = .conditionFalse ∧ c.reason = first.reason ∧ c.message = first.message := by
  have hperm : ∀ kind, (sampleLists' kind).Perm (sampleLists kind) := by
    intro kind
    cases kind with
    | tracePipeline => exact List.Perm.swap _ _ _
    | metricPipeline | logPipeline => exact .refl _
  have honly : OnlyComponents sampleStatus.conditions := by
    refine ⟨List.nodup_singleton _, fun c hc => ⟨.logPipeline, ?_⟩⟩
    rw [List.mem_singleton.mp hc]
    rfl
  exact ⟨honly, telemetry_status 0 1 true sampleLists sampleLists' hperm sampleStatus honly⟩

end TelemetryManager.TelemetryStatus

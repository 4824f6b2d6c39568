import TelemetryManager.CollectorConfig
import TelemetryManager.KubeClient

/-! The coordination ConfigMap of the OTLP gateway.
Pipeline controllers record the pipelines they validated as references in a YAML document inside
a ConfigMap; the gateway controller reads them. -/
namespace TelemetryManager.Coordination

open Interaction Collector

def configMapDataKey : String := "pipelines.yaml"

def otlpGatewayCoordinationConfigMap : String := "telemetry-otlp-gateway-coordination"

structure PipelineReference where
  name : String
  generation : Nat
  secretVersions : List (String × String) := []
  deriving DecidableEq

structure OTLPGatewayConfigMap where
  tracePipelineReferences : List PipelineReference := []
  logPipelineReferences : List PipelineReference := []
  metricPipelineReferences : List PipelineReference := []
  deriving DecidableEq

structure YamlLib where
  marshal : OTLPGatewayConfigMap → Except String String
  unmarshal : String → Except String OTLPGatewayConfigMap

/-- Marshalling round-trips, and no document is marshalled to the empty text. -/
structure YamlLib.RoundTrips (yaml : YamlLib) : Prop where
  unmarshal_marshal : ∀ config text, yaml.marshal config = .ok text →
    yaml.unmarshal text = .ok config
  marshal_ne_empty : ∀ config, yaml.marshal config ≠ .ok ""

/-- The pipeline types of a reference. There is no gateway for Fluent Bit. -/
inductive PipelineType where
  | of (signal : SignalType)
  | logFluentBit
  deriving DecidableEq

def PipelineType.text : PipelineType → String
  | .of signal => signal.text
  | .logFluentBit => "log-fluentbit"

def OTLPGatewayConfigMap.slice (config : OTLPGatewayConfigMap) :
    SignalType → List PipelineReference
  | .trace => config.tracePipelineReferences
  | .log => config.logPipelineReferences
  | .metric => config.metricPipelineReferences

def OTLPGatewayConfigMap.setSlice (config : OTLPGatewayConfigMap) (refs : List PipelineReference) :
    SignalType → OTLPGatewayConfigMap
  | .trace => { config with tracePipelineReferences := refs }
  | .log => { config with logPipelineReferences := refs }
  | .metric => { config with metricPipelineReferences := refs }

/-- Change the slice of a pipeline type through the pointer that `getPipelineSlice` returns. -/
def updateSlice (pipelineType : PipelineType)
    (f : List PipelineReference → List PipelineReference) (config : OTLPGatewayConfigMap) :
    Except GoError OTLPGatewayConfigMap :=
  match pipelineType with
  | .of signal => .ok (config.setSlice (f (config.slice signal)) signal)
  | .logFluentBit => .error (.new ("invalid pipeline type: " ++ pipelineType.text))

/-- Update the first reference of the same name, or append. -/
def addReference (input : PipelineReference) : List PipelineReference → List PipelineReference
  | [] => [input]
  | ref :: refs =>
    if ref.name = input.name then
      { ref with generation := input.generation, secretVersions := input.secretVersions } :: refs
    else ref :: addReference input refs

def removeReference (name : String) (refs : List PipelineReference) : List PipelineReference :=
  refs.filter fun ref => ref.name ≠ name

section

variable (yaml : YamlLib) («namespace» : String)

def configMapKey : ObjectKey := ⟨«namespace», otlpGatewayCoordinationConfigMap⟩

def setData (key value : String) : List (String × String) → List (String × String)
  | [] => [(key, value)]
  | e :: data => if e.1 = key then (key, value) :: data else e :: setData key value data

def getConfigMap : Client (Option ConfigMap) := do
  match ← TelemetryManager.getConfigMap (configMapKey «namespace») with
  | .ok cm => pure (some cm)
  | .error err =>
    if err.isNotFound then pure none
    else throw (.errorf "failed to get ConfigMap: " (.api err) "")

def parseConfig (cm : Option ConfigMap) : Except GoError OTLPGatewayConfigMap :=
  match cm.bind fun cm => cm.data.lookup configMapDataKey with
  | none => .ok {}
  | some yamlData =>
    if yamlData = "" then .ok {}
    else match yaml.unmarshal yamlData with
      | .error text => .error (.errorf "failed to unmarshal ConfigMap: " (.new text) "")
      | .ok config => .ok config

def newConfigMap (yamlData : String) : ConfigMap where
  key := configMapKey «namespace»
  data := [(configMapDataKey, yamlData)]

def createConfigMap (yamlData : String) : Client Unit := do
  match ← TelemetryManager.createConfigMap (newConfigMap «namespace» yamlData) with
  | .error err => throw (.errorf "failed to create ConfigMap: " (.api err) "")
  | .ok () => pure ()

def withYamlData (cm : ConfigMap) (yamlData : String) : ConfigMap :=
  { cm with data := setData configMapDataKey yamlData cm.data }

def updateConfigMap (cm : ConfigMap) (yamlData : String) : Client Unit := do
  match ← TelemetryManager.updateConfigMap (withYamlData cm yamlData) with
  | .error err => throw (.errorf "failed to update ConfigMap: " (.api err) "")
  | .ok () => pure ()

/-- The text of the document after `updateFn`, from the ConfigMap that was read. -/
def updatedDocument (updateFn : OTLPGatewayConfigMap → Except GoError OTLPGatewayConfigMap)
    (cm : Option ConfigMap) : Except GoError String :=
  match parseConfig yaml cm with
  | .error err => .error err
  | .ok config =>
    match updateFn config with
    | .error err => .error (.errorf "update function failed: " err "")
    | .ok config =>
      match yaml.marshal config with
      | .error text => .error (.errorf "failed to marshal config: " (.new text) "")
      | .ok yamlData => .ok yamlData

def applyConfigUpdate
    (updateFn : OTLPGatewayConfigMap → Except GoError OTLPGatewayConfigMap) : Client Unit := do
  let cm ← getConfigMap «namespace»
  let yamlData ← liftExcept (updatedDocument yaml updateFn cm)
  match cm with
  | none => createConfigMap «namespace» yamlData
  | some cm => updateConfigMap cm yamlData

def addPipelineReference (pipelineType : PipelineType) (input : PipelineReference) : Client Unit :=
  applyConfigUpdate yaml «namespace» (updateSlice pipelineType (addReference input))

def removePipelineReference (pipelineType : PipelineType) (name : String) : Client Unit :=
  applyConfigUpdate yaml «namespace» (updateSlice pipelineType (removeReference name))

def readOTLPGatewayConfig : Client OTLPGatewayConfigMap := do
  match ← TelemetryManager.getConfigMap (configMapKey «namespace») with
  | .error err =>
    if err.isNotFound then pure {}
    else throw (.errorf "failed to get OTLP Gateway coordination ConfigMap: " (.api err) "")
  | .ok cm =>
    match cm.data.lookup configMapDataKey with
    | none => pure {}
    | some yamlData =>
      if yamlData = "" then pure {}
      else match yaml.unmarshal yamlData with
        | .error text => throw (.errorf "failed to unmarshal ConfigMap data: " (.new text) "")
        | .ok config => pure config

end

theorem lookup_setData (key value k : String) (data : List (String × String)) :
    (setData key value data).lookup k = if k = key then some value else data.lookup k := by
  have hbeq : ∀ {x y : String}, x ≠ y → (x == y) = false := fun h => by simpa using h
  induction data with
  | nil =>
    by_cases hk : k = key
    · simp [setData, hk]
    · simp [setData, List.lookup_cons, hk, hbeq hk]
  | cons e data ih =>
    obtain ⟨key', value'⟩ := e
    unfold setData
    by_cases he : key' = key
    · subst he
      by_cases hk : k = key'
      · simp [hk]
      · simp [hk, List.lookup_cons, hbeq hk]
    · rw [if_neg he, List.lookup_cons, List.lookup_cons, ih]
      by_cases hk : k = key
      · subst hk
        simp [hbeq (Ne.symm he)]
      · simp [hk]

/-- The resource versions of the Secrets that exist, each Secret once. -/
def collectSecretVersions (refs : List SecretKeyRef) (seen : List ObjectKey := [])
    (versions : List (String × String) := []) : Client (List (String × String)) :=
  match refs with
  | [] => pure versions
  | ref :: refs =>
    let key : ObjectKey := ⟨ref.namespace, ref.name⟩
    if key ∈ seen then collectSecretVersions refs seen versions
    else do
      match ← getSecret key with
      | .error err =>
        if err.isNotFound then collectSecretVersions refs (key :: seen) versions
        else throw (.errorf ("failed to get secret " ++ ref.namespace ++ "/" ++ ref.name ++ ": ")
          (.api err) "")
      | .ok secret =>
        collectSecretVersions refs (key :: seen)
          (setData (ref.namespace ++ "/" ++ ref.name) secret.resourceVersion versions)

end TelemetryManager.Coordination

import TelemetryManager.CoordinationConfig
import TelemetryManager.Library.Execution

/-! The reconcile function of the OTLP gateway.
The gateway serves the pipelines that the coordination ConfigMap refers to, as far as they still
have the generation that was validated. -/
namespace TelemetryManager.GatewayReconciler

open Interaction Coordination

/-- A pipeline is served if it is not being deleted and has the generation of its reference. -/
def accepts (ref : PipelineReference) (pipeline : ObjectMeta) : Bool :=
  !pipeline.isBeingDeleted && pipeline.generation == ref.generation

/-- Fetch the pipelines of the references, leaving out those that do not exist any more. -/
def fetchPipelines {α : Type} (objectMeta : α → ObjectMeta)
    (get : String → Api (Except ApiError α)) (text : String) :
    List PipelineReference → Client (List α)
  | [] => pure []
  | ref :: refs => do
    match ← get ref.name with
    | .error err =>
      if err.isNotFound then fetchPipelines objectMeta get text refs
      else throw (.errorf (text ++ ref.name ++ ": ") (.api err) "")
    | .ok pipeline =>
      let pipelines ← fetchPipelines objectMeta get text refs
      pure (if accepts ref (objectMeta pipeline) then pipeline :: pipelines else pipelines)

def fetchTracePipelines : List PipelineReference → Client (List TracePipeline) :=
  fetchPipelines (·.toObjectMeta) getTracePipeline "failed to get pipeline "

def fetchLogPipelines : List PipelineReference → Client (List LogPipeline) :=
  fetchPipelines (·.toObjectMeta) getLogPipeline "failed to get log pipeline "

def fetchMetricPipelines : List PipelineReference → Client (List MetricPipeline) :=
  fetchPipelines (·.toObjectMeta) getMetricPipeline "failed to get metric pipeline "

def deleteResources : Client Unit := requestOrFail "failed to delete gateway: " .deleteGateway

def processConfigAndBuildResources (traces : List TracePipeline) (logs : List LogPipeline)
    (metrics : List MetricPipeline) : Client Unit :=
  requestOrFail "" (.applyGateway traces logs metrics)

variable (yaml : YamlLib) (targetNamespace : String)

def doReconcile : Client Unit := do
  requestOrFail "failed to clean up legacy gateways: " .cleanupLegacyGateways
  let config ← mapErr (fun err => .errorf "failed to read configmap: " err "")
    (readOTLPGatewayConfig yaml targetNamespace)
  let tracePipelines ← mapErr (fun err => .errorf "failed to fetch trace pipelines: " err "")
    (fetchTracePipelines config.tracePipelineReferences)
  let logPipelines ← mapErr (fun err => .errorf "failed to fetch log pipelines: " err "")
    (fetchLogPipelines config.logPipelineReferences)
  let metricPipelines ← mapErr (fun err => .errorf "failed to fetch metric pipelines: " err "")
    (fetchMetricPipelines config.metricPipelineReferences)
  if tracePipelines = [] ∧ logPipelines = [] ∧ metricPipelines = [] then
    deleteResources
  else processConfigAndBuildResources tracePipelines logPipelines metricPipelines

end TelemetryManager.GatewayReconciler

import TelemetryManager.GoErrors
import TelemetryManager.Library.Interaction
import TelemetryManager.PipelineApi

/-! Requests of the operator to the Kubernetes API server.
A function that takes a `client.Client` is a program over these requests; one that returns an
error besides is a failing program. -/
namespace TelemetryManager

open Interaction

/-- `types.NamespacedName`. -/
structure ObjectKey where
  «namespace» : String
  name : String
  deriving DecidableEq

structure Secret where
  resourceVersion : String := ""
  data : List (String × String) := []

/-- The kinds of pipelines, as far as they own objects. -/
inductive PipelineKind where
  | tracePipeline
  | metricPipeline
  | logPipeline
  deriving DecidableEq

/-- An owner reference to a pipeline. All pipeline kinds are in one API group. -/
structure OwnerReference where
  kind : PipelineKind
  name : String
  uid : String
  deriving DecidableEq

structure ConfigMap where
  key : ObjectKey
  resourceVersion : Nat := 0
  ownerReferences : List OwnerReference := []
  data : List (String × String) := []

/-- Requests to the API server. A version-carrying `updateConfigMap` is conditional on the
`resourceVersion` of the object it sends. Building the configuration of an agent or of the gateway
from the pipelines that it is to serve and applying its resources is one request. -/
inductive ApiReq where
  | getSecret (key : ObjectKey)
  | getConfigMap (key : ObjectKey)
  | createConfigMap (cm : ConfigMap)
  | updateConfigMap (cm : ConfigMap)
  | getTracePipeline (name : String)
  | getMetricPipeline (name : String)
  | getLogPipeline (name : String)
  | listTracePipelines
  | listMetricPipelines
  | listLogPipelines
  | applyMetricAgent (pipelines : List MetricPipeline)
  | deleteMetricAgent
  | applyLogAgent (pipelines : List LogPipeline)
  | deleteLogAgent
  | applyFluentBit (pipelines : List LogPipeline)
  | deleteFluentBit
  | cleanupLegacyGateways
  | applyGateway (traces : List TracePipeline) (logs : List LogPipeline)
      (metrics : List MetricPipeline)
  | deleteGateway
  | updateTelemetry (telemetry : Telemetry)

def ApiResult : ApiReq → Type
  | .getSecret _ => Secret
  | .getConfigMap _ => ConfigMap
  | .getTracePipeline _ => TracePipeline
  | .getMetricPipeline _ => MetricPipeline
  | .getLogPipeline _ => LogPipeline
  | .listTracePipelines => List TracePipeline
  | .listMetricPipelines => List MetricPipeline
  | .listLogPipelines => List LogPipeline
  | .createConfigMap _ | .updateConfigMap _ | .applyMetricAgent _ | .deleteMetricAgent
  | .applyLogAgent _ | .deleteLogAgent | .applyFluentBit _ | .deleteFluentBit
  | .cleanupLegacyGateways | .applyGateway _ _ _ | .deleteGateway | .updateTelemetry _ => Unit

abbrev ApiResp (r : ApiReq) : Type := Except ApiError (ApiResult r)

/-- The answers of a server that does not change. -/
abbrev ApiTable := (r : ApiReq) → ApiResp r

abbrev ApiEntry := Σ r, ApiResp r

abbrev ApiLog := List ApiEntry

abbrev Api := Prog ApiReq ApiResp

abbrev Client := ExceptT GoError Api

def getSecret (key : ObjectKey) : Api (Except ApiError Secret) :=
  .call (.getSecret key) .done

def getConfigMap (key : ObjectKey) : Api (Except ApiError ConfigMap) :=
  .call (.getConfigMap key) .done

def createConfigMap (cm : ConfigMap) : Api (Except ApiError Unit) :=
  .call (.createConfigMap cm) .done

def updateConfigMap (cm : ConfigMap) : Api (Except ApiError Unit) :=
  .call (.updateConfigMap cm) .done

def getTracePipeline (name : String) : Api (Except ApiError TracePipeline) :=
  .call (.getTracePipeline name) .done

def getMetricPipeline (name : String) : Api (Except ApiError MetricPipeline) :=
  .call (.getMetricPipeline name) .done

def getLogPipeline (name : String) : Api (Except ApiError LogPipeline) :=
  .call (.getLogPipeline name) .done

def requestOrFail (text : String) (r : ApiReq) : Client (ApiResult r) := do
  let answer : Except ApiError (ApiResult r) ← (Prog.call r .done : Api (ApiResp r))
  match answer with
  | .error err => throw (.errorf text (.api err) "")
  | .ok result => pure result

end TelemetryManager

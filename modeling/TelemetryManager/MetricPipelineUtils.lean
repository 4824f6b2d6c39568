import TelemetryManager.PipelineApi

/-! The inputs of a metric pipeline and which of them are switched on. -/
namespace TelemetryManager.MetricPipelineUtils

def isRuntimeInputEnabled (input : MetricPipelineInput) : Bool :=
  input.runtime.bind (·.enabled) == some true

def isPrometheusInputEnabled (input : MetricPipelineInput) : Bool :=
  input.prometheus.bind (·.enabled) == some true

def isIstioInputEnabled (input : MetricPipelineInput) : Bool :=
  input.istio.bind (·.enabled) == some true

def isEnvoyMetricsEnabled (input : MetricPipelineInput) : Bool :=
  (input.istio.bind (·.envoyMetrics)).bind (·.enabled) == some true

def isPrometheusDiagnosticInputEnabled (input : MetricPipelineInput) : Bool :=
  (input.prometheus.bind (·.diagnosticMetrics)).bind (·.enabled) == some true

def isIstioDiagnosticInputEnabled (input : MetricPipelineInput) : Bool :=
  (input.istio.bind (·.diagnosticMetrics)).bind (·.enabled) == some true

/-- A resource is switched on unless it is switched off explicitly. -/
def isRuntimeResourceEnabled
    (resource : MetricPipelineRuntimeInputResources → Option MetricPipelineRuntimeInputResource)
    (input : MetricPipelineInput) : Bool :=
  (((input.runtime.bind (·.resources)).bind resource).bind (·.enabled)).getD true

def isRuntimePodInputEnabled : MetricPipelineInput → Bool := isRuntimeResourceEnabled (·.pod)

def isRuntimeContainerInputEnabled : MetricPipelineInput → Bool :=
  isRuntimeResourceEnabled (·.container)

def isRuntimeNodeInputEnabled : MetricPipelineInput → Bool := isRuntimeResourceEnabled (·.node)

def isRuntimeVolumeInputEnabled : MetricPipelineInput → Bool := isRuntimeResourceEnabled (·.volume)

def isRuntimeStatefulSetInputEnabled : MetricPipelineInput → Bool :=
  isRuntimeResourceEnabled (·.statefulSet)

def isRuntimeDeploymentInputEnabled : MetricPipelineInput → Bool :=
  isRuntimeResourceEnabled (·.deployment)

def isRuntimeDaemonSetInputEnabled : MetricPipelineInput → Bool :=
  isRuntimeResourceEnabled (·.daemonSet)

def isRuntimeJobInputEnabled : MetricPipelineInput → Bool := isRuntimeResourceEnabled (·.job)

def runtimeAdditionalMetrics (input : MetricPipelineInput) : List String :=
  (input.runtime.map (·.additionalMetrics)).getD []

end TelemetryManager.MetricPipelineUtils

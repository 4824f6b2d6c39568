import TelemetryManager.MetricPipelineUtils
import TelemetryManager.OttlConditions
import TelemetryManager.RuntimeMetrics

/-! The receivers of the runtime input.
All metric pipelines share one kubelet-stats and one cluster receiver, which are configured for the
union of what the pipelines ask for. -/
namespace TelemetryManager.MetricAgent

open Collector MetricPipelineUtils Ottl RuntimeMetrics

def podMetricPattern : MetricPattern := ⟨"^k8s[.]pod[.].*", ["k8s.pod."]⟩

def containerMetricPattern : MetricPattern :=
  ⟨"(^k8s[.]container[.].*)|(^container[.].*)", ["k8s.container.", "container."]⟩

def nodeMetricPattern : MetricPattern := ⟨"^k8s[.]node[.].*", ["k8s.node."]⟩

def volumeMetricPattern : MetricPattern := ⟨"^k8s[.]volume[.].*", ["k8s.volume."]⟩

def deploymentMetricPattern : MetricPattern := ⟨"^k8s[.]deployment[.].*", ["k8s.deployment."]⟩

def daemonsetMetricPattern : MetricPattern := ⟨"^k8s[.]daemonset[.].*", ["k8s.daemonset."]⟩

def statefulsetMetricPattern : MetricPattern := ⟨"^k8s[.]statefulset[.].*", ["k8s.statefulset."]⟩

def jobMetricPattern : MetricPattern := ⟨"^k8s[.]job[.].*", ["k8s.job."]⟩

inductive RuntimeResource where
  | pod
  | container
  | node
  | volume
  | deployment
  | daemonset
  | statefulset
  | job
  deriving DecidableEq

namespace RuntimeResource

def isEnabled : RuntimeResource → MetricPipelineInput → Bool
  | .pod => isRuntimePodInputEnabled
  | .container => isRuntimeContainerInputEnabled
  | .node => isRuntimeNodeInputEnabled
  | .volume => isRuntimeVolumeInputEnabled
  | .deployment => isRuntimeDeploymentInputEnabled
  | .daemonset => isRuntimeDaemonSetInputEnabled
  | .statefulset => isRuntimeStatefulSetInputEnabled
  | .job => isRuntimeJobInputEnabled

def pattern : RuntimeResource → MetricPattern
  | .pod => podMetricPattern
  | .container => containerMetricPattern
  | .node => nodeMetricPattern
  | .volume => volumeMetricPattern
  | .deployment => deploymentMetricPattern
  | .daemonset => daemonsetMetricPattern
  | .statefulset => statefulsetMetricPattern
  | .job => jobMetricPattern

def k8sClusterCurated : RuntimeResource → List String
  | .pod => k8sClusterReceiverPodMetrics
  | .container => k8sClusterReceiverContainerMetrics
  | .node | .volume => []
  | .deployment => k8sClusterReceiverDeploymentMetrics
  | .daemonset => k8sClusterReceiverDaemonSetMetrics
  | .statefulset => k8sClusterReceiverStatefulSetMetrics
  | .job => k8sClusterReceiverJobMetrics

def kubeletStatsCurated : RuntimeResource → List String
  | .pod => kubeletStatsReceiverPodMetrics
  | .container => kubeletStatsReceiverContainerMetrics
  | .node => kubeletStatsReceiverNodeMetrics
  | .volume => kubeletStatsReceiverVolumeMetrics
  | .deployment | .daemonset | .statefulset | .job => []

def all : List RuntimeResource :=
  [.pod, .container, .node, .volume, .deployment, .daemonset, .statefulset, .job]

end RuntimeResource

structure RuntimeResourceSources where
  pod : Bool := false
  container : Bool := false
  node : Bool := false
  volume : Bool := false
  statefulset : Bool := false
  deployment : Bool := false
  daemonset : Bool := false
  job : Bool := false

def RuntimeResourceSources.of (sources : RuntimeResourceSources) : RuntimeResource → Bool
  | .pod => sources.pod
  | .container => sources.container
  | .node => sources.node
  | .volume => sources.volume
  | .deployment => sources.deployment
  | .daemonset => sources.daemonset
  | .statefulset => sources.statefulset
  | .job => sources.job

def shouldEnableRuntimeMetricsScraping (pipelines : List MetricPipeline) : Bool :=
  pipelines.any fun mp => isRuntimeInputEnabled mp.input

/-- The source has one copy of this loop for each resource. -/
def shouldEnableRuntimeResourceMetricsScraping (enabled : MetricPipelineInput → Bool)
    (pipelines : List MetricPipeline) : Bool :=
  pipelines.any fun mp => isRuntimeInputEnabled mp.input && enabled mp.input

def runtimeResourceSources (pipelines : List MetricPipeline) : RuntimeResourceSources where
  pod := shouldEnableRuntimeResourceMetricsScraping isRuntimePodInputEnabled pipelines
  container := shouldEnableRuntimeResourceMetricsScraping isRuntimeContainerInputEnabled pipelines
  node := shouldEnableRuntimeResourceMetricsScraping isRuntimeNodeInputEnabled pipelines
  volume := shouldEnableRuntimeResourceMetricsScraping isRuntimeVolumeInputEnabled pipelines
  statefulset :=
    shouldEnableRuntimeResourceMetricsScraping isRuntimeStatefulSetInputEnabled pipelines
  deployment := shouldEnableRuntimeResourceMetricsScraping isRuntimeDeploymentInputEnabled pipelines
  daemonset := shouldEnableRuntimeResourceMetricsScraping isRuntimeDaemonSetInputEnabled pipelines
  job := shouldEnableRuntimeResourceMetricsScraping isRuntimeJobInputEnabled pipelines

/-- Append the metric if the receiver knows it and it has not been seen. -/
def addUnseen (known : List String) (metrics : List String) (m : String) : List String :=
  if m ∈ known ∧ m ∉ metrics then metrics ++ [m] else metrics

/-- The metrics that the pipelines with a runtime input ask for in addition, for the cluster and for
the kubelet-stats receiver. -/
def getRuntimeAdditionalMetrics (pipelines : List MetricPipeline) : List String × List String :=
  let metrics := (pipelines.filter fun mp => isRuntimeInputEnabled mp.input).flatMap fun mp =>
    runtimeAdditionalMetrics mp.input
  (metrics.foldl (addUnseen k8sClusterReceiverMetrics) [],
    metrics.foldl (addUnseen kubeletStatsReceiverMetrics) [])

def allRuntimeAdditionalMetrics (pipelines : List MetricPipeline) : List String :=
  (getRuntimeAdditionalMetrics pipelines).1 ++ (getRuntimeAdditionalMetrics pipelines).2

theorem mem_foldl_addUnseen_iff (known metrics seen : List String) (m : String) :
    m ∈ metrics.foldl (addUnseen known) seen ↔ m ∈ seen ∨ (m ∈ known ∧ m ∈ metrics) := by
  induction metrics generalizing seen with
  | nil => simp
  | cons m' metrics ih =>
    rw [List.foldl_cons, ih, addUnseen]
    grind

def RequestedInAddition (pipelines : List MetricPipeline) (m : String) : Prop :=
  ∃ mp ∈ pipelines, isRuntimeInputEnabled mp.input ∧ m ∈ runtimeAdditionalMetrics mp.input

theorem mem_k8sClusterAdditional_iff (pipelines : List MetricPipeline) (m : String) :
    m ∈ (getRuntimeAdditionalMetrics pipelines).1 ↔
      m ∈ k8sClusterReceiverMetrics ∧ RequestedInAddition pipelines m := by
  simp [getRuntimeAdditionalMetrics, mem_foldl_addUnseen_iff, RequestedInAddition, and_assoc]

theorem mem_kubeletStatsAdditional_iff (pipelines : List MetricPipeline) (m : String) :
    m ∈ (getRuntimeAdditionalMetrics pipelines).2 ↔
      m ∈ kubeletStatsReceiverMetrics ∧ RequestedInAddition pipelines m := by
  simp [getRuntimeAdditionalMetrics, mem_foldl_addUnseen_iff, RequestedInAddition, and_assoc]

def getRuntimeAdditionalResourceMetrics (additionalMetrics : List String)
    (pattern : MetricPattern) : List String :=
  additionalMetrics.filter pattern.accepts

def disableMetrics (names : List String) (metrics : MetricSettings) : MetricSettings :=
  names.foldl (fun metrics m => metrics.insert m false) metrics

def disableMetricsIf (condition : Bool) (names : List String) (metrics : MetricSettings) :
    MetricSettings :=
  if condition then disableMetrics names metrics else metrics

def enableAdditionalMetrics (enablers additionalMetrics : List String) (metrics : MetricSettings) :
    MetricSettings :=
  additionalMetrics.foldl (fun metrics m => if m ∈ enablers then metrics.insert m true else metrics)
    metrics

/-- The keys of the enabler map, in its order. -/
def k8sClusterMetricEnablers : List String :=
  k8sClusterDefaultMetricsToDrop ++ k8sClusterReceiverPodMetrics ++
  k8sClusterReceiverContainerMetrics ++ k8sClusterReceiverStatefulSetMetrics ++
  k8sClusterReceiverJobMetrics ++ k8sClusterReceiverDeploymentMetrics ++
  k8sClusterReceiverDaemonSetMetrics ++ k8sClusterOptionalMetrics

def disableK8sClusterMetrics (runtimeResources : RuntimeResourceSources)
    (metrics : MetricSettings) : MetricSettings :=
  let metrics := disableMetrics k8sClusterDefaultMetricsToDrop metrics
  let metrics := disableMetricsIf (!runtimeResources.pod) k8sClusterReceiverPodMetrics metrics
  let metrics :=
    disableMetricsIf (!runtimeResources.container) k8sClusterReceiverContainerMetrics metrics
  let metrics :=
    disableMetricsIf (!runtimeResources.statefulset) k8sClusterReceiverStatefulSetMetrics metrics
  let metrics := disableMetricsIf (!runtimeResources.job) k8sClusterReceiverJobMetrics metrics
  let metrics :=
    disableMetricsIf (!runtimeResources.deployment) k8sClusterReceiverDeploymentMetrics metrics
  disableMetricsIf (!runtimeResources.daemonset) k8sClusterReceiverDaemonSetMetrics metrics

def k8sClusterMetrics (runtimeResources : RuntimeResourceSources)
    (additionalMetrics : List String) : MetricSettings :=
  enableAdditionalMetrics k8sClusterMetricEnablers additionalMetrics
    (disableK8sClusterMetrics runtimeResources ∅)

def k8sClusterReceiver (runtimeResources : RuntimeResourceSources)
    (additionalMetrics : List String) (collectionInterval : Nat) : K8sClusterReceiverConfig where
  authType := "serviceAccount"
  collectionInterval := collectionInterval
  nodeConditionsToReport := []
  k8sLeaderElector := "k8s_leader_elector"
  metrics := k8sClusterMetrics runtimeResources additionalMetrics

structure RuntimeAdditionalMetricsResources where
  pod : Bool
  container : Bool
  node : Bool
  volume : Bool

def runtimeAdditionalMetricsResources (additionalMetrics : List String) :
    RuntimeAdditionalMetricsResources where
  pod := getRuntimeAdditionalResourceMetrics additionalMetrics podMetricPattern ≠ []
  container := getRuntimeAdditionalResourceMetrics additionalMetrics containerMetricPattern ≠ []
  node := getRuntimeAdditionalResourceMetrics additionalMetrics nodeMetricPattern ≠ []
  volume := getRuntimeAdditionalResourceMetrics additionalMetrics volumeMetricPattern ≠ []

/-- The keys of the enabler map, in its order. -/
def kubeletStatsMetricEnablers : List String :=
  kubeletStatsDefaultMetricsToDrop ++ kubeletStatsReceiverPodMetrics ++
  kubeletStatsReceiverContainerMetrics ++ kubeletStatsReceiverNodeMetrics ++
  kubeletStatsReceiverVolumeMetrics ++ kubeletStatsOptionalMetrics

def kubeletStatsMetricGroups (runtimeResources : RuntimeResourceSources)
    (additional : RuntimeAdditionalMetricsResources) : List MetricGroupType :=
  (if runtimeResources.container || additional.container then [.container] else []) ++
  (if runtimeResources.pod || additional.pod then [.pod] else []) ++
  (if runtimeResources.node || additional.node then [.node] else []) ++
  (if runtimeResources.volume || additional.volume then [.volume] else [])

def disableKubeletStatsMetrics (runtimeResources : RuntimeResourceSources)
    (additional : RuntimeAdditionalMetricsResources) (metrics : MetricSettings) : MetricSettings :=
  let metrics := disableMetrics kubeletStatsDefaultMetricsToDrop metrics
  let metrics := disableMetricsIf (!runtimeResources.pod && additional.pod)
    kubeletStatsReceiverPodMetrics metrics
  let metrics := disableMetricsIf (!runtimeResources.container && additional.container)
    kubeletStatsReceiverContainerMetrics metrics
  let metrics := disableMetricsIf (!runtimeResources.node && additional.node)
    kubeletStatsReceiverNodeMetrics metrics
  disableMetricsIf (!runtimeResources.volume && additional.volume)
    kubeletStatsReceiverVolumeMetrics metrics

def kubeletStatsMetrics (runtimeResources : RuntimeResourceSources)
    (additional : RuntimeAdditionalMetricsResources) (additionalMetrics : List String) :
    MetricSettings :=
  enableAdditionalMetrics kubeletStatsMetricEnablers additionalMetrics
    (disableKubeletStatsMetrics runtimeResources additional ∅)

def kubeletStatsReceiver (runtimeResources : RuntimeResourceSources)
    (additionalMetrics : List String) (collectionInterval : Nat) : KubeletStatsReceiverConfig :=
  let additional := runtimeAdditionalMetricsResources additionalMetrics
  { collectionInterval := collectionInterval
    authType := "serviceAccount"
    insecureSkipVerify := true
    endpoint := "https://" ++ Placeholder.ref envVarCurrentNodeName ++ ":10250"
    metricGroups := kubeletStatsMetricGroups runtimeResources additional
    metrics := kubeletStatsMetrics runtimeResources additional additionalMetrics
    disabledResourceAttributes := ["aws.volume.id", "fs.type", "gce.pd.name",
      "glusterfs.endpoints.name", "glusterfs.path", "partition"]
    extraMetadataLabels := ["k8s.volume.type"]
    allNodeNetworkInterfaces := true
    node := Placeholder.ref envVarCurrentNodeName
    k8sApiAuthType := "serviceAccount" }

end TelemetryManager.MetricAgent

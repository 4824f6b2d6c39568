import TelemetryManager.OttlExpressions

/-! Processor configurations that the gateway and the agents share. -/
namespace TelemetryManager.Collector

structure PodLabel where
  key : String := ""
  keyPrefix : String := ""

structure EnrichmentSpec where
  extractPodLabels : List PodLabel := []

def kymaK8sIOAppName : String := "kyma.kubernetes_io_app_name"

def kymaAppName : String := "kyma.app_name"

def kymaOtelAnnotationServiceName : String := "kyma.otel.annotation.service.name"

def kymaOtelAnnotationServiceVersion : String := "kyma.otel.annotation.service.version"

def extractLabels (useOTelServiceEnrichment : Bool) : List ExtractLabel :=
  (if useOTelServiceEnrichment then []
   else
    [{ «from» := "pod", key := "app.kubernetes.io/name", tagName := kymaK8sIOAppName },
     { «from» := "pod", key := "app", tagName := kymaAppName }]) ++
  [{ «from» := "node", key := "topology.kubernetes.io/region", tagName := "cloud.region" },
   { «from» := "node", key := "topology.kubernetes.io/zone",
     tagName := "cloud.availability_zone" },
   { «from» := "node", key := "node.kubernetes.io/instance-type", tagName := "host.type" },
   { «from» := "node", key := "kubernetes.io/arch", tagName := "host.arch" }]

def extractOtelServiceAnnotations (useOTelServiceEnrichment : Bool) : List ExtractLabel :=
  if useOTelServiceEnrichment then
    [{ «from» := "pod", key := "resource.opentelemetry.io/service.name",
       tagName := kymaOtelAnnotationServiceName },
     { «from» := "pod", key := "resource.opentelemetry.io/service.version",
       tagName := kymaOtelAnnotationServiceVersion }]
  else []

def extractPodLabels (enrichments : Option EnrichmentSpec) : List ExtractLabel :=
  match enrichments with
  | some enrichments => enrichments.extractPodLabels.map fun label =>
      { «from» := "pod", tagName := "k8s.pod.label.$0",
        keyRegex :=
          if label.keyPrefix ≠ "" then "(" ++ label.keyPrefix ++ ".*)"
          else "(^" ++ label.key ++ "$)" }
  | none => []

def k8sAttributesProcessor (enrichments : Option EnrichmentSpec)
    (useOTelServiceEnrichment : Bool) : K8sAttributesProcessorConfig where
  authType := "serviceAccount"
  passthrough := false
  nodeFromEnvVar := envVarCurrentNodeName
  extract :=
    { metadata :=
        ["k8s.pod.name", "k8s.node.name", "k8s.namespace.name", "k8s.deployment.name",
         "k8s.statefulset.name", "k8s.daemonset.name", "k8s.cronjob.name", "k8s.job.name"] ++
        if useOTelServiceEnrichment then
          ["service.namespace", "service.name", "service.version", "service.instance.id"]
        else []
      labels := extractLabels useOTelServiceEnrichment ++ extractPodLabels enrichments
      annotations := extractOtelServiceAnnotations useOTelServiceEnrichment
      otelAnnotations := useOTelServiceEnrichment }
  podAssociation :=
    [[{ «from» := "resource_attribute", name := "k8s.pod.ip" }],
     [{ «from» := "resource_attribute", name := "k8s.pod.uid" }],
     [{ «from» := "connection" }]]

def resolveServiceName : ProcessorConfig := .serviceEnrichment [kymaK8sIOAppName, kymaAppName]

def logFilterProcessor (filters : List FilterSpec) : ProcessorConfig :=
  .filter { errorMode := "ignore", logs := filters }

def metricFilterProcessor (filters : List FilterSpec) : ProcessorConfig :=
  .filter { errorMode := "ignore", metrics := filters }

def traceFilterProcessor (filters : List FilterSpec) : ProcessorConfig :=
  .filter { errorMode := "ignore", traces := filters }

def logTransformProcessor (statements : List TransformProcessorStatements) : ProcessorConfig :=
  .transform { errorMode := "ignore", logStatements := statements }

def metricTransformProcessor (statements : List TransformProcessorStatements) : ProcessorConfig :=
  .transform { errorMode := "ignore", metricStatements := statements }

def traceTransformProcessor (statements : List TransformProcessorStatements) : ProcessorConfig :=
  .transform { errorMode := "ignore", traceStatements := statements }

/-- The same statements for all three signals, for processors with a static ID that the builders
of all signals share. -/
def allSignalsTransformProcessor (statements : List TransformProcessorStatements) :
    ProcessorConfig :=
  .transform
    { errorMode := "ignore"
      logStatements := statements
      metricStatements := statements
      traceStatements := statements }

def transformSpecsToProcessorStatements (specs : List TransformSpec) :
    List TransformProcessorStatements :=
  specs.map fun spec => ⟨spec.statements, spec.conditions⟩

structure ClusterOptions where
  clusterName : String := ""
  clusterUID : String := ""
  cloudProvider : String := ""

def insertClusterAttributesProcessorStatements (cluster : ClusterOptions) :
    List TransformProcessorStatements :=
  [{ statements :=
      [Ottl.setIfNilOrEmptyStatement "k8s.cluster.name" cluster.clusterName,
       Ottl.setIfNilOrEmptyStatement "k8s.cluster.uid" cluster.clusterUID] ++
      if cluster.cloudProvider ≠ "" then
        [Ottl.setIfNilOrEmptyStatement "cloud.provider" cluster.cloudProvider]
      else [] }]

def dropKymaAttributesProcessorStatements : List TransformProcessorStatements :=
  [{ statements := ["delete_matching_keys(resource.attributes, \"kyma.*\")"] }]

def dropUnknownServiceNameProcessorStatements : List TransformProcessorStatements :=
  [{ statements := [Ottl.joinWithWhere (Ottl.deleteResourceAttribute "service.name")
      (Ottl.joinWithAnd [Ottl.resourceAttributeIsNotNil "service.name",
        Ottl.resourceAttributeHasPrefix "service.name" "unknown_service"])] }]

def restoreAndClean (serviceAttr annotationAttr : String) : List String :=
  [Ottl.joinWithWhere
    ("set(" ++ Ottl.resourceAttribute serviceAttr ++ ", " ++
      Ottl.resourceAttribute annotationAttr ++ ")")
    (Ottl.joinWithAnd [Ottl.resourceAttributeIsNotNil annotationAttr,
      Ottl.resourceAttributeNotEquals annotationAttr ""]),
   Ottl.deleteResourceAttribute annotationAttr]

def restoreOtelServiceAnnotationsProcessorStatements : List TransformProcessorStatements :=
  [{ statements := restoreAndClean "service.name" kymaOtelAnnotationServiceName ++
      restoreAndClean "service.version" kymaOtelAnnotationServiceVersion }]

def upstreamInstrumentationScopeName : InputSourceType → String
  | .runtime =>
    "github.com/open-telemetry/opentelemetry-collector-contrib/receiver/kubeletstatsreceiver"
  | .prometheus | .istio =>
    "github.com/open-telemetry/opentelemetry-collector-contrib/receiver/prometheusreceiver"
  | .kyma =>
    "github.com/kyma-project/opentelemetry-collector-components/receiver/kymastatsreceiver"
  | .k8sCluster =>
    "github.com/open-telemetry/opentelemetry-collector-contrib/receiver/k8sclusterreceiver"
  | .otlp => ""

def instrumentationScope : InputSourceType → String
  | .runtime | .k8sCluster => "io.kyma-project.telemetry/runtime"
  | .prometheus => "io.kyma-project.telemetry/prometheus"
  | .istio => "io.kyma-project.telemetry/istio"
  | .kyma => "io.kyma-project.telemetry/kyma"
  | .otlp => ""

def instrumentationStatement (instrumentationScopeVersion : String)
    (inputSource : InputSourceType) : List String :=
  ["set(scope.version, \"" ++ instrumentationScopeVersion ++ "\") where scope.name == \"" ++
    upstreamInstrumentationScopeName inputSource ++ "\"",
   "set(scope.name, \"" ++ instrumentationScope inputSource ++ "\") where scope.name == \"" ++
    upstreamInstrumentationScopeName inputSource ++ "\""]

def instrumentationScopeProcessor (instrumentationScopeVersion : String)
    (inputSources : List InputSourceType) : ProcessorConfig :=
  metricTransformProcessor
    [{ statements := inputSources.flatMap (instrumentationStatement instrumentationScopeVersion) }]

def kymaInputNameProcessorStatements (inputSource : InputSourceType) :
    List TransformProcessorStatements :=
  [{ statements := [Ottl.setResourceAttribute Ottl.kymaInputNameAttribute inputSource.text] }]

end TelemetryManager.Collector

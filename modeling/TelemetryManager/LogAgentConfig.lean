import TelemetryManager.FluentBitSections
import TelemetryManager.GatewayConfig

/-! The configuration of the log agent.
Every log pipeline is one service pipeline that reads the log files of the containers it selects.
Lines are parsed by a chain of operators in the receiver. -/
namespace TelemetryManager.LogAgent

open Collector Interaction OtlpExporter Ottl
open FluentBitBuilder (orAny systemNamespaces)
open Gateway (addPipeline addPipelines addUserDefinedFilterProcessor
  addUserDefinedTransformProcessor annotationValueTelemetryServiceEnrichmentOtel
  formatLogServicePipelineID)

def makePath (ns pod container : String) : String :=
  "/var/log/pods/" ++ ns ++ "_" ++ pod ++ "/" ++ container ++ "/*.log"

def createIncludePath (runtime : Option LogPipelineRuntimeInput) : List String :=
  let includeNamespaces := orAny (((runtime.bind (·.namespaces)).map (·.include)).getD [])
  let includeContainers := orAny (((runtime.bind (·.containers)).map (·.include)).getD [])
  includeNamespaces.flatMap fun ns =>
    includeContainers.map fun container => makePath ns "*" container

def createExcludePath (runtime : Option LogPipelineRuntimeInput) (collectAgentLogs : Bool) :
    List String :=
  let excludeNamespaces := ((runtime.bind (·.namespaces)).map (·.exclude)).getD systemNamespaces
  let excludeContainers := ((runtime.bind (·.containers)).map (·.exclude)).getD []
  (if collectAgentLogs then []
    else [makePath "kyma-system" "telemetry-fluent-bit-*" "fluent-bit",
      makePath "kyma-system" "telemetry-log-agent-*" "collector"]) ++
  [makePath "kyma-system" "*system-logs-agent-*" "collector",
   makePath "kyma-system" "*system-logs-collector-*" "collector"] ++
  excludeNamespaces.map (fun ns => makePath ns "*" "*") ++
  excludeContainers.map (fun container => makePath "*" "*" container)

def traceParentExpression : String :=
  "^[0-9a-f]\x7b2\x7d-(?P<trace_id>[0-9a-f]\x7b32\x7d)-(?P<span_id>[0-9a-f]\x7b16\x7d)-" ++
  "(?P<trace_flags>[0-9a-f]\x7b2\x7d)$"

def operatorNoop : String := "noop"

def makeContainerParser : Operator where
  id := "containerd-parser"
  type := .container
  addMetadataFromFilePath := some true
  format := "containerd"

def makeMoveToLogStream : Operator where
  id := "move-to-log-stream"
  type := .move
  «from» := attributeOf "stream"
  «to» := attributeOf "log.iostream"
  ifExpr := attributeIsNotNil "stream"

def makeDropAttributeLogTag : Operator where
  id := "drop-attribute-log-tag"
  type := .remove
  field := attributeOf "logtag"

/-- A body that is no JSON document skips the other operators. -/
def makeBodyRouter : Operator where
  id := "body-router"
  type := .router
  default := operatorNoop
  routes := [⟨"body matches '^\x7b.*\x7d$'", "json-parser"⟩]

def makeJSONParser : Operator where
  id := "json-parser"
  type := .jsonParser
  parseFrom := "body"
  parseTo := "attributes"

def makeMoveBodyToLogOriginal : Operator where
  id := "move-body-to-attributes-log-original"
  type := .move
  «from» := "body"
  «to» := attributeOf "log.original"

def makeRemoveBody : Operator where
  id := "remove-body"
  type := .remove
  field := "body"

def moveToBody (id key : String) : Operator where
  id := id
  type := .move
  «from» := attributeOf key
  «to» := "body"
  ifExpr := attributeIsNotNil key

def makeMoveMessageToBody : Operator := moveToBody "move-message-to-body" "message"

def makeMoveMsgToBody : Operator := moveToBody "move-msg-to-body" "msg"

def severityParser (id key : String) : Operator where
  id := id
  type := .severityParser
  parseFrom := attributeOf key
  ifExpr := attributeIsNotNil key

def makeSeverityParserFromLevel : Operator := severityParser "parse-level" "level"

def makeSeverityParserFromLogLevel : Operator := severityParser "parse-log-level" "log.level"

def removeIfPresent (id key : String) : Operator where
  id := id
  type := .remove
  field := attributeOf key
  ifExpr := attributeIsNotNil key

def makeRemoveLevel : Operator := removeIfPresent "remove-level" "level"

def makeRemoveLogLevel : Operator := removeIfPresent "remove-log-level" "log.level"

def makeTraceRouter : Operator where
  id := "trace-router"
  type := .router
  default := operatorNoop
  routes :=
    [⟨attributeIsNotNil "trace_id", "trace-parser"⟩,
     ⟨joinWithAnd [attributeIsNotNil "traceparent",
        attributeOf "traceparent" ++ " matches '" ++ traceParentExpression ++ "'"],
      "trace-parent-parser"⟩]

def makeTraceParser : Operator where
  id := "trace-parser"
  type := .traceParser
  output := "remove-trace-id"
  traceID := ⟨attributeOf "trace_id"⟩
  spanID := ⟨attributeOf "span_id"⟩
  traceFlags := ⟨attributeOf "trace_flags"⟩

def makeTraceParentParser : Operator where
  id := "trace-parent-parser"
  type := .regexParser
  regex := traceParentExpression
  parseFrom := attributeOf "traceparent"
  output := "remove-trace-parent"
  trace :=
    { traceID := ⟨attributeOf "trace_id"⟩
      spanID := ⟨attributeOf "span_id"⟩
      traceFlags := ⟨attributeOf "trace_flags"⟩ }

/-- The other attributes are removed only if they are there, this one always. -/
def makeRemoveTraceParent : Operator where
  id := "remove-trace-parent"
  type := .remove
  field := attributeOf "traceparent"

def makeRemoveTraceID : Operator := removeIfPresent "remove-trace-id" "trace_id"

def makeRemoveSpanID : Operator := removeIfPresent "remove-span-id" "span_id"

def makeRemoveTraceFlags : Operator := removeIfPresent "remove-trace-flags" "trace_flags"

def makeNoop : Operator where
  id := operatorNoop
  type := .noop

def makeOperators (keepOriginalBody : Bool) : List Operator :=
  [makeContainerParser, makeMoveToLogStream, makeDropAttributeLogTag, makeBodyRouter,
   makeJSONParser] ++
  [if keepOriginalBody then makeMoveBodyToLogOriginal else makeRemoveBody] ++
  [makeMoveMessageToBody, makeMoveMsgToBody, makeSeverityParserFromLevel, makeRemoveLevel,
   makeSeverityParserFromLogLevel, makeRemoveLogLevel, makeTraceRouter, makeTraceParentParser,
   makeTraceParser, makeRemoveTraceParent, makeRemoveTraceID, makeRemoveSpanID,
   makeRemoveTraceFlags, makeNoop]

def fileLogReceiver (runtime : Option LogPipelineRuntimeInput) (collectAgentLogs : Bool)
    (keepOriginalBody : Bool) : FileLogReceiverConfig where
  exclude := createExcludePath runtime collectAgentLogs
  «include» := createIncludePath runtime
  includeFileName := false
  includeFilePath := true
  startAt := "beginning"
  storage := "file_storage"
  retryOnFailure :=
    { enabled := true, initialInterval := "5s", maxInterval := "30s", maxElapsedTime := "300s" }
  operators := makeOperators keepOriginalBody

structure BuildOptions where
  cluster : ClusterOptions := {}
  instrumentationScopeVersion : String := ""
  enrichments : Option EnrichmentSpec := none
  serviceEnrichment : String := ""

def useOTelServiceEnrichment (opts : BuildOptions) : Bool :=
  opts.serviceEnrichment = annotationValueTelemetryServiceEnrichmentOtel

def exporterQueueSize : Nat := 200000000

def exporterBatchMinSize : Nat := 2000000

def exporterBatchMaxSize : Nat := 4000000

def exporterBatchFlushTimeout : Nat := 10000000000

/-- Whether the original body is kept is dereferenced; admission defaults it. -/
def addFileLogReceiver (collectAgentLogs : Bool) (lp : LogPipeline) : Component :=
  match lp.input.runtime.bind (·.keepOriginalBody) with
  | some keepOriginalBody => .receiver (componentIDFileLogReceiver lp.name)
      (some (.fileLog (fileLogReceiver lp.input.runtime collectAgentLogs keepOriginalBody)))
  | none => .nilDereference

def addMemoryLimiterProcessor : Component :=
  .processor componentIDMemoryLimiterProcessor (some (.memoryLimiter "5s" 80 25))

section Processors

variable (quote : String → String) (opts : BuildOptions)

/-- `quote` is the quoting of the format verb `%q`. -/
def addSetInstrumentationScopeToRuntimeProcessor : Component :=
  .processor componentIDSetInstrumentationScopeRuntimeProcessor
    (some (logTransformProcessor
      [{ statements :=
          ["set(scope.version, " ++ quote opts.instrumentationScopeVersion ++ ")",
           "set(scope.name, " ++ quote (instrumentationScope .runtime) ++ ")"] }]))

def addDropUnknownServiceNameProcessor : Component :=
  .processor componentIDDropUnknownServiceNameProcessor
    (if useOTelServiceEnrichment opts then
      some (logTransformProcessor dropUnknownServiceNameProcessorStatements)
    else none)

def addK8sAttributesProcessor : Component :=
  .processor componentIDK8sAttributesProcessor
    (some (.k8sAttributes
      (k8sAttributesProcessor opts.enrichments (useOTelServiceEnrichment opts))))

def addRestoreOtelServiceAttrsProcessor : Component :=
  .processor componentIDRestoreOtelServiceAttrsProcessor
    (if useOTelServiceEnrichment opts then
      some (logTransformProcessor restoreOtelServiceAnnotationsProcessorStatements)
    else none)

def addInsertClusterAttributesProcessor : Component :=
  .processor componentIDInsertClusterAttributesProcessor
    (some (logTransformProcessor (insertClusterAttributesProcessorStatements opts.cluster)))

def addServiceEnrichmentProcessor : Component :=
  .processor componentIDServiceEnrichmentProcessor
    (if useOTelServiceEnrichment opts then none else some resolveServiceName)

def addDropKymaAttributesProcessor : Component :=
  .processor componentIDDropKymaAttributesProcessor
    (some (logTransformProcessor dropKymaAttributesProcessorStatements))

end Processors

def addOTLPExporter (lib : ExporterLib) (r : PipelineRef) (output : OTLPOutput) : Component :=
  .exporter (componentIDOTLPExporter output.protocol r)
    (otlpExporterWithEnvVars lib r output
      (newSendingQueue exporterQueueSize
        [withSizer "bytes",
         withBatch
          { minSize := exporterBatchMinSize
            maxSize := exporterBatchMaxSize
            flushTimeout := exporterBatchFlushTimeout }]))

section Build

variable (lib : ExporterLib) (quote : String → String) (collectAgentLogs : Bool)
  (opts : BuildOptions)

def logPlan (lp : LogPipeline) (output : OTLPOutput) : ServicePlan where
  id := formatLogServicePipelineID lp
  components :=
    [addFileLogReceiver collectAgentLogs lp,
     addMemoryLimiterProcessor,
     addSetInstrumentationScopeToRuntimeProcessor quote opts,
     addDropUnknownServiceNameProcessor opts,
     addK8sAttributesProcessor opts,
     addRestoreOtelServiceAttrsProcessor opts,
     addInsertClusterAttributesProcessor opts,
     addServiceEnrichmentProcessor opts,
     -- Before the processors of the user, which are not to see these attributes.
     addDropKymaAttributesProcessor,
     addUserDefinedTransformProcessor (logPipelineRef lp) logTransformProcessor lp.transforms,
     addUserDefinedFilterProcessor (logPipelineRef lp) logFilterProcessor lp.filters,
     addOTLPExporter lib (logPipelineRef lp) output]

def sortPipelinesByName (pipelines : List LogPipeline) : List LogPipeline :=
  pipelines.insertionSort fun a b => a.name ≤ b.name

/-- The OTLP output is dereferenced; pipelines of Fluent Bit have none. -/
def build (pipelines : List LogPipeline) : Client BuildState :=
  let pipelines := sortPipelinesByName pipelines
  let s := addExtension componentIDFileStorageExtension
    (.fileStorage true "/tmp/telemetry-log-agent/file-log-receiver") ∅ ⟨newConfig, ∅⟩
  addPipelines (fun lp s =>
    match lp.output.otlp with
    | none => throw (.panic "invalid memory address or nil pointer dereference")
    | some output => addPipeline "failed to add service pipeline: " (logPipelineRef lp)
        output.authentication (logPlan lib quote collectAgentLogs opts lp output) s)
    pipelines s

end Build

end TelemetryManager.LogAgent

import Mathlib.Data.Finmap
import TelemetryManager.KubeClient
import TelemetryManager.Library.ObjectStore

/-! The resources of the gateway and of the agents.
An applier creates or updates a fixed set of objects, some of them only with some options, through a
client that sets labels. A deleter deletes the objects by their names, and the network policies by
their label. -/
namespace TelemetryManager.Resources

open Interaction ObjectStore

inductive Kind where
  | serviceAccount
  | clusterRole
  | clusterRoleBinding
  | role
  | roleBinding
  | service
  | secret
  | configMap
  | networkPolicy
  | daemonSet
  | verticalPodAutoscaler
  | destinationRule
  | peerAuthentication
  deriving DecidableEq

def Kind.isClusterScoped : Kind → Bool
  | .clusterRole | .clusterRoleBinding => true
  | _ => false

structure ObjectRef where
  kind : Kind
  «namespace» : String
  name : String
  deriving DecidableEq

/-- The API server drops the namespace of objects that are not in one. -/
def ref (kind : Kind) (name : ObjectKey) : ObjectRef :=
  ⟨kind, if kind.isClusterScoped then "" else name.namespace, name.name⟩

abbrev Labels := Finmap fun _ : String => String

/-- The body stands for everything but the labels: other metadata, and the specification or data. -/
structure Object (Body : Type) where
  labels : Labels
  body : Body
  deriving DecidableEq

structure Desired (Body : Type) where
  ref : ObjectRef
  labels : Labels
  body : Body

variable {Body : Type}

def make (body : ObjectRef → Body) (kind : Kind) (name : ObjectKey)
    (labels : Labels) : Desired Body :=
  ⟨ref kind name, labels, body (ref kind name)⟩

abbrev Managing (Body α : Type) :=
  ExceptT GoError (Prog (Req ObjectRef (Object Body)) (Resp ObjectRef (Object Body) ApiError)) α

def request (r : Req ObjectRef (Object Body)) :
    Managing Body (Resp ObjectRef (Object Body) ApiError r) :=
  liftM (Prog.request r : Prog _ (Resp ObjectRef (Object Body) ApiError) _)

def orFail {α : Type} : Except ApiError α → Managing Body α
  | .error err => throw (.api err)
  | .ok a => pure a

def withText {α : Type} (text : String) (x : Managing Body α) : Managing Body α :=
  mapErr (fun err => .errorf text err "") x

def onlyIf (condition : Bool) (x : Managing Body Unit) : Managing Body Unit :=
  if condition then x else pure ()

/-- A client that sets labels on what it writes. What it is wrapped around may set owner references,
and an update takes some metadata and fixed fields over from the existing object. -/
structure Client (Body : Type) where
  labels : Labels
  setOwner : Body → Body
  adopt : Kind → Body → Body → Body

def Client.write (c : Client Body) (labels : Labels) (body : Body) : Object Body :=
  ⟨c.labels ∪ labels, c.setOwner body⟩

section CreateOrUpdate

variable [DecidableEq Body]

/-- For some kinds an update that would change nothing is not sent. -/
def createOrUpdate (comparesFirst : Bool) (c : Client Body) (desired : Desired Body) :
    Managing Body Unit := do
  match ← request (.get desired.ref) with
  | .error err =>
    if err.isNotFound then
      orFail (← request (.create desired.ref (c.write desired.labels desired.body)))
    else throw (.api err)
  | .ok existing =>
    let labels := desired.labels ∪ existing.labels
    let body := c.adopt desired.ref.kind desired.body existing.body
    if comparesFirst && existing = ⟨labels, body⟩ then pure ()
    else orFail (← request (.update desired.ref (c.write labels body)))

def createOrUpdateServiceAccount (c : Client Body) := createOrUpdate true c

def createOrUpdateClusterRole (c : Client Body) := createOrUpdate true c

def createOrUpdateClusterRoleBinding (c : Client Body) := createOrUpdate true c

def createOrUpdateRole (c : Client Body) := createOrUpdate true c

def createOrUpdateRoleBinding (c : Client Body) := createOrUpdate true c

def createOrUpdateConfigMap (c : Client Body) := createOrUpdate true c

def createOrUpdateNetworkPolicy (c : Client Body) := createOrUpdate true c

def createOrUpdateSecret (c : Client Body) := createOrUpdate true c

def createOrUpdateDaemonSet (c : Client Body) := createOrUpdate false c

def createOrUpdateService (c : Client Body) := createOrUpdate false c

def createOrUpdatePeerAuthentication (c : Client Body) := createOrUpdate false c

def createOrUpdateDestinationRule (c : Client Body) := createOrUpdate false c

def createOrUpdateVPA (c : Client Body) := createOrUpdate false c

end CreateOrUpdate

def deleteObject (r : ObjectRef) : Managing Body Unit := do
  match ← request (.delete r) with
  | .error err => if err.isNotFound then pure () else throw (.api err)
  | .ok () => pure ()

/-- The deletions stop at the first object that is not there any more. -/
def deleteItems : List ObjectRef → Managing Body Unit
  | [] => pure ()
  | r :: rest => do
    match ← request (.delete r) with
    | .error err => if err.isNotFound then pure () else throw (.api err)
    | .ok () => deleteItems rest

def deleteObjectsByLabelSelector (kind : Kind) (label value : String) : Managing Body Unit := do
  let selects (r : ObjectRef) (o : Object Body) : Bool :=
    r.kind = kind && o.labels.lookup label = some value
  match ← request (.list selects) with
  | .error err => if err.isNotFound then pure () else throw (.api err)
  | .ok refs => deleteItems refs

/-- A step of a deletion, with the text for its error. -/
inductive Deletion where
  | object (text : String) (r : ObjectRef)
  | byLabel (text : String) (kind : Kind) (label value : String)

def Deletion.run : Deletion → Managing Body Unit
  | .object text r => withText text (deleteObject r)
  | .byLabel text kind label value => withText text (deleteObjectsByLabelSelector kind label value)

/-- One step after the other. An error is kept for the end, and what comes next is done
nevertheless. -/
def runAll : List Deletion → Managing Body (List GoError)
  | [] => pure []
  | d :: rest => do
    let result ← attempt d.run
    let allErrors ← runAll rest
    match result with
    | .ok () => pure allErrors
    | .error err => pure (err :: allErrors)

def logAgent : String := "telemetry-log-agent"

def metricAgent : String := "telemetry-metric-agent"

def otlpGateway : String := "telemetry-otlp-gateway"

def fluentBit : String := "telemetry-fluent-bit"

def fluentBitMetricsService : String := fluentBit ++ "-metrics"

def fluentBitExporterMetricsService : String := fluentBit ++ "-exporter-metrics"

def fluentBitSectionsConfigMap : String := fluentBit ++ "-sections"

def fluentBitFilesConfigMap : String := fluentBit ++ "-files"

def fluentBitLuaScriptsConfigMap : String := fluentBit ++ "-luascripts"

def fluentBitEnvSecret : String := fluentBit ++ "-env"

def fluentBitTLSConfigSecret : String := fluentBit ++ "-output-tls-config"

def otlpService : String := "telemetry-otlp"

def otlpLogsService : String := "telemetry-otlp-logs"

def otlpTracesService : String := "telemetry-otlp-traces"

def otlpMetricsService : String := "telemetry-otlp-metrics"

def metricsServiceName (componentName : String) : String := componentName ++ "-metrics"

def networkPolicyPrefix : String := "kyma-project.io--"

def labelKeyK8sName : String := "app.kubernetes.io/name"

def moduleLabels : Labels :=
  ((Finmap.singleton "kyma-project.io/module" "telemetry").insert
    "app.kubernetes.io/part-of" "telemetry").insert "app.kubernetes.io/managed-by"
      "telemetry-manager"

def defaultLabels (componentBaseName componentType : String) : Labels :=
  (moduleLabels.insert "app.kubernetes.io/component" componentType).insert labelKeyK8sName
    componentBaseName

def defaultFluentBitLabels : Labels :=
  defaultLabels "fluent-bit" "agent" ∪ Finmap.singleton "app.kubernetes.io/instance" "telemetry"

def selfMonitorLabels : Labels :=
  Finmap.singleton "telemetry.kyma-project.io/self-monitor" "enabled"

structure GatewayApplyOptions where
  collectorConfigYAML : String
  collectorEnvVars : List (String × String)
  istioEnabled : Bool
  replicas : Int
  resourceRequirementsMultiplier : Int
  vpaCRDExists : Bool
  vpaEnabled : Bool
  vpaMaxAllowedMemory : Int

/-- Without environment variables, that is with a nil map, there is no Secret. -/
structure AgentApplyOptions where
  istioEnabled : Bool
  vpaCRDExists : Bool
  vpaEnabled : Bool
  vpaMaxAllowedMemory : Int
  collectorConfigYAML : String
  collectorEnvVars : Option (List (String × String))
  backendPorts : List String

structure FluentBitApplyOptions where
  istioEnabled : Bool
  sectionsConfig : List (String × String)
  filesConfig : List (String × String)
  envConfigSecret : List (String × String)
  tlsConfigSecret : List (String × String)

/-- The settings of the operator, the client and the contents of the objects. -/
structure Env (Body : Type) where
  targetNamespace : String
  additionalWorkloadLabels : Labels
  setOwner : Body → Body
  adopt : Kind → Body → Body → Body
  gatewayBody : GatewayApplyOptions → ObjectRef → Body
  agentBody : AgentApplyOptions → ObjectRef → Body
  fluentBitBody : FluentBitApplyOptions → ObjectRef → Body

def newLabeler (env : Env Body) (labels : Labels) : Client Body :=
  ⟨labels, env.setOwner, env.adopt⟩

structure RBAC where
  clusterRole : Bool
  clusterRoleBinding : Bool
  role : Bool
  roleBinding : Bool

def cleanupOldNetworkPolicy (name : ObjectKey) : Managing Body Unit :=
  deleteObject (ref .networkPolicy name)

/-- Two policies, whose rules are in their bodies. -/
def networkPolicyPair (body : ObjectRef → Body) (name : ObjectKey) : List (Desired Body) :=
  [make body .networkPolicy ⟨name.namespace,
    networkPolicyPrefix ++ name.name ++ "-" ++ "metrics"⟩ ∅,
    make body .networkPolicy ⟨name.namespace, networkPolicyPrefix ++ name.name⟩ ∅]

def makeAgentNetworkPolicies (body : ObjectRef → Body) := networkPolicyPair body

def makeGatewayNetworkPolicies (body : ObjectRef → Body) := networkPolicyPair body

def FluentBit.makeNetworkPolicies (body : ObjectRef → Body) := networkPolicyPair body

section Apply

variable [DecidableEq Body]

def applyCommonResources (c : Client Body) (name : ObjectKey) (rbac : RBAC)
    (body : ObjectRef → Body) : Managing Body Unit := do
  withText "failed to create service account: "
    (createOrUpdateServiceAccount c (make body .serviceAccount name ∅))
  onlyIf rbac.clusterRole <| withText "failed to create cluster role: "
    (createOrUpdateClusterRole c (make body .clusterRole name ∅))
  onlyIf rbac.clusterRoleBinding <| withText "failed to create cluster role binding: "
    (createOrUpdateClusterRoleBinding c (make body .clusterRoleBinding name ∅))
  onlyIf rbac.role <| withText "failed to create role: "
    (createOrUpdateRole c (make body .role name ∅))
  onlyIf rbac.roleBinding <| withText "failed to create role binding: "
    (createOrUpdateRoleBinding c (make body .roleBinding name ∅))
  withText "failed to create metrics service: " (createOrUpdateService c
    (make body .service ⟨name.namespace, metricsServiceName name.name⟩ selfMonitorLabels))
  withText "failed to cleanup old network policy: " (cleanupOldNetworkPolicy name)

/-- The autoscaler is created if it is enabled and deleted otherwise, if the cluster has
the kind. -/
def applyVPA (c : Client Body) (name : ObjectKey) (vpaCRDExists vpaEnabled : Bool)
    (body : ObjectRef → Body) : Managing Body Unit :=
  onlyIf vpaCRDExists <|
    if vpaEnabled then
      withText "failed to create VPA: "
        (createOrUpdateVPA c (make body .verticalPodAutoscaler name ∅))
    else withText "failed to delete VPA: " (deleteObject (ref .verticalPodAutoscaler name))

end Apply

def deleteCommonResources (name : ObjectKey) : List Deletion :=
  [.object "failed to delete cluster role binding: " (ref .clusterRoleBinding name),
    .object "failed to delete cluster role: " (ref .clusterRole name),
    .object "failed to delete role binding: " (ref .roleBinding name),
    .object "failed to delete role: " (ref .role name),
    .object "failed to delete service account: " (ref .serviceAccount name),
    .object "failed to delete metrics service: "
      (ref .service ⟨name.namespace, metricsServiceName name.name⟩)]

def deleteVPA (name : ObjectKey) (vpaCRDExists : Bool) : List Deletion :=
  if vpaCRDExists then [.object "failed to delete VPA: " (ref .verticalPodAutoscaler name)] else []

/-- The log agent and the metric agent differ in their name and their rules. -/
structure AgentApplierDeleter where
  baseName : String
  rbac : RBAC

def logAgentApplierDeleter : AgentApplierDeleter := ⟨logAgent, ⟨true, true, false, false⟩⟩

def metricAgentApplierDeleter : AgentApplierDeleter := ⟨metricAgent, ⟨true, true, true, true⟩⟩

namespace AgentApplierDeleter

def applyResources [DecidableEq Body] (aad : AgentApplierDeleter) (env : Env Body)
    (opts : AgentApplyOptions) : Managing Body Unit := do
  let name : ObjectKey := ⟨env.targetNamespace, aad.baseName⟩
  let labelerClient := newLabeler env (defaultLabels aad.baseName "agent")
  let body := env.agentBody opts
  withText "failed to create common resource: "
    (applyCommonResources labelerClient name aad.rbac body)
  onlyIf opts.collectorEnvVars.isSome <| withText "failed to create env secret: "
    (createOrUpdateSecret labelerClient (make body .secret name ∅))
  withText "failed to create configmap: "
    (createOrUpdateConfigMap labelerClient (make body .configMap name ∅))
  (makeAgentNetworkPolicies body name).forM fun np =>
    withText "failed to create agent network policies: "
      (createOrUpdateNetworkPolicy labelerClient np)
  withText "failed to create daemonset: " (createOrUpdateDaemonSet labelerClient
    (make body .daemonSet name env.additionalWorkloadLabels))
  applyVPA labelerClient name opts.vpaCRDExists opts.vpaEnabled body

/-- The Secret is not among the deleted objects. -/
def deletions (aad : AgentApplierDeleter) (env : Env Body) (vpaCRDExists : Bool) : List Deletion :=
  let name : ObjectKey := ⟨env.targetNamespace, aad.baseName⟩
  deleteCommonResources name ++
    [.byLabel "failed to delete network policy: " .networkPolicy labelKeyK8sName aad.baseName,
      .object "failed to delete configmap: " (ref .configMap name),
      .object "failed to delete daemonset: " (ref .daemonSet name)] ++
    deleteVPA name vpaCRDExists

def deleteResources (aad : AgentApplierDeleter) (env : Env Body) (vpaCRDExists : Bool) :
    Managing Body (List GoError) :=
  runAll (aad.deletions env vpaCRDExists)

end AgentApplierDeleter

namespace OTLPGateway

def rbac : RBAC := ⟨true, true, true, true⟩

def destinationRules : List String :=
  [otlpLogsService, otlpTracesService, otlpMetricsService, otlpService]

def applyResources [DecidableEq Body] (env : Env Body) (opts : GatewayApplyOptions) :
    Managing Body Unit := do
  let name : ObjectKey := ⟨env.targetNamespace, otlpGateway⟩
  let labelerClient := newLabeler env (defaultLabels otlpGateway "gateway")
  let body := env.gatewayBody opts
  withText "failed to create common resource: " (applyCommonResources labelerClient name rbac body)
  withText "failed to create env secret: "
    (createOrUpdateSecret labelerClient (make body .secret name ∅))
  withText "failed to create configmap: "
    (createOrUpdateConfigMap labelerClient (make body .configMap name ∅))
  (makeGatewayNetworkPolicies body name).forM fun np =>
    withText "failed to create agent network policies: "
      (createOrUpdateNetworkPolicy labelerClient np)
  withText "failed to create daemonset: " (createOrUpdateDaemonSet labelerClient
    (make body .daemonSet name env.additionalWorkloadLabels))
  applyVPA labelerClient name opts.vpaCRDExists opts.vpaEnabled body
  withText "failed to create otlp service: " (createOrUpdateService labelerClient
    (make body .service ⟨env.targetNamespace, otlpService⟩ ∅))
  withText "failed to create legacy log otlp service: " (createOrUpdateService labelerClient
    (make body .service ⟨env.targetNamespace, otlpLogsService⟩ ∅))
  withText "failed to create legacy trace otlp service: " (createOrUpdateService labelerClient
    (make body .service ⟨env.targetNamespace, otlpTracesService⟩ ∅))
  withText "failed to create legacy metric otlp service: " (createOrUpdateService labelerClient
    (make body .service ⟨env.targetNamespace, otlpMetricsService⟩ ∅))
  onlyIf opts.istioEnabled do
    destinationRules.forM fun svcName =>
      withText "failed to create destinationrule: " (createOrUpdateDestinationRule labelerClient
        (make body .destinationRule ⟨env.targetNamespace, svcName⟩ ∅))
    withText "failed to create peerauthentication: " (createOrUpdatePeerAuthentication labelerClient
      (make body .peerAuthentication name ∅))

def deletions (env : Env Body) (isIstioActive vpaCRDExists : Bool) : List Deletion :=
  let name : ObjectKey := ⟨env.targetNamespace, otlpGateway⟩
  deleteCommonResources name ++
    [.object "failed to delete env secret: " (ref .secret name),
      .object "failed to delete configmap: " (ref .configMap name),
      .byLabel "failed to delete network policy: " .networkPolicy labelKeyK8sName otlpGateway,
      .object "failed to delete daemonset: " (ref .daemonSet name)] ++
    deleteVPA name vpaCRDExists ++
    [.object "failed to delete otlp service: " (ref .service ⟨env.targetNamespace, otlpService⟩),
      .object "failed to delete legacy log otlp service: "
        (ref .service ⟨env.targetNamespace, otlpLogsService⟩),
      .object "failed to delete legacy trace otlp service: "
        (ref .service ⟨env.targetNamespace, otlpTracesService⟩),
      .object "failed to delete legacy metric otlp service: "
        (ref .service ⟨env.targetNamespace, otlpMetricsService⟩)] ++
    if isIstioActive then
      destinationRules.map (fun svcName => .object "failed to delete destinationrule: "
        (ref .destinationRule ⟨env.targetNamespace, svcName⟩)) ++
      [.object "failed to delete peerauthentication: " (ref .peerAuthentication name)]
    else []

def deleteResources (env : Env Body) (isIstioActive vpaCRDExists : Bool) :
    Managing Body (List GoError) :=
  runAll (deletions env isIstioActive vpaCRDExists)

end OTLPGateway

namespace FluentBit

def applyResources [DecidableEq Body] (env : Env Body) (opts : FluentBitApplyOptions) :
    Managing Body Unit := do
  let name : ObjectKey := ⟨env.targetNamespace, fluentBit⟩
  let labelerClient := newLabeler env defaultFluentBitLabels
  let body := env.fluentBitBody opts
  withText "failed to create fluent bit service account: "
    (createOrUpdateServiceAccount labelerClient (make body .serviceAccount name ∅))
  withText "failed to create fluent bit cluster role: "
    (createOrUpdateClusterRole labelerClient (make body .clusterRole name ∅))
  withText "failed to create fluent bit cluster role Binding: "
    (createOrUpdateClusterRoleBinding labelerClient (make body .clusterRoleBinding name ∅))
  withText "failed to reconcile exporter metrics service: " (createOrUpdateService labelerClient
    (make body .service ⟨env.targetNamespace, fluentBitExporterMetricsService⟩ ∅))
  withText "failed to reconcile fluent bit metrics service: " (createOrUpdateService labelerClient
    (make body .service ⟨env.targetNamespace, metricsServiceName fluentBit⟩ selfMonitorLabels))
  withText "failed to reconcile fluent bit configmap: "
    (createOrUpdateConfigMap labelerClient (make body .configMap name ∅))
  withText "failed to reconcile fluent bit lua configmap: " (createOrUpdateConfigMap labelerClient
    (make body .configMap ⟨env.targetNamespace, fluentBitLuaScriptsConfigMap⟩ ∅))
  withText "failed to reconcile fluent bit sections configmap: "
    (createOrUpdateConfigMap labelerClient
    (make body .configMap ⟨env.targetNamespace, fluentBitSectionsConfigMap⟩ ∅))
  withText "failed to reconcile fluent bit files configmap: " (createOrUpdateConfigMap labelerClient
    (make body .configMap ⟨env.targetNamespace, fluentBitFilesConfigMap⟩ ∅))
  withText "failed to reconcile fluent bit env config secret: " (createOrUpdateSecret labelerClient
    (make body .secret ⟨env.targetNamespace, fluentBitEnvSecret⟩ ∅))
  withText "failed to reconcile fluent bit tls config secret: " (createOrUpdateSecret labelerClient
    (make body .secret ⟨env.targetNamespace, fluentBitTLSConfigSecret⟩ ∅))
  createOrUpdateDaemonSet labelerClient (make body .daemonSet name env.additionalWorkloadLabels)
  (makeNetworkPolicies body name).forM fun np =>
    withText "failed to create fluent bit network policies: "
      (createOrUpdateNetworkPolicy labelerClient np)
  withText "failed to cleanup old fluentbit network policy: " (cleanupOldNetworkPolicy name)

def deletions (env : Env Body) : List Deletion :=
  let name : ObjectKey := ⟨env.targetNamespace, fluentBit⟩
  [.object "failed to delete serviceaccount: " (ref .serviceAccount name),
    .object "failed to delete clusterole: " (ref .clusterRole name),
    .object "failed to delete clusterolebinding: " (ref .clusterRoleBinding name),
    .object "failed to delete exporter metric service: "
      (ref .service ⟨env.targetNamespace, fluentBitExporterMetricsService⟩),
    .object "failed to delete metric service: "
      (ref .service ⟨env.targetNamespace, fluentBitMetricsService⟩),
    .object "failed to delete configmap: " (ref .configMap name),
    .object "failed to delete lua configmap: "
      (ref .configMap ⟨env.targetNamespace, fluentBitLuaScriptsConfigMap⟩),
    .object "failed to delete section configmap: "
      (ref .configMap ⟨env.targetNamespace, fluentBitSectionsConfigMap⟩),
    .object "failed to delete files configmap: "
      (ref .configMap ⟨env.targetNamespace, fluentBitFilesConfigMap⟩),
    .object "failed to delete daemonset: " (ref .daemonSet name),
    .byLabel "failed to delete networkpolicy: " .networkPolicy labelKeyK8sName "fluent-bit",
    .object "failed to delete env config secret: "
      (ref .secret ⟨env.targetNamespace, fluentBitEnvSecret⟩),
    .object "failed to delete tls file config secret: "
      (ref .secret ⟨env.targetNamespace, fluentBitTLSConfigSecret⟩)]

def deleteResources (env : Env Body) : Managing Body (List GoError) := runAll (deletions env)

end FluentBit

inductive Component where
  | otlpGateway
  | logAgent
  | metricAgent
  | fluentBit

namespace Component

abbrev Options : Component → Type
  | .otlpGateway => GatewayApplyOptions
  | .logAgent | .metricAgent => AgentApplyOptions
  | .fluentBit => FluentBitApplyOptions

def applyResources [DecidableEq Body] (env : Env Body) :
    (component : Component) → component.Options → Managing Body Unit
  | .otlpGateway, opts => OTLPGateway.applyResources env opts
  | .logAgent, opts => logAgentApplierDeleter.applyResources env opts
  | .metricAgent, opts => metricAgentApplierDeleter.applyResources env opts
  | .fluentBit, opts => FluentBit.applyResources env opts

/-- Only the gateway has objects of Istio, and Fluent Bit has no autoscaler. -/
def deleteResources (env : Env Body) (isIstioActive vpaCRDExists : Bool) :
    Component → Managing Body (List GoError)
  | .otlpGateway => OTLPGateway.deleteResources env isIstioActive vpaCRDExists
  | .logAgent => logAgentApplierDeleter.deleteResources env vpaCRDExists
  | .metricAgent => metricAgentApplierDeleter.deleteResources env vpaCRDExists
  | .fluentBit => FluentBit.deleteResources env

def usesIstio : (component : Component) → component.Options → Bool
  | .otlpGateway, opts => opts.istioEnabled
  | _, _ => false

def usesVPA : (component : Component) → component.Options → Bool
  | .otlpGateway, opts => opts.vpaCRDExists && opts.vpaEnabled
  | .logAgent, opts => opts.vpaCRDExists && opts.vpaEnabled
  | .metricAgent, opts => opts.vpaCRDExists && opts.vpaEnabled
  | .fluentBit, _ => false

end Component

end TelemetryManager.Resources

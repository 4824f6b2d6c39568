import Mathlib.Data.Finmap
import TelemetryManager.Library.Machine
import TelemetryManager.SelectorConversion

/-! Log pipelines that are read and written through both API versions. The API server stores
`v1beta1`. A write through `v1alpha1` leaves the whole object in an annotation, and a read through
`v1alpha1` takes the spec from there as long as the generation is the same. -/
namespace TelemetryManager

/-- The metadata of an object. Absent and empty maps are one value. -/
structure Metadata extends ObjectMeta where
  labels : Finmap fun _ : String => String := ∅
  annotations : Finmap fun _ : String => String := ∅
  deriving DecidableEq

namespace V1Alpha1

structure LogPipeline where
  metadata : Metadata
  spec : LogPipelineSpec
  deriving DecidableEq

end V1Alpha1

namespace V1Beta1

structure LogPipeline where
  metadata : Metadata
  spec : LogPipelineSpec
  deriving DecidableEq

end V1Beta1

namespace ApiConversion

open FluentBitBuilder (systemNamespaces)

structure JsonLib where
  marshal : V1Alpha1.LogPipeline → Except String String
  unmarshal : String → Except String V1Alpha1.LogPipeline

def JsonLib.RoundTrips (json : JsonLib) : Prop :=
  ∀ lp data, json.marshal lp = .ok data → json.unmarshal data = .ok lp

def dataAnnotation : String := "telemetry.kyma-project.io/conversion-data"

variable (json : JsonLib)

def marshalData (src : V1Alpha1.LogPipeline) (dst : V1Beta1.LogPipeline) :
    Except GoError V1Beta1.LogPipeline :=
  match json.marshal src with
  | .error err => .error (.new err)
  | .ok data => .ok { dst with metadata := { dst.metadata with
      annotations := dst.metadata.annotations.insert dataAnnotation data } }

def convertTo (src : V1Alpha1.LogPipeline) : Except GoError V1Beta1.LogPipeline :=
  marshalData json src ⟨src.metadata, convertLogPipelineSpecToV1beta1 src.spec⟩

/-- Both objects have the same map of annotations, so the annotation is removed from both. -/
def convertFrom (src : V1Beta1.LogPipeline) : Except GoError V1Alpha1.LogPipeline :=
  match src.metadata.annotations.lookup dataAnnotation with
  | none => .ok ⟨src.metadata, convertLogPipelineSpecToV1alpha1 src.spec⟩
  | some data =>
    match json.unmarshal data with
    | .error err => .error (.errorf "failed to unmarshal data from annotation: " (.new err) "")
    | .ok restored =>
      let metadata := { src.metadata with
        annotations := src.metadata.annotations.erase dataAnnotation }
      if restored.metadata.generation = src.metadata.generation then .ok ⟨metadata, restored.spec⟩
      else .ok ⟨metadata, convertLogPipelineSpecToV1alpha1 src.spec⟩

variable {json}

theorem convertTo_ok {src : V1Alpha1.LogPipeline} {data : String}
    (h : json.marshal src = .ok data) :
    convertTo json src = .ok ⟨{ src.metadata with
      annotations := src.metadata.annotations.insert dataAnnotation data },
      convertLogPipelineSpecToV1beta1 src.spec⟩ := by
  simp [convertTo, marshalData, h]

theorem convertFrom_none {src : V1Beta1.LogPipeline}
    (h : dataAnnotation ∉ src.metadata.annotations) :
    convertFrom json src = .ok ⟨src.metadata, convertLogPipelineSpecToV1alpha1 src.spec⟩ := by
  simp [convertFrom, Finmap.lookup_eq_none.mpr h]

theorem convertFrom_some {src : V1Beta1.LogPipeline} {data : String}
    {restored : V1Alpha1.LogPipeline}
    (hdata : src.metadata.annotations.lookup dataAnnotation = some data)
    (hrestored : json.unmarshal data = .ok restored) :
    convertFrom json src = .ok ⟨{ src.metadata with
      annotations := src.metadata.annotations.erase dataAnnotation },
      if restored.metadata.generation = src.metadata.generation then restored.spec
      else convertLogPipelineSpecToV1alpha1 src.spec⟩ := by
  simp only [convertFrom, hdata, hrestored]
  split <;> rfl

theorem erase_insert (annotations : Finmap fun _ : String => String) (k v : String) :
    (annotations.insert k v).erase k = annotations.erase k := by
  refine Finmap.ext_lookup fun k' => ?_
  by_cases hk : k' = k
  · subst hk
    rw [Finmap.lookup_erase, Finmap.lookup_erase]
  · rw [Finmap.lookup_erase_ne hk, Finmap.lookup_erase_ne hk, Finmap.lookup_insert_of_ne _ hk]

/-- An object of `v1alpha1` survives the conversion to `v1beta1` and back, without
the annotation. -/
theorem v1alpha1_survives_v1beta1 (json : JsonLib) (lp : V1Alpha1.LogPipeline) (data : String)
    (hmarshal : json.marshal lp = .ok data) (hunmarshal : json.unmarshal data = .ok lp) :
    ∃ hub, convertTo json lp = .ok hub ∧ convertFrom json hub = .ok ⟨{ lp.metadata with
      annotations := lp.metadata.annotations.erase dataAnnotation }, lp.spec⟩ := by
  refine ⟨_, convertTo_ok hmarshal, ?_⟩
  rw [convertFrom_some (Finmap.lookup_insert _) hunmarshal, if_pos rfl, erase_insert]

def backend : V1Alpha1.LogPipeline where
  metadata := { name := "backend" }
  spec := {
    input := { application := some { namespaces := { system := true } } }
    output := { fluentBitCustom := "name stdout" } }

/-- The encoder sorts the keys and leaves out what is empty, apart from the selectors. -/
def backendData : String :=
  "\x7b\"metadata\":\x7b\"generation\":1,\"name\":\"backend\"\x7d,\"spec\":\x7b\"input\":" ++
  "\x7b\"application\":\x7b\"containers\":\x7b\x7d,\"namespaces\":\x7b\"system\":true\x7d\x7d" ++
  "\x7d,\"output\":\x7b\"custom\":\"name stdout\"\x7d\x7d\x7d"

section Single

variable (lp : V1Alpha1.LogPipeline) (data : String)

def singleJson : JsonLib where
  marshal src := if src = lp then .ok data else .error "json: unsupported value"
  unmarshal text := if text = data then .ok lp else .error "unexpected end of JSON input"

theorem singleJson_marshal : (singleJson lp data).marshal lp = .ok data := by
  simp [singleJson]

theorem singleJson_unmarshal : (singleJson lp data).unmarshal data = .ok lp := by
  simp [singleJson]

theorem singleJson_roundTrips : (singleJson lp data).RoundTrips := by
  intro src text hmarshal
  simp only [singleJson] at hmarshal ⊢
  split at hmarshal
  · rename_i hsrc
    cases hmarshal
    rw [if_pos rfl, hsrc]
  · cases hmarshal

end Single

def backendJson : JsonLib := singleJson backend backendData

theorem backendJson_marshal : backendJson.marshal backend = .ok backendData :=
  singleJson_marshal backend backendData

theorem backend_survives : ∃ hub, convertTo backendJson backend = .ok hub ∧
    convertFrom backendJson hub = .ok ⟨{ backend.metadata with
      annotations := backend.metadata.annotations.erase dataAnnotation }, backend.spec⟩ :=
  v1alpha1_survives_v1beta1 backendJson backend backendData backendJson_marshal
    (singleJson_unmarshal backend backendData)

structure NamesAccepted (input : LogPipelineInput) : Prop where
  runtime : ∀ selector, input.runtime.bind (·.namespaces) = some selector →
    ∀ name ∈ selector.include ++ selector.exclude, isValidNamespaceName name
  otlp : ∀ selector, input.otlp.bind (·.namespaces) = some selector →
    ∀ name ∈ selector.include ++ selector.exclude, isValidNamespaceName name

def withoutSelectors (spec : V1Beta1.LogPipelineSpec) : V1Beta1.LogPipelineSpec :=
  { spec with input := {
      runtime := spec.input.runtime.map ({ · with namespaces := none, containers := none })
      otlp := spec.input.otlp.map ({ · with namespaces := none }) } }

/-- The spec without a compression, and with the default of the OTLP input written out. -/
def withDefaults (spec : V1Beta1.LogPipelineSpec) : V1Beta1.LogPipelineSpec :=
  { spec with
    input := { spec.input with
      otlp := spec.input.otlp.map fun otlp =>
        { otlp with enabled := some (otlp.enabled.getD true) } }
    output := { spec.output with
      otlp := spec.output.otlp.map ({ · with compression := "" }) } }

structure SameCollection (spec other : V1Beta1.LogPipelineSpec) : Prop where
  namespaces : ∀ ns, runtimeSelects other.input ns = runtimeSelects spec.input ns
  containers : ∀ container, containerSelects (other.input.runtime.bind (·.containers)) container =
    containerSelects (spec.input.runtime.bind (·.containers)) container
  otlpNamespaces : ∀ ns, selectsByDefault (other.input.otlp.bind (·.namespaces)) ns =
    selectsByDefault (spec.input.otlp.bind (·.namespaces)) ns
  rest : withoutSelectors other = withoutSelectors (withDefaults spec)

section Back

variable {selector : NamespaceSelector} {spec : V1Beta1.LogPipelineSpec}

theorem sanitizeSelector_eq_self
    (h : ∀ name ∈ selector.include ++ selector.exclude, isValidNamespaceName name) :
    sanitizeSelector selector = selector := by
  simp only [List.mem_append] at h
  simp only [sanitizeSelector, sanitizeNamespaceNames_eq_self fun name hmem => h name (.inl hmem),
    sanitizeNamespaceNames_eq_self fun name hmem => h name (.inr hmem)]

/-- A selector comes back as it was, an absent one as the system namespaces that it excludes. -/
theorem convertApplicationNamespaces_convertRuntimeNamespaces
    {namespaces : Option NamespaceSelector}
    (h : ∀ selector, namespaces = some selector →
      ∀ name ∈ selector.include ++ selector.exclude, isValidNamespaceName name) :
    convertApplicationNamespaces (convertRuntimeNamespaces namespaces) =
      namespaces.getD { exclude := systemNamespaces } := by
  cases namespaces with
  | none => rfl
  | some selector =>
    have hself := sanitizeSelector_eq_self (h selector rfl)
    by_cases hempty : selector.include = [] ∧ selector.exclude = []
    · obtain ⟨hinclude, hexclude⟩ := hempty
      cases selector
      subst hinclude hexclude
      rfl
    · rw [convertRuntimeNamespaces, if_neg hempty, convertApplicationNamespaces,
        if_neg fun hcond => hempty ⟨hcond.1, hcond.2.1⟩]
      exact hself

theorem selects_systemNamespaces (ns : String) :
    selects { exclude := systemNamespaces } ns = (ns ∉ systemNamespaces : Bool) := by
  simp [selects]

theorem containerSelects_convertApplicationContainers (selector : LogPipelineContainerSelector)
    (container : String) :
    containerSelects (convertApplicationContainers selector) container =
      containerSelects (some selector) container := by
  unfold convertApplicationContainers
  split
  · rfl
  · rename_i hempty
    obtain ⟨hinclude, hexclude⟩ : selector.include = [] ∧ selector.exclude = [] := by
      simpa using hempty
    simp [containerSelects, hinclude, hexclude]

def convertedBack (spec : V1Beta1.LogPipelineSpec) : V1Beta1.LogPipelineSpec :=
  convertLogPipelineSpecToV1beta1 (convertLogPipelineSpecToV1alpha1 spec)

theorem convertedBack_namespaces (h : NamesAccepted spec.input) (ns : String) :
    runtimeSelects (convertedBack spec).input ns = runtimeSelects spec.input ns := by
  obtain ⟨hruntime, -⟩ := h
  simp only [runtimeSelects, convertedBack, convertLogPipelineSpecToV1beta1,
    convertLogPipelineInputToV1beta1, convertLogPipelineSpecToV1alpha1,
    convertLogPipelineInputToV1alpha1]
  cases hinput : spec.input.runtime with
  | none => rfl
  | some runtime =>
    simp only [hinput, Option.bind_some] at hruntime
    simp only [Option.map_some, Option.bind_some, convertLogPipelineApplicationInput,
      convertLogPipelineRuntimeInput,
        convertApplicationNamespaces_convertRuntimeNamespaces hruntime]
    cases runtime.namespaces with
    | none => exact selects_systemNamespaces ns
    | some selector => rfl

theorem convertedBack_containers (spec : V1Beta1.LogPipelineSpec) (container : String) :
    containerSelects ((convertedBack spec).input.runtime.bind (·.containers)) container =
      containerSelects (spec.input.runtime.bind (·.containers)) container := by
  simp only [convertedBack, convertLogPipelineSpecToV1beta1, convertLogPipelineInputToV1beta1,
    convertLogPipelineSpecToV1alpha1, convertLogPipelineInputToV1alpha1]
  cases spec.input.runtime with
  | none => rfl
  | some runtime =>
    simp only [Option.map_some, Option.bind_some, convertLogPipelineApplicationInput,
      convertLogPipelineRuntimeInput, containerSelects_convertApplicationContainers]
    cases runtime.containers with
    | none | some selector => rfl

theorem convertedBack_otlpNamespaces (h : NamesAccepted spec.input) :
    (convertedBack spec).input.otlp.bind (·.namespaces) = spec.input.otlp.bind (·.namespaces) := by
  obtain ⟨-, hotlp⟩ := h
  simp only [convertedBack, convertLogPipelineSpecToV1beta1, convertLogPipelineInputToV1beta1,
    convertLogPipelineSpecToV1alpha1, convertLogPipelineInputToV1alpha1]
  cases hinput : spec.input.otlp with
  | none => rfl
  | some otlp =>
    simp only [hinput, Option.bind_some] at hotlp
    simp only [Option.map_some, Option.bind_some, convertOTLPInputToV1beta1,
      convertOTLPInputToV1alpha1]
    cases hselector : otlp.namespaces with
    | none => rfl
    | some selector =>
      have hself := sanitizeSelector_eq_self (hotlp selector hselector)
      simp [hself]

theorem convertedBack_enabled (enabled : Option Bool) :
    (!(enabled.isSome && !enabled.getD false)) = enabled.getD true := by
  rcases enabled with _ | _ | _ <;> rfl

theorem convertedBack_rest (spec : V1Beta1.LogPipelineSpec) :
    withoutSelectors (convertedBack spec) = withoutSelectors (withDefaults spec) := by
  obtain ⟨⟨runtime, otlp⟩, _, ⟨_, http, otlpOutput⟩, _, _, _, _⟩ := spec
  simp only [withoutSelectors, withDefaults, convertedBack, convertLogPipelineSpecToV1beta1,
    convertLogPipelineSpecToV1alpha1, convertLogPipelineInputToV1beta1,
    convertLogPipelineInputToV1alpha1, Option.map_map, Function.comp_def,
    convertOTLPInputToV1beta1, convertOTLPInputToV1alpha1, convertedBack_enabled]
  congr 1
  cases http <;> cases otlpOutput <;> rfl

/-- An object of `v1beta1` collects the same logs after the conversion to `v1alpha1` and back, also
if its metadata is edited in between. -/
theorem v1beta1_survives_v1alpha1 (json : JsonLib) (lp : V1Beta1.LogPipeline)
    (hdata : dataAnnotation ∉ lp.metadata.annotations) (hnames : NamesAccepted lp.spec.input) :
    ∃ view, convertFrom json lp = .ok view ∧
      ∀ metadata data, json.marshal ⟨metadata, view.spec⟩ = .ok data →
        ∃ back, convertTo json ⟨metadata, view.spec⟩ = .ok back ∧
          SameCollection lp.spec back.spec := by
  refine ⟨_, convertFrom_none hdata, fun metadata data hmarshal => ⟨_, convertTo_ok hmarshal, ?_⟩⟩
  exact {
    namespaces := convertedBack_namespaces hnames
    containers := convertedBack_containers lp.spec
    otlpNamespaces := fun ns =>
      congrArg (selectsByDefault · ns) (convertedBack_otlpNamespaces hnames)
    rest := convertedBack_rest lp.spec }

def sidecars : V1Beta1.LogPipeline where
  metadata := { name := "sidecars" }
  spec := {
    input := {
      runtime := some {
        namespaces := some { exclude := ["kube-system"] }
        containers := some { «include» := ["istio-proxy"] } }
      otlp := some { namespaces := some { «include» := ["team-a"] } } }
    output :=
      { otlp :=
          some { endpoint := { value := "https://backend:4317" }, compression := "zstd" } } }

def labelledSidecars : V1Alpha1.LogPipeline where
  metadata := { name := "sidecars", labels := Finmap.singleton "team" "a" }
  spec := convertLogPipelineSpecToV1alpha1 sidecars.spec

def sidecarsData : String :=
  "\x7b\"metadata\":\x7b\"generation\":1,\"labels\":\x7b\"team\":\"a\"\x7d,\"name\":" ++
  "\"sidecars\"\x7d,\"spec\":\x7b\"input\":\x7b\"application\":\x7b\"containers\":" ++
  "\x7b\"include\":[\"istio-proxy\"]\x7d,\"namespaces\":\x7b\"exclude\":[\"kube-system\"]" ++
  "\x7d\x7d,\"otlp\":\x7b\"namespaces\":\x7b\"include\":[\"team-a\"]\x7d\x7d\x7d,\"output\":" ++
  "\x7b\"otlp\":\x7b\"endpoint\":\x7b\"value\":\"https://backend:4317\"\x7d\x7d\x7d\x7d\x7d"

def sidecarsJson : JsonLib := singleJson labelledSidecars sidecarsData

theorem sidecars_survives : ∃ view, convertFrom sidecarsJson sidecars = .ok view ∧
    ∃ back, convertTo sidecarsJson ⟨labelledSidecars.metadata, view.spec⟩ = .ok back ∧
      SameCollection sidecars.spec back.spec := by
  have hdata : dataAnnotation ∉ sidecars.metadata.annotations := Finmap.notMem_empty
  obtain ⟨view, hview, hback⟩ := v1beta1_survives_v1alpha1 sidecarsJson sidecars hdata
    ⟨by rintro _ ⟨⟩; decide, by rintro _ ⟨⟩; decide⟩
  have hspec : view.spec = labelledSidecars.spec := by
    rw [convertFrom_none hdata] at hview
    cases hview
    rfl
  refine ⟨view, hview, hback labelledSidecars.metadata sidecarsData ?_⟩
  rw [hspec]
  exact singleJson_marshal labelledSidecars sidecarsData

end Back

/-- The accepted writes of an object. Whether a write through `v1alpha1` raises the generation is up
to the API server, which compares specs of that version. -/
inductive Write where
  | createV1alpha1 (lp : V1Alpha1.LogPipeline)
  | updateV1alpha1 (lp : V1Alpha1.LogPipeline) (raised : Bool)
  | createV1beta1 (lp : V1Beta1.LogPipeline)
  | updateV1beta1 (lp : V1Beta1.LogPipeline)
  | delete

def Metadata.atGeneration (metadata : Metadata) (generation : Nat) : Metadata :=
  { metadata with generation := generation }

/-- The object that the API server converts and stores for a write through `v1alpha1`. -/
def admitted (lp : V1Alpha1.LogPipeline) (generation : Nat) : V1Alpha1.LogPipeline :=
  ⟨Metadata.atGeneration lp.metadata generation, lp.spec⟩

/-- The generation of a changed object, raised if the spec is another one. -/
def nextGeneration (stored : V1Beta1.LogPipeline) (raised : Bool) : Nat :=
  if raised then stored.metadata.generation + 1 else stored.metadata.generation

/-- The request has no conversion data, and the object can be converted for the storage. -/
def Accepted (json : JsonLib) (lp : V1Alpha1.LogPipeline) (generation : Nat) : Prop :=
  dataAnnotation ∉ lp.metadata.annotations ∧
    ∃ data, json.marshal (admitted lp generation) = .ok data

def Writable (json : JsonLib) : Option V1Beta1.LogPipeline → Write → Prop
  | none, .createV1alpha1 lp => Accepted json lp 1
  | none, .createV1beta1 lp => dataAnnotation ∉ lp.metadata.annotations
  | some stored, .updateV1alpha1 lp raised => Accepted json lp (nextGeneration stored raised)
  | some stored, .updateV1beta1 lp => lp.metadata.annotations.lookup dataAnnotation =
      stored.metadata.annotations.lookup dataAnnotation
  | some _, .delete => True
  | _, _ => False

def write (json : JsonLib) (stored : Option V1Beta1.LogPipeline) :
    Write → Option V1Beta1.LogPipeline
  | .createV1alpha1 lp => (convertTo json (admitted lp 1)).toOption
  | .updateV1alpha1 lp raised => stored.bind fun old =>
      (convertTo json (admitted lp (nextGeneration old raised))).toOption
  | .createV1beta1 lp => some ⟨Metadata.atGeneration lp.metadata 1, lp.spec⟩
  | .updateV1beta1 lp => stored.map fun old =>
      ⟨Metadata.atGeneration lp.metadata (nextGeneration old (lp.spec ≠ old.spec)), lp.spec⟩
  | .delete => none

def apiServer (json : JsonLib) : Machine (Option V1Beta1.LogPipeline) Write where
  Enabled := Writable json
  next := write json

/-- The writes that leave an object, from an empty storage. The newest write is the first. -/
def Stores (json : JsonLib) (trace : List Write) (stored : Option V1Beta1.LogPipeline) : Prop :=
  (apiServer json).Run (fun _ _ => True) none trace stored

/-- The spec of the last write through `v1alpha1` if no later write changed the spec. -/
def unchangedSpec (json : JsonLib) : List Write → Option V1Alpha1.LogPipelineSpec
  | [] => none
  | .createV1alpha1 lp :: _ => some lp.spec
  | .updateV1alpha1 lp _ :: _ => some lp.spec
  | .updateV1beta1 lp :: earlier =>
    if some lp.spec = ((apiServer json).after none earlier).map (·.spec) then
      unchangedSpec json earlier
    else none
  | .createV1beta1 _ :: _ => none
  | .delete :: _ => none

/-- The annotation has the last object of `v1alpha1`, of the same generation as long as the spec has
not changed. -/
def Holds (json : JsonLib) (trace : List Write) (stored : V1Beta1.LogPipeline) : Prop :=
  match stored.metadata.annotations.lookup dataAnnotation with
  | none => unchangedSpec json trace = none
  | some data => ∃ old, json.unmarshal data = .ok old ∧
      old.metadata.generation ≤ stored.metadata.generation ∧
      unchangedSpec json trace =
        if old.metadata.generation = stored.metadata.generation then some old.spec else none

section Writes

variable {trace : List Write} {stored : V1Beta1.LogPipeline} {lp : V1Alpha1.LogPipeline}

theorem holds_of_convertTo {generation : Nat} (hjson : json.RoundTrips)
    (haccepted : Accepted json lp generation) (hspec : unchangedSpec json trace = some lp.spec) :
    ∀ new, (convertTo json (admitted lp generation)).toOption = some new →
      Holds json trace new := by
  obtain ⟨-, data, hdata⟩ := haccepted
  rw [convertTo_ok hdata]
  rintro _ ⟨⟩
  rw [Holds, Finmap.lookup_insert]
  refine ⟨_, hjson _ _ hdata, le_rfl, ?_⟩
  rw [if_pos rfl, hspec]
  rfl

theorem holds_createV1beta1 {lp : V1Beta1.LogPipeline}
    (hdata : dataAnnotation ∉ lp.metadata.annotations) :
    Holds json (.createV1beta1 lp :: trace) ⟨Metadata.atGeneration lp.metadata 1, lp.spec⟩ := by
  have hnone : lp.metadata.annotations.lookup dataAnnotation = none :=
    Finmap.lookup_eq_none.mpr hdata
  simp only [Holds, Metadata.atGeneration, hnone]
  rfl

/-- A changed spec has a new generation, and the old conversion data no longer counts. -/
theorem holds_updateV1beta1 {lp : V1Beta1.LogPipeline} (hholds : Holds json trace stored)
    (hafter : (apiServer json).after none trace = some stored)
    (hdata : lp.metadata.annotations.lookup dataAnnotation =
      stored.metadata.annotations.lookup dataAnnotation) :
    Holds json (.updateV1beta1 lp :: trace)
      ⟨Metadata.atGeneration lp.metadata (nextGeneration stored (lp.spec ≠ stored.spec)),
        lp.spec⟩ := by
  unfold Holds at hholds ⊢
  simp only [Metadata.atGeneration, hdata, unchangedSpec, hafter, Option.map_some,
    Option.some.injEq]
  by_cases hspec : lp.spec = stored.spec
  · simpa [hspec, nextGeneration] using hholds
  · rw [if_neg hspec]
    cases hlookup : stored.metadata.annotations.lookup dataAnnotation with
    | none => rfl
    | some data =>
      rw [hlookup] at hholds
      obtain ⟨old, hold, hle, -⟩ := hholds
      have hraised : nextGeneration stored (lp.spec ≠ stored.spec) =
        stored.metadata.generation + 1 := by
        simp [nextGeneration, hspec]
      have hlt : old.metadata.generation < nextGeneration stored (lp.spec ≠ stored.spec) := by
        omega
      exact ⟨old, hold, hlt.le, (if_neg hlt.ne).symm⟩

variable {current : Option V1Beta1.LogPipeline}

theorem holds_write {w : Write} (hjson : json.RoundTrips)
    (hafter : (apiServer json).after none trace = current)
    (hholds : ∀ stored, current = some stored → Holds json trace stored)
    (hwritable : Writable json current w) :
    ∀ new, write json current w = some new → Holds json (w :: trace) new := by
  cases w with
  | createV1alpha1 lp =>
    cases current with
    | none => exact holds_of_convertTo hjson hwritable rfl
    | some _ => exact hwritable.elim
  | updateV1alpha1 lp raised =>
    cases current with
    | none => exact hwritable.elim
    | some _ => exact holds_of_convertTo hjson hwritable rfl
  | createV1beta1 lp =>
    cases current with
    | none =>
      rintro _ ⟨⟩
      exact holds_createV1beta1 hwritable
    | some _ => exact hwritable.elim
  | updateV1beta1 lp =>
    cases current with
    | none => exact hwritable.elim
    | some stored =>
      rintro _ ⟨⟩
      exact holds_updateV1beta1 (hholds stored rfl) hafter hwritable
  | delete => simp [write]

theorem holds_of_stores (hjson : json.RoundTrips) (hstores : Stores json trace current) :
    ∀ stored, current = some stored → Holds json trace stored :=
  (hstores.invariant (I := fun trace current => (apiServer json).after none trace = current ∧
      ∀ stored, current = some stored → Holds json trace stored) ⟨rfl, by simp⟩
    fun _ _ w hinv hwritable _ => ⟨congrArg (write json · w) hinv.1,
      holds_write hjson hinv.1 hinv.2 hwritable⟩).2

/-- A read through `v1alpha1` gives the spec of the last write through `v1alpha1` if no later write
changed the spec, and the converted spec otherwise. It never shows the conversion data. -/
theorem v1alpha1_view_current (json : JsonLib) (hjson : json.RoundTrips) (trace : List Write)
    (stored : V1Beta1.LogPipeline) (hstores : Stores json trace (some stored)) :
    ∃ view, convertFrom json stored = .ok view ∧
      view.spec =
        (unchangedSpec json trace).getD (convertLogPipelineSpecToV1alpha1 stored.spec) ∧
      dataAnnotation ∉ view.metadata.annotations := by
  have hholds : Holds json trace stored := holds_of_stores hjson hstores stored rfl
  rw [Holds] at hholds
  cases hlookup : stored.metadata.annotations.lookup dataAnnotation with
  | none =>
    rw [hlookup] at hholds
    have hnone : dataAnnotation ∉ stored.metadata.annotations := Finmap.lookup_eq_none.mp hlookup
    refine ⟨_, convertFrom_none hnone, ?_, hnone⟩
    rw [hholds]
    rfl
  | some data =>
    rw [hlookup] at hholds
    obtain ⟨old, hold, -, hspec⟩ := hholds
    refine ⟨_, convertFrom_some hlookup hold, ?_, Finmap.notMem_erase_self⟩
    rw [hspec]
    split <;> rfl

def storedBackend : V1Beta1.LogPipeline where
  metadata := { name := "backend", annotations := Finmap.singleton dataAnnotation backendData }
  spec := convertLogPipelineSpecToV1beta1 backend.spec

def labelledBackend : V1Beta1.LogPipeline where
  metadata := { storedBackend.metadata with labels := Finmap.singleton "team" "a" }
  spec := storedBackend.spec

theorem write_backend : write backendJson none (.createV1alpha1 backend) = some storedBackend := by
  have hconvert : convertTo backendJson (admitted backend 1) = .ok storedBackend :=
    convertTo_ok backendJson_marshal
  rw [write, hconvert]
  rfl

def labelledTrace : List Write := [.updateV1beta1 labelledBackend, .createV1alpha1 backend]

theorem labelledBackend_stored : Stores backendJson labelledTrace (some labelledBackend) := by
  have hcreated : Stores backendJson [.createV1alpha1 backend] (some storedBackend) := by
    rw [← write_backend]
    exact .step .start ⟨Finmap.notMem_empty, backendData, backendJson_marshal⟩ trivial
  have hkept : Writable backendJson (some storedBackend) (.updateV1beta1 labelledBackend) := rfl
  exact hcreated.step hkept trivial

theorem unchangedSpec_labelledTrace :
    unchangedSpec backendJson labelledTrace = some backend.spec := by
  have hafter : (apiServer backendJson).after none [.createV1alpha1 backend] = some storedBackend :=
    write_backend
  rw [labelledTrace, unchangedSpec, hafter]
  rfl

theorem labelledBackend_view : ∃ view, convertFrom backendJson labelledBackend = .ok view ∧
    view.spec = backend.spec ∧ dataAnnotation ∉ view.metadata.annotations := by
  obtain ⟨view, hview, hspec, hdata⟩ := v1alpha1_view_current backendJson
    (singleJson_roundTrips backend backendData) labelledTrace labelledBackend labelledBackend_stored
  rw [unchangedSpec_labelledTrace] at hspec
  exact ⟨view, hview, hspec, hdata⟩

end Writes

end ApiConversion
end TelemetryManager

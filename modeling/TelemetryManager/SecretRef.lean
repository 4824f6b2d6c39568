import TelemetryManager.KubeClient

/-! Secret references of pipelines: which ones a pipeline has, and how a value is read. -/
namespace TelemetryManager.SecretRef

open Interaction

def missingAttributes (ref : SecretKeyRef) : List String :=
  (if ref.name = "" then ["Name"] else []) ++
  (if ref.namespace = "" then ["Namespace"] else []) ++
  (if ref.key = "" then ["Key"] else [])

def checkForMissingFields (ref : SecretKeyRef) : Except GoError Unit :=
  if missingAttributes ref ≠ [] then
    .error (.errorf "" (.sentinel .errSecretRefMissingFields)
      (": " ++ String.intercalate ", " (missingAttributes ref)))
  else .ok ()

/-- Read the value of a reference. Only a failed request other than "not found" becomes an
`APIRequestFailedError`. -/
def getValue (ref : SecretKeyRef) : Client String := do
  liftExcept (checkForMissingFields ref)
  match ← getSecret ⟨ref.namespace, ref.name⟩ with
  | .error err =>
    if err.isNotFound then
      throw (.errorf "" (.sentinel .errSecretRefNotFound)
        (": Secret '" ++ ref.name ++ "' of Namespace '" ++ ref.namespace ++ "'"))
    else
      throw (.apiRequestFailed (.errorf
        ("failed to get Secret '" ++ ref.name ++ "' of Namespace '" ++ ref.namespace ++ "': ")
        (.api err) ""))
  | .ok secret =>
    match secret.data.lookup ref.key with
    | some value => pure value
    | none =>
      throw (.errorf "" (.sentinel .errSecretKeyNotFound)
        (": Key '" ++ ref.key ++ "' in Secret '" ++ ref.name ++ "' of Namespace '"
          ++ ref.namespace ++ "'"))

def validate (refs : List SecretKeyRef) : Client Unit :=
  forM refs fun ref => discard (getValue ref)

theorem getValue_throws (ref : SecretKeyRef) :
    Throws (fun e => e.isCertAboutToExpireError = false) (getValue ref) := by
  refine Throws.bind (Throws.liftExcept ?_) fun _ => Throws.bind (Throws.lift _) fun r => ?_
  · exact Fails.ite (.error rfl) (.ok _)
  · cases r with
    | error err => cases err <;> exact Throws.throw rfl
    | ok secret =>
      dsimp only
      cases secret.data.lookup ref.key with
      | none => exact Throws.throw rfl
      | some value => exact Throws.pure value

theorem validate_throws (refs : List SecretKeyRef) :
    Throws (fun e => e.isCertAboutToExpireError = false) (validate refs) :=
  Throws.forM fun ref _ => (getValue_throws ref).bind fun _ => Throws.pure _

/-- Resolve a value whose text is given inline or by a Secret. Every failure to read the Secret, a
failed API request included, is reported as the same error. -/
def resolveOr (failed : GoError) (value : ValueType) : Client String :=
  if value.value ≠ "" then pure value.value
  else match value.valueFrom.bind (·.secretKeyRef) with
    | none => throw failed
    | some ref => do
      match ← attempt (getValue ref) with
      | .error _ => throw failed
      | .ok valueFromSecret => pure valueFromSecret

theorem resolveOr_throws {P : GoError → Prop} {failed : GoError} (h : P failed)
    (value : ValueType) : Throws P (resolveOr failed value) := by
  unfold resolveOr
  split
  · exact Throws.pure _
  · split
    · exact Throws.throw h
    · refine Throws.bind (Throws.attempt _) fun r => ?_
      cases r with
      | error e => exact Throws.throw h
      | ok value => exact Throws.pure value

def appendIfSecretRef (refs : List SecretKeyRef) (valueType : Option ValueType) :
    List SecretKeyRef :=
  match valueType with
  | some ⟨"", some ⟨some ref⟩⟩ => refs ++ [ref]
  | _ => refs

def getSecretRefsInOTLPOutput (otlpOut : OTLPOutput) : List SecretKeyRef :=
  let refs := appendIfSecretRef [] (some otlpOut.endpoint)
  let refs := match otlpOut.authentication.bind (·.basic) with
    | some basic => appendIfSecretRef (appendIfSecretRef refs (some basic.user))
        (some basic.password)
    | none => refs
  let refs := match otlpOut.oauth2 with
    | some oauth2 => appendIfSecretRef (appendIfSecretRef (appendIfSecretRef refs
        (some oauth2.tokenURL)) (some oauth2.clientID)) (some oauth2.clientSecret)
    | none => refs
  let refs := otlpOut.headers.foldl
    (fun refs header => appendIfSecretRef refs (some header.toValueType)) refs
  match otlpOut.tls with
  | some tls =>
    if tls.insecure then refs
    else appendIfSecretRef (appendIfSecretRef (appendIfSecretRef refs tls.ca) tls.cert) tls.key
  | none => refs

/-- The reference from which a value is read, if it has no text of its own. -/
def secretRefOf (value : ValueType) : Option SecretKeyRef :=
  if value.value = "" then value.valueFrom.bind (·.secretKeyRef) else none

theorem appendIfSecretRef_eq (refs : List SecretKeyRef) (value : Option ValueType) :
    appendIfSecretRef refs value = refs ++ value.toList.filterMap secretRefOf := by
  unfold appendIfSecretRef
  split
  · simp [secretRefOf]
  · rename_i hother
    cases value with
    | none => simp
    | some value =>
      have hnone : secretRefOf value = none := by
        unfold secretRefOf
        split
        · rename_i hempty
          obtain ⟨text, source⟩ := value
          cases hempty
          rcases source with _ | ⟨_ | ref⟩
          · rfl
          · rfl
          · exact absurd rfl (hother ref)
        · rfl
      simp [hnone]

/-- The values whose references are listed. The TLS values of an insecure output are left out. -/
def listedValues (otlpOut : OTLPOutput) : List ValueType :=
  [otlpOut.endpoint] ++
  (match otlpOut.authentication.bind (·.basic) with
    | some basic => [basic.user, basic.password]
    | none => []) ++
  (match otlpOut.oauth2 with
    | some oauth2 => [oauth2.tokenURL, oauth2.clientID, oauth2.clientSecret]
    | none => []) ++
  otlpOut.headers.map (·.toValueType) ++
  match otlpOut.tls with
    | some tls => if tls.insecure then [] else tls.ca.toList ++ tls.cert.toList ++ tls.key.toList
    | none => []

theorem foldl_appendIfSecretRef (headers : List Header) (refs : List SecretKeyRef) :
    headers.foldl (fun refs header => appendIfSecretRef refs (some header.toValueType)) refs =
      refs ++ (headers.map (·.toValueType)).filterMap secretRefOf := by
  induction headers generalizing refs with
  | nil => simp
  | cons header headers ih =>
    rw [List.foldl_cons, ih, appendIfSecretRef_eq, List.map_cons, List.append_assoc,
      ← List.filterMap_append]
    rfl

theorem getSecretRefsInOTLPOutput_eq (otlpOut : OTLPOutput) :
    getSecretRefsInOTLPOutput otlpOut = (listedValues otlpOut).filterMap secretRefOf := by
  simp only [getSecretRefsInOTLPOutput, listedValues, foldl_appendIfSecretRef]
  cases otlpOut.authentication.bind (·.basic) <;> cases otlpOut.oauth2 <;>
    rcases otlpOut.tls with _ | ⟨_ | _, _, _, _, _⟩ <;>
    simp only [appendIfSecretRef_eq, ← List.filterMap_append, List.append_assoc, List.nil_append,
      List.cons_append, List.append_nil, Option.toList, if_true, Bool.false_eq_true, if_false]

def getSecretRefsInHTTPOutput (httpOutput : Option FluentBitHTTPOutput) : List SecretKeyRef :=
  match httpOutput with
  | some http =>
    let refs := appendIfSecretRef [] (some http.host)
    let refs := appendIfSecretRef (appendIfSecretRef refs http.user) http.password
    appendIfSecretRef (appendIfSecretRef (appendIfSecretRef refs http.tls.ca) http.tls.cert)
      http.tls.key
  | none => []

def getSecretRefsFluentBitLogPipeline (lp : LogPipeline) : List SecretKeyRef :=
  lp.fluentBitVariables.filterMap (·.valueFrom.secretKeyRef) ++
    getSecretRefsInHTTPOutput lp.output.fluentBitHTTP

def getSecretRefsTracePipeline (tp : TracePipeline) : List SecretKeyRef :=
  getSecretRefsInOTLPOutput tp.output

def getSecretRefsMetricPipeline (mp : MetricPipeline) : List SecretKeyRef :=
  getSecretRefsInOTLPOutput mp.output

def getSecretRefsLogPipeline (lp : LogPipeline) : List SecretKeyRef :=
  match lp.output.otlp with
  | some otlp => getSecretRefsInOTLPOutput otlp
  | none => getSecretRefsFluentBitLogPipeline lp

end TelemetryManager.SecretRef

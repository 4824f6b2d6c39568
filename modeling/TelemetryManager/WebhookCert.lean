import TelemetryManager.GoErrors
import TelemetryManager.Library.Hoare

/-! The certificates of the webhooks. A call checks the CA in its Secret and the server certificate
in the certificate directory, generates what is missing or no longer good, and writes the CA into
the webhook configurations and the CRDs. The cryptography is a library with contents, certificates
and keys of its own. -/
namespace TelemetryManager.WebhookCert

open Interaction

/-- Times are in nanoseconds since the start of 1970. -/
def second : Int := 1000000000

def hour : Int := 3600 * second

def day : Int := 24 * hour

structure ServerTemplate where
  serial : Nat
  dnsNames : List String
  notBefore : Int
  notAfter : Int

structure CATemplate where
  notBefore : Int
  notAfter : Int

/-- The packages for PEM, RSA and X.509. A content is what a file or an entry of a Secret holds. -/
structure CryptoLib where
  Content : Type
  Cert : Type
  Key : Type
  isEmpty : Content → Bool
  parseCertPEM : Content → Except String Cert
  parseKeyPEM : Content → Except String Key
  encodeCertPEM : Cert → Content
  encodeKeyPEM : Key → Content
  notAfter : Cert → Int
  bitLen : Key → Nat
  belongs : Cert → Key → Bool
  isCA : Cert → Bool
  createCA : CATemplate → Key → Except String Cert
  createCertificate : ServerTemplate → Cert → Key → Key → Except String Cert
  appendCertsFromPEM : Content → Bool
  verify : Content → Cert → Int → Except String Bool

inductive CertFile where
  | cert
  | key
  deriving DecidableEq

inductive WebhookKind where
  | validating
  | mutating
  deriving DecidableEq

inductive PipelineCRD where
  | logPipeline
  | metricPipeline
  deriving DecidableEq

variable (lib : CryptoLib)

structure CASecret where
  cert : Option lib.Content
  key : Option lib.Content

structure Conversion where
  serviceNamespace : String
  serviceName : String
  path : String
  port : Nat
  caBundle : lib.Content
  conversionReviewVersions : List String

/-- A webhook configuration is read and written for the CA bundles of its webhooks. -/
inductive Req where
  | getCASecret
  | createCASecret (secret : CASecret lib)
  | updateCASecret (secret : CASecret lib)
  | readFile (file : CertFile)
  | writeFile (file : CertFile) (content : lib.Content)
  | now
  | generateKey (bits : Nat)
  | generateSerial
  | getWebhooks (kind : WebhookKind)
  | updateWebhooks (kind : WebhookKind) (caBundles : List lib.Content)
  | getCRD (crd : PipelineCRD)
  | updateCRD (crd : PipelineCRD) (conversion : Conversion lib)

abbrev Resp : Req lib → Type
  | .getCASecret => Except ApiError (CASecret lib)
  | .createCASecret _ | .updateCASecret _ => Except ApiError Unit
  | .readFile _ => Except String lib.Content
  | .writeFile _ _ => Except String Unit
  | .now => Int
  | .generateKey _ => Except String lib.Key
  | .generateSerial => Except String Nat
  | .getWebhooks _ => Except ApiError (List lib.Content)
  | .updateWebhooks _ _ | .getCRD _ | .updateCRD _ _ => Except ApiError Unit

abbrev Ensuring (α : Type) := ExceptT GoError (Prog (Req lib) (Resp lib)) α

variable {lib}

def request (r : Req lib) : Ensuring lib (Resp lib r) :=
  liftM (Prog.request r : Prog (Req lib) (Resp lib) (Resp lib r))

def orFail {ε α : Type} (toGo : ε → GoError) : Except ε α → Ensuring lib α
  | .error err => throw (toGo err)
  | .ok a => pure a

def wrap (pre : String) (err : GoError) : GoError := .errorf pre err ""

/-- A certificate is good until some time before it expires. -/
def checkExpiry (softExpiryOffset : Int) (certPEM : lib.Content) : Ensuring lib Bool := do
  let cert ← orFail .new (lib.parseCertPEM certPEM)
  let nowTime ← request .now
  pure (nowTime < lib.notAfter cert - softExpiryOffset)

def checkKeyLength (expectedKeySize : Nat) (keyPEM : lib.Content) : Ensuring lib Bool := do
  let key ← orFail (fun err => wrap "failed to parse key PEM: " (.new err)) (lib.parseKeyPEM keyPEM)
  pure (lib.bitLen key = expectedKeySize)

def checkRoot (serverCertPEM caCertPEM : lib.Content) : Ensuring lib Bool := do
  if !lib.appendCertsFromPEM caCertPEM then throw (.new "failed to parse root certificate")
  else
    let cert ← orFail (fun err => wrap "failed to parse x509 cert: " (.new err))
      (lib.parseCertPEM serverCertPEM)
    let nowTime ← request .now
    orFail (fun err => wrap "failed to verify x509 cert: " (.new err))
      (lib.verify caCertPEM cert nowTime)

def rsaKeySize : Nat := 4096

def caCertMaxAge : Int := 365 * day

/-- An unset key size stands for the default. -/
def effectiveKeySize (keySize : Nat) : Nat := if keySize = 0 then rsaKeySize else keySize

def generateCACert (keySize : Nat) : Ensuring lib (lib.Content × lib.Content) := do
  let key ← orFail (fun err => wrap "failed to generateCert rsa private key: " (.new err))
    (← request (.generateKey (effectiveKeySize keySize)))
  let validFrom := (← request .now) - hour
  let cert ← orFail (fun err => wrap "failed to create x509 cert: " (.new err))
    (lib.createCA ⟨validFrom, validFrom + caCertMaxAge⟩ key)
  pure (lib.encodeCertPEM cert, lib.encodeKeyPEM key)

/-- Both checks are made, and neither may fail. -/
def checkCASecret (keySize : Nat) (secret : CASecret lib) : Ensuring lib Bool :=
  match secret.cert, secret.key with
  | some caCertPEM, some caKeyPEM => do
    let certNotExpired ← attempt (checkExpiry (30 * day) caCertPEM)
    let keyLengthValid ← attempt (checkKeyLength keySize caKeyPEM)
    match certNotExpired, keyLengthValid with
    | .ok certNotExpired, .ok keyLengthValid => pure (certNotExpired && keyLengthValid)
    | _, _ => pure false
  | _, _ => pure false

/-- Create the Secret, or replace its entries. An update with the same entries is not sent. -/
def createOrUpdateSecret [DecidableEq (CASecret lib)]
    (desired : CASecret lib) : Ensuring lib Unit := do
  match ← request .getCASecret with
  | .error err =>
    if err.isNotFound then orFail .api (← request (.createCASecret desired)) else throw (.api err)
  | .ok existing =>
    if existing = desired then pure () else orFail .api (← request (.updateCASecret desired))

def storedCACert (keySize : Nat) : Ensuring lib (Option (lib.Content × lib.Content)) := do
  match ← request .getCASecret with
  | .error err =>
    if err.isNotFound then pure none
    else throw (wrap "failed to find ca cert caSecretName: " (.api err))
  | .ok secret =>
    if ← checkCASecret keySize secret then
      pure (secret.cert.bind fun cert => secret.key.map fun key => (cert, key))
    else pure none

def createCACert [DecidableEq (CASecret lib)] (keySize : Nat) :
    Ensuring lib (lib.Content × lib.Content) := do
  let (caCertPEM, caKeyPEM) ← mapErr (wrap "failed to generateCert ca cert: ")
    (generateCACert keySize)
  mapErr (wrap "failed to create ca cert caSecretName: ")
    (createOrUpdateSecret ⟨some caCertPEM, some caKeyPEM⟩)
  pure (caCertPEM, caKeyPEM)

def provideCACert [DecidableEq (CASecret lib)] (keySize : Nat) :
    Ensuring lib (lib.Content × lib.Content) := do
  match ← storedCACert keySize with
  | some pair => pure pair
  | none => createCACert keySize

structure ServerCertConfig (lib : CryptoLib) where
  host : String
  alternativeDNSNames : List String
  caCertPEM : lib.Content
  caKeyPEM : lib.Content

def serverCertMaxAge : Int := 7 * day

def generateServerCert (keySize : Nat) (config : ServerCertConfig lib) :
    Ensuring lib (lib.Content × lib.Content) := do
  let caCert ← orFail (fun err => wrap "failed to parse ca cert: " (.new err))
    (lib.parseCertPEM config.caCertPEM)
  let caKey ← orFail (fun err => wrap "failed to parse ca key: " (.new err))
    (lib.parseKeyPEM config.caKeyPEM)
  let serial ← orFail (fun err => wrap "failed to generateCert serial number: " (.new err))
    (← request .generateSerial)
  let validFrom := (← request .now) - hour
  let key ← orFail (fun err => wrap "failed to generateCert rsa private key: " (.new err))
    (← request (.generateKey (effectiveKeySize keySize)))
  let cert ← orFail (fun err => wrap "failed to create x509 cert: " (.new err))
    (lib.createCertificate ⟨serial, config.host :: config.alternativeDNSNames, validFrom,
      validFrom + serverCertMaxAge⟩ caCert key caKey)
  pure (lib.encodeCertPEM cert, lib.encodeKeyPEM key)

def load : Ensuring lib (lib.Content × lib.Content) := do
  let certPEM ← orFail (fun err => wrap "failed to load cert: " (.new err))
    (← request (.readFile .cert))
  let keyPEM ← orFail (fun err => wrap "failed to load key: " (.new err))
    (← request (.readFile .key))
  pure (certPEM, keyPEM)

/-- The certificate is written before its key. -/
def save (certPEM keyPEM : lib.Content) : Ensuring lib Unit := do
  orFail (fun err => wrap "failed to save cert: " (.new err)) (← request (.writeFile .cert certPEM))
  orFail (fun err => wrap "failed to save key: " (.new err)) (← request (.writeFile .key keyPEM))

/-- The key is not part of the check. -/
def checkServerCert (serverCertPEM caCertPEM : lib.Content) : Ensuring lib Bool := do
  match ← attempt (checkExpiry day serverCertPEM) with
  | .ok true =>
    match ← attempt (checkRoot serverCertPEM caCertPEM) with
    | .ok certValid => pure certValid
    | .error _ => pure false
  | _ => pure false

def storedServerCert (caCertPEM : lib.Content) :
    Ensuring lib (Option (lib.Content × lib.Content)) := do
  match ← attempt load with
  | .error _ => pure none
  | .ok (certPEM, keyPEM) =>
    if lib.isEmpty certPEM || lib.isEmpty keyPEM then pure none
    else if ← checkServerCert certPEM caCertPEM then pure (some (certPEM, keyPEM))
    else pure none

def createServerCert (keySize : Nat) (config : ServerCertConfig lib) :
    Ensuring lib (lib.Content × lib.Content) := do
  let (certPEM, keyPEM) ← mapErr (wrap "failed to generate cert: ")
    (generateServerCert keySize config)
  mapErr (wrap "failed to save server cert: ") (save certPEM keyPEM)
  pure (certPEM, keyPEM)

def provideServerCert (keySize : Nat) (config : ServerCertConfig lib) :
    Ensuring lib (lib.Content × lib.Content) := do
  match ← storedServerCert config.caCertPEM with
  | some pair => pure pair
  | none => createServerCert keySize config

structure Config where
  rsaKeySize : Nat
  serviceName : String
  serviceNamespace : String

def webhookServicePort : Nat := 443

def updateWebhookConfig (kind : WebhookKind) (failure : String) (caBundle : lib.Content) :
    Ensuring lib Unit := do
  let caBundles ← orFail (fun err => wrap failure (.api err)) (← request (.getWebhooks kind))
  orFail .api (← request (.updateWebhooks kind (caBundles.map fun _ => caBundle)))

def updateValidatingWebhookConfig (caBundle : lib.Content) : Ensuring lib Unit :=
  updateWebhookConfig .validating "failed to get validating webhook configuration: " caBundle

def updateMutatingWebhookConfig (caBundle : lib.Content) : Ensuring lib Unit :=
  updateWebhookConfig .mutating "failed to get mutating webhook: " caBundle

def makeConversionWebhookConfig (caBundle : lib.Content) (config : Config) : Conversion lib where
  serviceNamespace := config.serviceNamespace
  serviceName := config.serviceName
  path := "/convert"
  port := webhookServicePort
  caBundle := caBundle
  conversionReviewVersions := ["v1"]

def crdName : PipelineCRD → String
  | .logPipeline => "logpipelines.telemetry.kyma-project.io"
  | .metricPipeline => "metricpipelines.telemetry.kyma-project.io"

def updatePipelineCRDWithConversionWebhookConfig (crd : PipelineCRD) (conversion : Conversion lib) :
    Ensuring lib Unit := do
  orFail (fun err => wrap ("failed to get CRD /" ++ crdName crd ++ ": ") (.api err))
    (← request (.getCRD crd))
  orFail .api (← request (.updateCRD crd conversion))

def applyWebhookConfigResources (caBundle : lib.Content) (config : Config) : Ensuring lib Unit := do
  mapErr (wrap "failed to update validating webhook with CA bundle: ")
    (updateValidatingWebhookConfig caBundle)
  mapErr (wrap "failed to update mutating webhook with CA bundle: ")
    (updateMutatingWebhookConfig caBundle)
  let conversion := makeConversionWebhookConfig caBundle config
  mapErr (wrap "failed to update LogPipeline CRD with conversion webhook configuration: ")
    (updatePipelineCRDWithConversionWebhookConfig .logPipeline conversion)
  mapErr (wrap "failed to update MetricPipeline CRD with conversion webhook configuration: ")
    (updatePipelineCRDWithConversionWebhookConfig .metricPipeline conversion)

def dnsNames (config : Config) : String × List String :=
  let host := config.serviceName ++ "." ++ config.serviceNamespace ++ ".svc"
  (host, [config.serviceName, config.serviceName ++ "." ++ config.serviceNamespace,
    host ++ ".cluster.local"])

def ensureCertificate [DecidableEq (CASecret lib)] (config : Config) : Ensuring lib Unit := do
  let (caCertPEM, caKeyPEM) ← mapErr (wrap "failed to provide ca cert/key: ")
    (provideCACert config.rsaKeySize)
  let (host, alternativeDNSNames) := dnsNames config
  let _ ← mapErr (wrap "failed to provide server cert/key: ")
    (provideServerCert config.rsaKeySize ⟨host, alternativeDNSNames, caCertPEM, caKeyPEM⟩)
  applyWebhookConfigResources caCertPEM config

/-- What a call reads and writes: the files, the Secret, the CA bundles of the webhooks of each
configuration and the conversion webhooks of the CRDs. -/
structure World (lib : CryptoLib) where
  now : Int
  files : CertFile → Option lib.Content
  caSecret : Option (CASecret lib)
  webhooks : WebhookKind → List lib.Content
  crds : PipelineCRD → Option (Conversion lib)

namespace World

variable (w : World lib)

def setFile (file : CertFile) (content : Option lib.Content) : World lib :=
  { w with files := Function.update w.files file content }

def setCASecret (secret : CASecret lib) : World lib := { w with caSecret := some secret }

def setWebhooks (kind : WebhookKind) (caBundles : List lib.Content) : World lib :=
  { w with webhooks := Function.update w.webhooks kind caBundles }

def setCRD (crd : PipelineCRD) (conversion : Conversion lib) : World lib :=
  { w with crds := Function.update w.crds crd (some conversion) }

def atTime (now : Int) : World lib := { w with now := now }

@[simp] theorem atTime_now (now : Int) : (w.atTime now).now = now := rfl

@[simp] theorem atTime_caSecret (now : Int) : (w.atTime now).caSecret = w.caSecret := rfl

@[simp] theorem atTime_files (now : Int) : (w.atTime now).files = w.files := rfl

end World

/-- The effect of a request without a failure, and its answer. Of a request for random data the
answer is any of the right size. -/
inductive Answers : World lib → (r : Req lib) → Resp lib r → World lib → Prop where
  | getCASecret (w : World lib) (secret : CASecret lib) (h : w.caSecret = some secret) :
      Answers w .getCASecret (.ok secret) w
  | noCASecret (w : World lib) (h : w.caSecret = none) :
      Answers w .getCASecret (.error .notFound) w
  | createCASecret (w : World lib) (secret : CASecret lib) :
      Answers w (.createCASecret secret) (.ok ()) (w.setCASecret secret)
  | updateCASecret (w : World lib) (secret : CASecret lib) :
      Answers w (.updateCASecret secret) (.ok ()) (w.setCASecret secret)
  | readFile (w : World lib) (file : CertFile) (content : lib.Content)
      (h : w.files file = some content) : Answers w (.readFile file) (.ok content) w
  | noFile (w : World lib) (file : CertFile) (err : String) (h : w.files file = none) :
      Answers w (.readFile file) (.error err) w
  | writeFile (w : World lib) (file : CertFile) (content : lib.Content) :
      Answers w (.writeFile file content) (.ok ()) (w.setFile file (some content))
  | now (w : World lib) : Answers w .now w.now w
  | generateKey (w : World lib) (bits : Nat) (key : lib.Key) (h : lib.bitLen key = bits) :
      Answers w (.generateKey bits) (.ok key) w
  | generateSerial (w : World lib) (serial : Nat) : Answers w .generateSerial (.ok serial) w
  | getWebhooks (w : World lib) (kind : WebhookKind) :
      Answers w (.getWebhooks kind) (.ok (w.webhooks kind)) w
  | updateWebhooks (w : World lib) (kind : WebhookKind) (caBundles : List lib.Content) :
      Answers w (.updateWebhooks kind caBundles) (.ok ()) (w.setWebhooks kind caBundles)
  | getCRD (w : World lib) (crd : PipelineCRD) : Answers w (.getCRD crd) (.ok ()) w
  | updateCRD (w : World lib) (crd : PipelineCRD) (conversion : Conversion lib) :
      Answers w (.updateCRD crd conversion) (.ok ()) (w.setCRD crd conversion)

/-- A request that is answered without a failure, while time passes as the relation allows. -/
inductive Serves (Passes : Int → Int → Prop) :
    World lib → (r : Req lib) → Resp lib r → World lib → Prop where
  | answer {w v : World lib} {r : Req lib} {x : Resp lib r} {now : Int} (h : Answers w r x v)
      (hnow : Passes v.now now) : Serves Passes w r x (v.atTime now)

theorem Serves.mono {Passes Passes' : Int → Int → Prop} {w t : World lib} {r : Req lib}
    {x : Resp lib r} (h : Serves Passes w r x t) (himp : ∀ i j, Passes i j → Passes' i j) :
    Serves Passes' w r x t := by
  cases h with
  | answer hanswer hnow => exact .answer hanswer (himp _ _ hnow)

/-- The answers without a failure as a function, for a source of keys. -/
def answerWith (newKey : Nat → lib.Key) (w : World lib) : (r : Req lib) → Resp lib r × World lib
  | .getCASecret => (w.caSecret.elim (.error .notFound) .ok, w)
  | .createCASecret secret => (.ok (), w.setCASecret secret)
  | .updateCASecret secret => (.ok (), w.setCASecret secret)
  | .readFile file => ((w.files file).elim (.error "no such file or directory") .ok, w)
  | .writeFile file content => (.ok (), w.setFile file (some content))
  | .now => (w.now, w)
  | .generateKey bits => (.ok (newKey bits), w)
  | .generateSerial => (.ok 1, w)
  | .getWebhooks kind => (.ok (w.webhooks kind), w)
  | .updateWebhooks kind caBundles => (.ok (), w.setWebhooks kind caBundles)
  | .getCRD _ => (.ok (), w)
  | .updateCRD crd conversion => (.ok (), w.setCRD crd conversion)

theorem now_answerWith (newKey : Nat → lib.Key) (w : World lib) (r : Req lib) :
    (answerWith newKey w r).2.now = w.now := by
  cases r <;> rfl

theorem answers_answerWith {newKey : Nat → lib.Key} (w : World lib) (r : Req lib)
    (hkey : ∀ bits, r = .generateKey bits → lib.bitLen (newKey bits) = bits) :
    Answers w r (answerWith newKey w r).1 (answerWith newKey w r).2 := by
  cases r with
  | getCASecret =>
    cases hsecret : w.caSecret with
    | none =>
      simp only [answerWith, hsecret]
      exact .noCASecret w hsecret
    | some secret =>
      simp only [answerWith, hsecret]
      exact .getCASecret w secret hsecret
  | readFile file =>
    cases hfile : w.files file with
    | none =>
      simp only [answerWith, hfile]
      exact .noFile w file _ hfile
    | some content =>
      simp only [answerWith, hfile]
      exact .readFile w file content hfile
  | generateKey bits => exact .generateKey w bits _ (hkey bits rfl)
  | _ => constructor

structure SimpleKey where
  id : Nat
  bits : Nat
  deriving DecidableEq

structure SimpleCert where
  notBefore : Int
  notAfter : Int
  owner : SimpleKey
  signer : SimpleKey
  isCA : Bool
  deriving DecidableEq

namespace SimpleCert

def belongs (cert : SimpleCert) (key : SimpleKey) : Bool := cert.owner = key

def sign (template : ServerTemplate) (parent : SimpleCert) (key signer : SimpleKey) :
    Except String SimpleCert :=
  if parent.belongs signer then .ok ⟨template.notBefore, template.notAfter, key, signer, false⟩
  else .error "x509: provided PrivateKey doesn't match parent's PublicKey"

def verify (cert ca : SimpleCert) (now : Int) : Except String Bool :=
  if cert.notBefore ≤ now ∧ now ≤ cert.notAfter ∧ ca.notBefore ≤ now ∧ now ≤ ca.notAfter then
    if ca.isCA ∧ cert.signer = ca.owner then .ok true
    else .error "x509: certificate signed by unknown authority"
  else .error "x509: certificate has expired or is not yet valid"

theorem belongs_iff {cert : SimpleCert} {key : SimpleKey} :
    cert.belongs key ↔ cert.owner = key := by
  simp [belongs]

theorem exists_sign_iff (template : ServerTemplate) (parent : SimpleCert) (key signer : SimpleKey) :
    (∃ cert, sign template parent key signer = .ok cert) ↔ parent.belongs signer := by
  cases h : parent.belongs signer <;> simp [sign, h]

end SimpleCert

inductive SimplePEM where
  | empty
  | garbage
  | cert (cert : SimpleCert)
  | key (key : SimpleKey)
  deriving DecidableEq

/-- Certificates that name the key of their signer. -/
def simpleCrypto : CryptoLib where
  Content := SimplePEM
  Cert := SimpleCert
  Key := SimpleKey
  isEmpty pem := pem = .empty
  parseCertPEM
    | .cert cert => .ok cert
    | _ => .error "failed to decode PEM block"
  parseKeyPEM
    | .key key => .ok key
    | _ => .error "failed to decode PEM block"
  encodeCertPEM := .cert
  encodeKeyPEM := .key
  notAfter := SimpleCert.notAfter
  bitLen := SimpleKey.bits
  belongs := SimpleCert.belongs
  isCA := SimpleCert.isCA
  createCA template key := .ok ⟨template.notBefore, template.notAfter, key, key, true⟩
  createCertificate := SimpleCert.sign
  appendCertsFromPEM
    | .cert _ => true
    | _ => false
  verify
    | .cert ca, cert, now => cert.verify ca now
    | _, _, _ => .error "x509: certificate signed by unknown authority"

def newSimpleKey (id bits : Nat) : simpleCrypto.Key := SimpleKey.mk id bits

instance : DecidableEq (CASecret simpleCrypto) := fun a b =>
  have : DecidableEq simpleCrypto.Content := inferInstanceAs (DecidableEq SimplePEM)
  decidable_of_iff (a.cert = b.cert ∧ a.key = b.key) (by cases a; cases b; simp)

end TelemetryManager.WebhookCert

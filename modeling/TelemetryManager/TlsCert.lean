import TelemetryManager.Library.Text
import TelemetryManager.SecretRef

/-! Validation of the TLS material of an output. Times are nanoseconds since the epoch. -/
namespace TelemetryManager.TlsCert

open Interaction

structure Certificate where
  notAfter : Int
  isCA : Bool := false
  deriving DecidableEq

/-- `pem.Decode` (the bytes of the first block and the rest), `x509.ParseCertificate`,
`x509.ParseCertificates` and whether `tls.X509KeyPair` accepts a certificate and a key. -/
structure X509Lib where
  pemDecode : String → Option (String × String)
  parseCertificate : String → Option Certificate
  parseCertificates : String → Option (List Certificate)
  x509KeyPair : String → String → Bool

structure TLSValidationParams where
  cert : Option ValueType
  key : Option ValueType
  ca : Option ValueType

def twoWeeks : Int := 14 * 24 * 3600 * 1000000000

def zeroTime : Int := -62135596800 * 1000000000

def resolveValue (value : ValueType) : Client String :=
  SecretRef.resolveOr (.sentinel .errTLSValueResolveFailed) value

/-- The value of an optional field; a missing one is `nil`, which is the empty text here because
`bytes.ReplaceAll` turns an empty value into `nil` as well. -/
def resolveOptional : Option ValueType → Client String
  | some value => resolveValue value
  | none => pure ""

def resolveValues (tls : TLSValidationParams) : Client (String × String × String) := do
  let certPEM ← resolveOptional tls.cert
  let keyPEM ← resolveOptional tls.key
  let caPEM ← resolveOptional tls.ca
  pure (certPEM, keyPEM, caPEM)

def sanitizeValue (valuePEM : String) : String := Text.replaceAll valuePEM "\\n" "\n"

variable (lib : X509Lib)

def parseCertificate (certPEM : String) : Except GoError Certificate :=
  if certPEM = "" then .ok { notAfter := zeroTime }
  else match lib.pemDecode certPEM with
    | none => .error (.sentinel .errCertDecodeFailed)
    | some (block, _) =>
      match lib.parseCertificate block with
      | none => .error (.sentinel .errCertParseFailed)
      | some cert => .ok cert

def parsePrivateKey (keyPEM : String) : Except GoError Unit :=
  if keyPEM = "" then .ok ()
  else match lib.pemDecode keyPEM with
    | none => .error (.sentinel .errKeyDecodeFailed)
    | some _ => .ok ()

def parseCA (caPEM : String) : Except GoError (List Certificate) :=
  if caPEM = "" then .ok []
  else match lib.pemDecode caPEM with
    | none => .error (.sentinel .errCADecodeFailed)
    | some (block, _) =>
      match lib.parseCertificates block with
      | none => .error (.sentinel .errCAParseFailed)
      | some certs => .ok certs

def validateCertKeyPair (sanitizedCert sanitizedKey : String) : Except GoError Unit :=
  if lib.x509KeyPair sanitizedCert sanitizedKey then .ok ()
  else .error (.sentinel .errInvalidCertificateKeyPair)

def validateExpiry (isCa : Bool) (expiry now : Int) : Except GoError Unit :=
  if expiry < now then .error (.certExpired expiry isCa)
  else if expiry - now ≤ twoWeeks then .error (.certAboutToExpire expiry isCa)
  else .ok ()

def validateCertificate (cert : Certificate) (now : Int) : Except GoError Unit :=
  validateExpiry false cert.notAfter now

def validateCA (ca : Certificate) (now : Int) : Except GoError Unit :=
  if !ca.isCA then .error (.sentinel .errCertIsNotCA)
  else validateExpiry true ca.notAfter now

def validateValues (now : Int) (tls : TLSValidationParams) (certPEM keyPEM caPEM : String) :
    Except GoError Unit := do
  let sanitizedCert := sanitizeValue certPEM
  let sanitizedKey := sanitizeValue keyPEM
  let sanitizedCA := sanitizeValue caPEM
  let parsedCert ← parseCertificate lib sanitizedCert
  parsePrivateKey lib sanitizedKey
  let parsedCA ← parseCA lib sanitizedCA
  if tls.cert.isSome ∧ tls.key.isSome then
    validateCertKeyPair lib sanitizedCert sanitizedKey
    validateCertificate parsedCert now
  if tls.ca.isSome then
    parsedCA.forM fun ca => validateCA ca now

def validate (now : Int) (tls : TLSValidationParams) : Client Unit :=
  if tls.cert.isNone ≠ tls.key.isNone then throw (.sentinel .errMissingCertKeyPair)
  else do
    let (certPEM, keyPEM, caPEM) ← resolveValues tls
    liftExcept (validateValues lib now tls certPEM keyPEM caPEM)

theorem resolveValue_throws (value : ValueType) : Throws GoError.IsPlain (resolveValue value) :=
  SecretRef.resolveOr_throws ⟨rfl, rfl⟩ value

theorem resolveValues_throws (tls : TLSValidationParams) :
    Throws GoError.IsPlain (resolveValues tls) := by
  have hopt (value : Option ValueType) : Throws GoError.IsPlain (resolveOptional value) := by
    cases value with
    | none => exact Throws.pure _
    | some value => exact resolveValue_throws value
  exact (hopt _).bind fun _ => (hopt _).bind fun _ => (hopt _).bind fun _ => Throws.pure _

section Parsing

variable (text : String)

theorem parseCertificate_fails : Fails GoError.IsPlain (parseCertificate lib text) := by
  refine Fails.ite (.ok _) ?_
  split
  · exact Fails.error ⟨rfl, rfl⟩
  · split
    · exact Fails.error ⟨rfl, rfl⟩
    · exact Fails.ok _

theorem parsePrivateKey_fails : Fails GoError.IsPlain (parsePrivateKey lib text) := by
  refine Fails.ite (.ok _) ?_
  split
  · exact Fails.error ⟨rfl, rfl⟩
  · exact Fails.ok _

theorem parseCA_fails : Fails GoError.IsPlain (parseCA lib text) := by
  refine Fails.ite (.ok _) ?_
  split
  · exact Fails.error ⟨rfl, rfl⟩
  · split
    · exact Fails.error ⟨rfl, rfl⟩
    · exact Fails.ok _

theorem validateCertKeyPair_fails (key : String) :
    Fails GoError.IsPlain (validateCertKeyPair lib text key) :=
  Fails.ite (.ok _) (.error ⟨rfl, rfl⟩)

end Parsing

section Errors

variable {P : GoError → Prop} (hplain : ∀ e, e.IsPlain → P e)
  (hexpired : ∀ expiry isCa, P (.certExpired expiry isCa))
  (hsoon : ∀ expiry isCa, P (.certAboutToExpire expiry isCa)) (now : Int)
  (tls : TLSValidationParams)

include hplain hexpired hsoon

/-- Apart from plain errors, only the findings about the expiry of a certificate are returned. -/
theorem validateValues_fails (certPEM keyPEM caPEM : String) :
    Fails P (validateValues lib now tls certPEM keyPEM caPEM) := by
  have hexpiry (isCa : Bool) (expiry : Int) : Fails P (validateExpiry isCa expiry now) :=
    .ite (.error (hexpired _ _)) (.ite (.error (hsoon _ _)) (.ok _))
  refine Fails.bind (fun e he => hplain e (parseCertificate_fails lib _ e he)) fun parsedCert => ?_
  refine Fails.bind (fun e he => hplain e (parsePrivateKey_fails lib _ e he)) fun _ => ?_
  refine Fails.bind (fun e he => hplain e (parseCA_fails lib _ e he)) fun parsedCA => ?_
  have hca : Fails P
      (if tls.ca.isSome then parsedCA.forM fun ca => validateCA ca now else pure ()) :=
    .ite (.forM fun ca _ => .ite (.error (hplain _ ⟨rfl, rfl⟩)) (hexpiry true ca.notAfter))
      (.ok _)
  refine Fails.ite ?_ hca
  refine Fails.bind (fun e he => hplain e (validateCertKeyPair_fails lib _ _ e he)) fun _ => ?_
  exact Fails.bind (hexpiry false parsedCert.notAfter) fun _ => hca

theorem validate_throws_of : Throws P (validate lib now tls) := by
  unfold validate
  split
  · exact Throws.throw (hplain _ ⟨rfl, rfl⟩)
  · refine Throws.bind ((resolveValues_throws tls).mono hplain) fun values => ?_
    exact Throws.liftExcept (validateValues_fails lib hplain hexpired hsoon now tls _ _ _)

end Errors

/-- A failed API request never shows in the result of the TLS validation. -/
theorem validate_throws (now : Int) (tls : TLSValidationParams) :
    Throws (fun e => e.asAPIRequestFailed = none) (validate lib now tls) :=
  validate_throws_of lib (fun _ h => h.not_apiRequestFailed) (fun _ _ => rfl) (fun _ _ => rfl)
    now tls

end TelemetryManager.TlsCert

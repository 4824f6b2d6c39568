import TelemetryManager.GatewayAdmission
import TelemetryManager.GatewayEnvironment
import TelemetryManager.Library.Url

/-! Plaintext transport: which endpoints the validation rejects, and for which ones the exporter
switches TLS off. -/
namespace TelemetryManager.Gateway

open Assignment Collector Interaction OtlpExporter Endpoint

/-- What the URL functions of the standard library do: `[scheme:][//[userinfo@]host][/]path`, with
the scheme in lower case, and an opaque part instead of host and path if no slash follows the
scheme. -/
structure URLLaws (lib : ExporterLib) (url : UrlLib) : Prop where
  parse_eq : ∀ text, url.parse text = (lib.parse text).map Prod.fst
  scheme : ∀ {text u query}, lib.parse text = .ok (u, query) → u.scheme ≠ "" →
    ∃ s rest, text.toList = s ++ ':' :: rest ∧ Url.isScheme s ∧
      u.scheme.toList = s.map Text.toLowerChar ∧
      (u.opaquePart = "" → Url.isSeparated rest)
  hierarchical : ∀ {s rest u query}, Url.isScheme s →
    lib.parse (String.ofList (s ++ ':' :: '/' :: rest)) = .ok (u, query) →
    u.scheme.toList = s.map Text.toLowerChar ∧ u.opaquePart = ""
  host : ∀ {s authority rest u query}, Url.isScheme s →
    (∀ c ∈ authority, c ∉ ['%', '/', '?', '#', '@']) → Url.isSeparated rest →
    lib.parse (String.ofList (s ++ ':' :: '/' :: '/' :: (authority ++ rest))) = .ok (u, query) →
    u.host.toList = authority
  urlString : ∀ {text u query s path rawQuery}, lib.parse text = .ok (u, query) →
    Url.isScheme s →
    s ++ [':', '/', '/'] <+: (lib.urlString { u with path := path } rawQuery).toList →
    u.scheme.toList = s ∧ u.opaquePart = ""
  splitHostPort : ∀ s, Url.isScheme s →
    url.splitHostPort (String.ofList (s ++ [':'])) = .ok (String.ofList s, "")

section Rejected

variable {url : UrlLib} {params : EndpointValidationParams} {text : String}

theorem validateValue_grpc (hprotocol : params.protocol = .otlp .grpc)
    (hoauth2 : params.otlpOAuth2.isSome)
    (h : validateValue url params text = .ok ()) :
    ∃ u, parseEndpoint url text = .ok u ∧
      validatePort url u.host false = .ok () ∧
      params.outputTLS.any (·.insecure) = false ∧ u.scheme ≠ "http" := by
  unfold validateValue at h
  rw [hprotocol, hoauth2] at h
  obtain ⟨u, hparse, h⟩ := bind_eq_ok_iff.mp h
  obtain ⟨_, hport, h⟩ := bind_eq_ok_iff.mp h
  obtain ⟨_, -, h⟩ := bind_eq_ok_iff.mp h
  refine ⟨u, hparse, ?_, ?_⟩
  · simpa using hport
  · simp only [if_true, validateGRPCWithOAuth2] at h
    split at h
    · cases h
    · rename_i hinsecure
      split at h
      · cases h
      · rename_i hscheme
        exact ⟨by simpa using hinsecure, hscheme⟩

variable {lib : ExporterLib} {u : URL} {query : String}

theorem parse_of_parseEndpoint (hlaws : URLLaws lib url)
    (h : parseEndpoint url text = .ok u) : ∃ result, lib.parse text = .ok result := by
  cases hparse : lib.parse text with
  | ok result => exact ⟨result, rfl⟩
  | error err =>
    have hurl : url.parse text = .error err := by
      rw [hlaws.parse_eq, hparse]
      rfl
    simp [parseEndpoint, hurl] at h

/-- Behind the placeholder, a scheme with its colon is a host without port. -/
theorem placeholder_host (hlaws : URLLaws lib url) {s rest : List Char}
    (htext : text.toList = s ++ ':' :: rest) (hs : Url.isScheme s)
    (hrest : Url.isSeparated rest)
    (h : url.parse (placeholder ++ text) = .ok u) :
    u.host = String.ofList (s ++ [':']) := by
  have hplaceholder : placeholder ++ text =
      String.ofList ("plhd".toList ++ ':' :: '/' :: '/' :: ((s ++ [':']) ++ rest)) := by
    rw [← String.toList_inj, String.toList_append, String.toList_ofList, htext]
    simp [placeholder]
  have hauthority : ∀ c ∈ s ++ [':'], c ∉ ['%', '/', '?', '#', '@'] := by
    intro c hc hmem
    simp only [List.mem_append, List.mem_singleton] at hc
    rcases hc with hc | rfl
    · have hchars : ∀ c ∈ ['%', '/', '?', '#', '@'], Url.isSchemeChar c = false :=
        List.forall_iff_forall_mem.mp (by decide)
      exact Url.notMem_of_isScheme hs (hchars c hmem) hc
    · revert hmem
      decide
  rw [hlaws.parse_eq] at h
  cases hparse : lib.parse (placeholder ++ text) with
  | error err => simp [hparse, Except.map] at h
  | ok result =>
    obtain ⟨v, rawQuery⟩ := result
    rw [hparse] at h
    cases h
    rw [hplaceholder] at hparse
    rw [← String.toList_inj, String.toList_ofList]
    exact hlaws.host (by decide) hauthority hrest hparse

/-- A text that is parsed with the scheme `http` and without opaque part is rejected, with a host
because of its scheme, and without one because the port is missing. -/
theorem plaintext_rejected (hlaws : URLLaws lib url) (hprotocol : params.protocol = .otlp .grpc)
    (hoauth2 : params.otlpOAuth2.isSome) (hparse : lib.parse text = .ok (u, query))
    (hscheme : u.scheme = "http") (hopaquePart : u.opaquePart = "") :
    validateValue url params text ≠ .ok () := by
  intro hok
  obtain ⟨v, hv, hport, -, hhttp⟩ := validateValue_grpc hprotocol hoauth2 hok
  have hurl : url.parse text = .ok u := by
    rw [hlaws.parse_eq, hparse]
    rfl
  simp only [parseEndpoint, hurl] at hv
  by_cases hhost : u.host = ""
  · obtain ⟨s, rest, htext, hs, -, hrest⟩ := hlaws.scheme hparse (by simp [hscheme])
    rw [if_pos (.inr (.inr hhost))] at hv
    cases hplaceholder : url.parse (placeholder ++ text) with
    | error err => simp [hplaceholder] at hv
    | ok w =>
      rw [hplaceholder] at hv
      cases hv
      have hw := placeholder_host hlaws htext hs (hrest hopaquePart) hplaceholder
      simp only [validatePort, hw] at hport
      rw [hlaws.splitHostPort s hs] at hport
      simp at hport
  · have hno : ¬ (u.opaquePart ≠ "" ∨ u.scheme = "" ∨ u.host = "") := by
      simp [hopaquePart, hscheme, hhost]
    rw [if_neg hno] at hv
    cases hv
    exact hhttp hscheme

end Rejected

section Exporter

variable {lib : ExporterLib} {answer : ApiTable} {p : OTLPPipeline}
  {output : OTLPOutput} {exporter : OTLPExporterConfig} {env : EnvVars}
  {sendingQueue : SendingQueue}

theorem exporter_insecure (houtput : otlpOutput p = some output)
    (h : evalE answer (otlpExporterWithEnvVars lib (pipelineRef p) output sendingQueue) =
      .ok (exporter, env)) :
    ∃ text, evalE answer (resolveEndpointURL lib output) = .ok text ∧
      exporter.tls.insecure = (isInsecureOutput text || output.tls.any (·.insecure)) := by
  have hfilled := assignAll_filled houtput (Filled.empty _ _) (exporterWithEnvVars_ok h)
  rw [List.nil_append] at hfilled
  have hposition : (⟨p, .endpoint⟩ : Position) ∈ positions lib p output (exporterFields output) :=
    (mem_positions_iff lib).mpr ⟨rfl, by simp [exporterFields], rfl⟩
  have hunique : ∀ y ∈ positions lib p output (exporterFields output),
      y.key = Position.key ⟨p, .endpoint⟩ → y = ⟨p, .endpoint⟩ := by
    rintro ⟨q, f⟩ hy hkey
    obtain ⟨rfl, -, -⟩ := (mem_positions_iff lib).mp hy
    rcases Field.same_kind (Field.key_eq_iff.mp hkey).1 with ⟨hfield, -⟩ | ⟨_, header, -, hheader⟩
    · exact congrArg (Position.mk q) hfield
    · cases hheader
  obtain ⟨text, hlookup, output', program, houtput', hprogram, htext⟩ :=
    hfilled.lookup hposition fun y hy hkey v hv => hunique y hy hkey ▸ hv
  obtain rfl : output = output' := Option.some.inj (houtput.symm.trans houtput')
  obtain rfl : resolveEndpointURL lib output = program := Option.some.inj hprogram
  refine ⟨text, htext, ?_⟩
  obtain ⟨vars, -, hresult⟩ := evalE_bind_ok_iff.mp h
  cases hresult
  have hvalue : (env.lookup (formatEnvVarKey otlpEndpointVariablePrefix (pipelineRef p))).getD "" =
      text := by
    rw [show env.lookup (formatEnvVarKey otlpEndpointVariablePrefix (pipelineRef p)) = some text
      from hlookup]
    rfl
  simp only [otlpExporter, hvalue, tls]
  cases output.tls <;> simp

theorem resolveEndpointURL_ok {text : String}
    (h : evalE answer (resolveEndpointURL lib output) = .ok text) :
    ∃ endpoint, evalE answer (SharedTypes.resolveValue output.endpoint) = .ok endpoint ∧
      (text = endpoint ∨ ∃ u query path rawQuery, lib.parse endpoint = .ok (u, query) ∧
        text = lib.urlString { u with path := path } rawQuery) := by
  obtain ⟨endpoint, hendpoint, hrest⟩ := evalE_bind_ok_iff.mp h
  refine ⟨endpoint, hendpoint, ?_⟩
  split at hrest
  · cases hrest
    exact .inl rfl
  · split at hrest
    · cases hrest
    · rename_i u query hparse
      split at hrest
      · cases hrest
      · cases hrest
        exact .inr ⟨u, query, _, _, hparse, rfl⟩

/-- A text that the exporter takes for plaintext comes from an endpoint with the scheme `http` and
without opaque part. -/
theorem scheme_of_isInsecureOutput {url : UrlLib} (hlaws : URLLaws lib url)
    {endpoint text : String} {u : URL} {query : String}
    (hparse : lib.parse endpoint = .ok (u, query))
    (htext : text = endpoint ∨
      ∃ path rawQuery, text = lib.urlString { u with path := path } rawQuery)
    (h : isInsecureOutput text) : u.scheme = "http" ∧ u.opaquePart = "" := by
  have hpre : "http".toList ++ [':', '/', '/'] <+: text.toList := by
    have hhas := (Bool.and_eq_true_iff.mp h).2
    exact List.isPrefixOf_iff_prefix.mp hhas
  rcases htext with rfl | ⟨path, rawQuery, rfl⟩
  · obtain ⟨rest, hrest⟩ := hpre
    have hsplit : text = String.ofList ("http".toList ++ ':' :: '/' :: ('/' :: rest)) := by
      rw [← String.toList_inj, String.toList_ofList, ← hrest, List.append_assoc]
      rfl
    rw [hsplit] at hparse
    obtain ⟨hscheme, hopaquePart⟩ := hlaws.hierarchical (by decide) hparse
    refine ⟨?_, hopaquePart⟩
    rw [← String.toList_inj, hscheme]
    decide
  · obtain ⟨hscheme, hopaquePart⟩ := hlaws.urlString hparse (by decide) hpre
    exact ⟨String.toList_inj.mp hscheme, hopaquePart⟩

end Exporter

/-- If the endpoint validation accepts a gRPC output with OAuth2, then the exporter built from the
same Secrets uses TLS. -/
theorem grpc_oauth2_not_insecure (lib : ExporterLib) (url : UrlLib)
    (answer : ApiTable) (p : OTLPPipeline) (output : OTLPOutput)
    (sendingQueue : SendingQueue) (exporter : OTLPExporterConfig) (env : EnvVars)
    (hlaws : URLLaws lib url) (houtput : otlpOutput p = some output)
    (hprotocol : output.protocol = .grpc)
    (hoauth2 : output.oauth2.isSome)
    (hvalid : evalE answer (validate url (Reconcilable.otlpEndpointParams output)) = .ok ())
    (hbuilt : evalE answer (otlpExporterWithEnvVars lib (pipelineRef p) output sendingQueue) =
      .ok (exporter, env)) :
    exporter.tls.insecure = false := by
  obtain ⟨text, htext, hinsecure⟩ := exporter_insecure houtput hbuilt
  obtain ⟨endpoint, hendpoint, hcases⟩ := resolveEndpointURL_ok htext
  -- the validator has looked at the same endpoint
  obtain ⟨endpoint', hendpoint', hchecks⟩ := evalE_bind_ok_iff.mp hvalid
  rw [resolveValue, SharedTypes.resolveOr_ok_iff, hendpoint] at hendpoint'
  cases hendpoint'
  rw [evalE_liftExcept] at hchecks
  have hgrpc : (Reconcilable.otlpEndpointParams output).protocol = .otlp .grpc :=
    congrArg Protocol.otlp hprotocol
  obtain ⟨v, hv, -, htls, -⟩ := validateValue_grpc hgrpc hoauth2 hchecks
  have hplain : isInsecureOutput text = false := by
    rw [← Bool.not_eq_true]
    intro hplain
    obtain ⟨⟨u, query⟩, hparse⟩ := parse_of_parseEndpoint hlaws hv
    have hjoined : text = endpoint ∨
        ∃ path rawQuery, text = lib.urlString { u with path := path } rawQuery := by
      rcases hcases with heq | ⟨u', query', path, rawQuery, hparse', heq⟩
      · exact .inl heq
      · rw [hparse] at hparse'
        cases hparse'
        exact .inr ⟨path, rawQuery, heq⟩
    obtain ⟨hscheme, hopaquePart⟩ := scheme_of_isInsecureOutput hlaws hparse hjoined hplain
    exact plaintext_rejected hlaws hgrpc hoauth2 hparse hscheme hopaquePart hchecks
  rw [hinsecure, hplain, Bool.false_or]
  exact htls

def validHost (host : List Char) : Bool :=
  let afterBracket := (host.reverse.takeWhile (· ≠ ']')).reverse
  let portText := if host.head? = some '[' then afterBracket else host
  validEscapes host && (':' ∉ portText || ((portText.reverse.takeWhile (· ≠ ':')).all Char.isDigit))

def toURL (parts : Url.Parts) : URL where
  scheme := String.ofList parts.scheme
  opaquePart := String.ofList parts.opaquePart
  user := parts.user.map String.ofList
  host := String.ofList parts.host
  omitHost := parts.omitHost
  path := String.ofList parts.path
  fragment := String.ofList parts.fragment

def ofURL (u : URL) (rawQuery : String) : Url.Parts where
  scheme := u.scheme.toList
  opaquePart := u.opaquePart.toList
  user := u.user.map String.toList
  host := u.host.toList
  omitHost := u.omitHost
  path := u.path.toList
  query := rawQuery.toList
  fragment := u.fragment.toList

/-- Split at the last colon. Brackets around the host are not looked at. -/
def splitHostPort (text : String) : Except String (String × String) :=
  if ':' ∉ text.toList then .error "missing port in address"
  else
    let host := ((text.toList.reverse.dropWhile (· ≠ ':')).drop 1).reverse
    if ':' ∈ host then .error "too many colons in address"
    else .ok (String.ofList host, String.ofList (text.toList.reverse.takeWhile (· ≠ ':')).reverse)

def parsingLib : ExporterLib where
  parse := fun text =>
    match Url.parse validHost validEscapes text.toList with
    | some parts => .ok (toURL parts, String.ofList parts.query)
    | none => .error "invalid URL"
  urlString := fun u rawQuery => String.ofList (ofURL u rawQuery).string
  pathJoin := fun base path => base ++ path
  base64 := id

def parsingUrlLib : UrlLib where
  parse := fun text => (parsingLib.parse text).map Prod.fst
  splitHostPort := splitHostPort
  atoi := fun s =>
    if s ≠ "" ∧ s.toList.all Char.isDigit then
      some (s.toList.foldl (fun n c => 10 * n + (c.toNat - 48 : Nat)) 0)
    else none

theorem parsingLib_parse {text : String} {u : URL} {query : String}
    (h : parsingLib.parse text = .ok (u, query)) :
    ∃ parts, Url.parse validHost validEscapes text.toList = some parts ∧ u = toURL parts := by
  simp only [parsingLib] at h
  cases hparse : Url.parse validHost validEscapes text.toList with
  | none => simp [hparse] at h
  | some parts =>
    rw [hparse] at h
    cases h
    exact ⟨parts, rfl, rfl⟩

theorem splitHostPort_colon {s : List Char} (h : ':' ∉ s) :
    splitHostPort (String.ofList (s ++ [':'])) = .ok (String.ofList s, "") := by
  have hreverse : (s ++ [':']).reverse = ':' :: s.reverse := by simp
  unfold splitHostPort
  rw [String.toList_ofList, hreverse]
  simp [h]

theorem parsingLib_laws : URLLaws parsingLib parsingUrlLib where
  parse_eq := fun _ => rfl
  scheme := by
    intro text u query hparse hne
    obtain ⟨parts, hparts, rfl⟩ := parsingLib_parse hparse
    have hscheme : parts.scheme ≠ [] := by
      intro hempty
      simp [toURL, hempty] at hne
    obtain ⟨s, rest, htext, hs, hlower, hrest⟩ := Url.parse_scheme hparts hscheme
    refine ⟨s, rest, htext, hs, by simpa [toURL] using hlower, fun hopaquePart => hrest ?_⟩
    simpa [toURL] using congrArg String.toList hopaquePart
  hierarchical := by
    intro s rest u query hs hparse
    obtain ⟨parts, hparts, rfl⟩ := parsingLib_parse hparse
    rw [String.toList_ofList] at hparts
    obtain ⟨hlower, hopaquePart⟩ := Url.parse_hierarchical hs hparts
    exact ⟨by simpa [toURL] using hlower, by simp [toURL, hopaquePart]⟩
  host := by
    intro s authority rest u query hs hauthority hrest hparse
    obtain ⟨parts, hparts, rfl⟩ := parsingLib_parse hparse
    rw [String.toList_ofList] at hparts
    have hauthority := fun c hc => mt (List.mem_cons_of_mem '%') (hauthority c hc)
    simpa [toURL] using Url.parse_host hs hauthority hrest hparts
  urlString := by
    intro text u query s path rawQuery hparse hs hpre
    obtain ⟨parts, hparts, rfl⟩ := parsingLib_parse hparse
    have hstring : (parsingLib.urlString { toURL parts with path := path } rawQuery).toList =
        Url.Parts.string { parts with path := path.toList, query := rawQuery.toList } := by
      simp [parsingLib, ofURL, toURL, Function.comp_def]
    rw [hstring] at hpre
    obtain ⟨hscheme, hopaquePart⟩ := Url.parse_string hparts hs hpre
    exact ⟨by simpa [toURL] using hscheme, by simp [toURL, hopaquePart]⟩
  splitHostPort := fun s hs => splitHostPort_colon (Url.notMem_of_isScheme hs (by decide))

def grpcOAuth2 : OAuth2Options where
  tokenURL := { value := "https://token" }
  clientID := { value := "app" }
  clientSecret := { value := "secret" }

def grpcOAuth2Output : OTLPOutput where
  protocol := .grpc
  endpoint := { value := "https://backend:4317" }
  path := "/v1"
  authentication := some { oauth2 := some grpcOAuth2 }

theorem grpcOAuth2Output_not_insecure :
    evalE noObjects (validate parsingUrlLib
      (Reconcilable.otlpEndpointParams grpcOAuth2Output)) = .ok () ∧
    ∃ exporter env, evalE noObjects (otlpExporterWithEnvVars parsingLib
      (pipelineRef (.trace { name := "backend", output := grpcOAuth2Output })) grpcOAuth2Output
      (newSendingQueue 0)) = .ok (exporter, env) ∧ exporter.tls.insecure = false := by
  have hvalid : evalE noObjects (validate parsingUrlLib
      (Reconcilable.otlpEndpointParams grpcOAuth2Output)) = .ok () := by rfl
  obtain ⟨⟨exporter, env⟩, hbuilt⟩ : ∃ result, evalE noObjects (otlpExporterWithEnvVars parsingLib
      (pipelineRef (.trace { name := "backend", output := grpcOAuth2Output })) grpcOAuth2Output
      (newSendingQueue 0)) = .ok result := ⟨_, rfl⟩
  exact ⟨hvalid, exporter, env, hbuilt, grpc_oauth2_not_insecure parsingLib parsingUrlLib noObjects
    (.trace { name := "backend", output := grpcOAuth2Output }) grpcOAuth2Output
    (newSendingQueue 0) exporter env parsingLib_laws rfl rfl rfl hvalid hbuilt⟩

end TelemetryManager.Gateway

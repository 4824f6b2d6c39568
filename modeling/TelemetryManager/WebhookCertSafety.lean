import Mathlib.Logic.Relation
import TelemetryManager.WebhookCertHealing

/-! Calls with failures. Every request of a call may fail, and a request that fails may still have
had its effect. A call that succeeds should leave a directory, a Secret, webhooks and CRDs that fit
together, whatever the calls before it left behind. -/
namespace TelemetryManager.WebhookCert

open Interaction

variable {lib : CryptoLib}

/-- What a failed write may leave of a file: by the file, its content before and the new content. -/
abbrev Tearing (lib : CryptoLib) :=
  CertFile → Option lib.Content → lib.Content → Option lib.Content → Prop

inductive Fails (Tears : Tearing lib) : World lib → (r : Req lib) → Resp lib r → World lib →
    Prop where
  | getCASecret (w : World lib) (err : ApiError) : Fails Tears w .getCASecret (.error err) w
  | createCASecret (w v : World lib) (secret : CASecret lib) (err : ApiError)
      (h : v = w ∨ v = w.setCASecret secret) : Fails Tears w (.createCASecret secret) (.error err) v
  | updateCASecret (w v : World lib) (secret : CASecret lib) (err : ApiError)
      (h : v = w ∨ v = w.setCASecret secret) : Fails Tears w (.updateCASecret secret) (.error err) v
  | readFile (w : World lib) (file : CertFile) (err : String) :
      Fails Tears w (.readFile file) (.error err) w
  | writeFile (w : World lib) (file : CertFile) (content : lib.Content) (err : String)
      (after : Option lib.Content) (h : Tears file (w.files file) content after) :
      Fails Tears w (.writeFile file content) (.error err) (w.setFile file after)
  | generateKey (w : World lib) (bits : Nat) (err : String) :
      Fails Tears w (.generateKey bits) (.error err) w
  | generateSerial (w : World lib) (err : String) : Fails Tears w .generateSerial (.error err) w
  | getWebhooks (w : World lib) (kind : WebhookKind) (err : ApiError) :
      Fails Tears w (.getWebhooks kind) (.error err) w
  | updateWebhooks (w v : World lib) (kind : WebhookKind) (caBundles : List lib.Content)
      (err : ApiError) (h : v = w ∨ v = w.setWebhooks kind caBundles) :
      Fails Tears w (.updateWebhooks kind caBundles) (.error err) v
  | getCRD (w : World lib) (crd : PipelineCRD) (err : ApiError) :
      Fails Tears w (.getCRD crd) (.error err) w
  | updateCRD (w v : World lib) (crd : PipelineCRD) (conversion : Conversion lib) (err : ApiError)
      (h : v = w ∨ v = w.setCRD crd conversion) :
      Fails Tears w (.updateCRD crd conversion) (.error err) v

inductive Attempts (Tears : Tearing lib) :
    World lib → (r : Req lib) → Resp lib r → World lib → Prop where
  | answer {w v : World lib} {r : Req lib} {x : Resp lib r} {now : Int} (h : Answers w r x v)
      (hnow : v.now ≤ now) : Attempts Tears w r x (v.atTime now)
  | fail {w v : World lib} {r : Req lib} {x : Resp lib r} {now : Int} (h : Fails Tears w r x v)
      (hnow : v.now ≤ now) : Attempts Tears w r x (v.atTime now)

inductive CallStep (Tears : Tearing lib) [DecidableEq (CASecret lib)] :
    World lib → World lib → Prop where
  | wait (w : World lib) (now : Int) (h : w.now ≤ now) : CallStep Tears w (w.atTime now)
  | call {w t : World lib} {r : Except GoError Unit} (config : Config)
      (h : ServedE (Attempts Tears) (ensureCertificate config) w r t) : CallStep Tears w t

/-- A failed write may leave anything. -/
def Arbitrary : Tearing lib := fun _ _ _ _ => True

/-- A failed write of the certificate leaves the file as it was or without a certificate, and one of
the key leaves nothing, or all, of the new key. -/
def Harmless : Tearing lib
  | .cert, before, _, after => after = before ∨
      ∀ content, after = some content → ∀ cert, lib.parseCertPEM content ≠ .ok cert
  | .key, _, new, after =>
      ∀ content, after = some content → lib.isEmpty content ∨ content = new

/-- The certificate of the directory goes with its key, verifies against the CA of the Secret, and
this CA is what the webhooks and the CRDs hold. -/
def Ready (w : World lib) : Prop :=
  ∃ caCertPEM caKeyPEM certPEM keyPEM cert key,
    w.caSecret = some ⟨some caCertPEM, some caKeyPEM⟩ ∧
    w.files .cert = some certPEM ∧ w.files .key = some keyPEM ∧
    lib.parseCertPEM certPEM = .ok cert ∧ lib.parseKeyPEM keyPEM = .ok key ∧
    lib.belongs cert key ∧ w.now < lib.notAfter cert ∧
    lib.verify caCertPEM cert w.now = .ok true ∧
    (∀ kind, ∀ caBundle ∈ w.webhooks kind, caBundle = caCertPEM) ∧
    ∀ crd, ∃ conversion, w.crds crd = some conversion ∧ conversion.caBundle = caCertPEM

/-- What the CA signs verifies against it until one of the two expires. -/
structure SoundFrom (lib : CryptoLib) (since : Int) (caCertPEM : lib.Content) : Prop where
  signed : ∀ ca template key signer cert now, lib.parseCertPEM caCertPEM = .ok ca →
    lib.createCertificate template ca key signer = .ok cert → since ≤ now →
    template.notBefore ≤ now → now ≤ lib.notAfter cert → now ≤ lib.notAfter ca →
    lib.verify caCertPEM cert now = .ok true
  lasting : ∀ ca cert now now', lib.parseCertPEM caCertPEM = .ok ca → since ≤ now →
    lib.verify caCertPEM cert now = .ok true → now ≤ now' → now' ≤ lib.notAfter cert →
    now' ≤ lib.notAfter ca → lib.verify caCertPEM cert now' = .ok true

/-- What the packages document about the validity of generated certificates. Their times are cut to
seconds. -/
structure CryptoLib.Trusted (lib : CryptoLib) : Prop extends lib.Lawful where
  createCA_ok : ∀ validFrom key ca,
    lib.createCA ⟨validFrom, validFrom + caCertMaxAge⟩ key = .ok ca →
      validFrom + caCertMaxAge - second < lib.notAfter ca ∧
      SoundFrom lib validFrom (lib.encodeCertPEM ca)
  createCertificate_ok : ∀ serial dnsNames validFrom parent key signer cert,
    lib.createCertificate ⟨serial, dnsNames, validFrom, validFrom + serverCertMaxAge⟩ parent key
      signer = .ok cert →
      lib.belongs cert key ∧ validFrom + serverCertMaxAge - second < lib.notAfter cert

/-- A certificate and a key that would be loaded go together. -/
def Consistent (files : CertFile → Option lib.Content) : Prop :=
  ∀ certPEM keyPEM cert, files .cert = some certPEM → files .key = some keyPEM →
    lib.isEmpty keyPEM = false → lib.parseCertPEM certPEM = .ok cert →
      ∃ key, lib.parseKeyPEM keyPEM = .ok key ∧ lib.belongs cert key

def SecretSound (w : World lib) : Prop :=
  ∀ secret caCertPEM, w.caSecret = some secret → secret.cert = some caCertPEM →
    SoundFrom lib w.now caCertPEM

structure Intact (w : World lib) : Prop where
  consistent : Consistent w.files
  sound : SecretSound w

theorem SoundFrom.later {since since' : Int} {caCertPEM : lib.Content}
    (h : SoundFrom lib since caCertPEM) (hle : since ≤ since') :
    SoundFrom lib since' caCertPEM where
  signed := fun ca template key signer cert now hca hcert hsince =>
    h.signed ca template key signer cert now hca hcert (Int.le_trans hle hsince)
  lasting := fun ca cert now now' hca hsince =>
    h.lasting ca cert now now' hca (Int.le_trans hle hsince)

theorem SecretSound.later {w t : World lib} (h : SecretSound w) (hsecret : t.caSecret = w.caSecret)
    (hnow : w.now ≤ t.now) : SecretSound t :=
  fun secret caCertPEM ht hcert => (h secret caCertPEM (hsecret ▸ ht) hcert).later hnow

section Frames

variable {Tears : Tearing lib} {w t : World lib} {r : Req lib} {x : Resp lib r}

theorem Fails.now_eq (h : Fails Tears w r x t) : t.now = w.now := by
  cases h <;> first | rfl | (rename_i h; rcases h with rfl | rfl <;> rfl)

theorem Fails.caSecret_eq (h : Fails Tears w r x t) (hr : SparesSecret r) :
    t.caSecret = w.caSecret := by
  cases h <;> first | rfl | exact hr.elim | (rename_i h; rcases h with rfl | rfl <;> rfl)

theorem Fails.files_eq (h : Fails Tears w r x t) (hr : SparesFiles r) : t.files = w.files := by
  cases h <;> first | rfl | exact hr.elim | (rename_i h; rcases h with rfl | rfl <;> rfl)

theorem Attempts.later (h : Attempts Tears w r x t) : w.now ≤ t.now := by
  cases h with
  | answer hanswer hnow => cases hanswer <;> exact hnow
  | fail hfail hnow => exact hfail.now_eq ▸ hnow

theorem Attempts.caSecret_eq (h : Attempts Tears w r x t) (hr : SparesSecret r) :
    t.caSecret = w.caSecret := by
  cases h with
  | answer hanswer => cases hanswer <;> first | rfl | exact hr.elim
  | fail hfail =>
    have hsecret := hfail.caSecret_eq hr
    exact hsecret

theorem Attempts.files_eq (h : Attempts Tears w r x t) (hr : SparesFiles r) :
    t.files = w.files := by
  cases h with
  | answer hanswer => cases hanswer <;> first | rfl | exact hr.elim
  | fail hfail =>
    have hfiles := hfail.files_eq hr
    exact hfiles

theorem tellsTime_attempts : TellsTime (· ≤ ·) (Attempts Tears) := by
  intro w x t hserve
  cases hserve with
  | answer hanswer hnow =>
    cases hanswer
    exact ⟨rfl, _, hnow, rfl⟩
  | fail hfail => cases hfail

variable {α : Type} {p : Ensuring lib α}

theorem ensures_later : EnsuresE (Attempts Tears) (fun _ t => w.now ≤ t.now) p w :=
  .of_asks (R := fun _ => True) (fun _ _ _ _ _ => trivial) (Int.le_refl _)
    fun _ _ _ _ _ hserve hle => Int.le_trans hle hserve.later

theorem ensures_caSecret (hasks : Asks SparesSecret p) :
    EnsuresE (Attempts Tears) (fun _ t => t.caSecret = w.caSecret) p w :=
  .of_asks hasks rfl fun _ _ _ _ hr hserve hsecret => (hserve.caSecret_eq hr).trans hsecret

theorem ensures_files (hasks : Asks SparesFiles p) :
    EnsuresE (Attempts Tears) (fun _ t => t.files = w.files) p w :=
  .of_asks hasks rfl fun _ _ _ _ hr hserve hfiles => (hserve.files_eq hr).trans hfiles

end Frames

section CA

variable {Tears : Tearing lib} {w : World lib} {keySize : Nat}

/-- A generated CA is sound and has most of a year left. -/
theorem ensures_generateCACert_sound (hlib : lib.Trusted) :
    EnsuresE (Attempts Tears) (fun r t => ∀ pair, r = .ok pair → SoundFrom lib t.now pair.1 ∧
        ∃ ca, lib.parseCertPEM pair.1 = .ok ca ∧ w.now + day < lib.notAfter ca)
      (generateCACert keySize) w := by
  refine ensuresE_request_bind fun x t hserve => ?_
  have hlater := hserve.later
  refine ensures_orFail (fun key _ => ?_) (by simp)
  refine ensures_now tellsTime_attempts fun now hnow => ?_
  refine ensures_orFail (fun ca hcreate => ?_) (by simp)
  rintro _ ⟨⟩
  obtain ⟨hnotAfter, hsound⟩ := hlib.createCA_ok _ _ _ hcreate
  refine ⟨hsound.later ?_, ca, hlib.parse_encodeCertPEM ca, ?_⟩
  · simp only [World.atTime_now, hour, second] at hnow ⊢
    omega
  · simp only [caCertMaxAge, day, hour, second] at hnotAfter ⊢
    omega

theorem Attempts.getCASecret_ok {t : World lib} {secret : CASecret lib}
    (h : Attempts Tears w .getCASecret (.ok secret) t) : w.caSecret = some secret := by
  cases h with
  | answer hanswer =>
    cases hanswer with
    | getCASecret _ hsecret => exact hsecret
  | fail hfail => cases hfail

theorem ensures_storedCACert_accepted :
    EnsuresE (Attempts Tears) (fun r t => t.caSecret = w.caSecret ∧ ∀ caCertPEM caKeyPEM,
      r = .ok (some (caCertPEM, caKeyPEM)) → w.caSecret = some ⟨some caCertPEM, some caKeyPEM⟩ ∧
        accepts keySize w.now ⟨some caCertPEM, some caKeyPEM⟩) (storedCACert keySize) w := by
  refine ensuresE_request_bind fun x t hserve => ?_
  have hkept : t.caSecret = w.caSecret := hserve.caSecret_eq trivial
  cases x with
  | error err =>
    dsimp only
    split <;> exact ⟨hkept, by rintro _ _ ⟨⟩⟩
  | ok secret =>
    have hsecret := hserve.getCASecret_ok
    refine (ensures_checkCASecret tellsTime_attempts secret).bind ?_ ?_
    · rintro accepted u ⟨⟨now, rfl⟩, ⟨⟩⟩
      split
      · rename_i haccepts
        refine ⟨hkept, fun caCertPEM caKeyPEM hpair => ?_⟩
        obtain ⟨cert, key⟩ := secret
        cases cert <;> cases key <;> cases hpair
        exact ⟨hsecret, accepts_earlier hserve.later haccepts⟩
      · exact ⟨hkept, by rintro _ _ ⟨⟩⟩
    · rintro e u ⟨-, ⟨⟩⟩

def CAProvided (w t : World lib) (caCertPEM caKeyPEM : lib.Content) : Prop :=
  t.caSecret = some ⟨some caCertPEM, some caKeyPEM⟩ ∧
    ∃ ca, lib.parseCertPEM caCertPEM = .ok ca ∧ w.now + day < lib.notAfter ca

section Writing

variable [DecidableEq (CASecret lib)]

/-- A write of the Secret that fails may have been made. -/
theorem ensures_createOrUpdateSecret_sound (desired : CASecret lib) :
    EnsuresE (Attempts Tears) (fun r t => (t.caSecret = w.caSecret ∨ t.caSecret = some desired) ∧
      (r = .ok () → t.caSecret = some desired)) (createOrUpdateSecret desired) w := by
  refine ensuresE_request_bind fun x t hserve => ?_
  have hkept : t.caSecret = w.caSecret := hserve.caSecret_eq trivial
  have hfailed : ∀ v, v = t ∨ v = t.setCASecret desired →
      v.caSecret = w.caSecret ∨ v.caSecret = some desired := by
    rintro v (rfl | rfl)
    · exact .inl hkept
    · exact .inr rfl
  cases x with
  | error err =>
    dsimp only
    split
    · refine ensuresE_request_bind fun x u hserve => ?_
      cases hserve with
      | answer hanswer => cases hanswer; exact ⟨.inr rfl, fun _ => rfl⟩
      | fail hfail =>
        cases hfail with
        | createCASecret _ _ _ h =>
          have hwritten := hfailed _ h
          exact ⟨hwritten, by rintro ⟨⟩⟩
    · exact ⟨.inl hkept, by rintro ⟨⟩⟩
  | ok existing =>
    dsimp only
    split
    · subst existing
      have hexisting := hserve.getCASecret_ok
      exact ⟨.inl hkept, fun _ => hkept.trans hexisting⟩
    · refine ensuresE_request_bind fun x u hserve => ?_
      cases hserve with
      | answer hanswer => cases hanswer; exact ⟨.inr rfl, fun _ => rfl⟩
      | fail hfail =>
        cases hfail with
        | updateCASecret _ _ _ h =>
          have hwritten := hfailed _ h
          exact ⟨hwritten, by rintro ⟨⟩⟩

theorem ensures_createCACert_sound (hlib : lib.Trusted) (hsound : SecretSound w) :
    EnsuresE (Attempts Tears) (fun r t => SecretSound t ∧
      ∀ pair, r = .ok pair → CAProvided w t pair.1 pair.2) (createCACert keySize) w := by
  refine (((ensures_generateCACert_sound hlib).and (ensures_caSecret
    (generateCACert_asks.mono fun _ h => h.secret))).and ensures_later).mapErr_bind ?_ ?_
  · rintro pair t ⟨⟨hgenerated, hkept⟩, hlater⟩
    obtain ⟨hnew, hexpiry⟩ := hgenerated pair rfl
    -- also if the write of the Secret fails, it has the old CA or the new one
    have hsound' : ∀ u : World lib, t.now ≤ u.now →
        u.caSecret = t.caSecret ∨ u.caSecret = some ⟨some pair.1, some pair.2⟩ → SecretSound u := by
      rintro u hle (hu | hu)
      · exact hsound.later (hu.trans hkept) (Int.le_trans hlater hle)
      · rintro secret caCertPEM hsecret hcert
        cases hu.symm.trans hsecret
        cases hcert
        exact hnew.later hle
    refine ((ensures_createOrUpdateSecret_sound _).and ensures_later).mapErr_bind ?_ ?_
    · rintro _ u ⟨⟨hsecret, hwritten⟩, hle⟩
      refine ⟨hsound' u hle hsecret, ?_⟩
      rintro _ ⟨⟩
      exact ⟨hwritten rfl, hexpiry⟩
    · rintro e u ⟨⟨hsecret, -⟩, hle⟩
      exact ⟨hsound' u hle hsecret, by rintro _ ⟨⟩⟩
  · rintro e t ⟨⟨-, hkept⟩, hlater⟩
    exact ⟨hsound.later hkept hlater, by rintro _ ⟨⟩⟩

theorem ensures_provideCACert_sound (hlib : lib.Trusted) (hsound : SecretSound w) :
    EnsuresE (Attempts Tears) (fun r t => SecretSound t ∧
      ∀ pair, r = .ok pair → CAProvided w t pair.1 pair.2) (provideCACert keySize) w := by
  refine (ensures_storedCACert_accepted.and ensures_later).bind ?_ ?_
  · rintro stored t ⟨⟨hkept, hstored⟩, hlater⟩
    cases stored with
    | some pair =>
      refine ⟨hsound.later hkept hlater, ?_⟩
      rintro _ ⟨⟩
      obtain ⟨hsecret, haccepts⟩ := hstored pair.1 pair.2 rfl
      obtain ⟨_, _, ca, _, ⟨⟩, hca, -, hexpiry, -⟩ := accepts_iff.mp haccepts
      refine ⟨hkept.trans hsecret, ca, hca, ?_⟩
      simp only [day, hour, second] at hexpiry ⊢
      omega
    | none =>
      refine (ensures_createCACert_sound hlib (hsound.later hkept hlater)).mono ?_
      rintro r u ⟨hsound', hprovided⟩
      refine ⟨hsound', fun pair hpair => ?_⟩
      obtain ⟨hsecret, ca, hca, hexpiry⟩ := hprovided pair hpair
      exact ⟨hsecret, ca, hca, by omega⟩
  · rintro e t ⟨⟨hkept, -⟩, hlater⟩
    exact ⟨hsound.later hkept hlater, by rintro _ ⟨⟩⟩

end Writing

end CA

section Server

variable {Tears : Tearing lib} {w : World lib} {keySize : Nat}

structure GoodPair (since now : Int) (caCertPEM certPEM keyPEM : lib.Content) : Prop where
  pair : ∃ cert key, lib.parseCertPEM certPEM = .ok cert ∧ lib.parseKeyPEM keyPEM = .ok key ∧
    lib.belongs cert key ∧ since + day < lib.notAfter cert ∧
    ∀ ca later, lib.parseCertPEM caCertPEM = .ok ca → now ≤ later → later ≤ lib.notAfter cert →
      later ≤ lib.notAfter ca → lib.verify caCertPEM cert later = .ok true

theorem Attempts.readFile_ok {t : World lib} {file : CertFile} {content : lib.Content}
    (h : Attempts Tears w (.readFile file) (.ok content) t) : w.files file = some content := by
  cases h with
  | answer hanswer =>
    cases hanswer with
    | readFile _ _ hfile => exact hfile
  | fail hfail => cases hfail

theorem ensures_load_files :
    EnsuresE (Attempts Tears) (fun r t => t.files = w.files ∧ ∀ pair, r = .ok pair →
      w.files .cert = some pair.1 ∧ w.files .key = some pair.2) (load : Ensuring lib _) w := by
  refine ensuresE_request_bind fun x t hserve => ?_
  have hkept : t.files = w.files := hserve.files_eq trivial
  refine ensures_orFail (fun certPEM hcert => ?_) fun e _ => ⟨hkept, by rintro _ ⟨⟩⟩
  subst hcert
  refine ensuresE_request_bind fun x u hserve' => ?_
  have hkept' : u.files = w.files := (hserve'.files_eq trivial).trans hkept
  refine ensures_orFail (fun keyPEM hkey => ?_) fun e _ => ⟨hkept', by rintro _ ⟨⟩⟩
  subst hkey
  refine ⟨hkept', ?_⟩
  rintro _ ⟨⟩
  exact ⟨hserve.readFile_ok, hkept ▸ hserve'.readFile_ok⟩

/-- The pair that is kept is good if the directory was consistent. -/
theorem ensures_storedServerCert_good {caCertPEM : lib.Content} (hfiles : Consistent w.files)
    (hsound : SoundFrom lib w.now caCertPEM) :
    EnsuresE (Attempts Tears) (fun r t => t.files = w.files ∧ ∀ pair, r = .ok (some pair) →
      w.files .cert = some pair.1 ∧ w.files .key = some pair.2 ∧
        GoodPair w.now t.now caCertPEM pair.1 pair.2) (storedServerCert caCertPEM) w := by
  refine (ensures_load_files.and ensures_later).attempt_bind ?_
  rintro loaded t ⟨⟨hkept, hloaded⟩, hlater⟩
  cases loaded with
  | error err => exact ⟨hkept, by rintro _ ⟨⟩⟩
  | ok pair =>
    obtain ⟨hcertFile, hkeyFile⟩ := hloaded pair rfl
    dsimp only
    split
    · exact ⟨hkept, by rintro _ ⟨⟩⟩
    · rename_i hempty
      simp only [Bool.or_eq_true, not_or, Bool.not_eq_true] at hempty
      refine (ensures_checkServerCert tellsTime_attempts pair.1 caCertPEM).bind ?_ ?_
      · rintro valid u ⟨⟨now, rfl⟩, _, ⟨⟩, hchecked⟩
        cases valid with
        | false => exact ⟨hkept, by rintro _ ⟨⟩⟩
        | true =>
          obtain ⟨cert, time, hcert, hexpiry, hsince, htime, hverify⟩ := hchecked rfl
          obtain ⟨key, hkey, hbelongs⟩ := hfiles _ _ cert hcertFile hkeyFile hempty.2 hcert
          refine ⟨hkept, ?_⟩
          rintro _ ⟨⟩
          refine ⟨hcertFile, hkeyFile, cert, key, hcert, hkey, hbelongs, by omega, ?_⟩
          intro ca later hca hle hcertLater hcaLater
          exact hsound.lasting ca cert time later hca (by omega) hverify
            (Int.le_trans htime hle) hcertLater hcaLater
      · rintro e u ⟨-, _, ⟨⟩, -⟩

variable {config : ServerCertConfig lib}

theorem ensures_generateServerCert_good (hlib : lib.Trusted)
    (hsound : SoundFrom lib w.now config.caCertPEM) :
    EnsuresE (Attempts Tears) (fun r t => ∀ pair, r = .ok pair →
      GoodPair w.now t.now config.caCertPEM pair.1 pair.2)
        (generateServerCert keySize config) w := by
  refine ensures_orFail (fun caCert hcaCert => ?_) (by simp)
  refine ensures_orFail (fun caKey hcaKey => ?_) (by simp)
  refine ensuresE_request_bind fun x t hserve => ?_
  have hserial := hserve.later
  refine ensures_orFail (fun serial _ => ?_) (by simp)
  refine ensures_now tellsTime_attempts fun now hnow => ?_
  refine ensuresE_request_bind fun x u hserve => ?_
  have hkey := hserve.later
  refine ensures_orFail (fun key _ => ?_) (by simp)
  refine ensures_orFail (fun cert hcreate => ?_) (by simp)
  rintro _ ⟨⟩
  obtain ⟨hbelongs, hnotAfter⟩ := hlib.createCertificate_ok _ _ _ _ _ _ _ hcreate
  simp only [World.atTime_now] at hkey
  refine ⟨cert, key, hlib.parse_encodeCertPEM cert, hlib.parse_encodeKeyPEM key, hbelongs, ?_, ?_⟩
  · simp only [serverCertMaxAge, day, hour, second] at hnotAfter ⊢
    omega
  · intro ca later hca hle hcertLater hcaLater
    cases hca.symm.trans hcaCert
    refine hsound.signed _ _ _ _ _ _ hcaCert hcreate (by omega) ?_ hcertLater hcaLater
    simp only [hour, second]
    omega

variable {caCertPEM certPEM keyPEM : lib.Content}

theorem consistent_of_pair {files : CertFile → Option lib.Content} {since now : Int}
    (hgood : GoodPair since now caCertPEM certPEM keyPEM) (hcert : files .cert = some certPEM)
    (hkey : ∀ content, files .key = some content → lib.isEmpty content ∨ content = keyPEM) :
    Consistent files := by
  obtain ⟨cert, key, hparse, hparseKey, hbelongs, -⟩ := hgood
  intro certPEM' keyPEM' cert' hcert' hkey' hempty hparse'
  cases hcert'.symm.trans hcert
  cases hparse'.symm.trans hparse
  rcases hkey keyPEM' hkey' with hempty' | rfl
  · cases hempty'.symm.trans hempty
  · exact ⟨key, hparseKey, hbelongs⟩

/-- The write of the key may fail after the write of the certificate. -/
theorem ensures_save_consistent {since now : Int}
    (hgood : GoodPair since now caCertPEM certPEM keyPEM) (hfiles : Consistent w.files) :
    EnsuresE (Attempts Harmless) (fun r t => Consistent t.files ∧ (r = .ok () →
      t.files .cert = some certPEM ∧ t.files .key = some keyPEM)) (save certPEM keyPEM) w := by
  refine ensuresE_request_bind fun x t hserve => ?_
  cases hserve with
  | fail hfail =>
    cases hfail with
    | writeFile _ _ _ after htears =>
      refine ⟨?_, by rintro ⟨⟩⟩
      intro certPEM' keyPEM' cert hcert' hkey' hempty hparse
      have hafter : after = some certPEM' := by simpa [World.setFile] using hcert'
      have hkept : w.files .key = some keyPEM' := by simpa [World.setFile] using hkey'
      rcases htears with rfl | hgarbage
      · exact hfiles certPEM' keyPEM' cert hafter hkept hempty hparse
      · exact absurd hparse (hgarbage certPEM' hafter cert)
  | answer hanswer =>
    cases hanswer
    refine ensuresE_request_bind fun x u hserve => ?_
    cases hserve with
    | fail hfail =>
      cases hfail with
      | writeFile _ _ _ after htears =>
        refine ⟨consistent_of_pair hgood (by simp [World.setFile]) ?_, by rintro ⟨⟩⟩
        intro content hcontent
        exact htears content (by simpa [World.setFile] using hcontent)
    | answer hanswer =>
      cases hanswer
      have hcert : ((w.setFile .cert (some certPEM)).setFile .key (some keyPEM)).files .cert =
        some certPEM := by simp [World.setFile]
      have hkey : ((w.setFile .cert (some certPEM)).setFile .key (some keyPEM)).files .key =
        some keyPEM := by simp [World.setFile]
      refine ⟨consistent_of_pair hgood hcert ?_, fun _ => ⟨hcert, hkey⟩⟩
      intro content hcontent
      cases hcontent.symm.trans hkey
      exact .inr rfl

def ServerProvided (w t : World lib) (caCertPEM : lib.Content) : Prop :=
  ∃ certPEM keyPEM, t.files .cert = some certPEM ∧ t.files .key = some keyPEM ∧
    GoodPair w.now t.now caCertPEM certPEM keyPEM

theorem GoodPair.later {since since' now now' : Int}
    (h : GoodPair since now caCertPEM certPEM keyPEM) (hsince : since' ≤ since)
    (hnow : now ≤ now') : GoodPair since' now' caCertPEM certPEM keyPEM := by
  obtain ⟨cert, key, hcert, hkey, hbelongs, hexpiry, hverify⟩ := h
  refine ⟨cert, key, hcert, hkey, hbelongs, by omega, ?_⟩
  exact fun ca later hca hle => hverify ca later hca (Int.le_trans hnow hle)

theorem ensures_createServerCert_consistent (hlib : lib.Trusted)
    (hfiles : Consistent w.files) (hsound : SoundFrom lib w.now config.caCertPEM) :
    EnsuresE (Attempts Harmless) (fun r t => Consistent t.files ∧
      ∀ pair, r = .ok pair → ServerProvided w t config.caCertPEM)
      (createServerCert keySize config) w := by
  refine ((ensures_generateServerCert_good hlib hsound).and
    (ensures_files ((generateServerCert_asks config).mono fun _ h => h.files))).mapErr_bind ?_ ?_
  · rintro pair t ⟨hgenerated, hkept⟩
    have hgood := hgenerated pair rfl
    refine ((ensures_save_consistent hgood (hkept ▸ hfiles)).and ensures_later).mapErr_bind ?_ ?_
    · rintro _ u ⟨⟨hconsistent, hsaved⟩, hlater⟩
      obtain ⟨hcert, hkey⟩ := hsaved rfl
      exact ⟨hconsistent, fun _ _ => ⟨_, _, hcert, hkey, hgood.later (Int.le_refl _) hlater⟩⟩
    · rintro e u ⟨⟨hconsistent, -⟩, -⟩
      exact ⟨hconsistent, by rintro _ ⟨⟩⟩
  · rintro e t ⟨-, hkept⟩
    exact ⟨hkept ▸ hfiles, by rintro _ ⟨⟩⟩

theorem ensures_provideServerCert_consistent (hlib : lib.Trusted)
    (hfiles : Consistent w.files) (hsound : SoundFrom lib w.now config.caCertPEM) :
    EnsuresE (Attempts Harmless) (fun r t => Consistent t.files ∧
      ∀ pair, r = .ok pair → ServerProvided w t config.caCertPEM)
      (provideServerCert keySize config) w := by
  refine ((ensures_storedServerCert_good hfiles hsound).and ensures_later).bind ?_ ?_
  · rintro stored t ⟨⟨hkept, hstored⟩, hlater⟩
    cases stored with
    | some pair =>
      obtain ⟨hcert, hkey, hgood⟩ := hstored pair rfl
      exact ⟨hkept ▸ hfiles, fun _ _ => ⟨_, _, hkept ▸ hcert, hkept ▸ hkey, hgood⟩⟩
    | none =>
      refine (ensures_createServerCert_consistent hlib (hkept ▸ hfiles)
        (hsound.later hlater)).mono ?_
      rintro r u ⟨hconsistent, hprovided⟩
      refine ⟨hconsistent, fun pair hpair => ?_⟩
      obtain ⟨certPEM, keyPEM, hcert, hkey, hgood⟩ := hprovided pair hpair
      exact ⟨certPEM, keyPEM, hcert, hkey, hgood.later hlater (Int.le_refl _)⟩
  · rintro e t ⟨⟨hkept, -⟩, -⟩
    exact ⟨hkept ▸ hfiles, by rintro _ ⟨⟩⟩

end Server

section Bundles

variable {Tears : Tearing lib} {w : World lib}

theorem ensures_updateWebhookConfig_bundles (kind : WebhookKind) (failure : String)
    (caBundle : lib.Content) :
    EnsuresE (Attempts Tears) (fun r t => r = .ok () → t.crds = w.crds ∧ t.webhooks =
      Function.update w.webhooks kind ((w.webhooks kind).map fun _ => caBundle))
      (updateWebhookConfig kind failure caBundle) w := by
  refine ensuresE_request_bind fun x t hserve => ?_
  refine ensures_orFail (fun caBundles hbundles => ?_) (by simp)
  subst hbundles
  cases hserve with
  | fail hfail => cases hfail
  | answer hanswer =>
    cases hanswer
    refine ensuresE_request_bind fun x u hserve => ?_
    cases hserve with
    | fail hfail => cases hfail; rintro ⟨⟩
    | answer hanswer => cases hanswer; exact fun _ => ⟨rfl, rfl⟩

theorem ensures_updatePipelineCRD_bundles (crd : PipelineCRD) (conversion : Conversion lib) :
    EnsuresE (Attempts Tears) (fun r t => r = .ok () → t.webhooks = w.webhooks ∧
      t.crds = Function.update w.crds crd (some conversion))
      (updatePipelineCRDWithConversionWebhookConfig crd conversion) w := by
  refine ensuresE_request_bind fun x t hserve => ?_
  refine ensures_orFail (fun _ hfound => ?_) (by simp)
  subst hfound
  cases hserve with
  | fail hfail => cases hfail
  | answer hanswer =>
    cases hanswer
    refine ensuresE_request_bind fun x u hserve => ?_
    cases hserve with
    | fail hfail => cases hfail; rintro ⟨⟩
    | answer hanswer => cases hanswer; exact fun _ => ⟨rfl, rfl⟩

theorem ensures_applyWebhookConfigResources_bundles (caBundle : lib.Content) (config : Config) :
    EnsuresE (Attempts Tears) (fun r t => r = .ok () →
      (∀ kind, ∀ bundle ∈ t.webhooks kind, bundle = caBundle) ∧
      ∀ crd, ∃ conversion, t.crds crd = some conversion ∧ conversion.caBundle = caBundle)
      (applyWebhookConfigResources caBundle config) w := by
  refine (ensures_updateWebhookConfig_bundles _ _ caBundle).mapErr_bind ?_ (by simp)
  intro _ t hvalidating
  refine (ensures_updateWebhookConfig_bundles _ _ caBundle).mapErr_bind ?_ (by simp)
  intro _ u hmutating
  refine (ensures_updatePipelineCRD_bundles _ _).mapErr_bind ?_ (by simp)
  intro _ v hlog
  refine ensuresE_mapErr.mpr ((ensures_updatePipelineCRD_bundles _ _).mono ?_)
  intro r x hmetric hr
  have hr : r = .ok () := by
    cases r with
    | error e => cases hr
    | ok a => rfl
  obtain ⟨-, hvalidating⟩ := hvalidating rfl
  obtain ⟨-, hmutating⟩ := hmutating rfl
  obtain ⟨hlogWebhooks, hlog⟩ := hlog rfl
  obtain ⟨hmetricWebhooks, hmetric⟩ := hmetric hr
  constructor
  · rw [hmetricWebhooks, hlogWebhooks, hmutating, hvalidating]
    intro kind bundle hbundle
    cases kind <;> simp [Function.update] at hbundle <;> exact hbundle.2
  · rw [hmetric, hlog]
    intro crd
    cases crd <;> exact ⟨makeConversionWebhookConfig caBundle config, by simp, rfl⟩

end Bundles

section Histories

variable [DecidableEq (CASecret lib)] {w t : World lib}

/-- One call keeps what it relies on, and a success leaves what fits together. -/
theorem ensures_ensureCertificate (hlib : lib.Trusted) (hintact : Intact w) (config : Config) :
    EnsuresE (Attempts Harmless) (fun r t => Intact t ∧
      (r = .ok () → t.now < w.now + day → Ready t)) (ensureCertificate config) w := by
  refine (((ensures_provideCACert_sound hlib hintact.sound).and
    (ensures_files (provideCACert_asks.mono fun _ h => h.1))).and ensures_later).mapErr_bind ?_ ?_
  · rintro ⟨caCertPEM, caKeyPEM⟩ t ⟨⟨⟨hsound, hprovided⟩, hfiles⟩, hlater⟩
    obtain ⟨hsecret, ca, hca, hexpiry⟩ := hprovided _ rfl
    have hsoundCA : SoundFrom lib t.now caCertPEM := hsound _ _ hsecret rfl
    refine (((ensures_provideServerCert_consistent hlib (hfiles ▸ hintact.consistent) hsoundCA).and
      (ensures_caSecret ((provideServerCert_asks _).mono fun _ h => h.1))).and
      ensures_later).mapErr_bind ?_ ?_
    · rintro _ u ⟨⟨⟨hconsistent, hserver⟩, hkept⟩, hlater'⟩
      have hspares := applyWebhookConfigResources_asks caCertPEM config
      refine ((((ensures_applyWebhookConfigResources_bundles caCertPEM config).and
        (ensures_caSecret (hspares.mono fun _ h => h.secret))).and
        (ensures_files (hspares.mono fun _ h => h.files))).and ensures_later).mono ?_
      rintro r v ⟨⟨⟨hbundles, hkept'⟩, hfiles'⟩, hlater''⟩
      refine ⟨⟨hfiles' ▸ hconsistent, ?_⟩, fun hr htime => ?_⟩
      · exact hsound.later (hkept'.trans hkept) (Int.le_trans hlater' hlater'')
      · obtain ⟨certPEM, keyPEM, hcertFile, hkeyFile, cert, key, hcert, hkey, hbelongs, hcertExpiry,
          hverify⟩ := hserver _ rfl
        obtain ⟨hwebhooks, hcrds⟩ := hbundles hr
        refine ⟨caCertPEM, caKeyPEM, certPEM, keyPEM, cert, key, ?_, ?_, ?_, hcert, hkey, hbelongs,
          by omega, ?_, hwebhooks, hcrds⟩
        · exact hkept'.trans (hkept.trans hsecret)
        · rw [hfiles', hcertFile]
        · rw [hfiles', hkeyFile]
        · exact hverify ca v.now hca hlater'' (by omega) (by omega)
    · rintro e u ⟨⟨⟨hconsistent, -⟩, hkept⟩, hlater'⟩
      exact ⟨⟨hconsistent, hsound.later hkept hlater'⟩, by rintro ⟨⟩⟩
  · rintro e t ⟨⟨⟨hsound, -⟩, hfiles⟩, -⟩
    exact ⟨⟨hfiles ▸ hintact.consistent, hsound⟩, by rintro ⟨⟩⟩

theorem CallStep.intact (hlib : lib.Trusted) (h : CallStep Harmless w t) (hintact : Intact w) :
    Intact t := by
  cases h with
  | wait now hnow => exact ⟨hintact.consistent, hintact.sound.later rfl hnow⟩
  | call config hcall => exact ((ensures_ensureCertificate hlib hintact config).served hcall).1

theorem intact_of_calls (hlib : lib.Trusted) (h : Relation.ReflTransGen (CallStep Harmless) w t)
    (hintact : Intact w) : Intact t := by
  induction h with
  | refl => exact hintact
  | tail _ hstep ih => exact hstep.intact hlib ih

/-- Whatever calls were made before and whatever became of them, a call that succeeds within a day
leaves everything ready. -/
theorem ready_of_success {w₀ : World lib} (hlib : lib.Trusted) (hintact : Intact w₀)
    (hbefore : Relation.ReflTransGen (CallStep Harmless) w₀ w) {config : Config}
    (hcall : ServedE (Attempts Harmless) (ensureCertificate config) w (.ok ()) t)
    (htime : t.now < w.now + day) : Ready t :=
  ((ensures_ensureCertificate hlib (intact_of_calls hlib hbefore hintact) config).served hcall).2
    rfl htime

end Histories

theorem SimpleCert.verify_iff {cert ca : SimpleCert} {now : Int} :
    cert.verify ca now = .ok true ↔ (cert.notBefore ≤ now ∧ now ≤ cert.notAfter ∧
      ca.notBefore ≤ now ∧ now ≤ ca.notAfter) ∧ ca.isCA ∧ cert.signer = ca.owner := by
  unfold SimpleCert.verify
  split
  · rename_i hvalid
    split <;> simp_all
  · rename_i hvalid
    simp only [reduceCtorEq, false_iff]
    exact fun h => hvalid h.1

theorem SimpleCert.sign_eq_ok_iff {template : ServerTemplate} {parent cert : SimpleCert}
    {key signer : SimpleKey} : sign template parent key signer = .ok cert ↔
      parent.owner = signer ∧
        cert = ⟨template.notBefore, template.notAfter, key, signer, false⟩ := by
  by_cases h : parent.owner = signer <;> simp [sign, belongs, h, eq_comm]

theorem simpleCrypto_sound (ca : SimpleCert) (hCA : ca.isCA) :
    SoundFrom simpleCrypto ca.notBefore (.cert ca) where
  signed := by
    rintro _ template key signer cert now ⟨⟩ hcert hsince hbefore hafter hca
    obtain ⟨rfl, rfl⟩ := SimpleCert.sign_eq_ok_iff.mp hcert
    exact SimpleCert.verify_iff.mpr ⟨⟨hbefore, hafter, hsince, hca⟩, hCA, rfl⟩
  lasting := by
    rintro _ cert now now' ⟨⟩ hsince hverify hle hafter hca
    obtain ⟨⟨hbefore, -, hbeforeCA, -⟩, hsigner⟩ := SimpleCert.verify_iff.mp hverify
    exact SimpleCert.verify_iff.mpr
      ⟨⟨Int.le_trans hbefore hle, hafter, Int.le_trans hbeforeCA hle, hca⟩, hsigner⟩

theorem simpleCrypto_trusted : simpleCrypto.Trusted where
  toLawful := (simpleCrypto_capable ⟨0, "", ""⟩).toLawful
  createCA_ok := by
    rintro validFrom key _ ⟨⟩
    refine ⟨Int.sub_lt_self _ (by decide), ?_⟩
    exact simpleCrypto_sound ⟨validFrom, validFrom + caCertMaxAge, key, key, true⟩ rfl
  createCertificate_ok := by
    intro serial dnsNames validFrom parent key signer cert hcert
    obtain ⟨-, rfl⟩ := SimpleCert.sign_eq_ok_iff.mp hcert
    exact ⟨SimpleCert.belongs_iff.mpr rfl, Int.sub_lt_self _ (by decide)⟩

/-- The write of the key fails and leaves the old key. -/
def answerTorn (newKey : Nat → lib.Key) (w : World lib) : (r : Req lib) → Resp lib r × World lib
  | .writeFile .key _ => (.error "no space left on device", w.setFile .key (w.files .key))
  | r => answerWith newKey w r

theorem attempts_answerWith {Tears : Tearing lib} {newKey : Nat → lib.Key}
    (hkey : ∀ bits, lib.bitLen (newKey bits) = bits) (w : World lib) (r : Req lib) :
    Attempts Tears w r (answerWith newKey w r).1 (answerWith newKey w r).2 :=
  .answer (answers_answerWith w r fun bits _ => hkey bits) (Int.le_refl _)

theorem attempts_answerTorn {newKey : Nat → lib.Key}
    (hkey : ∀ bits, lib.bitLen (newKey bits) = bits) (w : World lib) (r : Req lib) :
    Attempts Arbitrary w r (answerTorn newKey w r).1 (answerTorn newKey w r).2 := by
  unfold answerTorn
  split
  · exact .fail (.writeFile _ _ _ _ _ trivial) (Int.le_refl _)
  · exact attempts_answerWith hkey w r

def freshWorld : World simpleCrypto where
  now := 0
  files := fun _ => none
  caSecret := none
  webhooks := fun _ => [.empty]
  crds := fun _ => none

def webhookConfig : Config := ⟨4096, "telemetry-webhook", "kyma-system"⟩

def callAt (id : Nat) (w : World simpleCrypto) : Except GoError Unit × World simpleCrypto :=
  runWith (answerWith (newSimpleKey id)) (ensureCertificate webhookConfig).run w

def tornCallAt (id : Nat) (w : World simpleCrypto) : Except GoError Unit × World simpleCrypto :=
  runWith (answerTorn (newSimpleKey id)) (ensureCertificate webhookConfig).run w

theorem served_callAt {Tears : Tearing simpleCrypto} (id : Nat) (w : World simpleCrypto) :
    ServedE (Attempts Tears) (ensureCertificate webhookConfig) w (callAt id w).1 (callAt id w).2 :=
  served_runWith (attempts_answerWith fun _ => rfl) _ w

theorem served_tornCallAt (id : Nat) (w : World simpleCrypto) :
    ServedE (Attempts Arbitrary) (ensureCertificate webhookConfig) w (tornCallAt id w).1
      (tornCallAt id w).2 :=
  served_runWith (attempts_answerTorn fun _ => rfl) _ w

theorem ready_first_call : Ready (callAt 1 freshWorld).2 :=
  ready_of_success simpleCrypto_trusted ⟨by rintro _ _ _ ⟨⟩, by rintro _ _ ⟨⟩⟩ .refl
    (served_callAt 1 freshWorld) (by decide)

/-- After a week the certificate is replaced, and the write of its key fails. The next call finds
the new certificate in order and does not look at the key. -/
theorem torn_pair_kept :
    ∃ w t, Relation.ReflTransGen (CallStep Arbitrary) freshWorld w ∧
      ServedE (Attempts Arbitrary) (ensureCertificate webhookConfig) w (.ok ()) t ∧
      ¬ Ready t := by
  have hfirst : Relation.ReflTransGen (CallStep Arbitrary) freshWorld (callAt 1 freshWorld).2 :=
    .single (.call webhookConfig (served_callAt 1 freshWorld))
  have hweek := hfirst.tail (.wait _ (7 * day) (by decide))
  refine ⟨_, _, hweek.tail (.call webhookConfig (served_tornCallAt 2 _)), served_callAt 3 _, ?_⟩
  rintro ⟨_, _, _, _, _, _, -, ⟨⟩, ⟨⟩, ⟨⟩, ⟨⟩, hbelongs, -⟩
  revert hbelongs
  decide

end TelemetryManager.WebhookCert

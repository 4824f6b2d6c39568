import TelemetryManager.WebhookCert

/-! A call without failures. Whatever is in the CA Secret and in the certificate directory, the call
should succeed and leave a CA with which certificates can be signed. -/
namespace TelemetryManager.WebhookCert

open Interaction

variable {lib : CryptoLib}

/-- What the packages document about PEM texts. -/
structure CryptoLib.Lawful (lib : CryptoLib) : Prop where
  parse_encodeCertPEM : ∀ cert, lib.parseCertPEM (lib.encodeCertPEM cert) = .ok cert
  parse_encodeKeyPEM : ∀ key, lib.parseKeyPEM (lib.encodeKeyPEM key) = .ok key

/-- The end of the year 9999, the last time that a certificate can hold. -/
def lastTime : Int := 253402300799 * second

/-- Time passes, and the validity of what is generated meanwhile can be written down. -/
structure Passing (i j : Int) : Prop where
  le : i ≤ j
  start : hour ≤ i
  stop : j + caCertMaxAge ≤ lastTime

theorem Passing.left {i j : Int} (h : Passing i j) : Passing i i :=
  ⟨Int.le_refl i, h.start, Int.le_trans (Int.add_le_add_right h.le _) h.stop⟩

/-- What the packages for RSA and X.509 document about the keys and certificates that a call with
the configuration has them generate. -/
structure CryptoLib.Capable (lib : CryptoLib) (config : Config) : Prop extends lib.Lawful where
  exists_key : ∃ key, lib.bitLen key = effectiveKeySize config.rsaKeySize
  createCA : ∀ now key, Passing now now → lib.bitLen key = effectiveKeySize config.rsaKeySize →
    ∃ cert, lib.createCA ⟨now - hour, now - hour + caCertMaxAge⟩ key = .ok cert ∧
      lib.belongs cert key ∧ lib.isCA cert
  createCertificate : ∀ serial now parent key signer, Passing now now →
    lib.bitLen key = effectiveKeySize config.rsaKeySize →
    lib.bitLen signer ∈ [config.rsaKeySize, effectiveKeySize config.rsaKeySize] →
    lib.belongs parent signer →
    ∃ cert, lib.createCertificate ⟨serial, (dnsNames config).1 :: (dnsNames config).2, now - hour,
      now - hour + serverCertMaxAge⟩ parent key signer = .ok cert

theorem simpleCrypto_capable (config : Config) : simpleCrypto.Capable config where
  parse_encodeCertPEM _ := rfl
  parse_encodeKeyPEM _ := rfl
  exists_key := ⟨⟨0, _⟩, rfl⟩
  createCA _ _ _ _ := ⟨_, rfl, SimpleCert.belongs_iff.mpr rfl, rfl⟩
  createCertificate _ _ _ _ _ _ _ _ := (SimpleCert.exists_sign_iff _ _ _ _).mpr

structure Signs (lib : CryptoLib) (caCertPEM caKeyPEM : lib.Content) : Prop where
  pair : ∃ cert key, lib.parseCertPEM caCertPEM = .ok cert ∧ lib.parseKeyPEM caKeyPEM = .ok key ∧
    lib.belongs cert key ∧ lib.isCA cert

def accepts (keySize : Nat) (now : Int) (secret : CASecret lib) : Bool :=
  match secret.cert.map lib.parseCertPEM, secret.key.map lib.parseKeyPEM with
  | some (.ok cert), some (.ok key) =>
    now < lib.notAfter cert - 30 * day && lib.bitLen key = keySize
  | _, _ => false

theorem accepts_iff {keySize : Nat} {now : Int} {secret : CASecret lib} :
    accepts keySize now secret ↔ ∃ certPEM keyPEM cert key,
      secret = ⟨some certPEM, some keyPEM⟩ ∧ lib.parseCertPEM certPEM = .ok cert ∧
      lib.parseKeyPEM keyPEM = .ok key ∧ now < lib.notAfter cert - 30 * day ∧
      lib.bitLen key = keySize := by
  constructor
  · intro h
    obtain ⟨cert, key⟩ := secret
    unfold accepts at h
    split at h
    · rename_i cert' key' hcert hkey
      obtain ⟨certPEM, rfl, hparse⟩ := Option.map_eq_some_iff.mp hcert
      obtain ⟨keyPEM, rfl, hparseKey⟩ := Option.map_eq_some_iff.mp hkey
      simp only [Bool.and_eq_true, decide_eq_true_eq] at h
      exact ⟨certPEM, keyPEM, cert', key', rfl, hparse, hparseKey, h.1, h.2⟩
    · cases h
  · rintro ⟨certPEM, keyPEM, cert, key, rfl, hcert, hkey, hexpiry, hsize⟩
    simp [accepts, hcert, hkey, hexpiry, hsize]

theorem accepts_earlier {keySize : Nat} {secret : CASecret lib} {now now' : Int} (hle : now ≤ now')
    (h : accepts keySize now' secret) : accepts keySize now secret := by
  obtain ⟨certPEM, keyPEM, cert, key, hsecret, hcert, hkey, hexpiry, hsize⟩ := accepts_iff.mp h
  exact accepts_iff.mpr ⟨certPEM, keyPEM, cert, key, hsecret, hcert, hkey,
    Int.lt_of_le_of_lt hle hexpiry, hsize⟩

section Requests

variable {Passes : Int → Int → Prop} {w : World lib}

def SparesSecret : Req lib → Prop
  | .createCASecret _ | .updateCASecret _ => False
  | _ => True

def SparesFiles : Req lib → Prop
  | .writeFile _ _ => False
  | _ => True

/-- Keys are asked for in one size. -/
def OfSize (keySize : Nat) : Req lib → Prop
  | .generateKey bits => bits = effectiveKeySize keySize
  | _ => True

structure Spares (keySize : Nat) (r : Req lib) : Prop where
  secret : SparesSecret r
  files : SparesFiles r
  size : OfSize keySize r

theorem ensures_caSecret_serves {p : Ensuring lib α} (hasks : Asks SparesSecret p) :
    EnsuresE (Serves Passes) (fun _ t => t.caSecret = w.caSecret) p w := by
  refine .of_asks hasks rfl fun s r x t hr hserve hsecret => ?_
  cases hserve with
  | answer hanswer => cases hanswer <;> first | exact hsecret | exact hr.elim

variable {α : Type} {Q : Except GoError α → World lib → Prop}
  {Serve : World lib → (r : Req lib) → Resp lib r → World lib → Prop}

theorem ensures_orFail {β ε : Type} {toGo : ε → GoError} {x : Except ε β} {f : β → Ensuring lib α}
    (hok : ∀ a, x = .ok a → EnsuresE Serve Q (f a) w)
    (herror : ∀ e, x = .error e → Q (.error (toGo e)) w) :
    EnsuresE Serve Q (orFail toGo x >>= f) w := by
  cases x with
  | ok a => exact hok a rfl
  | error e => exact herror e rfl

/-- Every request for the time is answered with the time of the world. -/
def TellsTime (Passes : Int → Int → Prop)
    (Serve : World lib → (r : Req lib) → Resp lib r → World lib → Prop) : Prop :=
  ∀ w x t, Serve w .now x t → x = w.now ∧ ∃ now, Passes w.now now ∧ t = w.atTime now

theorem tellsTime_serves : TellsTime Passes (@Serves lib Passes) := by
  intro w x t hserve
  cases hserve with
  | answer hanswer hnow =>
    cases hanswer
    exact ⟨rfl, _, hnow, rfl⟩

theorem ensures_now (hclock : TellsTime Passes Serve) {f : Int → Ensuring lib α}
    (h : ∀ now, Passes w.now now → EnsuresE Serve Q (f w.now) (w.atTime now)) :
    EnsuresE Serve Q (request .now >>= f) w := by
  refine ensuresE_request_bind fun x t hserve => ?_
  obtain ⟨rfl, now, hnow, rfl⟩ := hclock w x t hserve
  exact h now hnow

theorem ensures_answer {r : Req lib} {f : Resp lib r → Ensuring lib α}
    (h : ∀ x v now, Answers w r x v → Passes v.now now →
      EnsuresE (Serves Passes) Q (f x) (v.atTime now)) :
    EnsuresE (Serves Passes) Q (request r >>= f) w := by
  refine ensuresE_request_bind fun x t hserve => ?_
  cases hserve with
  | answer hanswer hnow => exact h _ _ _ hanswer hnow

theorem ensures_generateKey {bits : Nat} {toGo : String → GoError} {f : lib.Key → Ensuring lib α}
    (h : ∀ key now, lib.bitLen key = bits → EnsuresE (Serves Passes) Q (f key) (w.atTime now)) :
    EnsuresE (Serves Passes) Q
      (request (.generateKey bits) >>= fun x => orFail toGo x >>= f) w := by
  refine ensures_answer fun x v now hanswer _ => ?_
  cases hanswer with
  | generateKey _ key hkey => exact h key now hkey

theorem ensures_generateSerial {toGo : String → GoError} {f : Nat → Ensuring lib α}
    (h : ∀ serial now, EnsuresE (Serves Passes) Q (f serial) (w.atTime now)) :
    EnsuresE (Serves Passes) Q (request .generateSerial >>= fun x => orFail toGo x >>= f) w := by
  refine ensures_answer fun x v now hanswer _ => ?_
  cases hanswer
  exact h _ now

end Requests

section Asking

variable {R : Req lib → Prop} {keySize : Nat}

theorem orFail_asks {ε β : Type} {toGo : ε → GoError} (x : Except ε β) :
    Asks R (orFail toGo x : Ensuring lib β) := by
  cases x with
  | error err => exact .throw _
  | ok a => exact .pure a

theorem checkExpiry_asks (offset : Int) (certPEM : lib.Content) :
    Asks (Spares keySize) (checkExpiry offset certPEM) :=
  .bind (orFail_asks _) fun _ => .bind (.request ⟨trivial, trivial, trivial⟩) fun _ => .pure _

theorem checkCASecret_asks (secret : CASecret lib) :
    Asks (Spares keySize) (checkCASecret keySize secret) := by
  unfold checkCASecret
  split
  · refine .bind (.attempt (checkExpiry_asks _ _)) fun _ =>
      .bind (.attempt (.bind (orFail_asks _) fun _ => .pure _)) fun _ => ?_
    split <;> exact .pure _
  · exact .pure _

theorem generateCACert_asks : Asks (Spares keySize) (generateCACert keySize : Ensuring lib _) := by
  refine .bind (.request ⟨trivial, trivial, rfl⟩) fun _ => .bind (orFail_asks _) fun _ => ?_
  refine .bind (.request ⟨trivial, trivial, trivial⟩) fun _ => ?_
  exact .bind (orFail_asks _) fun _ => .pure _

theorem provideCACert_asks [DecidableEq (CASecret lib)] :
    Asks (fun r => SparesFiles r ∧ OfSize keySize r) (provideCACert keySize : Ensuring lib _) := by
  have hspared : ∀ r : Req lib, Spares keySize r → SparesFiles r ∧ OfSize keySize r :=
    fun _ h => ⟨h.files, h.size⟩
  refine .bind (.bind (.request ⟨trivial, trivial⟩) fun x => ?_) fun stored => ?_
  · cases x with
    | error err => exact .ite (.pure _) (.throw _)
    | ok secret =>
      refine .bind ((checkCASecret_asks secret).mono hspared) fun accepted => ?_
      split <;> exact .pure _
  · cases stored with
    | some pair => exact .pure pair
    | none =>
      refine .bind (.mapErr (generateCACert_asks.mono hspared)) fun pair => ?_
      refine .bind (.mapErr (.bind (.request ⟨trivial, trivial⟩) fun x => ?_)) fun _ => .pure _
      cases x <;> dsimp only <;> split
      · exact .bind (.request ⟨trivial, trivial⟩) fun _ => orFail_asks _
      · exact .throw _
      · exact .pure _
      · exact .bind (.request ⟨trivial, trivial⟩) fun _ => orFail_asks _

theorem checkServerCert_asks (serverCertPEM caCertPEM : lib.Content) :
    Asks (Spares keySize) (checkServerCert serverCertPEM caCertPEM) := by
  refine .bind (.attempt (checkExpiry_asks _ _)) fun expiry => ?_
  split
  · refine .bind (.attempt ?_) fun valid => ?_
    · unfold checkRoot
      split
      · exact .throw _
      · exact .bind (orFail_asks _) fun _ =>
          .bind (.request ⟨trivial, trivial, trivial⟩) fun _ => orFail_asks _
    · cases valid <;> exact .pure _
  · exact .pure _

theorem generateServerCert_asks (config : ServerCertConfig lib) :
    Asks (Spares keySize) (generateServerCert keySize config) := by
  refine .bind (orFail_asks _) fun _ => .bind (orFail_asks _) fun _ => ?_
  refine .bind (.request ⟨trivial, trivial, trivial⟩) fun _ => .bind (orFail_asks _) fun _ => ?_
  refine .bind (.request ⟨trivial, trivial, trivial⟩) fun _ => ?_
  refine .bind (.request ⟨trivial, trivial, rfl⟩) fun _ => .bind (orFail_asks _) fun _ => ?_
  exact .bind (orFail_asks _) fun _ => .pure _

theorem provideServerCert_asks (config : ServerCertConfig lib) :
    Asks (fun r => SparesSecret r ∧ OfSize keySize r) (provideServerCert keySize config) := by
  have hspared : ∀ r : Req lib, Spares keySize r → SparesSecret r ∧ OfSize keySize r :=
    fun _ h => ⟨h.secret, h.size⟩
  refine .bind (.bind (.attempt ?_) fun loaded => ?_) fun stored => ?_
  · refine .bind (.request ⟨trivial, trivial⟩) fun _ => .bind (orFail_asks _) fun _ => ?_
    exact .bind (.request ⟨trivial, trivial⟩) fun _ => .bind (orFail_asks _) fun _ => .pure _
  · cases loaded with
    | error err => exact .pure _
    | ok pair =>
      dsimp only
      split
      · exact .pure _
      · refine .bind ((checkServerCert_asks pair.1 _).mono hspared) fun valid => ?_
        split <;> exact .pure _
  · cases stored with
    | some pair => exact .pure pair
    | none =>
      refine .bind (.mapErr ((generateServerCert_asks config).mono hspared)) fun pair =>
        .bind (.mapErr ?_) fun _ => .pure _
      exact .bind (.request ⟨trivial, trivial⟩) fun _ => .bind (orFail_asks _) fun _ =>
        .bind (.request ⟨trivial, trivial⟩) fun _ => orFail_asks _

theorem applyWebhookConfigResources_asks (caBundle : lib.Content) (config : Config) :
    Asks (Spares config.rsaKeySize) (applyWebhookConfigResources caBundle config) := by
  have hwebhooks : ∀ kind failure,
      Asks (Spares config.rsaKeySize) (updateWebhookConfig kind failure caBundle) := fun _ _ =>
    .bind (.request ⟨trivial, trivial, trivial⟩) fun _ => .bind (orFail_asks _) fun _ =>
      .bind (.request ⟨trivial, trivial, trivial⟩) fun _ => orFail_asks _
  have hcrds : ∀ crd conversion, Asks (Spares config.rsaKeySize)
      (updatePipelineCRDWithConversionWebhookConfig crd conversion : Ensuring lib _) := fun _ _ =>
    .bind (.request ⟨trivial, trivial, trivial⟩) fun _ => .bind (orFail_asks _) fun _ =>
      .bind (.request ⟨trivial, trivial, trivial⟩) fun _ => orFail_asks _
  refine .bind (.mapErr (hwebhooks _ _)) fun _ => .bind (.mapErr (hwebhooks _ _)) fun _ => ?_
  exact .bind (.mapErr (hcrds _ _)) fun _ => .mapErr (hcrds _ _)

theorem ensureCertificate_asks [DecidableEq (CASecret lib)] (config : Config) :
    Asks (OfSize config.rsaKeySize) (ensureCertificate config : Ensuring lib _) := by
  refine .bind (.mapErr (provideCACert_asks.mono fun _ h => h.2)) fun pair => ?_
  refine .bind (.mapErr ((provideServerCert_asks _).mono fun _ h => h.2)) fun _ => ?_
  exact (applyWebhookConfigResources_asks _ _).mono fun _ h => h.size

end Asking

section Checks

variable {Passes : Int → Int → Prop} {w : World lib} {keySize : Nat}
  {Serve : World lib → (r : Req lib) → Resp lib r → World lib → Prop}

theorem ensures_checkExpiry (hclock : TellsTime Passes Serve) (offset : Int)
    (certPEM : lib.Content) :
    EnsuresE Serve (fun r t => (∃ now, t = w.atTime now) ∧
      (r = ((lib.parseCertPEM certPEM).mapError GoError.new).map
        fun cert => decide (w.now < lib.notAfter cert - offset)) ∧
      (r = .ok true → Passes w.now t.now))
      (checkExpiry offset certPEM) w := by
  unfold checkExpiry
  cases lib.parseCertPEM certPEM with
  | error err => exact ⟨⟨w.now, rfl⟩, rfl, by simp⟩
  | ok cert => exact ensures_now hclock fun now hnow => ⟨⟨now, rfl⟩, rfl, fun _ => hnow⟩

theorem ensures_checkCASecret (hclock : TellsTime Passes Serve) (secret : CASecret lib) :
    EnsuresE Serve (fun r t => (∃ now, t = w.atTime now) ∧
      r = .ok (accepts keySize w.now secret)) (checkCASecret keySize secret) w := by
  obtain ⟨cert, key⟩ := secret
  cases cert with
  | none => exact ⟨⟨w.now, rfl⟩, rfl⟩
  | some certPEM =>
    cases key with
    | none => exact ⟨⟨w.now, rfl⟩, by simp [accepts]⟩
    | some keyPEM =>
      refine (ensures_checkExpiry hclock (30 * day) certPEM).attempt_bind ?_
      rintro expiry t ⟨⟨now, rfl⟩, rfl, -⟩
      unfold checkKeyLength
      cases hcert : lib.parseCertPEM certPEM <;> cases hkey : lib.parseKeyPEM keyPEM <;>
        exact ⟨⟨now, rfl⟩, by simp [accepts, hcert, hkey]⟩

theorem ensures_checkRoot (hclock : TellsTime Passes Serve)
    (serverCertPEM caCertPEM : lib.Content) :
    EnsuresE Serve (fun r t => (∃ now, t = w.atTime now) ∧ (r = .ok true → Passes w.now t.now ∧
      ∃ cert, lib.parseCertPEM serverCertPEM = .ok cert ∧
        lib.verify caCertPEM cert w.now = .ok true))
      (checkRoot serverCertPEM caCertPEM) w := by
  unfold checkRoot
  split
  · exact ⟨⟨w.now, rfl⟩, by simp⟩
  · cases hcert : lib.parseCertPEM serverCertPEM with
    | error err => exact ⟨⟨w.now, rfl⟩, by simp⟩
    | ok cert =>
      refine ensures_now hclock fun now hnow => ?_
      cases hverify : lib.verify caCertPEM cert w.now with
      | error err => exact ⟨⟨now, rfl⟩, by simp⟩
      | ok valid => exact ⟨⟨now, rfl⟩, by rintro ⟨⟩; exact ⟨hnow, cert, rfl, hverify⟩⟩

/-- The certificate had more than a day left, and verified a little later. -/
def Checked (Passes : Int → Int → Prop) (serverCertPEM caCertPEM : lib.Content) (since now : Int) :
    Prop :=
  ∃ cert time, lib.parseCertPEM serverCertPEM = .ok cert ∧ since < lib.notAfter cert - day ∧
    Passes since time ∧ Passes time now ∧ lib.verify caCertPEM cert time = .ok true

/-- Checks that fail count as checks that are not passed. -/
theorem ensures_checkServerCert (hclock : TellsTime Passes Serve)
    (serverCertPEM caCertPEM : lib.Content) :
    EnsuresE Serve (fun r t => (∃ now, t = w.atTime now) ∧ ∃ valid, r = .ok valid ∧
      (valid = true → Checked Passes serverCertPEM caCertPEM w.now t.now))
      (checkServerCert serverCertPEM caCertPEM) w := by
  refine (ensures_checkExpiry hclock day serverCertPEM).attempt_bind ?_
  rintro expiry t ⟨⟨now, rfl⟩, hexpiry, hnow⟩
  match expiry with
  | .error _ | .ok false => exact ⟨⟨now, rfl⟩, false, rfl, by simp⟩
  | .ok true =>
    refine (ensures_checkRoot hclock serverCertPEM caCertPEM).attempt_bind ?_
    rintro valid t ⟨⟨now', rfl⟩, hvalid⟩
    cases valid with
    | error err => exact ⟨⟨now', rfl⟩, false, rfl, by simp⟩
    | ok valid =>
      refine ⟨⟨now', rfl⟩, valid, rfl, ?_⟩
      rintro rfl
      obtain ⟨hnow', cert, hcert, hverify⟩ := hvalid rfl
      rw [hcert] at hexpiry
      have hlater : w.now < lib.notAfter cert - day :=
        by simpa [Except.map] using hexpiry
      exact ⟨cert, now, hcert, hlater, hnow rfl, hnow', hverify⟩

end Checks

section CA

variable {Passes : Int → Int → Prop} {w : World lib} {keySize : Nat} {config : Config}

/-- The key has a size that certificates are signed with. -/
def SignerOf (config : Config) (caKeyPEM : lib.Content) : Prop :=
  ∀ key, lib.parseKeyPEM caKeyPEM = .ok key →
    lib.bitLen key ∈ [config.rsaKeySize, effectiveKeySize config.rsaKeySize]

theorem ensures_generateCACert (hlib : lib.Capable config) :
    EnsuresE (Serves Passing) (fun r _ => ∃ caCertPEM caKeyPEM, r = .ok (caCertPEM, caKeyPEM) ∧
      Signs lib caCertPEM caKeyPEM ∧ SignerOf config caKeyPEM)
      (generateCACert config.rsaKeySize) w := by
  refine ensures_generateKey fun key now hsize => ?_
  refine ensures_now tellsTime_serves fun now' hpassing => ?_
  obtain ⟨cert, hcreate, hbelongs, hCA⟩ := hlib.createCA _ key hpassing.left hsize
  refine ensures_orFail (fun cert' hcert => ?_) fun e herror => ?_
  · cases hcert.symm.trans hcreate
    refine ⟨_, _, rfl, ⟨cert, key, hlib.parse_encodeCertPEM cert, hlib.parse_encodeKeyPEM key,
      hbelongs, hCA⟩, fun key' hkey => ?_⟩
    cases hkey.symm.trans (hlib.parse_encodeKeyPEM key)
    simp [hsize]
  · cases herror.symm.trans hcreate

theorem ensures_storedCACert :
    EnsuresE (Serves Passes) (fun r t => ∃ now, Passes w.now now ∧ t.caSecret = w.caSecret ∧
      r = .ok ((w.caSecret.filter (accepts keySize now)).bind fun secret =>
        secret.cert.bind fun cert => secret.key.map fun key => (cert, key)))
      (storedCACert keySize) w := by
  refine ensures_answer fun x v now hanswer hnow => ?_
  cases hanswer with
  | noCASecret hnone => exact ⟨now, hnow, rfl, by simp [hnone]⟩
  | getCASecret secret hsecret =>
    refine (ensures_checkCASecret tellsTime_serves secret).bind ?_ ?_
    · rintro accepted u ⟨⟨now', rfl⟩, ⟨⟩⟩
      split
      · rename_i haccepts
        exact ⟨now, hnow, rfl, by rw [hsecret, Option.filter_some, if_pos (by exact haccepts)]; rfl⟩
      · rename_i haccepts
        exact ⟨now, hnow, rfl, by rw [hsecret, Option.filter_some, if_neg (by exact haccepts)]; rfl⟩
    · rintro e u ⟨-, ⟨⟩⟩

variable [DecidableEq (CASecret lib)]

theorem ensures_createOrUpdateSecret (desired : CASecret lib) :
    EnsuresE (Serves Passes) (fun r t => r = .ok () ∧ t.caSecret = some desired)
      (createOrUpdateSecret desired) w := by
  refine ensures_answer fun x v now hanswer _ => ?_
  cases hanswer with
  | getCASecret secret hsecret =>
    dsimp only
    split
    · subst secret
      exact ⟨rfl, hsecret⟩
    · refine ensures_answer fun x v now hanswer _ => ?_
      cases hanswer
      exact ⟨rfl, rfl⟩
  | noCASecret =>
    refine ensures_answer fun x v now hanswer _ => ?_
    cases hanswer
    exact ⟨rfl, rfl⟩

/-- The stored CA is kept if it passes the checks when it is read, and replaced otherwise. -/
theorem ensures_provideCACert (hlib : lib.Capable config) :
    EnsuresE (Serves Passing) (fun r t => ∃ caCertPEM caKeyPEM, r = .ok (caCertPEM, caKeyPEM) ∧
      t.caSecret = some ⟨some caCertPEM, some caKeyPEM⟩ ∧ SignerOf config caKeyPEM ∧
      (Signs lib caCertPEM caKeyPEM ∨ w.caSecret = some ⟨some caCertPEM, some caKeyPEM⟩ ∧
        accepts config.rsaKeySize w.now ⟨some caCertPEM, some caKeyPEM⟩))
      (provideCACert config.rsaKeySize) w := by
  refine ensures_storedCACert.bind ?_ ?_
  · rintro stored t ⟨now, hnow, hsecret, ⟨⟩⟩
    cases hfilter : w.caSecret.filter (accepts config.rsaKeySize now) with
    | none =>
      refine (ensures_generateCACert hlib).mapErr_bind ?_ (by rintro e t ⟨_, _, ⟨⟩, -⟩)
      rintro ⟨caCertPEM, caKeyPEM⟩ u ⟨_, _, ⟨⟩, hsigns, hsize⟩
      refine (ensures_createOrUpdateSecret _).mapErr_bind ?_ (by rintro e u ⟨⟨⟩, -⟩)
      rintro _ v ⟨-, hnew⟩
      exact ⟨_, _, rfl, hnew, hsize, .inl hsigns⟩
    | some secret =>
      obtain ⟨hstored, haccepts⟩ := Option.filter_eq_some_iff.mp hfilter
      obtain ⟨certPEM, keyPEM, cert, key, rfl, -, hkey, -, hsize⟩ := accepts_iff.mp haccepts
      refine ⟨certPEM, keyPEM, rfl, hsecret.trans hstored, fun key' hkey' => ?_,
        .inr ⟨hstored, accepts_earlier hnow.le haccepts⟩⟩
      cases hkey'.symm.trans hkey
      simp [hsize]
  · rintro e t ⟨now, -, -, ⟨⟩⟩

end CA

section Server

variable {Passes : Int → Int → Prop} {w : World lib} {config : Config}

def serverCertConfig (config : Config) (caCertPEM caKeyPEM : lib.Content) : ServerCertConfig lib :=
  ⟨(dnsNames config).1, (dnsNames config).2, caCertPEM, caKeyPEM⟩

variable {caCertPEM caKeyPEM : lib.Content}

theorem ensures_generateServerCert (hlib : lib.Capable config)
    (hsigns : Signs lib caCertPEM caKeyPEM) (hsigner : SignerOf config caKeyPEM) :
    EnsuresE (Serves Passing) (fun r _ => ∃ pair, r = .ok pair)
      (generateServerCert config.rsaKeySize (serverCertConfig config caCertPEM caKeyPEM)) w := by
  obtain ⟨caCert, caKey, hcert, hkey, hbelongs, -⟩ := hsigns
  unfold generateServerCert serverCertConfig
  rw [hcert, hkey]
  refine ensures_generateSerial fun serial now => ?_
  refine ensures_now tellsTime_serves fun now' hpassing => ?_
  refine ensures_generateKey fun key now'' hsize => ?_
  obtain ⟨cert, hcreate⟩ := hlib.createCertificate serial _ caCert key caKey hpassing.left hsize
    (hsigner caKey hkey) hbelongs
  refine ensures_orFail (fun cert' _ => ⟨_, rfl⟩) fun e herror => ?_
  cases herror.symm.trans hcreate

theorem ensures_save (certPEM keyPEM : lib.Content) :
    EnsuresE (Serves Passes) (fun r _ => r = .ok ()) (save certPEM keyPEM) w := by
  refine ensures_answer fun x v now hanswer _ => ?_
  cases hanswer
  refine ensures_answer fun x v now hanswer _ => ?_
  cases hanswer
  rfl

theorem ensures_storedServerCert (caCertPEM : lib.Content) :
    EnsuresE (Serves Passes) (fun r _ => ∃ stored, r = .ok stored)
      (storedServerCert caCertPEM) w := by
  have hload : EnsuresE (Serves Passes) (fun _ _ => True) (load : Ensuring lib _) w :=
    ensures_of_served fun _ _ _ => trivial
  refine hload.attempt_bind fun loaded t _ => ?_
  cases loaded with
  | error err => exact ⟨none, rfl⟩
  | ok pair =>
    dsimp only
    split
    · exact ⟨none, rfl⟩
    · refine (ensures_checkServerCert tellsTime_serves pair.1 caCertPEM).bind ?_ ?_
      · rintro valid t -
        cases valid <;> exact ⟨_, rfl⟩
      · rintro e t ⟨-, _, ⟨⟩, -⟩

/-- A certificate that is not kept is replaced, whatever is in the directory. -/
theorem ensures_provideServerCert (hlib : lib.Capable config)
    (hsigns : Signs lib caCertPEM caKeyPEM) (hsigner : SignerOf config caKeyPEM) :
    EnsuresE (Serves Passing) (fun r _ => ∃ pair, r = .ok pair)
      (provideServerCert config.rsaKeySize (serverCertConfig config caCertPEM caKeyPEM)) w := by
  refine (ensures_storedServerCert caCertPEM).bind ?_ (by rintro e t ⟨_, ⟨⟩⟩)
  rintro stored t -
  cases stored with
  | some pair => exact ⟨pair, rfl⟩
  | none =>
    refine (ensures_generateServerCert hlib hsigns hsigner).mapErr_bind ?_ (by rintro e t ⟨_, ⟨⟩⟩)
    intro pair t _
    exact (ensures_save pair.1 pair.2).mapErr_bind (fun _ _ _ => ⟨pair, rfl⟩) (by rintro e t ⟨⟩)

theorem ensures_updateWebhookConfig (kind : WebhookKind) (failure : String)
    (caBundle : lib.Content) :
    EnsuresE (Serves Passes) (fun r _ => r = .ok ()) (updateWebhookConfig kind failure caBundle)
      w := by
  refine ensures_answer fun x v now hanswer _ => ?_
  cases hanswer
  refine ensures_answer fun x v now hanswer _ => ?_
  cases hanswer
  rfl

theorem ensures_updatePipelineCRD (crd : PipelineCRD) (conversion : Conversion lib) :
    EnsuresE (Serves Passes) (fun r _ => r = .ok ())
      (updatePipelineCRDWithConversionWebhookConfig crd conversion) w := by
  refine ensures_answer fun x v now hanswer _ => ?_
  cases hanswer
  refine ensures_answer fun x v now hanswer _ => ?_
  cases hanswer
  rfl

theorem ensures_applyWebhookConfigResources (caBundle : lib.Content) (config : Config) :
    EnsuresE (Serves Passes) (fun r _ => r = .ok ())
      (applyWebhookConfigResources caBundle config) w := by
  refine (ensures_updateWebhookConfig _ _ caBundle).mapErr_bind ?_ (by rintro e t ⟨⟩)
  intro _ t _
  refine (ensures_updateWebhookConfig _ _ caBundle).mapErr_bind ?_ (by rintro e t ⟨⟩)
  intro _ u _
  refine (ensures_updatePipelineCRD _ _).mapErr_bind ?_ (by rintro e t ⟨⟩)
  intro _ v _
  refine ensuresE_mapErr.mpr ((ensures_updatePipelineCRD _ _).mono ?_)
  rintro _ x rfl
  rfl

end Server

section Healing

variable [DecidableEq (CASecret lib)] {w : World lib} {config : Config}

/-- Whatever time a call takes, it succeeds and leaves a CA that can sign. -/
def Heals (config : Config) (w : World lib) : Prop :=
  ∀ r t, ServedE (Serves Passing) (ensureCertificate config) w r t → r = .ok () ∧
    ∃ caCertPEM caKeyPEM, t.caSecret = some ⟨some caCertPEM, some caKeyPEM⟩ ∧
      Signs lib caCertPEM caKeyPEM

theorem heals_of_accepted_signs (hlib : lib.Capable config)
    (h : ∀ caCertPEM caKeyPEM, w.caSecret = some ⟨some caCertPEM, some caKeyPEM⟩ →
      accepts config.rsaKeySize w.now ⟨some caCertPEM, some caKeyPEM⟩ →
        Signs lib caCertPEM caKeyPEM) : Heals config w := by
  have hcall : EnsuresE (Serves Passing) (fun r t => r = .ok () ∧
      ∃ caCertPEM caKeyPEM, t.caSecret = some ⟨some caCertPEM, some caKeyPEM⟩ ∧
        Signs lib caCertPEM caKeyPEM) (ensureCertificate config) w := by
    refine (ensures_provideCACert hlib).mapErr_bind ?_ (by rintro e t ⟨_, _, ⟨⟩, -⟩)
    rintro ⟨caCertPEM, caKeyPEM⟩ t ⟨_, _, ⟨⟩, hsecret, hsigner, hCA⟩
    have hsigns : Signs lib caCertPEM caKeyPEM := by
      rcases hCA with hsigns | ⟨hstored, haccepts⟩
      · exact hsigns
      · exact h _ _ hstored haccepts
    refine ((ensures_provideServerCert hlib hsigns hsigner).and (ensures_caSecret_serves
      ((provideServerCert_asks _).mono fun _ h => h.1))).mapErr_bind ?_
      (by rintro e t ⟨⟨_, ⟨⟩⟩, -⟩)
    rintro _ u ⟨-, hserver⟩
    refine ((ensures_applyWebhookConfigResources caCertPEM config).and (ensures_caSecret_serves
      ((applyWebhookConfigResources_asks caCertPEM config).mono fun _ h => h.secret))).mono ?_
    rintro r v ⟨rfl, happly⟩
    exact ⟨rfl, caCertPEM, caKeyPEM, happly.trans (hserver.trans hsecret), hsigns⟩
  exact fun r t hserved => hcall.served hserved

/-- A CA that passes the checks is kept, also if it cannot sign. -/
theorem ensures_accepted_kept {secret : CASecret lib} (hsecret : w.caSecret = some secret)
    (haccepts : accepts config.rsaKeySize w.now secret) :
    EnsuresE (Serves Eq) (fun _ t => t.caSecret = w.caSecret) (ensureCertificate config) w := by
  have hprovide : EnsuresE (Serves Eq) (fun _ t => t.caSecret = w.caSecret)
      (provideCACert config.rsaKeySize) w := by
    refine ensures_storedCACert.bind ?_ ?_
    · rintro stored t ⟨now, rfl, hkept, ⟨⟩⟩
      obtain ⟨certPEM, keyPEM, _, _, rfl, -⟩ := accepts_iff.mp haccepts
      rw [hsecret, Option.filter_some, if_pos haccepts]
      exact hkept.trans hsecret
    · rintro e t ⟨now, -, -, ⟨⟩⟩
  refine hprovide.mapErr_bind (fun pair t hkept => ?_) fun _ _ => id
  refine (ensures_caSecret_serves ((provideServerCert_asks _).mono fun _ h => h.1)).mapErr_bind ?_
    fun _ _ hserver => hserver.trans hkept
  intro _ u hserver
  refine (ensures_caSecret_serves
    ((applyWebhookConfigResources_asks pair.1 config).mono fun _ h => h.secret)).mono ?_
  exact fun r v happly => happly.trans (hserver.trans hkept)

/-- The checks of the stored CA would have to leave out every pair that cannot sign. -/
theorem heals_iff (config : Config) (hlib : lib.Capable config) (w : World lib)
    (hnow : Passing w.now w.now) :
    Heals config w ↔ ∀ caCertPEM caKeyPEM, w.caSecret = some ⟨some caCertPEM, some caKeyPEM⟩ →
      accepts config.rsaKeySize w.now ⟨some caCertPEM, some caKeyPEM⟩ →
        Signs lib caCertPEM caKeyPEM := by
  refine ⟨fun hheals caCertPEM caKeyPEM hstored haccepts => ?_, heals_of_accepted_signs hlib⟩
  obtain ⟨key, hkey⟩ := hlib.exists_key
  -- a call during which the clock stands still
  have hserved : ServedE (Serves fun i j => i = j ∧ Passing i j) (ensureCertificate config) w _ _ :=
    served_runWith_of_asks (answerWith fun _ => key) (I := fun s => s.now = w.now)
      (ensureCertificate_asks config) rfl fun s r hs hr => by
        refine ⟨.answer (answers_answerWith s r ?_) ⟨rfl, ?_⟩, ?_⟩
        · rintro bits rfl
          exact hkey.trans hr.symm
        · rwa [now_answerWith, hs]
        · rw [now_answerWith, hs]
  have hkept := (ensures_accepted_kept hstored haccepts).served
    (hserved.mono fun _ _ _ _ h => h.mono fun _ _ hpasses => hpasses.1)
  obtain ⟨-, _, _, hsecret, hsigns⟩ :=
    hheals _ _ (hserved.mono fun _ _ _ _ h => h.mono fun _ _ hpasses => hpasses.2)
  cases hsecret.symm.trans (hkept.trans hstored)
  exact hsigns

/-- Half a Secret, with an entry that is not a certificate. -/
theorem heals_garbage : Heals ⟨4096, "telemetry-webhook", "kyma-system"⟩
    (⟨day, fun _ => some .garbage, some ⟨some .garbage, none⟩, fun _ => [.empty], fun _ => none⟩ :
      World simpleCrypto) :=
  (heals_iff _ (simpleCrypto_capable _) _ ⟨by decide, by decide, by decide⟩).mpr
    (by rintro _ _ ⟨⟩)

/-- The CA certificate of one key next to another key, as after an update of one of the entries.
Both checks are passed, and no server certificate can be signed. -/
theorem mixed_ca_blocks :
    ∃ t, ServedE (Serves Passing) (ensureCertificate ⟨4096, "telemetry-webhook", "kyma-system"⟩)
      (⟨day, fun _ => none, some ⟨some (.cert ⟨0, caCertMaxAge, ⟨1, 4096⟩, ⟨1, 4096⟩, true⟩),
        some (.key ⟨2, 4096⟩)⟩, fun _ => [.empty], fun _ => none⟩ : World simpleCrypto)
      (.error (wrap "failed to provide server cert/key: " (wrap "failed to generate cert: "
        (wrap "failed to create x509 cert: "
          (.new "x509: provided PrivateKey doesn't match parent's PublicKey"))))) t :=
  ⟨_, served_runWith_of_asks (answerWith (newSimpleKey 3)) (I := fun s => s.now = day)
    (R := fun _ => True) (fun _ _ _ _ _ => trivial) rfl fun s r hs _ => by
      refine ⟨.answer (answers_answerWith s r fun _ _ => rfl) ?_, ?_⟩ <;> rw [now_answerWith, hs]
      exact ⟨by decide, by decide, by decide⟩⟩

end Healing

end TelemetryManager.WebhookCert

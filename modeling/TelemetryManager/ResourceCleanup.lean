import TelemetryManager.ManagedResources

/-! What a deletion leaves behind. After any number of successful applies with any options, a
deletion without errors should leave none of the objects that the applies created. -/
namespace TelemetryManager.Resources

open Interaction ObjectStore

variable {Body : Type}

abbrev Cluster (Body : Type) := Store ObjectRef (Object Body)

/-- The API server stores the labels that it is sent. -/
def Stores (sent stored : Object Body) : Prop := stored.labels = sent.labels

abbrev ServesApi : Cluster Body → (r : Req ObjectRef (Object Body)) →
    Resp ObjectRef (Object Body) ApiError r → Cluster Body → Prop :=
  Serves Stores ApiError.notFound

def HasName (name : String) (o : Object Body) : Prop := o.labels.lookup labelKeyK8sName = some name

def deletedRefs (ds : List Deletion) : List ObjectRef :=
  ds.filterMap fun
    | .object _ r => some r
    | .byLabel _ _ _ _ => none

theorem mem_deletedRefs_iff {ds : List Deletion} {r : ObjectRef} :
    r ∈ deletedRefs ds ↔ ∃ text, .object text r ∈ ds := by
  simp only [deletedRefs, List.mem_filterMap]
  constructor
  · rintro ⟨_ | _, hd, ⟨⟩⟩
    exact ⟨_, hd⟩
  · rintro ⟨text, hd⟩
    exact ⟨_, hd, rfl⟩

def deletedLabels (ds : List Deletion) : List (Kind × String × String) :=
  ds.filterMap fun
    | .object _ _ => none
    | .byLabel _ kind label value => some (kind, label, value)

theorem mem_deletedLabels_iff {ds : List Deletion} {kind : Kind} {label value : String} :
    (kind, label, value) ∈ deletedLabels ds ↔ ∃ text, .byLabel text kind label value ∈ ds := by
  simp only [deletedLabels, List.mem_filterMap]
  constructor
  · rintro ⟨_ | _, hd, ⟨⟩⟩
    exact ⟨_, hd⟩
  · rintro ⟨text, hd⟩
    exact ⟨_, hd, rfl⟩

section Apply

/-- What applies ask for: objects under some keys, with the name as label. No Secret is deleted. -/
def Applies (K : ObjectRef → Prop) (name : String) : Req ObjectRef (Object Body) → Prop
  | .create r o => K r ∧ HasName name o
  | .update _ o => HasName name o
  | .delete r => r.kind ≠ .secret
  | _ => True

variable {K : ObjectRef → Prop} {label : String} {req : Req ObjectRef (Object Body)}

theorem applies_spares {r : ObjectRef} (hr : r.kind = .secret) (h : Applies K label req) :
    Spares r req := by
  cases req with
  | delete r' =>
    rintro rfl
    exact h hr
  | _ => trivial

theorem applies_permits (h : Applies K label req) : Permits K (HasName label) req := by
  cases req with
  | create | update => exact h
  | _ => trivial

variable {R : Req ObjectRef (Object Body) → Prop}

theorem orFail_asks {α : Type} (x : Except ApiError α) :
    Asks R (orFail x : Managing Body α) := by
  cases x with
  | error err => exact .throw _
  | ok a => exact .pure a

theorem deleteObject_asks {r : ObjectRef} (h : R (.delete r)) : Asks R (deleteObject r) := by
  refine .bind (.request h) fun x => ?_
  cases x with
  | error err => exact .ite (.pure _) (.throw _)
  | ok u => exact .pure _

theorem onlyIf_asks {condition : Bool} {x : Managing Body Unit} (h : condition → Asks R x) :
    Asks R (onlyIf condition x) := by
  unfold onlyIf
  split
  · rename_i hcondition
    exact h hcondition
  · exact .pure _

section Client

variable {c : Client Body} (hc : c.labels.lookup labelKeyK8sName = some label)

include hc

theorem hasName_write (labels : Labels) (body : Body) : HasName label (c.write labels body) := by
  have hmem : labelKeyK8sName ∈ c.labels := by
    rw [← Finmap.lookup_isSome, hc]
    rfl
  exact (Finmap.lookup_union_left hmem).trans hc

variable [DecidableEq Body]

theorem createOrUpdate_asks {comparesFirst : Bool} {desired : Desired Body} (hK : K desired.ref) :
    Asks (Applies K label) (createOrUpdate comparesFirst c desired) := by
  refine .bind (.request trivial) fun x => ?_
  cases x with
  | error err =>
    dsimp only
    split
    · exact .bind (.request ⟨hK, hasName_write hc _ _⟩) fun _ => orFail_asks _
    · exact .throw _
  | ok existing =>
    dsimp only
    split
    · exact .pure _
    · exact .bind (.request (hasName_write hc _ _)) fun _ => orFail_asks _

theorem applyCommonResources_asks {name : ObjectKey}
    (hK : ∀ r ∈ deletedRefs (deleteCommonResources name), K r) (rbac : RBAC)
    (body : ObjectRef → Body) :
    Asks (Applies K label) (applyCommonResources c name rbac body) := by
  have happly : ∀ comparesFirst desired, desired.ref ∈ deletedRefs (deleteCommonResources name) →
      Asks (Applies K label) (createOrUpdate comparesFirst c desired) :=
    fun _ desired hdesired => createOrUpdate_asks hc (hK _ hdesired)
  refine .bind (.mapErr (happly _ _ ?_)) fun _ =>
    .bind (onlyIf_asks fun _ => .mapErr (happly _ _ ?_)) fun _ =>
    .bind (onlyIf_asks fun _ => .mapErr (happly _ _ ?_)) fun _ =>
    .bind (onlyIf_asks fun _ => .mapErr (happly _ _ ?_)) fun _ =>
    .bind (onlyIf_asks fun _ => .mapErr (happly _ _ ?_)) fun _ =>
    .bind (.mapErr (happly _ _ ?_)) fun _ =>
    .mapErr (deleteObject_asks (by simp [Applies, ref]))
  all_goals simp [deletedRefs, deleteCommonResources, make]

theorem applyVPA_asks {name : ObjectKey} {vpaCRDExists vpaEnabled : Bool}
    (hK : vpaCRDExists → vpaEnabled → K (ref .verticalPodAutoscaler name))
    (body : ObjectRef → Body) :
    Asks (Applies K label) (applyVPA c name vpaCRDExists vpaEnabled body) := by
  refine onlyIf_asks fun hexists => ?_
  split
  · rename_i henabled
    exact .mapErr (createOrUpdate_asks hc (hK hexists henabled))
  · exact .mapErr (deleteObject_asks (by simp [Applies, ref]))

theorem networkPolicyPair_asks (hK : ∀ r, r.kind = .networkPolicy → K r) (text : String)
    (body : ObjectRef → Body) (name : ObjectKey) :
    Asks (Applies K label) ((networkPolicyPair body name).forM fun np =>
      withText text (createOrUpdateNetworkPolicy c np)) := by
  refine .forM fun np hnp => .mapErr (createOrUpdate_asks hc (hK _ ?_))
  simp only [networkPolicyPair, List.mem_cons, List.not_mem_nil, or_false] at hnp
  rcases hnp with rfl | rfl <;> rfl

end Client

variable [DecidableEq Body] {c : Client Body}

theorem ensures_createOrUpdate {comparesFirst : Bool} {desired : Desired Body} {w : Cluster Body} :
    EnsuresE ServesApi (fun r t => r = .ok () → t.get desired.ref ≠ none)
      (createOrUpdate comparesFirst c desired) w := by
  refine ensuresE_request_bind fun x s hserve => ?_
  cases x with
  | error err =>
    dsimp only
    split
    · refine ensuresE_request_bind fun y t hcreate => ?_
      cases y with
      | error err => exact fun h => by cases h
      | ok u =>
        cases hcreate
        exact fun _ => by simp
    · exact fun h => by cases h
  | ok existing =>
    cases hserve with
    | get hget =>
      dsimp only
      split
      · exact fun _ => by simp [hget]
      · refine ensuresE_request_bind fun y t hupdate => ?_
        cases y with
        | error err => exact fun h => by cases h
        | ok u =>
          cases hupdate
          exact fun _ => by simp

end Apply

section Delete

variable {w : Cluster Body}

theorem ensures_deleteObject (r : ObjectRef) :
    EnsuresE ServesApi (fun x t => x = .ok () → t.get r = none) (deleteObject r) w := by
  refine ensuresE_request_bind fun x t hserve => ?_
  cases x with
  | ok u => exact fun _ => get_of_delete hserve (by rintro _ ⟨⟩)
  | error err =>
    dsimp only
    split
    · rename_i hnotFound
      cases err with
      | notFound => exact fun _ => get_of_delete hserve (by rintro _ ⟨⟩; rfl)
      | _ => cases hnotFound
    · rintro ⟨⟩

variable {refs : List ObjectRef}

theorem deleteItems_asks {R : Req ObjectRef (Object Body) → Prop}
    (h : ∀ r ∈ refs, R (.delete r)) : Asks R (deleteItems refs) := by
  induction refs with
  | nil => exact .pure _
  | cons r rest ih =>
    refine .bind (.request (h r List.mem_cons_self)) fun x => ?_
    cases x with
    | ok u => exact ih fun r hr => h r (List.mem_cons_of_mem _ hr)
    | error err => exact .ite (.pure _) (.throw _)

theorem ensures_within {α : Type} {x : Managing Body α} (h : Asks Shrinks x) :
    EnsuresE ServesApi (fun _ t => Within t w) x w :=
  .of_asks h (.refl w) fun _ _ _ _ hr hserve hwithin => (within_of_served hr hserve).trans hwithin

variable {r : ObjectRef}

theorem get_of_within {s t : Cluster Body} (h : Within t s) (hs : s.get r = none) :
    t.get r = none := by
  cases ht : t.get r with
  | none => rfl
  | some o => cases hs.symm.trans (h.2 r o ht)

theorem ensures_deleteItems (hnodup : refs.Nodup) (hthere : ∀ r ∈ refs, w.get r ≠ none) :
    EnsuresE ServesApi (fun x t => x = .ok () → ∀ r ∈ refs, t.get r = none)
      (deleteItems refs) w := by
  induction refs generalizing w with
  | nil => exact fun _ _ => by simp
  | cons r rest ih =>
    obtain ⟨hr, hrest⟩ := List.nodup_cons.mp hnodup
    refine ensuresE_request_bind fun x t hserve => ?_
    cases hserve with
    | delete =>
      have hstill : ∀ r' ∈ rest, (w.remove r).get r' ≠ none := by
        intro r' hr'
        rw [Store.get_remove_of_ne (ne_of_mem_of_not_mem hr' hr)]
        exact hthere r' (List.mem_cons_of_mem _ hr')
      have hshrinks : Asks Shrinks (deleteItems rest : Managing Body Unit) :=
        deleteItems_asks fun _ _ => trivial
      refine ((ih hrest hstill).and (ensures_within hshrinks)).mono ?_
      rintro y u ⟨hgone, hwithin⟩ hy r' hr'
      rcases List.mem_cons.mp hr' with rfl | hr'
      · exact get_of_within hwithin Store.get_remove_self
      · exact hgone hy r' hr'
    | deleteMissing hmissing => exact absurd hmissing (hthere r List.mem_cons_self)
    | deleteFails herr =>
      rename_i err _
      dsimp only
      split
      · rename_i hnotFound
        cases err with
        | notFound => exact absurd rfl herr
        | _ => cases hnotFound
      · rintro ⟨⟩

def NoneLabelled (kind : Kind) (label value : String) (t : Cluster Body) : Prop :=
  ∀ r o, r.kind = kind → t.get r = some o → o.labels.lookup label ≠ some value

theorem mem_listed_iff {kind : Kind} {label value : String}
    (hperm : refs.Perm (w.list fun r o => r.kind = kind && o.labels.lookup label = some value)) :
    r ∈ refs ↔ ∃ o, w.get r = some o ∧ r.kind = kind ∧ o.labels.lookup label = some value := by
  rw [hperm.mem_iff, Store.mem_list_iff]
  simp

theorem ensures_deleteObjectsByLabelSelector (kind : Kind) (label value : String) :
    EnsuresE ServesApi (fun x t => x = .ok () → NoneLabelled kind label value t)
      (deleteObjectsByLabelSelector kind label value) w := by
  refine ensuresE_request_bind fun x t hserve => ?_
  cases hserve with
  | listFails herr =>
    rename_i err
    dsimp only
    split
    · rename_i hnotFound
      cases err with
      | notFound => exact absurd rfl herr
      | _ => cases hnotFound
    · rintro ⟨⟩
  | list hperm =>
    rename_i refs
    have hthere : ∀ r ∈ refs, w.get r ≠ none := by
      intro r hr
      obtain ⟨o, ho, -⟩ := (mem_listed_iff hperm).mp hr
      simp [ho]
    have hshrinks : Asks Shrinks (deleteItems refs : Managing Body Unit) :=
      deleteItems_asks fun _ _ => trivial
    have hnodup := hperm.nodup_iff.mpr (Store.nodup_list _)
    refine ((ensures_deleteItems hnodup hthere).and (ensures_within hshrinks)).mono ?_
    rintro x t ⟨hgone, hwithin⟩ hx r o hkind ho hlabel
    have hlisted := (mem_listed_iff hperm).mpr ⟨o, hwithin.2 r o ho, hkind, hlabel⟩
    cases (hgone hx r hlisted).symm.trans ho

/-- A deletion by label leaves the other kinds alone. -/
theorem ensures_deleteObjectsByLabelSelector_spares {kind : Kind} (hr : r.kind ≠ kind)
    (label value : String) (hw : w.get r ≠ none) :
    EnsuresE ServesApi (fun _ t => t.get r ≠ none)
      (deleteObjectsByLabelSelector kind label value) w := by
  refine ensuresE_request_bind fun x t hserve => ?_
  cases hserve with
  | listFails herr =>
    dsimp only
    split <;> exact hw
  | list hperm =>
    rename_i refs
    have hspares : Asks (Spares r) (deleteItems refs : Managing Body Unit) := by
      refine deleteItems_asks fun r' hr' => ?_
      rintro rfl
      obtain ⟨o, -, hkind, -⟩ := (mem_listed_iff hperm).mp hr'
      exact hr hkind
    exact .of_asks hspares hw fun _ _ _ _ => present_of_served

theorem noneLabelled_of_within {s t : Cluster Body} {kind : Kind} {label value : String}
    (h : Within t s) (hs : NoneLabelled kind label value s) : NoneLabelled kind label value t :=
  fun r o hkind ho => hs r o hkind (h.2 r o ho)

theorem ensures_withText {P : Cluster Body → Prop} {x : Managing Body Unit} {text : String}
    (h : EnsuresE ServesApi (fun r t => r = .ok () → P t) x w) :
    EnsuresE ServesApi (fun r t => r = .ok () → P t) (withText text x) w := by
  refine ensuresE_mapErr.mpr (h.mono fun r t ht hr => ht ?_)
  cases r with
  | error e => cases hr
  | ok u => rfl

theorem Deletion.run_asks (d : Deletion) : Asks Shrinks (d.run : Managing Body Unit) := by
  cases d with
  | object text r => exact .mapErr (deleteObject_asks trivial)
  | byLabel text kind label value =>
    refine .mapErr (.bind (.request trivial) fun x => ?_)
    cases x with
    | ok refs => exact deleteItems_asks fun _ _ => trivial
    | error err => exact .ite (.pure _) (.throw _)

theorem runAll_asks (ds : List Deletion) :
    Asks Shrinks (runAll ds : Managing Body (List GoError)) := by
  induction ds with
  | nil => exact .pure _
  | cons d rest ih =>
    refine .bind (.attempt d.run_asks) fun result => .bind ih fun allErrors => ?_
    cases result <;> exact .pure _

/-- What one step brings about, and no step undoes, holds after all steps without errors. -/
theorem ensures_runAll {P : Cluster Body → Prop} (hstable : ∀ s t, Within t s → P s → P t)
    {d : Deletion} {ds : List Deletion} (hd : d ∈ ds)
    (hrun : ∀ w, EnsuresE ServesApi (fun x t => x = .ok () → P t) d.run w) :
    EnsuresE ServesApi (fun x t => x = .ok [] → P t) (runAll ds) w := by
  induction ds generalizing w with
  | nil => cases hd
  | cons e rest ih =>
    -- an error of the first step stays in the result
    have hnext : ∀ {Q : Except GoError Unit → Cluster Body → Prop}, EnsuresE ServesApi Q e.run w →
        (∀ result t, Q result t → EnsuresE ServesApi
          (fun x u => x = .ok [] → result = .ok () → P u) (runAll rest) t) →
        EnsuresE ServesApi (fun x u => x = .ok [] → P u) (runAll (e :: rest)) w := by
      intro Q hfirst hrest
      refine hfirst.attempt_bind fun result t hresult => ?_
      refine (hrest result t hresult).bind (fun allErrors u hu => ?_) (by rintro e u - ⟨⟩)
      cases result with
      | ok _ => exact fun hx => hu hx rfl
      | error err => rintro ⟨⟩
    rcases List.mem_cons.mp hd with rfl | hd
    · refine hnext (hrun w) fun result t hresult => ?_
      refine (ensures_within (runAll_asks rest)).mono fun x u hwithin _ hok => ?_
      exact hstable t u hwithin (hresult hok)
    · have hany : EnsuresE ServesApi (fun _ _ => True) e.run w :=
        ensures_of_served fun _ _ _ => trivial
      refine hnext hany fun result t _ => ?_
      exact (ih hd).mono fun x u hu hx _ => hu hx

/-- The object of no step is deleted, if the steps by label are for another kind. -/
theorem ensures_runAll_spares {ds : List Deletion} (hw : w.get r ≠ none)
    (hobject : ∀ text, .object text r ∉ ds)
    (hlabel : ∀ text kind label value, .byLabel text kind label value ∈ ds → r.kind ≠ kind) :
    EnsuresE ServesApi (fun _ t => t.get r ≠ none) (runAll ds) w := by
  induction ds generalizing w with
  | nil => exact hw
  | cons d rest ih =>
    have hstep : EnsuresE ServesApi (fun _ t => t.get r ≠ none) d.run w := by
      cases d with
      | object text r' =>
        refine .of_asks (.mapErr (deleteObject_asks ?_)) hw fun _ _ _ _ => present_of_served
        rintro rfl
        exact hobject text List.mem_cons_self
      | byLabel text kind label value =>
        refine ensuresE_mapErr.mpr (ensures_deleteObjectsByLabelSelector_spares ?_ label value hw)
        exact hlabel _ _ _ _ List.mem_cons_self
    refine hstep.attempt_bind fun result t ht => ?_
    have hrest := ih ht (fun text hmem => hobject text (List.mem_cons_of_mem _ hmem))
      fun text kind label value hmem => hlabel text kind label value (List.mem_cons_of_mem _ hmem)
    refine hrest.bind (fun allErrors u hu => ?_) fun _ _ => id
    cases result <;> exact hu

end Delete

theorem lookup_defaultLabels (componentBaseName componentType : String) :
    (defaultLabels componentBaseName componentType).lookup labelKeyK8sName =
      some componentBaseName :=
  Finmap.lookup_insert _

theorem lookup_defaultFluentBitLabels :
    defaultFluentBitLabels.lookup labelKeyK8sName = some "fluent-bit" :=
  (Finmap.lookup_union_left (Finmap.mem_insert.mpr (.inl rfl))).trans (lookup_defaultLabels _ _)

structure Covers (ds : List Deletion) (K : ObjectRef → Prop) : Prop where
  object : ∀ r ∈ deletedRefs ds, K r
  networkPolicy : ∀ r, r.kind = .networkPolicy → K r

section Apply

variable [DecidableEq Body] {K : ObjectRef → Prop} {env : Env Body}
    {isIstioActive vpaCRDExists : Bool}

theorem agent_asks (aad : AgentApplierDeleter) (hK : Covers (aad.deletions env vpaCRDExists) K)
    {opts : AgentApplyOptions} (hvpa : (opts.vpaCRDExists && opts.vpaEnabled) → vpaCRDExists)
    (hsecret : opts.collectorEnvVars.isSome →
      K (ref .secret ⟨env.targetNamespace, aad.baseName⟩)) :
    Asks (Applies K aad.baseName) (aad.applyResources env opts) := by
  have hc := lookup_defaultLabels aad.baseName "agent"
  refine .bind (.mapErr (applyCommonResources_asks hc ?_ _ _)) fun _ => ?_
  · intro r hr
    refine hK.object r ?_
    rw [AgentApplierDeleter.deletions, deletedRefs, List.filterMap_append, List.filterMap_append]
    exact List.mem_append_left _ (List.mem_append_left _ hr)
  refine .bind (onlyIf_asks fun henv => .mapErr (createOrUpdate_asks hc (hsecret henv))) fun _ => ?_
  refine .bind (.mapErr (createOrUpdate_asks hc (hK.object _ ?_))) fun _ => ?_
  · simp [deletedRefs, AgentApplierDeleter.deletions, make]
  refine .bind (networkPolicyPair_asks hc hK.networkPolicy _ _ _) fun _ => ?_
  refine .bind (.mapErr (createOrUpdate_asks hc (hK.object _ ?_))) fun _ => ?_
  · simp [deletedRefs, AgentApplierDeleter.deletions, make]
  refine applyVPA_asks hc (fun hexists henabled => hK.object _ ?_) _
  have hcrd := hvpa (by simp [hexists, henabled])
  simp [deletedRefs, AgentApplierDeleter.deletions, deleteVPA, hcrd]

theorem ensures_agentSecret (aad : AgentApplierDeleter) {opts : AgentApplyOptions}
    {w : Cluster Body} (henv : opts.collectorEnvVars.isSome) :
    EnsuresE ServesApi
      (fun r t => r = .ok () → t.get (ref .secret ⟨env.targetNamespace, aad.baseName⟩) ≠ none)
      (aad.applyResources env opts) w := by
  have hc := lookup_defaultLabels aad.baseName "agent"
  have hcommon : EnsuresE ServesApi (fun _ _ => True) (applyCommonResources
      (newLabeler env (defaultLabels aad.baseName "agent")) ⟨env.targetNamespace, aad.baseName⟩
      aad.rbac (env.agentBody opts)) w := ensures_of_served fun _ _ _ => trivial
  refine hcommon.mapErr_bind (fun _ s _ => ?_) (by rintro e t - ⟨⟩)
  rw [onlyIf, if_pos henv]
  refine ensures_createOrUpdate.mapErr_bind (fun _ t ht => ?_) (by rintro e t - ⟨⟩)
  -- nothing that follows deletes a Secret
  refine (EnsuresE.of_asks (R := Applies (fun _ => True) aad.baseName)
    (I := fun u : Cluster Body => u.get (ref .secret ⟨env.targetNamespace, aad.baseName⟩) ≠ none) ?_
    (ht rfl) fun _ _ _ _ hr => present_of_served (applies_spares rfl hr)).mono
    fun _ _ hpresent _ => hpresent
  refine .bind (.mapErr (createOrUpdate_asks hc trivial)) fun _ => ?_
  refine .bind (networkPolicyPair_asks hc (fun _ _ => trivial) _ _ _) fun _ => ?_
  exact .bind (.mapErr (createOrUpdate_asks hc trivial)) fun _ =>
    applyVPA_asks hc (fun _ _ => trivial) _

theorem gateway_asks (hK : Covers (OTLPGateway.deletions env isIstioActive vpaCRDExists) K)
    {opts : GatewayApplyOptions} (histio : opts.istioEnabled → isIstioActive)
    (hvpa : (opts.vpaCRDExists && opts.vpaEnabled) → vpaCRDExists) :
    Asks (Applies K otlpGateway) (OTLPGateway.applyResources env opts) := by
  have hc := lookup_defaultLabels otlpGateway "gateway"
  have happly : ∀ comparesFirst desired,
      desired.ref ∈ deletedRefs (OTLPGateway.deletions env isIstioActive vpaCRDExists) →
      Asks (Applies K otlpGateway) (createOrUpdate comparesFirst
        (newLabeler env (defaultLabels otlpGateway "gateway")) desired) :=
    fun _ desired hdesired => createOrUpdate_asks hc (hK.object _ hdesired)
  refine .bind (.mapErr (applyCommonResources_asks hc ?_ _ _)) fun _ => ?_
  · intro r hr
    refine hK.object r ?_
    simp only [OTLPGateway.deletions, deletedRefs, List.filterMap_append, List.append_assoc]
    exact List.mem_append_left _ hr
  refine .bind (.mapErr (happly _ _ ?_)) fun _ => .bind (.mapErr (happly _ _ ?_)) fun _ => ?_
  · simp [deletedRefs, OTLPGateway.deletions, make]
  · simp [deletedRefs, OTLPGateway.deletions, make]
  refine .bind (networkPolicyPair_asks hc hK.networkPolicy _ _ _) fun _ => ?_
  refine .bind (.mapErr (happly _ _ ?_)) fun _ => ?_
  · simp [deletedRefs, OTLPGateway.deletions, make]
  refine .bind (applyVPA_asks hc (fun hexists henabled => hK.object _ ?_) _) fun _ => ?_
  · have hcrd := hvpa (by simp [hexists, henabled])
    simp [deletedRefs, OTLPGateway.deletions, deleteVPA, hcrd]
  -- the services
  refine .bind (.mapErr (happly _ _ ?_)) fun _ => .bind (.mapErr (happly _ _ ?_)) fun _ =>
    .bind (.mapErr (happly _ _ ?_)) fun _ => .bind (.mapErr (happly _ _ ?_)) fun _ => ?_
  rotate_right
  -- the objects of Istio
  · refine onlyIf_asks fun henabled => .bind (.forM fun svcName hsvc => ?_) fun _ => ?_
    · refine .mapErr (happly _ _
        (mem_deletedRefs_iff.mpr ⟨"failed to delete destinationrule: ", ?_⟩))
      rw [OTLPGateway.deletions, if_pos (histio henabled)]
      exact List.mem_append_right _ (List.mem_append_left _ (List.mem_map_of_mem hsvc))
    · refine .mapErr (happly _ _ ?_)
      simp [deletedRefs, OTLPGateway.deletions, make, histio henabled]
  all_goals simp [deletedRefs, OTLPGateway.deletions, make]

theorem fluentBit_asks (hK : Covers (FluentBit.deletions env) K) (opts : FluentBitApplyOptions) :
    Asks (Applies K "fluent-bit") (FluentBit.applyResources env opts) := by
  have happly : ∀ comparesFirst desired, desired.ref ∈ deletedRefs (FluentBit.deletions env) →
      Asks (Applies K "fluent-bit") (createOrUpdate comparesFirst
        (newLabeler env defaultFluentBitLabels) desired) :=
    fun _ desired hdesired =>
      createOrUpdate_asks lookup_defaultFluentBitLabels (hK.object _ hdesired)
  refine .bind (.mapErr (happly _ _ ?_)) fun _ => .bind (.mapErr (happly _ _ ?_)) fun _ =>
    .bind (.mapErr (happly _ _ ?_)) fun _ => .bind (.mapErr (happly _ _ ?_)) fun _ =>
    .bind (.mapErr (happly _ _ ?_)) fun _ => .bind (.mapErr (happly _ _ ?_)) fun _ =>
    .bind (.mapErr (happly _ _ ?_)) fun _ => .bind (.mapErr (happly _ _ ?_)) fun _ =>
    .bind (.mapErr (happly _ _ ?_)) fun _ => .bind (.mapErr (happly _ _ ?_)) fun _ =>
    .bind (.mapErr (happly _ _ ?_)) fun _ => .bind (happly _ _ ?_) fun _ => ?_
  rotate_right
  · refine .bind (networkPolicyPair_asks lookup_defaultFluentBitLabels hK.networkPolicy _ _ _)
      fun _ => ?_
    exact .mapErr (deleteObject_asks (by simp [Applies, ref]))
  all_goals
    simp [deletedRefs, FluentBit.deletions, make, metricsServiceName, fluentBitMetricsService]

end Apply

namespace Component

def nameLabel : Component → String
  | .otlpGateway => Resources.otlpGateway
  | .logAgent => Resources.logAgent
  | .metricAgent => Resources.metricAgent
  | .fluentBit => "fluent-bit"

def deletions (env : Env Body) (isIstioActive vpaCRDExists : Bool) : Component → List Deletion
  | .otlpGateway => OTLPGateway.deletions env isIstioActive vpaCRDExists
  | .logAgent => logAgentApplierDeleter.deletions env vpaCRDExists
  | .metricAgent => metricAgentApplierDeleter.deletions env vpaCRDExists
  | .fluentBit => FluentBit.deletions env

/-- The options ask for a Secret that no deletion is made for. -/
def leavesSecret : (component : Component) → component.Options → Bool
  | .otlpGateway, _ => false
  | .logAgent, opts => opts.collectorEnvVars.isSome
  | .metricAgent, opts => opts.collectorEnvVars.isSome
  | .fluentBit, _ => false

def envSecret (env : Env Body) : Component → ObjectRef
  | .otlpGateway => ref .secret ⟨env.targetNamespace, Resources.otlpGateway⟩
  | .logAgent => ref .secret ⟨env.targetNamespace, Resources.logAgent⟩
  | .metricAgent => ref .secret ⟨env.targetNamespace, Resources.metricAgent⟩
  | .fluentBit => ref .secret ⟨env.targetNamespace, fluentBitEnvSecret⟩

variable {env : Env Body} {isIstioActive vpaCRDExists : Bool} {component : Component}

theorem deleteResources_eq :
    component.deleteResources env isIstioActive vpaCRDExists =
      runAll (component.deletions env isIstioActive vpaCRDExists) := by
  cases component <;> rfl

theorem kind_envSecret : (component.envSecret env).kind = .secret := by
  cases component <;> rfl

theorem deletedLabels_deletions :
    deletedLabels (component.deletions env isIstioActive vpaCRDExists) =
      [(.networkPolicy, labelKeyK8sName, component.nameLabel)] := by
  cases component <;> cases isIstioActive <;> cases vpaCRDExists <;> rfl

variable {opts : component.Options}

theorem envSecret_notMem (h : component.leavesSecret opts) :
    component.envSecret env ∉ deletedRefs (component.deletions env isIstioActive vpaCRDExists) := by
  have hagent : ∀ aad : AgentApplierDeleter, ref .secret ⟨env.targetNamespace, aad.baseName⟩ ∉
      deletedRefs (aad.deletions env vpaCRDExists) := by
    intro aad
    cases vpaCRDExists <;>
      simp [deletedRefs, AgentApplierDeleter.deletions, deleteCommonResources, deleteVPA, ref]
  cases component with
  | otlpGateway => cases h
  | logAgent => exact hagent logAgentApplierDeleter
  | metricAgent => exact hagent metricAgentApplierDeleter
  | fluentBit => cases h

variable [DecidableEq Body]

theorem applyResources_asks {K : ObjectRef → Prop}
    (hK : Covers (component.deletions env isIstioActive vpaCRDExists) K)
    (histio : component.usesIstio opts → isIstioActive)
    (hvpa : component.usesVPA opts → vpaCRDExists)
    (hsecret : component.leavesSecret opts → K (component.envSecret env)) :
    Asks (Applies K component.nameLabel) (component.applyResources env opts) := by
  cases component with
  | otlpGateway => exact gateway_asks hK histio hvpa
  | logAgent => exact agent_asks logAgentApplierDeleter hK hvpa hsecret
  | metricAgent => exact agent_asks metricAgentApplierDeleter hK hvpa hsecret
  | fluentBit => exact fluentBit_asks hK opts

theorem applyResources_asks_any (opts : component.Options) :
    Asks (Applies (fun _ => True) component.nameLabel) (component.applyResources env opts) := by
  have hK : Covers (component.deletions env true true) fun _ => True :=
    ⟨fun _ _ => trivial, fun _ _ => trivial⟩
  exact applyResources_asks hK (fun _ => rfl) (fun _ => rfl) fun _ => trivial

theorem ensures_envSecret (h : component.leavesSecret opts) {w : Cluster Body} :
    EnsuresE ServesApi (fun r t => r = .ok () → t.get (component.envSecret env) ≠ none)
      (component.applyResources env opts) w := by
  cases component with
  | otlpGateway => cases h
  | logAgent => exact ensures_agentSecret logAgentApplierDeleter h
  | metricAgent => exact ensures_agentSecret metricAgentApplierDeleter h
  | fluentBit => cases h

end Component

section Histories

variable [DecidableEq Body] {env : Env Body} {component : Component}

inductive Applied (env : Env Body) (component : Component) :
    Cluster Body → List component.Options → Cluster Body → Prop where
  | start (w : Cluster Body) : Applied env component w [] w
  | apply {w s t : Cluster Body} {before : List component.Options} {opts : component.Options}
      (hbefore : Applied env component w before s)
      (happly : ServedE ServesApi (component.applyResources env opts) s (.ok ()) t) :
      Applied env component w (opts :: before) t

theorem Applied.keeps {R : Req ObjectRef (Object Body) → Prop} {I : Cluster Body → Prop}
    {w s : Cluster Body} {done : List component.Options} (h : Applied env component w done s)
    (hasks : ∀ opts ∈ done, Asks R (component.applyResources env opts))
    (hkeep : ∀ s r x t, R r → ServesApi s r x t → I s → I t) (hw : I w) : I s := by
  induction h with
  | start => exact hw
  | apply hbefore happly ih =>
    refine Served.keeps happly (hasks _ List.mem_cons_self) (ih fun opts hopts => ?_) hkeep
    exact hasks opts (List.mem_cons_of_mem _ hopts)

variable {isIstioActive vpaCRDExists : Bool} {w s t : Cluster Body} {done : List component.Options}

structure StillReported (component : Component) (done : List component.Options)
    (isIstioActive vpaCRDExists : Bool) : Prop where
  istio : ∀ opts ∈ done, component.usesIstio opts → isIstioActive
  vpa : ∀ opts ∈ done, component.usesVPA opts → vpaCRDExists

theorem Applied.secret_notCreated (h : Applied env component w done s) (hcreated : w.created = [])
    (hw : w.get (component.envSecret env) ≠ none) : component.envSecret env ∉ s.created := by
  refine (h.keeps (I := fun s => s.get (component.envSecret env) ≠ none ∧
    component.envSecret env ∉ s.created) (fun opts _ => Component.applyResources_asks_any opts) ?_
    ⟨hw, by simp [hcreated]⟩).2
  rintro s r x t hr hserve ⟨hs, hnot⟩
  exact ⟨present_of_served (applies_spares Component.kind_envSecret hr) hserve hs,
    notCreated_of_served hserve hs hnot⟩

theorem Applied.secret_created (h : Applied env component w done s)
    (hw : w.get (component.envSecret env) = none) {opts : component.Options} (hopts : opts ∈ done)
    (hleaves : component.leavesSecret opts) :
    s.get (component.envSecret env) ≠ none ∧ component.envSecret env ∈ s.created := by
  have hrecorded : s.get (component.envSecret env) = none ∨ component.envSecret env ∈ s.created :=
    h.keeps (fun opts _ => Component.applyResources_asks_any opts)
      (fun _ _ _ _ _ => created_of_served) (.inl hw)
  have hthere : s.get (component.envSecret env) ≠ none := by
    clear hrecorded
    induction h with
    | start => cases hopts
    | apply hbefore happly ih =>
      rcases List.mem_cons.mp hopts with rfl | hopts
      · exact (Component.ensures_envSecret hleaves).served happly rfl
      · refine Served.keeps (I := fun u : Cluster Body => u.get (component.envSecret env) ≠ none)
          happly (Component.applyResources_asks_any _) (ih hopts) ?_
        exact fun _ _ _ _ hr => present_of_served (applies_spares Component.kind_envSecret hr)
  exact ⟨hthere, hrecorded.resolve_left hthere⟩

/-- What may have been created: objects that are deleted by their names, network policies, and the
Secret of an agent. -/
def Creatable (env : Env Body) (component : Component) (isIstioActive vpaCRDExists : Bool)
    (done : List component.Options) (r : ObjectRef) : Prop :=
  r ∈ deletedRefs (component.deletions env isIstioActive vpaCRDExists) ∨
    r.kind = .networkPolicy ∨
    r = component.envSecret env ∧ ∃ opts ∈ done, component.leavesSecret opts

theorem Applied.accounted (h : Applied env component w done s) (hcreated : w.created = [])
    (hreported : StillReported component done isIstioActive vpaCRDExists) :
    Accounted (Creatable env component isIstioActive vpaCRDExists done)
      (HasName component.nameLabel) s := by
  have hK : Covers (component.deletions env isIstioActive vpaCRDExists)
      (Creatable env component isIstioActive vpaCRDExists done) :=
    ⟨fun r hr => .inl hr, fun r hr => .inr (.inl hr)⟩
  refine h.keeps (fun opts hopts => Component.applyResources_asks hK (hreported.istio opts hopts)
    (hreported.vpa opts hopts) fun hleaves => .inr (.inr ⟨rfl, opts, hopts, hleaves⟩)) ?_ ?_
  · intro s r x t hr hserve haccounted
    exact Accounted.served (fun o stored hstored ho => (congrArg _ hstored).trans ho)
      (applies_permits hr) hserve haccounted
  · simp [Accounted, hcreated]

/-- A deletion without errors leaves nothing of what the applies created, except for the Secret of
an agent that an apply created for environment variables. -/
theorem nothing_left_iff (hcreated : w.created = []) (happlied : Applied env component w done s)
    (hreported : StillReported component done isIstioActive vpaCRDExists)
    (hdelete : ServedE ServesApi (component.deleteResources env isIstioActive vpaCRDExists) s
      (.ok []) t) :
    (∀ r ∈ t.created, t.get r = none) ↔ ∀ opts ∈ done, component.leavesSecret opts →
      w.get (component.envSecret env) ≠ none := by
  rw [Component.deleteResources_eq] at hdelete
  have hwithin : Within t s := (ensures_within (runAll_asks _)).served hdelete
  constructor
  · intro hgone opts hopts hleaves hw
    obtain ⟨hthere, hmem⟩ := happlied.secret_created hw hopts hleaves
    have hstill : t.get (component.envSecret env) ≠ none := by
      refine (ensures_runAll_spares hthere ?_ ?_).served hdelete
      · exact fun text hobject =>
          Component.envSecret_notMem hleaves (mem_deletedRefs_iff.mpr ⟨text, hobject⟩)
      · intro text kind label value hlabel
        have hkind := mem_deletedLabels_iff.mpr ⟨text, hlabel⟩
        rw [Component.deletedLabels_deletions, List.mem_singleton] at hkind
        cases hkind
        simp [Component.kind_envSecret]
    exact hstill (hgone _ (hwithin.1 ▸ hmem))
  · intro hsecret r hr
    obtain ⟨hK, hname⟩ := happlied.accounted hcreated hreported r (hwithin.1 ▸ hr)
    rcases hK with hdeleted | hpolicy | ⟨rfl, opts, hopts, hleaves⟩
    · obtain ⟨text, hmem⟩ := mem_deletedRefs_iff.mp hdeleted
      refine (ensures_runAll (fun _ _ => get_of_within) hmem fun w => ?_).served hdelete rfl
      exact ensures_withText (ensures_deleteObject r)
    · have hlabel : (Kind.networkPolicy, labelKeyK8sName, component.nameLabel) ∈
          deletedLabels (component.deletions env isIstioActive vpaCRDExists) := by
        simp [Component.deletedLabels_deletions]
      obtain ⟨text, hmem⟩ := mem_deletedLabels_iff.mp hlabel
      have hnone : NoneLabelled .networkPolicy labelKeyK8sName component.nameLabel t := by
        refine (ensures_runAll (fun _ _ => noneLabelled_of_within) hmem fun w =>
          ?_).served hdelete rfl
        exact ensures_withText (ensures_deleteObjectsByLabelSelector _ _ _)
      cases ht : t.get r with
      | none => rfl
      | some o => exact absurd (hname o (hwithin.2 r o ht)) (hnone r o hpolicy ht)
    · exact absurd (hwithin.1 ▸ hr)
        (happlied.secret_notCreated hcreated (hsecret opts hopts hleaves))

end Histories

/-- Of the contents only the data of Secrets and ConfigMaps is kept. -/
def exampleEnv : Env (List (String × String)) where
  targetNamespace := "kyma-system"
  additionalWorkloadLabels := ∅
  setOwner := id
  adopt := fun _ desired _ => desired
  gatewayBody := fun opts r => match r.kind with
    | .secret => opts.collectorEnvVars
    | .configMap => [("relay.conf", opts.collectorConfigYAML)]
    | _ => []
  agentBody := fun opts r => match r.kind with
    | .secret => opts.collectorEnvVars.getD []
    | .configMap => [("relay.conf", opts.collectorConfigYAML)]
    | _ => []
  fluentBitBody := fun opts r => match r.kind with
    | .secret => opts.envConfigSecret
    | .configMap => opts.sectionsConfig
    | _ => []

def passwordOptions : AgentApplyOptions where
  istioEnabled := true
  vpaCRDExists := true
  vpaEnabled := true
  vpaMaxAllowedMemory := 0
  collectorConfigYAML := "exporters:"
  collectorEnvVars := some [("BASIC_AUTH_HEADER_BACKEND", "Basic dXNlcjpwYXNz")]
  backendPorts := []

def applied (component : Component) (opts : component.Options)
    (w : Cluster (List (String × String))) :
    Except GoError Unit × Cluster (List (String × String)) :=
  runWith (Store.answer .notFound .alreadyExists) (component.applyResources exampleEnv opts).run w

def deleted (component : Component) (w : Cluster (List (String × String))) :
    Except GoError (List GoError) × Cluster (List (String × String)) :=
  runWith (Store.answer .notFound .alreadyExists)
    (component.deleteResources exampleEnv true true).run w

theorem serves_answerApi (w : Cluster (List (String × String)))
    (r : Req ObjectRef (Object (List (String × String)))) :
    ServesApi w r (w.answer ApiError.notFound .alreadyExists r).1
      (w.answer ApiError.notFound .alreadyExists r).2 :=
  serves_answer (fun o => (rfl : o.labels = o.labels)) _ _ w r

theorem served_applied (component : Component) (opts : component.Options)
    (w : Cluster (List (String × String))) :
    ServedE ServesApi (component.applyResources exampleEnv opts) w (applied component opts w).1
      (applied component opts w).2 :=
  served_runWith serves_answerApi _ w

theorem served_deleted (component : Component) (w : Cluster (List (String × String))) :
    ServedE ServesApi (component.deleteResources exampleEnv true true) w (deleted component w).1
      (deleted component w).2 :=
  served_runWith serves_answerApi _ w

def gatewayOptions : GatewayApplyOptions where
  collectorConfigYAML := "exporters:"
  collectorEnvVars := [("BASIC_AUTH_HEADER_BACKEND", "Basic dXNlcjpwYXNz")]
  istioEnabled := true
  replicas := 2
  resourceRequirementsMultiplier := 1
  vpaCRDExists := true
  vpaEnabled := true
  vpaMaxAllowedMemory := 0

/-- The gateway leaves nothing, also with objects of Istio and an autoscaler. -/
theorem gateway_nothing_left :
    Applied exampleEnv .otlpGateway ⟨∅, []⟩ [gatewayOptions]
      (applied .otlpGateway gatewayOptions ⟨∅, []⟩).2 ∧
    ∀ r ∈ (deleted .otlpGateway (applied .otlpGateway gatewayOptions ⟨∅, []⟩).2).2.created,
      (deleted .otlpGateway (applied .otlpGateway gatewayOptions ⟨∅, []⟩).2).2.get r = none := by
  have happlied : Applied exampleEnv .otlpGateway ⟨∅, []⟩ [gatewayOptions]
      (applied .otlpGateway gatewayOptions ⟨∅, []⟩).2 :=
    .apply (.start _) (served_applied .otlpGateway gatewayOptions ⟨∅, []⟩)
  exact ⟨happlied, (nothing_left_iff rfl happlied ⟨fun _ _ _ => rfl, fun _ _ _ => rfl⟩
    (served_deleted .otlpGateway _)).mpr (by rintro _ _ ⟨⟩)⟩

/-- The metric agent leaves a Secret with a password. -/
theorem agent_secret_left :
    ∃ s t, Applied exampleEnv .metricAgent ⟨∅, []⟩ [passwordOptions] s ∧
      StillReported .metricAgent [passwordOptions] true true ∧
      ServedE ServesApi (Component.metricAgent.deleteResources exampleEnv true true) s (.ok []) t ∧
      ∃ r ∈ t.created, ∃ o, t.get r = some o ∧ r.kind = .secret ∧
        o.body = [("BASIC_AUTH_HEADER_BACKEND", "Basic dXNlcjpwYXNz")] := by
  refine ⟨(applied .metricAgent passwordOptions ⟨∅, []⟩).2,
    (deleted .metricAgent (applied .metricAgent passwordOptions ⟨∅, []⟩).2).2,
    .apply (.start _) (served_applied .metricAgent passwordOptions ⟨∅, []⟩),
    ⟨fun _ _ _ => rfl, fun _ _ _ => rfl⟩, served_deleted .metricAgent _,
    ref .secret ⟨"kyma-system", metricAgent⟩, ?_, _, rfl, rfl, rfl⟩
  decide +kernel

end TelemetryManager.Resources

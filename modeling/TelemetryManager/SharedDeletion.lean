import TelemetryManager.ResourceCleanup

/-! The deletion of all objects with a label, while others delete objects too. The loop ends at the
first object that is not there any more, and it reports a success. -/
namespace TelemetryManager.Resources

open Interaction ObjectStore

variable {Body : Type}

/-- Others change and delete objects. What is gone does not come back. -/
def OthersDelete (s t : Cluster Body) : Prop := ∀ r, s.get r = none → t.get r = none

theorem othersDelete_remove (s : Cluster Body) (key : ObjectRef) :
    OthersDelete s (s.remove key) := by
  intro r hr
  by_cases hkey : r = key
  · rw [hkey]
    exact Store.get_remove_self
  · rw [Store.get_remove_of_ne hkey]
    exact hr

abbrev ServesShared : Cluster Body → (r : Req ObjectRef (Object Body)) →
    Resp ObjectRef (Object Body) ApiError r → Cluster Body → Prop :=
  Shared OthersDelete ServesApi

abbrev DeletionLog (Body : Type) :=
  Log (Req ObjectRef (Object Body)) (Resp ObjectRef (Object Body) ApiError)

def listed : DeletionLog Body → List ObjectRef
  | ⟨.list _, .ok refs⟩ :: _ => refs
  | _ => []

/-- Someone else had deleted the object when its turn came. -/
def FoundGone (log : DeletionLog Body) (r : ObjectRef) : Prop :=
  ⟨.delete r, .error .notFound⟩ ∈ log

variable {s t : Cluster Body} {log : DeletionLog Body} {refs : List ObjectRef} {r : ObjectRef}
  {res : Except GoError Unit}

theorem gone_of_servesShared {req : Req ObjectRef (Object Body)}
    {x : Resp ObjectRef (Object Body) ApiError req} (hreq : Shrinks req)
    (h : ServesShared s req x t) (hs : s.get r = none) : t.get r = none := by
  obtain ⟨u, hothers, hserve⟩ := h
  exact get_of_within (within_of_served hreq hserve) (hothers r hs)

theorem gone_of_answers (h : Answers ServesShared s log t) (hlog : ∀ e ∈ log, Shrinks e.1)
    (hs : s.get r = none) : t.get r = none := by
  apply h.keeps (I := fun u => u.get r = none) hs
  intro u v e he hserve hu
  exact gone_of_servesShared (hlog e he) hserve hu

theorem shrinks_of_execE_deleteItems (h : ExecE (deleteItems refs) log res) :
    ∀ e ∈ log, Shrinks e.1 := by
  have hasks : Asks Shrinks (deleteItems refs : Managing Body Unit) :=
    deleteItems_asks fun _ _ => trivial
  exact hasks log res h

/-- All that one turn of the loop can do. -/
theorem execE_deleteItems_cons {rest : List ObjectRef}
    (h : ExecE (deleteItems (r :: rest)) log res) :
    (∃ log', log = ⟨.delete r, .ok ()⟩ :: log' ∧ ExecE (deleteItems rest) log' res) ∨
    (log = [⟨.delete r, .error .notFound⟩] ∧ res = .ok ()) ∨
    ∃ err, err ≠ .notFound ∧ log = [⟨.delete r, .error err⟩] ∧ res = .error (.api err) := by
  obtain ⟨x, log', rfl, hnext⟩ := execE_request_bind_iff.mp h
  cases x with
  | ok u => exact .inl ⟨log', rfl, hnext⟩
  | error err =>
    by_cases herr : err = .notFound
    · subst herr
      obtain ⟨rfl, rfl⟩ := execE_pure_iff.mp hnext
      exact .inr (.inl ⟨rfl, rfl⟩)
    · have hnot : err.isNotFound = false := by cases err <;> first | rfl | exact absurd rfl herr
      simp only [hnot, Bool.false_eq_true, if_false] at hnext
      obtain ⟨rfl, rfl⟩ := execE_throw_iff.mp hnext
      exact .inr (.inr ⟨err, herr, rfl, rfl⟩)

theorem ok_of_foundGone (h : ExecE (deleteItems refs) log res) (hgone : FoundGone log r) :
    res = .ok () := by
  induction refs generalizing log with
  | nil =>
    obtain ⟨rfl, rfl⟩ := execE_pure_iff.mp h
    rfl
  | cons r' rest ih =>
    rcases execE_deleteItems_cons h with ⟨log', rfl, h'⟩ | ⟨-, hres⟩ | ⟨err, herr, rfl, -⟩
    · apply ih h'
      rcases List.mem_cons.mp hgone with heq | hmem
      · cases heq
      · exact hmem
    · exact hres
    · cases List.mem_singleton.mp hgone
      exact absurd rfl herr

/-- Some object is found gone, and an object behind it is still there at the end. -/
def Skips (refs : List ObjectRef) (log : DeletionLog Body) (t : Cluster Body) : Prop :=
  ∃ before r behind, refs = before ++ r :: behind ∧ FoundGone log r ∧
    ∃ r' ∈ behind, t.get r' ≠ none

/-- After a success an object that is still there is one that was skipped. -/
theorem skips_of_deleteItems_ok (h : ExecE (deleteItems refs) log (.ok ()))
    (hanswers : Answers ServesShared s log t) {r' : ObjectRef} (hr' : r' ∈ refs)
    (hthere : t.get r' ≠ none) : Skips refs log t := by
  induction refs generalizing s log with
  | nil => cases hr'
  | cons r rest ih =>
    rcases execE_deleteItems_cons h with ⟨log', rfl, h'⟩ | ⟨rfl, -⟩ | ⟨err, -, -, hres⟩
    · obtain ⟨u, ⟨v, -, hdelete⟩, hrest⟩ := answers_cons_iff.mp hanswers
      have hne : r' ≠ r := by
        rintro rfl
        apply hthere
        apply gone_of_answers hrest (shrinks_of_execE_deleteItems h')
        exact get_of_delete hdelete (by rintro _ ⟨⟩)
      have hmem : r' ∈ rest := List.mem_of_ne_of_mem hne hr'
      obtain ⟨before, g, behind, rfl, hgone, hlater⟩ := ih h' hrest hmem
      exact ⟨r :: before, g, behind, rfl, List.mem_cons_of_mem _ hgone, hlater⟩
    · obtain ⟨u, ⟨v, -, hdelete⟩, hrest⟩ := answers_cons_iff.mp hanswers
      cases hrest
      have hne : r' ≠ r := by
        rintro rfl
        exact hthere (get_of_delete hdelete (by rintro _ ⟨⟩; rfl))
      have hmem : r' ∈ rest := List.mem_of_ne_of_mem hne hr'
      exact ⟨[], r, rest, rfl, List.mem_singleton_self _, r', hmem, hthere⟩
    · cases hres

theorem execE_deleteObjectsByLabelSelector {kind : Kind} {label value : String}
    (h : ExecE (deleteObjectsByLabelSelector kind label value) log res) :
    listed log = [] ∨ ∃ selects log', log = ⟨.list selects, .ok (listed log)⟩ :: log' ∧
      ExecE (deleteItems (listed log)) log' res := by
  obtain ⟨x, log', rfl, hloop⟩ := execE_request_bind_iff.mp h
  cases x with
  | error err => exact .inl rfl
  | ok refs => exact .inr ⟨_, log', rfl, hloop⟩

/-- A success means that all the listed objects are gone, exactly if no object is skipped behind one
that someone else had deleted. -/
theorem deletion_complete_iff {kind : Kind} {label value : String}
    (hrun : ExecE (deleteObjectsByLabelSelector kind label value) log res)
    (hanswers : Answers ServesShared s log t) :
    (res = .ok () → ∀ r ∈ listed log, t.get r = none) ↔ ¬ Skips (listed log) log t := by
  rcases execE_deleteObjectsByLabelSelector hrun with hnone | ⟨selects, log', hlog, hloop⟩
  · simp [hnone, Skips]
  have hgone : ∀ r, FoundGone log r → FoundGone log' r := by
    intro r hr
    rw [hlog] at hr
    rcases List.mem_cons.mp hr with heq | hmem
    · cases heq
    · exact hmem
  constructor
  · rintro hcomplete ⟨before, r, behind, hsplit, hr, r', hr', hthere⟩
    have hok : res = .ok () := ok_of_foundGone hloop (hgone r hr)
    apply hthere
    apply hcomplete hok
    rw [hsplit]
    exact List.mem_append_right _ (List.mem_cons_of_mem _ hr')
  · intro hskips hok r hr
    by_contra hthere
    subst hok
    rw [hlog] at hanswers
    obtain ⟨u, -, hrest⟩ := answers_cons_iff.mp hanswers
    obtain ⟨before, g, behind, hsplit, hg, hlater⟩ :=
      skips_of_deleteItems_ok hloop hrest hr hthere
    apply hskips
    refine ⟨before, g, behind, hsplit, ?_, hlater⟩
    rw [hlog]
    exact List.mem_cons_of_mem _ hg

def policyRef (name : String) : ObjectRef := ⟨.networkPolicy, "kyma-system", name⟩

def agentPolicies : List ObjectRef :=
  [policyRef "telemetry-metric-agent", policyRef "telemetry-metric-agent-metrics"]

def policyObject : Object Unit := ⟨Finmap.singleton labelKeyK8sName "telemetry-metric-agent", ()⟩

def policyCluster : Cluster Unit :=
  agentPolicies.foldr (fun r s => s.create r policyObject) ⟨∅, []⟩

/-- The first policy is gone when its turn comes. -/
def skippingLog : DeletionLog Unit :=
  [⟨.list fun r o => r.kind = .networkPolicy &&
      o.labels.lookup labelKeyK8sName = some "telemetry-metric-agent", .ok agentPolicies⟩,
    ⟨.delete (policyRef "telemetry-metric-agent"), .error .notFound⟩]

theorem execE_skippingLog :
    ExecE (deleteObjectsByLabelSelector .networkPolicy labelKeyK8sName "telemetry-metric-agent")
      skippingLog (.ok ()) := by
  apply execE_request_bind_iff.mpr
  refine ⟨.ok agentPolicies, _, rfl, ?_⟩
  apply execE_request_bind_iff.mpr
  exact ⟨.error .notFound, [], rfl, execE_pure_iff.mpr ⟨rfl, rfl⟩⟩

theorem answers_skippingLog :
    Answers ServesShared policyCluster skippingLog
      (policyCluster.remove (policyRef "telemetry-metric-agent")) := by
  refine .cons ⟨policyCluster, fun _ h => h, .list ?_⟩
    (.cons ⟨_, othersDelete_remove _ _, .deleteMissing Store.get_remove_self⟩ (.nil _))
  decide +kernel

theorem deletion_of_skippingLog :
    (Except.ok () = (.ok () : Except GoError Unit) → ∀ r ∈ listed skippingLog,
      (policyCluster.remove (policyRef "telemetry-metric-agent")).get r = none) ↔
      ¬ Skips (listed skippingLog) skippingLog
        (policyCluster.remove (policyRef "telemetry-metric-agent")) :=
  deletion_complete_iff execE_skippingLog answers_skippingLog

/-- The deletion reports a success, and the second policy is still there. -/
theorem policy_skipped :
    ∃ (log : DeletionLog Unit) (t : Cluster Unit),
      ExecE (deleteObjectsByLabelSelector .networkPolicy labelKeyK8sName "telemetry-metric-agent")
        log (.ok ()) ∧
      Answers ServesShared policyCluster log t ∧
      ∃ r ∈ listed log, t.get r = some policyObject := by
  refine ⟨skippingLog, _, execE_skippingLog, answers_skippingLog,
    policyRef "telemetry-metric-agent-metrics", ?_, ?_⟩
  · decide
  · rw [Store.get_remove_of_ne (by decide)]
    decide +kernel

end TelemetryManager.Resources

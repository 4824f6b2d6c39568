import TelemetryManager.Library.Execution
import TelemetryManager.SecretRef

/-! Values that are given inline or by a Secret, and switches with a default. -/
namespace TelemetryManager.SharedTypes

open Interaction

def isValid : Option ValueType → Bool
  | none => false
  | some v =>
    v.value ≠ "" || (v.valueFrom.bind (·.secretKeyRef)).any fun ref =>
      ref.name ≠ "" && ref.key ≠ "" && ref.namespace ≠ ""

/-- Resolve a value. A value with neither text nor source makes the code dereference `nil`. -/
def resolveValue (value : ValueType) : Client String :=
  if value.value ≠ "" then pure value.value
  else match value.valueFrom with
    | none => throw (.panic "invalid memory address or nil pointer dereference")
    | some source =>
      match source.secretKeyRef with
      | some ref => SecretRef.getValue ref
      | none => throw (.sentinel .errValueOrSecretRefUndefined)

def isOTLPInputEnabled (input : Option OTLPInput) : Bool :=
  input.bind (·.enabled) != some false

variable {value : ValueType}

theorem isValid_iff :
    isValid (some value) ↔ value.value ≠ "" ∨
      ∃ ref, SecretRef.secretRefOf value = some ref ∧ SecretRef.missingAttributes ref = [] := by
  obtain ⟨text, source⟩ := value
  by_cases htext : text = ""
  · rcases source with _ | ⟨_ | ⟨name, ns, key⟩⟩
    · simp [isValid, SecretRef.secretRefOf, htext]
    · simp [isValid, SecretRef.secretRefOf, htext]
    · simp [isValid, SecretRef.secretRefOf, htext, SecretRef.missingAttributes]
      tauto
  · simp [isValid, htext]

/-- A value has its own text, is read from a Secret, or cannot be resolved. -/
theorem resolveValue_cases (value : ValueType) :
    (value.value ≠ "" ∧ SecretRef.secretRefOf value = none ∧
      resolveValue value = pure value.value) ∨
    (value.value = "" ∧ ∃ ref, SecretRef.secretRefOf value = some ref ∧
      resolveValue value = SecretRef.getValue ref) ∨
    (value.value = "" ∧ SecretRef.secretRefOf value = none ∧
      ∃ err, resolveValue value = throw err) := by
  obtain ⟨text, source⟩ := value
  by_cases htext : text = ""
  · rcases source with _ | ⟨_ | ref⟩
    · exact .inr (.inr ⟨htext, by simp [SecretRef.secretRefOf],
        .panic "invalid memory address or nil pointer dereference", by simp [resolveValue, htext]⟩)
    · exact .inr (.inr ⟨htext, by simp [SecretRef.secretRefOf],
        .sentinel .errValueOrSecretRefUndefined, by simp [resolveValue, htext]⟩)
    · exact .inr (.inl ⟨htext, ref, by simp [SecretRef.secretRefOf, htext],
        by simp [resolveValue, htext]⟩)
  · exact .inl ⟨htext, by simp [SecretRef.secretRefOf, htext], by simp [resolveValue, htext]⟩

/-- The validators resolve a value to the same text as the configuration builders. -/
theorem resolveOr_ok_iff {answer : ApiTable} {failed : GoError} {text : String} :
    evalE answer (SecretRef.resolveOr failed value) = .ok text ↔
      evalE answer (resolveValue value) = .ok text := by
  obtain ⟨inline, source⟩ := value
  unfold SecretRef.resolveOr
  by_cases hinline : inline = ""
  · rcases source with _ | ⟨_ | ref⟩
    · simp [resolveValue, hinline]
    · simp [resolveValue, hinline]
    · simp only [resolveValue, hinline, ne_eq, not_true_eq_false, if_false, Option.bind_some,
        evalE_bind, evalE_attempt]
      cases evalE answer (SecretRef.getValue ref) <;> simp [Except.bind]
  · simp [resolveValue, hinline]

theorem getValue_exec {ref : SecretKeyRef} {log : ApiLog} {r : Except GoError String}
    (h : ExecE (SecretRef.getValue ref) log r) :
    (∀ entry ∈ log, entry.1 = .getSecret ⟨ref.namespace, ref.name⟩) ∧
    ∀ text, r = .ok text → SecretRef.missingAttributes ref = [] ∧
      ∃ entry ∈ log, entry.1 = .getSecret ⟨ref.namespace, ref.name⟩ := by
  unfold SecretRef.getValue at h
  rcases execE_bind_iff.mp h with ⟨e, hcheck, rfl⟩ | ⟨u, l, l', rfl, hcheck, hrest⟩
  · obtain ⟨rfl, -⟩ := execE_liftExcept_iff.mp hcheck
    exact ⟨by simp, nofun⟩
  · obtain ⟨rfl, hok⟩ := execE_liftExcept_iff.mp hcheck
    obtain ⟨result, rest, rfl, hresult⟩ := execE_request_bind_iff.mp hrest
    have hend : rest = [] := by
      cases result with
      | error err =>
        dsimp only at hresult
        split at hresult <;> exact (execE_throw_iff.mp hresult).1
      | ok secret =>
        dsimp only at hresult
        split at hresult
        · exact (execE_pure_iff.mp hresult).1
        · exact (execE_throw_iff.mp hresult).1
    subst hend
    refine ⟨by simp, fun text _ => ⟨?_, _, List.mem_singleton_self _, rfl⟩⟩
    by_contra hmissing
    simp [SecretRef.checkForMissingFields, hmissing] at hok

/-- A valid value can be resolved, to its own text or to any text that its Secret may hold. -/
theorem exists_resolveValue_exec (text : String)
    (hvalid : isValid (some value)) (htext : value.value ≠ "" → text = value.value) :
    ∃ log, ExecE (resolveValue value) log (.ok text) := by
  rcases resolveValue_cases value
    with ⟨hinline, -, heq⟩ | ⟨hempty, ref, href, heq⟩ | ⟨hempty, hnone, -⟩
  · exact ⟨[], by rw [heq, htext hinline, execE_pure_iff]; exact ⟨rfl, rfl⟩⟩
  · obtain hinline | ⟨ref', href', hfields⟩ := isValid_iff.mp hvalid
    · exact absurd hempty hinline
    rw [href] at href'
    cases href'
    let secret : Secret := { data := [(ref.key, text)] }
    refine ⟨[⟨.getSecret ⟨ref.namespace, ref.name⟩, .ok secret⟩], ?_⟩
    rw [heq]
    refine execE_bind_iff.mpr (.inr ⟨(), [], _, rfl, ?_, ?_⟩)
    · exact execE_liftExcept_iff.mpr ⟨rfl, by simp [SecretRef.checkForMissingFields, hfields]⟩
    · refine execE_request_bind_iff.mpr ⟨_, _, rfl, ?_⟩
      simp [secret]
  · obtain hinline | ⟨ref, href, -⟩ := isValid_iff.mp hvalid
    · exact absurd hempty hinline
    · rw [hnone] at href
      cases href

theorem resolveValue_exec_text {text : String} {log : ApiLog}
    (h : ExecE (resolveValue value) log (.ok text)) (hinline : value.value ≠ "") :
    text = value.value := by
  rw [resolveValue, if_pos hinline] at h
  exact Except.ok.inj (execE_pure_iff.mp h).2

def Reading (values : List ValueType) (request : ApiReq) : Prop :=
  ∃ value ∈ values, ∃ ref, SecretRef.secretRefOf value = some ref ∧
    request = .getSecret ⟨ref.namespace, ref.name⟩

def Covers (values : List ValueType) (log : ApiLog) : Prop :=
  ∀ value ∈ values, isValid (some value) ∧
    ∀ ref, SecretRef.secretRefOf value = some ref →
      ∃ entry ∈ log, entry.1 = .getSecret ⟨ref.namespace, ref.name⟩

structure Resolving {α : Type} (values : List ValueType) (x : Client α) : Prop where
  asks : Asks (Reading values) x
  covers : ∀ log a, ExecE x log (.ok a) → Covers values log
  reaches : (∀ value ∈ values, isValid (some value)) → ∃ log a, ExecE x log (.ok a)
  succeeds_iff : ∀ answer,
    Succeeds answer x ↔ ∀ value ∈ values, Succeeds answer (resolveValue value)

theorem Reading.mono {values values' : List ValueType} {request : ApiReq}
    (h : Reading values request) (hsub : values ⊆ values') : Reading values' request := by
  obtain ⟨value, hvalue, hread⟩ := h
  exact ⟨value, hsub hvalue, hread⟩

theorem Covers.append {values values' : List ValueType} {l l' : ApiLog}
    (h : Covers values l) (h' : Covers values' l') : Covers (values ++ values') (l ++ l') := by
  intro value hvalue
  rcases List.mem_append.mp hvalue with hvalue | hvalue
  · refine ⟨(h value hvalue).1, fun ref href => ?_⟩
    obtain ⟨entry, hentry, hget⟩ := (h value hvalue).2 ref href
    exact ⟨entry, List.mem_append_left _ hentry, hget⟩
  · refine ⟨(h' value hvalue).1, fun ref href => ?_⟩
    obtain ⟨entry, hentry, hget⟩ := (h' value hvalue).2 ref href
    exact ⟨entry, List.mem_append_right _ hentry, hget⟩

namespace Resolving

variable {α β : Type}

theorem pure (a : α) : Resolving [] (pure a : Client α) where
  asks := .pure a
  covers := fun _ _ _ _ h => by cases h
  reaches := fun _ => ⟨[], a, execE_pure_iff.mpr ⟨rfl, rfl⟩⟩
  succeeds_iff := fun answer => by simp

theorem bind {values values' : List ValueType} {x : Client α} {f : α → Client β}
    (h : Resolving values x) (hf : ∀ a, Resolving values' (f a)) :
    Resolving (values ++ values') (x >>= f) where
  asks := Asks.bind (h.asks.mono fun _ hr => hr.mono (List.subset_append_left _ _))
    fun a => (hf a).asks.mono fun _ hr => hr.mono (List.subset_append_right _ _)
  covers := by
    intro log b hexec
    rcases execE_bind_iff.mp hexec with ⟨e, -, he⟩ | ⟨a, l, l', rfl, hx, hfa⟩
    · cases he
    · exact (h.covers l a hx).append ((hf a).covers l' b hfa)
  reaches := by
    intro hvalid
    rw [List.forall_mem_append] at hvalid
    obtain ⟨l, a, hx⟩ := h.reaches hvalid.1
    obtain ⟨l', b, hfa⟩ := (hf a).reaches hvalid.2
    exact ⟨l ++ l', b, execE_bind_iff.mpr (.inr ⟨a, l, l', rfl, hx, hfa⟩)⟩
  succeeds_iff := by
    intro answer
    rw [succeeds_bind_of fun a => (hf a).succeeds_iff answer, h.succeeds_iff]
    exact List.forall_mem_append.symm

theorem mapErr {values : List ValueType} {x : Client α} (f : GoError → GoError)
    (h : Resolving values x) : Resolving values (mapErr f x) where
  asks := .mapErr h.asks
  covers := fun log a hexec => h.covers log a (execE_mapErr_ok_iff.mp hexec)
  reaches := fun hvalid => by simpa only [execE_mapErr_ok_iff] using h.reaches hvalid
  succeeds_iff := fun answer => succeeds_mapErr_iff.trans (h.succeeds_iff answer)

theorem resolveValue (value : ValueType) : Resolving [value] (resolveValue value) where
  asks := by
    intro log r hexec entry hentry
    rcases resolveValue_cases value with ⟨-, -, heq⟩ | ⟨-, ref, href, heq⟩ | ⟨-, -, err, heq⟩ <;>
      rw [heq] at hexec
    · rw [(execE_pure_iff.mp hexec).1] at hentry
      cases hentry
    · exact ⟨value, List.mem_singleton_self _, ref, href, (getValue_exec hexec).1 entry hentry⟩
    · rw [(execE_throw_iff.mp hexec).1] at hentry
      cases hentry
  covers := by
    intro log text hexec value' hvalue'
    rw [List.mem_singleton.mp hvalue']
    rcases resolveValue_cases value with
      ⟨htext, hnone, -⟩ | ⟨-, ref, href, heq⟩ | ⟨-, -, err, heq⟩
    · exact ⟨isValid_iff.mpr (.inl htext), by simp [hnone]⟩
    · rw [heq] at hexec
      obtain ⟨hfields, hread⟩ := (getValue_exec hexec).2 text rfl
      refine ⟨isValid_iff.mpr (.inr ⟨ref, href, hfields⟩), fun ref' href' => ?_⟩
      rw [href] at href'
      cases href'
      exact hread
    · rw [heq] at hexec
      cases (execE_throw_iff.mp hexec).2
  reaches := by
    intro hvalid
    obtain ⟨log, hexec⟩ := exists_resolveValue_exec value.value
      (hvalid value (List.mem_singleton_self _)) fun _ => rfl
    exact ⟨log, value.value, hexec⟩
  succeeds_iff := fun answer => by simp

end Resolving
end TelemetryManager.SharedTypes

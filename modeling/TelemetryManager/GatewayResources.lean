import TelemetryManager.Library.BinaryRounding
import TelemetryManager.ManagedResources

/-! The resources of the gateway's container and of its autoscaler.
The memory limit grows with the number of pipelines and is bounded by a share of the smallest node.
Memory is counted in bytes. -/
namespace TelemetryManager.GatewayResources

open BinaryRounding Resources

/-- The double next to 0.15, in units of 2⁻⁵⁵. -/
def vpaMaxAllowedMemoryFraction : Nat := 5404319552844595

/-- The product of two doubles, in units of 2⁻⁵⁵. -/
def fifteenPercent (smallest : Nat) : Nat :=
  roundToBits 53 (roundToBits 53 smallest * vpaMaxAllowedMemoryFraction)

/-- `math.Round` of a double in units of 2⁻⁵⁵: halves are rounded up. -/
def mathRound (x : Nat) : Nat := (2 * x + 36028797018963968) / 72057594037927936

/-- 15% of the smallest memory, rounded down to whole KiB. -/
def vpaMaxAllowedMemory (smallest : Nat) : Nat := mathRound (fifteenPercent smallest) / 1024 * 1024

structure ResourceRequirements where
  /-- In thousandths of a core. -/
  cpuRequest : Int
  memoryRequest : Int
  memoryLimit : Int

def otlpGatewayBaseMemoryLimit : Int := 786432000
def otlpGatewayDynamicMemoryLimit : Int := 1048576000
def otlpGatewayBaseCPURequest : Int := 100
def otlpGatewayBaseMemoryRequest : Int := 134217728

def pipelinesLimit (opts : GatewayApplyOptions) : Int :=
  (List.range opts.resourceRequirementsMultiplier.toNat).foldl
    (fun memoryLimit _ => memoryLimit + otlpGatewayDynamicMemoryLimit) otlpGatewayBaseMemoryLimit

/-- The limit is cut off at twice the allowed memory, if that is known. -/
def cappedLimit (opts : GatewayApplyOptions) : Int :=
  if opts.vpaMaxAllowedMemory ≠ 0 then
    let maxMemoryCap := opts.vpaMaxAllowedMemory + opts.vpaMaxAllowedMemory
    if maxMemoryCap < pipelinesLimit opts then maxMemoryCap else pipelinesLimit opts
  else pipelinesLimit opts

def isVpaActive (opts : GatewayApplyOptions) : Bool := opts.vpaCRDExists && opts.vpaEnabled

def makeGatewayResourceRequirements (opts : GatewayApplyOptions) : ResourceRequirements where
  cpuRequest := otlpGatewayBaseCPURequest
  memoryRequest := otlpGatewayBaseMemoryRequest
  memoryLimit :=
    if isVpaActive opts then otlpGatewayBaseMemoryRequest + otlpGatewayBaseMemoryRequest
    else cappedLimit opts

structure VPA where
  minAllowed : Int
  maxAllowed : Int

def makeVPA (minAllowedMemory maxAllowedMemory : Int) : VPA where
  minAllowed := minAllowedMemory
  maxAllowed :=
    if maxAllowedMemory < minAllowedMemory then minAllowedMemory else maxAllowedMemory

def appliedVPA (opts : GatewayApplyOptions) : Option VPA :=
  if isVpaActive opts then some (makeVPA otlpGatewayBaseMemoryRequest opts.vpaMaxAllowedMemory)
  else none

def sized (opts : GatewayApplyOptions) (pipelines smallest : Nat) : GatewayApplyOptions :=
  { opts with
    resourceRequirementsMultiplier := pipelines
    vpaMaxAllowedMemory := vpaMaxAllowedMemory smallest }

theorem fifteenPercent_mono {m n : Nat} (h : m ≤ n) : fifteenPercent m ≤ fifteenPercent n := by
  apply roundToBits_mono (by omega)
  apply Nat.mul_le_mul_right
  exact roundToBits_mono (by omega) h

theorem mathRound_mono {m n : Nat} (h : m ≤ n) : mathRound m ≤ mathRound n := by
  apply Nat.div_le_div_right
  omega

theorem vpaMaxAllowedMemory_mono {m n : Nat} (h : m ≤ n) :
    vpaMaxAllowedMemory m ≤ vpaMaxAllowedMemory n := by
  apply Nat.mul_le_mul_right
  apply Nat.div_le_div_right
  exact mathRound_mono (fifteenPercent_mono h)

theorem vpaMaxAllowedMemory_eq_zero_iff (smallest : Nat) :
    vpaMaxAllowedMemory smallest = 0 ↔ smallest < 6824 := by
  have hbelow : vpaMaxAllowedMemory 6823 = 0 := by decide +kernel
  have habove : vpaMaxAllowedMemory 6824 = 1024 := by decide +kernel
  constructor
  · intro hzero
    by_contra hnot
    have hle := vpaMaxAllowedMemory_mono (not_lt.mp hnot)
    omega
  · intro hlt
    have hle := vpaMaxAllowedMemory_mono (Nat.le_pred_of_lt hlt)
    exact Nat.le_zero.mp (hle.trans hbelow.le)

/-- From this size on twice the share is at least the memory request. -/
theorem le_vpaMaxAllowedMemory_iff (smallest : Nat) :
    67108864 ≤ vpaMaxAllowedMemory smallest ↔ 447392424 ≤ smallest := by
  have hbelow : vpaMaxAllowedMemory 447392423 = 67107840 := by decide +kernel
  have habove : vpaMaxAllowedMemory 447392424 = 67108864 := by decide +kernel
  constructor
  · intro hle
    by_contra hnot
    have hmono := vpaMaxAllowedMemory_mono (Nat.le_pred_of_lt (not_le.mp hnot))
    have hlt : vpaMaxAllowedMemory smallest ≤ 67107840 := hmono.trans hbelow.le
    omega
  · intro hle
    have hmono := vpaMaxAllowedMemory_mono hle
    omega

section Consistent

variable {opts : GatewayApplyOptions} {pipelines smallest : Nat}

theorem pipelinesLimit_sized : pipelinesLimit (sized opts pipelines smallest) =
      otlpGatewayBaseMemoryLimit + pipelines * otlpGatewayDynamicMemoryLimit := by
  have hfold : ∀ n : Nat, (List.range n).foldl
      (fun memoryLimit _ => memoryLimit + otlpGatewayDynamicMemoryLimit)
        otlpGatewayBaseMemoryLimit =
      otlpGatewayBaseMemoryLimit + n * otlpGatewayDynamicMemoryLimit := by
    intro n
    induction n with
    | zero => simp
    | succ n ih =>
      rw [List.range_succ, List.foldl_append, ih, List.foldl_cons, List.foldl_nil]
      push_cast
      rw [Int.add_mul, Int.one_mul, Int.add_assoc]
  exact hfold pipelines

theorem pipelinesLimit_mono :
    pipelinesLimit (sized opts pipelines smallest) ≤
      pipelinesLimit (sized opts (pipelines + 1) smallest) := by
  rw [pipelinesLimit_sized, pipelinesLimit_sized]
  unfold otlpGatewayDynamicMemoryLimit
  push_cast
  omega

theorem cappedLimit_mono :
    cappedLimit (sized opts pipelines smallest) ≤
      cappedLimit (sized opts (pipelines + 1) smallest) := by
  have hmono := @pipelinesLimit_mono opts pipelines smallest
  have hmax : (sized opts (pipelines + 1) smallest).vpaMaxAllowedMemory =
      (sized opts pipelines smallest).vpaMaxAllowedMemory := rfl
  unfold cappedLimit
  rw [hmax]
  split
  · dsimp only
    split <;> split <;> omega
  · exact hmono

theorem request_le_cappedLimit_iff :
    otlpGatewayBaseMemoryRequest ≤ cappedLimit (sized opts pipelines smallest) ↔
      smallest < 6824 ∨ 447392424 ≤ smallest := by
  have hbase : otlpGatewayBaseMemoryRequest ≤ pipelinesLimit (sized opts pipelines smallest) := by
    rw [pipelinesLimit_sized]
    unfold otlpGatewayBaseMemoryRequest otlpGatewayBaseMemoryLimit otlpGatewayDynamicMemoryLimit
    omega
  have hmax : (sized opts pipelines smallest).vpaMaxAllowedMemory =
      (vpaMaxAllowedMemory smallest : Nat) := rfl
  rw [← vpaMaxAllowedMemory_eq_zero_iff, ← le_vpaMaxAllowedMemory_iff]
  unfold cappedLimit
  rw [hmax]
  generalize pipelinesLimit (sized opts pipelines smallest) = limit at hbase
  unfold otlpGatewayBaseMemoryRequest at *
  by_cases hzero : vpaMaxAllowedMemory smallest = 0
  · simp [hzero, hbase]
  · have hne : ((vpaMaxAllowedMemory smallest : Nat) : Int) ≠ 0 := by omega
    rw [if_pos hne]
    dsimp only
    split <;> omega

structure Consistent (opts : GatewayApplyOptions) (pipelines smallest : Nat) : Prop where
  request_le_limit :
    (makeGatewayResourceRequirements (sized opts pipelines smallest)).memoryRequest ≤
      (makeGatewayResourceRequirements (sized opts pipelines smallest)).memoryLimit
  limit_mono :
    (makeGatewayResourceRequirements (sized opts pipelines smallest)).memoryLimit ≤
      (makeGatewayResourceRequirements (sized opts (pipelines + 1) smallest)).memoryLimit
  vpa : ∀ vpa, appliedVPA (sized opts pipelines smallest) = some vpa →
    vpa.minAllowed =
      (makeGatewayResourceRequirements (sized opts pipelines smallest)).memoryRequest ∧
    vpa.minAllowed ≤ vpa.maxAllowed

theorem minAllowed_le_maxAllowed (minMemory maxMemory : Int) :
    (makeVPA minMemory maxMemory).minAllowed ≤ (makeVPA minMemory maxMemory).maxAllowed := by
  simp only [makeVPA]
  split <;> omega

theorem vpa_of_appliedVPA {vpa : VPA} (h : appliedVPA opts = some vpa) :
    vpa.minAllowed = (makeGatewayResourceRequirements opts).memoryRequest ∧
      vpa.minAllowed ≤ vpa.maxAllowed := by
  unfold appliedVPA at h
  split at h
  · cases h
    exact ⟨rfl, minAllowed_le_maxAllowed _ _⟩
  · cases h

theorem limit_mono :
    (makeGatewayResourceRequirements (sized opts pipelines smallest)).memoryLimit ≤
      (makeGatewayResourceRequirements (sized opts (pipelines + 1) smallest)).memoryLimit := by
  have hactive : ∀ n, isVpaActive (sized opts n smallest) = isVpaActive opts := fun _ => rfl
  simp only [makeGatewayResourceRequirements, hactive]
  split
  · exact le_refl _
  · exact cappedLimit_mono

theorem request_le_limit_iff :
    (makeGatewayResourceRequirements (sized opts pipelines smallest)).memoryRequest ≤
      (makeGatewayResourceRequirements (sized opts pipelines smallest)).memoryLimit ↔
      isVpaActive opts ∨ smallest < 6824 ∨ 447392424 ≤ smallest := by
  have hactive : isVpaActive (sized opts pipelines smallest) = isVpaActive opts := rfl
  simp only [makeGatewayResourceRequirements, hactive]
  cases isVpaActive opts with
  | true => simp [otlpGatewayBaseMemoryRequest]
  | false =>
    simp only [Bool.false_eq_true, if_false, false_or]
    exact request_le_cappedLimit_iff

end Consistent

/-- The resources are consistent exactly if the autoscaler is active, or the smallest node is
unknown or so large that twice its share is not below the memory request. -/
theorem gateway_resources_consistent_iff (opts : GatewayApplyOptions) (pipelines smallest : Nat) :
    Consistent opts pipelines smallest ↔
      isVpaActive opts ∨ smallest < 6824 ∨ 447392424 ≤ smallest := by
  rw [← request_le_limit_iff]
  constructor
  · intro h
    exact h.request_le_limit
  · intro h
    exact ⟨h, limit_mono, fun _ hvpa => vpa_of_appliedVPA hvpa⟩

def withoutVPA : GatewayApplyOptions where
  collectorConfigYAML := "exporters:"
  collectorEnvVars := []
  istioEnabled := false
  replicas := 2
  resourceRequirementsMultiplier := 0
  vpaCRDExists := false
  vpaEnabled := false
  vpaMaxAllowedMemory := 0

/-- With 256 MiB on the smallest node the request is larger than the limit. -/
theorem small_node_request_above_limit :
    (makeGatewayResourceRequirements (sized withoutVPA 1 268435456)).memoryLimit <
      (makeGatewayResourceRequirements (sized withoutVPA 1 268435456)).memoryRequest := by
  decide +kernel

end TelemetryManager.GatewayResources

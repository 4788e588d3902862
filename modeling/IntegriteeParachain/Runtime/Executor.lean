import IntegriteeParachain.Runtime.Barrier
import IntegriteeParachain.Runtime.Weigher

/-!
The front of `XcmExecutor::execute_xcm_in_credit` under the runtime's `XcmExecutorConfig`: the
`Weigher` weighs the message, its weight is checked against the caller's limit, and the `Barrier`
decides. The result records what the XCM virtual machine is handed, and `Runtime.Vm` runs it.
Messages from other chains, which the XCMP and DMP queues pass to
`execute_xcm`, come with no weight credit.
-/
namespace Executor
open Xcm Barrier Weigher

/-- The `XcmError`s the modelled executor raises: those of its front, and those of the instructions
    the virtual machine runs itself. -/
inductive XcmError where
  | weightNotComputable
  | weightLimitReached (weight : Weight)
  | barrier
  | badOrigin
  | locationFull
  | failedToDecode
  | maxWeightInvalid
  deriving DecidableEq

structure Admitted where
  weight : Weight
  message : List Instruction
  weightCredit : Weight

/-- `ExecuteXcm::execute_xcm_in_credit` of `XcmExecutor<XcmExecutorConfig>`, up to the barrier:
    `prepare` weighs the message, its weight is checked against the limit, and `execute` starts with
    the barrier. -/
def executeXcmInCredit (maxInstructions : Nat)
    (expectingResponse : MultiLocation → QueryId → Option MultiLocation → Bool)
    (origin : MultiLocation) (message : List Instruction) (weightLimit weightCredit : Weight) :
    Except XcmError Admitted :=
  match weight unitWeightCost maxInstructions message with
  | none => .error .weightNotComputable
  | some xcmWeight =>
      if xcmWeight.anyGt weightLimit then .error (.weightLimitReached xcmWeight)
      else
        let verdict := barrier expectingResponse origin message xcmWeight weightCredit
        match verdict.result with
        | .error () => .error .barrier
        | .ok () => .ok ⟨xcmWeight, verdict.instructions, verdict.weightCredit⟩

/-- `ExecuteXcm::execute_xcm`: a message from another chain, with no weight credit. -/
def executeXcm (maxInstructions : Nat)
    (expectingResponse : MultiLocation → QueryId → Option MultiLocation → Bool)
    (origin : MultiLocation) (message : List Instruction) (weightLimit : Weight) :
    Except XcmError Admitted :=
  executeXcmInCredit maxInstructions expectingResponse origin message weightLimit .zero

theorem executeXcmInCredit_ok_iff (maxInstructions : Nat)
    (expectingResponse : MultiLocation → QueryId → Option MultiLocation → Bool)
    (origin : MultiLocation) (message : List Instruction) (weightLimit weightCredit : Weight)
    (short : count message < 2 ^ 32) :
    (∃ a, executeXcmInCredit maxInstructions expectingResponse origin message weightLimit
        weightCredit = .ok a) ↔
      count message ≤ maxInstructions ∧ (messageWeight unitWeightCost message).Fits ∧
        (messageWeight unitWeightCost message).anyGt weightLimit = false ∧
        (barrier expectingResponse origin message (messageWeight unitWeightCost message)
          weightCredit).result = .ok () := by
  simp only [executeXcmInCredit, weight_eq unitWeightCost maxInstructions message short]
  by_cases computable : count message ≤ maxInstructions ∧
      (messageWeight unitWeightCost message).Fits
  · rw [if_pos computable]
    simp only [computable, true_and]
    split
    · rename_i over
      simp [over]
    · rename_i within
      simp only [Bool.not_eq_true] at within
      simp only [within, true_and]
      rcases (barrier expectingResponse origin message (messageWeight unitWeightCost message)
        weightCredit).result with ⟨⟨⟩⟩ | ⟨⟨⟩⟩ <;> simp
  · rw [if_neg computable]
    simp only [not_and] at computable
    simp only [reduceCtorEq, exists_false, false_iff, not_and]
    exact fun enough fits => absurd fits (computable enough)

theorem weightLimitRewritten_weight {before after : List Instruction}
    (h : WeightLimitRewritten before after) :
    count after = count before ∧ declared after = declared before := by
  rcases h with rfl | ⟨front, back, limit, limit', rfl, rfl⟩
  · exact ⟨rfl, rfl⟩
  · simp [count_append, declared_append, count, declared, innerCount, innerDeclared]

theorem executeXcmInCredit_admitted {maxInstructions : Nat}
    {expectingResponse : MultiLocation → QueryId → Option MultiLocation → Bool}
    {origin : MultiLocation} {message : List Instruction} {weightLimit weightCredit : Weight}
    {admitted : Admitted} (short : count message < 2 ^ 32)
    (h : executeXcmInCredit maxInstructions expectingResponse origin message weightLimit
      weightCredit = .ok admitted) :
    count admitted.message = count message ∧
      admitted.weight = messageWeight unitWeightCost admitted.message := by
  unfold executeXcmInCredit at h
  split at h
  · cases h
  · rename_i xcmWeight weighed
    split at h
    · cases h
    · dsimp only at h
      split at h
      · cases h
      · cases h
        obtain ⟨counted, same⟩ :=
          weightLimitRewritten_weight (barrier_rewritten expectingResponse origin message xcmWeight
            weightCredit)
        exact ⟨counted, (weight_eq_some short weighed).trans (by simp only [messageWeight, counted, same])⟩

theorem messageWeight_le_zero_iff (message : List Instruction) :
    ((messageWeight unitWeightCost message).refTime ≤ Weight.zero.refTime ∧
      (messageWeight unitWeightCost message).proofSize ≤ Weight.zero.proofSize) ↔ message = [] := by
  cases message with
  | nil => simp [messageWeight, count, declared]
  | cons i rest =>
    simp only [messageWeight, charge_refTime, Weight.zero_refTime, unitWeightCost, count,
      reduceCtorEq, iff_false, not_and]
    intro none
    omega

/-- What the runtime executes from another chain: a message within `MaxInstructions` instructions
    and the caller's weight limit, with no top-level reserve transfer to the relay chain, that pays
    for its execution, is a lone expected response, or is a lone version subscription. -/
theorem executeXcm_ok_iff (maxInstructions : Nat)
    (expectingResponse : MultiLocation → QueryId → Option MultiLocation → Bool)
    (origin : MultiLocation) (message : List Instruction) (weightLimit : Weight)
    (short : count message < 2 ^ 32) :
    (∃ a, executeXcm maxInstructions expectingResponse origin message weightLimit = .ok a) ↔
      count message ≤ maxInstructions ∧ (messageWeight unitWeightCost message).Fits ∧
        (messageWeight unitWeightCost message).anyGt weightLimit = false ∧
        message.any reserveTransferToRelayChain = false ∧
        (PaidExecution (messageWeight unitWeightCost message) message ∨
          ExpectedResponse expectingResponse origin message ∨ Subscription message) := by
  rw [executeXcm, executeXcmInCredit_ok_iff _ _ _ _ _ _ short, barrier_ok_iff,
    messageWeight_le_zero_iff, ne_eq, not_and_self_iff, false_or]

theorem executeXcm_ok_iff_sibling :
    count [.withdrawAsset, .buyExecution .unlimited] < 2 ^ 32 ∧
      ((∃ a, executeXcm 100 (fun _ _ _ => false) ⟨1, .x1 (.parachain 2015)⟩
          [.withdrawAsset, .buyExecution .unlimited] ⟨10 ^ 12, 10 ^ 7⟩ = .ok a) ↔
        count [.withdrawAsset, .buyExecution .unlimited] ≤ 100 ∧
          (messageWeight unitWeightCost [.withdrawAsset, .buyExecution .unlimited]).Fits ∧
          (messageWeight unitWeightCost [.withdrawAsset, .buyExecution .unlimited]).anyGt
            ⟨10 ^ 12, 10 ^ 7⟩ = false ∧
          [Instruction.withdrawAsset, .buyExecution .unlimited].any reserveTransferToRelayChain =
            false ∧
          (PaidExecution (messageWeight unitWeightCost [.withdrawAsset, .buyExecution .unlimited])
              [.withdrawAsset, .buyExecution .unlimited] ∨
            ExpectedResponse (fun _ _ _ => false) ⟨1, .x1 (.parachain 2015)⟩
              [.withdrawAsset, .buyExecution .unlimited] ∨
            Subscription [.withdrawAsset, .buyExecution .unlimited])) :=
  ⟨by decide, executeXcm_ok_iff 100 _ _ _ _ (by decide)⟩

example : (executeXcm 100 (fun _ _ _ => false) ⟨1, .x1 (.parachain 2015)⟩
    [.withdrawAsset, .buyExecution .unlimited, .other] ⟨10 ^ 12, 10 ^ 7⟩).toOption.map
      Admitted.weight = some ⟨600000000, 3 * 131072⟩ := by
  rfl

end Executor

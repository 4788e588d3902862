import IntegriteeParachain.Runtime.Vm

/-!
The executor's weight accounting under the runtime's weigher. A message is prepaid the weight the
`Weigher` gives it, and as it runs each instruction's share is spent or credited to the surplus:
`Transact` credits what its call did not use, a new error handler or appendix the weight of the one
it replaces, a failure the weight of the instructions it skips, and a program that succeeds the
weight of the error handler it no longer needs. `Accounted` says that the surplus, the instructions
still to run and the error handler and appendix set aside never weigh more than was prepaid. Every
step keeps it, so the surplus never exceeds the prepaid weight, and the weight `post_process`
reports as used and the surplus it refunds add up to the prepaid weight.
-/
namespace Vm
open Xcm Weigher Executor

variable {σ : Type}

/-- The weight the registers and the instructions `m` still to run account for: the surplus, the
    weight the weigher gives `m`, and the weights of the error handler and the appendix. -/
def XcmExecutor.account (vm : XcmExecutor) (m : List Instruction) : Weight :=
  vm.totalSurplus + messageWeight unitWeightCost m + vm.errorHandlerWeight + vm.appendixWeight

/-- The accounting invariant against the prepaid weight `w` while `m` is still to run: the
    account stays within `w`, and the error handler and appendix carry the weights the weigher
    gives them. -/
structure Accounted (w : Weight) (vm : XcmExecutor) (m : List Instruction) : Prop where
  bound : (vm.account m).allLte w = true
  handler : vm.errorHandlerWeight = messageWeight unitWeightCost vm.errorHandler
  appendix : vm.appendixWeight = messageWeight unitWeightCost vm.appendix
  short : count m + vm.pending < 2 ^ 32

theorem messageWeight_nil (unit : Weight) : messageWeight unit [] = .zero := by
  ext <;> simp [count, declared]

theorem messageWeight_cons (unit : Weight) (i : Instruction) (rest : List Instruction) :
    messageWeight unit (i :: rest) =
      unit + charge unit (innerCount i) (innerDeclared i) + messageWeight unit rest := by
  ext <;> simp only [messageWeight, charge_refTime, charge_proofSize, Weight.add_refTime,
    Weight.add_proofSize, count, declared, Nat.add_mul, Nat.one_mul] <;> omega

theorem charge_count_declared (unit : Weight) (m : List Instruction) :
    charge unit (count m) (declared m) = messageWeight unit m := rfl

theorem postProcess_weightUsed (vm : XcmExecutor) (xcmWeight : Weight) :
    (postProcess vm xcmWeight).weightUsed = xcmWeight.saturatingSub vm.totalSurplus := by
  unfold postProcess
  split <;> rfl

theorem instrWeight_eq_some {i : Instruction} {x : Weight} (short : innerCount i < 2 ^ 32)
    (h : instrWeight i = some x) :
    x = unitWeightCost + charge unitWeightCost (innerCount i) (innerDeclared i) := by
  rw [instrWeight, instrWeightWithLimit_eq _ _ _ short] at h
  split at h
  · exact (Option.some.inj h).symm.trans (unit_add_charge _ _ _).symm
  · cases h

theorem skipWeight_le (acc : Weight) (rest : List Instruction) (short : count rest < 2 ^ 32) :
    (skipWeight acc rest).allLte (acc + messageWeight unitWeightCost rest) = true := by
  induction rest generalizing acc with
  | nil => simp [skipWeight, messageWeight_nil]
  | cons i rest ih =>
    simp only [count] at short
    cases weighed : instrWeight i with
    | none =>
      have skipped := ih acc (by omega)
      simp only [skipWeight, weighed, messageWeight_cons, Weight.allLte_iff, Weight.add_refTime,
        Weight.add_proofSize] at skipped ⊢
      omega
    | some x =>
      have skipped := ih (acc.saturatingAdd x) (by omega)
      have sat := Weight.saturatingAdd_le acc x
      have split := instrWeight_eq_some (by omega) weighed
      simp only [skipWeight, weighed, split, messageWeight_cons,
        Weight.allLte_iff, Weight.add_refTime, Weight.add_proofSize] at skipped sat ⊢
      omega

section
variable {E : Effects σ} {maxInstructions : Nat} {w : Weight}

theorem accounted_tail {vm : XcmExecutor} {i : Instruction} {rest : List Instruction}
    (inv : Accounted w vm (i :: rest)) : Accounted w vm rest := by
  obtain ⟨bound, handler, appendix, short⟩ := inv
  refine ⟨?_, handler, appendix, by simp only [count] at short; omega⟩
  simp only [XcmExecutor.account, messageWeight_cons, Weight.allLte_iff, Weight.add_refTime,
    Weight.add_proofSize] at bound ⊢
  omega

/-- An instruction that succeeds keeps the account: what it credits to the surplus comes out of
    its own share of the prepaid weight, or out of the handler or appendix it replaces. -/
theorem changes_accounted {vm vm' : XcmExecutor} {i : Instruction} {rest : List Instruction}
    (h : Changes maxInstructions vm i vm') (inv : Accounted w vm (i :: rest)) :
    Accounted w vm' rest := by
  cases h with
  | clearOrigin | descendOrigin | effect =>
    obtain ⟨bound, handler, appendix, short⟩ := accounted_tail inv
    exact ⟨bound, handler, appendix, short⟩
  | setErrorHandler weighed =>
    obtain ⟨bound, handler, appendix, short⟩ := inv
    simp only [XcmExecutor.pending, count, innerCount] at short
    obtain rfl := weight_eq_some (by omega) weighed
    have sat := Weight.saturatingAdd_le vm.totalSurplus vm.errorHandlerWeight
    refine ⟨?_, rfl, appendix, by simp only [XcmExecutor.pending]; omega⟩
    simp only [XcmExecutor.account, messageWeight_cons, innerCount, innerDeclared,
      charge_count_declared, Weight.allLte_iff, Weight.add_refTime, Weight.add_proofSize]
      at bound ⊢
    omega
  | setAppendix weighed =>
    obtain ⟨bound, handler, appendix, short⟩ := inv
    simp only [XcmExecutor.pending, count, innerCount] at short
    obtain rfl := weight_eq_some (by omega) weighed
    have sat := Weight.saturatingAdd_le vm.totalSurplus vm.appendixWeight
    refine ⟨?_, handler, rfl, by simp only [XcmExecutor.pending]; omega⟩
    simp only [XcmExecutor.account, messageWeight_cons, innerCount, innerDeclared,
      charge_count_declared, Weight.allLte_iff, Weight.add_refTime, Weight.add_proofSize]
      at bound ⊢
    omega
  | transact refunded =>
    obtain ⟨bound, handler, appendix, short⟩ := inv
    simp only [XcmExecutor.pending, count] at short
    have sat := Weight.saturatingAdd_le vm.totalSurplus ‹Weight›
    refine ⟨?_, handler, appendix, by simp only [XcmExecutor.pending]; omega⟩
    simp only [XcmExecutor.account, messageWeight_cons, innerCount, innerDeclared, charge_refTime,
      charge_proofSize, Nat.zero_mul, Nat.zero_add, Weight.allLte_iff, Weight.add_refTime,
      Weight.add_proofSize] at bound refunded ⊢
    omega

theorem failure_accounted {vm : XcmExecutor} {i : Instruction} {rest : List Instruction}
    {index : Nat} {e : XcmError} (inv : Accounted w vm (i :: rest)) :
    Accounted w (settle vm (.error ⟨index, e, skipWeight .zero rest⟩)) [] := by
  obtain ⟨bound, handler, appendix, short⟩ := inv
  simp only [count] at short
  have skipped := skipWeight_le .zero rest (by omega)
  have sat := Weight.saturatingAdd_le vm.totalSurplus (skipWeight .zero rest)
  refine ⟨?_, handler, appendix, by simp only [settle, count, XcmExecutor.pending] at short ⊢; omega⟩
  simp only [settle, XcmExecutor.account, messageWeight_cons, messageWeight_nil,
    Weight.allLte_iff, Weight.add_refTime, Weight.add_proofSize, Weight.zero_refTime,
    Weight.zero_proofSize] at bound skipped ⊢
  omega

theorem dropErrorHandler_accounted {vm : XcmExecutor} (inv : Accounted w vm []) :
    Accounted w vm.dropErrorHandler [] := by
  obtain ⟨bound, handler, appendix, short⟩ := inv
  have sat := Weight.saturatingAdd_le vm.totalSurplus vm.errorHandlerWeight
  refine ⟨?_, (messageWeight_nil _).symm, appendix,
    by simp only [XcmExecutor.dropErrorHandler, XcmExecutor.pending, count] at short ⊢; omega⟩
  simp only [XcmExecutor.dropErrorHandler, XcmExecutor.account, Weight.allLte_iff,
    Weight.add_refTime, Weight.add_proofSize, Weight.zero_refTime, Weight.zero_proofSize]
    at bound ⊢
  omega

theorem process_accounted (vm : XcmExecutor) (s : σ) (index : Nat) (m : List Instruction)
    (inv : Accounted w vm m) :
    Accounted w (settle (process E maxInstructions vm s index m).2.1
      (process E maxInstructions vm s index m).1) [] := by
  induction m generalizing vm s index with
  | nil => exact dropErrorHandler_accounted inv
  | cons i rest ih =>
    simp only [process]
    split
    · exact ih _ _ _ (changes_accounted (processInstruction_ok ‹_›) inv)
    · exact failure_accounted inv

theorem takeErrorHandler_accounted {vm : XcmExecutor} (inv : Accounted w vm []) :
    Accounted w vm.takeErrorHandler.2 vm.takeErrorHandler.1 := by
  obtain ⟨bound, handler, appendix, short⟩ := inv
  refine ⟨?_, (messageWeight_nil _).symm, appendix,
    by simp only [XcmExecutor.takeErrorHandler, XcmExecutor.pending, count] at short ⊢; omega⟩
  simp only [XcmExecutor.takeErrorHandler, XcmExecutor.account, handler, messageWeight_nil,
    Weight.allLte_iff, Weight.add_refTime, Weight.add_proofSize, Weight.zero_refTime,
    Weight.zero_proofSize] at bound ⊢
  omega

theorem takeAppendix_accounted {vm : XcmExecutor} (inv : Accounted w vm []) :
    Accounted w vm.takeAppendix.2 vm.takeAppendix.1 := by
  obtain ⟨bound, handler, appendix, short⟩ := inv
  refine ⟨?_, handler, (messageWeight_nil _).symm,
    by simp only [XcmExecutor.takeAppendix, XcmExecutor.pending, count] at short ⊢; omega⟩
  simp only [XcmExecutor.takeAppendix, XcmExecutor.account, appendix, messageWeight_nil,
    Weight.allLte_iff, Weight.add_refTime, Weight.add_proofSize, Weight.zero_refTime,
    Weight.zero_proofSize] at bound ⊢
  omega

theorem afterProgram_accounted {vm : XcmExecutor} {result : Except ExecutorError Unit}
    (inv : Accounted w (settle vm result) []) :
    Accounted w (afterProgram vm result).2 (afterProgram vm result).1 := by
  cases result with
  | error e =>
    have taken := takeErrorHandler_accounted inv
    simp only [afterProgram, XcmExecutor.takeErrorHandler] at taken ⊢
    split
    · rename_i empty
      rw [List.isEmpty_iff] at empty
      exact takeAppendix_accounted (empty ▸ taken)
    · exact taken
  | ok u => exact takeAppendix_accounted inv

theorem executeLoop_accounted (fuel : Nat) (vm : XcmExecutor) (s : σ) (m : List Instruction)
    {vm' : XcmExecutor} {s' : σ} (inv : Accounted w vm m)
    (ran : executeLoop E maxInstructions fuel vm s m = some (vm', s')) : Accounted w vm' [] :=
  executeLoop_invariant (Accounted w)
    (fun vm s _ _ inv => afterProgram_accounted (process_accounted vm s 0 _ inv)) fuel vm s m inv ran

theorem accounted_new {maxInstructions : Nat}
    {expectingResponse : MultiLocation → QueryId → Option MultiLocation → Bool}
    {origin : MultiLocation} {message : List Instruction} {weightLimit weightCredit : Weight}
    {admitted : Admitted} (short : count message < 2 ^ 32)
    (front : executeXcmInCredit maxInstructions expectingResponse origin message weightLimit
      weightCredit = .ok admitted) :
    Accounted admitted.weight (.new origin) admitted.message := by
  obtain ⟨counted, prepaid⟩ := executeXcmInCredit_admitted short front
  refine ⟨?_, (messageWeight_nil _).symm, (messageWeight_nil _).symm, ?_⟩
  · simp only [prepaid, XcmExecutor.account, XcmExecutor.new, Weight.allLte_iff,
      Weight.add_refTime, Weight.add_proofSize, Weight.zero_refTime, Weight.zero_proofSize]
    omega
  · simp only [XcmExecutor.new, XcmExecutor.pending, count, counted]
    omega

end

/-- No weight is made or lost while a message runs: the surplus never exceeds the prepaid weight,
    so the weight `post_process` reports as used and the surplus it refunds add up to the weight the
    message was prepaid. -/
theorem weight_used_add_surplus (E : Effects σ) (maxInstructions : Nat)
    (expectingResponse : MultiLocation → QueryId → Option MultiLocation → Bool)
    (origin : MultiLocation) (message : List Instruction) (weightLimit weightCredit : Weight)
    (admitted : Admitted) (fuel : Nat) (s : σ) (vm : XcmExecutor) (s' : σ)
    (short : count message < 2 ^ 32)
    (front : executeXcmInCredit maxInstructions expectingResponse origin message weightLimit
      weightCredit = .ok admitted)
    (ran : executeLoop E maxInstructions fuel (.new origin) s admitted.message = some (vm, s')) :
    (postProcess vm admitted.weight).weightUsed + vm.totalSurplus = admitted.weight := by
  have bound := (executeLoop_accounted fuel _ s _ (accounted_new short front) ran).bound
  simp only [XcmExecutor.account, Weight.allLte_iff, Weight.add_refTime, Weight.add_proofSize]
    at bound
  rw [postProcess_weightUsed]
  ext <;> simp only [Weight.add_refTime, Weight.add_proofSize, Weight.saturatingSub_refTime,
    Weight.saturatingSub_proofSize] <;> omega

theorem weight_used_add_surplus_transact :
    count [.withdrawAsset, .buyExecution .unlimited, .transact ⟨1, 1⟩] < 2 ^ 32 ∧
      executeXcmInCredit 100 (fun _ _ _ => false) ⟨1, .x1 (.parachain 2015)⟩
          [.withdrawAsset, .buyExecution .unlimited, .transact ⟨1, 1⟩] ⟨10 ^ 12, 10 ^ 7⟩ .zero =
        .ok ⟨⟨600000001, 393217⟩, [.withdrawAsset, .buyExecution (.limited ⟨600000001, 393217⟩),
          .transact ⟨1, 1⟩], .zero⟩ ∧
      executeLoop (⟨fun _ _ e s => (.ok e, s), fun s => (some (.native, ⟨1, 1⟩), s),
          fun _ s => (some .zero, s + 1), fun _ _ s => s⟩ : Effects Nat) 100 4
          (.new ⟨1, .x1 (.parachain 2015)⟩) 0
          [.withdrawAsset, .buyExecution (.limited ⟨600000001, 393217⟩), .transact ⟨1, 1⟩] =
        some (⟨some ⟨1, .x1 (.parachain 2015)⟩, ⟨1, .x1 (.parachain 2015)⟩, none, ⟨1, 1⟩, [],
          .zero, [], .zero⟩, 1) ∧
      (postProcess ⟨some ⟨1, .x1 (.parachain 2015)⟩, ⟨1, .x1 (.parachain 2015)⟩, none, ⟨1, 1⟩, [],
          .zero, [], .zero⟩ ⟨600000001, 393217⟩).weightUsed + ⟨1, 1⟩ = ⟨600000001, 393217⟩ := by
  refine ⟨by decide, ?front, ?ran,
    weight_used_add_surplus _ _ _ _ _ _ _ _ _ _ _ _ (by decide) ?front ?ran⟩ <;> rfl

/- A failure credits the instructions it skips: the trailing instruction never runs, and its unit
   of weight is refunded. -/
example : (executeAdmitted (⟨fun _ _ e s => (.ok e, s), fun s => (none, s), fun _ s => (none, s),
      fun _ _ s => s⟩ : Effects Nat) 100 4 ⟨1, .x1 (.parachain 2015)⟩
      ⟨⟨600000000, 393216⟩, [.clearOrigin, .withdrawAsset, .other], .zero⟩ 0).map Prod.fst =
    some (.incomplete ⟨400000000, 262144⟩ .badOrigin) := by
  decide

end Vm

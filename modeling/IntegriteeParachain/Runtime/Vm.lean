import IntegriteeParachain.Runtime.Executor
import IntegriteeParachain.Runtime.OriginConverter

/-!
The XCM virtual machine of `XcmExecutor<XcmExecutorConfig>`, which runs a message the barrier has
admitted: `execute` processes the message, then its error handler or its appendix, until nothing is
left to run, and `post_process` reports the weight used. The model carries the registers the
runtime's configuration decides: the origin, which `ClearOrigin` empties and `DescendOrigin`
extends (no other instruction changes it, `UniversalAliases` being `Nothing`), the original origin,
the error, the error handler and the appendix with the weights the runtime's weigher gives them,
and the total surplus. The holding register, the trader, the chain's storage and the payloads that
`Instruction` leaves out are a state `σ`, on which `Effects` act. A `Transact` converts its origin
with `XcmOriginToTransactDispatchOrigin`, and `SafeCallFilter` lets every call through.
`Changes` says once what an instruction that succeeds does to the registers; every invariant of the
executor is derived from it, here the one that ends the loop (`executeAdmitted_terminates`).
-/
namespace Vm
open Xcm LocationToAccountId OriginConverter Weigher Executor

variable {σ : Type}

/-- What the parts of an execution the model does not carry do, over the hidden state `σ`. -/
structure Effects (σ : Type) where
  /-- An instruction whose data the model does not carry, given the origin and error registers:
      the error register it leaves (only `ClearError` changes it), or the error it fails with. -/
  run : Instruction → Option MultiLocation → Option (Nat × XcmError) → σ →
    Except XcmError (Option (Nat × XcmError)) × σ
  /-- `call.take_decoded()` of a `Transact`: its `origin_kind` and the weight its call declares. -/
  decode : σ → Option (OriginKind × Weight) × σ
  /-- `CallDispatcher::dispatch` from the converted origin: the actual weight the call reports. -/
  dispatch : RuntimeOrigin → σ → Option Weight × σ
  /-- The end of `post_process`: `refund_surplus` of the total surplus through the trader, and the
      trap of what is left in holding for the effective origin. -/
  finish : MultiLocation → Weight → σ → σ

/-- The registers of `XcmExecutor` the model carries. -/
structure XcmExecutor where
  origin : Option MultiLocation
  originalOrigin : MultiLocation
  error : Option (Nat × XcmError)
  totalSurplus : Weight
  errorHandler : List Instruction
  errorHandlerWeight : Weight
  appendix : List Instruction
  appendixWeight : Weight

namespace XcmExecutor

def new (origin : MultiLocation) : XcmExecutor :=
  ⟨some origin, origin, none, .zero, [], .zero, [], .zero⟩

def takeErrorHandler (vm : XcmExecutor) : List Instruction × XcmExecutor :=
  (vm.errorHandler, { vm with errorHandler := [], errorHandlerWeight := .zero })

/-- `drop_error_handler`: the handler's weight is refunded. -/
def dropErrorHandler (vm : XcmExecutor) : XcmExecutor :=
  { vm with
    errorHandler := []
    totalSurplus := vm.totalSurplus.saturatingAdd vm.errorHandlerWeight
    errorHandlerWeight := .zero }

def takeAppendix (vm : XcmExecutor) : List Instruction × XcmExecutor :=
  (vm.appendix, { vm with appendix := [], appendixWeight := .zero })

end XcmExecutor

/-- The instructions that start with `self.origin_ref().ok_or(XcmError::BadOrigin)?` and then act
    on what the model does not carry. -/
def readsOrigin : Instruction → Bool
  | .withdrawAsset | .reserveAssetDeposited | .receiveTeleportedAsset | .queryResponse _ _
  | .transferReserveAsset _ | .claimAsset => true
  | _ => false

def runEffect (E : Effects σ) (vm : XcmExecutor) (s : σ) (i : Instruction) :
    Except XcmError XcmExecutor × σ :=
  let (result, s) := E.run i vm.origin vm.error s
  (result.map fun error => { vm with error }, s)

/-- `SubscribeVersion` and `UnsubscribeVersion`: a derivative origin may not (un)subscribe. -/
def forOriginalOrigin (E : Effects σ) (vm : XcmExecutor) (s : σ) (i : Instruction) :
    Except XcmError XcmExecutor × σ :=
  match vm.origin with
  | none => (.error .badOrigin, s)
  | some origin => if origin = vm.originalOrigin then runEffect E vm s i else (.error .badOrigin, s)

/-- `Transact` once its origin is known: the call is decoded, its origin converted, its declared
    weight checked, and the weight it did not use credited to the surplus. -/
def transact (E : Effects σ) (vm : XcmExecutor) (s : σ) (origin : MultiLocation)
    (requireWeightAtMost : Weight) : Except XcmError XcmExecutor × σ :=
  match E.decode s with
  | (none, s) => (.error .failedToDecode, s)
  | (some (kind, callWeight), s) =>
      match xcmOriginToTransactDispatchOrigin origin kind with
      | none => (.error .badOrigin, s)
      | some dispatchOrigin =>
          if callWeight.allLte requireWeightAtMost then
            let (actual, s) := E.dispatch dispatchOrigin s
            (.ok { vm with totalSurplus :=
              vm.totalSurplus.saturatingAdd (callWeight.saturatingSub (actual.getD callWeight)) }, s)
          else (.error .maxWeightInvalid, s)

/-- `XcmExecutor::process_instruction`. The nested programs of `SetErrorHandler` and `SetAppendix`
    are weighed by the runtime's `Weigher`. -/
def processInstruction (E : Effects σ) (maxInstructions : Nat) (vm : XcmExecutor) (s : σ) :
    Instruction → Except XcmError XcmExecutor × σ
  | .clearOrigin => (.ok { vm with origin := none }, s)
  | .descendOrigin who =>
      match vm.origin with
      | none => (.error .badOrigin, s)
      | some origin =>
          match origin.appendWith who with
          | none => (.error .locationFull, s)
          | some origin => (.ok { vm with origin := some origin }, s)
  | .setErrorHandler handler =>
      match weight unitWeightCost maxInstructions handler with
      | none => (.error .weightNotComputable, s)
      | some w =>
          (.ok { vm with
            totalSurplus := vm.totalSurplus.saturatingAdd vm.errorHandlerWeight
            errorHandler := handler
            errorHandlerWeight := w }, s)
  | .setAppendix appendix =>
      match weight unitWeightCost maxInstructions appendix with
      | none => (.error .weightNotComputable, s)
      | some w =>
          (.ok { vm with
            totalSurplus := vm.totalSurplus.saturatingAdd vm.appendixWeight
            appendix := appendix
            appendixWeight := w }, s)
  | .transact requireWeightAtMost =>
      match vm.origin with
      | none => (.error .badOrigin, s)
      | some origin => transact E vm s origin requireWeightAtMost
  | .subscribeVersion => forOriginalOrigin E vm s .subscribeVersion
  | .unsubscribeVersion => forOriginalOrigin E vm s .unsubscribeVersion
  | i => if readsOrigin i && vm.origin.isNone then (.error .badOrigin, s) else runEffect E vm s i

/-- `ExecutorError`: the index and error of the instruction that failed, and the weight of the
    instructions after it, which never ran. -/
structure ExecutorError where
  index : Nat
  xcmError : XcmError
  weight : Weight

/-- `Config::Weigher::instr_weight`: an instruction weighed alone, with `u32::MAX` instructions to
    spare. -/
def instrWeight (i : Instruction) : Option Weight :=
  (instrWeightWithLimit unitWeightCost i 4294967295).map Prod.fst

/-- The instructions after a failed one: each weight the weigher gives is added to the error's. -/
def skipWeight (acc : Weight) : List Instruction → Weight
  | [] => acc
  | i :: rest =>
      skipWeight (match instrWeight i with
        | some w => acc.saturatingAdd w
        | none => acc) rest

/-- `XcmExecutor::process`: the instructions in order until one fails; `index` is the position of
    the next one. -/
def process (E : Effects σ) (maxInstructions : Nat) (vm : XcmExecutor) (s : σ) (index : Nat) :
    List Instruction → Except ExecutorError Unit × XcmExecutor × σ
  | [] => (.ok (), vm, s)
  | i :: rest =>
      match processInstruction E maxInstructions vm s i with
      | (.ok vm, s) => process E maxInstructions vm s (index + 1) rest
      | (.error e, s) => (.error ⟨index, e, skipWeight .zero rest⟩, vm, s)

/-- The registers once a program has run: a failure's skipped weight joins the surplus and the
    failure is recorded; after a success the error handler is dropped, with a refund of its
    weight. -/
def settle (vm : XcmExecutor) : Except ExecutorError Unit → XcmExecutor
  | .error error =>
      { vm with
        totalSurplus := vm.totalSurplus.saturatingAdd error.weight
        error := some (error.index, error.xcmError) }
  | .ok () => vm.dropErrorHandler

/-- What the loop of `execute` runs after a program: the error handler if the program failed and
    there is one, else the appendix. -/
def afterProgram (vm : XcmExecutor) (result : Except ExecutorError Unit) :
    List Instruction × XcmExecutor :=
  match result with
  | .error _ =>
      let (handler, vm) := (settle vm result).takeErrorHandler
      if handler.isEmpty then vm.takeAppendix else (handler, vm)
  | .ok () => (settle vm result).takeAppendix

/-- The `while !message.0.is_empty()` loop of `ExecuteXcm::execute`, on at most `fuel` rounds. -/
def executeLoop (E : Effects σ) (maxInstructions : Nat) :
    Nat → XcmExecutor → σ → List Instruction → Option (XcmExecutor × σ)
  | _, vm, s, [] => some (vm, s)
  | 0, _, _, _ :: _ => none
  | fuel + 1, vm, s, i :: rest =>
      let (result, vm, s) := process E maxInstructions vm s 0 (i :: rest)
      let (next, vm) := afterProgram vm result
      executeLoop E maxInstructions fuel vm s next

inductive Outcome where
  | complete (used : Weight)
  | incomplete (used : Weight) (error : XcmError)
  | error (error : XcmError)
  deriving DecidableEq

def Outcome.weightUsed : Outcome → Weight
  | .complete used | .incomplete used _ => used
  | .error _ => .zero

/-- The outcome `post_process` reports: the prepaid weight less the surplus, and the error if one
    is left. `PolkadotXcm`'s `drop_assets` reports no weight for a trap. -/
def postProcess (vm : XcmExecutor) (xcmWeight : Weight) : Outcome :=
  let used := xcmWeight.saturatingSub vm.totalSurplus
  match vm.error with
  | none => .complete used
  | some (_, e) => .incomplete used e

/-- `ExecuteXcm::execute` after the barrier: a new executor for `origin` runs the admitted message,
    and `post_process` ends the execution. -/
def executeAdmitted (E : Effects σ) (maxInstructions fuel : Nat) (origin : MultiLocation)
    (admitted : Admitted) (s : σ) : Option (Outcome × σ) :=
  (executeLoop E maxInstructions fuel (.new origin) s admitted.message).map fun (vm, s) =>
    (postProcess vm admitted.weight, E.finish (vm.origin.getD vm.originalOrigin) vm.totalSurplus s)

/-- `ExecuteXcm::execute_xcm_in_credit` of `XcmExecutor<XcmExecutorConfig>`: the front, then the
    virtual machine. -/
def executeInCredit (E : Effects σ) (maxInstructions : Nat)
    (expectingResponse : MultiLocation → QueryId → Option MultiLocation → Bool) (fuel : Nat)
    (origin : MultiLocation) (message : List Instruction) (weightLimit weightCredit : Weight)
    (s : σ) : Option (Outcome × σ) :=
  match executeXcmInCredit maxInstructions expectingResponse origin message weightLimit
      weightCredit with
  | .error e => some (.error e, s)
  | .ok admitted => executeAdmitted E maxInstructions fuel origin admitted s

/-! ### One instruction -/

/-- What an instruction that succeeds can do to the registers the model carries. -/
inductive Changes (maxInstructions : Nat) (vm : XcmExecutor) : Instruction → XcmExecutor → Prop where
  | clearOrigin : Changes maxInstructions vm .clearOrigin { vm with origin := none }
  | descendOrigin {l l' : MultiLocation} {who : Junctions} (current : vm.origin = some l)
      (appended : l.appendWith who = some l') :
      Changes maxInstructions vm (.descendOrigin who) { vm with origin := some l' }
  | setErrorHandler {handler : List Instruction} {w : Weight}
      (weighed : weight unitWeightCost maxInstructions handler = some w) :
      Changes maxInstructions vm (.setErrorHandler handler) { vm with
        totalSurplus := vm.totalSurplus.saturatingAdd vm.errorHandlerWeight
        errorHandler := handler
        errorHandlerWeight := w }
  | setAppendix {appendix : List Instruction} {w : Weight}
      (weighed : weight unitWeightCost maxInstructions appendix = some w) :
      Changes maxInstructions vm (.setAppendix appendix) { vm with
        totalSurplus := vm.totalSurplus.saturatingAdd vm.appendixWeight
        appendix := appendix
        appendixWeight := w }
  | transact {requireWeightAtMost refund : Weight}
      (refunded : refund.allLte requireWeightAtMost = true) :
      Changes maxInstructions vm (.transact requireWeightAtMost)
        { vm with totalSurplus := vm.totalSurplus.saturatingAdd refund }
  | effect {i : Instruction} (error : Option (Nat × XcmError)) :
      Changes maxInstructions vm i { vm with error }

section
variable {E : Effects σ} {maxInstructions : Nat} {vm vm' : XcmExecutor} {s s' : σ}

theorem runEffect_ok {i : Instruction} (h : runEffect E vm s i = (.ok vm', s')) :
    ∃ error, vm' = { vm with error } := by
  unfold runEffect at h
  cases run : (E.run i vm.origin vm.error s).1 with
  | error e => simp [run, Except.map] at h
  | ok error =>
    simp only [run, Except.map, Prod.mk.injEq, Except.ok.injEq] at h
    exact ⟨error, h.1.symm⟩

theorem forOriginalOrigin_ok {i : Instruction} (h : forOriginalOrigin E vm s i = (.ok vm', s')) :
    ∃ error, vm' = { vm with error } := by
  unfold forOriginalOrigin at h
  split at h
  · cases h
  · split at h
    · exact runEffect_ok h
    · cases h

theorem saturatingSub_allLte {a b c : Weight} (le : a.allLte c = true) :
    (a.saturatingSub b).allLte c = true := by
  simp only [Weight.allLte, Weight.saturatingSub, Bool.and_eq_true, decide_eq_true_eq] at le ⊢
  omega

theorem transact_ok {l : MultiLocation} {r : Weight} (h : transact E vm s l r = (.ok vm', s')) :
    ∃ refund : Weight, refund.allLte r = true ∧
      vm' = { vm with totalSurplus := vm.totalSurplus.saturatingAdd refund } := by
  unfold transact at h
  split at h
  · cases h
  · split at h
    · cases h
    · split at h
      · cases h
        exact ⟨_, saturatingSub_allLte ‹_›, rfl⟩
      · cases h

/-- An instruction that succeeds makes one of the `Changes`; every invariant below is derived
    from this. -/
theorem processInstruction_ok {i : Instruction}
    (h : processInstruction E maxInstructions vm s i = (.ok vm', s')) :
    Changes maxInstructions vm i vm' := by
  cases i with
  | clearOrigin => cases h; exact .clearOrigin
  | descendOrigin who =>
    simp only [processInstruction] at h
    split at h
    · cases h
    · split at h
      · cases h
      · cases h
        exact .descendOrigin ‹_› ‹_›
  | setErrorHandler handler =>
    simp only [processInstruction] at h
    split at h
    · cases h
    · cases h
      exact .setErrorHandler ‹_›
  | setAppendix appendix =>
    simp only [processInstruction] at h
    split at h
    · cases h
    · cases h
      exact .setAppendix ‹_›
  | transact r =>
    simp only [processInstruction] at h
    split at h
    · cases h
    · obtain ⟨refund, refunded, rfl⟩ := transact_ok h
      exact .transact refunded
  | subscribeVersion | unsubscribeVersion =>
    obtain ⟨error, rfl⟩ := forOriginalOrigin_ok h
    exact .effect error
  | _ =>
    simp only [processInstruction] at h
    split at h
    · cases h
    · obtain ⟨error, rfl⟩ := runEffect_ok h
      exact .effect error

end

/-! ### The loop ends -/

def XcmExecutor.pending (vm : XcmExecutor) : Nat := count vm.errorHandler + count vm.appendix

section
variable {E : Effects σ} {maxInstructions : Nat}

theorem changes_pending {vm vm' : XcmExecutor} {i : Instruction}
    (h : Changes maxInstructions vm i vm') : vm'.pending ≤ innerCount i + vm.pending := by
  cases h <;> simp only [XcmExecutor.pending, innerCount] <;> omega

theorem process_pending (vm : XcmExecutor) (s : σ) (index : Nat) (m : List Instruction) :
    (process E maxInstructions vm s index m).2.1.pending ≤ count m + vm.pending := by
  induction m generalizing vm s index with
  | nil => simp [process, count]
  | cons i rest ih =>
    simp only [process, count]
    split
    · rename_i vm₁ s₁ ran
      have := changes_pending (processInstruction_ok ran)
      have := ih vm₁ s₁ (index + 1)
      omega
    · dsimp only
      omega

/-- A round that runs a program leaves fewer instructions pending than the program and the
    registers held before it. -/
theorem process_pending_lt (vm : XcmExecutor) (s : σ) (index : Nat) (i : Instruction)
    (rest : List Instruction) :
    (process E maxInstructions vm s index (i :: rest)).2.1.pending < count (i :: rest) + vm.pending := by
  simp only [process, count]
  split
  · rename_i vm₁ s₁ ran
    have := changes_pending (processInstruction_ok ran)
    have := @process_pending _ E maxInstructions vm₁ s₁ (index + 1) rest
    omega
  · dsimp only
    omega

theorem afterProgram_pending (vm : XcmExecutor) (result : Except ExecutorError Unit) :
    count (afterProgram vm result).1 + (afterProgram vm result).2.pending ≤ vm.pending := by
  cases result with
  | error e =>
    simp only [afterProgram, settle, XcmExecutor.takeErrorHandler, XcmExecutor.takeAppendix]
    split <;> simp [XcmExecutor.pending, count]
  | ok u =>
    simp [afterProgram, settle, XcmExecutor.dropErrorHandler, XcmExecutor.takeAppendix,
      XcmExecutor.pending, count]

theorem executeLoop_succ_cons (fuel : Nat) (vm : XcmExecutor) (s : σ) (i : Instruction)
    (rest : List Instruction) :
    executeLoop E maxInstructions (fuel + 1) vm s (i :: rest) =
      executeLoop E maxInstructions fuel
        (afterProgram (process E maxInstructions vm s 0 (i :: rest)).2.1
          (process E maxInstructions vm s 0 (i :: rest)).1).2
        (process E maxInstructions vm s 0 (i :: rest)).2.2
        (afterProgram (process E maxInstructions vm s 0 (i :: rest)).2.1
          (process E maxInstructions vm s 0 (i :: rest)).1).1 := rfl

/-- The loop ends once it has more rounds than there are instructions to run, in the message and in
    the error handler and appendix already set. -/
theorem executeLoop_isSome (fuel : Nat) (vm : XcmExecutor) (s : σ) (m : List Instruction)
    (enough : count m + vm.pending < fuel) : (executeLoop E maxInstructions fuel vm s m).isSome := by
  induction fuel generalizing vm s m with
  | zero => omega
  | succ fuel ih =>
    cases m with
    | nil => rfl
    | cons i rest =>
      rw [executeLoop_succ_cons]
      apply ih
      have := afterProgram_pending (process E maxInstructions vm s 0 (i :: rest)).2.1
        (process E maxInstructions vm s 0 (i :: rest)).1
      have := @process_pending_lt _ E maxInstructions vm s 0 i rest
      omega

/-- A property of the registers and of the program still to run that every round keeps holds
    when the loop ends. -/
theorem executeLoop_invariant (P : XcmExecutor → List Instruction → Prop)
    (round : ∀ vm s i rest, P vm (i :: rest) →
      P (afterProgram (process E maxInstructions vm s 0 (i :: rest)).2.1
          (process E maxInstructions vm s 0 (i :: rest)).1).2
        (afterProgram (process E maxInstructions vm s 0 (i :: rest)).2.1
          (process E maxInstructions vm s 0 (i :: rest)).1).1)
    (fuel : Nat) (vm : XcmExecutor) (s : σ) (m : List Instruction) {vm' : XcmExecutor} {s' : σ}
    (inv : P vm m) (ran : executeLoop E maxInstructions fuel vm s m = some (vm', s')) :
    P vm' [] := by
  induction fuel generalizing vm s m with
  | zero =>
    cases m with
    | nil => cases ran; exact inv
    | cons => cases ran
  | succ fuel ih =>
    cases m with
    | nil => cases ran; exact inv
    | cons i rest =>
      rw [executeLoop_succ_cons] at ran
      exact ih _ _ _ (round vm s i rest inv) ran

theorem executeLoop_nil (fuel : Nat) (vm : XcmExecutor) (s : σ) :
    executeLoop E maxInstructions fuel vm s [] = some (vm, s) := by
  cases fuel <;> rfl

/-- Fuel is only a bound: a run that ends, ends the same with more. -/
theorem executeLoop_add_fuel (k : Nat) :
    ∀ (fuel : Nat) (vm : XcmExecutor) (s : σ) (m : List Instruction) {r : XcmExecutor × σ},
      executeLoop E maxInstructions fuel vm s m = some r →
        executeLoop E maxInstructions (fuel + k) vm s m = some r
  | _, vm, s, [], _, h => by rwa [executeLoop_nil] at h ⊢
  | 0, _, _, _ :: _, _, h => by cases h
  | fuel + 1, vm, s, i :: rest, _, h => by
    rw [executeLoop_succ_cons] at h
    rw [Nat.add_right_comm, executeLoop_succ_cons]
    exact executeLoop_add_fuel k fuel _ _ _ h

/-- Every admitted message runs to an outcome: the loop of `execute` never needs more rounds than
    the message has instructions, nested ones included, and every larger bound on the rounds gives
    the same outcome, so the fuel of the model stands for the unbounded loop of the source. -/
theorem executeAdmitted_terminates (origin : MultiLocation) (admitted : Admitted) (s : σ) :
    (executeAdmitted E maxInstructions (count admitted.message + 1) origin admitted s).isSome ∧
      ∀ fuel, count admitted.message + 1 ≤ fuel →
        executeAdmitted E maxInstructions fuel origin admitted s =
          executeAdmitted E maxInstructions (count admitted.message + 1) origin admitted s := by
  have ran := @executeLoop_isSome _ E maxInstructions
    (count admitted.message + 1) (.new origin) s admitted.message
    (by simp [XcmExecutor.new, XcmExecutor.pending, count])
  refine ⟨by simp only [executeAdmitted, Option.isSome_map', ran], fun fuel enough => ?_⟩
  obtain ⟨r, ended⟩ := Option.isSome_iff_exists.mp ran
  rw [executeAdmitted, executeAdmitted, ended, ← Nat.add_sub_cancel' enough,
    executeLoop_add_fuel _ _ _ _ _ ended]

/- A failure runs the error handler: `WithdrawAsset` fails once `ClearOrigin` has emptied the origin,
   and the handler's one instruction runs next. -/
example : executeAdmitted (⟨fun _ _ e s => (.ok e, s + 1), fun s => (none, s),
      fun _ s => (none, s), fun _ _ s => s⟩ : Effects Nat) 100 5 ⟨1, .x1 (.parachain 2015)⟩
      ⟨⟨800000000, 524288⟩, [.setErrorHandler [.other], .clearOrigin, .withdrawAsset], .zero⟩ 0 =
    some (.incomplete ⟨800000000, 524288⟩ .badOrigin, 1) := by
  decide

end

end Vm

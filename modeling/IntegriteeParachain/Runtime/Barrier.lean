import IntegriteeParachain.Xcm.Instruction

/-!
The runtime's `Barrier`: `DenyThenTry<DenyReserveTransferToRelayChain, (TakeWeightCredit,
AllowTopLevelPaidExecutionFrom<Everything>, AllowKnownQueryResponses<PolkadotXcm>,
AllowSubscriptionsFrom<Everything>)>`. The stages follow xcm-builder and parachains-common 1.0.0,
which read the message through `instructions.matcher()`: `match_next_inst`, `skip_inst_while` and
`match_next_inst_while` refuse a cursor already at the end with `BadFormat`, and
`assert_remaining_insts(1)` a message that is not a lone instruction. Each stage returns its
verdict with the two `&mut` arguments of `should_execute` as it leaves them.
`PolkadotXcm::expecting_response` reads pallet storage and is a parameter. `barrier_ok_iff` states
the admission policy the stages implement together.
-/
namespace Barrier
open Xcm

structure Verdict where
  result : Except Unit Unit
  instructions : List Instruction
  weightCredit : Weight

abbrev ShouldExecute := MultiLocation → List Instruction → Weight → Weight → Verdict

def everything (_ : MultiLocation) : Bool := true

def takeWeightCredit : ShouldExecute := fun _ instructions maxWeight weightCredit =>
  match weightCredit.checkedSub maxWeight with
  | some rest => ⟨.ok (), instructions, rest⟩
  | none => ⟨.error (), instructions, weightCredit⟩

def fundsHolding : Instruction → Bool
  | .receiveTeleportedAsset | .withdrawAsset | .reserveAssetDeposited | .claimAsset => true
  | _ => false

/-- The last `match_next_inst` of `AllowTopLevelPaidExecutionFrom`: a `BuyExecution` that pays for
    `maxWeight`, its limit set to `maxWeight`. -/
def acceptBuyExecution (maxWeight : Weight) : Instruction → Option Instruction
  | .buyExecution (.limited weight) =>
      if weight.allGte maxWeight then some (.buyExecution (.limited maxWeight)) else none
  | .buyExecution .unlimited => some (.buyExecution (.limited maxWeight))
  | _ => none

/-- `skip_inst_while(ClearOrigin)`, then `acceptBuyExecution`; both refuse the end of the window. -/
def skipClearOrigin (maxWeight : Weight) : List Instruction → Option (List Instruction)
  | [] => none
  | .clearOrigin :: rest => (skipClearOrigin maxWeight rest).map (.clearOrigin :: ·)
  | i :: rest => (acceptBuyExecution maxWeight i).map (· :: rest)

def paidExecution (maxWeight : Weight) : List Instruction → Option (List Instruction)
  | [] => none
  | i :: rest => if fundsHolding i then (skipClearOrigin maxWeight rest).map (i :: ·) else none

/-- `AllowTopLevelPaidExecutionFrom<T>`: matches within the first five instructions. -/
def allowTopLevelPaidExecutionFrom (allowed : MultiLocation → Bool) : ShouldExecute :=
  fun origin instructions maxWeight weightCredit =>
    if allowed origin then
      match paidExecution maxWeight (instructions.take 5) with
      | some window => ⟨.ok (), window ++ instructions.drop 5, weightCredit⟩
      | none => ⟨.error (), instructions, weightCredit⟩
    else ⟨.error (), instructions, weightCredit⟩

/-- `AllowKnownQueryResponses<ResponseHandler>`: `assert_remaining_insts(1)`, then the response. -/
def allowKnownQueryResponses
    (expectingResponse : MultiLocation → QueryId → Option MultiLocation → Bool) : ShouldExecute :=
  fun origin instructions _ weightCredit =>
    match instructions with
    | [.queryResponse queryId querier] =>
        if expectingResponse origin queryId querier then ⟨.ok (), instructions, weightCredit⟩
        else ⟨.error (), instructions, weightCredit⟩
    | _ => ⟨.error (), instructions, weightCredit⟩

def allowSubscriptionsFrom (allowed : MultiLocation → Bool) : ShouldExecute :=
  fun origin instructions _ weightCredit =>
    if allowed origin then
      match instructions with
      | [.subscribeVersion] | [.unsubscribeVersion] => ⟨.ok (), instructions, weightCredit⟩
      | _ => ⟨.error (), instructions, weightCredit⟩
    else ⟨.error (), instructions, weightCredit⟩

def reserveTransferToRelayChain : Instruction → Bool
  | .initiateReserveWithdraw reserve => reserve = .parent
  | .depositReserveAsset dest => dest = .parent
  | .transferReserveAsset dest => dest = .parent
  | _ => false

/-- `DenyReserveTransferToRelayChain`: `match_next_inst_while` over the top-level instructions, so
    it refuses the empty message as well. -/
def denyReserveTransferToRelayChain : ShouldExecute := fun _ instructions _ weightCredit =>
  if instructions.isEmpty || instructions.any reserveTransferToRelayChain then
    ⟨.error (), instructions, weightCredit⟩
  else ⟨.ok (), instructions, weightCredit⟩

/-- A tuple of barriers: the first that admits wins, each tried on what the previous left. -/
def tuple : List ShouldExecute → ShouldExecute
  | [] => fun _ instructions _ weightCredit => ⟨.error (), instructions, weightCredit⟩
  | barrier :: rest => fun origin instructions maxWeight weightCredit =>
      let verdict := barrier origin instructions maxWeight weightCredit
      match verdict.result with
      | .ok () => verdict
      | .error () => tuple rest origin verdict.instructions maxWeight verdict.weightCredit

def denyThenTry (deny allow : ShouldExecute) : ShouldExecute :=
  fun origin instructions maxWeight weightCredit =>
    let verdict := deny origin instructions maxWeight weightCredit
    match verdict.result with
    | .error () => verdict
    | .ok () => allow origin verdict.instructions maxWeight verdict.weightCredit

def allowAfterCredit (expectingResponse : MultiLocation → QueryId → Option MultiLocation → Bool) :
    List ShouldExecute :=
  [allowTopLevelPaidExecutionFrom everything, allowKnownQueryResponses expectingResponse,
    allowSubscriptionsFrom everything]

def barrier (expectingResponse : MultiLocation → QueryId → Option MultiLocation → Bool) :
    ShouldExecute :=
  denyThenTry denyReserveTransferToRelayChain
    (tuple (takeWeightCredit :: allowAfterCredit expectingResponse))

def Covers (maxWeight : Weight) : WeightLimit → Prop
  | .unlimited => True
  | .limited weight => weight.allGte maxWeight = true

/-- What `AllowTopLevelPaidExecutionFrom` admits: an instruction that puts assets in the holding,
    at most three `ClearOrigin`, then a `BuyExecution` whose limit pays for the message. -/
def PaidExecution (maxWeight : Weight) (m : List Instruction) : Prop :=
  ∃ i n limit rest, fundsHolding i = true ∧ n ≤ 3 ∧ Covers maxWeight limit ∧
    m = i :: List.replicate n .clearOrigin ++ .buyExecution limit :: rest

/-- What `AllowKnownQueryResponses` admits: a response the pallet is waiting for, alone. -/
def ExpectedResponse (expectingResponse : MultiLocation → QueryId → Option MultiLocation → Bool)
    (origin : MultiLocation) (m : List Instruction) : Prop :=
  ∃ queryId querier, m = [.queryResponse queryId querier] ∧
    expectingResponse origin queryId querier = true

def Subscription (m : List Instruction) : Prop :=
  m = [.subscribeVersion] ∨ m = [.unsubscribeVersion]

def WeightLimitRewritten (before after : List Instruction) : Prop :=
  after = before ∨ ∃ front back limit limit', before = front ++ .buyExecution limit :: back ∧
    after = front ++ .buyExecution limit' :: back

/-- What a stage that keeps the weight credit may leave behind for `m` and `c`: it rewrites at
    most one weight limit, and nothing at all when it refuses. -/
structure KeepsCredit (m : List Instruction) (c : Weight) (v : Verdict) : Prop where
  credit : v.weightCredit = c
  refused : v.result = .error () → v.instructions = m
  rewritten : WeightLimitRewritten m v.instructions

theorem keepsCredit_unchanged (r : Except Unit Unit) (m : List Instruction) (c : Weight) :
    KeepsCredit m c ⟨r, m, c⟩ :=
  ⟨rfl, fun _ => rfl, .inl rfl⟩

theorem acceptBuyExecution_some {w : Weight} {i i' : Instruction}
    (h : acceptBuyExecution w i = some i') :
    ∃ limit limit', i = .buyExecution limit ∧ i' = .buyExecution limit' := by
  unfold acceptBuyExecution at h
  split at h
  · split at h
    · cases h; exact ⟨_, _, rfl, rfl⟩
    · cases h
  · cases h; exact ⟨_, _, rfl, rfl⟩
  · cases h

theorem skipClearOrigin_some {w : Weight} {xs ys : List Instruction}
    (h : skipClearOrigin w xs = some ys) :
    ∃ front back limit limit', xs = front ++ .buyExecution limit :: back ∧
      ys = front ++ .buyExecution limit' :: back := by
  induction xs using skipClearOrigin.induct w generalizing ys with
  | case1 => cases h
  | case2 rest ih =>
    simp only [skipClearOrigin, Option.map_eq_some'] at h
    obtain ⟨zs, found, rfl⟩ := h
    obtain ⟨front, back, limit, limit', rfl, rfl⟩ := ih found
    exact ⟨.clearOrigin :: front, back, limit, limit', rfl, rfl⟩
  | case3 i rest notClear =>
    rw [skipClearOrigin.eq_3 w i rest notClear, Option.map_eq_some'] at h
    obtain ⟨i', accepted, rfl⟩ := h
    obtain ⟨limit, limit', rfl, rfl⟩ := acceptBuyExecution_some accepted
    exact ⟨[], rest, limit, limit', rfl, rfl⟩

theorem paidExecution_some {w : Weight} {xs ys : List Instruction}
    (h : paidExecution w xs = some ys) :
    ∃ front back limit limit', xs = front ++ .buyExecution limit :: back ∧
      ys = front ++ .buyExecution limit' :: back := by
  cases xs with
  | nil => cases h
  | cons i rest =>
    simp only [paidExecution] at h
    split at h
    · obtain ⟨zs, found, rfl⟩ := Option.map_eq_some'.mp h
      obtain ⟨front, back, limit, limit', rfl, rfl⟩ := skipClearOrigin_some found
      exact ⟨i :: front, back, limit, limit', rfl, rfl⟩
    · cases h

theorem allowTopLevelPaidExecutionFrom_cases (allowed : MultiLocation → Bool) (o : MultiLocation)
    (m : List Instruction) (w c : Weight) :
    allowTopLevelPaidExecutionFrom allowed o m w c = ⟨.error (), m, c⟩ ∨
      ∃ window, paidExecution w (m.take 5) = some window ∧
        allowTopLevelPaidExecutionFrom allowed o m w c = ⟨.ok (), window ++ m.drop 5, c⟩ := by
  simp only [allowTopLevelPaidExecutionFrom]
  split
  · split
    · rename_i window found
      exact .inr ⟨window, found, rfl⟩
    · exact .inl rfl
  · exact .inl rfl

theorem allowTopLevelPaidExecutionFrom_keepsCredit (allowed : MultiLocation → Bool)
    (o : MultiLocation) (m : List Instruction) (w c : Weight) :
    KeepsCredit m c (allowTopLevelPaidExecutionFrom allowed o m w c) := by
  rcases allowTopLevelPaidExecutionFrom_cases allowed o m w c with refused | ⟨window, found, admitted⟩
  · rw [refused]
    exact keepsCredit_unchanged _ m c
  · rw [admitted]
    obtain ⟨front, back, limit, limit', split, rfl⟩ := paidExecution_some found
    refine ⟨rfl, nofun, .inr ⟨front, back ++ m.drop 5, limit, limit', ?_, by simp⟩⟩
    conv_lhs => rw [← List.take_append_drop 5 m, split]
    simp

theorem allowKnownQueryResponses_eq
    (expectingResponse : MultiLocation → QueryId → Option MultiLocation → Bool)
    (o : MultiLocation) (m : List Instruction) (w c : Weight) :
    ∃ r, allowKnownQueryResponses expectingResponse o m w c = ⟨r, m, c⟩ := by
  simp only [allowKnownQueryResponses]
  split
  · split <;> exact ⟨_, rfl⟩
  · exact ⟨_, rfl⟩

theorem allowSubscriptionsFrom_eq (allowed : MultiLocation → Bool) (o : MultiLocation)
    (m : List Instruction) (w c : Weight) :
    ∃ r, allowSubscriptionsFrom allowed o m w c = ⟨r, m, c⟩ := by
  simp only [allowSubscriptionsFrom]
  split
  · split <;> exact ⟨_, rfl⟩
  · exact ⟨_, rfl⟩

theorem acceptBuyExecution_isSome_iff (w : Weight) (i : Instruction) :
    (acceptBuyExecution w i).isSome ↔ ∃ limit, i = .buyExecution limit ∧ Covers w limit := by
  cases i with
  | buyExecution limit =>
    cases limit with
    | unlimited => simp [acceptBuyExecution, Covers]
    | limited weight => simp only [acceptBuyExecution, Covers]; split <;> simp_all
  | _ => simp [acceptBuyExecution]

theorem skipClearOrigin_take_isSome_iff (w : Weight) (k : Nat) (xs : List Instruction) :
    (skipClearOrigin w (xs.take k)).isSome ↔ ∃ n limit rest, n < k ∧ Covers w limit ∧
      xs = List.replicate n .clearOrigin ++ .buyExecution limit :: rest := by
  induction k generalizing xs with
  | zero => simp [skipClearOrigin]
  | succ k ih =>
    cases xs with
    | nil => simp [skipClearOrigin]
    | cons j rest =>
      by_cases clear : j = .clearOrigin
      · subst clear
        simp only [List.take_succ_cons, skipClearOrigin, Option.isSome_map', ih]
        constructor
        · rintro ⟨n, limit, rest', lt, covers, rfl⟩
          exact ⟨n + 1, limit, rest', by omega, covers, rfl⟩
        · rintro ⟨_ | n, limit, rest', lt, covers, same⟩
          · simp at same
          · exact ⟨n, limit, rest', by omega, covers, by simpa [List.replicate_succ] using same⟩
      · rw [List.take_succ_cons, skipClearOrigin.eq_3 w j _ clear, Option.isSome_map',
          acceptBuyExecution_isSome_iff]
        constructor
        · rintro ⟨limit, rfl, covers⟩
          exact ⟨0, limit, rest, Nat.succ_pos k, covers, rfl⟩
        · rintro ⟨_ | n, limit, rest', lt, covers, same⟩
          · simp only [List.replicate_zero, List.nil_append, List.cons.injEq] at same
            exact ⟨limit, same.1, covers⟩
          · simp only [List.replicate_succ, List.cons_append, List.cons.injEq] at same
            exact absurd same.1 clear

theorem paidExecution_take_isSome_iff (w : Weight) (m : List Instruction) :
    (paidExecution w (m.take 5)).isSome ↔ PaidExecution w m := by
  cases m with
  | nil => simp [paidExecution, PaidExecution]
  | cons i t =>
    simp only [List.take_succ_cons, paidExecution]
    by_cases funds : fundsHolding i = true
    · rw [if_pos funds, Option.isSome_map', skipClearOrigin_take_isSome_iff]
      constructor
      · rintro ⟨n, limit, rest, lt, covers, rfl⟩
        exact ⟨i, n, limit, rest, funds, by omega, covers, rfl⟩
      · rintro ⟨i', n, limit, rest, -, le, covers, same⟩
        obtain ⟨rfl, rfl⟩ := List.cons.inj same
        exact ⟨n, limit, rest, by omega, covers, rfl⟩
    · rw [if_neg funds]
      simp only [Option.isSome_none, Bool.false_eq_true, false_iff]
      rintro ⟨i', n, limit, rest, funds', -, -, same⟩
      obtain ⟨rfl, -⟩ := List.cons.inj same
      exact funds funds'

theorem allowTopLevelPaidExecutionFrom_ok_iff (o : MultiLocation) (m : List Instruction)
    (w c : Weight) :
    (allowTopLevelPaidExecutionFrom everything o m w c).result = .ok () ↔ PaidExecution w m := by
  rw [← paidExecution_take_isSome_iff]
  simp only [allowTopLevelPaidExecutionFrom, everything, if_true]
  split <;> simp_all

theorem allowKnownQueryResponses_ok_iff
    (expectingResponse : MultiLocation → QueryId → Option MultiLocation → Bool)
    (o : MultiLocation) (m : List Instruction) (w c : Weight) :
    (allowKnownQueryResponses expectingResponse o m w c).result = .ok () ↔
      ExpectedResponse expectingResponse o m := by
  simp only [allowKnownQueryResponses, ExpectedResponse]
  split
  · split
    · exact iff_of_true rfl ⟨_, _, rfl, ‹_›⟩
    · simp_all
  · simp_all

theorem allowSubscriptionsFrom_ok_iff (o : MultiLocation) (m : List Instruction) (w c : Weight) :
    (allowSubscriptionsFrom everything o m w c).result = .ok () ↔ Subscription m := by
  simp only [allowSubscriptionsFrom, everything, if_true, Subscription]
  split <;> simp_all

theorem allowAfterCredit_keepsCredit
    (expectingResponse : MultiLocation → QueryId → Option MultiLocation → Bool) :
    ∀ b ∈ allowAfterCredit expectingResponse, ∀ o m w c, KeepsCredit m c (b o m w c) := by
  simp only [allowAfterCredit, List.mem_cons, List.mem_singleton, List.not_mem_nil, or_false]
  rintro b (rfl | rfl | rfl) o m w c
  · exact allowTopLevelPaidExecutionFrom_keepsCredit everything o m w c
  · obtain ⟨r, same⟩ := allowKnownQueryResponses_eq expectingResponse o m w c
    rw [same]
    exact keepsCredit_unchanged r m c
  · obtain ⟨r, same⟩ := allowSubscriptionsFrom_eq everything o m w c
    rw [same]
    exact keepsCredit_unchanged r m c

theorem tuple_keepsCredit {bs : List ShouldExecute}
    (stages : ∀ b ∈ bs, ∀ o m w c, KeepsCredit m c (b o m w c)) :
    ∀ o m w c, KeepsCredit m c (tuple bs o m w c) := by
  induction bs with
  | nil => exact fun o m w c => keepsCredit_unchanged _ m c
  | cons b rest ih =>
    intro o m w c
    have stage := stages b (.head _) o m w c
    cases admitted : (b o m w c).result with
    | error _ =>
      simp only [tuple, admitted]
      rw [stage.refused admitted, stage.credit]
      exact ih (fun b' mem => stages b' (.tail _ mem)) o m w c
    | ok _ =>
      simp only [tuple, admitted]
      exact stage

/-- A tuple of stages that leave the message and the credit alone when they refuse admits exactly
    when one of its stages admits the message as it came. -/
theorem tuple_ok_iff {bs : List ShouldExecute}
    (stages : ∀ b ∈ bs, ∀ o m w c, KeepsCredit m c (b o m w c)) (o : MultiLocation)
    (m : List Instruction) (w c : Weight) :
    (tuple bs o m w c).result = .ok () ↔ ∃ b ∈ bs, (b o m w c).result = .ok () := by
  induction bs with
  | nil => simp only [tuple, reduceCtorEq, List.not_mem_nil, false_and, exists_false]
  | cons b rest ih =>
    have stage := stages b (.head _) o m w c
    simp only [List.exists_mem_cons_iff]
    cases admitted : (b o m w c).result with
    | error _ =>
      simp only [tuple, admitted]
      rw [stage.refused admitted, stage.credit, ih (fun b' mem => stages b' (.tail _ mem))]
      simp only [reduceCtorEq, false_or]
    | ok _ => simp only [tuple, admitted, true_or]

theorem barrier_eq (expectingResponse : MultiLocation → QueryId → Option MultiLocation → Bool)
    (o : MultiLocation) (m : List Instruction) (w c : Weight) :
    barrier expectingResponse o m w c =
      if m.isEmpty || m.any reserveTransferToRelayChain then ⟨.error (), m, c⟩
      else match c.checkedSub w with
        | some rest => ⟨.ok (), m, rest⟩
        | none => tuple (allowAfterCredit expectingResponse) o m w c := by
  by_cases denied : (m.isEmpty || m.any reserveTransferToRelayChain) = true
  · simp [barrier, denyThenTry, denyReserveTransferToRelayChain, denied]
  · simp only [barrier, denyThenTry, denyReserveTransferToRelayChain, denied, Bool.false_eq_true,
      ↓reduceIte, tuple, takeWeightCredit]
    cases c.checkedSub w <;> rfl

theorem barrier_rewritten (expectingResponse : MultiLocation → QueryId → Option MultiLocation → Bool)
    (o : MultiLocation) (m : List Instruction) (w c : Weight) :
    WeightLimitRewritten m (barrier expectingResponse o m w c).instructions := by
  rw [barrier_eq]
  split
  · exact .inl rfl
  · split
    · exact .inl rfl
    · exact (tuple_keepsCredit (allowAfterCredit_keepsCredit expectingResponse) o m w c).rewritten

/-- The barrier's admission policy: no top-level reserve transfer to the relay chain, and either
    the weight credit pays for a message that is not empty, or the message pays for its execution,
    or it is an expected response, or a version subscription. -/
theorem barrier_ok_iff (expectingResponse : MultiLocation → QueryId → Option MultiLocation → Bool)
    (o : MultiLocation) (m : List Instruction) (w c : Weight) :
    (barrier expectingResponse o m w c).result = .ok () ↔
      m.any reserveTransferToRelayChain = false ∧
        ((m ≠ [] ∧ w.refTime ≤ c.refTime ∧ w.proofSize ≤ c.proofSize) ∨ PaidExecution w m ∨
          ExpectedResponse expectingResponse o m ∨ Subscription m) := by
  rw [barrier_eq]
  cases m with
  | nil => simp [PaidExecution, ExpectedResponse, Subscription]
  | cons i rest =>
    by_cases denied : (i :: rest).any reserveTransferToRelayChain = true
    · simp [denied]
    by_cases enough : w.refTime ≤ c.refTime ∧ w.proofSize ≤ c.proofSize
    · simp [denied, enough, Weight.checkedSub]
    · simp only [List.isEmpty_cons, Bool.false_or, denied, enough, Bool.false_eq_true, ↓reduceIte,
        Weight.checkedSub, tuple_ok_iff (allowAfterCredit_keepsCredit expectingResponse)]
      simp only [allowAfterCredit, List.exists_mem_cons_iff, List.not_mem_nil, false_and,
        exists_false, or_false, allowTopLevelPaidExecutionFrom_ok_iff,
        allowKnownQueryResponses_ok_iff, allowSubscriptionsFrom_ok_iff, denied, Bool.not_eq_true,
        true_and, false_or, ne_eq, List.cons_ne_nil, not_false_eq_true, enough]

theorem barrier_side_effects
    (expectingResponse : MultiLocation → QueryId → Option MultiLocation → Bool)
    (o : MultiLocation) (m : List Instruction) (w c : Weight) :
    (∀ b ∈ denyReserveTransferToRelayChain :: takeWeightCredit :: allowAfterCredit expectingResponse,
      (b o m w c).result = .error () → (b o m w c).instructions = m ∧ (b o m w c).weightCredit = c) ∧
    ((barrier expectingResponse o m w c).result = .error () →
      (barrier expectingResponse o m w c).instructions = m ∧
        (barrier expectingResponse o m w c).weightCredit = c) ∧
    ((barrier expectingResponse o m w c).result = .ok () →
      (barrier expectingResponse o m w c).weightCredit =
          (if w.refTime ≤ c.refTime ∧ w.proofSize ≤ c.proofSize then
            ⟨c.refTime - w.refTime, c.proofSize - w.proofSize⟩ else c) ∧
        WeightLimitRewritten m (barrier expectingResponse o m w c).instructions) := by
  have after := tuple_keepsCredit (allowAfterCredit_keepsCredit expectingResponse) o m w c
  refine ⟨?_, ?_⟩
  · simp only [List.mem_cons]
    rintro b (rfl | rfl | later) refused
    · simp only [denyReserveTransferToRelayChain]
      split <;> simp
    · cases credit : c.checkedSub w <;> simp_all [takeWeightCredit]
    · have stage := allowAfterCredit_keepsCredit expectingResponse b later o m w c
      exact ⟨stage.refused refused, stage.credit⟩
  rw [barrier_eq]
  by_cases denied : (m.isEmpty || m.any reserveTransferToRelayChain) = true
  · simp [denied]
  simp only [denied, Bool.false_eq_true, ↓reduceIte, Weight.checkedSub]
  by_cases enough : w.refTime ≤ c.refTime ∧ w.proofSize ≤ c.proofSize
  · simp [enough, WeightLimitRewritten]
  · simp only [enough, ↓reduceIte]
    exact ⟨fun refused => ⟨after.refused refused, after.credit⟩,
      fun _ => ⟨after.credit, after.rewritten⟩⟩

theorem barrier_denies_reserve_transfer_to_relay_chain
    (expectingResponse : MultiLocation → QueryId → Option MultiLocation → Bool)
    (o : MultiLocation) (m : List Instruction) (w c : Weight)
    (transfer : ∃ i ∈ m, reserveTransferToRelayChain i = true) :
    (barrier expectingResponse o m w c).result = .error () := by
  rw [barrier_eq, if_pos (by rw [List.any_eq_true.mpr transfer, Bool.or_true])]

theorem barrier_denies_paid_reserve_withdraw :
    (∃ i ∈ [.withdrawAsset, .buyExecution .unlimited, .initiateReserveWithdraw .parent],
      reserveTransferToRelayChain i = true) ∧
    (barrier (fun _ _ _ => true) ⟨1, .x1 (.parachain 2015)⟩
      [.withdrawAsset, .buyExecution .unlimited, .initiateReserveWithdraw .parent]
      ⟨1, 1⟩ ⟨2, 2⟩).result = .error () :=
  ⟨⟨.initiateReserveWithdraw .parent, by simp, by decide⟩,
    barrier_denies_reserve_transfer_to_relay_chain _ _ _ _ _
      ⟨.initiateReserveWithdraw .parent, by simp, by decide⟩⟩

theorem barrier_admits_nested_reserve_transfer_to_relay_chain :
    Nested (reserveTransferToRelayChain · = true)
      [.withdrawAsset, .buyExecution .unlimited, .setAppendix [.initiateReserveWithdraw .parent]] ∧
    (barrier (fun _ _ _ => false) ⟨1, .x1 (.parachain 2015)⟩
      [.withdrawAsset, .buyExecution .unlimited, .setAppendix [.initiateReserveWithdraw .parent]]
      ⟨1000, 1000⟩ ⟨0, 0⟩).result = .ok () :=
  ⟨.appendix (by simp) (.top (List.mem_singleton_self (.initiateReserveWithdraw .parent)) (by decide)),
    rfl⟩

end Barrier

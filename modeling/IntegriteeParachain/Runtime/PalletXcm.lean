import IntegriteeParachain.Runtime.Executor
import IntegriteeParachain.Runtime.LocationToAccountId
import IntegriteeParachain.Runtime.Router

/-!
What the runtime lets `pallet_xcm` do. `send` goes through `SendXcmOrigin`, which only root passes,
and the `XcmRouter` up to delivery. `do_reserve_transfer_assets`, behind `reserve_transfer_assets`
and `limited_reserve_transfer_assets`, makes every check of pallet_xcm in its order (the origin,
the number of assets, the filter, the fee asset and its reanchoring to the destination, the
weighing of both messages) and then has the executor run the transfer in credit of its own
weight, up to the barrier. `execute` and `teleport_assets` are closed by the runtime's filters
(`Nothing`) and are not modelled. Versioned arguments are taken as XCM v3 values, and the program
that `TransferReserveAsset` carries to the destination is left out with the assets, fees and
beneficiary it names.
-/
namespace PalletXcm
open Xcm LocationToAccountId Weigher Executor Router

/-- `EnsureXcmOrigin<RuntimeOrigin, Conversion>::try_origin`: the location the conversion gives,
    and otherwise `Here` for root, so that root can always act for the chain. -/
def ensureXcmOrigin (conversion : RuntimeOrigin → Option MultiLocation) (o : RuntimeOrigin) :
    Option MultiLocation :=
  match conversion o with
  | some location => some location
  | none =>
      match o with
      | .root => some .here
      | _ => none

def noConversion (_ : RuntimeOrigin) : Option MultiLocation := none

def sendXcmOrigin : RuntimeOrigin → Option MultiLocation := ensureXcmOrigin noConversion

def executeXcmOrigin : RuntimeOrigin → Option MultiLocation :=
  ensureXcmOrigin localOriginToLocation

def everything {α : Type} (_ : α) : Bool := true

def maxAssetsForTransfer : Nat := 2

/-- `UniversalLocation`: `X2(GlobalConsensus(RelayNetwork), Parachain(ParachainInfo::parachain_id()))`. -/
def universalLocation (selfParaId : UInt32) : Junctions :=
  .x2 (.globalConsensus .kusama) (.parachain selfParaId)

inductive Error where
  | badOrigin
  | invalidOrigin
  | filtered
  | tooManyAssets
  | empty
  | cannotReanchor
  | unweighableMessage
  | unreachable
  | sendFailure
  deriving DecidableEq

def Error.ofSendError : SendError → Error
  | .notApplicable => .unreachable
  | _ => .sendFailure

def okOr {α : Type} (o : Option α) (e : Error) : Except Error α :=
  match o with
  | some a => .ok a
  | none => .error e

def ensure (condition : Bool) (e : Error) : Except Error Unit :=
  if condition then .ok () else .error e

/-- `Pallet::send_xcm` up to delivery: `DescendOrigin` goes first unless the chain itself sends, and
    the message is validated by the `XcmRouter`. The price is charged only to an interior sender,
    and the routers ask none. -/
def sendXcm (versions : VersionState) (interior : Junctions) (dest : MultiLocation)
    (message : List Instruction) : Except SendError Ticket :=
  xcmRouter versions dest (if interior = .here then message else .descendOrigin interior :: message)

/-- `pallet_xcm::send` up to delivery: the origin must pass `SendXcmOrigin` and be interior to this
    chain. -/
def send (versions : VersionState) (origin : RuntimeOrigin) (dest : MultiLocation)
    (message : List Instruction) : Except Error Ticket :=
  match sendXcmOrigin origin with
  | none => .error .badOrigin
  | some location =>
      if location.parents = 0 then
        (sendXcm versions location.interior dest message).mapError Error.ofSendError
      else .error .invalidOrigin

theorem send_eq (versions : VersionState) (o : RuntimeOrigin) (dest : MultiLocation)
    (message : List Instruction) :
    send versions o dest message =
      match o with
      | .root => (xcmRouter versions dest message).mapError Error.ofSendError
      | _ => .error .badOrigin := by
  cases o <;> rfl

/-- Root's messages to anything but the relay chain or a sibling are `Unreachable`. -/
theorem send_unreachable_iff (versions : VersionState) (dest : MultiLocation)
    (message : List Instruction) :
    send versions .root dest message = .error .unreachable ↔
      dest ≠ .parent ∧ ∀ id, dest ≠ sibling id := by
  rw [send_eq, ← xcmRouter_notApplicable_iff versions dest message]
  cases xcmRouter versions dest message with
  | ok t => simp [Except.mapError]
  | error e => cases e <;> simp [Except.mapError, Error.ofSendError]

theorem weight_undeclared {message : List Instruction} (nothingDeclared : declared message = .zero)
    (short : count message ≤ 4) (maxInstructions : Nat) :
    weight unitWeightCost maxInstructions message =
      if count message ≤ maxInstructions then some (messageWeight unitWeightCost message)
      else none := by
  have fits : (messageWeight unitWeightCost message).Fits := by
    simp only [Weight.Fits, messageWeight_refTime, messageWeight_proofSize, nothingDeclared,
      Weight.zero_refTime, Weight.zero_proofSize, unitWeightCost_refTime, unitWeightCost_proofSize,
      Nat.reducePow]
    omega
  rw [weight_eq _ _ _ (by omega)]
  simp only [fits, and_true]

/-- The message `do_reserve_transfer_assets` executes: `SetFeesMode`, which neither the barrier
    nor the weigher tells apart, then `TransferReserveAsset` to `dest`. -/
def reserveTransferMessage (dest : MultiLocation) : List Instruction :=
  [.other, .transferReserveAsset dest]

/-- The end of `do_reserve_transfer_assets`: the message is weighed, then executed in credit of its
    own weight (`execute_xcm_in_credit(origin, message, hash, weight, weight)`). -/
def reserveTransferExecution (maxInstructions : Nat)
    (expectingResponse : MultiLocation → QueryId → Option MultiLocation → Bool)
    (origin dest : MultiLocation) : Except Error (Except XcmError Admitted) :=
  match weight unitWeightCost maxInstructions (reserveTransferMessage dest) with
  | none => .error .unweighableMessage
  | some w =>
      .ok (executeXcmInCredit maxInstructions expectingResponse origin (reserveTransferMessage dest)
        w w)

theorem messageWeight_reserveTransferMessage (dest : MultiLocation) :
    messageWeight unitWeightCost (reserveTransferMessage dest) = charge unitWeightCost 2 .zero :=
  rfl

theorem weight_reserveTransferMessage (maxInstructions : Nat) (dest : MultiLocation) :
    weight unitWeightCost maxInstructions (reserveTransferMessage dest) =
      if 2 ≤ maxInstructions then some (messageWeight unitWeightCost (reserveTransferMessage dest))
      else none :=
  @weight_undeclared (reserveTransferMessage dest) rfl (Nat.le_of_ble_eq_true rfl) maxInstructions

theorem reserveTransferExecution_ok_iff (maxInstructions : Nat)
    (expectingResponse : MultiLocation → QueryId → Option MultiLocation → Bool)
    (origin dest : MultiLocation) (outcome : Except XcmError Admitted) :
    reserveTransferExecution maxInstructions expectingResponse origin dest = .ok outcome ↔
      2 ≤ maxInstructions ∧
        outcome = executeXcmInCredit maxInstructions expectingResponse origin
          (reserveTransferMessage dest) (messageWeight unitWeightCost (reserveTransferMessage dest))
          (messageWeight unitWeightCost (reserveTransferMessage dest)) := by
  rw [reserveTransferExecution, weight_reserveTransferMessage]
  by_cases room : 2 ≤ maxInstructions
  · simp only [room, if_true, Except.ok.injEq, true_and, eq_comm]
  · simp [room]

/-- A reserve transfer from this chain to the relay chain is stopped by the barrier; to any other
    destination it passes, paid by the credit the pallet gives it. -/
theorem reserveTransferExecution_barrier (maxInstructions : Nat)
    (expectingResponse : MultiLocation → QueryId → Option MultiLocation → Bool)
    (origin dest : MultiLocation) (room : 2 ≤ maxInstructions) :
    (∃ outcome, reserveTransferExecution maxInstructions expectingResponse origin dest =
        .ok outcome ∧ (outcome = .error .barrier ↔ dest = .parent)) ∧
      (dest ≠ .parent → ∃ a, reserveTransferExecution maxInstructions expectingResponse origin
        dest = .ok (.ok a)) := by
  have weighed : weight unitWeightCost maxInstructions (reserveTransferMessage dest) =
      some (charge unitWeightCost 2 .zero) := by
    rw [weight_reserveTransferMessage, if_pos room, messageWeight_reserveTransferMessage]
  have denied : ((reserveTransferMessage dest).isEmpty ||
      (reserveTransferMessage dest).any Barrier.reserveTransferToRelayChain) =
        decide (dest = .parent) := by
    simp [reserveTransferMessage, Barrier.reserveTransferToRelayChain]
  simp only [reserveTransferExecution, weighed, executeXcmInCredit, Barrier.barrier_eq, denied]
  by_cases relay : dest = .parent
  · simp [relay, Weight.anyGt]
  · simp [relay, Weight.anyGt, Weight.checkedSub]

theorem reserveTransferExecution_barrier_sibling :
    2 ≤ 100 ∧
      (∃ outcome, reserveTransferExecution 100 (fun _ _ _ => false) .here (sibling 2015) =
          .ok outcome ∧ (outcome = .error .barrier ↔ sibling 2015 = .parent)) ∧
      (sibling 2015 ≠ .parent →
        ∃ a, reserveTransferExecution 100 (fun _ _ _ => false) .here (sibling 2015) = .ok (.ok a)) :=
  ⟨by decide, reserveTransferExecution_barrier 100 _ _ _ (by decide)⟩

/-- The message `do_reserve_transfer_assets` weighs for the destination when the caller gives no
    weight limit: `ReserveAssetDeposited`, `ClearOrigin`, `BuyExecution` limited to zero, and
    `DepositAsset`. -/
def remoteMessage : List Instruction :=
  [.reserveAssetDeposited, .clearOrigin, .buyExecution (.limited .zero), .other]

/-- The weight limit of the destination's `BuyExecution`: the caller's, or else the local weight of
    `remoteMessage`. -/
def remoteWeightLimit (maxInstructions : Nat) : Option WeightLimit → Except Error WeightLimit
  | some weightLimit => .ok weightLimit
  | none =>
      (okOr (weight unitWeightCost maxInstructions remoteMessage) .unweighableMessage).map .limited

/-- `Pallet::do_reserve_transfer_assets`. The fees as the destination sees them and the remote
    weight limit go into the program `TransferReserveAsset` carries, which is left out. -/
def doReserveTransferAssets (maxInstructions : Nat)
    (expectingResponse : MultiLocation → QueryId → Option MultiLocation → Bool)
    (selfParaId : UInt32) (origin : RuntimeOrigin) (dest : MultiLocation)
    (assets : List MultiAsset) (feeAssetItem : UInt32) (maybeWeightLimit : Option WeightLimit) :
    Except Error (Except XcmError Admitted) := do
  let originLocation ← okOr (executeXcmOrigin origin) .badOrigin
  ensure (assets.length ≤ maxAssetsForTransfer) .tooManyAssets
  ensure (everything (originLocation, assets)) .filtered
  let fee ← okOr assets[feeAssetItem.toNat]? .empty
  let _fees ← okOr (fee.reanchored dest (universalLocation selfParaId)) .cannotReanchor
  let _weightLimit ← remoteWeightLimit maxInstructions maybeWeightLimit
  reserveTransferExecution maxInstructions expectingResponse originLocation dest

def reserveTransferAssets (maxInstructions : Nat)
    (expectingResponse : MultiLocation → QueryId → Option MultiLocation → Bool)
    (selfParaId : UInt32) (origin : RuntimeOrigin) (dest : MultiLocation)
    (assets : List MultiAsset) (feeAssetItem : UInt32) : Except Error (Except XcmError Admitted) :=
  doReserveTransferAssets maxInstructions expectingResponse selfParaId origin dest assets
    feeAssetItem none

def limitedReserveTransferAssets (maxInstructions : Nat)
    (expectingResponse : MultiLocation → QueryId → Option MultiLocation → Bool)
    (selfParaId : UInt32) (origin : RuntimeOrigin) (dest : MultiLocation)
    (assets : List MultiAsset) (feeAssetItem : UInt32) (weightLimit : WeightLimit) :
    Except Error (Except XcmError Admitted) :=
  doReserveTransferAssets maxInstructions expectingResponse selfParaId origin dest assets
    feeAssetItem (some weightLimit)

theorem bind_eq_ok {α β : Type} {x : Except Error α} {f : α → Except Error β} {b : β} :
    x >>= f = .ok b ↔ ∃ a, x = .ok a ∧ f a = .ok b := by
  cases x <;> simp [bind, Except.bind]

@[simp] theorem okOr_eq_ok {α : Type} (o : Option α) (e : Error) (a : α) :
    okOr o e = .ok a ↔ o = some a := by
  cases o <;> simp [okOr]

@[simp] theorem ensure_eq_ok (condition : Bool) (e : Error) (u : Unit) :
    ensure condition e = .ok u ↔ condition = true := by
  cases condition <;> simp [ensure]

theorem weight_remoteMessage (maxInstructions : Nat) :
    weight unitWeightCost maxInstructions remoteMessage =
      if 4 ≤ maxInstructions then some (messageWeight unitWeightCost remoteMessage) else none :=
  weight_undeclared (by ext <;> rfl) (by decide) maxInstructions

theorem remoteWeightLimit_ok_iff (maxInstructions : Nat) (maybeWeightLimit : Option WeightLimit) :
    (∃ weightLimit, remoteWeightLimit maxInstructions maybeWeightLimit = .ok weightLimit) ↔
      (maybeWeightLimit = none → 4 ≤ maxInstructions) := by
  cases maybeWeightLimit with
  | some weightLimit => simp [remoteWeightLimit]
  | none =>
    simp only [remoteWeightLimit, weight_remoteMessage]
    split <;> simp_all [okOr, Except.map]

/-- A reserve transfer is attempted exactly when it passes the pallet's checks, in their order: the
    origin has a location, at most two assets are sent, the fee asset is one of them and the
    destination can address it, and `MaxInstructions` leaves room for the messages the pallet
    weighs. The attempt is the transfer message executed from the origin's location in credit of
    its own weight. -/
theorem doReserveTransferAssets_ok_iff (maxInstructions : Nat)
    (expectingResponse : MultiLocation → QueryId → Option MultiLocation → Bool)
    (selfParaId : UInt32) (origin : RuntimeOrigin) (dest : MultiLocation)
    (assets : List MultiAsset) (feeAssetItem : UInt32) (maybeWeightLimit : Option WeightLimit)
    (outcome : Except XcmError Admitted) :
    doReserveTransferAssets maxInstructions expectingResponse selfParaId origin dest assets
        feeAssetItem maybeWeightLimit = .ok outcome ↔
      ∃ l, executeXcmOrigin origin = some l ∧ assets.length ≤ maxAssetsForTransfer ∧
        ∃ fee, assets[feeAssetItem.toNat]? = some fee ∧ fee.id.Reanchorable dest ∧
          (maybeWeightLimit = none → 4 ≤ maxInstructions) ∧ 2 ≤ maxInstructions ∧
          outcome = executeXcmInCredit maxInstructions expectingResponse l
            (reserveTransferMessage dest) (messageWeight unitWeightCost (reserveTransferMessage dest))
            (messageWeight unitWeightCost (reserveTransferMessage dest)) := by
  simp only [doReserveTransferAssets, bind_eq_ok, okOr_eq_ok, ensure_eq_ok, everything,
    decide_eq_true_eq, true_and, exists_const, exists_and_right, reserveTransferExecution_ok_iff,
    ← Option.isSome_iff_exists, MultiAsset.reanchored_isSome_iff, remoteWeightLimit_ok_iff]

example : doReserveTransferAssets 100 (fun _ _ _ => false) 2015 .root (sibling 2000) [] 0 none =
    .error .empty := by
  rfl

end PalletXcm

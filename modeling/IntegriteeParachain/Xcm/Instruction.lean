import IntegriteeParachain.Xcm.Location

/-!
XCM v3 weights and instructions, as far as the runtime's barriers and weigher read them. An
instruction keeps the payload a barrier or the weigher inspects (a reserve or destination, a weight
limit, a query, a nested program, the weight a `Transact` declares) and `other` stands for every
instruction neither tells apart, such as `DepositAsset`. `DescendOrigin` is the instruction
`pallet_xcm` puts first when it sends for an interior location.
-/
namespace Xcm

/-- `Weight`: two `u64` components. -/
@[ext]
structure Weight where
  refTime : Nat
  proofSize : Nat
  deriving DecidableEq

namespace Weight

def zero : Weight := ⟨0, 0⟩

instance : Add Weight := ⟨fun a b => ⟨a.refTime + b.refTime, a.proofSize + b.proofSize⟩⟩

@[simp] theorem add_refTime (a b : Weight) : (a + b).refTime = a.refTime + b.refTime := rfl

@[simp] theorem add_proofSize (a b : Weight) : (a + b).proofSize = a.proofSize + b.proofSize := rfl

@[simp] theorem zero_refTime : zero.refTime = 0 := rfl

@[simp] theorem zero_proofSize : zero.proofSize = 0 := rfl

def Fits (w : Weight) : Prop := w.refTime < 2 ^ 64 ∧ w.proofSize < 2 ^ 64

instance (w : Weight) : Decidable w.Fits := inferInstanceAs (Decidable (_ ∧ _))

/-- `Weight::checked_add`: `None` when either component would overflow its `u64`. -/
def checkedAdd (a b : Weight) : Option Weight :=
  if a.refTime + b.refTime < 2 ^ 64 ∧ a.proofSize + b.proofSize < 2 ^ 64 then
    some ⟨a.refTime + b.refTime, a.proofSize + b.proofSize⟩
  else none

theorem checkedAdd_eq (a b : Weight) :
    a.checkedAdd b = if (a + b).Fits then some (a + b) else none := rfl

def anyGt (a b : Weight) : Bool := b.refTime < a.refTime || b.proofSize < a.proofSize

def allGte (a b : Weight) : Bool := b.refTime ≤ a.refTime && b.proofSize ≤ a.proofSize

/-- `Weight::checked_sub`: `None` when either component would underflow. -/
def checkedSub (a b : Weight) : Option Weight :=
  if b.refTime ≤ a.refTime ∧ b.proofSize ≤ a.proofSize then
    some ⟨a.refTime - b.refTime, a.proofSize - b.proofSize⟩
  else none

/-- `Weight::saturating_add`: each component stops at `u64::MAX`. -/
def saturatingAdd (a b : Weight) : Weight :=
  ⟨Min.min (a.refTime + b.refTime) (2 ^ 64 - 1), Min.min (a.proofSize + b.proofSize) (2 ^ 64 - 1)⟩

@[simp] theorem saturatingAdd_refTime (a b : Weight) :
    (a.saturatingAdd b).refTime = Min.min (a.refTime + b.refTime) (2 ^ 64 - 1) := rfl

@[simp] theorem saturatingAdd_proofSize (a b : Weight) :
    (a.saturatingAdd b).proofSize = Min.min (a.proofSize + b.proofSize) (2 ^ 64 - 1) := rfl

theorem saturatingAdd_le (a b : Weight) :
    (a.saturatingAdd b).refTime ≤ a.refTime + b.refTime ∧
      (a.saturatingAdd b).proofSize ≤ a.proofSize + b.proofSize := by
  simp only [saturatingAdd_refTime, saturatingAdd_proofSize]
  omega

/-- `Weight::saturating_sub`: each component stops at zero, as `Nat` subtraction does. -/
def saturatingSub (a b : Weight) : Weight := ⟨a.refTime - b.refTime, a.proofSize - b.proofSize⟩

@[simp] theorem saturatingSub_refTime (a b : Weight) :
    (a.saturatingSub b).refTime = a.refTime - b.refTime := rfl

@[simp] theorem saturatingSub_proofSize (a b : Weight) :
    (a.saturatingSub b).proofSize = a.proofSize - b.proofSize := rfl

def allLte (a b : Weight) : Bool := a.refTime ≤ b.refTime && a.proofSize ≤ b.proofSize

@[simp] theorem allLte_iff (a b : Weight) :
    a.allLte b = true ↔ a.refTime ≤ b.refTime ∧ a.proofSize ≤ b.proofSize := by
  simp [allLte]

def min (a b : Weight) : Weight := ⟨Min.min a.refTime b.refTime, Min.min a.proofSize b.proofSize⟩

/-- `Weight - Weight`, component-wise; callers only subtract what `min` left below. -/
def sub (a b : Weight) : Weight := ⟨a.refTime - b.refTime, a.proofSize - b.proofSize⟩

end Weight

inductive WeightLimit where
  | unlimited
  | limited (weight : Weight)
  deriving DecidableEq

abbrev QueryId := UInt64

inductive Instruction where
  | withdrawAsset
  | reserveAssetDeposited
  | receiveTeleportedAsset
  | queryResponse (queryId : QueryId) (querier : Option MultiLocation)
  | transferReserveAsset (dest : MultiLocation)
  | clearOrigin
  | depositReserveAsset (dest : MultiLocation)
  | initiateReserveWithdraw (reserve : MultiLocation)
  | buyExecution (weightLimit : WeightLimit)
  | transact (requireWeightAtMost : Weight)
  | descendOrigin (interior : Junctions)
  | setErrorHandler (xcm : List Instruction)
  | setAppendix (xcm : List Instruction)
  | claimAsset
  | subscribeVersion
  | unsubscribeVersion
  | other

/-- `p` holds of an instruction of the program, at top level or inside the program of a
    `SetAppendix` or `SetErrorHandler` at any depth, which the executor runs locally. -/
inductive Nested (p : Instruction → Prop) : List Instruction → Prop where
  | top {m : List Instruction} {i : Instruction} : i ∈ m → p i → Nested p m
  | appendix {m xcm : List Instruction} : .setAppendix xcm ∈ m → Nested p xcm → Nested p m
  | errorHandler {m xcm : List Instruction} : .setErrorHandler xcm ∈ m → Nested p xcm → Nested p m

end Xcm

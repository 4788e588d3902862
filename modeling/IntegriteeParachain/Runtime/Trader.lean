import IntegriteeParachain.Runtime.CurrencyIdConvert
import IntegriteeParachain.Xcm.Instruction

/-!
The runtime's `Trader`, `UsingComponents<IdentityFee<Balance>, SelfReserve, AccountId, Balances, ()>`
of xcm-builder: it sells weight for the asset `SelfReserve` at one unit per unit of `ref_time`
(`IdentityFee`) and buys unused weight back at the same price. Its state is the weight it has sold
and the amount it has been paid; a run is any sequence of `buy_weight` and `refund_weight` calls.
What it does with the amount when dropped is the balances pallet's business and is not modelled.
-/
namespace Trader
open Xcm CurrencyIdConvert

/-- The fungible part of `xcm_executor::Assets`, a `BTreeMap<AssetId, u128>`, as the balance it
    holds of each asset id. -/
structure Assets where
  fungible : AssetId → Option Nat

/-- `Assets::checked_sub` of a fungible asset: `id` must be held with a balance that covers
    `amount`; a balance brought to zero is removed. -/
def Assets.checkedSub (assets : Assets) (id : AssetId) (amount : Nat) : Option Assets :=
  match assets.fungible id with
  | some balance =>
      if amount ≤ balance then
        some ⟨Function.update assets.fungible id
          (if balance - amount = 0 then none else some (balance - amount))⟩
      else none
  | none => none

def weightToFee (weight : Weight) : Nat := weight.refTime

/-- The state of `UsingComponents`: the weight sold so far and the amount paid for it. -/
structure UsingComponents where
  weight : Weight
  amount : Nat

def new : UsingComponents := ⟨.zero, 0⟩

def saturatingAddBalance (a b : Nat) : Nat := min (a + b) (2 ^ 128 - 1)

inductive XcmError where
  | tooExpensive
  deriving DecidableEq

/-- `UsingComponents::buy_weight`. The fee fits in a `u128` (it is a `ref_time`), so the
    conversion to `u128` never fails. -/
def buyWeight (trader : UsingComponents) (weight : Weight) (payment : Assets) :
    Except XcmError (Assets × UsingComponents) :=
  let amount := weightToFee weight
  match payment.checkedSub (.concrete selfReserve) amount with
  | some unused =>
      .ok (unused, ⟨trader.weight.saturatingAdd weight, saturatingAddBalance trader.amount amount⟩)
  | none => .error .tooExpensive

def refundWeight (trader : UsingComponents) (weight : Weight) :
    Option MultiAsset × UsingComponents :=
  let weight := weight.min trader.weight
  let amount := weightToFee weight
  (if 0 < amount then some ⟨.concrete selfReserve, .fungible amount⟩ else none,
    ⟨trader.weight.sub weight, trader.amount - amount⟩)

def held (assets : Assets) : Nat := (assets.fungible (.concrete selfReserve)).getD 0

def refunded : Option MultiAsset → Nat
  | some ⟨_, .fungible amount⟩ => amount
  | _ => 0

theorem checkedSub_held {assets unused : Assets} {amount : Nat}
    (taken : assets.checkedSub (.concrete selfReserve) amount = some unused) :
    amount ≤ held assets ∧ held unused = held assets - amount := by
  unfold Assets.checkedSub at taken
  split at taken
  · rename_i balance holds
    split at taken
    · rename_i covers
      cases taken
      simp only [held, holds, Option.getD_some, Function.update_same]
      split <;> simp_all
    · cases taken
  · cases taken

theorem buyWeight_ok {trader trader' : UsingComponents} {weight : Weight} {payment unused : Assets}
    (bought : buyWeight trader weight payment = .ok (unused, trader')) :
    payment.checkedSub (.concrete selfReserve) (weightToFee weight) = some unused ∧
      trader' = ⟨trader.weight.saturatingAdd weight,
        saturatingAddBalance trader.amount (weightToFee weight)⟩ := by
  simp only [buyWeight] at bought
  split at bought
  · cases bought
    exact ⟨‹_›, rfl⟩
  · cases bought

theorem refunded_refundWeight (trader : UsingComponents) (weight : Weight) :
    refunded (refundWeight trader weight).1 = min weight.refTime trader.weight.refTime := by
  simp only [refundWeight, weightToFee, Weight.min]
  split
  · rfl
  · simp only [refunded]
    omega

/-- What the calls of a run have done: the trader, and the `SelfReserve` it has taken from
    payments and handed back as refunds. -/
structure Ledger where
  trader : UsingComponents
  paid : Nat
  refunded : Nat

inductive Call where
  | buy (weight : Weight) (payment : Assets)
  | refund (weight : Weight)

def step (ledger : Ledger) : Call → Ledger
  | .buy weight payment =>
      match buyWeight ledger.trader weight payment with
      | .ok (unused, trader) =>
          ⟨trader, ledger.paid + (held payment - held unused), ledger.refunded⟩
      | .error _ => ledger
  | .refund weight =>
      let (refund, trader) := refundWeight ledger.trader weight
      ⟨trader, ledger.paid, ledger.refunded + refunded refund⟩

def run (ledger : Ledger) (calls : List Call) : Ledger := calls.foldl step ledger

/-- The weight still sold is paid for, and no more was refunded than was paid: what is refunded
    is bought back from the weight sold, which never exceeds what was paid for it. -/
structure Solvent (ledger : Ledger) : Prop where
  sold : ledger.trader.weight.refTime + ledger.refunded ≤ ledger.paid
  covered : ledger.trader.weight.refTime ≤ ledger.trader.amount

theorem step_solvent {ledger : Ledger} (solvent : Solvent ledger) (call : Call) :
    Solvent (step ledger call) := by
  have ⟨sold, covered⟩ := solvent
  cases call with
  | buy weight payment =>
    simp only [step]
    split
    · rename_i unused trader bought
      obtain ⟨taken, rfl⟩ := buyWeight_ok bought
      have ⟨covers, left⟩ := checkedSub_held taken
      simp only [weightToFee] at covers left
      constructor <;> simp only [Weight.saturatingAdd, saturatingAddBalance, weightToFee] <;> omega
    · exact solvent
  | refund weight =>
    have back := refunded_refundWeight ledger.trader weight
    constructor
    · simp only [step]
      rw [back]
      simp only [refundWeight, Weight.sub, Weight.min, weightToFee]
      omega
    · simp only [step, refundWeight, Weight.sub, Weight.min, weightToFee]
      omega

theorem run_solvent {ledger : Ledger} (solvent : Solvent ledger) (calls : List Call) :
    Solvent (run ledger calls) := by
  induction calls generalizing ledger with
  | nil => exact solvent
  | cons call rest ih => exact ih (step_solvent solvent call)

/-- Over any run from a new trader, refunds never exceed what the payments gave. -/
theorem run_refunds_le_paid (calls : List Call) :
    (run ⟨new, 0, 0⟩ calls).refunded ≤ (run ⟨new, 0, 0⟩ calls).paid := by
  have start : Solvent ⟨new, 0, 0⟩ := ⟨by decide, by decide⟩
  have := (run_solvent start calls).sold
  omega

end Trader

import IntegriteeParachain.Runtime.CurrencyIdConvert
import IntegriteeParachain.Runtime.LocationToAccountId

/-!
`LocalAssetTransactor`: xcm-builder's `CurrencyAdapter<Balances, IsNativeConcrete<CurrencyId,
CurrencyIdConvert>, LocationToAccountId, AccountId, ()>`. The balances pallet is the interface
`Currency`, over any state: `withdraw` (with `WithdrawReasons::TRANSFER` and `AllowDeath`) may fail
with a reason, and `deposit_creating` always succeeds.
-/
namespace AssetTransactor
open Xcm CurrencyIdConvert LocationToAccountId

structure Currency (σ : Type) where
  withdraw : σ → AccountId → Nat → Except String σ
  depositCreating : σ → AccountId → Nat → σ

inductive XcmError where
  | assetNotFound
  | failedToTransactAsset (reason : String)
  deriving DecidableEq

/-- orml's `IsNativeConcrete<CurrencyId, CurrencyIdConvert>::matches_fungible`; the amount is a
    `u128` and converts to `Balance` unchanged. -/
def isNativeConcrete (selfParaId : UInt32) (asset : MultiAsset) : Option Nat :=
  match asset.fungibility, asset.id with
  | .fungible amount, .concrete location =>
      if (convertLocation selfParaId location).isSome then some amount else none
  | _, _ => none

def matchAndConvert (selfParaId : UInt32) (what : MultiAsset) (who : MultiLocation) :
    Except XcmError (Nat × AccountId) :=
  match isNativeConcrete selfParaId what with
  | none => .error .assetNotFound
  | some amount =>
      match locationToAccountId who with
      | none => .error (.failedToTransactAsset "AccountIdConversionFailed")
      | some account => .ok (amount, account)

def withdrawFrom {σ : Type} (currency : Currency σ) (state : σ) (account : AccountId)
    (amount : Nat) (what : MultiAsset) : Except XcmError (σ × MultiAsset) :=
  match currency.withdraw state account amount with
  | .error reason => .error (.failedToTransactAsset reason)
  | .ok state' => .ok (state', what)

/-- `CurrencyAdapter::withdraw_asset`: the new state and the assets withdrawn. -/
def withdrawAsset {σ : Type} (currency : Currency σ) (selfParaId : UInt32) (state : σ)
    (what : MultiAsset) (who : MultiLocation) : Except XcmError (σ × MultiAsset) :=
  match matchAndConvert selfParaId what who with
  | .error e => .error e
  | .ok (amount, account) => withdrawFrom currency state account amount what

def depositAsset {σ : Type} (currency : Currency σ) (selfParaId : UInt32) (state : σ)
    (what : MultiAsset) (who : MultiLocation) : Except XcmError σ :=
  match matchAndConvert selfParaId what who with
  | .error e => .error e
  | .ok (amount, account) => .ok (currency.depositCreating state account amount)

theorem isNativeConcrete_eq_some_iff (p : UInt32) (a : MultiAsset) (amount : Nat) :
    isNativeConcrete p a = some amount ↔ a.fungibility = .fungible amount ∧
      (a.id = .concrete (teerRelative p) ∨ a.id = .concrete selfReserve) := by
  obtain ⟨id, fungibility⟩ := a
  rcases fungibility with amount' | _ <;> rcases id with location | key <;>
    simp only [isNativeConcrete, reduceCtorEq, false_and, false_or, and_false,
      Fungibility.fungible.injEq, AssetId.concrete.injEq]
  rw [← convertLocation_eq_some_iff]
  rcases convertLocation p location with _ | ⟨⟩ <;> simp [eq_comm]

theorem matchAndConvert_ok {p : UInt32} {what : MultiAsset} {who : MultiLocation} {amount : Nat}
    {account : AccountId} (h : matchAndConvert p what who = .ok (amount, account)) :
    isNativeConcrete p what = some amount ∧ locationToAccountId who = some account := by
  unfold matchAndConvert at h
  split at h
  · cases h
  · split at h
    · cases h
    · cases h
      exact ⟨‹_›, ‹_›⟩

/-- The transactor moves TEER only, at one of its two locations. -/
theorem transacts_only_teer {σ : Type} (currency : Currency σ) (p : UInt32) (state : σ)
    (what : MultiAsset) (who : MultiLocation)
    (moved : (withdrawAsset currency p state what who).toBool ∨
      (depositAsset currency p state what who).toBool) :
    ∃ amount, what.fungibility = .fungible amount ∧
      (what.id = .concrete (teerRelative p) ∨ what.id = .concrete selfReserve) := by
  have found : ∃ amount account, matchAndConvert p what who = .ok (amount, account) := by
    simp only [withdrawAsset, depositAsset] at moved
    cases h : matchAndConvert p what who with
    | error e => simp [h, Except.toBool] at moved
    | ok pair => exact ⟨pair.1, pair.2, rfl⟩
  obtain ⟨amount, account, h⟩ := found
  exact ⟨amount, (isNativeConcrete_eq_some_iff p what amount).mp (matchAndConvert_ok h).1⟩

theorem transacts_only_teer_deposit :
    ((withdrawAsset ⟨fun s _ _ => .ok s, fun s _ _ => s⟩ 2015 () ⟨.concrete selfReserve, .fungible 5⟩
        (accountIdToMultiLocation ⟨List.replicate 32 0, rfl⟩)).toBool ∨
      (depositAsset ⟨fun s _ _ => .ok s, fun s _ _ => s⟩ 2015 () ⟨.concrete selfReserve, .fungible 5⟩
        (accountIdToMultiLocation ⟨List.replicate 32 0, rfl⟩)).toBool) ∧
    ∃ amount, Fungibility.fungible 5 = .fungible amount ∧
      (AssetId.concrete selfReserve = .concrete (teerRelative 2015) ∨
        AssetId.concrete selfReserve = .concrete selfReserve) :=
  ⟨.inr rfl, transacts_only_teer ⟨fun s _ _ => .ok s, fun s _ _ => s⟩ 2015 ()
    ⟨.concrete selfReserve, .fungible 5⟩ (accountIdToMultiLocation ⟨List.replicate 32 0, rfl⟩)
    (.inr rfl)⟩

end AssetTransactor

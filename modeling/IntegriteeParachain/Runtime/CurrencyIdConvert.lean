import IntegriteeParachain.Xcm.Location

/-!
`CurrencyIdConvert` of the shell runtime: the one currency `TEER`, its two locations and the
three conversions. `selfParaId` stands for `ParachainInfo::parachain_id()`, which every call
reads and which does not change between calls.
-/
namespace CurrencyIdConvert
open Xcm Mathlib

inductive CurrencyId where
  | TEER
  deriving DecidableEq

/-- `TEER_KEY`, the bytes of `b"TEER0000000000000000000000000000"`. -/
def teerKey : Vector UInt8 32 :=
  ⟨"TEER0000000000000000000000000000".toList.map Char.toUInt8, rfl⟩

def teerGeneralKey : Junction := .generalKey 4 teerKey

/-- `SelfReserve`, the local location of `TEER`. -/
def selfReserve : MultiLocation := ⟨0, .x1 teerGeneralKey⟩

def teerRelative (selfParaId : UInt32) : MultiLocation :=
  ⟨1, .x2 (.parachain selfParaId) teerGeneralKey⟩

def convertCurrencyId (selfParaId : UInt32) : CurrencyId → Option MultiLocation
  | .TEER => some ⟨1, .x2 (.parachain selfParaId) teerGeneralKey⟩

def convertLocation (selfParaId : UInt32) (location : MultiLocation) : Option CurrencyId :=
  if location.parents = 1 then
    match location.interior.toList with
    | [.parachain paraId, junction] =>
        if junction = teerGeneralKey ∧ paraId = selfParaId then some .TEER else none
    | _ => none
  else if location.parents = 0 then
    match location.interior.toList with
    | [junction] => if junction = teerGeneralKey then some .TEER else none
    | _ => none
  else none

def convertAsset (selfParaId : UInt32) (asset : MultiAsset) : Option CurrencyId :=
  match asset.id with
  | .concrete location => convertLocation selfParaId location
  | .abstract _ => none

theorem option_currency_ne_some {x : Option CurrencyId} : x ≠ some .TEER ↔ x = none := by
  rcases x with _ | ⟨⟩ <;> simp

theorem convertLocation_eq_some_iff (p : UInt32) (l : MultiLocation) :
    convertLocation p l = some .TEER ↔ l = teerRelative p ∨ l = selfReserve := by
  constructor
  · intro h
    simp only [convertLocation] at h
    split at h
    · split at h
      · rename_i one _ paraId junction interior
        split at h
        · rename_i same
          rw [same.1, same.2] at interior
          exact .inl ((MultiLocation.eq_iff _ _).mpr ⟨one, interior⟩)
        · cases h
      · cases h
    · split at h
      · split at h
        · rename_i zero _ junction interior
          split at h
          · rename_i same
            rw [same] at interior
            exact .inr ((MultiLocation.eq_iff _ _).mpr ⟨zero, interior⟩)
          · cases h
        · cases h
      · cases h
  · rintro (rfl | rfl) <;> simp [convertLocation, teerRelative, selfReserve]
theorem convertAsset_eq_some_iff (p : UInt32) (a : MultiAsset) :
    convertAsset p a = some .TEER ↔
      a.id = .concrete (teerRelative p) ∨ a.id = .concrete selfReserve := by
  obtain ⟨id, fungibility⟩ := a
  cases id <;> simp [convertAsset, convertLocation_eq_some_iff]

theorem currency_id_convert_recognises_teer (p : UInt32) :
    (∀ l, convertLocation p l = some .TEER ↔ l = teerRelative p ∨ l = selfReserve) ∧
    (∀ l, convertLocation p l = none ↔ ¬(l = teerRelative p ∨ l = selfReserve)) ∧
    (∀ a, convertAsset p a = some .TEER ↔
      a.id = .concrete (teerRelative p) ∨ a.id = .concrete selfReserve) ∧
    (∀ key fungibility, convertAsset p ⟨.abstract key, fungibility⟩ = none) ∧
    convertCurrencyId p .TEER = some (teerRelative p) ∧
    (convertCurrencyId p .TEER).bind (convertLocation p) = some .TEER := by
  refine ⟨convertLocation_eq_some_iff p, fun l => ?_, convertAsset_eq_some_iff p,
    fun _ _ => rfl, rfl, (convertLocation_eq_some_iff p _).mpr (.inl rfl)⟩
  rw [← option_currency_ne_some, Ne, convertLocation_eq_some_iff]

/- Zeroing the bytes past a key's length never gives `TEER_GENERAL_KEY` back: the constant
   pads `"TEER"` with the character `'0'` (byte 48), not with zero bytes. -/
theorem zeroFill_ne_teerGeneralKey (j : Junction) : j.zeroFill ≠ teerGeneralKey := by
  cases j with
  | generalKey length data =>
    intro same
    simp only [Junction.zeroFill, teerGeneralKey, Junction.generalKey.injEq] at same
    have padding : teerKey.get 4 = 48 := by decide
    have fifth := congrArg (·.get 4) same.2
    have past : ¬((4 : Fin 32).val < (4 : UInt8).toNat) := by decide
    simp only [Vector.get_ofFn, same.1, padding, past, if_false] at fifth
    exact absurd fifth (by decide)
  | _ => simp [Junction.zeroFill, teerGeneralKey]

theorem convertLocation_zeroFill (p : UInt32) (l : MultiLocation) :
    convertLocation p l.zeroFill = none := by
  rw [← option_currency_ne_some, Ne, convertLocation_eq_some_iff]
  intro shape
  have key : teerGeneralKey ∈ l.zeroFill.interior.toList := by
    rcases shape with same | same <;> simp [same, teerRelative, selfReserve]
  obtain ⟨j, -, filled⟩ := List.mem_map.mp (by simpa using key)
  exact zeroFill_ne_teerGeneralKey j filled

theorem currency_id_convert_zero_filled_teer (p : UInt32) :
    convertLocation p selfReserve = some .TEER ∧ convertLocation p (teerRelative p) = some .TEER ∧
    ∀ l : MultiLocation, convertLocation p l.zeroFill = none :=
  ⟨(convertLocation_eq_some_iff p _).mpr (.inr rfl), (convertLocation_eq_some_iff p _).mpr (.inl rfl),
    convertLocation_zeroFill p⟩

end CurrencyIdConvert

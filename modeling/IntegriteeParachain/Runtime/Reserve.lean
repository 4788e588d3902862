import IntegriteeParachain.Runtime.CurrencyIdConvert

/-!
Reserve resolution for incoming assets: orml's `RelativeReserveProvider` and `MultiNativeAsset`,
and the runtime's `AbsoluteAndRelativeReserve<SelfLocationAbsolute>`, which the executor uses as
`IsReserve`. The orml parts follow the library the runtime links against.
-/
namespace Reserve
open Xcm CurrencyIdConvert

def isChainJunction : Option Junction → Bool
  | some (.parachain _) => true
  | _ => false

/-- orml's `Parse::chain_part`: the parent, sibling or child chain that a location lies in. -/
def chainPart (l : MultiLocation) : Option MultiLocation :=
  if l.parents = 1 then
    match l.firstInterior with
    | some (.parachain id) => some ⟨1, .x1 (.parachain id)⟩
    | _ => some .parent
  else if l.parents = 0 then
    match l.firstInterior with
    | some (.parachain id) => some ⟨0, .x1 (.parachain id)⟩
    | _ => none
  else none

def relativeReserveProvider (asset : MultiAsset) : Option MultiLocation :=
  match asset.id with
  | .concrete location =>
      if location.parents = 0 ∧ !isChainJunction location.firstInterior then some .here
      else chainPart location
  | .abstract _ => none

/-- `SelfLocationAbsolute`, the absolute view `(1, X1(Parachain(self)))` of this chain. -/
def selfLocationAbsolute (selfParaId : UInt32) : MultiLocation :=
  ⟨1, .x1 (.parachain selfParaId)⟩

def absoluteAndRelativeReserve (absolute : MultiLocation) (asset : MultiAsset) :
    Option MultiLocation :=
  (relativeReserveProvider asset).map fun relativeReserve =>
    if relativeReserve = absolute then .here else relativeReserve

def multiNativeAsset (reserveProvider : MultiAsset → Option MultiLocation)
    (asset : MultiAsset) (origin : MultiLocation) : Bool :=
  match reserveProvider asset with
  | some reserve => reserve = origin
  | none => false

def reserve (selfParaId : UInt32) : MultiAsset → Option MultiLocation :=
  absoluteAndRelativeReserve (selfLocationAbsolute selfParaId)

/-- `XcmExecutorConfig::IsReserve`. -/
def isReserve (selfParaId : UInt32) : MultiAsset → MultiLocation → Bool :=
  multiNativeAsset (reserve selfParaId)

theorem relativeReserveProvider_concrete (l : MultiLocation) (f : Fungibility) :
    relativeReserveProvider ⟨.concrete l, f⟩ =
      match l.firstInterior with
      | some (.parachain id) =>
          if l.parents = 1 then some ⟨1, .x1 (.parachain id)⟩
          else if l.parents = 0 then some ⟨0, .x1 (.parachain id)⟩ else none
      | _ => if l.parents = 1 then some .parent else if l.parents = 0 then some .here else none := by
  simp only [relativeReserveProvider, chainPart]
  symm
  split
  · rename_i id first
    simp only [first, isChainJunction, Bool.not_true, Bool.false_eq_true, and_false, if_false]
  · rename_i notChain
    have plain : isChainJunction l.firstInterior = false := by
      unfold isChainJunction
      split
      · exact absurd ‹_› (notChain _)
      · rfl
    simp only [plain, Bool.not_false, and_true]
    by_cases zero : l.parents = 0
    · simp only [zero, if_true, if_neg (by decide : ¬(0 : UInt8) = 1)]
    · simp only [zero, if_false]

theorem reserve_concrete_eq_here_iff (p : UInt32) (l : MultiLocation) (f : Fungibility) :
    reserve p ⟨.concrete l, f⟩ = some .here ↔
      (l.parents = 1 ∧ l.firstInterior = some (.parachain p)) ∨
        (l.parents = 0 ∧ ∀ id, l.firstInterior ≠ some (.parachain id)) := by
  simp only [reserve, absoluteAndRelativeReserve, relativeReserveProvider_concrete]
  split
  · rename_i id first
    by_cases one : l.parents = 1
    · simp [first, one, selfLocationAbsolute, MultiLocation.eq_iff, MultiLocation.here]
    · by_cases zero : l.parents = 0
      · simp [first, zero, selfLocationAbsolute, MultiLocation.eq_iff, MultiLocation.here]
      · simp [one, zero]
  · rename_i notChain
    by_cases one : l.parents = 1
    · simp only [one, if_true, Option.map_some', selfLocationAbsolute, MultiLocation.parent]
      simpa [MultiLocation.eq_iff, MultiLocation.here] using notChain p
    · by_cases zero : l.parents = 0
      · simpa [zero, selfLocationAbsolute, MultiLocation.eq_iff, MultiLocation.here] using notChain
      · simp [one, zero]

theorem isReserve_iff (p : UInt32) (a : MultiAsset) (o : MultiLocation) :
    isReserve p a o = true ↔ reserve p a = some o := by
  simp only [isReserve, multiNativeAsset]
  split <;> simp_all

theorem absolute_and_relative_reserve_self (p : UInt32) :
    (∀ l f, reserve p ⟨.concrete l, f⟩ = some .here ↔
      (l.parents = 1 ∧ l.firstInterior = some (.parachain p)) ∨
        (l.parents = 0 ∧ ∀ id, l.firstInterior ≠ some (.parachain id))) ∧
    (∀ key f, reserve p ⟨.abstract key, f⟩ = none) ∧
    (∀ a o, reserve p a = some .here → (isReserve p a o = true ↔ o = .here)) ∧
    (∀ l f, convertLocation p l = some .TEER → reserve p ⟨.concrete l, f⟩ = some .here ∧
      ∀ o : MultiLocation, 1 ≤ o.parents → isReserve p ⟨.concrete l, f⟩ o = false) := by
  refine ⟨reserve_concrete_eq_here_iff p, fun _ _ => rfl, fun a o here => ?_, fun l f teer => ?_⟩
  · rw [isReserve_iff, here, Option.some_inj, eq_comm]
  · have toHere : reserve p ⟨.concrete l, f⟩ = some .here := by
      rcases (convertLocation_eq_some_iff p l).mp teer with rfl | rfl <;>
        simp [reserve_concrete_eq_here_iff, teerRelative, selfReserve,
          MultiLocation.firstInterior, teerGeneralKey]
    refine ⟨toHere, fun o above => Bool.eq_false_iff.mpr fun accepted => ?_⟩
    rw [isReserve_iff, toHere, Option.some_inj] at accepted
    subst accepted
    exact absurd above (by decide)

theorem relativeReserveProvider_fixed (l r : MultiLocation) (f f' : Fungibility)
    (h : relativeReserveProvider ⟨.concrete l, f⟩ = some r) :
    relativeReserveProvider ⟨.concrete r, f'⟩ = some r := by
  rw [relativeReserveProvider_concrete] at h
  split at h <;> split at h <;> (try split at h) <;> cases h <;> rfl

theorem reserve_fixed_point (p : UInt32) (a : MultiAsset) (f : Fungibility) (r : MultiLocation)
    (h : reserve p a = some r) : reserve p ⟨.concrete r, f⟩ = some r := by
  obtain ⟨id, f₀⟩ := a
  cases id with
  | abstract key => cases h
  | concrete l =>
    simp only [reserve, absoluteAndRelativeReserve, Option.map_eq_some'] at h ⊢
    obtain ⟨relative, found, rfl⟩ := h
    by_cases absolute : relative = selfLocationAbsolute p
    · rw [if_pos absolute]
      exact ⟨.here, rfl, ite_self _⟩
    · rw [if_neg absolute]
      exact ⟨relative, relativeReserveProvider_fixed l relative f₀ f found, if_neg absolute⟩

theorem reserve_fixed_point_sibling_and_self :
    (reserve 2267 ⟨.concrete ⟨1, .x2 (.parachain 2015) .onlyChild⟩, .fungible 1⟩ =
        some ⟨1, .x1 (.parachain 2015)⟩ ∧
      reserve 2267 ⟨.concrete ⟨1, .x1 (.parachain 2015)⟩, .nonFungible⟩ =
        some ⟨1, .x1 (.parachain 2015)⟩) ∧
    (reserve 2267 ⟨.concrete ⟨1, .x1 (.parachain 2267)⟩, .fungible 1⟩ = some .here ∧
      reserve 2267 ⟨.concrete .here, .nonFungible⟩ = some .here) :=
  ⟨⟨by decide, reserve_fixed_point 2267 ⟨.concrete ⟨1, .x2 (.parachain 2015) .onlyChild⟩, .fungible 1⟩
      .nonFungible _ (by decide)⟩,
    ⟨by decide, reserve_fixed_point 2267 ⟨.concrete ⟨1, .x1 (.parachain 2267)⟩, .fungible 1⟩
      .nonFungible _ (by decide)⟩⟩

end Reserve

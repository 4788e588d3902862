import IntegriteeParachain.Xcm.Location

/-!
Accounts and local origins of the shell runtime. `LocationToAccountId` tries xcm-builder's
`ParentIsPreset`, `SiblingParachainConvertsVia<Sibling, _>` and `AccountId32Aliases<RelayNetwork, _>`
in turn, and the first that converts wins. The runtime derives a location from a local account in
two ways: `AccountIdToMultiLocation` and `LocalOriginToLocation`.
-/
namespace LocationToAccountId
open Xcm Mathlib

abbrev AccountId := Vector UInt8 32

/-- `RelayNetwork`, read as `Get<Option<NetworkId>>`. -/
def relayNetwork : Option NetworkId := some .kusama

/-- `T::decode(&mut TrailingZeroInput::new(bytes))` for a 32-byte `T`. -/
def decodeTrailingZero (bytes : List UInt8) : AccountId :=
  ⟨(bytes ++ List.replicate 32 0).take 32, by
    rw [List.length_take, List.length_append, List.length_replicate]; omega⟩

def encodeU32 (x : UInt32) : List UInt8 :=
  [x.toUInt8, (x >>> 8).toUInt8, (x >>> 16).toUInt8, (x >>> 24).toUInt8]

/-- The account `ParentIsPreset` gives the relay chain: `b"Parent"` padded with zeros. -/
def parentAccount : AccountId := decodeTrailingZero ("Parent".toList.map Char.toUInt8)

/-- `Sibling::from(id).into_account_truncating()`: `b"sibl"`, the para id, then zeros. -/
def siblingAccount (id : UInt32) : AccountId :=
  decodeTrailingZero ("sibl".toList.map Char.toUInt8 ++ encodeU32 id)

/-- `ParentIsPreset<AccountId>`: converts the location `contains_parents_only(1)`. -/
def parentIsPreset (location : MultiLocation) : Option AccountId :=
  if location = .parent then some parentAccount else none

def siblingParachainConvertsVia (location : MultiLocation) : Option AccountId :=
  if location.parents = 1 then
    match location.interior.toList with
    | [.parachain id] => some (siblingAccount id)
    | _ => none
  else none

def accountId32Aliases (network : Option NetworkId) (location : MultiLocation) :
    Option AccountId :=
  if location.parents = 0 then
    match location.interior.toList with
    | [.accountId32 none id] => some id
    | [.accountId32 n id] => if n = network then some id else none
    | _ => none
  else none

/-- `LocationToAccountId`: the tuple of the three converters, first match wins. -/
def locationToAccountId (location : MultiLocation) : Option AccountId :=
  [parentIsPreset, siblingParachainConvertsVia, accountId32Aliases relayNetwork].findSome?
    (· location)

def accountIdToMultiLocation (account : AccountId) : MultiLocation :=
  ⟨0, .x1 (.accountId32 none account)⟩

/-- The runtime origins the XCM configuration produces or reads. -/
inductive RuntimeOrigin where
  | root
  | signed (who : AccountId)
  | none
  | relay
  | siblingParachain (id : UInt32)
  | xcm (location : MultiLocation)
  | response (location : MultiLocation)

def signedToAccountId32 (network : Option NetworkId) : RuntimeOrigin → Option MultiLocation
  | .signed who => some ⟨0, .x1 (.accountId32 network who)⟩
  | _ => none

def localOriginToLocation : RuntimeOrigin → Option MultiLocation :=
  signedToAccountId32 relayNetwork

/-- The tuple in closed form: the relay chain's account, a sibling's, or else the local account
    `AccountId32Aliases` reads. The lemmas for each shape of location below are the simp set. -/
theorem locationToAccountId_eq (l : MultiLocation) :
    locationToAccountId l =
      if l = .parent then some parentAccount
      else if l.parents = 1 then
        match l.interior.toList with
        | [.parachain id] => some (siblingAccount id)
        | _ => none
      else accountId32Aliases relayNetwork l := by
  by_cases parent : l = .parent
  · simp [locationToAccountId, List.findSome?, parentIsPreset, parent]
  · by_cases one : l.parents = 1
    · have notZero : ¬l.parents = 0 := by rw [one]; decide
      simp only [locationToAccountId, List.findSome?, parentIsPreset, siblingParachainConvertsVia,
        accountId32Aliases, if_neg parent, if_pos one, if_neg notZero]
      split <;> simp_all
    · simp only [locationToAccountId, List.findSome?, parentIsPreset, siblingParachainConvertsVia,
        if_neg parent, if_neg one]
      cases accountId32Aliases relayNetwork l <;> rfl

theorem toUInt8_toNat (x : UInt32) : x.toUInt8.toNat = x.toNat % 256 := by
  simp [UInt32.toUInt8, UInt8.toNat, Nat.toUInt8, UInt8.ofNat]

theorem shiftRight_toNat (x k : UInt32) : (x >>> k).toNat = x.toNat / 2 ^ (k.toNat % 32) := by
  show (x.toBitVec >>> (UInt32.mod k 32).toBitVec).toNat = _
  simp [UInt32.toNat, BitVec.toNat_ushiftRight, Nat.shiftRight_eq_div_pow, UInt32.mod,
    UInt32.toBitVec]

theorem encodeU32_toNat (x : UInt32) : (encodeU32 x).map UInt8.toNat =
    [x.toNat % 256, x.toNat / 256 % 256, x.toNat / 65536 % 256, x.toNat / 16777216 % 256] := by
  simp only [encodeU32, List.map_cons, List.map_nil, toUInt8_toNat, shiftRight_toNat]
  rfl

theorem encodeU32_injective : Function.Injective encodeU32 := by
  intro x y same
  have bytes := congrArg (List.map UInt8.toNat) same
  simp only [encodeU32_toNat, List.cons.injEq, and_true] at bytes
  have : x.toNat < 4294967296 := x.toNat_lt_size
  have : y.toNat < 4294967296 := y.toNat_lt_size
  apply UInt32.toNat.inj
  omega

theorem siblingAccount_injective : Function.Injective siblingAccount := by
  have prefix_ (id : UInt32) : (siblingAccount id).toList.take 8 =
      "sibl".toList.map Char.toUInt8 ++ encodeU32 id := by
    simp [siblingAccount, decodeTrailingZero, encodeU32]
  intro x y same
  have heads := congrArg (fun a : AccountId => a.toList.take 8) same
  simp only [prefix_] at heads
  exact encodeU32_injective (List.append_cancel_left heads)

theorem parentAccount_ne_siblingAccount (id : UInt32) : parentAccount ≠ siblingAccount id :=
  fun same => by
    have first := congrArg (fun a : AccountId => a.toList.head?) same
    simp [parentAccount, siblingAccount, decodeTrailingZero] at first
    exact absurd first (by decide)

@[simp] theorem locationToAccountId_parent : locationToAccountId .parent = some parentAccount := by
  rw [locationToAccountId_eq, if_pos rfl]

@[simp] theorem siblingParachain_sovereign_account (q : UInt32) :
    locationToAccountId ⟨1, .x1 (.parachain q)⟩ = some (siblingAccount q) := by
  have notParent : (⟨1, .x1 (.parachain q)⟩ : MultiLocation) ≠ .parent :=
    fun same => by cases congrArg (·.interior.toList) same
  rw [locationToAccountId_eq, if_neg notParent, if_pos rfl]
  rfl

/-- The relay chain and the sibling chains have sovereign accounts of their own: no two of them
    are given the same account. -/
theorem locationToAccountId_chains_distinct (q q' : UInt32) :
    locationToAccountId .parent ≠ locationToAccountId ⟨1, .x1 (.parachain q)⟩ ∧
      (locationToAccountId ⟨1, .x1 (.parachain q)⟩ =
          locationToAccountId ⟨1, .x1 (.parachain q')⟩ ↔ q = q') := by
  simp only [locationToAccountId_parent, siblingParachain_sovereign_account, Option.some.injEq]
  exact ⟨fun same => parentAccount_ne_siblingAccount q (Option.some.inj same),
    siblingAccount_injective.eq_iff⟩

end LocationToAccountId

import Mathlib.Data.Vector.Basic

/-!
XCM v3 locations and assets, as the shell runtime's configuration reads them. Byte arrays are
fixed-length vectors, an interior holds at most eight junctions as `X1`..`X8` do, and integers
keep the width of their Rust field (`u128` is `Nat`). A `Plurality` junction and a
non-fungible asset instance carry no payload here: no function of the model reads one.
-/
namespace Xcm

open Mathlib (Vector)

inductive NetworkId where
  | byGenesis (hash : Vector UInt8 32)
  | byFork (blockNumber : UInt64) (blockHash : Vector UInt8 32)
  | polkadot
  | kusama
  | westend
  | rococo
  | wococo
  | ethereum (chainId : UInt64)
  | bitcoinCore
  | bitcoinCash
  deriving DecidableEq

inductive Junction where
  | parachain (id : UInt32)
  | accountId32 (network : Option NetworkId) (id : Vector UInt8 32)
  | accountIndex64 (network : Option NetworkId) (index : UInt64)
  | accountKey20 (network : Option NetworkId) (key : Vector UInt8 20)
  | palletInstance (index : UInt8)
  | generalIndex (index : Nat)
  | generalKey (length : UInt8) (data : Vector UInt8 32)
  | onlyChild
  | plurality
  | globalConsensus (network : NetworkId)
  deriving DecidableEq

/-- `Junctions`: `Here` and `X1`..`X8` as one list of at most eight junctions. -/
@[ext]
structure Junctions where
  toList : List Junction
  length_le : toList.length ≤ 8
  deriving DecidableEq

namespace Junctions

def here : Junctions := ⟨[], by decide⟩
def x1 (a : Junction) : Junctions := ⟨[a], Nat.le_of_ble_eq_true rfl⟩
def x2 (a b : Junction) : Junctions := ⟨[a, b], Nat.le_of_ble_eq_true rfl⟩

@[simp] theorem here_toList : here.toList = [] := rfl
@[simp] theorem x1_toList (a : Junction) : (x1 a).toList = [a] := rfl
@[simp] theorem x2_toList (a b : Junction) : (x2 a b).toList = [a, b] := rfl

def takeFirst (js : Junctions) : Junctions × Option Junction :=
  (⟨js.toList.tail, by rw [List.length_tail]; have := js.length_le; omega⟩, js.toList.head?)

def takeLast (js : Junctions) : Junctions × Option Junction :=
  (⟨js.toList.dropLast, by rw [List.length_dropLast]; have := js.length_le; omega⟩,
    js.toList.getLast?)

/-- `Junctions::pushed_front_with`: refuses an interior of `MAX_JUNCTIONS` already. -/
def pushedFrontWith (js : Junctions) (j : Junction) : Option Junctions :=
  if h : js.toList.length < 8 then some ⟨j :: js.toList, h⟩ else none

/-- The loop of `invert_target`: each of `n` parents moves the last junction left of `context`, or
    `OnlyChild` once none is left, to the front of `junctions`. -/
def invertTargetLoop : Nat → Junctions → Junctions → Option Junctions
  | 0, _, junctions => some junctions
  | n + 1, context, junctions =>
      (junctions.pushedFrontWith (context.takeLast.2.getD .onlyChild)).bind
        (invertTargetLoop n context.takeLast.1)

theorem invertTargetLoop_length (n : Nat) (context junctions : Junctions) :
    (invertTargetLoop n context junctions).map (·.toList.length) =
      if junctions.toList.length + n ≤ 8 then some (junctions.toList.length + n) else none := by
  induction n generalizing context junctions with
  | zero => simp [invertTargetLoop, junctions.length_le]
  | succ n ih =>
    simp only [invertTargetLoop, pushedFrontWith]
    split
    · rw [Option.some_bind, ih]
      simp only [List.length_cons, Nat.add_right_comm _ 1 n, Nat.add_assoc]
    · rw [Option.none_bind, Option.map_none', if_neg (by omega)]

/-- The loop of `prepend_with`: each of `parents` cancels the last junction of `pfx` while there is
    one. -/
def cancelParents : Nat → Junctions → Nat × Junctions
  | 0, pfx => (0, pfx)
  | n + 1, pfx =>
      match pfx.takeLast with
      | (rest, some _) => cancelParents n rest
      | (_, none) => (n + 1, pfx)

theorem cancelParents_spec (parents : Nat) (pfx : Junctions) :
    (cancelParents parents pfx).1 = parents - pfx.toList.length ∧
      (cancelParents parents pfx).2.toList.length = pfx.toList.length - parents := by
  induction parents generalizing pfx with
  | zero => simp [cancelParents]
  | succ n ih =>
    rcases last : pfx.toList.getLast? with _ | j
    · have empty : pfx.toList = [] := List.getLast?_eq_none_iff.mp last
      simp [cancelParents, takeLast, last, empty]
    · have nonempty : pfx.toList ≠ [] := fun h => by simp [h] at last
      have shorter := List.length_pos.mpr nonempty
      simp only [cancelParents, takeLast, last, ih, List.length_dropLast]
      omega

/-- The `for` loop of `prepend_with`: `push_front_interior` of each junction of `rest`, the last
    first, so that `rest` ends up in front of `js`. -/
def pushFrontAll : List Junction → Junctions → Option Junctions
  | [], js => some js
  | j :: rest, js => (pushFrontAll rest js).bind (·.pushedFrontWith j)

theorem pushFrontAll_length (rest : List Junction) (js : Junctions) :
    (pushFrontAll rest js).map (·.toList.length) =
      if rest.length + js.toList.length ≤ 8 then some (rest.length + js.toList.length) else none := by
  induction rest with
  | nil => simp [pushFrontAll, js.length_le]
  | cons j rest ih =>
    simp only [pushFrontAll, List.length_cons]
    rcases pushed : pushFrontAll rest js with _ | interior
    · rw [pushed, Option.map_none'] at ih
      split at ih
      · cases ih
      · rw [Option.none_bind, Option.map_none', if_neg (by omega)]
    · rw [pushed, Option.map_some'] at ih
      split at ih
      · simp only [Option.some.injEq] at ih
        simp only [Option.some_bind, pushedFrontWith]
        split <;> split <;> simp_all <;> omega
      · cases ih

/-- The loop of `simplify`: a parent and the first junction go when the junction is the one of
    `context` the parent leads back to. -/
def simplifyLoop (context : Junctions) : Nat → Junctions → Nat × Junctions
  | 0, interior => (0, interior)
  | p + 1, interior =>
      match interior.toList.head?, context.toList[context.toList.length - (p + 1)]? with
      | some i, some j =>
          if i = j then simplifyLoop context p interior.takeFirst.1 else (p + 1, interior)
      | _, _ => (p + 1, interior)

end Junctions

@[ext]
structure MultiLocation where
  parents : UInt8
  interior : Junctions
  deriving DecidableEq

namespace MultiLocation

def here : MultiLocation := ⟨0, .here⟩
def parent : MultiLocation := ⟨1, .here⟩

def firstInterior (l : MultiLocation) : Option Junction := l.interior.toList.head?

theorem eq_iff (l k : MultiLocation) :
    l = k ↔ l.parents = k.parents ∧ l.interior.toList = k.interior.toList := by
  rw [MultiLocation.ext_iff, Junctions.ext_iff]

/-- `MultiLocation::append_with` of an interior: its junctions go after this location's, and the
    result may hold no more than `MAX_JUNCTIONS`, eight. -/
def appendWith (l : MultiLocation) (suffix : Junctions) : Option MultiLocation :=
  if h : l.interior.toList.length + suffix.toList.length ≤ 8 then
    some ⟨l.parents, ⟨l.interior.toList ++ suffix.toList, (List.length_append _ _).trans_le h⟩⟩
  else none

theorem appendWith_eq_some {l l' : MultiLocation} {suffix : Junctions}
    (h : l.appendWith suffix = some l') :
    l'.parents = l.parents ∧ l'.interior.toList = l.interior.toList ++ suffix.toList := by
  unfold appendWith at h
  split at h
  · cases h
    exact ⟨rfl, rfl⟩
  · cases h

/-- `MultiLocation::prepend_with`: `pfx`, then this location, whose parents cancel the last
    junctions of `pfx`; the two checks come first, and the `expect` of `push_front_interior` is the
    failure they rule out. -/
def prependWith (l pfx : MultiLocation) : Option MultiLocation :=
  let prependInterior := pfx.interior.toList.length - l.parents.toNat
  let finalInterior := l.interior.toList.length + prependInterior
  if finalInterior > 8 then none
  else
    let suffixParents := l.parents.toNat - pfx.interior.toList.length
    let finalParents := pfx.parents.toNat + suffixParents
    if finalParents > 255 then none
    else
      let cancelled := Junctions.cancelParents l.parents.toNat pfx.interior
      (Junctions.pushFrontAll cancelled.2.toList l.interior).map fun interior => ⟨(Nat.min (cancelled.1 + pfx.parents.toNat) 255).toUInt8, interior⟩

/-- `MultiLocation::simplify`: drops the parents that `context`, the interior of the location this
    one is seen from, makes unnecessary. -/
def simplify (l : MultiLocation) (context : Junctions) : MultiLocation :=
  if context.toList.length < l.parents.toNat then l
  else
    let simplified := Junctions.simplifyLoop context l.parents.toNat l.interior
    ⟨simplified.1.toUInt8, simplified.2⟩

end MultiLocation

/-- `Junctions::invert_target`: how `target` addresses the location these junctions lead to. -/
def Junctions.invertTarget (context : Junctions) (target : MultiLocation) : Option MultiLocation :=
  (Junctions.invertTargetLoop target.parents.toNat context .here).map
    fun junctions => ⟨target.interior.toList.length.toUInt8, junctions⟩

namespace MultiLocation

/-- `MultiLocation::reanchor`: this location as `target` sees it, `context` being the universal
    location it is seen from now. -/
def reanchor (l target : MultiLocation) (context : Junctions) : Option MultiLocation :=
  (context.invertTarget target).bind fun inverted =>
    (l.prependWith inverted).map (·.simplify target.interior)

/-- When `reanchor` succeeds: `target` has at most eight parents, and `prepend_with` builds at
    most eight junctions and 255 parents. -/
def Reanchorable (l target : MultiLocation) : Prop :=
  target.parents.toNat ≤ 8 ∧
    l.interior.toList.length + (target.parents.toNat - l.parents.toNat) ≤ 8 ∧
    target.interior.toList.length + (l.parents.toNat - target.parents.toNat) ≤ 255

instance (l target : MultiLocation) : Decidable (l.Reanchorable target) :=
  inferInstanceAs (Decidable (_ ∧ _ ∧ _))

theorem prependWith_isSome_iff (l pfx : MultiLocation) :
    (l.prependWith pfx).isSome ↔
      l.interior.toList.length + (pfx.interior.toList.length - l.parents.toNat) ≤ 8 ∧
        pfx.parents.toNat + (l.parents.toNat - pfx.interior.toList.length) ≤ 255 := by
  have cancelled := Junctions.cancelParents_spec l.parents.toNat pfx.interior
  simp only [prependWith]
  split
  · simp only [Option.isSome_none, Bool.false_eq_true, false_iff, not_and]
    omega
  · split
    · simp only [Option.isSome_none, Bool.false_eq_true, false_iff, not_and]
      omega
    · have pushed := congrArg Option.isSome (Junctions.pushFrontAll_length
        (Junctions.cancelParents l.parents.toNat pfx.interior).2.toList l.interior)
      rw [Option.isSome_map'] at pushed
      rw [Option.isSome_map', pushed, cancelled.2]
      split <;> simp only [Option.isSome_some, Option.isSome_none, true_iff, Bool.false_eq_true,
        false_iff, not_and] <;> omega

theorem invertTarget_eq_some {context : Junctions} {target inverted : MultiLocation}
    (h : context.invertTarget target = some inverted) :
    inverted.parents.toNat = target.interior.toList.length ∧
      inverted.interior.toList.length = target.parents.toNat := by
  unfold Junctions.invertTarget at h
  obtain ⟨junctions, found, rfl⟩ := Option.map_eq_some'.mp h
  have counted := Junctions.invertTargetLoop_length target.parents.toNat context .here
  rw [found, Option.map_some'] at counted
  have := target.interior.length_le
  split at counted
  · simp only [Option.some.injEq, Junctions.here_toList, List.length_nil, Nat.zero_add] at counted
    exact ⟨Nat.mod_eq_of_lt (by omega), counted⟩
  · cases counted

theorem invertTarget_isSome_iff (context : Junctions) (target : MultiLocation) :
    (context.invertTarget target).isSome ↔ target.parents.toNat ≤ 8 := by
  have counted := congrArg Option.isSome
    (Junctions.invertTargetLoop_length target.parents.toNat context .here)
  rw [Option.isSome_map'] at counted
  rw [Junctions.invertTarget, Option.isSome_map', counted]
  simp only [Junctions.here_toList, List.length_nil, Nat.zero_add]
  split <;> simp_all

/-- Whether reanchoring succeeds depends on the numbers of parents and junctions only. -/
theorem reanchor_isSome_iff (l target : MultiLocation) (context : Junctions) :
    (l.reanchor target context).isSome ↔ l.Reanchorable target := by
  unfold reanchor Reanchorable
  rcases inverting : context.invertTarget target with _ | inverted
  · have := (invertTarget_isSome_iff context target).not
    simp_all
  · have bound := (invertTarget_isSome_iff context target).mp (by simp [inverting])
    obtain ⟨parents, junctions⟩ := invertTarget_eq_some inverting
    rw [Option.some_bind, Option.isSome_map', prependWith_isSome_iff, parents, junctions]
    exact ⟨fun h => ⟨bound, h⟩, fun h => h.2⟩

example : (⟨1, .x2 (.parachain 2000) (.palletInstance 5)⟩ : MultiLocation).reanchor
    ⟨1, .x1 (.parachain 2000)⟩ (.x2 (.globalConsensus .kusama) (.parachain 2015)) =
      some ⟨0, .x1 (.palletInstance 5)⟩ := by
  rfl

end MultiLocation

inductive AssetId where
  | concrete (location : MultiLocation)
  | abstract (id : Vector UInt8 32)
  deriving DecidableEq

inductive Fungibility where
  | fungible (amount : Nat)
  | nonFungible
  deriving DecidableEq

structure MultiAsset where
  id : AssetId
  fungibility : Fungibility
  deriving DecidableEq

/-- `AssetId::reanchor`: a concrete asset's location is reanchored, an abstract one is kept. -/
def AssetId.reanchored (target : MultiLocation) (context : Junctions) : AssetId → Option AssetId
  | .concrete l => (l.reanchor target context).map .concrete
  | .abstract id => some (.abstract id)

def AssetId.Reanchorable (target : MultiLocation) : AssetId → Prop
  | .concrete l => l.Reanchorable target
  | .abstract _ => True

instance (target : MultiLocation) (id : AssetId) : Decidable (id.Reanchorable target) := by
  cases id <;> unfold AssetId.Reanchorable <;> exact inferInstance

def MultiAsset.reanchored (a : MultiAsset) (target : MultiLocation) (context : Junctions) :
    Option MultiAsset :=
  (a.id.reanchored target context).map (⟨·, a.fungibility⟩)

theorem MultiAsset.reanchored_isSome_iff (a : MultiAsset) (target : MultiLocation)
    (context : Junctions) :
    (a.reanchored target context).isSome ↔ a.id.Reanchorable target := by
  rcases a with ⟨_ | _, _⟩
  · simpa [reanchored, AssetId.reanchored, AssetId.Reanchorable] using
      MultiLocation.reanchor_isSome_iff _ _ _
  · simp [reanchored, AssetId.reanchored, AssetId.Reanchorable]

/- A `GeneralKey` as an XCM v3 → v2 → v3 conversion gives it back: v2 keeps only the first
   `length` bytes, and v3 pads them with zero bytes again. -/
def Junction.zeroFill : Junction → Junction
  | .generalKey length data =>
      .generalKey length (Vector.ofFn fun i => if i.val < length.toNat then data.get i else 0)
  | j => j

def MultiLocation.zeroFill (l : MultiLocation) : MultiLocation :=
  ⟨l.parents, ⟨l.interior.toList.map Junction.zeroFill,
    (List.length_map _ _).symm ▸ l.interior.length_le⟩⟩

@[simp] theorem MultiLocation.zeroFill_parents (l : MultiLocation) :
    l.zeroFill.parents = l.parents := rfl

@[simp] theorem MultiLocation.zeroFill_toList (l : MultiLocation) :
    l.zeroFill.interior.toList = l.interior.toList.map Junction.zeroFill := rfl

end Xcm

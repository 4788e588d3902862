import IntegriteeParachain.Xcm.Instruction

/-!
The runtime's `XcmRouter`: cumulus's `ParentAsUmp<ParachainSystem, PolkadotXcm, ()>` for the relay
chain, then the `XcmpQueue` for sibling chains, tried in turn as xcm's tuple of `SendXcm` does.
Routing is `validate`: a router that does not serve a destination answers `NotApplicable`, and the
next one is tried. The result is the ticket `deliver` would be handed; what the queues then do with
it (message size limits, channel state) is not modelled. Neither router asks a price (`()` for
both), so a validated message costs its sender nothing.
-/
namespace Router
open Xcm

/-- `XCM_VERSION`, the version the runtime writes its messages in. -/
def xcmVersion : Nat := 3

inductive SendError where
  | notApplicable
  | destinationUnsupported
  deriving DecidableEq

inductive Queue where
  | ump
  | xcmp (paraId : UInt32)
  deriving DecidableEq

/-- A validated message: where it goes, the XCM version it is wrapped in, and the message. -/
structure Ticket where
  queue : Queue
  version : Nat
  message : List Instruction

/-- What `PolkadotXcm` knows of other chains' XCM versions (`SupportedVersion`, `SafeXcmVersion`),
    and which messages can be written in a version older than their own. A message can always be
    written in its own version. -/
structure VersionState where
  supportedVersion : MultiLocation → Option Nat
  safeXcmVersion : Option Nat
  expressible : Nat → List Instruction → Bool
  expressible_latest : ∀ message, expressible xcmVersion message = true

/-- `PolkadotXcm::wrap_version`: the version the destination is known to support, else the safe
    version, at most `XCM_VERSION`; the message must convert to it. -/
def VersionState.wrapVersion (s : VersionState) (dest : MultiLocation)
    (message : List Instruction) : Option Nat :=
  match s.supportedVersion dest <|> s.safeXcmVersion with
  | none => none
  | some v => if s.expressible (min v xcmVersion) message then some (min v xcmVersion) else none

abbrev SendXcm := MultiLocation → List Instruction → Except SendError Ticket

/-- `ParentAsUmp<ParachainSystem, PolkadotXcm, ()>::validate`: the destination must be
    `contains_parents_only(1)`, and `PolkadotXcm` must know a version to wrap the message in. -/
def parentAsUmp (s : VersionState) : SendXcm := fun dest message =>
  if dest = .parent then
    match s.wrapVersion dest message with
    | some version => .ok ⟨.ump, version, message⟩
    | none => .error .destinationUnsupported
  else .error .notApplicable

/-- `XcmpQueue::validate`: the destination must be a sibling `(1, X1(Parachain(id)))`. Its
    `VersionWrapper = ()` wraps every message in the latest version. -/
def xcmpQueue : SendXcm := fun dest message =>
  if dest.parents = 1 then
    match dest.interior.toList with
    | [.parachain id] => .ok ⟨.xcmp id, xcmVersion, message⟩
    | _ => .error .notApplicable
  else .error .notApplicable

/-- `SendXcm::validate` of a tuple: the first router that does not answer `NotApplicable` decides. -/
def tuple : List SendXcm → SendXcm
  | [] => fun _ _ => .error .notApplicable
  | router :: rest => fun dest message =>
      match router dest message with
      | .error .notApplicable => tuple rest dest message
      | verdict => verdict

def xcmRouter (s : VersionState) : SendXcm := tuple [parentAsUmp s, xcmpQueue]

def sibling (id : UInt32) : MultiLocation := ⟨1, .x1 (.parachain id)⟩

theorem xcmpQueue_ok_iff (dest : MultiLocation) (message : List Instruction) (t : Ticket) :
    xcmpQueue dest message = .ok t ↔ ∃ id, dest = sibling id ∧ t = ⟨.xcmp id, xcmVersion, message⟩ := by
  simp only [xcmpQueue, sibling, MultiLocation.eq_iff, Junctions.x1_toList]
  split
  · split <;> simp_all [eq_comm]
  · simp_all

theorem xcmpQueue_ne_destinationUnsupported (dest : MultiLocation) (message : List Instruction) :
    xcmpQueue dest message ≠ .error .destinationUnsupported := by
  simp only [xcmpQueue]
  split
  · split <;> simp
  · simp

/-- The router in closed form: the relay chain through `PolkadotXcm`'s version knowledge, anything
    else through the XCMP queue. -/
theorem xcmRouter_eq (s : VersionState) (dest : MultiLocation) (message : List Instruction) :
    xcmRouter s dest message =
      if dest = .parent then
        match s.wrapVersion dest message with
        | some version => .ok ⟨.ump, version, message⟩
        | none => .error .destinationUnsupported
      else xcmpQueue dest message := by
  by_cases relay : dest = .parent
  · simp only [xcmRouter, tuple, parentAsUmp, if_pos relay]
    cases s.wrapVersion dest message <;> rfl
  · simp only [xcmRouter, tuple, parentAsUmp, if_neg relay]
    split <;> simp_all

/-- The only destinations no router serves are those that are neither the relay chain nor a
    sibling: children of this chain and locations beyond the relay chain included. -/
theorem xcmRouter_notApplicable_iff (s : VersionState) (dest : MultiLocation)
    (message : List Instruction) :
    xcmRouter s dest message = .error .notApplicable ↔ dest ≠ .parent ∧ ∀ id, dest ≠ sibling id := by
  rw [xcmRouter_eq]
  by_cases relay : dest = .parent
  · rw [if_pos relay]
    split <;> simp [relay]
  · rw [if_neg relay]
    constructor
    · intro unserved
      refine ⟨relay, fun id same => ?_⟩
      have routed := (xcmpQueue_ok_iff dest message _).mpr ⟨id, same, rfl⟩
      rw [unserved] at routed
      cases routed
    · rintro ⟨-, notSibling⟩
      cases queued : xcmpQueue dest message with
      | ok t =>
        obtain ⟨id, same, -⟩ := (xcmpQueue_ok_iff dest message t).mp queued
        exact absurd same (notSibling id)
      | error e =>
        cases e
        · rfl
        · exact absurd queued (xcmpQueue_ne_destinationUnsupported dest message)

end Router

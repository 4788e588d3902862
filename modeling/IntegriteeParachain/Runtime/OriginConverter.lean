import IntegriteeParachain.Runtime.LocationToAccountId

/-!
`XcmOriginToTransactDispatchOrigin`: six xcm-builder converters turn an XCM origin and the
`OriginKind` of a `Transact` into the runtime origin it is dispatched with, and the first that
converts wins. `SafeCallFilter` admits every call, so this conversion is all that limits what a
remote `Transact` may do.
-/
namespace OriginConverter
open Xcm LocationToAccountId

inductive OriginKind where
  | native
  | sovereignAccount
  | superuser
  | xcm
  deriving DecidableEq

def sovereignSignedViaLocation (origin : MultiLocation) : OriginKind → Option RuntimeOrigin
  | .sovereignAccount => (locationToAccountId origin).map .signed
  | _ => none

def relayChainAsNative (origin : MultiLocation) : OriginKind → Option RuntimeOrigin
  | .native => if origin = .parent then some .relay else none
  | _ => none

def siblingParachainAsNative (origin : MultiLocation) : OriginKind → Option RuntimeOrigin
  | .native =>
      if origin.parents = 1 then
        match origin.interior.toList with
        | [.parachain id] => some (.siblingParachain id)
        | _ => none
      else none
  | _ => none

def parentAsSuperuser (origin : MultiLocation) : OriginKind → Option RuntimeOrigin
  | .superuser => if origin = .parent then some .root else none
  | _ => none

def signedAccountId32AsNative (network : Option NetworkId) (origin : MultiLocation) :
    OriginKind → Option RuntimeOrigin
  | .native =>
      if origin.parents = 0 then
        match origin.interior.toList with
        | [.accountId32 n id] => if n = none ∨ n = network then some (.signed id) else none
        | _ => none
      else none
  | _ => none

def xcmPassthrough (origin : MultiLocation) : OriginKind → Option RuntimeOrigin
  | .xcm => some (.xcm origin)
  | _ => none

/-- `XcmOriginToTransactDispatchOrigin`: the six converters in order, first match wins. -/
def xcmOriginToTransactDispatchOrigin (origin : MultiLocation) (kind : OriginKind) :
    Option RuntimeOrigin :=
  [sovereignSignedViaLocation, relayChainAsNative, siblingParachainAsNative, parentAsSuperuser,
    signedAccountId32AsNative relayNetwork, xcmPassthrough].findSome? (· origin kind)

/-- The tuple in closed form: for each `OriginKind`, what the converters that read it give, in
    their order. -/
@[simp] theorem xcmOriginToTransactDispatchOrigin_eq (o : MultiLocation) (k : OriginKind) :
    xcmOriginToTransactDispatchOrigin o k =
      match k with
      | .native =>
          if o = .parent then some .relay
          else (siblingParachainAsNative o .native).or (signedAccountId32AsNative relayNetwork o .native)
      | .sovereignAccount => (locationToAccountId o).map .signed
      | .superuser => if o = .parent then some .root else none
      | .xcm => some (.xcm o) := by
  cases k with
  | native =>
    simp only [xcmOriginToTransactDispatchOrigin, List.findSome?, sovereignSignedViaLocation,
      relayChainAsNative, parentAsSuperuser, xcmPassthrough]
    by_cases parent : o = .parent
    · simp [parent]
    · simp only [if_neg parent]
      cases siblingParachainAsNative o .native <;>
        cases signedAccountId32AsNative relayNetwork o .native <;> rfl
  | sovereignAccount =>
    simp only [xcmOriginToTransactDispatchOrigin, List.findSome?, sovereignSignedViaLocation]
    cases locationToAccountId o <;> rfl
  | superuser =>
    by_cases parent : o = .parent <;>
      simp [xcmOriginToTransactDispatchOrigin, List.findSome?, sovereignSignedViaLocation,
        relayChainAsNative, siblingParachainAsNative, parentAsSuperuser, signedAccountId32AsNative,
        xcmPassthrough, parent]
  | xcm => rfl

section
variable {o : MultiLocation} {k : OriginKind} {r : RuntimeOrigin}

theorem sovereignSignedViaLocation_eq_some (h : sovereignSignedViaLocation o k = some r) :
    k = .sovereignAccount ∧ ∃ a, locationToAccountId o = some a ∧ r = .signed a := by
  cases k <;> simp only [sovereignSignedViaLocation, reduceCtorEq] at h
  obtain ⟨a, found, rfl⟩ := Option.map_eq_some'.mp h
  exact ⟨rfl, a, found, rfl⟩

theorem relayChainAsNative_eq_some (h : relayChainAsNative o k = some r) :
    k = .native ∧ o = .parent ∧ r = .relay := by
  cases k <;> simp only [relayChainAsNative, reduceCtorEq] at h
  split at h
  · cases h
    exact ⟨rfl, ‹_›, rfl⟩
  · cases h

theorem siblingParachainAsNative_eq_some (h : siblingParachainAsNative o k = some r) :
    k = .native ∧ ∃ id, o = ⟨1, .x1 (.parachain id)⟩ ∧ r = .siblingParachain id := by
  cases k <;> simp only [siblingParachainAsNative, reduceCtorEq] at h
  split at h
  · split at h
    · rename_i one _ id interior
      cases h
      exact ⟨rfl, id, (MultiLocation.eq_iff _ _).mpr ⟨one, interior⟩, rfl⟩
    · cases h
  · cases h

theorem parentAsSuperuser_eq_some (h : parentAsSuperuser o k = some r) :
    k = .superuser ∧ o = .parent ∧ r = .root := by
  cases k <;> simp only [parentAsSuperuser, reduceCtorEq] at h
  split at h
  · cases h
    exact ⟨rfl, ‹_›, rfl⟩
  · cases h

theorem signedAccountId32AsNative_eq_some {network : Option NetworkId}
    (h : signedAccountId32AsNative network o k = some r) :
    k = .native ∧ ∃ n a, (n = none ∨ n = network) ∧ o = ⟨0, .x1 (.accountId32 n a)⟩ ∧
      r = .signed a := by
  cases k <;> simp only [signedAccountId32AsNative, reduceCtorEq] at h
  split at h
  · split at h
    · rename_i zero _ n a interior
      split at h
      · cases h
        exact ⟨rfl, n, a, ‹_›, (MultiLocation.eq_iff _ _).mpr ⟨zero, interior⟩, rfl⟩
      · cases h
    · cases h
  · cases h

theorem xcmPassthrough_eq_some (h : xcmPassthrough o k = some r) : k = .xcm ∧ r = .xcm o := by
  cases k <;> simp only [xcmPassthrough, reduceCtorEq, Option.some.injEq] at h
  exact ⟨rfl, h.symm⟩

theorem dispatch_some (h : xcmOriginToTransactDispatchOrigin o k = some r) :
    (k = .sovereignAccount ∧ ∃ a, locationToAccountId o = some a ∧ r = .signed a) ∨
    (k = .native ∧ o = .parent ∧ r = .relay) ∨
    (k = .native ∧ ∃ id, o = ⟨1, .x1 (.parachain id)⟩ ∧ r = .siblingParachain id) ∨
    (k = .superuser ∧ o = .parent ∧ r = .root) ∨
    (k = .native ∧ ∃ n a, (n = none ∨ n = relayNetwork) ∧ o = ⟨0, .x1 (.accountId32 n a)⟩ ∧
      r = .signed a) ∨
    (k = .xcm ∧ r = .xcm o) := by
  obtain ⟨convert, member, converted⟩ := List.exists_of_findSome?_eq_some h
  simp only [List.mem_cons, List.not_mem_nil, or_false] at member
  rcases member with rfl | rfl | rfl | rfl | rfl | rfl
  · exact .inl (sovereignSignedViaLocation_eq_some converted)
  · exact .inr (.inl (relayChainAsNative_eq_some converted))
  · exact .inr (.inr (.inl (siblingParachainAsNative_eq_some converted)))
  · exact .inr (.inr (.inr (.inl (parentAsSuperuser_eq_some converted))))
  · exact .inr (.inr (.inr (.inr (.inl (signedAccountId32AsNative_eq_some converted)))))
  · exact .inr (.inr (.inr (.inr (.inr (xcmPassthrough_eq_some converted)))))

end

theorem dispatch_native_accountId32 (n : Option NetworkId) (a : AccountId)
    (allowed : n = none ∨ n = relayNetwork) :
    xcmOriginToTransactDispatchOrigin ⟨0, .x1 (.accountId32 n a)⟩ .native = some (.signed a) := by
  simp [siblingParachainAsNative, signedAccountId32AsNative, MultiLocation.eq_iff,
    MultiLocation.parent, allowed]

theorem dispatch_eq_root_iff (o : MultiLocation) (k : OriginKind) :
    xcmOriginToTransactDispatchOrigin o k = some .root ↔ k = .superuser ∧ o = .parent := by
  refine ⟨fun h => ?_, fun ⟨superuser, parent⟩ => ?_⟩
  · rcases dispatch_some h with ⟨_, _, _, same⟩ | ⟨_, _, same⟩ | ⟨_, _, _, same⟩ |
      ⟨superuser, parent, _⟩ | ⟨_, _, _, _, _, same⟩ | ⟨_, same⟩
    all_goals first | cases same | exact ⟨superuser, parent⟩
  · simp [superuser, parent]

theorem dispatch_eq_relay {o : MultiLocation} {k : OriginKind}
    (h : xcmOriginToTransactDispatchOrigin o k = some .relay) : o = .parent := by
  rcases dispatch_some h with ⟨_, _, _, same⟩ | ⟨_, parent, _⟩ | ⟨_, _, _, same⟩ |
    ⟨_, _, same⟩ | ⟨_, _, _, _, _, same⟩ | ⟨_, same⟩
  all_goals first | cases same | exact parent

theorem dispatch_eq_signed_iff (o : MultiLocation) (k : OriginKind) (a : AccountId) :
    xcmOriginToTransactDispatchOrigin o k = some (.signed a) ↔
      (k = .sovereignAccount ∧ locationToAccountId o = some a) ∨
        (k = .native ∧ (o = ⟨0, .x1 (.accountId32 none a)⟩ ∨
          o = ⟨0, .x1 (.accountId32 (some .kusama) a)⟩)) := by
  constructor
  · intro h
    rcases dispatch_some h with ⟨sovereign, b, found, same⟩ | ⟨_, _, same⟩ | ⟨_, _, _, same⟩ |
      ⟨_, _, same⟩ | ⟨native, n, b, allowed, rfl, same⟩ | ⟨_, same⟩
    all_goals cases same
    · exact .inl ⟨sovereign, found⟩
    · rcases allowed with rfl | rfl
      · exact .inr ⟨native, .inl rfl⟩
      · exact .inr ⟨native, .inr rfl⟩
  · rintro (⟨rfl, found⟩ | ⟨rfl, rfl | rfl⟩)
    · simp only [xcmOriginToTransactDispatchOrigin_eq, found, Option.map_some']
    · exact dispatch_native_accountId32 none a (.inl rfl)
    · exact dispatch_native_accountId32 _ a (.inr rfl)

theorem locationToAccountId_shape (o : MultiLocation) (a : AccountId)
    (h : locationToAccountId o = some a) :
    o = .parent ∨ (∃ q, o = ⟨1, .x1 (.parachain q)⟩) ∨ o.parents = 0 := by
  rw [locationToAccountId_eq] at h
  split at h
  · exact .inl ‹_›
  · split at h
    · split at h
      · rename_i one _ q interior
        exact .inr (.inl ⟨q, (MultiLocation.eq_iff _ _).mpr ⟨one, interior⟩⟩)
      · cases h
    · simp only [accountId32Aliases] at h
      split at h
      · exact .inr (.inr ‹_›)
      · cases h

theorem xcm_origin_to_transact_dispatch_origin_privileges (o : MultiLocation) (k : OriginKind) :
    (xcmOriginToTransactDispatchOrigin o k = some .root ↔ k = .superuser ∧ o = .parent) ∧
    (∀ a, xcmOriginToTransactDispatchOrigin o k = some (.signed a) ↔
      (k = .sovereignAccount ∧ locationToAccountId o = some a) ∨
        (k = .native ∧ (o = ⟨0, .x1 (.accountId32 none a)⟩ ∨
          o = ⟨0, .x1 (.accountId32 (some .kusama) a)⟩))) ∧
    (∀ q, locationToAccountId ⟨1, .x1 (.parachain q)⟩ = some (siblingAccount q)) ∧
    (1 ≤ o.parents → o ≠ .parent → (∀ q, o ≠ ⟨1, .x1 (.parachain q)⟩) →
      ∀ a, xcmOriginToTransactDispatchOrigin o k ≠ some .root ∧
        xcmOriginToTransactDispatchOrigin o k ≠ some (.signed a)) := by
  refine ⟨dispatch_eq_root_iff o k, dispatch_eq_signed_iff o k, siblingParachain_sovereign_account,
    fun above notParent notSibling a => ⟨fun root => ?_, fun signed => ?_⟩⟩
  · exact notParent ((dispatch_eq_root_iff o k).mp root).2
  · have local_ : o.parents = 0 := by
      rcases (dispatch_eq_signed_iff o k a).mp signed with ⟨-, account⟩ | ⟨-, rfl | rfl⟩
      · rcases locationToAccountId_shape o a account with parent | ⟨q, sibling⟩ | zero
        · exact absurd parent notParent
        · exact absurd sibling (notSibling q)
        · exact zero
      all_goals rfl
    rw [local_] at above
    exact absurd above (by decide)

end OriginConverter

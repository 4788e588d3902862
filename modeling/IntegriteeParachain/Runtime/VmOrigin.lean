import IntegriteeParachain.Runtime.Vm

/-!
Where the executor acts. The origin register only ever holds the message's origin or a location
under it, since `DescendOrigin` only appends junctions and nothing else but `ClearOrigin` touches it.
Every instruction therefore runs under such an origin, `post_process` traps the holding for one, and
a `Transact` dispatches only from an origin the runtime's `XcmOriginToTransactDispatchOrigin` gives
one. Two runtimes that agree there run every message alike (`executeInCredit_acts_below_origin`).
For a sibling parachain this means its own sovereign account, and no call dispatched as root or as
the relay chain (`sibling_acts_only_as_itself`).
-/
namespace Vm
open Xcm LocationToAccountId OriginConverter Executor

variable {σ : Type}

/-- `l` is `o` or a location under it: `o` with junctions appended, as `DescendOrigin` makes it. -/
def Descends (o l : MultiLocation) : Prop :=
  l.parents = o.parents ∧ o.interior.toList <+: l.interior.toList

/-- The origin register is empty or holds a location at or under the message's origin `o`. -/
structure OriginBelow (o : MultiLocation) (vm : XcmExecutor) : Prop where
  original : vm.originalOrigin = o
  below : ∀ l, vm.origin = some l → Descends o l

theorem descends_refl (o : MultiLocation) : Descends o o := ⟨rfl, List.prefix_refl _⟩

theorem originBelow_new (o : MultiLocation) : OriginBelow o (.new o) :=
  ⟨rfl, fun _ same => by cases same; exact descends_refl o⟩

theorem OriginBelow.effective {o : MultiLocation} {vm : XcmExecutor} (inv : OriginBelow o vm) :
    Descends o (vm.origin.getD vm.originalOrigin) := by
  cases current : vm.origin with
  | none => simpa only [Option.getD_none, inv.original] using descends_refl o
  | some l => exact inv.below l current

section
variable {E : Effects σ} {maxInstructions : Nat} {o : MultiLocation}

theorem changes_originBelow {vm vm' : XcmExecutor} {i : Instruction}
    (h : Changes maxInstructions vm i vm') (inv : OriginBelow o vm) : OriginBelow o vm' := by
  cases h with
  | clearOrigin => exact ⟨inv.original, fun _ none_ => by cases none_⟩
  | descendOrigin current appended =>
    refine ⟨inv.original, fun l' same => ?_⟩
    cases same
    obtain ⟨parents, interior⟩ := MultiLocation.appendWith_eq_some appended
    obtain ⟨above, prefix_⟩ := inv.below _ current
    exact ⟨parents.trans above, interior ▸ prefix_.trans (List.prefix_append _ _)⟩
  | setErrorHandler | setAppendix | transact | effect => exact ⟨inv.original, inv.below⟩

theorem process_originBelow (vm : XcmExecutor) (s : σ) (index : Nat) (m : List Instruction)
    (inv : OriginBelow o vm) : OriginBelow o (process E maxInstructions vm s index m).2.1 := by
  induction m generalizing vm s index with
  | nil => exact inv
  | cons i rest ih =>
    simp only [process]
    split
    · exact ih _ _ _ (changes_originBelow (processInstruction_ok ‹_›) inv)
    · exact inv

theorem afterProgram_originBelow (vm : XcmExecutor) (result : Except ExecutorError Unit)
    (inv : OriginBelow o vm) : OriginBelow o (afterProgram vm result).2 := by
  cases result with
  | error e =>
    simp only [afterProgram, settle, XcmExecutor.takeErrorHandler, XcmExecutor.takeAppendix]
    split <;> exact ⟨inv.original, inv.below⟩
  | ok u => exact ⟨inv.original, inv.below⟩

theorem executeLoop_originBelow (fuel : Nat) (vm : XcmExecutor) (s : σ) (m : List Instruction)
    {vm' : XcmExecutor} {s' : σ} (inv : OriginBelow o vm)
    (ran : executeLoop E maxInstructions fuel vm s m = some (vm', s')) : OriginBelow o vm' :=
  executeLoop_invariant (fun vm _ => OriginBelow o vm)
    (fun vm s _ _ inv => afterProgram_originBelow _ _ (process_originBelow vm s 0 _ inv))
    fuel vm s m inv ran

/-- The origins a `Transact` of a message from `o` can dispatch from: those the runtime's
    `XcmOriginToTransactDispatchOrigin` gives a location at or under `o`. -/
def Dispatchable (o : MultiLocation) (d : RuntimeOrigin) : Prop :=
  ∃ l kind, Descends o l ∧ xcmOriginToTransactDispatchOrigin l kind = some d

/-- Two runtimes that differ at most in what instructions do under an origin outside `below`, in
    how they trap the holding for such an origin, and in what a call dispatched from outside
    `allowed` does. -/
structure AgreeOn (below : MultiLocation → Prop) (allowed : RuntimeOrigin → Prop)
    (E E' : Effects σ) : Prop where
  run : ∀ i origin, (∀ l, origin = some l → below l) → E.run i origin = E'.run i origin
  decode : E.decode = E'.decode
  dispatch : ∀ d, allowed d → E.dispatch d = E'.dispatch d
  finish : ∀ l, below l → E.finish l = E'.finish l

variable {E' : Effects σ}

section
variable (agree : AgreeOn (Descends o) (Dispatchable o) E E')
include agree

theorem runEffect_congr {vm : XcmExecutor} (s : σ) (inv : OriginBelow o vm) (i : Instruction) :
    runEffect E vm s i = runEffect E' vm s i := by
  unfold runEffect
  rw [agree.run i vm.origin inv.below]

theorem transact_congr (vm : XcmExecutor) (s : σ) {l : MultiLocation} (below : Descends o l)
    (r : Weight) : transact E vm s l r = transact E' vm s l r := by
  unfold transact
  rw [agree.decode]
  rcases E'.decode s with ⟨_ | ⟨kind, callWeight⟩, s⟩
  · rfl
  · dsimp only
    cases converted : xcmOriginToTransactDispatchOrigin l kind with
    | none => rfl
    | some d => simp only [agree.dispatch d ⟨l, kind, below, converted⟩]

theorem processInstruction_congr (vm : XcmExecutor) (s : σ) (inv : OriginBelow o vm)
    (i : Instruction) :
    processInstruction E maxInstructions vm s i = processInstruction E' maxInstructions vm s i := by
  cases i
  case transact r =>
    simp only [processInstruction]
    split
    · rfl
    · exact transact_congr agree vm s (inv.below _ ‹_›) r
  all_goals simp only [processInstruction, forOriginalOrigin, runEffect_congr agree s inv]

theorem process_congr (vm : XcmExecutor) (s : σ) (index : Nat) (m : List Instruction)
    (inv : OriginBelow o vm) :
    process E maxInstructions vm s index m = process E' maxInstructions vm s index m := by
  induction m generalizing vm s index with
  | nil => rfl
  | cons i rest ih =>
    simp only [process, processInstruction_congr agree vm s inv i]
    split
    · exact ih _ _ _ (changes_originBelow (processInstruction_ok (E := E') ‹_›) inv)
    · rfl

theorem executeLoop_congr (fuel : Nat) (vm : XcmExecutor) (s : σ) (m : List Instruction)
    (inv : OriginBelow o vm) :
    executeLoop E maxInstructions fuel vm s m = executeLoop E' maxInstructions fuel vm s m := by
  induction fuel generalizing vm s m with
  | zero => cases m <;> rfl
  | succ fuel ih =>
    cases m with
    | nil => rfl
    | cons i rest =>
      rw [executeLoop_succ_cons, executeLoop_succ_cons, process_congr agree vm s 0 _ inv]
      exact ih _ _ _ (afterProgram_originBelow _ _ (process_originBelow vm s 0 _ inv))

theorem executeAdmitted_congr (fuel : Nat) (admitted : Admitted) (s : σ) :
    executeAdmitted E maxInstructions fuel o admitted s =
      executeAdmitted E' maxInstructions fuel o admitted s := by
  unfold executeAdmitted
  rw [executeLoop_congr agree _ _ s _ (originBelow_new o)]
  cases ran : executeLoop E' maxInstructions fuel (.new o) s admitted.message with
  | none => rfl
  | some r =>
    have below := (executeLoop_originBelow (E := E') fuel _ s _ (originBelow_new o) ran).effective
    simp only [Option.map_some', agree.finish _ below]

end

theorem dispatchable_sibling {q : UInt32} {d : RuntimeOrigin}
    (h : Dispatchable ⟨1, .x1 (.parachain q)⟩ d) : d ≠ .root ∧ d ≠ .relay := by
  obtain ⟨l, kind, ⟨-, prefix_⟩, converted⟩ := h
  have notParent : l ≠ .parent := fun same => by
    subst same
    simp [MultiLocation.parent] at prefix_
  refine ⟨fun root => ?_, fun relay => ?_⟩
  · subst root
    exact notParent ((dispatch_eq_root_iff l kind).mp converted).2
  · subst relay
    exact notParent (dispatch_eq_relay converted)

/-- The executor acts only as the message's origin or as a location under it: every instruction
    runs under such an origin, the holding is trapped for one, and every call is dispatched from an
    origin the runtime's converter gives one. Two runtimes that agree there execute every message
    from `origin` alike, whatever they do anywhere else. -/
theorem executeInCredit_acts_below_origin (E E' : Effects σ) (maxInstructions : Nat)
    (expectingResponse : MultiLocation → QueryId → Option MultiLocation → Bool) (fuel : Nat)
    (origin : MultiLocation) (message : List Instruction) (weightLimit weightCredit : Weight) (s : σ)
    (agree : AgreeOn (Descends origin) (Dispatchable origin) E E') :
    executeInCredit E maxInstructions expectingResponse fuel origin message weightLimit
        weightCredit s =
      executeInCredit E' maxInstructions expectingResponse fuel origin message weightLimit
        weightCredit s := by
  unfold executeInCredit
  split
  · rfl
  · exact executeAdmitted_congr agree fuel _ s

theorem executeInCredit_acts_below_origin_sibling :
    AgreeOn (Descends ⟨1, .x1 (.parachain 2015)⟩) (Dispatchable ⟨1, .x1 (.parachain 2015)⟩)
        (⟨fun _ _ e s => (.ok e, s), fun s => (some (.native, ⟨1, 1⟩), s),
          fun _ s => (some .zero, s + 1), fun _ _ s => s⟩ : Effects Nat)
        ⟨fun _ o e s => (if o = some .parent then .error .badOrigin else .ok e, s),
          fun s => (some (.native, ⟨1, 1⟩), s),
          fun d s => match d with | .root => (none, s + 7) | _ => (some .zero, s + 1),
          fun _ _ s => s⟩ ∧
      executeInCredit (⟨fun _ _ e s => (.ok e, s), fun s => (some (.native, ⟨1, 1⟩), s),
          fun _ s => (some .zero, s + 1), fun _ _ s => s⟩ : Effects Nat) 100 (fun _ _ _ => false) 4
          ⟨1, .x1 (.parachain 2015)⟩ [.withdrawAsset, .buyExecution .unlimited, .transact ⟨1, 1⟩]
          ⟨10 ^ 12, 10 ^ 7⟩ .zero 0 =
        executeInCredit ⟨fun _ o e s => (if o = some .parent then .error .badOrigin else .ok e, s),
          fun s => (some (.native, ⟨1, 1⟩), s),
          fun d s => match d with | .root => (none, s + 7) | _ => (some .zero, s + 1),
          fun _ _ s => s⟩ 100 (fun _ _ _ => false) 4 ⟨1, .x1 (.parachain 2015)⟩
          [.withdrawAsset, .buyExecution .unlimited, .transact ⟨1, 1⟩] ⟨10 ^ 12, 10 ^ 7⟩ .zero 0 := by
  refine ⟨?agree, executeInCredit_acts_below_origin _ _ _ _ _ _ _ _ _ _ ?agree⟩
  refine ⟨fun i origin below => ?_, rfl, fun d allowed => ?_, fun _ _ => rfl⟩
  · cases origin with
    | none => rfl
    | some l =>
      have notParent : l ≠ .parent := fun same => by
        simpa [same, MultiLocation.parent, Descends] using below l rfl
      simp [notParent]
  · cases d <;> first | rfl | exact absurd rfl (dispatchable_sibling allowed).1

end

end Vm

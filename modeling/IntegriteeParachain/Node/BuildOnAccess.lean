import Mathlib.Logic.Function.Basic

/-!
`BuildOnAccess` of the node service: a value that its boxed closure builds on first access. The
closure reads the node's client state `σ` when it runs and may panic, as the Aura verifier's does at
`slot_duration(..).unwrap()`. A panic is an error result here, so that the state it leaves behind
can be examined by a later call.
-/
namespace BuildOnAccess

inductive Panic where
  | builder
  | unwrapNone
  deriving DecidableEq

end BuildOnAccess

/-- `BuildOnAccess<R>`; a builder returning `none` is a closure that panicked. -/
inductive BuildOnAccess (σ R : Type) where
  | uninitialized (f : Option (σ → Option R))
  | initialized (r : R)

namespace BuildOnAccess

variable {σ R : Type}

/-- The `loop` of `get_mut`, for at most `fuel` passes (`none` once the fuel is spent). A pass on
    `Uninitialized(f)` runs `f.take()` first, so the builder is gone whatever it then does. -/
def getMutLoop (s : σ) : Nat → BuildOnAccess σ R → Option (Except Panic R × BuildOnAccess σ R)
  | 0, _ => none
  | _ + 1, .initialized r => some (.ok r, .initialized r)
  | _ + 1, .uninitialized none => some (.error .unwrapNone, .uninitialized none)
  | fuel + 1, .uninitialized (some f) =>
      match f s with
      | none => some (.error .builder, .uninitialized none)
      | some r => getMutLoop s fuel (.initialized r)

/-- `get_mut` as the loop computes it: the referenced value or the panic, and the state after. -/
def getMut (s : σ) : BuildOnAccess σ R → Except Panic R × BuildOnAccess σ R
  | .initialized r => (.ok r, .initialized r)
  | .uninitialized none => (.error .unwrapNone, .uninitialized none)
  | .uninitialized (some f) =>
      match f s with
      | none => (.error .builder, .uninitialized none)
      | some r => (.ok r, .initialized r)

def builderPending : BuildOnAccess σ R → Bool
  | .uninitialized (some _) => true
  | _ => false

theorem getMutLoop_eq_getMut (s : σ) (b : BuildOnAccess σ R) (fuel : Nat) (enough : 2 ≤ fuel) :
    getMutLoop s fuel b = some (getMut s b) := by
  obtain ⟨fuel, rfl⟩ := Nat.exists_eq_add_of_le' enough
  rcases b with (_ | f) | r
  · rfl
  · simp only [getMutLoop, getMut]
    cases f s <;> rfl
  · rfl

def getMutRun : BuildOnAccess σ R → List σ → List (Except Panic R) × BuildOnAccess σ R
  | b, [] => ([], b)
  | b, s :: rest =>
      let (out, b') := getMut s b
      let (outs, final) := getMutRun b' rest
      (out :: outs, final)

theorem getMutRun_taken (ss : List σ) :
    getMutRun (.uninitialized none : BuildOnAccess σ R) ss =
      (ss.map fun _ => .error .unwrapNone, .uninitialized none) := by
  induction ss with
  | nil => rfl
  | cons s rest ih => simp [getMutRun, getMut, ih]

theorem get_mut_after_builder_panic (f : σ → Option R) (s : σ) (rest : List σ)
    (panics : f s = none) :
    getMutRun (.uninitialized (some f)) (s :: rest) =
      (.error .builder :: rest.map fun _ => .error .unwrapNone, .uninitialized none) := by
  simp [getMutRun, getMut, panics, getMutRun_taken]

theorem get_mut_after_builder_panic_unit :
    (fun _ : Unit => (none : Option Nat)) () = none ∧
    getMutRun (.uninitialized (some fun _ : Unit => (none : Option Nat))) [(), (), ()] =
      ([.error .builder, .error .unwrapNone, .error .unwrapNone], .uninitialized none) :=
  ⟨rfl, get_mut_after_builder_panic _ () [(), ()] rfl⟩

/- The builder fails when first run and would succeed with 7 on the second call, but the second
   `get_mut` finds the builder taken and panics at `f.take().unwrap()`. -/
theorem get_mut_does_not_retry_builder :
    (fun retry : Bool => if retry then some 7 else none) true = some 7 ∧
    getMutRun (.uninitialized (some fun retry : Bool => if retry then some 7 else none))
        [false, true] =
      ([.error .builder, .error .unwrapNone], .uninitialized none) :=
  ⟨rfl, rfl⟩

/-- A sequence of `get_mut` calls, each run as its loop for at most `fuel` passes: what each call
    returns with the value it leaves, or `none` if a call needs more passes. -/
def getMutLoopTrace (fuel : Nat) :
    BuildOnAccess σ R → List σ → Option (List (Except Panic R × BuildOnAccess σ R))
  | _, [] => some []
  | b, s :: rest =>
      match getMutLoop s fuel b with
      | none => none
      | some (out, b') => (getMutLoopTrace fuel b' rest).map ((out, b') :: ·)

def getMutTrace : BuildOnAccess σ R → List σ → List (Except Panic R × BuildOnAccess σ R)
  | _, [] => []
  | b, s :: rest => getMut s b :: getMutTrace (getMut s b).2 rest

def builderCalls : BuildOnAccess σ R → List σ → Nat
  | _, [] => 0
  | b, s :: rest => b.builderPending.toNat + builderCalls (getMut s b).2 rest

theorem getMutLoopTrace_eq (fuel : Nat) (enough : 2 ≤ fuel) (b : BuildOnAccess σ R)
    (ss : List σ) : getMutLoopTrace fuel b ss = some (getMutTrace b ss) := by
  induction ss generalizing b with
  | nil => rfl
  | cons s rest ih => simp only [getMutLoopTrace, getMutLoop_eq_getMut s b fuel enough, ih]; rfl

theorem getMutTrace_initialized (r : R) (ss : List σ) :
    getMutTrace (.initialized r) ss = ss.map fun _ => (.ok r, .initialized r) := by
  induction ss with
  | nil => rfl
  | cons s rest ih => exact congrArg (_ :: ·) ih

theorem builderCalls_initialized (r : R) (ss : List σ) : builderCalls (.initialized r) ss = 0 := by
  induction ss with
  | nil => rfl
  | cons s rest ih => exact (Nat.zero_add _).trans ih

/-- A builder that returns `r` when it first runs: every `get_mut` of the run finishes within two
    passes of its loop, returns `r` and leaves `Initialized(r)`, and the builder runs once, in the
    first call. -/
theorem get_mut_builds_once (f : σ → Option R) (s : σ) (rest : List σ) (r : R)
    (built : f s = some r) :
    getMutLoopTrace 2 (.uninitialized (some f)) (s :: rest) =
        some ((s :: rest).map fun _ => (.ok r, .initialized r)) ∧
      builderCalls (.uninitialized (some f)) (s :: rest) = 1 := by
  have first : getMut s (.uninitialized (some f)) = (.ok r, .initialized r) := by
    simp only [getMut, built]
  constructor
  · rw [getMutLoopTrace_eq 2 (Nat.le_refl 2), getMutTrace, first, getMutTrace_initialized]
    rfl
  · rw [builderCalls, first, builderCalls_initialized]
    rfl

theorem get_mut_builds_once_unit :
    (fun _ : Unit => (some 5 : Option Nat)) () = some 5 ∧
      getMutLoopTrace 2 (.uninitialized (some fun _ : Unit => (some 5 : Option Nat))) [(), (), ()] =
          some ([(), (), ()].map fun _ => (.ok 5, .initialized 5)) ∧
        builderCalls (.uninitialized (some fun _ : Unit => (some 5 : Option Nat))) [(), (), ()] = 1 :=
  ⟨rfl, get_mut_builds_once _ () [(), ()] 5 rfl⟩

end BuildOnAccess

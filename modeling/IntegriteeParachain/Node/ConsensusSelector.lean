import Mathlib.Data.List.Forall2
import IntegriteeParachain.Node.BuildOnAccess

/-!
The node's dual-mode consensus: `Verifier::verify` and `WaitForAuraConsensus::produce_candidate`
probe the runtime at the parent block for `AuraApi` and hand the call to the lazily built Aura
strategy or to the relay-chain strategy. The probe's outcome is an input of each call, and the
strategies are black boxes: a call's result names the strategy instance that served it.
`WaitForAuraConsensus` handles hold the address of one shared mutex cell, which `Clone` copies; the
lock is held across `get_mut`, so the calls of all clones act on that cell one after another.
-/
namespace ConsensusSelector
open BuildOnAccess

variable {ε σ R : Type}

/-- One call: the outcome of `has_api::<dyn AuraApi<Block, AuraId>>(parent_hash)` and the client
    state in which the Aura builder would run. -/
structure Call (ε σ : Type) where
  probe : Except ε Bool
  client : σ

def Call.hasAura (c : Call ε σ) : Bool :=
  match c.probe with
  | .ok b => b
  | .error _ => false

theorem Call.hasAura_iff (c : Call ε σ) : c.hasAura = true ↔ c.probe = .ok true := by
  rcases c with ⟨_ | _ | _, _⟩ <;> simp [Call.hasAura]

inductive Served (R : Type) where
  | aura (strategy : R)
  | relayChain

/-- The body `verify` and `produce_candidate` share. -/
def dispatch (aura : BuildOnAccess σ R) (c : Call ε σ) :
    Except Panic (Served R) × BuildOnAccess σ R :=
  if c.hasAura then
    let (out, aura') := getMut c.client aura
    (out.map .aura, aura')
  else (.ok .relayChain, aura)

structure Verifier (σ R : Type) where
  auraVerifier : BuildOnAccess σ R

def Verifier.verify (v : Verifier σ R) (c : Call ε σ) : Except Panic (Served R) × Verifier σ R :=
  let (out, aura) := dispatch v.auraVerifier c
  (out, ⟨aura⟩)

/-- The `aura_verifier` closure: `slot_duration(&*client2).unwrap()`, then `build_verifier`. -/
def auraVerifier {D : Type} (slotDuration : σ → Option D) (buildVerifier : D → R) :
    σ → Option R :=
  fun client => (slotDuration client).map buildVerifier

def auraBuildImportQueue {D : Type} (slotDuration : σ → Option D) (buildVerifier : D → R) :
    Verifier σ R :=
  ⟨.uninitialized (some (auraVerifier slotDuration buildVerifier))⟩

structure WaitForAuraConsensus where
  auraConsensus : Nat

/-- `Clone for WaitForAuraConsensus`: `Arc::clone` of the cell. -/
def WaitForAuraConsensus.clone (w : WaitForAuraConsensus) : WaitForAuraConsensus :=
  ⟨w.auraConsensus⟩

def WaitForAuraConsensus.produceCandidate (w : WaitForAuraConsensus)
    (cells : Nat → BuildOnAccess σ R) (c : Call ε σ) :
    Except Panic (Served R) × (Nat → BuildOnAccess σ R) :=
  let (out, aura) := dispatch (cells w.auraConsensus) c
  (out, Function.update cells w.auraConsensus aura)

inductive CloneOf (w₀ : WaitForAuraConsensus) : WaitForAuraConsensus → Prop where
  | self : CloneOf w₀ w₀
  | clone {w : WaitForAuraConsensus} : CloneOf w₀ w → CloneOf w₀ w.clone

/-- What the law observes of a call: who served it, and whether the builder ran during it. -/
structure Observed (R : Type) where
  served : Except Panic (Served R)
  builderInvoked : Bool

def builderRuns (aura : BuildOnAccess σ R) (c : Call ε σ) : Bool := c.hasAura && aura.builderPending

/-- The trace of `verify` calls on one verifier: each call's result as `verify` returns it. -/
def Verifier.run (v : Verifier σ R) : List (Call ε σ) → List (Observed R)
  | [] => []
  | c :: cs => ⟨(v.verify c).1, builderRuns v.auraVerifier c⟩ :: (v.verify c).2.run cs

/-- The trace of `produce_candidate` calls, each through the handle paired with it. -/
def runClones (cells : Nat → BuildOnAccess σ R) :
    List (WaitForAuraConsensus × Call ε σ) → List (Observed R)
  | [] => []
  | (w, c) :: rest =>
      ⟨(w.produceCandidate cells c).1, builderRuns (cells w.auraConsensus) c⟩ ::
        runClones (w.produceCandidate cells c).2 rest

def observeRun (aura : BuildOnAccess σ R) : List (Call ε σ) → List (Observed R)
  | [] => []
  | c :: cs => ⟨(dispatch aura c).1, builderRuns aura c⟩ :: observeRun (dispatch aura c).2 cs

theorem Verifier.run_eq (v : Verifier σ R) (cs : List (Call ε σ)) :
    v.run cs = observeRun v.auraVerifier cs := by
  induction cs generalizing v with
  | nil => rfl
  | cons c cs ih => simp only [Verifier.run, observeRun, ih]; rfl

theorem cloneOf_cell {w₀ w : WaitForAuraConsensus} (h : CloneOf w₀ w) :
    w.auraConsensus = w₀.auraConsensus := by
  induction h with
  | self => rfl
  | clone _ ih => exact ih

theorem runClones_eq (w₀ : WaitForAuraConsensus) :
    ∀ (cells : Nat → BuildOnAccess σ R) (calls : List (WaitForAuraConsensus × Call ε σ)),
      (∀ p ∈ calls, CloneOf w₀ p.1) →
      runClones cells calls = observeRun (cells w₀.auraConsensus) (calls.map Prod.snd)
  | _, [], _ => rfl
  | cells, (w, c) :: calls, clones => by
    have cell : w.auraConsensus = w₀.auraConsensus := cloneOf_cell (clones (w, c) (.head _))
    have tail := runClones_eq w₀ (w.produceCandidate cells c).2 calls
      (fun p mem => clones p (.tail _ mem))
    simp only [runClones, observeRun, List.map_cons, tail, cell]
    simp [WaitForAuraConsensus.produceCandidate, cell]

theorem observeRun_settled (b : BuildOnAccess σ R) (out : Except Panic R)
    (settled : ∀ s, getMut s b = (out, b)) (idle : b.builderPending = false)
    (cs : List (Call ε σ)) :
    observeRun b cs =
      cs.map fun c => ⟨if c.hasAura then out.map .aura else .ok .relayChain, false⟩ := by
  induction cs with
  | nil => rfl
  | cons c cs ih =>
    have step : dispatch b c = (if c.hasAura then out.map .aura else .ok .relayChain, b) := by
      unfold dispatch
      split <;> simp [settled]
    simp [observeRun, builderRuns, step, idle, ih]

/-- The dispatch law over the trace of the calls `cs` from `Uninitialized(Some(f))`: a call goes
    to the relay-chain strategy exactly when its probe did not give `Ok(true)`; the builder runs
    once if some call goes to Aura, and then during the first such call, and never otherwise; and
    once `f` has built a strategy, every Aura call is served by it. -/
structure DispatchLaw (f : σ → Option R) (cs : List (Call ε σ)) (trace : List (Observed R)) :
    Prop where
  relayChain : List.Forall₂ (fun o c => o.served = .ok .relayChain ↔ c.probe ≠ .ok true) trace cs
  builtOnce : (trace.filter (·.builderInvoked)).length = if cs.any (·.hasAura) then 1 else 0
  builtFirst : trace.findIdx (·.builderInvoked) = cs.findIdx (·.hasAura)
  servedByBuilt : ∀ r, (cs.find? (·.hasAura)).bind (fun c => f c.client) = some r →
    List.Forall₂ (fun o c => c.probe = .ok true → o.served = .ok (.aura r)) trace cs

theorem dispatchLaw_relayChain {f : σ → Option R} {c : Call ε σ} {cs : List (Call ε σ)}
    {trace : List (Observed R)} (law : DispatchLaw f cs trace) (relay : c.hasAura = false) :
    DispatchLaw f (c :: cs) (⟨.ok .relayChain, false⟩ :: trace) := by
  have probe : c.probe ≠ .ok true := by simpa [← Call.hasAura_iff] using relay
  refine ⟨.cons (by simpa using probe) law.relayChain, ?_, ?_, fun r built => ?_⟩
  · simpa [relay] using law.builtOnce
  · simp [List.findIdx_cons, relay, law.builtFirst]
  · simp only [List.find?_cons, relay] at built
    exact .cons (fun aura => absurd aura probe) (law.servedByBuilt r built)

theorem dispatchLaw_first_aura {f : σ → Option R} {c : Call ε σ} {cs : List (Call ε σ)}
    (aura : c.hasAura = true) (first : Except Panic (Served R)) (out : Except Panic (Served R))
    (firstNotRelay : first ≠ .ok .relayChain) (outNotRelay : out ≠ .ok .relayChain)
    (built : ∀ r, f c.client = some r → first = .ok (.aura r) ∧ out = .ok (.aura r)) :
    DispatchLaw f (c :: cs)
      (⟨first, true⟩ :: cs.map fun c => ⟨if c.hasAura then out else .ok .relayChain, false⟩) := by
  have probe : c.probe = .ok true := (Call.hasAura_iff c).mp aura
  refine ⟨.cons ⟨fun same => absurd same firstNotRelay, fun notProbe => absurd probe notProbe⟩ ?_,
    ?_, ?_, ?_⟩
  · rw [List.forall₂_map_left_iff, List.forall₂_same]
    intro c' _
    by_cases aura' : c'.hasAura = true
    · simp [aura', outNotRelay, (Call.hasAura_iff c').mp aura']
    · simp [aura', ← Call.hasAura_iff]
  · simp [List.filter_map, aura]
  · simp [List.findIdx_cons, aura]
  · intro r found
    simp only [List.find?_cons, aura, Option.some_bind] at found
    obtain ⟨firstServed, outServed⟩ := built r found
    refine .cons (fun _ => firstServed) ?_
    rw [List.forall₂_map_left_iff, List.forall₂_same]
    intro c' _ probe'
    simp [(Call.hasAura_iff c').mpr probe', outServed]

theorem observeRun_law (f : σ → Option R) :
    ∀ cs : List (Call ε σ), DispatchLaw f cs (observeRun (.uninitialized (some f)) cs)
  | [] => ⟨.nil, rfl, rfl, fun _ _ => .nil⟩
  | c :: cs => by
    by_cases aura : c.hasAura = true
    · have step : dispatch (.uninitialized (some f)) c =
          ((getMut c.client (.uninitialized (some f))).1.map .aura,
            (getMut c.client (.uninitialized (some f))).2) := by
        simp [dispatch, aura]
      have runs : builderRuns (.uninitialized (some f)) c = true := by
        simp [builderRuns, aura, builderPending]
      simp only [observeRun, step, runs]
      cases built : f c.client with
      | none =>
        simp only [getMut, built]
        rw [observeRun_settled (.uninitialized none) (.error .unwrapNone) (fun _ => rfl) rfl]
        exact dispatchLaw_first_aura aura _ _ nofun nofun (by simp [built])
      | some r =>
        simp only [getMut, built]
        rw [observeRun_settled (.initialized r) (.ok r) (fun _ => rfl) rfl]
        exact dispatchLaw_first_aura aura _ _ nofun nofun (by simp [built, Except.map])
    · have relay : c.hasAura = false := by simpa using aura
      have step : dispatch (.uninitialized (some f)) c = (.ok .relayChain, .uninitialized (some f)) := by
        simp [dispatch, relay]
      have runs : builderRuns (.uninitialized (some f)) c = false := by simp [builderRuns, relay]
      simp only [observeRun, step, runs]
      exact dispatchLaw_relayChain (observeRun_law f cs) relay

theorem aura_consensus_dispatch_law {D : Type} (slotDuration : σ → Option D)
    (buildVerifier : D → R) (f : σ → Option R) (cs : List (Call ε σ)) :
    DispatchLaw (auraVerifier slotDuration buildVerifier) cs
      ((auraBuildImportQueue slotDuration buildVerifier).run cs) ∧
    ∀ (cells : Nat → BuildOnAccess σ R) (w₀ : WaitForAuraConsensus)
      (calls : List (WaitForAuraConsensus × Call ε σ)),
      cells w₀.auraConsensus = .uninitialized (some f) → (∀ p ∈ calls, CloneOf w₀ p.1) →
      DispatchLaw f (calls.map Prod.snd) (runClones cells calls) := by
  refine ⟨?_, fun cells w₀ calls start clones => ?_⟩
  · rw [Verifier.run_eq]
    exact observeRun_law _ cs
  · rw [runClones_eq w₀ cells calls clones, start]
    exact observeRun_law f _

end ConsensusSelector

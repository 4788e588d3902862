import IntegriteeParachain.Xcm.Instruction

/-!
The runtime's `Weigher`, `FixedWeightBounds<UnitWeightCost, RuntimeCall, MaxInstructions>` of
xcm-builder: every instruction costs `UnitWeightCost`, a `Transact` adds the weight it declares,
and the programs of `SetErrorHandler` and `SetAppendix` are weighed with the instructions they hold,
all charged to one budget of `MaxInstructions` instructions. `MaxInstructions` is defined outside
this configuration and is a parameter. `weight_eq` gives the weigher's result in closed form.
-/
namespace Weigher
open Xcm

def defaultProofSize : Nat := 128 * 1024

/-- `UnitWeightCost`: the weight the runtime charges for one instruction. -/
def unitWeightCost : Weight := ⟨200000000, defaultProofSize⟩

mutual
/-- `FixedWeightBounds::instr_weight_with_limit`. The nested program of a `SetErrorHandler` or
    `SetAppendix` is weighed as `weight_with_limit` weighs it, written out here so that the recursion
    is structural. -/
def instrWeightWithLimit (unit : Weight) : Instruction → Nat → Option (Weight × Nat)
  | .transact requireWeightAtMost, limit => (unit.checkedAdd requireWeightAtMost).map (·, limit)
  | .setErrorHandler xcm, limit | .setAppendix xcm, limit =>
      if xcm.length % 2 ^ 32 ≤ limit then
        (weighEach unit .zero xcm (limit - xcm.length % 2 ^ 32)).bind fun (w, limit) =>
          (unit.checkedAdd w).map (·, limit)
      else none
  | _, limit => (unit.checkedAdd .zero).map (·, limit)

/-- The loop of `weight_with_limit`: `r` is the weight of the instructions before. -/
def weighEach (unit r : Weight) : List Instruction → Nat → Option (Weight × Nat)
  | [], limit => some (r, limit)
  | i :: rest, limit =>
      (instrWeightWithLimit unit i limit).bind fun (w, limit) =>
        (r.checkedAdd w).bind fun r => weighEach unit r rest limit
end

/-- `FixedWeightBounds::weight_with_limit`: charges the program's length (`as u32`) to the
    instruction limit, then weighs its instructions in order. -/
def weightWithLimit (unit : Weight) (message : List Instruction) (limit : Nat) :
    Option (Weight × Nat) :=
  if message.length % 2 ^ 32 ≤ limit then
    weighEach unit .zero message (limit - message.length % 2 ^ 32)
  else none

/-- `FixedWeightBounds::weight`, the runtime's `Weigher` with `unit = UnitWeightCost` and the
    limit `MaxInstructions`. -/
def weight (unit : Weight) (maxInstructions : Nat) (message : List Instruction) : Option Weight :=
  (weightWithLimit unit message maxInstructions).map Prod.fst

mutual
def innerCount : Instruction → Nat
  | .setErrorHandler xcm | .setAppendix xcm => count xcm
  | _ => 0

/-- The instructions of a program, those of nested programs included. -/
def count : List Instruction → Nat
  | [] => 0
  | i :: rest => 1 + innerCount i + count rest
end

mutual
def innerDeclared : Instruction → Weight
  | .transact requireWeightAtMost => requireWeightAtMost
  | .setErrorHandler xcm | .setAppendix xcm => declared xcm
  | _ => .zero

def declared : List Instruction → Weight
  | [] => .zero
  | i :: rest => innerDeclared i + declared rest
end

def charge (unit : Weight) (n : Nat) (declared : Weight) : Weight :=
  ⟨n * unit.refTime + declared.refTime, n * unit.proofSize + declared.proofSize⟩

@[simp] theorem charge_refTime (unit declared : Weight) (n : Nat) :
    (charge unit n declared).refTime = n * unit.refTime + declared.refTime := rfl

@[simp] theorem charge_proofSize (unit declared : Weight) (n : Nat) :
    (charge unit n declared).proofSize = n * unit.proofSize + declared.proofSize := rfl

theorem count_append (xs ys : List Instruction) : count (xs ++ ys) = count xs + count ys := by
  induction xs with
  | nil => simp [count]
  | cons i rest ih => rw [List.cons_append, count, count, ih]; omega

theorem declared_append (xs ys : List Instruction) :
    declared (xs ++ ys) = declared xs + declared ys := by
  induction xs with
  | nil => ext <;> simp [declared]
  | cons i rest ih =>
    rw [List.cons_append, declared, declared, ih]
    ext <;> simp only [Weight.add_refTime, Weight.add_proofSize] <;> omega

theorem length_le_count : ∀ xs : List Instruction, xs.length ≤ count xs
  | [] => Nat.le_refl 0
  | _ :: rest => by simp only [count, List.length_cons]; have := length_le_count rest; omega

@[simp] theorem zero_add_weight (w : Weight) : Weight.zero + w = w := by
  ext <;> simp

theorem unit_add_charge (unit d : Weight) (n : Nat) :
    unit + charge unit n d = charge unit (1 + n) d := by
  ext <;> simp only [Weight.add_refTime, Weight.add_proofSize, charge_refTime, charge_proofSize,
    Nat.add_mul, Nat.one_mul] <;> omega

theorem map_checkedAdd (a b : Weight) (limit : Nat) :
    (a.checkedAdd b).map (·, limit) = if (a + b).Fits then some (a + b, limit) else none := by
  rw [Weight.checkedAdd_eq]; split <;> rfl

theorem charge_one (unit w : Weight) : charge unit (1 + 0) w = unit + w := by
  ext <;> simp

theorem add_charge_add (unit r d e : Weight) (a b : Nat) :
    r + charge unit a d + charge unit b e = r + charge unit (a + b) (d + e) := by
  ext <;> simp only [Weight.add_refTime, Weight.add_proofSize, charge_refTime, charge_proofSize,
    Nat.add_mul] <;> omega

theorem fits_of_le {a b : Weight} (fits : b.Fits)
    (le : a.refTime ≤ b.refTime ∧ a.proofSize ≤ b.proofSize) : a.Fits := by
  unfold Weight.Fits at *; omega

theorem flat_closed (unit w : Weight) (limit : Nat) :
    (unit.checkedAdd w).map (·, limit) =
      if 0 ≤ limit ∧ (charge unit (1 + 0) w).Fits then some (charge unit (1 + 0) w, limit - 0)
      else none := by
  simp only [map_checkedAdd, charge_one, Nat.zero_le, true_and, Nat.sub_zero]

theorem nested_closed (unit : Weight) (xcm : List Instruction) (limit : Nat)
    (short : count xcm < 2 ^ 32)
    (each : weighEach unit .zero xcm (limit - xcm.length) =
      if count xcm ≤ limit - xcm.length + xcm.length ∧
          (Weight.zero + charge unit (count xcm) (declared xcm)).Fits then
        some (Weight.zero + charge unit (count xcm) (declared xcm),
          limit - xcm.length + xcm.length - count xcm)
      else none) :
    (if xcm.length % 2 ^ 32 ≤ limit then
        (weighEach unit .zero xcm (limit - xcm.length % 2 ^ 32)).bind fun (w, limit) =>
          (unit.checkedAdd w).map (·, limit)
      else none) =
      if count xcm ≤ limit ∧ (charge unit (1 + count xcm) (declared xcm)).Fits then
        some (charge unit (1 + count xcm) (declared xcm), limit - count xcm)
      else none := by
  have within := length_le_count xcm
  have len : xcm.length % 2 ^ 32 = xcm.length := Nat.mod_eq_of_lt (by omega)
  rw [len, each]
  simp only [zero_add_weight]
  by_cases enough : count xcm ≤ limit
  · rw [if_pos (Nat.le_trans within enough), Nat.sub_add_cancel (Nat.le_trans within enough)]
    by_cases fits : (charge unit (count xcm) (declared xcm)).Fits
    · rw [if_pos ⟨enough, fits⟩, Option.some_bind, map_checkedAdd, unit_add_charge]
      simp only [enough, true_and]
    · rw [if_neg (fun h => fits h.2), if_neg (fun h => fits (fits_of_le h.2 (by
        simp only [charge_refTime, charge_proofSize, Nat.add_mul, Nat.one_mul]; omega))),
        Option.none_bind]
  · simp only [enough, false_and, if_false]
    split
    · rw [if_neg (fun h => enough (by have := h.1; omega)), Option.none_bind]
    · rfl

theorem cons_closed (unit r : Weight) (i : Instruction) (rest : List Instruction) (limit : Nat)
    (short : count (i :: rest) < 2 ^ 32)
    (first : innerCount i < 2 ^ 32 → instrWeightWithLimit unit i limit =
      if innerCount i ≤ limit ∧ (charge unit (1 + innerCount i) (innerDeclared i)).Fits then
        some (charge unit (1 + innerCount i) (innerDeclared i), limit - innerCount i)
      else none)
    (more : ∀ r' : Weight, r'.Fits → count rest < 2 ^ 32 →
      weighEach unit r' rest (limit - innerCount i) =
        if count rest ≤ limit - innerCount i + rest.length ∧
            (r' + charge unit (count rest) (declared rest)).Fits then
          some (r' + charge unit (count rest) (declared rest),
            limit - innerCount i + rest.length - count rest)
        else none) :
    weighEach unit r (i :: rest) limit =
      if count (i :: rest) ≤ limit + (i :: rest).length ∧
          (r + charge unit (count (i :: rest)) (declared (i :: rest))).Fits then
        some (r + charge unit (count (i :: rest)) (declared (i :: rest)),
          limit + (i :: rest).length - count (i :: rest))
      else none := by
  simp only [count] at short
  have within := length_le_count rest
  simp only [weighEach, first (by omega), count, declared, List.length_cons]
  by_cases head : innerCount i ≤ limit ∧ (charge unit (1 + innerCount i) (innerDeclared i)).Fits
  · rw [if_pos head, Option.some_bind, Weight.checkedAdd_eq]
    by_cases total : (r + charge unit (1 + innerCount i) (innerDeclared i)).Fits
    · have enough : count rest ≤ limit - innerCount i + rest.length ↔
          1 + innerCount i + count rest ≤ limit + (rest.length + 1) := by omega
      have left : limit - innerCount i + rest.length - count rest =
          limit + (rest.length + 1) - (1 + innerCount i + count rest) := by omega
      rw [if_pos total, Option.some_bind, more _ total (by omega), add_charge_add]
      simp only [enough, left]
    · rw [if_neg total, Option.none_bind, if_neg (fun h => total (fits_of_le h.2 (by
        simp only [Weight.add_refTime, Weight.add_proofSize, charge_refTime, charge_proofSize,
          Nat.add_mul]; omega)))]
  · rw [if_neg head, Option.none_bind, if_neg (fun h => head ⟨by omega, fits_of_le h.2 (by
        simp only [Weight.add_refTime, Weight.add_proofSize, charge_refTime, charge_proofSize,
          Nat.add_mul]; omega)⟩)]

/- The two functions in closed form, by one induction over instructions and programs: a nested
   program is charged its instructions at `unit` each and the weight it declares. -/
mutual
theorem instrWeightWithLimit_eq (unit : Weight) (i : Instruction) (limit : Nat)
    (short : innerCount i < 2 ^ 32) :
    instrWeightWithLimit unit i limit =
      if innerCount i ≤ limit ∧ (charge unit (1 + innerCount i) (innerDeclared i)).Fits then
        some (charge unit (1 + innerCount i) (innerDeclared i), limit - innerCount i)
      else none := by
  cases i with
  | setErrorHandler xcm | setAppendix xcm =>
    exact nested_closed unit xcm limit short (weighEach_eq unit .zero xcm _ (by decide) short)
  | transact w => exact flat_closed unit w limit
  | _ => exact flat_closed unit .zero limit

theorem weighEach_eq (unit r : Weight) (xs : List Instruction) (limit : Nat) (fits : r.Fits)
    (short : count xs < 2 ^ 32) :
    weighEach unit r xs limit =
      if count xs ≤ limit + xs.length ∧ (r + charge unit (count xs) (declared xs)).Fits then
        some (r + charge unit (count xs) (declared xs), limit + xs.length - count xs)
      else none := by
  cases xs with
  | nil =>
    have unchanged : r + charge unit 0 .zero = r := by ext <;> simp
    simp only [weighEach, count, declared, List.length_nil, Nat.zero_le, Nat.add_zero,
      Nat.sub_zero, true_and, unchanged, if_pos fits]
  | cons i rest =>
    exact cons_closed unit r i rest limit short (instrWeightWithLimit_eq unit i limit)
      fun r' fits' short' => weighEach_eq unit r' rest _ fits' short'
end

/-- The weight the weigher gives a message: `unit` for each of its instructions, nested ones
    included, and the weight its `Transact`s declare. -/
def messageWeight (unit : Weight) (message : List Instruction) : Weight :=
  charge unit (count message) (declared message)

/-- The weigher in closed form. A program's length is cast `as u32` before it is charged, which
    wraps only for programs of `2 ^ 32` instructions or more: hence `short`. -/
theorem weight_eq (unit : Weight) (maxInstructions : Nat) (message : List Instruction)
    (short : count message < 2 ^ 32) :
    weight unit maxInstructions message =
      if count message ≤ maxInstructions ∧ (messageWeight unit message).Fits then
        some (messageWeight unit message)
      else none := by
  have within := length_le_count message
  have len : message.length % 2 ^ 32 = message.length := Nat.mod_eq_of_lt (by omega)
  simp only [weight, weightWithLimit, len]
  by_cases enough : message.length ≤ maxInstructions
  · rw [if_pos enough, weighEach_eq unit .zero message _ (by decide) short, Nat.sub_add_cancel enough]
    simp only [zero_add_weight, messageWeight]
    split <;> rfl
  · rw [if_neg enough, if_neg (fun h => enough (by omega))]
    rfl

theorem weight_eq_some {unit w : Weight} {maxInstructions : Nat} {message : List Instruction}
    (short : count message < 2 ^ 32) (h : weight unit maxInstructions message = some w) :
    w = messageWeight unit message := by
  rw [weight_eq unit maxInstructions message short] at h
  split at h
  · exact (Option.some.inj h).symm
  · cases h

@[simp] theorem unitWeightCost_refTime : unitWeightCost.refTime = 200000000 := rfl

@[simp] theorem unitWeightCost_proofSize : unitWeightCost.proofSize = 131072 := rfl

@[simp] theorem messageWeight_refTime (unit : Weight) (message : List Instruction) :
    (messageWeight unit message).refTime = count message * unit.refTime + (declared message).refTime :=
  rfl

@[simp] theorem messageWeight_proofSize (unit : Weight) (message : List Instruction) :
    (messageWeight unit message).proofSize =
      count message * unit.proofSize + (declared message).proofSize :=
  rfl

example : weight unitWeightCost 100 [.withdrawAsset, .buyExecution .unlimited,
    .setAppendix [.other, .other]] = some ⟨1000000000, 5 * 131072⟩ := by
  decide

end Weigher

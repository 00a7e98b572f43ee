import SuplaCore.Analyzer.Electricity

/-!
# Initial values of the counters of an electricity meter

`get_initial_value` and `add_initial_value` of `electricity_meter_config`
(`supla-server/src/jsonconfig/channel/electricity_meter_config.cpp`). The counters are 64-bit, those
of the three phases are a `Three`; a division by zero is `none`. The two trees of the configuration
are JSON trees.

Left out: the number of phases that no caller passes, and the null pointers.
-/

namespace Channel.EmConfig

open Json

/-! ## Integers -/

/-- The values of `_supla_int64_t`. -/
def isInt64 (n : Int) : Prop := -9223372036854775808 ≤ n ∧ n ≤ 9223372036854775807

/-- `(_supla_int64_t)n`. -/
def toInt64 (n : Int) : Int :=
  (n + 9223372036854775808) % 18446744073709551616 - 9223372036854775808

/-- `(unsigned _supla_int64_t)n`. -/
def toUInt64 (n : Int) : Nat := (n % 18446744073709551616).toNat

def uint64Max : Nat := 18446744073709551615

/-- The numbers of the configuration: `100000.0 * valuedouble` as a counter. -/
class CounterDouble (D : Type) where
  counter : D → Int
  isInt64_counter : ∀ d, isInt64 (counter d)

/-! ## Configuration -/

structure Config (D : Type) where
  userRoot : Node D
  propertiesRoot : Node D

def EM_VAR_FORWARD_ACTIVE_ENERGY : BitVec 32 := 0x0100
def EM_VAR_REVERSE_ACTIVE_ENERGY : BitVec 32 := 0x0200
def EM_VAR_FORWARD_REACTIVE_ENERGY : BitVec 32 := 0x0400
def EM_VAR_REVERSE_REACTIVE_ENERGY : BitVec 32 := 0x0800
def EM_VAR_FORWARD_ACTIVE_ENERGY_BALANCED : BitVec 32 := 0x2000
def EM_VAR_REVERSE_ACTIVE_ENERGY_BALANCED : BitVec 32 := 0x4000

def emVarMap : List (BitVec 32 × String) :=
  [(EM_VAR_FORWARD_ACTIVE_ENERGY, "forwardActiveEnergy"),
    (EM_VAR_REVERSE_ACTIVE_ENERGY, "reverseActiveEnergy"),
    (EM_VAR_FORWARD_REACTIVE_ENERGY, "forwardReactiveEnergy"),
    (EM_VAR_REVERSE_REACTIVE_ENERGY, "reverseReactiveEnergy"),
    (EM_VAR_FORWARD_ACTIVE_ENERGY_BALANCED, "forwardActiveEnergyBalanced"),
    (EM_VAR_REVERSE_ACTIVE_ENERGY_BALANCED, "reverseActiveEnergyBalanced")]

variable {D : Type} [CounterDouble D]

/-- The bits of an item of `countersAvailable`. -/
def counterBits (item : Node D) : BitVec 32 :=
  match item.kind with
  | .string s => emVarMap.foldl (fun bits e => if sameName s e.2 then bits ||| e.1 else bits) 0
  | _ => 0

def getAvailableCounters (c : Config D) : BitVec 32 :=
  match c.propertiesRoot.get "countersAvailable" with
  | some available =>
    match available.kind with
    | .array => available.items.foldl (fun result item => result ||| counterBits item) 0
    | _ => 0
  | none => 0

/-- The number of a phase in the object of a variable. -/
def phaseInitialValue (initialValue : Node D) (phase : Nat) : Int :=
  match (initialValue.get (toString phase)).map Node.kind with
  | some (.number value) => CounterDouble.counter value
  | _ => 0

/-- `get_initial_value`, with `initial_value_for_all_phases`. -/
def getInitialValue (c : Config D) (var : BitVec 32) (phase : Nat) : Int × Bool :=
  match emVarMap.find? fun e => decide (e.1 = var) with
  | none => (0, true)
  | some e =>
    if getAvailableCounters c &&& var = 0 then (0, true)
    else
      match (c.userRoot.get "electricityMeterInitialValues").bind (·.get e.2) with
      | none => (0, true)
      | some initialValue =>
        match initialValue.kind with
        | .object => (phaseInitialValue initialValue phase, false)
        | .number value => (CounterDouble.counter value, true)
        | _ => (0, true)

def getInitialValueForAllPhases (c : Config D) (var : BitVec 32) : Int :=
  let r := getInitialValue c var 1
  if !r.2 then
    let initialValue := toInt64 (r.1 + (getInitialValue c EM_VAR_FORWARD_ACTIVE_ENERGY 2).1)
    toInt64 (initialValue + (getInitialValue c EM_VAR_FORWARD_ACTIVE_ENERGY 3).1)
  else r.1

/-! ## One phase -/

/-- What is kept of each phase. -/
structure Three (α : Type) where
  p1 : α
  p2 : α
  p3 : α
  deriving DecidableEq

namespace Three

variable {α : Type}

def get (t : Three α) (phase : Nat) : α :=
  if phase = 1 then t.p1 else if phase = 2 then t.p2 else t.p3

def set (t : Three α) (phase : Nat) (a : α) : Three α :=
  if phase = 1 then { t with p1 := a }
  else if phase = 2 then { t with p2 := a }
  else { t with p3 := a }

end Three

/-- `SUPLA_CHANNEL_FLAG_PHASE1_UNSUPPORTED` to `SUPLA_CHANNEL_FLAG_PHASE3_UNSUPPORTED`. -/
def unsupportedFlag (phase : Nat) : BitVec 32 := BitVec.twoPow 32 (16 + phase)

example : unsupportedFlag 1 = 0x00020000 ∧ unsupportedFlag 2 = 0x00040000 ∧
    unsupportedFlag 3 = 0x00080000 := by decide

/-- `flags & SUPLA_CHANNEL_FLAG_PHASE…_UNSUPPORTED`. -/
def unsupported (flags : BitVec 32) (phase : Nat) : Bool :=
  decide (flags &&& unsupportedFlag phase ≠ 0)

def phaseCount (flags : BitVec 32) : Nat :=
  3 - (unsupported flags 1).toNat - (unsupported flags 2).toNat - (unsupported flags 3).toNat

def firstSupportedPhase (flags : BitVec 32) : Nat :=
  if unsupported flags 2 then 3 else if unsupported flags 1 then 2 else 1

/-- What a phase is given of the initial value. -/
def addition (initialValue : Int) (forAllPhases : Bool) (phase : Nat) (flags : BitVec 32) :
    Option Int :=
  if forAllPhases then
    let count := phaseCount flags
    if count = 0 then none
    else
      let share := initialValue.tdiv count
      if firstSupportedPhase flags = phase then some (share + (initialValue - share * count))
      else some share
  else some initialValue

/-- A counter and `substracted` after an addition. -/
def addTo (addition : Int) (value : Nat) (substracted : Int) : Nat × Int :=
  if addition < 0 then
    let addition := if toUInt64 (addition * -1) > value then toInt64 (value * -1) else addition
    (toUInt64 (value + addition), toInt64 (substracted + addition))
  else
    let left := toUInt64 (-1 - value)
    (toUInt64 (value + if toUInt64 addition > left then (left : Int) else addition), substracted)

/-- `add_initial_value` of one phase. -/
def addInitialValuePhase (initialValue : Int) (forAllPhases : Bool) (phase : Nat)
    (flags : BitVec 32) (value : Nat) (substracted : Int) : Option (Nat × Int) :=
  if unsupported flags phase then some (value, substracted)
  else (addition initialValue forAllPhases phase flags).map fun a => addTo a value substracted

/-! ## All phases -/

/-- The variables of the loop. -/
structure Loop where
  initialValue : Int
  flags : BitVec 32
  value : Three Nat
  substracted : Int

/-- A phase whose counter is zero has nothing that could be subtracted. -/
def markZero (phase : Nat) (value : Three Nat) (flags : BitVec 32) : BitVec 32 :=
  if value.get phase = 0 then flags ||| unsupportedFlag phase else flags

/-- One phase of a round, and whether its counter changes. -/
def roundPhase (c : Config D) (var : BitVec 32) (forAllPhases : Bool) (phase : Nat) (s : Loop) :
    Option (Loop × Bool) :=
  (addInitialValuePhase s.initialValue forAllPhases phase s.flags (s.value.get phase)
    s.substracted).map fun r =>
      ({ initialValue :=
           if !forAllPhases && decide (phase < 3) then (getInitialValue c var (phase + 1)).1
           else s.initialValue
         flags := s.flags
         value := s.value.set phase r.1
         substracted := r.2 },
       decide (s.value.get phase ≠ r.1))

/-- A round, and whether another one follows. -/
def round (c : Config D) (var : BitVec 32) (forAllPhases : Bool) (s : Loop) :
    Option (Loop × Bool) := do
  let flags :=
    if s.initialValue < 0 then markZero 3 s.value (markZero 2 s.value (markZero 1 s.value s.flags))
    else s.flags
  let (s1, changed1) ← roundPhase c var forAllPhases 1 { s with flags := flags }
  let (s2, changed2) ← roundPhase c var forAllPhases 2 s1
  let (s3, changed3) ← roundPhase c var forAllPhases 3 s2
  if forAllPhases && (changed1 || changed2 || changed3) && decide (s3.initialValue < 0) &&
      decide (s3.initialValue < s3.substracted) &&
      (decide (s3.value.p1 > 0) || decide (s3.value.p2 > 0) || decide (s3.value.p3 > 0)) then
    some ({ s3 with initialValue := toInt64 (s3.initialValue - s3.substracted) }, true)
  else some (s3, false)

/-- The loop, with a bound on its rounds. -/
def loop (c : Config D) (var : BitVec 32) (forAllPhases : Bool) : Nat → Loop → Option (Three Nat)
  | 0, _ => none
  | fuel + 1, s =>
    match round c var forAllPhases s with
    | none => none
    | some (s', true) => loop c var forAllPhases fuel s'
    | some (s', false) => some s'.value

/-- `add_initial_value` of a variable. -/
def addInitialValue (c : Config D) (var : BitVec 32) (flags : BitVec 32) (value : Three Nat)
    (fuel : Nat) : Option (Three Nat) :=
  let r := getInitialValue c var 1
  loop c var r.2 fuel ⟨r.1, flags, value, 0⟩

/-! ## Totals -/

/-- `add_initial_value` of a balanced energy. -/
def addInitialValueTotal (c : Config D) (var : BitVec 32) (value : Nat) : Option Nat :=
  (addInitialValuePhase (getInitialValueForAllPhases c var) false 1 0 value 0).map (·.1)

/-- `(unsigned _supla_int_t)n`. -/
def toUInt32 (n : Int) : Nat := (n % 4294967296).toNat

/-- `UINT_MAX`. -/
def uintMax : Nat := 4294967295

/-- `add_initial_value` of the 32-bit forward active energy. -/
def addInitialValueForward (c : Config D) (totalForwardActiveEnergy : Nat) : Nat :=
  let initialValue := (getInitialValueForAllPhases c EM_VAR_FORWARD_ACTIVE_ENERGY).tdiv 1000
  let initialValue : Int :=
    if initialValue < 0 then
      if initialValue * -1 > totalForwardActiveEnergy then toUInt32 (totalForwardActiveEnergy * -1)
      else initialValue
    else
      let left := uintMax - totalForwardActiveEnergy
      if toUInt64 initialValue > left then left else initialValue
  toUInt32 (totalForwardActiveEnergy + initialValue)

end Channel.EmConfig

import SuplaCore.Device.ShadingParameters

/-!
# The commands of shading systems

The arithmetic on characters is arithmetic on integers (`toInt_clamp`, `toInt_percentageToPosition`,
`toInt_addDelta`), each parameter is read apart from the other one (`percentage_ofJson`,
`tilt_ofJson`), and a shading function takes every value (`applyOnValue_eq`). What an object asks
for is a `Request`; `shading_commands` says what is commanded.
-/

namespace Device

open Channel Channels Json

/-! ## Characters as integers -/

namespace ShadingParameters

theorem toInt_clamp (v : Int8) (delta : Bool) : (clamp v delta).toInt =
    if v.toInt < -1 ∧ delta = false then -1 else max (-100) (min v.toInt 100) := by
  unfold clamp
  simp only [Int8.lt_iff_toInt_lt, show (-1 : Int8).toInt = -1 from rfl,
    show (-100 : Int8).toInt = -100 from rfl, show (100 : Int8).toInt = 100 from rfl]
  split
  · rfl
  · split
    · show (-100 : Int) = _
      omega
    · split
      · show (100 : Int) = _
        omega
      · omega

theorem toInt_clamp_absolute (v : Int8) :
    (clamp v false).toInt = if v.toInt < 0 then -1 else min v.toInt 100 := by
  rw [toInt_clamp]
  simp only [and_true]
  split
  · rw [if_pos (by omega)]
  · split
    · omega
    · omega

theorem toInt_clamp_delta (v : Int8) : (clamp v true).toInt = max (-100) (min v.toInt 100) := by
  rw [toInt_clamp]
  exact if_neg fun h => Bool.noConfusion h.2

theorem toInt_percentageToPosition (v : Int8) : (percentageToPosition v).toInt =
    if v.toInt = -1 then -1 else 10 + max 0 (min v.toInt 100) := by
  unfold percentageToPosition
  simp only [Int8.lt_iff_toInt_lt, ← Int8.toInt_inj, show (-1 : Int8).toInt = -1 from rfl,
    show (0 : Int8).toInt = 0 from rfl, show (100 : Int8).toInt = 100 from rfl]
  split
  · rfl
  · split
    · show (110 : Int) = _
      omega
    · split
      · show (10 : Int) = _
        omega
      · rw [Int8.toInt_add, show (10 : Int8).toInt = 10 from rfl,
          Int.bmod_eq_of_le (by omega) (by omega)]
        omega

theorem toInt_addDelta (current delta : Int8) : (addDelta current delta).toInt =
    max 0 (min (max 0 (min current.toInt 100) + delta.toInt) 100) := by
  have hcurrent :
      (if 100 < current then (100 : Int8) else if current < 0 then 0 else current).toInt =
        max 0 (min current.toInt 100) := by
    simp only [Int8.lt_iff_toInt_lt, show (0 : Int8).toInt = 0 from rfl,
      show (100 : Int8).toInt = 100 from rfl]
    split
    · show (100 : Int) = _
      omega
    · split
      · show (0 : Int) = _
        omega
      · omega
  unfold addDelta
  dsimp only
  rw [hcurrent]
  split
  · show (100 : Int) = _
    omega
  · split
    · show (0 : Int) = _
      omega
    · rw [Int8.toInt_ofInt_of_le (by omega) (by omega)]
      omega

/-! ## Reading an object -/

section
variable {D : Type} [Number D] (root : Node D)

theorem percentage_ofJson : (ofJson root).percentage =
    ((percentageItem root).map fun i => Int8.ofInt i.1).getD (-1) := by
  unfold ofJson
  cases percentageItem root with
  | none => cases tiltItem root <;> rfl
  | some i => cases tiltItem root <;> rfl

theorem tilt_ofJson : (ofJson root).tilt =
    ((tiltItem root).map fun i => Int8.ofInt i.1).getD (-1) := by
  unfold ofJson
  cases tiltItem root with
  | none => cases percentageItem root <;> rfl
  | some i => cases percentageItem root <;> rfl

/-- The two flags next to each other. -/
def bothFlags (percentage tilt : Bool) : UInt8 :=
  (if percentage then SSP_FLAG_PERCENTAGE_AS_DELTA else 0) |||
    if tilt then SSP_FLAG_TILT_AS_DELTA else 0

theorem flags_ofJson : (ofJson root).flags =
    bothFlags ((percentageItem root).any (·.2)) ((tiltItem root).any (·.2)) := by
  unfold ofJson
  obtain _ | ⟨p, _ | _⟩ := percentageItem root
  all_goals
    obtain _ | ⟨t, _ | _⟩ := tiltItem root
    all_goals simp [setPercentage, setTilt, bothFlags]

theorem percentageAsDelta_ofJson :
    (ofJson root).percentageAsDelta = (percentageItem root).any (·.2) := by
  have h : ∀ p t, decide (bothFlags p t &&& SSP_FLAG_PERCENTAGE_AS_DELTA ≠ 0) = p := by decide
  unfold percentageAsDelta
  rw [flags_ofJson]
  exact h _ _

theorem tiltAsDelta_ofJson : (ofJson root).tiltAsDelta = (tiltItem root).any (·.2) := by
  have h : ∀ p t, decide (bothFlags p t &&& SSP_FLAG_TILT_AS_DELTA ≠ 0) = t := by decide
  unfold tiltAsDelta
  rw [flags_ofJson]
  exact h _ _

end

/-! ## The value that is sent -/

/-- The position that shuts to a percentage, or by it. -/
def target (v : Int8) (asDelta : Bool) (current : Int8) : Int8 :=
  percentageToPosition (if asDelta then addDelta current (clamp v asDelta) else clamp v asDelta)

variable {p : ShadingParameters} {action : ShadingAction} {value : Raw} {func : Int}
  {channelFlags : BitVec 64}

theorem toInt_target_absolute (v current : Int8) : (target v false current).toInt =
    if v.toInt < 0 then -1 else 10 + min v.toInt 100 := by
  show (percentageToPosition (clamp v false)).toInt = _
  rw [toInt_percentageToPosition, toInt_clamp_absolute]
  split
  · rfl
  · rw [if_neg (by omega)]
    omega

theorem toInt_target_delta (v : Int8) {current : Int8} (h : current.toInt ≤ 100) :
    (target v true current).toInt =
      10 + max 0 (min (max current.toInt 0 + v.toInt) 100) := by
  show (percentageToPosition (addDelta current (clamp v true))).toInt = _
  rw [toInt_percentageToPosition, toInt_addDelta, toInt_clamp_delta, if_neg (by omega)]
  omega

/-- A byte that is commanded is -1 or a percentage and ten. -/
def Commanded (v : Int8) : Prop := v.toInt = -1 ∨ 10 ≤ v.toInt ∧ v.toInt ≤ 110

theorem commanded_percentageToPosition (v : Int8) : Commanded (percentageToPosition v) := by
  unfold Commanded
  rw [toInt_percentageToPosition]
  split
  · exact .inl rfl
  · exact .inr ⟨by omega, by omega⟩

theorem positions_shut_fst : (p.positions .shut value func channelFlags).1 =
    target p.percentage p.percentageAsDelta (Device.position value) := rfl

theorem positions_shut_snd (h : isFacadeBlind func = true) :
    (p.positions .shut value func channelFlags).2 =
      target p.tilt p.tiltAsDelta (Device.tilt value) := by
  unfold positions
  rw [h, Bool.true_and]
  rfl

/-- What `apply_on_value` asks of a position. -/
abbrev Sendable (v : Int8) : Prop := -1 ≤ v ∧ v ≤ 110

theorem Commanded.sendable {v : Int8} (h : Commanded v) : Sendable v := by
  rw [Sendable, Int8.le_iff_toInt_le, Int8.le_iff_toInt_le]
  show -1 ≤ v.toInt ∧ v.toInt ≤ 110
  obtain h | h := h
  · omega
  · omega

theorem sendable_stepAction {n : Int8} (h : Sendable n) : Sendable (stepAction channelFlags n) := by
  unfold stepAction
  split
  · exact h
  · decide

theorem sendable_positions (p : ShadingParameters) (action : ShadingAction) (value : Raw)
    (func : Int) (channelFlags : BitVec 64) :
    Sendable (p.positions action value func channelFlags).1 ∧
      Sendable (p.positions action value func channelFlags).2 := by
  have hconst : ∀ n ∈ ([-1, 0, 1, 2, 3, 4, 5, 10] : List Int8), Sendable n := by decide +kernel
  cases action with
  | shut =>
    exact ⟨(commanded_percentageToPosition _).sendable, (commanded_percentageToPosition _).sendable⟩
  | reveal => exact ⟨hconst 10 (by decide), hconst (-1) (by decide)⟩
  | stop => exact ⟨hconst 0 (by decide), hconst (-1) (by decide)⟩
  | upOrStop => exact ⟨sendable_stepAction (hconst 4 (by decide)), hconst (-1) (by decide)⟩
  | downOrStop => exact ⟨sendable_stepAction (hconst 3 (by decide)), hconst (-1) (by decide)⟩
  | stepByStep => exact ⟨sendable_stepAction (hconst 5 (by decide)), hconst (-1) (by decide)⟩
  | up => exact ⟨hconst 2 (by decide), hconst (-1) (by decide)⟩
  | down => exact ⟨hconst 1 (by decide), hconst (-1) (by decide)⟩

/-- The value that carries a position and, where the function has one, a tilt. -/
def sentValue (func : Int) (positions : Int8 × Int8) : Raw :=
  if isFacadeBlind func then facadeBlindValue positions.1 positions.2
  else rollerShutterValue positions.1

/-- A shading function takes every action, another function none. -/
theorem applyOnValue_eq : p.applyOnValue action value func channelFlags =
    if isShadingSystem func then some (sentValue func (p.positions action value func channelFlags))
    else none := by
  obtain ⟨hposition, htilt⟩ := sendable_positions p action value func channelFlags
  unfold applyOnValue sentValue
  split
  · dsimp only
    rw [if_pos hposition, if_pos htilt]
    split
    · rfl
    · rfl
  · rfl

theorem position_sentValue (positions : Int8 × Int8) :
    Device.position (sentValue func positions) = positions.1 := by
  unfold sentValue
  split
  · exact Int8.toInt8_toUInt8 positions.1
  · exact Int8.toInt8_toUInt8 positions.1

theorem tilt_sentValue (h : isFacadeBlind func = true) (positions : Int8 × Int8) :
    Device.tilt (sentValue func positions) = positions.2 := by
  unfold sentValue
  rw [if_pos h]
  exact Int8.toInt8_toUInt8 positions.2

/-! ## Shutting and revealing -/

theorem forAction_shut : forAction .shutPartially p = p := if_neg fun h => by cases h.1

theorem forAction_eq (action : PartialAction) (p : ShadingParameters) :
    forAction action p = { p with percentage := (forAction action p).percentage } := by
  unfold forAction
  split
  · rfl
  · rfl

/-- An absolute percentage is mirrored, "not set" is not. -/
theorem toInt_target_reveal (h : p.percentageAsDelta = false) (current : Int8) :
    (target (forAction .revealPartially p).percentage false current).toInt =
      if p.percentage.toInt < 0 then -1 else 10 + (100 - min p.percentage.toInt 100) := by
  have hpercentage : p.getPercentage.toInt =
      if p.percentage.toInt < 0 then -1 else min p.percentage.toInt 100 := by
    unfold getPercentage
    rw [h, toInt_clamp_absolute]
  have hmirror : (-1 < p.getPercentage ∧ p.getPercentage ≤ 100) ↔ ¬ p.percentage.toInt < 0 := by
    rw [Int8.lt_iff_toInt_lt, Int8.le_iff_toInt_le, hpercentage,
      show (-1 : Int8).toInt = -1 from rfl, show (100 : Int8).toInt = 100 from rfl]
    split
    · omega
    · omega
  rw [toInt_target_absolute]
  by_cases hneg : p.percentage.toInt < 0
  · have hkept : forAction .revealPartially p = p := if_neg fun h => hmirror.mp h.2 hneg
    rw [hkept]
    rw [if_pos hneg, if_pos hneg]
  · have hmirrored :
        forAction .revealPartially p = { p with percentage := 100 - p.getPercentage } :=
      if_pos ⟨rfl, hmirror.mpr hneg⟩
    have hto : (100 - p.getPercentage).toInt = 100 - min p.percentage.toInt 100 := by
      rw [Int8.toInt_sub, hpercentage, if_neg hneg, show (100 : Int8).toInt = 100 from rfl,
        Int.bmod_eq_of_le (by omega) (by omega)]
    rw [hmirrored]
    dsimp only
    rw [hto, if_neg hneg, if_neg (by omega)]
    omega

/-! ## Requests -/

/-- **What an object asks for** under the name of a parameter and the name of its delta. -/
inductive Request
  | absent
  | absolute (n : Int)
  | delta (n : Int)
  deriving Repr, DecidableEq

namespace Request

/-- The number fits a `char`. -/
def Fits : Request → Prop
  | .absent => True
  | .absolute n | .delta n => -128 ≤ n ∧ n ≤ 127

/-- What shutting commands where `current` is reported; -1 leaves it as it is. -/
def shut (current : Int) : Request → Int
  | .absent => -1
  | .absolute n => if n < 0 then -1 else 10 + min n 100
  | .delta n => 10 + max 0 (min (max current 0 + n) 100)

def toItem : Request → Option (Int × Bool)
  | .absent => none
  | .absolute n => some (n, false)
  | .delta n => some (n, true)

/-- The `char` that is kept of a request, and whether it is a delta. -/
def kept (r : Request) : Int8 := (r.toItem.map fun i => Int8.ofInt i.1).getD (-1)

def isDelta (r : Request) : Bool := r.toItem.any (·.2)

theorem toInt_kept_absolute {n : Int} (h : (absolute n).Fits) : (absolute n).kept.toInt = n :=
  Int8.toInt_ofInt_of_le h.1 (Int.lt_add_one_of_le h.2)

theorem toInt_kept_delta {n : Int} (h : (delta n).Fits) : (delta n).kept.toInt = n :=
  Int8.toInt_ofInt_of_le h.1 (Int.lt_add_one_of_le h.2)

theorem toInt_target {r : Request} (hfits : r.Fits) {current : Int8}
    (hcurrent : current.toInt ≤ 100) :
    (target r.kept r.isDelta current).toInt = r.shut current.toInt := by
  cases r with
  | absent => exact toInt_target_absolute (-1) current
  | absolute n =>
    refine (toInt_target_absolute _ current).trans ?_
    rw [toInt_kept_absolute hfits]
    rfl
  | delta n =>
    refine (toInt_target_delta _ hcurrent).trans ?_
    rw [toInt_kept_delta hfits]
    rfl

end Request

section
variable {D : Type} [Number D] {root : Node D} {name deltaName : String}

/-- The child under `name` is the number `n`. -/
def HasNumber (root : Node D) (name : String) (n : Int) : Prop :=
  (root.get name).map Node.kind = some (.number (Number.ofInt n))

theorem HasNumber.numberOf {n : Int} (h : HasNumber root name n) (hlo : -128 ≤ n) (hhi : n ≤ 127) :
    ∃ c, root.get name = some c ∧ numberOf c = some n := by
  obtain ⟨c, hc, hkind⟩ := Option.map_eq_some_iff.mp h
  refine ⟨c, hc, ?_⟩
  unfold ShadingParameters.numberOf
  rw [hkind]
  dsimp only
  rw [Number.valueint_ofInt, show max (-2147483648) (min n 2147483647) = n by omega]

/-- An object asks for a delta where the absolute number is missing. -/
def Request.Of (root : Node D) (name deltaName : String) : Request → Prop
  | .absent => root.get name = none ∧ root.get deltaName = none
  | .absolute n => HasNumber root name n
  | .delta n => root.get name = none ∧ HasNumber root deltaName n

theorem Request.Of.item {r : Request} (h : r.Of root name deltaName) (hfits : r.Fits) :
    item root name deltaName = r.toItem := by
  unfold ShadingParameters.item
  cases r with
  | absent =>
    rw [h.1, h.2]
    rfl
  | absolute n =>
    obtain ⟨c, hc, hn⟩ := HasNumber.numberOf h hfits.1 hfits.2
    rw [hc]
    dsimp only
    rw [hn]
    rfl
  | delta n =>
    obtain ⟨c, hc, hn⟩ := h.2.numberOf hfits.1 hfits.2
    rw [h.1, hc]
    dsimp only
    rw [Option.bind_some, hn]
    rfl

theorem command_eq (partialAction : PartialAction) (root : Node D)
    (hfunc : isShadingSystem func = true) : command partialAction root value func channelFlags =
      some (sentValue func
        ((forAction partialAction (ofJson root)).positions .shut value func channelFlags)) := by
  show (forAction partialAction (ofJson root)).applyOnValue .shut value func channelFlags = _
  rw [applyOnValue_eq, if_pos hfunc]

/-- The callers drop an object that sets nothing: it would leave everything as it is. -/
theorem command_of_not_configured (partialAction : PartialAction)
    (hfunc : isShadingSystem func = true) (h : configured root = none) :
    command partialAction root value func channelFlags = some (sentValue func (-1, -1)) := by
  have hnone : (ofJson root).isAnyParamSet = false := by
    unfold configured at h
    split at h
    · cases h
    · rename_i hset
      exact eq_false_of_ne_true hset
  have hdefault : ofJson root = {} := by
    generalize ofJson root = p at hnone ⊢
    obtain ⟨percentage, tilt, flags⟩ := p
    simp only [isAnyParamSet, Bool.or_eq_false_iff, decide_eq_false_iff_not, not_not] at hnone
    obtain ⟨⟨rfl, rfl⟩, rfl⟩ := hnone
    rfl
  rw [command_eq partialAction root hfunc, hdefault]
  have hkept : forAction partialAction {} = {} := if_neg fun h => absurd h.2.1 (by decide)
  rw [hkept]
  cases hfacade : isFacadeBlind func with
  | true =>
    rw [← Prod.eta (ShadingParameters.positions _ _ _ _ _), positions_shut_snd hfacade]
    rfl
  | false =>
    unfold sentValue
    rw [hfacade]
    rfl

/-! ## The commands -/

/-- What the two actions command with the parameters of `root` where `value` is reported. Nothing is
said of a number that is no `char`, nor of revealing by a delta. -/
structure Commands (root : Node D) (value : Raw) (func : Int) (shut reveal : Raw) : Prop where
  shut_position : ∀ r : Request, r.Of root "percentage" "percentageDelta" → r.Fits →
    (Device.position shut).toInt = r.shut (Device.position value).toInt
  shut_tilt : isFacadeBlind func = true → ∀ r : Request, r.Of root "tilt" "tiltDelta" → r.Fits →
    (Device.tilt shut).toInt = r.shut (Device.tilt value).toInt
  reveal_position : ∀ n, (Request.absolute n).Of root "percentage" "percentageDelta" →
    (Request.absolute n).Fits →
    (Device.position reveal).toInt = if n < 0 then -1 else 10 + (100 - min n 100)
  reveal_absent : Request.absent.Of root "percentage" "percentageDelta" →
    (Device.position reveal).toInt = -1
  reveal_tilt_absent : isFacadeBlind func = true → Request.absent.Of root "tilt" "tiltDelta" →
    (Device.tilt reveal).toInt = -1
  bytes : ∀ v ∈ [shut, reveal], Commanded (Device.position v) ∧
    (isFacadeBlind func = true → Commanded (Device.tilt v))

/-- The position and the tilt of a value that an action sends, from the parameters it is given. -/
theorem position_command (p : ShadingParameters) :
    Device.position (sentValue func (p.positions .shut value func channelFlags)) =
      target p.percentage p.percentageAsDelta (Device.position value) := by
  rw [position_sentValue, positions_shut_fst]

theorem tilt_command (p : ShadingParameters) (h : isFacadeBlind func = true) :
    Device.tilt (sentValue func (p.positions .shut value func channelFlags)) =
      target p.tilt p.tiltAsDelta (Device.tilt value) := by
  rw [tilt_sentValue h, positions_shut_snd h]

theorem commanded_sentValue (p : ShadingParameters) :
    Commanded (Device.position (sentValue func (p.positions .shut value func channelFlags))) ∧
      (isFacadeBlind func = true →
        Commanded (Device.tilt (sentValue func (p.positions .shut value func channelFlags)))) := by
  rw [position_command]
  refine ⟨commanded_percentageToPosition _, fun hfacade => ?_⟩
  rw [tilt_command p hfacade]
  exact commanded_percentageToPosition _

theorem ofJson_percentage {r : Request} (h : r.Of root "percentage" "percentageDelta")
    (hfits : r.Fits) :
    (ofJson root).percentage = r.kept ∧ (ofJson root).percentageAsDelta = r.isDelta := by
  rw [percentage_ofJson, percentageAsDelta_ofJson, percentageItem, h.item hfits]
  exact ⟨rfl, rfl⟩

theorem ofJson_tilt {r : Request} (h : r.Of root "tilt" "tiltDelta") (hfits : r.Fits) :
    (ofJson root).tilt = r.kept ∧ (ofJson root).tiltAsDelta = r.isDelta := by
  rw [tilt_ofJson, tiltAsDelta_ofJson, tiltItem, h.item hfits]
  exact ⟨rfl, rfl⟩

/-- An absolute or absent percentage, as revealing mirrors it. -/
theorem toInt_target_revealed {r : Request} (h : r.Of root "percentage" "percentageDelta")
    (hfits : r.Fits) (habsolute : r.isDelta = false) (current : Int8) :
    (target (forAction .revealPartially (ofJson root)).percentage
      (forAction .revealPartially (ofJson root)).percentageAsDelta current).toInt =
    if r.kept.toInt < 0 then -1 else 10 + (100 - min r.kept.toInt 100) := by
  obtain ⟨hpercentage, hdelta⟩ := ofJson_percentage h hfits
  rw [habsolute] at hdelta
  have hkept : (forAction .revealPartially (ofJson root)).percentageAsDelta = false := by
    rw [forAction_eq]
    exact hdelta
  rw [hkept, toInt_target_reveal hdelta, hpercentage]

/-- **Shading commands.** Both actions send a value on every shading function, whatever the object:
its bytes are -1 or ten and a percentage. Where the number fits a `char`, shutting commands the
percentage asked for or adds the delta to the reported one, and revealing commands the rest of the
percentage; a negative percentage counts as none. -/
theorem shading_commands (root : Node D) (hfunc : isShadingSystem func = true)
    (hposition : (Device.position value).toInt ≤ 100) (htilt : (Device.tilt value).toInt ≤ 100) :
    ∃ shut reveal, command .shutPartially root value func channelFlags = some shut ∧
      command .revealPartially root value func channelFlags = some reveal ∧
      Commands root value func shut reveal := by
  refine ⟨_, _, command_eq .shutPartially root hfunc, command_eq .revealPartially root hfunc, ?_⟩
  rw [forAction_shut]
  constructor
  case shut_position =>
    intro r hr hfits
    obtain ⟨hpercentage, hdelta⟩ := ofJson_percentage hr hfits
    rw [position_command, hpercentage, hdelta]
    exact Request.toInt_target hfits hposition
  case shut_tilt =>
    intro hfacade r hr hfits
    obtain ⟨hkept, hdelta⟩ := ofJson_tilt hr hfits
    rw [tilt_command _ hfacade, hkept, hdelta]
    exact Request.toInt_target hfits htilt
  case reveal_position =>
    intro n hr hfits
    rw [position_command, toInt_target_revealed hr hfits rfl, Request.toInt_kept_absolute hfits]
  case reveal_absent =>
    intro hr
    rw [position_command]
    exact toInt_target_revealed hr trivial rfl _
  case reveal_tilt_absent =>
    intro hfacade hr
    obtain ⟨hkept, hdelta⟩ := ofJson_tilt hr trivial
    rw [tilt_command _ hfacade, forAction_eq]
    show (target (ofJson root).tilt (ofJson root).tiltAsDelta _).toInt = _
    rw [hkept, hdelta]
    exact Request.toInt_target (r := .absent) trivial htilt
  case bytes =>
    intro v hv
    rw [List.mem_pair] at hv
    obtain rfl | rfl := hv
    · exact commanded_sentValue _
    · exact commanded_sentValue _

end

/-- An object of numbers. -/
def numbers (members : List (String × Int)) : Node Int :=
  .mk .object (members.map fun m => (some m.1, .leaf (.number m.2)))

/-- A facade blind at 15 percent that is tilted by 26. -/
theorem shading_commands_facade : ∃ shut reveal,
    command .shutPartially (numbers [("percentageDelta", 50), ("tilt", 101)])
      #v[15, 26, 0, 0, 0, 0, 0, 0] channelfncControllingTheFacadeBlind 0 = some shut ∧
    command .revealPartially (numbers [("percentageDelta", 50), ("tilt", 101)])
      #v[15, 26, 0, 0, 0, 0, 0, 0] channelfncControllingTheFacadeBlind 0 = some reveal ∧
    Commands (numbers [("percentageDelta", 50), ("tilt", 101)]) #v[15, 26, 0, 0, 0, 0, 0, 0]
      channelfncControllingTheFacadeBlind shut reveal :=
  shading_commands _ (by decide) (by decide) (by decide)

/-- A negative percentage is left out, not taken for 0. -/
theorem negative_percentage_left : ¬ ∀ (n : Int) (shut : Raw),
    command .shutPartially (numbers [("percentage", n)]) #v[50, 0, 0, 0, 0, 0, 0, 0]
      channelfncControllingTheRollerShutter 0 = some shut →
    (Device.position shut).toInt = 10 + min (max n 0) 100 := by
  intro h
  have hleft := h (-5) #v[255, 0, 0, 0, 0, 0, 0, 0] (by decide)
  exact absurd hleft (by decide)

end ShadingParameters

end Device

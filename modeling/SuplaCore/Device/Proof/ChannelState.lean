import SuplaCore.Device.ChannelState
import SuplaCore.Device.Proof.JsonField

/-!
# The way of a state through its text

The members of the object are under different names, so that each is found again (`get_getJson`),
and one reader after the other restores its own member of the structure (`applyJson_getJson`). What
does not come back: the cause of a lost connection, whose text is not recognised, and an operating
time below zero that is read once more as an unsigned number.
-/

namespace Device

open Json (Node sameName)
open JsonConfig (Doubles Item getString getDouble getBool setItemValue)

/-! ## Flags -/

/-- The position of a flag. -/
def StateField.bit : StateField → Nat
  | .ipv4 => 0
  | .mac => 1
  | .batteryLevel => 2
  | .batteryPowered => 3
  | .wifiRssi => 4
  | .wifiSignalStrength => 5
  | .bridgeNodeSignalStrength => 6
  | .uptime => 7
  | .connectionUptime => 8
  | .batteryHealth => 9
  | .bridgeNodeOnline => 10
  | .lastConnectionResetCause => 11
  | .lightSourceLifespan => 12
  | .lightSourceOperatingTime => 13
  | .operatingTime => 14
  | .switchCycleCount => 15
  | .deviceBatteryLevel => 16

theorem StateField.mask_eq (f : StateField) : f.mask = BitVec.twoPow 32 f.bit := by
  cases f <;> rfl

namespace ChannelState

variable {N : Doubles}

/-- A flag of the fields, or nothing. -/
theorem and_mask (s : ChannelState) (f : StateField) :
    s.fields &&& f.mask = if s.has f then f.mask else 0 := by
  have hmask : f.mask ≠ 0 := by
    cases f <;> decide
  rw [has, f.mask_eq, BitVec.and_twoPow] at *
  split
  · rw [if_pos (decide_eq_true hmask)]
  · exact (if_neg (by decide)).symm

/-! ## Texts -/

theorem stringToIpv4_ipv4ToString (ipv4 : BitVec 32) :
    stringToIpv4 (ipv4ToString ipv4) = some ipv4 := by
  have hbyte : ∀ n : Nat, n % 256 < 256 := fun n => Nat.mod_lt n (by decide)
  have hlt := ipv4.isLt
  rw [stringToIpv4, ipv4ToString, String.toList_ofList,
    AddrText.inetPton_inetNtop (hbyte _) (hbyte _) (hbyte _) (hbyte _)]
  simp only [Option.some.injEq]
  apply BitVec.eq_of_toNat_eq
  rw [BitVec.toNat_ofNat]
  omega

theorem stringToMac_macToString (mac : Vector (BitVec 8) 6) :
    stringToMac (macToString mac) = some mac := by
  have hbytes : ∀ b ∈ mac.toList.map BitVec.toNat, b < 256 := by
    intro b hb
    obtain ⟨x, _, rfl⟩ := List.mem_map.mp hb
    exact x.isLt
  have hlength : (mac.toList.map BitVec.toNat).length = 6 := by simp
  have hscan := AddrText.scanHexs_hexBytes hbytes
  rw [hlength] at hscan
  have hsize : (macToString mac).utf8ByteSize = 17 := by
    unfold macToString
    cases hmac : mac.toList.map BitVec.toNat with
    | nil => simp [hmac] at hlength
    | cons b bs =>
      rw [hmac] at hbytes hlength
      rw [AddrText.utf8ByteSize_hexBytes hbytes]
      simp only [List.length_cons] at hlength
      omega
  rw [stringToMac, if_pos hsize, macToString, String.toList_ofList, hscan]
  simp only [Option.map_some, Option.some.injEq]
  ext i hi
  simp

theorem stringToResetCause_resetCauseToString {cause : BitVec 8}
    (hcause : ¬ cause > SUPLA_LASTCONNECTIONRESETCAUSE_SERVER_CONNECTION_LOST) :
    stringToResetCause (resetCauseToString cause) =
      if cause = SUPLA_LASTCONNECTIONRESETCAUSE_WIFI_CONNECTION_LOST then 0 else cause := by
  revert cause
  decide +kernel

/-! ## Numbers -/

section
variable {w : Nat} (hw : w / 8 ≤ 4) (hpow : 256 ^ (w / 8) = 2 ^ w) (x : BitVec w)
include hw hpow

theorem toBits_toNat : toBits (N := N) w false (N.ofInt x.toNat) = x := by
  have hcast : (256 : Int) ^ (w / 8) = ((2 ^ w : Nat) : Int) := by exact_mod_cast hpow
  have hlt := x.isLt
  have hrange : JsonConfig.inRange (w / 8) false x.toNat := by
    show (0 : Int) ≤ x.toNat ∧ (x.toNat : Int) < 256 ^ (w / 8)
    rw [hcast]
    omega
  apply BitVec.eq_of_toNat_eq
  rw [toBits, N.convert_ofInt hw hrange, hcast, BitVec.toNat_ofNat, ← Int.natCast_emod,
    Int.toNat_natCast, Nat.mod_mod, Nat.mod_eq_of_lt hlt]

theorem toBits_toInt (hpos : 0 < w) : toBits (N := N) w true (N.ofInt x.toInt) = x := by
  have hcast : (256 : Int) ^ (w / 8) = ((2 ^ w : Nat) : Int) := by exact_mod_cast hpow
  obtain ⟨half, hhalf⟩ : ∃ half, 2 ^ w = 2 * half := by
    obtain ⟨v, rfl⟩ : ∃ v, w = v + 1 := ⟨w - 1, by omega⟩
    exact ⟨2 ^ v, Nat.pow_succ'⟩
  have hlt := x.isLt
  have hint : x.toInt = if x.toNat < half then (x.toNat : Int) else x.toNat - (2 ^ w : Nat) := by
    rw [BitVec.toInt_eq_toNat_cond]
    congr 1
    rw [hhalf]
    simp
  have hrange : JsonConfig.inRange (w / 8) true x.toInt := by
    show -(256 ^ (w / 8) / 2 : Int) ≤ x.toInt ∧ x.toInt < 256 ^ (w / 8) / 2
    rw [hcast, hint]
    split <;> omega
  have hmod : x.toInt % ((2 ^ w : Nat) : Int) = x.toNat := by
    rw [hint]
    split
    · exact Int.emod_eq_of_lt (Int.natCast_nonneg _) (by omega)
    · rw [Int.sub_emod_right]
      exact Int.emod_eq_of_lt (Int.natCast_nonneg _) (by omega)
  apply BitVec.eq_of_toNat_eq
  rw [toBits, N.convert_ofInt hw hrange, hcast, hmod, BitVec.toNat_ofNat, Int.toNat_natCast,
    Nat.mod_eq_of_lt hlt]

end

/-! ## Members -/

theorem get_write_other {root : Node N.D} {name : String} {m : String × Option (Item N.D)}
    (hne : sameName name m.1 = false) : (write root m).get name = root.get name := by
  unfold write
  split
  · exact JsonConfig.get_setItemValue_other _ _ hne
  · rfl

theorem get_write_self {root : Node N.D} {m : String × Option (Item N.D)} (hname : m.1 ≠ "")
    (hroot : root.get m.1 = none) : (write root m).get m.1 = m.2.map Item.node := by
  unfold write
  split
  · rename_i item hitem
    rw [JsonConfig.get_setItemValue_new item hname hroot, hitem]
    rfl
  · rename_i hitem
    rw [hroot, hitem]
    rfl

theorem get_foldl_write_other {name : String} {l : List (String × Option (Item N.D))}
    (hne : ∀ m ∈ l, sameName name m.1 = false) :
    ∀ {root : Node N.D}, (l.foldl write root).get name = root.get name := by
  induction l with
  | nil => exact rfl
  | cons m rest ih =>
    intro root
    rw [List.foldl_cons, ih fun m hm => hne m (List.mem_cons_of_mem _ hm),
      get_write_other (hne m List.mem_cons_self)]

/-- Members under different names are all found. -/
theorem get_foldl_write {l : List (String × Option (Item N.D))}
    (hnames : l.Pairwise fun a b => sameName a.1 b.1 = false) (hname : ∀ m ∈ l, m.1 ≠ "")
    {m : String × Option (Item N.D)} (hm : m ∈ l) :
    ∀ {root : Node N.D}, (∀ m ∈ l, root.get m.1 = none) →
      (l.foldl write root).get m.1 = m.2.map Item.node := by
  induction l with
  | nil => cases hm
  | cons head rest ih =>
    intro root hroot
    rw [List.pairwise_cons] at hnames
    rw [List.foldl_cons]
    rw [List.mem_cons] at hm
    obtain rfl | hm := hm
    · rw [get_foldl_write_other hnames.1]
      exact get_write_self (hname m List.mem_cons_self) (hroot m List.mem_cons_self)
    · apply ih hnames.2 (fun m hm => hname m (List.mem_cons_of_mem _ hm)) hm
      intro m' hm'
      rw [get_write_other]
      · exact hroot m' (List.mem_cons_of_mem _ hm')
      · rw [Json.sameName_comm]
        exact hnames.1 m' hm'

/-- The names of the members. -/
def names : List String :=
  ["switchCycleCount", "defaultIconField", "ipv4", "mac", "batteryLevel", "batteryPowered",
    "wifiRSSI", "wifiSignalStrength", "bridgeNodeOnline", "bridgeNodeSignalStrength", "uptime",
    "connectionUptime", "batteryHealth", "lastConnectionResetCause", "lightSourceLifespan",
    "lightSourceLifespanLeft", "lightSourceOperatingTime", "operatingTime", "deviceBatteryLevel"]

theorem names_members (s : ChannelState) : (members (N := N) s).map Prod.fst = names := rfl

theorem names_distinct : names.Pairwise fun a b => sameName a b = false := by decide +kernel

theorem get_getJson {s : ChannelState} {name : String} {item : Option (Item N.D)}
    (hm : (name, item) ∈ members s) : (getJson s).get name = item.map Item.node := by
  have hnames : (members (N := N) s).Pairwise fun a b => sameName a.1 b.1 = false := by
    have hdistinct := names_distinct
    rw [← names_members (N := N) s, List.pairwise_map] at hdistinct
    exact hdistinct
  have hname : ∀ m ∈ members (N := N) s, m.1 ≠ "" := by
    intro m hm
    have hin : m.1 ∈ names := names_members (N := N) s ▸ List.mem_map_of_mem hm
    revert hin
    generalize m.1 = name
    revert name
    decide
  exact get_foldl_write hnames hname hm fun _ _ => rfl

section
variable {s : ChannelState} {name : String} {c : Bool}

theorem getDouble_getJson {n : Int} (hm : (name, given c (whole n)) ∈ members (N := N) s) :
    getDouble (some (getJson s)) name = given c (N.ofInt n) := by
  rw [getDouble, Option.bind_some, get_getJson hm]
  cases c <;> rfl

theorem getBool_getJson {b : BitVec 8} (hm : (name, given c (truth b)) ∈ members (N := N) s) :
    getBool (some (getJson (N := N) s)) name = given c (decide (b ≠ 0)) := by
  rw [getBool, Option.bind_some, get_getJson hm]
  cases c with
  | false => rfl
  | true =>
    show JsonConfig.boolOf (some (truth b).node) = some (decide (b ≠ 0))
    by_cases hb : b ≠ 0
    · rw [truth, if_pos hb, decide_eq_true hb]
      rfl
    · rw [truth, if_neg hb, decide_eq_false hb]
      rfl

theorem getString_getJson {text : String}
    (hm : (name, given c (.string text)) ∈ members (N := N) s) :
    getString (some (getJson (N := N) s)) name = given c text := by
  rw [getString, Option.bind_some, get_getJson hm]
  cases c <;> rfl

end

/-! ## States -/

/-- A state in which a member is zero unless its flag is set, with at most one operating time. -/
structure Clean (s : ChannelState) : Prop where
  known : s.fields &&& 0x1ffff = s.fields
  ipv4 : s.has .ipv4 = false → s.ipv4 = 0
  mac : s.has .mac = false → s.mac = .replicate 6 0
  batteryLevel : s.has .batteryLevel = false → s.batteryLevel = 0
  batteryPowered : s.has .batteryPowered = false → s.batteryPowered = 0
  wifiRssi : s.has .wifiRssi = false → s.wifiRssi = 0
  wifiSignalStrength : s.has .wifiSignalStrength = false → s.wifiSignalStrength = 0
  bridgeNodeOnline : s.has .bridgeNodeOnline = false → s.bridgeNodeOnline = 0
  bridgeNodeSignalStrength :
    s.has .bridgeNodeSignalStrength = false → s.bridgeNodeSignalStrength = 0
  uptime : s.has .uptime = false → s.uptime = 0
  connectionUptime : s.has .connectionUptime = false → s.connectionUptime = 0
  batteryHealth : s.has .batteryHealth = false → s.batteryHealth = 0
  lastConnectionResetCause :
    s.has .lastConnectionResetCause = false → s.lastConnectionResetCause = 0
  lightSourceLifespan : s.has .lightSourceLifespan = false → s.lightSourceLifespan = 0
  eol : s.eol = 0
  bools : s.batteryPowered ≤ 1 ∧ s.bridgeNodeOnline ≤ 1
  oneTime : s.has .lightSourceOperatingTime = false ∨ s.has .operatingTime = false
  /-- Without an operating time its place is that of the lifespan left, if anyone's. -/
  noTime : s.has .lightSourceOperatingTime = false → s.has .operatingTime = false →
    if s.has .lightSourceLifespan then s.operatingTime.toNat < 2 ^ 16 else s.operatingTime = 0

/-- The operating time or lifespan left that is in use, zero for none. -/
def timeInUse (s : ChannelState) : Int :=
  if s.has .lightSourceOperatingTime then s.operatingTime.toInt
  else if s.has .operatingTime then s.operatingTime.toNat
  else if s.has .lightSourceLifespan then s.lightSourceLifespanLeft.toInt
  else 0

/-- What comes back of a state. -/
def restored (N : Doubles) (s : ChannelState) : ChannelState :=
  { s with
    lastConnectionResetCause :=
      if s.lastConnectionResetCause = SUPLA_LASTCONNECTIONRESETCAUSE_WIFI_CONNECTION_LOST then 0
      else s.lastConnectionResetCause
    operatingTime :=
      if s.has .deviceBatteryLevel then toBits (N := N) 32 false (N.ofInt s.timeInUse)
      else s.operatingTime }

/-! ## Reading back -/

/-- A reader restores its member, which is the same in both states if the flag is not set. -/
theorem read_given {α : Type} {s t : ChannelState} {f : StateField}
    {set : α → ChannelState → ChannelState} {a : α} (get : ChannelState → α)
    (hget : ∀ t, set (get t) t = t) (hsame : s.has f = false → a = get t) :
    read f set (given (s.has f) a) t =
      set a { t with fields := t.fields ||| (s.fields &&& f.mask) } := by
  rw [and_mask]
  cases h : s.has f with
  | true => rfl
  | false =>
    have hfields : { t with fields := t.fields ||| 0 } = t := by simp
    show t = set a { t with fields := t.fields ||| 0 }
    rw [hfields, hsame h, hget]

section
variable {s : ChannelState} {name : String} {c : Bool}

theorem number_getJson {w : Nat} (hw : w / 8 ≤ 4) (hpow : 256 ^ (w / 8) = 2 ^ w) {x : BitVec w}
    (hm : (name, given c (whole x.toNat)) ∈ members (N := N) s) :
    number w false (some (getJson (N := N) s)) name = given c x := by
  rw [number, getDouble_getJson hm]
  cases c with
  | false => rfl
  | true => exact congrArg some (toBits_toNat hw hpow x)

theorem number_getJson_signed {w : Nat} (hw : w / 8 ≤ 4) (hpow : 256 ^ (w / 8) = 2 ^ w)
    (hpos : 0 < w) {x : BitVec w} (hm : (name, given c (whole x.toInt)) ∈ members (N := N) s) :
    number w true (some (getJson (N := N) s)) name = given c x := by
  rw [number, getDouble_getJson hm]
  cases c with
  | false => rfl
  | true => exact congrArg some (toBits_toInt hw hpow x hpos)

theorem boolean_getJson {b : BitVec 8} (hb : b ≤ 1)
    (hm : (name, given c (truth b)) ∈ members (N := N) s) :
    boolean (some (getJson (N := N) s)) name = given c b := by
  rw [boolean, getBool_getJson hm]
  cases c with
  | false => rfl
  | true =>
    clear hm
    revert b
    decide +kernel

end

theorem readDefaultIconField_getJson (s : ChannelState) :
    readDefaultIconField (some (getJson (N := N) s)) zero =
      { zero with
        fields := s.fields &&& StateField.mask .switchCycleCount
        defaultIconField := s.defaultIconField } := by
  have hcycles := number_getJson (N := N) (s := s) (by decide) (by decide)
    (List.mem_of_getElem? (i := 0) rfl)
  have hicon := number_getJson_signed (N := N) (s := s) (by decide) (by decide) (by decide)
    (List.mem_of_getElem? (i := 1) rfl)
  rw [readDefaultIconField, hcycles, hicon, and_mask]
  cases s.has .switchCycleCount <;> rfl

theorem resetCause_getJson (s : ChannelState) :
    resetCause (some (getJson (N := N) s)) =
      given (s.has .lastConnectionResetCause) (restored N s).lastConnectionResetCause := by
  have hm : ("lastConnectionResetCause", _) ∈ members (N := N) s :=
    List.mem_of_getElem? (i := 13) rfl
  by_cases hcause :
      s.lastConnectionResetCause > SUPLA_LASTCONNECTIONRESETCAUSE_SERVER_CONNECTION_LOST
  · rw [if_pos hcause] at hm
    have hother : s.lastConnectionResetCause ≠
        SUPLA_LASTCONNECTIONRESETCAUSE_WIFI_CONNECTION_LOST := by
      intro heq
      rw [heq] at hcause
      exact absurd hcause (by decide)
    have hnumber := number_getJson (by decide) (by decide) hm
    have htext : getString (some (getJson (N := N) s)) "lastConnectionResetCause" = none := by
      rw [getString, Option.bind_some, get_getJson hm]
      cases s.has .lastConnectionResetCause <;> rfl
    rw [resetCause, hnumber, htext, restored, if_neg hother]
    cases s.has .lastConnectionResetCause <;> rfl
  · rw [if_neg hcause] at hm
    have htext := getString_getJson hm
    have hnumber : number 8 false (some (getJson (N := N) s)) "lastConnectionResetCause" =
        none := by
      rw [number, getDouble, Option.bind_some, get_getJson hm]
      cases s.has .lastConnectionResetCause <;> rfl
    rw [resetCause, hnumber, htext]
    cases s.has .lastConnectionResetCause with
    | false => rfl
    | true => exact congrArg some (stringToResetCause_resetCauseToString hcause)

/-- A lifespan left is alone in its place. -/
theorem lifespanLeft_append {time : BitVec 32} (htime : time.toNat < 2 ^ 16) :
    (0 : BitVec 16) ++ time.setWidth 16 = time := by
  apply BitVec.eq_of_toNat_eq
  rw [BitVec.toNat_append, BitVec.toNat_setWidth, Nat.mod_eq_of_lt htime]
  simp

theorem readOperatingTime_getJson {s t : ChannelState} (hs : s.Clean)
    (hlifespan : t.fields ||| (s.fields &&& StateField.mask .lightSourceLifespan) = t.fields)
    (ht : t.operatingTime = 0) :
    readOperatingTime (some (getJson (N := N) s)) t =
      ({ t with
        fields := t.fields ||| (s.fields &&& StateField.mask .lightSourceOperatingTime) |||
          (s.fields &&& StateField.mask .operatingTime)
        operatingTime := s.operatingTime }, N.ofInt s.timeInUse) := by
  have hleft := getDouble_getJson (N := N) (s := s) (List.mem_of_getElem? (i := 15) rfl)
  have hlight := getDouble_getJson (N := N) (s := s) (List.mem_of_getElem? (i := 16) rfl)
  have htime := getDouble_getJson (N := N) (s := s) (List.mem_of_getElem? (i := 17) rfl)
  have hnoTime := hs.noTime
  have honeTime := hs.oneTime
  rw [readOperatingTime, hleft, hlight, htime, timeInUse]
  simp only [and_mask] at hlifespan ⊢
  cases hl : s.has .lightSourceOperatingTime with
  | true =>
    have ho : s.has .operatingTime = false := honeTime.resolve_left (by rw [hl]; decide)
    have hback := toBits_toInt (N := N) (by decide) (by decide) s.operatingTime (by decide)
    simp [ho, given, hback]
  | false =>
    cases ho : s.has .operatingTime with
    | true =>
      have hback := toBits_toNat (N := N) (by decide) (by decide) s.operatingTime
      simp [given, hback]
    | false =>
      have hplace := hnoTime hl ho
      cases hf : s.has .lightSourceLifespan with
      | true =>
        have hback := toBits_toInt (N := N) (by decide) (by decide) s.lightSourceLifespanLeft
          (by decide)
        rw [hf, if_pos rfl] at hplace hlifespan
        simp [given, hback, hlifespan, ht]
        exact lifespanLeft_append hplace
      | false =>
        rw [hf] at hplace
        have hnone : s.operatingTime = 0 := hplace
        have hsame : { t with fields := t.fields ||| 0 ||| 0, operatingTime := 0 } = t := by
          rw [show t.fields ||| 0 ||| 0 = t.fields by simp, ← ht]
        simp only [given, hnone, Bool.false_and, Bool.and_false, Bool.false_eq_true, if_false]
        exact congrArg (·, N.ofInt 0) hsame.symm

theorem readDeviceBatteryLevel_getJson (s t : ChannelState) (d : N.D) :
    read .deviceBatteryLevel (fun _ s => { s with operatingTime := toBits 32 false d })
        (getBool (some (getJson (N := N) s)) "deviceBatteryLevel") t =
      { t with
        fields := t.fields ||| (s.fields &&& StateField.mask .deviceBatteryLevel)
        operatingTime :=
          if s.has .deviceBatteryLevel then toBits 32 false d else t.operatingTime } := by
  have hbattery : getBool (some (getJson (N := N) s)) "deviceBatteryLevel" =
      given (s.has .deviceBatteryLevel) true := by
    rw [getBool, Option.bind_some, get_getJson (List.mem_of_getElem? (i := 18) rfl)]
    cases s.has .deviceBatteryLevel <;> rfl
  rw [hbattery, and_mask]
  cases s.has .deviceBatteryLevel with
  | true => rfl
  | false =>
    have hsame : { t with fields := t.fields ||| 0 } = t := by simp
    exact hsame.symm

/-- All flags together. -/
theorem fields_eq {s : ChannelState} (hs : s.Clean) :
    (s.fields &&& StateField.mask .switchCycleCount) |||
      (s.fields &&& StateField.mask .ipv4) ||| (s.fields &&& StateField.mask .mac) |||
      (s.fields &&& StateField.mask .batteryLevel) |||
      (s.fields &&& StateField.mask .batteryPowered) |||
      (s.fields &&& StateField.mask .wifiRssi) |||
      (s.fields &&& StateField.mask .wifiSignalStrength) |||
      (s.fields &&& StateField.mask .bridgeNodeOnline) |||
      (s.fields &&& StateField.mask .bridgeNodeSignalStrength) |||
      (s.fields &&& StateField.mask .uptime) |||
      (s.fields &&& StateField.mask .connectionUptime) |||
      (s.fields &&& StateField.mask .batteryHealth) |||
      (s.fields &&& StateField.mask .lastConnectionResetCause) |||
      (s.fields &&& StateField.mask .lightSourceLifespan) |||
      (s.fields &&& StateField.mask .lightSourceOperatingTime) |||
      (s.fields &&& StateField.mask .operatingTime) |||
      (s.fields &&& StateField.mask .deviceBatteryLevel) = s.fields := by
  have hall : (0x1ffff : BitVec 32) =
      StateField.mask .switchCycleCount ||| StateField.mask .ipv4 ||| StateField.mask .mac |||
        StateField.mask .batteryLevel ||| StateField.mask .batteryPowered |||
        StateField.mask .wifiRssi ||| StateField.mask .wifiSignalStrength |||
        StateField.mask .bridgeNodeOnline ||| StateField.mask .bridgeNodeSignalStrength |||
        StateField.mask .uptime ||| StateField.mask .connectionUptime |||
        StateField.mask .batteryHealth ||| StateField.mask .lastConnectionResetCause |||
        StateField.mask .lightSourceLifespan ||| StateField.mask .lightSourceOperatingTime |||
        StateField.mask .operatingTime ||| StateField.mask .deviceBatteryLevel := by decide
  have hknown := hs.known
  rw [hall] at hknown
  simp only [BitVec.and_or_distrib_left] at hknown
  exact hknown

/-- **What comes back** of a state that was written as JSON and read. -/
theorem applyJson_getJson {s : ChannelState} (hs : s.Clean) :
    applyJson (getJson (N := N) s) = restored N s := by
  have hipv4 : (getString (some (getJson (N := N) s)) "ipv4").bind stringToIpv4 =
      given (s.has .ipv4) s.ipv4 := by
    rw [getString_getJson (List.mem_of_getElem? (i := 2) rfl)]
    cases s.has .ipv4 with
    | false => rfl
    | true => exact stringToIpv4_ipv4ToString s.ipv4
  have hmac : (getString (some (getJson (N := N) s)) "mac").bind stringToMac =
      given (s.has .mac) s.mac := by
    rw [getString_getJson (List.mem_of_getElem? (i := 3) rfl)]
    cases s.has .mac with
    | false => rfl
    | true => exact stringToMac_macToString s.mac
  have hlevel := number_getJson (N := N) (s := s) (by decide) (by decide)
    (List.mem_of_getElem? (i := 4) rfl)
  have hpowered := boolean_getJson (N := N) hs.bools.1 (List.mem_of_getElem? (i := 5) rfl)
  have hrssi := number_getJson_signed (N := N) (s := s) (by decide) (by decide) (by decide)
    (List.mem_of_getElem? (i := 6) rfl)
  have hwifi := number_getJson (N := N) (s := s) (by decide) (by decide)
    (List.mem_of_getElem? (i := 7) rfl)
  have honline := boolean_getJson (N := N) hs.bools.2 (List.mem_of_getElem? (i := 8) rfl)
  have hbridge := number_getJson (N := N) (s := s) (by decide) (by decide)
    (List.mem_of_getElem? (i := 9) rfl)
  have huptime := number_getJson (N := N) (s := s) (by decide) (by decide)
    (List.mem_of_getElem? (i := 10) rfl)
  have hconnection := number_getJson (N := N) (s := s) (by decide) (by decide)
    (List.mem_of_getElem? (i := 11) rfl)
  have hhealth := number_getJson (N := N) (s := s) (by decide) (by decide)
    (List.mem_of_getElem? (i := 12) rfl)
  have hlifespan := number_getJson (N := N) (s := s) (by decide) (by decide)
    (List.mem_of_getElem? (i := 14) rfl)
  simp only [applyJson, readDefaultIconField_getJson, hipv4, hmac, hlevel, hpowered, hrssi, hwifi,
    honline, hbridge, huptime, hconnection, hhealth, resetCause_getJson, hlifespan]
  rw [read_given (f := .ipv4) ChannelState.ipv4]
  dsimp only [zero]
  rw [read_given (f := .mac) ChannelState.mac]
  dsimp only [zero]
  rw [read_given (f := .batteryLevel) ChannelState.batteryLevel]
  dsimp only [zero]
  rw [read_given (f := .batteryPowered) ChannelState.batteryPowered]
  dsimp only [zero]
  rw [read_given (f := .wifiRssi) ChannelState.wifiRssi]
  dsimp only [zero]
  rw [read_given (f := .wifiSignalStrength) ChannelState.wifiSignalStrength]
  dsimp only [zero]
  rw [read_given (f := .bridgeNodeOnline) ChannelState.bridgeNodeOnline]
  dsimp only [zero]
  rw [read_given (f := .bridgeNodeSignalStrength) ChannelState.bridgeNodeSignalStrength]
  dsimp only [zero]
  rw [read_given (f := .uptime) ChannelState.uptime]
  dsimp only [zero]
  rw [read_given (f := .connectionUptime) ChannelState.connectionUptime]
  dsimp only [zero]
  rw [read_given (f := .batteryHealth) ChannelState.batteryHealth]
  dsimp only [zero]
  rw [read_given (f := .lastConnectionResetCause) ChannelState.lastConnectionResetCause]
  dsimp only [zero]
  rw [read_given (f := .lightSourceLifespan) ChannelState.lightSourceLifespan]
  dsimp only [zero]
  rw [readOperatingTime_getJson hs, readDeviceBatteryLevel_getJson]
  · simp only [fields_eq hs, restored, hs.eol]
  · simp only [BitVec.or_assoc, BitVec.or_self]
  · rfl
  · exact fun _ => rfl
  · exact hs.lightSourceLifespan
  · exact fun _ => rfl
  · intro h
    simp [restored, hs.lastConnectionResetCause h]
  · exact fun _ => rfl
  · exact hs.batteryHealth
  · exact fun _ => rfl
  · exact hs.connectionUptime
  · exact fun _ => rfl
  · exact hs.uptime
  · exact fun _ => rfl
  · exact hs.bridgeNodeSignalStrength
  · exact fun _ => rfl
  · exact hs.bridgeNodeOnline
  · exact fun _ => rfl
  · exact hs.wifiSignalStrength
  · exact fun _ => rfl
  · exact hs.wifiRssi
  · exact fun _ => rfl
  · exact hs.batteryPowered
  · exact fun _ => rfl
  · exact hs.batteryLevel
  · exact fun _ => rfl
  · exact hs.mac
  · exact fun _ => rfl
  · exact hs.ipv4

/-! ## The round trip -/

/-- The state is the same afterwards, whatever a conversion makes of a number that does not fit. -/
def RoundTrips (s : ChannelState) : Prop :=
  ∀ N : Doubles, s.equalFields (applyJson (getJson (N := N) s)) = true

theorem eq_restored_iff (N : Doubles) (s : ChannelState) :
    s = restored N s ↔
      s.lastConnectionResetCause ≠ SUPLA_LASTCONNECTIONRESETCAUSE_WIFI_CONNECTION_LOST ∧
        (s.has .deviceBatteryLevel = true →
          toBits (N := N) 32 false (N.ofInt s.timeInUse) = s.operatingTime) := by
  constructor
  · intro h
    have hcause := congrArg lastConnectionResetCause h
    have htime := congrArg operatingTime h
    simp only [restored] at hcause htime
    refine ⟨?_, ?_⟩
    · intro hlost
      rw [if_pos hlost, hlost] at hcause
      exact absurd hcause (by decide)
    · intro hbattery
      rw [if_pos hbattery] at htime
      exact htime.symm
  · rintro ⟨hcause, htime⟩
    rw [restored, if_neg hcause]
    split
    · rename_i hbattery
      rw [htime hbattery]
    · rfl

/-- The time in use is read back as an unsigned number unless it is negative. -/
theorem timeInUse_eq {s : ChannelState} (hs : s.Clean) (h : 0 ≤ s.timeInUse) :
    s.timeInUse = s.operatingTime.toNat := by
  have hsigned : ∀ {w : Nat} (x : BitVec w), 0 ≤ x.toInt → x.toInt = x.toNat := by
    intro w x hx
    rw [BitVec.toInt_eq_toNat_cond] at hx ⊢
    split
    · rfl
    · rename_i hge
      rw [if_neg hge] at hx
      have hlt := x.isLt
      omega
  have hplace := hs.noTime
  unfold timeInUse at h ⊢
  split
  · rename_i hlight
    rw [if_pos hlight] at h
    exact hsigned _ h
  · rename_i hlight
    rw [if_neg hlight] at h
    split
    · rfl
    · rename_i htime
      rw [if_neg htime] at h
      have hsmall := hplace (Bool.eq_false_iff.mpr hlight) (Bool.eq_false_iff.mpr htime)
      split
      · rename_i hlife
        rw [if_pos hlife] at h hsmall
        rw [hsigned _ h, lightSourceLifespanLeft, BitVec.toNat_setWidth, Nat.mod_eq_of_lt hsmall]
      · rename_i hlife
        rw [if_neg hlife] at hsmall
        rw [hsmall]
        rfl

/-- Whole numbers, of which a negative one becomes `stray` as an unsigned number of four bytes. -/
def strayNumbers (stray : Nat) : Doubles where
  D := Int
  ofInt n := n
  convert w signed n := if w = 4 ∧ signed = false ∧ n < 0 then stray else (n % 256 ^ w).toNat
  percent n := decide (0 ≤ n ∧ n ≤ 100)
  convert_ofInt := by
    intro w signed n _ hrange
    apply if_neg
    rintro ⟨rfl, rfl, hneg⟩
    exact absurd hrange.1 (Int.not_le.mpr hneg)
  percent_ofInt := by
    intro n hn
    rw [decide_eq_true_iff]
    omega
  convert_percent := by
    intro n hn
    rw [decide_eq_true_iff] at hn
    rw [if_neg (by simp)]
    omega

/-- **The round trip** of a state succeeds exactly unless the connection was lost by the last reset,
or a negative time comes with the level of the battery of the device. -/
theorem restores_iff {s : ChannelState} (hs : s.Clean) :
    s.RoundTrips ↔
      s.lastConnectionResetCause ≠ SUPLA_LASTCONNECTIONRESETCAUSE_WIFI_CONNECTION_LOST ∧
        (s.has .deviceBatteryLevel = true → 0 ≤ s.timeInUse) := by
  have htrip : ∀ N : Doubles, s.equalFields (applyJson (getJson (N := N) s)) = true ↔
      s = restored N s := by
    intro N
    rw [equalFields, decide_eq_true_iff, applyJson_getJson hs]
  simp only [RoundTrips, htrip, eq_restored_iff]
  constructor
  · intro h
    refine ⟨(h (strayNumbers 0)).1, ?_⟩
    intro hbattery
    by_contra hneg
    have hback := (h (strayNumbers (s.operatingTime + 1).toNat)).2 hbattery
    have hstray : toBits (N := strayNumbers (s.operatingTime + 1).toNat) 32 false s.timeInUse =
        s.operatingTime + 1 := by
      have hconvert : (strayNumbers (s.operatingTime + 1).toNat).convert 4 false s.timeInUse =
          (s.operatingTime + 1).toNat := if_pos ⟨rfl, rfl, Int.not_le.mp hneg⟩
      show BitVec.ofNat 32 ((strayNumbers _).convert 4 false s.timeInUse) = _
      rw [hconvert, BitVec.ofNat_toNat, BitVec.setWidth_eq]
    have hnext : s.operatingTime + 1 = s.operatingTime := hstray.symm.trans hback
    simp at hnext
  · rintro ⟨hcause, hnonneg⟩ N
    refine ⟨hcause, ?_⟩
    intro hbattery
    rw [timeInUse_eq hs (hnonneg hbattery)]
    exact toBits_toNat (by decide) (by decide) _

/-! ## Two states -/

/-- A device with an address that has been lighting for an hour. -/
private def lamp : ChannelState :=
  { zero with
    fields := 0x12003
    ipv4 := 0x0101a8c0
    mac := #v[0x02, 0x1a, 0xff, 0x00, 0x7b, 0xc4]
    operatingTime := 3600 }

theorem restores_iff_lamp : lamp.RoundTrips := by
  have hlamp : lamp.Clean := by
    constructor <;> decide
  exact (restores_iff hlamp).mpr ⟨by decide, fun _ => by decide⟩

/-- A device that lost its connection. -/
private def disconnected : ChannelState :=
  { zero with
    fields := 0x0800
    lastConnectionResetCause := SUPLA_LASTCONNECTIONRESETCAUSE_WIFI_CONNECTION_LOST }

theorem lost_cause : disconnected.Clean ∧ ¬ disconnected.RoundTrips := by
  refine ⟨by constructor <;> decide, ?_⟩
  intro h
  have hnumbers := h (strayNumbers 0)
  revert hnumbers
  decide +kernel

end ChannelState

end Device

import SuplaCore.Channel.Props

/-!
# Throttling of HTTP requests

`supla_http_throttling` (`supla-server/src/http/http_throttling.cpp`) and what its subclasses for
Google Home, Alexa and the state webhook override (`google_home_state_report_throttling.cpp`,
`alexa_change_report_throttling.cpp`, `state_webhook_throttling.cpp`). Times are microseconds, a
`timeval` is its two parts in one.
-/

namespace Http

open Channel

abbrev channelfncNoLiquidSensor : Int := 80
abbrev channelfncDimmer : Int := 180
abbrev channelfncDimmerCct : Int := 185
abbrev channelfncRgbLighting : Int := 190
abbrev channelfncDimmerAndRgbLighting : Int := 200
abbrev channelfncDimmerCctAndRgb : Int := 205
abbrev channelfncDepthSensor : Int := 210
abbrev channelfncDistanceSensor : Int := 220
abbrev channelfncOpeningSensorWindow : Int := 230
abbrev channelfncHotelCardSensor : Int := 235
abbrev channelfncMailSensor : Int := 240
abbrev channelfncWindSensor : Int := 250
abbrev channelfncPressureSensor : Int := 260
abbrev channelfncRainSensor : Int := 270
abbrev channelfncWeightSensor : Int := 280
abbrev channelfncThermostatHeatpolHomeplus : Int := 410
abbrev channelfncMotionSensor : Int := 1010
abbrev channelfncBinarySensor : Int := 1020

/-! ## Virtual methods -/

/-- The methods that a subclass overrides. -/
structure Throttling where
  getDefaultDelayTime : Int → Int
  getDelayTimeOverThreadshold : Int → Int

def getResetTimeUs (_func : Int) : Int := 10000000

def getCounterThreadshold (func : Int) : Nat :=
  if func = channelfncDimmer ∨ func = channelfncDimmerCct ∨ func = channelfncDimmerCctAndRgb ∨
      func = channelfncRgbLighting ∨ func = channelfncDimmerAndRgbLighting then 20
  else if func = channelfncHvacThermostat ∨ func = channelfncHvacThermostatHeatCool ∨
      func = channelfncHvacThermostatDifferential ∨ func = channelfncHvacDomesticHotWater ∨
      func = channelfncThermostatHeatpolHomeplus then 10
  else 5

namespace Throttling

/-- `supla_google_home_state_report_throttling` overrides nothing. -/
def googleHomeStateReport : Throttling := ⟨fun _ => 1500000, fun _ => 10000000⟩

def alexaChangeReport : Throttling where
  getDefaultDelayTime func :=
    if func = channelfncThermostatHeatpolHomeplus then 2500000 else 500000
  getDelayTimeOverThreadshold _ := 10000000

/-- The functions of sensors and meters that the webhook reports every 15 seconds. -/
def reportsSlowly (func : Int) : Bool :=
  [channelfncThermometer, channelfncHumidity, channelfncHumidityAndTemperature,
    channelfncWindSensor, channelfncPressureSensor, channelfncRainSensor,
    channelfncWeightSensor, channelfncDistanceSensor, channelfncDepthSensor,
    channelfncElectricityMeter, channelfncIcElectricityMeter, channelfncIcGasMeter,
    channelfncIcWaterMeter, channelfncIcHeatMeter].contains func

/-- Those that it reports at once. -/
def reportsFast (func : Int) : Bool :=
  [channelfncPowerSwitch, channelfncLightSwitch, channelfncStaircaseTimer,
    channelfncOpeningSensorGateway, channelfncOpeningSensorGate,
    channelfncOpeningSensorGarageDoor, channelfncNoLiquidSensor, channelfncOpeningSensorDoor,
    channelfncOpeningSensorRollerShutter, channelfncOpeningSensorRoofWindow,
    channelfncOpeningSensorWindow, channelfncHotelCardSensor, channelfncMailSensor,
    channelfncControllingTheRollerShutter, channelfncControllingTheRoofWindow,
    channelfncTerraceAwning, channelfncProjectorScreen, channelfncCurtain,
    channelfncVerticalBlind, channelfncRollerGarageDoor, channelfncBinarySensor,
    channelfncMotionSensor].contains func

def stateWebhook : Throttling where
  getDefaultDelayTime func :=
    if reportsSlowly func then 15000000
    else if reportsFast func then 250000
    else if func = channelfncActionTrigger then 100000
    else 1000000
  getDelayTimeOverThreadshold func :=
    if func = channelfncActionTrigger then 2000000 else 10000000

/-! ## The list of channels -/

/-- The values of `counter`, an `unsigned int`. -/
def counterSize : Nat := 4294967296

/-- `item_t`. -/
structure Item where
  channelId : Int
  last : Int
  counter : BitVec 32
  deriving DecidableEq

/-- `get_delay_time` with the item of the channel. -/
def hit (p : Throttling) (func now : Int) (it : Item) : Int × Item :=
  let counter := it.counter + 1
  if now - it.last ≥ getResetTimeUs func then
    (p.getDefaultDelayTime func, ⟨it.channelId, now, 1⟩)
  else if counter.toNat ≥ getCounterThreadshold func then
    (p.getDelayTimeOverThreadshold func, ⟨it.channelId, now, counter⟩)
  else (p.getDefaultDelayTime func, ⟨it.channelId, now, counter⟩)

/-- The search for the item, which is added behind the last one if there is none. -/
def hitItem (p : Throttling) (channelId func now : Int) : List Item → Int × List Item
  | [] =>
    let r := p.hit func now ⟨channelId, now, 0⟩
    (r.1, [r.2])
  | it :: items =>
    if it.channelId = channelId then
      let r := p.hit func now it
      (r.1, r.2 :: items)
    else
      let r := p.hitItem channelId func now items
      (r.1, it :: r.2)

def getDelayTime (p : Throttling) (channelId func now : Int) (items : List Item) :
    Int × List Item :=
  if p.getDefaultDelayTime func ≥ getResetTimeUs func then (p.getDefaultDelayTime func, items)
  else p.hitItem channelId func now items

/-- A call of `get_delay_time`. -/
structure Call where
  channelId : Int
  func : Int
  now : Int

/-- The list after some calls, of which the last one comes first. -/
def itemsAfter (p : Throttling) : List Call → List Item
  | [] => []
  | c :: cs => (p.getDelayTime c.channelId c.func c.now (p.itemsAfter cs)).2

end Throttling

end Http

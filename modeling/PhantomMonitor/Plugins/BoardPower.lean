import PhantomMonitor.Misc.Decimal
import PhantomMonitor.Plugins.PluginUtils

/-!
# The Board_power plugin

`mf_Board_power_connector.c`: power, current and voltages of the INA226 devices of an ACME board,
read through libiio. A sample refills the buffer of one device after the other, and a callback
averages the values of each channel as they come out of the buffer.

libiio is the environment: the devices that it finds, with their channels, and for each refill the
calls that `iio_buffer_foreach_sample` makes. Channels are known by their pointers. Floating-point
arithmetic is exact.
-/

namespace PhantomMonitor

open CText

/-- `MAX_DEVICES` (`mf_Board_power_connector.c:25`). -/
def maxDevices : Nat := 8

/-- `MAX_CHANNELS` (`mf_Board_power_connector.c:26`). -/
def maxChannels : Nat := 5

/-- A channel as libiio hands it out: a pointer, with the id of the device that it belongs to. -/
structure IioChannel where
  deviceId : CText
  pointer : Nat
  deriving DecidableEq, Repr

/-- `struct my_channel`. The unit is not read anywhere. -/
structure MyChannel where
  label : CText
  scale : Rat
  value : Rat
  iio : IioChannel

/-- The file's variables. -/
structure BoardState where
  nbDevices : Nat
  nbChannels : Nat
  nbSamples : Nat → Nat
  myChn : Nat → Nat → MyChannel

/-! ## Initialization -/

/-- A channel as the initialization finds it: its id and the text of its attribute `scale`. -/
structure IioChannelInfo where
  chn : IioChannel
  id : CText
  scale : Option CText

/-- A device as the initialization finds it: what the accesses to its attributes return, and whether
a buffer can be made for it. -/
structure IioDevice where
  name : CText
  oversamplingWritten : Int
  frequencyRead : Int
  channels : List IioChannelInfo
  bufferOk : Bool

/-- The devices that are found under the host name of the board, if there is a connection. -/
abbrev IioHost := Option (List (Option IioDevice))

/-- `device%d:power` and the like. -/
def channelName (d : Nat) (quantity : CText) : CText :=
  "device".toList ++ Nat.toDigits 10 d ++ ':' :: quantity

/-- The label of a channel by the start of its id; other channels keep what is there
(`mf_Board_power_connector.c:263-279`). -/
def channelLabel (d : Nat) (id label : CText) : CText :=
  if "power".toList.isPrefixOf id then channelName d "power".toList
  else if "curren".toList.isPrefixOf id then channelName d "current".toList
  else if "voltage1".toList.isPrefixOf id then channelName d "vbus".toList
  else if "voltage0".toList.isPrefixOf id then channelName d "vshunt".toList
  else label

/-- One turn of the loop over the channels (`mf_Board_power_connector.c:249-281`). -/
def initChannel (d : Nat) (found : IioChannelInfo) (old : MyChannel) : MyChannel where
  label := channelLabel d found.id old.label
  scale := (found.scale.map atof).getD 1
  value := 0
  iio := found.chn

/-- `init_ina2xx_channels` (`mf_Board_power_connector.c:230-282`); `none` when it ends the
program. -/
def initIna2xxChannels (dev : IioDevice) (d : Nat) (st : BoardState) : Option BoardState :=
  if dev.name ≠ "ina226".toList then none
  else if maxChannels < dev.channels.length then none
  else some { st with
    nbSamples := Function.update st.nbSamples d 0
    nbChannels := dev.channels.length
    myChn := Function.update st.myChn d fun c =>
      match dev.channels[c]? with
      | none => st.myChn d c
      | some found => initChannel d found (st.myChn d c) }

/-- The loop over the devices (`mf_Board_power_connector.c:190-224`). -/
def initDevices : List (Option IioDevice × Nat) → BoardState → Option (Int × BoardState)
  | [], st => some (1, st)
  | (none, _) :: _, st => some (0, st)
  | (some dev, d) :: rest, st =>
      if dev.oversamplingWritten ≤ 0 then some (0, st)
      else if dev.frequencyRead = 0 then some (0, st)
      else
        match initIna2xxChannels dev d st with
        | none => none
        | some st => if dev.bufferOk then initDevices rest st else some (0, st)

/-- `mf_acme_is_enabled` (`mf_Board_power_connector.c:163-226`); `none` when it ends the program. -/
def mfAcmeIsEnabled (host : IioHost) (st : BoardState) : Option (Int × BoardState) :=
  match host with
  | none => some (0, st)
  | some devices =>
      let st := { st with nbDevices := devices.length }
      if maxDevices < st.nbDevices then some (0, st) else initDevices devices.zipIdx st

/-- The search for a label, device by device and channel by channel
(`mf_Board_power_connector.c:291-303`, `mf_Board_power_connector.c:373-383`). -/
def findChannel (st : BoardState) (label : CText) : Option (Nat × Nat) :=
  ((List.range st.nbDevices).flatMap fun d => (List.range st.nbChannels).map fun c => (d, c)).find?
    fun (d, c) => (st.myChn d c).label = label

/-- The loop of `create_EventSets`; `false` when an event is not found. -/
def createEvents (st : BoardState) : List CText → PluginMetrics × Nat →
    Except Fault (Bool × PluginMetrics × Nat)
  | [], (data, idx) => .ok (true, data, idx)
  | event :: events, (data, idx) =>
      match findChannel st event with
      | none => .ok (false, data, idx)
      | some _ => do
          let data ← data.setEvent idx event
          createEvents st events (data, idx + 1)

/-- `create_EventSets` (`mf_Board_power_connector.c:285-312`). -/
def createEventSets (data : PluginMetrics) (events : List CText) (st : BoardState) :
    Except Fault (Int × PluginMetrics) := do
  let (found, data, idx) ← createEvents st events (data, 0)
  if found then return (1, { data with numEvents := idx }) else return (0, data)

/-- `mf_Board_power_init` (`mf_Board_power_connector.c:71-81`); `none` when the program ends. -/
def mfBoardPowerInit (host : IioHost) (data : PluginMetrics) (events : List CText)
    (st : BoardState) : Except Fault (Option (Int × PluginMetrics × BoardState)) :=
  match mfAcmeIsEnabled host st with
  | none => .ok none
  | some (ret, st) =>
      if ret = 0 then .ok (some (0, data, st))
      else do
        let (ret, data) ← createEventSets data events st
        return some (ret, data, st)

/-! ## Sampling -/

/-- `iio:device%d`. -/
def iioDeviceId (d : Nat) : CText := "iio:device".toList ++ Nat.toDigits 10 d

/-- `chan_device` (`mf_Board_power_connector.c:337-354`); `none` for -1. -/
def chanDevice (st : BoardState) (chn : IioChannel) : Option Nat :=
  (List.range st.nbDevices).find? fun i => chn.deviceId = iioDeviceId i

/-- `chan_index` (`mf_Board_power_connector.c:357-365`); `none` for -1. -/
def chanIndex (st : BoardState) (chn : IioChannel) (deviceIdx : Nat) : Option Nat :=
  (List.range st.nbChannels).find? fun i => (st.myChn deviceIdx i).iio = chn

/-- The statistics of a channel after one more value: the count of its device goes on with the first
channel (`mf_Board_power_connector.c:325-331`). -/
def addSample (st : BoardState) (i j : Nat) (val : Int) : BoardState :=
  let nbSamples :=
    if j = 0 then Function.update st.nbSamples i (st.nbSamples i + 1) else st.nbSamples
  let chn := st.myChn i j
  let value := chn.value + ((val.natAbs : Rat) - chn.value) / nbSamples i
  { st with
    nbSamples
    myChn := Function.update st.myChn i (Function.update (st.myChn i) j { chn with value }) }

/-- `print_sample` (`mf_Board_power_connector.c:316-334`) for a 16-bit sample. -/
def printSample (st : BoardState) (sample : IioChannel × BitVec 16) : Except Fault BoardState :=
  match chanDevice st sample.1 with
  | none => .error .outOfBounds
  | some i =>
      match chanIndex st sample.1 i with
      | none => .error .outOfBounds
      | some j => .ok (addSample st i j sample.2.toInt)

/-- What the refills of a sample bring, device by device: `none` when `iio_buffer_refill` fails,
otherwise the samples for which `iio_buffer_foreach_sample` calls back. -/
abbrev BoardReading := Nat → Option (List (IioChannel × BitVec 16))

/-- The loop over the devices (`mf_Board_power_connector.c:91-98`); `false` when it returns
`FAILURE`. -/
def refillDevices (r : BoardReading) : List Nat → BoardState → Except Fault (Bool × BoardState)
  | [], st => .ok (true, st)
  | d :: ds, st =>
      match r d with
      | none => .ok (false, st)
      | some samples => do
          let st ← samples.foldlM printSample st
          refillDevices r ds st

/-- The turn of `filter` for one event (`mf_Board_power_connector.c:373-387`). -/
def filterEvent (st : BoardState) (data : PluginMetrics) (idx : Nat) :
    Except Fault PluginMetrics := do
  match ← data.getEvent idx with
  | none => .error .outOfBounds
  | some event =>
      match findChannel st event with
      | none => return data
      | some (d, c) => data.setValue idx ((st.myChn d c).value * (st.myChn d c).scale)

/-- `filter` (`mf_Board_power_connector.c:368-388`). -/
def filterData (data : PluginMetrics) (st : BoardState) : Except Fault PluginMetrics :=
  (List.range data.numEvents).foldlM (filterEvent st) data

/-- `reset_my_channels_value` (`mf_Board_power_connector.c:391-401`). -/
def resetMyChannelsValue (st : BoardState) : BoardState :=
  { st with
    nbSamples := fun d => if d < st.nbDevices then 0 else st.nbSamples d
    myChn := fun d c =>
      if d < st.nbDevices ∧ c < st.nbChannels then { st.myChn d c with value := 0 }
      else st.myChn d c }

/-- `mf_Board_power_sample` (`mf_Board_power_connector.c:87-106`). -/
def mfBoardPowerSample (data : PluginMetrics) (r : BoardReading) (st : BoardState) :
    Except Fault (Int × PluginMetrics × BoardState) := do
  let (refilled, st) ← refillDevices r (List.range st.nbDevices) st
  if refilled then do
    let data ← filterData data st
    return (1, data, resetMyChannelsValue st)
  else return (0, data, st)

/-- `mf_Board_power_to_json` (`mf_Board_power_connector.c:114-140`) when the clock shows `ts`
milliseconds. -/
def mfBoardPowerToJson (data : PluginMetrics) (events : List CText) (ts : Rat) :
    Except Fault CText := do
  let entries ← requestedEntries (fun event name _ => decide (event = name)) data events
  return metricsText "Board_power".toList ts entries

end PhantomMonitor

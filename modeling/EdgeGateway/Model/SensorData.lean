import EdgeGateway.Model.FrameParser
import EdgeGateway.Model.Text

/-!
# Sensor readings

`SensorData` of `app/sensor_data.cpp`: decoding of a UART payload, range validation and the JSON text,
and `DeviceData` of `device/device_data.cpp`, the form in which the Modbus and CAN decoders deliver.
-/

namespace EdgeGateway

structure SensorData where
  deviceId : UInt8 := 0
  cmd : UInt8 := 0
  temperatureC : Tenths := ⟨0⟩
  humidityPercent : Tenths := ⟨0⟩
  gasPpm : UInt16 := 0
  batteryMv : UInt16 := 0
  status : UInt8 := 0
  sequence : UInt16 := 0
  valid : Bool := true
  warnings : List Text := []
deriving DecidableEq

def kSensorPayloadSize : Nat := 11

def addWarning (data : SensorData) (warning : String) : SensorData :=
  { data with valid := false, warnings := data.warnings ++ [ascii warning] }

/-- `if (condition) add_warning(data, warning)`. -/
def warnIf (condition : SensorData → Bool) (warning : String) (data : SensorData) : SensorData :=
  if condition data then addWarning data warning else data

def validateSensorDataImpl (data : SensorData) : SensorData :=
  data
    |> warnIf (fun d => d.temperatureC < .whole (-40) || .whole 85 < d.temperatureC)
      "temperature out of range"
    |> warnIf (fun d => d.humidityPercent < .whole 0 || .whole 100 < d.humidityPercent)
      "humidity out of range"
    |> warnIf (fun d => d.gasPpm > 5000) "gas concentration out of range"
    |> warnIf (fun d => d.batteryMv < 3000 || d.batteryMv > 4200) "battery voltage out of range"
    |> warnIf (fun d => d.status &&& 0x01 != 0) "device reports sensor fault"
    |> warnIf (fun d => d.status &&& 0x02 != 0) "device reports low battery"
    |> warnIf (fun d => d.status &&& 0x04 != 0) "device is calibrating"

/-- Returns what the source returns and the value it leaves in `out`. -/
def parseSensorData (frame : Frame) : Bool × SensorData :=
  let out : SensorData := { deviceId := frame.deviceId, cmd := frame.cmd }
  if hsize : frame.payload.length ≠ kSensorPayloadSize then
    (false, addWarning out "invalid payload length")
  else
    have hlen : frame.payload.length = 11 := not_not.mp hsize
    let temperatureX10 := (readU16Be frame.payload 0 (by omega)).toInt16.toInt
    let humidityX10 := (readU16Be frame.payload 2 (by omega)).toNat
    let out := validateSensorDataImpl
      { out with
        temperatureC := ⟨temperatureX10⟩
        humidityPercent := ⟨humidityX10⟩
        gasPpm := readU16Be frame.payload 4 (by omega)
        batteryMv := readU16Be frame.payload 6 (by omega)
        status := frame.payload[8]
        sequence := readU16Be frame.payload 9 (by omega) }
    (out.valid, out)

def validateSensorData (data : SensorData) : SensorData :=
  validateSensorDataImpl { data with valid := true, warnings := [] }

def sensorDataToJson (data : SensorData) : Text :=
  ascii "\x7b" ++
  ascii "\"device_id\":" ++ decimal data.deviceId.toNat ++ ascii "," ++
  ascii "\"cmd\":" ++ decimal data.cmd.toNat ++ ascii "," ++
  ascii "\"temperature_c\":" ++ data.temperatureC.print ++ ascii "," ++
  ascii "\"humidity_percent\":" ++ data.humidityPercent.print ++ ascii "," ++
  ascii "\"gas_ppm\":" ++ decimal data.gasPpm.toNat ++ ascii "," ++
  ascii "\"battery_mv\":" ++ decimal data.batteryMv.toNat ++ ascii "," ++
  ascii "\"status\":" ++ decimal data.status.toNat ++ ascii "," ++
  ascii "\"sequence\":" ++ decimal data.sequence.toNat ++ ascii "," ++
  ascii "\"valid\":" ++ ascii (if data.valid then "true" else "false") ++
  (if data.warnings.isEmpty then []
    else ascii ",\"warnings\":[" ++
      (ascii ",").intercalate (data.warnings.map (fun w => ascii "\"" ++ w ++ ascii "\"")) ++
      ascii "]") ++
  ascii "\x7d"

inductive ProtocolType where
  | uart
  | modbusRtu
  | socketCan
deriving DecidableEq, Repr

def ProtocolType.toText : ProtocolType → Text
  | .uart => ascii "UART"
  | .modbusRtu => ascii "MODBUS_RTU"
  | .socketCan => ascii "SOCKETCAN"

structure DeviceData where
  deviceId : UInt8 := 0
  protocol : ProtocolType := .uart
  temperatureC : Tenths := ⟨0⟩
  humidityPercent : Tenths := ⟨0⟩
  gasPpm : UInt16 := 0
  batteryMv : UInt16 := 0
  status : UInt8 := 0
  sequence : UInt16 := 0
deriving DecidableEq

def toSensorData (input : DeviceData) : SensorData :=
  validateSensorData
    { deviceId := input.deviceId
      cmd := 0x01
      temperatureC := input.temperatureC
      humidityPercent := input.humidityPercent
      gasPpm := input.gasPpm
      batteryMv := input.batteryMv
      status := input.status
      sequence := input.sequence }

end EdgeGateway

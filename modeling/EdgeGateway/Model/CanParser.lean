import EdgeGateway.Model.SensorData

/-!
# CAN sensor frames

`CanFrame` and `parse_sensor_frame` of `can/can_parser.cpp`.
-/

namespace EdgeGateway.Canbus

structure CanFrame where
  id : UInt32 := 0
  extended : Bool := false
  dlc : UInt8 := 0
  data : Vector UInt8 8 := Vector.replicate 8 0

def parseSensorFrame (frame : CanFrame) : Except Text DeviceData :=
  if frame.extended ∨ frame.id &&& 0x1FFFFFFF > 0x7FF then
    .error (ascii "only standard 11-bit CAN identifiers are supported")
  else if frame.dlc ≠ 8 then
    .error (ascii "CAN sensor frame DLC must be 8")
  else
    have hlen : frame.data.toList.length = 8 := frame.data.length_toList
    .ok
      { deviceId := (frame.id &&& 0xFF).toUInt8
        protocol := .socketCan
        temperatureC := ⟨(readU16Be frame.data.toList 0 (by omega)).toInt16.toInt⟩
        humidityPercent := ⟨(readU16Be frame.data.toList 2 (by omega)).toNat⟩
        gasPpm := readU16Be frame.data.toList 4 (by omega)
        batteryMv := frame.data[6].toUInt16 * 100
        status := frame.data[7]
        sequence := 0 }

end EdgeGateway.Canbus

import TrafficControl.Protocol.Value

/-!
# Vehicle descriptors

Everything the simulator needs to put a new vehicle on the road. Times, lanes and places are given
in the simulator's own textual form.
-/

namespace TrafficControl

/-- A vehicle to be inserted. -/
structure VehicleDescriptor where
  routeId : String
  typeId : String := "DEFAULT_VEHTYPE"
  depart : String := "now"
  departLane : String := "first"
  departPos : String := "base"
  departSpeed : String := "0"
  arrivalLane : String := "current"
  arrivalPos : String := "max"
  arrivalSpeed : String := "current"
  fromZone : String := ""
  toZone : String := ""
  line : String := ""
  personCapacity : Int32 := 0
  personNumber : Int32 := 0
  deriving DecidableEq, Repr

/-- The descriptor as a value: its texts in order, and then its two counts. -/
def VehicleDescriptor.value (d : VehicleDescriptor) : Value :=
  .compound
    ([d.routeId, d.typeId, d.depart, d.departLane, d.departPos, d.departSpeed, d.arrivalLane,
        d.arrivalPos, d.arrivalSpeed, d.fromZone, d.toZone, d.line].map .text
      ++ [.int d.personCapacity, .int d.personNumber])

end TrafficControl

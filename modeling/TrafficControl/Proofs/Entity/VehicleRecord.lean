import TrafficControl.Proofs.Client.Outcome
import TrafficControl.Traffic.Observer

/-!
# What is known about vehicles

The record of a vehicle says when it was first seen and whether it has left. Two relations bound
what others may do to the records of vehicles that were made already: under `Memory.Keeps` no record
changes, and under `Memory.Grows` a vehicle may be retired but none is brought back. Both are
reflexive and transitive, and both forbid that a handle is given out twice. What holds of every
single deed of a client, and may be built up from deed to deed, is a `Memory.Lasting` relation.
-/

namespace TrafficControl

namespace Memory

/-! ### Records after the client's own deeds -/

@[simp] theorem vehicle_mapCells (f : Cells → Cells) (m : Memory) (h : Handle) :
    (m.mapCells f).vehicle h = m.vehicle h := rfl

theorem vehicle_setVehicle (h : Handle) (r : VehicleRecord) (m : Memory) (h' : Handle) :
    (m.setVehicle h r).vehicle h' = if h' = h then r else m.vehicle h' := by
  unfold setVehicle vehicle
  rw [Std.ExtTreeMap.getD_insert]
  simp only [Std.compare_eq_iff_eq, eq_comm (a := h)]

theorem vehicle_retire (v : Vehicle) (m : Memory) (h : Handle) :
    (v.retire m).vehicle h =
      if h = v.handle then { m.vehicle v.handle with retired := true } else m.vehicle h := by
  rw [Vehicle.retire, vehicle_mapCells, vehicle_setVehicle]

theorem vehicle_addVehicle (id : String) (time : Binary64) (m : Memory) (h : Handle) :
    (m.addVehicle id time).2.vehicle h =
      if h = m.nextHandle then { departTime := time } else m.vehicle h := by
  show (Memory.setVehicle m.nextHandle _ m.fresh.2).vehicle h = _
  rw [vehicle_setVehicle]
  rfl

@[simp] theorem nextHandle_mapCells (f : Cells → Cells) (m : Memory) :
    (m.mapCells f).nextHandle = m.nextHandle := rfl

@[simp] theorem nextHandle_retire (v : Vehicle) (m : Memory) : (v.retire m).nextHandle = m.nextHandle := by
  rw [Vehicle.retire, nextHandle_mapCells]
  rfl

@[simp] theorem nextHandle_addVehicle (id : String) (time : Binary64) (m : Memory) :
    (m.addVehicle id time).2.nextHandle = m.nextHandle + 1 := rfl

/-! ### Vehicles that are retired at most -/

/-- Vehicles may have been made and retired, but none was brought back or changed otherwise. -/
structure Grows (m m' : Memory) : Prop where
  nextHandle_le : m.nextHandle ≤ m'.nextHandle
  departTime_eq : ∀ h < m.nextHandle, (m'.vehicle h).departTime = (m.vehicle h).departTime
  retired : ∀ h < m.nextHandle, (m.vehicle h).retired = true → (m'.vehicle h).retired = true

namespace Grows

theorem refl (m : Memory) : Grows m m := ⟨Nat.le_refl _, fun _ _ => rfl, fun _ _ h => h⟩

theorem trans {m₁ m₂ m₃ : Memory} (h : Grows m₁ m₂) (h' : Grows m₂ m₃) : Grows m₁ m₃ where
  nextHandle_le := Nat.le_trans h.nextHandle_le h'.nextHandle_le
  departTime_eq v hv := by
    rw [h'.departTime_eq v (Nat.lt_of_lt_of_le hv h.nextHandle_le), h.departTime_eq v hv]
  retired v hv hr := h'.retired v (Nat.lt_of_lt_of_le hv h.nextHandle_le) (h.retired v hv hr)

theorem retire (v : Vehicle) (m : Memory) : Grows m (v.retire m) where
  nextHandle_le := Nat.le_of_eq (nextHandle_retire v m).symm
  departTime_eq h _ := by
    rw [vehicle_retire]
    split
    · next heq => rw [heq]
    · rfl
  retired h _ hr := by
    rw [vehicle_retire]
    split
    · rfl
    · exact hr

end Grows

/-! ### Vehicles that are left alone -/

/-- Vehicles may have been made, but what is known about those that were there is the same. -/
structure Keeps (m m' : Memory) : Prop where
  nextHandle_le : m.nextHandle ≤ m'.nextHandle
  vehicle_eq : ∀ h < m.nextHandle, m'.vehicle h = m.vehicle h

namespace Keeps

theorem refl (m : Memory) : Keeps m m := ⟨Nat.le_refl _, fun _ _ => rfl⟩

theorem trans {m₁ m₂ m₃ : Memory} (h : Keeps m₁ m₂) (h' : Keeps m₂ m₃) : Keeps m₁ m₃ where
  nextHandle_le := Nat.le_trans h.nextHandle_le h'.nextHandle_le
  vehicle_eq v hv := by
    rw [h'.vehicle_eq v (Nat.lt_of_lt_of_le hv h.nextHandle_le), h.vehicle_eq v hv]

theorem grows {m m' : Memory} (h : Keeps m m') : Grows m m' where
  nextHandle_le := h.nextHandle_le
  departTime_eq v hv := by rw [h.vehicle_eq v hv]
  retired v hv hr := by rwa [h.vehicle_eq v hv]

theorem mapCells (f : Cells → Cells) (m : Memory) : Keeps m (m.mapCells f) :=
  ⟨Nat.le_refl _, fun _ _ => rfl⟩

theorem addLog (r : LogRecord) (m : Memory) : Keeps m (m.addLog r) :=
  ⟨Nat.le_refl _, fun _ _ => rfl⟩

theorem addVehicle (id : String) (time : Binary64) (m : Memory) :
    Keeps m (m.addVehicle id time).2 where
  nextHandle_le := Nat.le_succ _
  vehicle_eq h hh := by rw [vehicle_addVehicle, if_neg (Nat.ne_of_lt hh)]

theorem of_sameButCells {m m' : Memory} (h : SameButCells m m') : Keeps m m' :=
  ⟨Nat.le_of_eq h.nextHandle_eq.symm, fun v _ => h.vehicle_eq v⟩

end Keeps

/-! ### Vehicles that are left alone but for some -/

/-- No record changes but those of some objects. -/
structure KeepsBut (gone : Handle → Prop) (m m' : Memory) : Prop where
  nextHandle_le : m.nextHandle ≤ m'.nextHandle
  vehicle_eq : ∀ h < m.nextHandle, ¬ gone h → m'.vehicle h = m.vehicle h

namespace KeepsBut

variable {gone gone' : Handle → Prop} {m₁ m₂ m₃ : Memory}

theorem of_keeps (h : Keeps m₁ m₂) : KeepsBut gone m₁ m₂ :=
  ⟨h.nextHandle_le, fun v hv _ => h.vehicle_eq v hv⟩

theorem trans (h : KeepsBut gone m₁ m₂) (h' : KeepsBut gone m₂ m₃) : KeepsBut gone m₁ m₃ where
  nextHandle_le := Nat.le_trans h.nextHandle_le h'.nextHandle_le
  vehicle_eq v hv hnot := by
    rw [h'.vehicle_eq v (Nat.lt_of_lt_of_le hv h.nextHandle_le) hnot, h.vehicle_eq v hv hnot]

theorem mono (h : KeepsBut gone m₁ m₂) (hsub : ∀ v, gone v → gone' v) : KeepsBut gone' m₁ m₂ :=
  ⟨h.nextHandle_le, fun v hv hnot => h.vehicle_eq v hv fun hv => hnot (hsub v hv)⟩

theorem retire (v : Vehicle) (m : Memory) : KeepsBut (· = v.handle) m (v.retire m) where
  nextHandle_le := Nat.le_of_eq (nextHandle_retire v m).symm
  vehicle_eq h _ hnot := by rw [vehicle_retire, if_neg hnot]

end KeepsBut

/-! ### What builds up deed by deed -/

/-- A relation between memories that may be built up deed by deed, and that logging and registering
satisfy. -/
structure Cumulative (R : Memory → Memory → Prop) : Prop where
  refl : ∀ m, R m m
  trans : ∀ {m₁ m₂ m₃}, R m₁ m₂ → R m₂ m₃ → R m₁ m₃
  addLog : ∀ r m, R m (m.addLog r)
  addVehicle : ∀ id time m, R m (m.addVehicle id time).2

/-- A relation between memories that all the deeds of a tick satisfy, but for the retirement of a
vehicle. -/
structure Lasting (R : Memory → Memory → Prop) : Prop extends Cumulative R where
  forgetAll : ∀ cells m, R m (m.mapCells (·.forgetAll cells))

theorem Keeps.lasting : Lasting Keeps :=
  ⟨⟨refl, trans, addLog, addVehicle⟩, fun _ m => mapCells _ m⟩

theorem Grows.lasting : Lasting Grows :=
  ⟨⟨refl, trans, fun r m => (Keeps.addLog r m).grows,
    fun id time m => (Keeps.addVehicle id time m).grows⟩, fun _ m => (Keeps.mapCells _ m).grows⟩

namespace Cumulative

variable {R : Memory → Memory → Prop} (cumulative : Cumulative R) {α β : Type}

include cumulative

theorem foldl {f : Memory → α → Memory} {items : List α} (h : ∀ a ∈ items, ∀ m, R m (f m a))
    (m : Memory) : R m (items.foldl f m) :=
  List.foldlRecOn items f (cumulative.refl m) fun m' hm' a ha => cumulative.trans hm' (h a ha m')

theorem foldl_snd {f : β × Memory → α → β × Memory} (h : ∀ state a, R state.2 (f state a).2)
    (items : List α) (state : β × Memory) : R state.2 (items.foldl f state).2 := by
  induction items generalizing state with
  | nil => exact cumulative.refl _
  | cons a items ih => exact cumulative.trans (h state a) (ih _)

end Cumulative

end Memory

end TrafficControl

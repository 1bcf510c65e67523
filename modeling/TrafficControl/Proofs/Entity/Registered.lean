import TrafficControl.Proofs.Client.Registry
import TrafficControl.Proofs.Entity.VehicleRecord

/-!
# Registries of vehicles

A registry is sound (`Registry.Sound`) if its objects were made before, no object is registered under
two ids, and none is retired. It stays sound when an id is erased, when an object that is no longer
registered is retired, and when a new vehicle is registered under any id.
-/

namespace TrafficControl

/-- The registered objects were made before, none of them is registered twice, and none is
retired. -/
structure Registry.Sound (live : Registry) (m : Memory) : Prop where
  bound : ∀ (id : String) (h : Handle), live[id]? = some h → h < m.nextHandle
  unique : ∀ (id id' : String) (h : Handle), live[id]? = some h → live[id']? = some h → id = id'
  present : ∀ (id : String) (h : Handle), live[id]? = some h → (m.vehicle h).retired = false

namespace Registry.Sound

variable {live : Registry} {m m' : Memory}

theorem empty (m : Memory) : Sound ∅ m where
  bound _ _ h := absurd h Registry.getElem?_empty_ne_some
  unique _ _ _ h := absurd h Registry.getElem?_empty_ne_some
  present _ _ h := absurd h Registry.getElem?_empty_ne_some

/-- A registry stays sound while records are kept. -/
theorem keeps (hs : Sound live m) (hm : m.Keeps m') : Sound live m' where
  bound id h hid := Nat.lt_of_lt_of_le (hs.bound id h hid) hm.nextHandle_le
  unique := hs.unique
  present id h hid := by
    rw [hm.vehicle_eq h (hs.bound id h hid)]
    exact hs.present id h hid

theorem erase (hs : Sound live m) (id : String) : Sound (live.erase id) m := by
  have hsub : ∀ (x : String) (h : Handle), (live.erase id)[x]? = some h → live[x]? = some h := by
    intro x h hx
    exact (Registry.getElem?_erase_eq_some.mp hx).2
  exact ⟨fun x h hx => hs.bound x h (hsub x h hx),
    fun x y h hx hy => hs.unique x y h (hsub x h hx) (hsub y h hy),
    fun x h hx => hs.present x h (hsub x h hx)⟩

/-- Retiring an object that is no longer registered leaves the registry sound. -/
theorem retire (hs : Sound live m) {v : Vehicle} (hv : ∀ id : String, live[id]? ≠ some v.handle) :
    Sound live (v.retire m) where
  bound id h hid := by
    rw [Memory.nextHandle_retire]
    exact hs.bound id h hid
  unique := hs.unique
  present id h hid := by
    rw [Memory.vehicle_retire, if_neg]
    · exact hs.present id h hid
    · rintro rfl
      exact hv id hid

/-- A new vehicle may be registered under any id. -/
theorem insert (hs : Sound live m) (id : String) (time : Binary64) :
    Sound (live.insert id m.nextHandle) (m.addVehicle id time).2 := by
  have hcases : ∀ (x : String) (h : Handle), (live.insert id m.nextHandle)[x]? = some h →
      (x = id ∧ h = m.nextHandle) ∨ (live[x]? = some h ∧ h < m.nextHandle) := by
    intro x h hx
    rcases Registry.getElem?_insert_eq_some.mp hx with hnew | ⟨-, hx⟩
    · exact Or.inl hnew
    · exact Or.inr ⟨hx, hs.bound x h hx⟩
  refine ⟨?_, ?_, ?_⟩
  · intro x h hx
    rw [Memory.nextHandle_addVehicle]
    rcases hcases x h hx with ⟨-, rfl⟩ | ⟨-, hlt⟩
    · exact Nat.lt_succ_self _
    · exact Nat.lt_succ_of_lt hlt
  · intro x y h hx hy
    rcases hcases x h hx with ⟨rfl, hnew⟩ | ⟨hx, hlt⟩
    · rcases hcases y h hy with ⟨rfl, -⟩ | ⟨-, hlt⟩
      · rfl
      · exact absurd hnew (Nat.ne_of_lt hlt)
    · rcases hcases y h hy with ⟨-, hnew⟩ | ⟨hy, -⟩
      · exact absurd hnew (Nat.ne_of_lt hlt)
      · exact hs.unique x y h hx hy
  · intro x h hx
    rw [Memory.vehicle_addVehicle]
    rcases hcases x h hx with ⟨-, rfl⟩ | ⟨hx, hlt⟩
    · rw [if_pos rfl]
    · rw [if_neg (Nat.ne_of_lt hlt)]
      exact hs.present x h hx

end Registry.Sound

end TrafficControl

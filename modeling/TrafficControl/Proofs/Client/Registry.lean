import TrafficControl.Client.Action

/-!
# Looking up what is registered

What a registry holds under an id after one id was erased or inserted, with ids told apart by
equality.
-/

namespace TrafficControl

namespace Registry

variable {live : Registry} {id x : String} {h h' : Handle}

/-- An id is registered if there is an object under it. -/
theorem mem_iff_exists : id ∈ live ↔ ∃ h, live[id]? = some h := by
  rw [Std.ExtTreeMap.mem_iff_isSome_getElem?, Option.isSome_iff_exists]

theorem getElem?_empty_ne_some : (∅ : Registry)[id]? ≠ some h := by
  simp

theorem getElem?_erase : (live.erase id)[x]? = if x = id then none else live[x]? := by
  rw [Std.ExtTreeMap.getElem?_erase]
  simp only [Std.compare_eq_iff_eq, eq_comm (a := id)]

theorem getElem?_insert : (live.insert id h)[x]? = if x = id then some h else live[x]? := by
  rw [Std.ExtTreeMap.getElem?_insert]
  simp only [Std.compare_eq_iff_eq, eq_comm (a := id)]

theorem mem_insert : x ∈ live.insert id h ↔ x = id ∨ x ∈ live := by
  rw [Std.ExtTreeMap.mem_insert]
  simp only [Std.compare_eq_iff_eq, eq_comm (a := id)]

theorem contains_insert : (live.insert id h).contains x = (x == id || live.contains x) := by
  rw [Bool.eq_iff_iff, Bool.or_eq_true, beq_iff_eq, Std.ExtTreeMap.contains_iff_mem,
    Std.ExtTreeMap.contains_iff_mem]
  exact mem_insert

/-- After an id was erased, the others are registered as before. -/
theorem getElem?_erase_eq_some : (live.erase id)[x]? = some h ↔ x ≠ id ∧ live[x]? = some h := by
  rw [getElem?_erase]
  by_cases hx : x = id <;> simp [hx]

/-- After an id was inserted, it has the new object, and the others are registered as before. -/
theorem getElem?_insert_eq_some :
    (live.insert id h')[x]? = some h ↔ x = id ∧ h = h' ∨ x ≠ id ∧ live[x]? = some h := by
  rw [getElem?_insert]
  by_cases hx : x = id <;> simp [hx, eq_comm]

end Registry

end TrafficControl

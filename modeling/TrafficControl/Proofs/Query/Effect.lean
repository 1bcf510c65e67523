import TrafficControl.Client.Cells

/-!
# What an answer leaves behind

An `Effect` is what a query has to remember of its answer. The answers of a batch are remembered one
after another, so that a later one may override an earlier one: a change puts reads out of date that
stand before it, and a read that stands behind the change is remembered again.

* `Effect.holds_at_end`: what an answer says holds at the end, unless a later answer of the batch is
  about the same.
-/

namespace TrafficControl

/-! ### Effects -/

/-- What is remembered of an answer. -/
inductive Effect where
  /-- The value that a read got. -/
  | kept (cell : Cell) (v : Value)
  /-- The reads that an accepted change puts out of date. -/
  | outdated (cells : List Cell)
  /-- What came back from a step. -/
  | stepped (cell : Cell) (answers : List Command)
  /-- Level and text of the simulator's version. -/
  | identified (cell : Cell) (version : Int32 × String)
  | nothing

namespace Effect

/-- Remembers what an answer says. -/
def apply : Effect → Cells → Cells
  | kept cell v, cells => cells.keep cell v
  | outdated outdates, cells => cells.forgetAll outdates
  | stepped cell answers, cells => cells.setAnswers cell answers
  | identified cell version, cells => cells.setVersion cell version
  | nothing, cells => cells

/-- Remembers what several answers say, in order. -/
def applyAll (effects : List Effect) (cells : Cells) : Cells :=
  effects.foldl (fun cells e => e.apply cells) cells

/-- What is remembered agrees with an answer. -/
def HoldsIn (cells : Cells) : Effect → Prop
  | kept cell v => cells.cached[cell]? = some v
  | outdated outdates => ∀ cell ∈ outdates, cells.cached[cell]? = none
  | stepped cell answers => cells.answers[cell]? = some answers
  | identified cell version => cells.versions[cell]? = some version
  | nothing => True

/-- A later answer is about what an earlier one was about. -/
def Overrides : Effect → Effect → Prop
  | kept cell _, kept cell' _ => cell = cell'
  | outdated outdates, kept cell _ => cell ∈ outdates
  | kept cell _, outdated outdates => cell ∈ outdates
  | stepped cell _, stepped cell' _ => cell = cell'
  | identified cell _, identified cell' _ => cell = cell'
  | _, _ => False

end Effect

/-! ### Caches -/

namespace Cells

theorem cached_keep (cells : Cells) (c : Cell) (v : Value) (x : Cell) :
    (cells.keep c v).cached[x]? = if c = x then some v else cells.cached[x]? := by
  show (cells.cached.insert c v)[x]? = _
  rw [Std.ExtTreeMap.getElem?_insert]
  simp only [Std.LawfulEqCmp.compare_eq_iff_eq]

theorem cached_forget (cells : Cells) (c x : Cell) :
    (cells.forget c).cached[x]? = if c = x then none else cells.cached[x]? := by
  show (cells.cached.erase c)[x]? = _
  rw [Std.ExtTreeMap.getElem?_erase]
  simp only [Std.LawfulEqCmp.compare_eq_iff_eq]

theorem cached_forgetAll (cells : Cells) (cs : List Cell) (x : Cell) :
    (cells.forgetAll cs).cached[x]? = if x ∈ cs then none else cells.cached[x]? := by
  induction cs generalizing cells with
  | nil => rfl
  | cons c cs ih =>
    show ((cells.forget c).forgetAll cs).cached[x]? = _
    rw [ih, cached_forget]
    simp only [List.mem_cons, eq_comm (a := c)]
    by_cases hx : x = c <;> simp [hx]

/-- Forgetting answers to reads changes nothing else. -/
theorem forgetAll_eq (cells : Cells) (cs : List Cell) :
    cells.forgetAll cs = { cells with cached := (cells.forgetAll cs).cached } := by
  induction cs generalizing cells with
  | nil => rfl
  | cons c cs ih => exact ih (cells.forget c)

theorem forget_comm (cells : Cells) (c d : Cell) :
    (cells.forget c).forget d = (cells.forget d).forget c := by
  have hcached : (cells.cached.erase c).erase d = (cells.cached.erase d).erase c := by
    refine Std.ExtTreeMap.ext_getElem? fun x => ?_
    simp only [Std.ExtTreeMap.getElem?_erase]
    split <;> split <;> rfl
  unfold forget
  rw [hcached]

theorem forgetAll_perm {cs ds : List Cell} (h : cs.Perm ds) (cells : Cells) :
    cells.forgetAll cs = cells.forgetAll ds :=
  h.foldl_eq' (fun c _ d _ cells => cells.forget_comm c d) cells

theorem forgetAll_comm (cells : Cells) (cs ds : List Cell) :
    (cells.forgetAll cs).forgetAll ds = (cells.forgetAll ds).forgetAll cs := by
  unfold forgetAll
  rw [← List.foldl_append, ← List.foldl_append]
  exact forgetAll_perm List.perm_append_comm cells

theorem parameters_forget (cells : Cells) (c : Cell) :
    (cells.forget c).parameters = cells.parameters := rfl

/-- A parameter that compares equal to the one before changes nothing. -/
theorem setParameter_of_same {cells : Cells} {c : Cell} {v : Value}
    (h : cells.parameters[c]?.any (·.same v) = true) : cells.setParameter c v = cells := by
  rw [setParameter, if_pos h]

/-- A read that was given a parameter has one. -/
theorem parameters_setParameter_self (cells : Cells) (c : Cell) (v : Value) :
    ∃ w, (cells.setParameter c v).parameters[c]? = some w := by
  unfold setParameter
  split
  · next hsame => exact Option.isSome_iff_exists.mp (Option.isSome_of_any hsame)
  · exact ⟨v, Std.ExtTreeMap.getElem?_insert_self⟩

section

variable {cells : Cells} {c : Cell} {v : Value} (h : cells.parameters[c]?.any (·.same v) = false)

include h

theorem parameters_setParameter (x : Cell) :
    (cells.setParameter c v).parameters[x]? = if c = x then some v else cells.parameters[x]? := by
  rw [setParameter, if_neg (Bool.eq_false_iff.mp h)]
  show (cells.parameters.insert c v)[x]? = _
  rw [Std.ExtTreeMap.getElem?_insert]
  simp only [Std.LawfulEqCmp.compare_eq_iff_eq]

theorem cached_setParameter (x : Cell) :
    (cells.setParameter c v).cached[x]? = if c = x then none else cells.cached[x]? := by
  rw [setParameter, if_neg (Bool.eq_false_iff.mp h)]
  exact cached_forget { cells with parameters := cells.parameters.insert c v } c x

end

end Cells

namespace Effect

theorem holdsIn_apply (e : Effect) (cells : Cells) : e.HoldsIn (e.apply cells) := by
  cases e with
  | kept cell v =>
    show (cells.keep cell v).cached[cell]? = _
    rw [Cells.cached_keep, if_pos rfl]
  | outdated outdates =>
    intro cell hcell
    show (cells.forgetAll outdates).cached[cell]? = _
    rw [Cells.cached_forgetAll, if_pos hcell]
  | stepped cell answers => exact Std.ExtTreeMap.getElem?_insert_self
  | identified cell version => exact Std.ExtTreeMap.getElem?_insert_self
  | nothing => trivial

/-- What holds goes on to hold after an answer that is about something else. -/
theorem HoldsIn.apply {e : Effect} {cells : Cells} (h : e.HoldsIn cells) {e' : Effect}
    (hother : ¬ e'.Overrides e) : e.HoldsIn (e'.apply cells) := by
  cases e' with
  | kept cell v =>
    cases e with
    | kept cell' v' =>
      have hne : cell ≠ cell' := hother
      show (cells.keep cell v).cached[cell']? = _
      rw [Cells.cached_keep, if_neg hne]
      exact h
    | outdated outdates =>
      intro cell' hcell'
      show (cells.keep cell v).cached[cell']? = _
      rw [Cells.cached_keep, if_neg]
      · exact h cell' hcell'
      · rintro rfl
        exact hother hcell'
    | stepped | identified | nothing => exact h
  | outdated outdates =>
    cases e with
    | kept cell v =>
      have hnot : cell ∉ outdates := hother
      show (cells.forgetAll outdates).cached[cell]? = _
      rw [Cells.cached_forgetAll, if_neg hnot]
      exact h
    | outdated outdates' =>
      intro cell hcell
      show (cells.forgetAll outdates).cached[cell]? = _
      rw [Cells.cached_forgetAll]
      split
      · rfl
      · exact h cell hcell
    | stepped cell answers =>
      show (cells.forgetAll outdates).answers[cell]? = _
      rw [Cells.forgetAll_eq]
      exact h
    | identified cell version =>
      show (cells.forgetAll outdates).versions[cell]? = _
      rw [Cells.forgetAll_eq]
      exact h
    | nothing => trivial
  | stepped cell answers =>
    cases e with
    | stepped cell' answers' =>
      show (cells.answers.insert cell answers)[cell']? = _
      rw [Std.ExtTreeMap.getElem?_insert,
        if_neg fun hc => hother (Std.LawfulEqCmp.compare_eq_iff_eq.mp hc)]
      exact h
    | kept | outdated | identified | nothing => exact h
  | identified cell version =>
    cases e with
    | identified cell' version' =>
      show (cells.versions.insert cell version)[cell']? = _
      rw [Std.ExtTreeMap.getElem?_insert,
        if_neg fun hc => hother (Std.LawfulEqCmp.compare_eq_iff_eq.mp hc)]
      exact h
    | kept | outdated | stepped | nothing => exact h
  | nothing => exact h

/-- A value that is cached after an answer was cached before it, or is what the answer says. -/
theorem cached_of_apply {e : Effect} {cells : Cells} {cell : Cell} {v : Value}
    (h : (e.apply cells).cached[cell]? = some v) :
    cells.cached[cell]? = some v ∨ e = .kept cell v := by
  cases e with
  | kept cell' v' =>
    replace h : (cells.keep cell' v').cached[cell]? = some v := h
    rw [Cells.cached_keep] at h
    split at h
    · next heq =>
      cases h
      rw [heq]
      exact Or.inr rfl
    · exact Or.inl h
  | outdated outdates =>
    replace h : (cells.forgetAll outdates).cached[cell]? = some v := h
    rw [Cells.cached_forgetAll] at h
    split at h
    · cases h
    · exact Or.inl h
  | stepped | identified | nothing => exact Or.inl h

/-- A value that is cached after answers was cached before them, or one of them has brought it. -/
theorem cached_of_applyAll {effects : List Effect} {cells : Cells} {cell : Cell} {v : Value}
    (h : (applyAll effects cells).cached[cell]? = some v) :
    cells.cached[cell]? = some v ∨ .kept cell v ∈ effects := by
  induction effects generalizing cells with
  | nil => exact Or.inl h
  | cons e effects ih =>
    rcases ih h with hcached | hmem
    · rcases cached_of_apply hcached with hbefore | rfl
      · exact Or.inl hbefore
      · exact Or.inr List.mem_cons_self
    · exact Or.inr (List.mem_cons_of_mem e hmem)

/-- An answer changes no parameter. -/
theorem parameters_apply (e : Effect) (cells : Cells) :
    (e.apply cells).parameters = cells.parameters := by
  cases e with
  | outdated outdates =>
    show (cells.forgetAll outdates).parameters = _
    rw [Cells.forgetAll_eq]
  | kept | stepped | identified | nothing => rfl

theorem parameters_applyAll (effects : List Effect) (cells : Cells) :
    (applyAll effects cells).parameters = cells.parameters := by
  induction effects generalizing cells with
  | nil => rfl
  | cons e effects ih => exact (ih (e.apply cells)).trans (e.parameters_apply cells)

theorem HoldsIn.applyAll {e : Effect} {cells : Cells} (h : e.HoldsIn cells) {later : List Effect}
    (hother : ∀ e' ∈ later, ¬ e'.Overrides e) : e.HoldsIn (applyAll later cells) := by
  induction later generalizing cells with
  | nil => exact h
  | cons e' later ih =>
    exact ih (h.apply (hother e' List.mem_cons_self)) fun x hx =>
      hother x (List.mem_cons_of_mem e' hx)

/-- What an answer says holds at the end, unless a later answer is about the same. -/
theorem holds_at_end {effects earlier later : List Effect} {e : Effect} (cells : Cells)
    (hsplit : effects = earlier ++ e :: later) (hother : ∀ e' ∈ later, ¬ e'.Overrides e) :
    e.HoldsIn (applyAll effects cells) := by
  subst hsplit
  rw [applyAll, List.foldl_append, List.foldl_cons]
  exact (holdsIn_apply e _).applyAll hother

end Effect

end TrafficControl

import TrafficControl.Entity.Repository
import TrafficControl.Proofs.Client.Outcome
import TrafficControl.Proofs.Client.Registry

/-!
# Gathering the objects of a listing

A repository gathers the objects of a listing in the order of its ids. An id that came up before is passed over,
an object that is held is kept, and for any other id the factory is called. Gathering ends with the first call
that fails.

* `newcomers`: the ids that are passed to the factory, unless it fails before.
* `makes_of_gather`, `stops_of_gather`: how gathering goes that goes well, and gathering that does not.
-/

namespace TrafficControl

namespace Repository

variable {σ : Type}

/-! ### Newcomers -/

/-- The listed ids that are not known, each of them once, in the order in which they first appear. -/
def newcomers (known : String → Bool) : List String → List String
  | [] => []
  | id :: ids =>
    if known id then newcomers known ids else id :: newcomers (fun x => x == id || known x) ids

theorem newcomers_of_known {known : String → Bool} {id : String} (h : known id = true)
    (ids : List String) : newcomers known (id :: ids) = newcomers known ids := by
  simp [newcomers, h]

theorem newcomers_of_new {known : String → Bool} {id : String} (h : known id = false)
    (ids : List String) :
    newcomers known (id :: ids) = id :: newcomers (fun x => x == id || known x) ids := by
  simp [newcomers, h]

theorem mem_newcomers {known : String → Bool} {listed : List String} {x : String} :
    x ∈ newcomers known listed ↔ x ∈ listed ∧ known x = false := by
  induction listed generalizing known with
  | nil => simp [newcomers]
  | cons id ids ih =>
    rcases hid : known id with _ | _
    · rw [newcomers_of_new hid, List.mem_cons, ih]
      by_cases hx : x = id <;> simp [hx, hid]
    · rw [newcomers_of_known hid, ih]
      by_cases hx : x = id <;> simp [hx, hid]

theorem nodup_newcomers (known : String → Bool) (listed : List String) :
    (newcomers known listed).Nodup := by
  induction listed generalizing known with
  | nil => exact List.nodup_nil
  | cons id ids ih =>
    rcases hid : known id with _ | _
    · rw [newcomers_of_new hid]
      refine List.nodup_cons.mpr ⟨fun hmem => ?_, ih _⟩
      simpa using (mem_newcomers.mp hmem).2
    · rw [newcomers_of_known hid]
      exact ih known

example : newcomers (· == "b") ["a", "b", "c", "a"] = ["a", "c"] := by decide

/-! ### What a factory makes -/

/-- `Makes factory c made c'`: between `c` and `c'` a factory was called for some ids in order, and nothing else
was done. It made an object for each. -/
inductive Makes (factory : String → Action σ Handle) : Client σ → List (String × Handle) → Client σ → Prop
  | nil (c : Client σ) : Makes factory c [] c
  | cons {c c₁ c' : Client σ} {id : String} {h : Handle} {made : List (String × Handle)}
      (first : factory id c = .ok h c₁) (rest : Makes factory c₁ made c') :
      Makes factory c ((id, h) :: made) c'

variable {factory : String → Action σ Handle} {c c' : Client σ}

/-- What no call of the factory changes is not changed. -/
theorem Makes.keeps {α : Type} {f : Client σ → α} (h : ∀ id c, f ((factory id).after c) = f c)
    {made : List (String × Handle)} (hmade : Makes factory c made c') : f c' = f c := by
  induction hmade with
  | nil c => rfl
  | @cons c c₁ c' id _ _ first _ ih =>
    rw [ih, ← h id c, Action.after_of_ok first]

/-! ### Objects found -/

/-- Whether an object for an id is held, or has been found. -/
def known (held found : Registry) (id : String) : Bool := held.contains id || found.contains id

variable {held found found' : Registry} {id : String} {ids : List String}

/-- The object for an id: the one held, or else the one that the factory makes. -/
def pick (factory : String → Action σ Handle) (held : Registry) (id : String) : Action σ Handle :=
  match held[id]? with
  | some h => pure h
  | none => factory id

theorem gather_of_new (hnew : ¬ found.contains id = true) :
    gather factory held (id :: ids) found =
      pick factory held id >>= fun h => gather factory held ids (found.insert id h) := by
  rw [gather, if_neg hnew]
  unfold pick
  cases held[id]? <;> rfl

theorem pick_of_held {h : Handle} (hheld : held[id]? = some h) :
    pick factory held id = (pure h : Action σ Handle) := by
  rw [pick, hheld]

theorem pick_of_new (hheld : held[id]? = none) : pick factory held id = factory id := by
  rw [pick, hheld]

theorem known_eq_false_iff : known held found id = false ↔ id ∉ held ∧ id ∉ found := by
  rw [known, Bool.or_eq_false_iff, ← Bool.not_eq_true, ← Bool.not_eq_true,
    Std.ExtTreeMap.contains_iff_mem, Std.ExtTreeMap.contains_iff_mem]

theorem known_insert (h : Handle) :
    known held (found.insert id h) = fun x => x == id || known held found x := by
  funext x
  rw [known, known, Registry.contains_insert, Bool.or_left_comm]

theorem known_insert_of_mem (hid : id ∈ held) (h : Handle) :
    known held (found.insert id h) = known held found := by
  rw [known_insert]
  funext x
  by_cases hx : x = id <;> simp [known, hx, hid]

/-- What has become of the objects found once those of some ids were gathered, for some of which they had to be
made. -/
structure Gathered (held : Registry) (ids : List String) (found : Registry)
    (made : List (String × Handle)) (found' : Registry) : Prop where
  newcomers_eq : made.map Prod.fst = newcomers (known held found) ids
  mem_iff : ∀ x, x ∈ found' ↔ x ∈ found ∨ x ∈ ids
  of_found : ∀ (x : String) (h : Handle), found[x]? = some h → found'[x]? = some h
  of_held : ∀ (x : String) (h : Handle), x ∈ ids → x ∉ found → held[x]? = some h → found'[x]? = some h
  of_made : ∀ x h, (x, h) ∈ made → found'[x]? = some h

namespace Gathered

variable {made : List (String × Handle)}

theorem nil (held found : Registry) : Gathered held [] found [] found :=
  ⟨rfl, by simp, fun _ _ h => h, by simp, by simp⟩

/-- An id that comes up again. -/
theorem again (h : Gathered held ids found made found') (hid : id ∈ found) :
    Gathered held (id :: ids) found made found' := by
  refine ⟨?_, fun x => ?_, h.of_found, fun x object hx hnew => ?_, h.of_made⟩
  · have hknown : known held found id = true := by simp [known, hid]
    rw [newcomers_of_known hknown, h.newcomers_eq]
  · rw [h.mem_iff x]
    by_cases hx : x = id <;> simp [hx, hid]
  · have hne : x ≠ id := fun heq => hnew (heq ▸ hid)
    exact h.of_held x object ((List.mem_cons.mp hx).resolve_left hne) hnew

/-- An id that is found by now was not found before. -/
theorem mem_iff_insert {object : Handle} (h : Gathered held ids (found.insert id object) made found')
    (x : String) : x ∈ found' ↔ x ∈ found ∨ x ∈ id :: ids := by
  rw [h.mem_iff x, Registry.mem_insert, List.mem_cons, or_left_comm, or_assoc]

theorem of_found_insert {object : Handle} (h : Gathered held ids (found.insert id object) made found')
    (hid : id ∉ found) (x : String) (before : Handle) (hx : found[x]? = some before) :
    found'[x]? = some before := by
  have hne : x ≠ id := fun heq => hid (heq ▸ Registry.mem_iff_exists.mpr ⟨before, hx⟩)
  exact h.of_found x before (by rw [Registry.getElem?_insert, if_neg hne, hx])

theorem of_inserted {object : Handle} (h : Gathered held ids (found.insert id object) made found') :
    found'[id]? = some object :=
  h.of_found id object (by rw [Registry.getElem?_insert, if_pos rfl])

theorem of_held_insert {object : Handle} (h : Gathered held ids (found.insert id object) made found')
    {x : String} (hne : x ≠ id) (before : Handle) (hx : x ∈ id :: ids) (hnew : x ∉ found)
    (hheld : held[x]? = some before) : found'[x]? = some before := by
  refine h.of_held x before ((List.mem_cons.mp hx).resolve_left hne) ?_ hheld
  rw [Registry.mem_insert]
  exact fun hmem => hmem.elim hne hnew

/-- An id for which an object is held. -/
theorem keep {object : Handle} (h : Gathered held ids (found.insert id object) made found')
    (hid : id ∉ found) (hheld : held[id]? = some object) :
    Gathered held (id :: ids) found made found' := by
  have hmem : id ∈ held := Registry.mem_iff_exists.mpr ⟨object, hheld⟩
  refine ⟨?_, h.mem_iff_insert, h.of_found_insert hid, fun x before hx hnew hbefore => ?_, h.of_made⟩
  · have hknown : known held found id = true := by simp [known, hmem]
    rw [newcomers_of_known hknown, h.newcomers_eq, known_insert_of_mem hmem]
  · by_cases hne : x = id
    · rw [hne, h.of_inserted, ← hheld, ← hne, hbefore]
    · exact h.of_held_insert hne before hx hnew hbefore

/-- An id for which an object is made. -/
theorem make {object : Handle} (h : Gathered held ids (found.insert id object) made found')
    (hid : id ∉ found) (hheld : held[id]? = none) :
    Gathered held (id :: ids) found ((id, object) :: made) found' := by
  refine ⟨?_, h.mem_iff_insert, h.of_found_insert hid, fun x before hx hnew hbefore => ?_, ?_⟩
  · have hknown := known_eq_false_iff.mpr ⟨getElem?_eq_none_iff held id |>.mp hheld, hid⟩
    rw [newcomers_of_new hknown, List.map_cons, h.newcomers_eq, known_insert]
  · have hne : x ≠ id := by
      rintro rfl
      cases hheld.symm.trans hbefore
    exact h.of_held_insert hne before hx hnew hbefore
  · intro x o hmem
    rcases List.mem_cons.mp hmem with heq | hmem
    · cases heq
      exact h.of_inserted
    · exact h.of_made x o hmem

end Gathered

/-! ### Gathering -/

/-- Gathering that goes well: the factory is passed the ids that are new, one after the other. -/
theorem makes_of_gather (h : gather factory held ids found c = .ok found' c') :
    ∃ made, Makes factory c made c' ∧ Gathered held ids found made found' := by
  induction ids generalizing found c with
  | nil =>
    cases h
    exact ⟨[], .nil _, .nil held _⟩
  | cons id ids ih =>
    by_cases hid : id ∈ found
    · rw [gather, if_pos (Std.ExtTreeMap.contains_iff_mem.mpr hid)] at h
      obtain ⟨made, hmade, hgathered⟩ := ih h
      exact ⟨made, hmade, hgathered.again hid⟩
    · rw [gather_of_new (mt Std.ExtTreeMap.contains_iff_mem.mp hid)] at h
      obtain ⟨object, c₁, hpick, hrest⟩ := EStateM.bind_eq_ok_iff.mp h
      obtain ⟨made, hmade, hgathered⟩ := ih hrest
      rcases hheld : held[id]? with _ | object'
      · rw [pick_of_new hheld] at hpick
        exact ⟨(id, object) :: made, .cons hpick hmade, hgathered.make hid hheld⟩
      · rw [pick_of_held hheld] at hpick
        cases hpick
        exact ⟨made, hmade, hgathered.keep hid hheld⟩

/-- Gathering that fails: the factory is passed the ids that are new, one after the other, and it fails at one of
them. It is not passed those that come after that one. -/
theorem stops_of_gather {e : ClientError} (h : gather factory held ids found c = .error e c') :
    ∃ made c₁ id later, Makes factory c made c₁ ∧ factory id c₁ = .error e c' ∧
      newcomers (known held found) ids = made.map Prod.fst ++ id :: later := by
  induction ids generalizing found c with
  | nil => cases h
  | cons id ids ih =>
    by_cases hid : id ∈ found
    · rw [gather, if_pos (Std.ExtTreeMap.contains_iff_mem.mpr hid)] at h
      have hknown : known held found id = true := by simp [known, hid]
      rw [newcomers_of_known hknown]
      exact ih h
    · rw [gather_of_new (mt Std.ExtTreeMap.contains_iff_mem.mp hid)] at h
      rcases hheld : held[id]? with _ | object'
      · have hknown := known_eq_false_iff.mpr ⟨(getElem?_eq_none_iff held id).mp hheld, hid⟩
        rw [newcomers_of_new hknown]
        rw [pick_of_new hheld] at h
        rcases EStateM.bind_eq_error_iff.mp h with hfails | ⟨object, c₁, hfirst, hrest⟩
        · exact ⟨[], c, id, _, .nil c, hfails, rfl⟩
        · obtain ⟨made, c₂, id', later, hmade, hfails, hnew⟩ := ih hrest
          refine ⟨(id, object) :: made, c₂, id', later, .cons hfirst hmade, hfails, ?_⟩
          rw [← known_insert object, hnew, List.map_cons, List.cons_append]
      · have hmem : id ∈ held := Registry.mem_iff_exists.mpr ⟨object', hheld⟩
        have hknown : known held found id = true := by simp [known, hmem]
        rw [pick_of_held hheld] at h
        rw [newcomers_of_known hknown, ← known_insert_of_mem hmem object']
        exact ih h

/-- Nothing has been found when gathering begins. -/
theorem known_empty (held : Registry) : known held ∅ = held.contains := by
  funext id
  simp [known]

end Repository

end TrafficControl

import TrafficControl.Proofs.Entity.Gathering
import TrafficControl.Proofs.Entity.VehicleRecord
import TrafficControl.Traffic.Simulation

/-!
# How a repository comes by its objects

Bringing the vehicle repository in line keeps the object that it holds for an id and asks for the
registered one only where it holds none. What the repository holds afterwards is therefore known from
the listing, from what it held, and from the registry (`ids_eq_ok`). Nothing else is touched, and a
listing that fails leaves the repository as it was.
-/

namespace TrafficControl

/-! ### What repositories hold -/

/-- The repositories hold what they held. -/
def Memory.SameHoldings (m m' : Memory) : Prop := m'.holdings = m.holdings

namespace Memory.SameHoldings

theorem lasting : Memory.Lasting SameHoldings :=
  ⟨⟨fun _ => rfl, fun h h' => h'.trans h, fun _ _ => rfl, fun _ _ _ => rfl⟩, fun _ _ => rfl⟩

theorem mapCells (f : Cells → Cells) (m : Memory) : SameHoldings m (m.mapCells f) := rfl

theorem setVehicle (h : Handle) (r : VehicleRecord) (m : Memory) :
    SameHoldings m (m.setVehicle h r) := rfl

theorem retire (v : Vehicle) (m : Memory) : SameHoldings m (v.retire m) := by
  rw [Vehicle.retire]
  exact (mapCells _ _).trans (setVehicle _ _ m)

theorem of_sameButCells {m m' : Memory} (h : SameButCells m m') : SameHoldings m m' := by
  unfold SameButCells at h
  rw [h]
  rfl

theorem holding_eq {m m' : Memory} (h : SameHoldings m m') (r : Handle) :
    m'.holding r = m.holding r := by
  unfold holding
  rw [show m'.holdings = m.holdings from h]

end Memory.SameHoldings

/-- Nothing is held by a repository that is not made yet. -/
def Memory.Tidy (m : Memory) : Prop := ∀ h, m.nextHandle ≤ h → m.holding h = ∅

theorem Memory.holding_setHolding (r : Handle) (objects : Registry) (m : Memory) :
    (m.setHolding r objects).holding r = objects := by
  unfold setHolding holding
  exact Std.ExtTreeMap.getD_insert_self

theorem Memory.holding_setHolding_of_ne {r r' : Handle} (h : r ≠ r') (objects : Registry)
    (m : Memory) : (m.setHolding r objects).holding r' = m.holding r' := by
  unfold setHolding holding
  rw [Std.ExtTreeMap.getD_insert, if_neg]
  exact fun heq => h (Std.LawfulEqCmp.compare_eq_iff_eq.mp heq)

namespace Repository

variable {σ : Type}

/-! ### Finding objects -/

variable {live held found found' : Registry} {ids : List String} {c c' : Client σ}

theorem vehicleFactory_eq_ok {id : String} {h : Handle}
    (hmade : Simulation.vehicleFactory live id c = .ok h c') : c' = c ∧ live[id]? = some h := by
  unfold Simulation.vehicleFactory at hmade
  rcases hlive : live[id]? with _ | object
  · rw [hlive] at hmade
    cases hmade
  · rw [hlive] at hmade
    cases hmade
    exact ⟨rfl, rfl⟩

theorem vehicleFactory_eq_error {id : String} {e : ClientError}
    (hfails : Simulation.vehicleFactory live id c = .error e c') : c' = c ∧ id ∉ live := by
  unfold Simulation.vehicleFactory at hfails
  rcases hlive : live[id]? with _ | object
  · rw [hlive] at hfails
    cases hfails
    exact ⟨rfl, (getElem?_eq_none_iff live id).mp hlive⟩
  · rw [hlive] at hfails
    cases hfails

/-- Whatever is made for vehicles are the registered objects. -/
theorem Makes.registered {made : List (String × Handle)}
    (hmade : Makes (Simulation.vehicleFactory live) c made c') :
    c' = c ∧ ∀ (x : String) (h : Handle), (x, h) ∈ made → live[x]? = some h := by
  induction hmade with
  | nil c => exact ⟨rfl, by simp⟩
  | cons first _ ih =>
    obtain ⟨rfl, hlive⟩ := vehicleFactory_eq_ok first
    obtain ⟨rfl, hrest⟩ := ih
    refine ⟨rfl, fun x h hmem => ?_⟩
    rcases List.mem_cons.mp hmem with heq | hmem
    · cases heq
      exact hlive
    · exact hrest x h hmem

/-- Gathering the objects of a listing touches nothing, and finds for every listed id the object held
or else the registered one. -/
theorem gather_eq_ok (h : gather (Simulation.vehicleFactory live) held ids found c = .ok found' c') :
    c' = c ∧ (∀ x ∈ ids, x ∈ found') ∧ ∀ x : String,
      found'[x]? = found[x]?.or (if x ∈ ids then held[x]?.or live[x]? else none) := by
  obtain ⟨made, hmade, hgathered⟩ := makes_of_gather h
  obtain ⟨rfl, hlive⟩ := hmade.registered
  refine ⟨rfl, fun x hx => (hgathered.mem_iff x).mpr (Or.inr hx), fun x => ?_⟩
  rcases hfound : found[x]? with _ | object
  · have hnew : x ∉ found := (getElem?_eq_none_iff found x).mp hfound
    rw [Option.none_or]
    split
    · next hx =>
      rcases hheld : held[x]? with _ | object
      · -- it is new, so an object was made for it
        have hknown := known_eq_false_iff.mpr ⟨(getElem?_eq_none_iff held x).mp hheld, hnew⟩
        have hmade : x ∈ made.map Prod.fst :=
          hgathered.newcomers_eq ▸ mem_newcomers.mpr ⟨hx, hknown⟩
        obtain ⟨⟨_, object⟩, hmem, rfl⟩ := List.mem_map.mp hmade
        rw [hgathered.of_made _ _ hmem, hlive _ _ hmem, Option.none_or]
      · exact hgathered.of_held x object hx hnew hheld
    · next hx =>
      refine (getElem?_eq_none_iff found' x).mpr fun hmem => ?_
      exact ((hgathered.mem_iff x).mp hmem).elim hnew hx
  · exact hgathered.of_found x object hfound

/-- Gathering objects fails only where a listed id is not registered, and touches nothing then. -/
theorem gather_eq_error {e : ClientError}
    (h : gather (Simulation.vehicleFactory live) held ids found c = .error e c') :
    c' = c ∧ ∃ id ∈ ids, id ∉ live := by
  obtain ⟨made, c₁, id, later, hmade, hfails, hnew⟩ := stops_of_gather h
  obtain ⟨rfl, -⟩ := hmade.registered
  obtain ⟨rfl, hlive⟩ := vehicleFactory_eq_error hfails
  have hmem : id ∈ newcomers (known held found) ids := by simp [hnew]
  exact ⟨rfl, id, (mem_newcomers.mp hmem).1, hlive⟩

/-! ### Listings -/

variable [Link σ] {r : Repository .vehicle}

/-- A listing that succeeds brings the repository in line. -/
theorem ids_eq_ok {listed : List String}
    (h : r.ids (Simulation.vehicleFactory live) c = .ok listed c') :
    ∃ m found, Memory.SameButCells c.memory m ∧ c'.memory = m.setHolding r.handle found ∧
      (∀ x ∈ listed, x ∈ found) ∧ ∀ x : String, found[x]? =
        if x ∈ listed then ((r.objects c.memory)[x]?).or live[x]? else none := by
  obtain ⟨ids, c₁, hids, h⟩ := EStateM.bind_eq_ok_iff.mp h
  obtain ⟨m, c₂, hm, h⟩ := EStateM.bind_eq_ok_iff.mp h
  obtain ⟨found, c₃, hgather, h⟩ := EStateM.bind_eq_ok_iff.mp h
  obtain ⟨_, c₄, hset, h⟩ := EStateM.bind_eq_ok_iff.mp h
  cases hm
  cases hset
  cases h
  have hcells := (ReadQuery.getAs_cellsOnly (List String) r.idList).of_ok hids
  obtain ⟨rfl, hall, hfound⟩ := gather_eq_ok hgather
  refine ⟨_, found, hcells, rfl, hall, fun x => ?_⟩
  rw [hfound x, Std.ExtTreeMap.getElem?_empty, Option.none_or, objects, objects,
    hcells.holding_eq r.handle]

/-- A listing that fails leaves the repository as it was. -/
theorem ids_eq_error {e : ClientError}
    (h : r.ids (Simulation.vehicleFactory live) c = .error e c') :
    Memory.SameButCells c.memory c'.memory := by
  rcases hids : r.idList.getAs (List String) c with ⟨listed, c₁⟩ | ⟨e', c₁⟩
  · have hcells := (ReadQuery.getAs_cellsOnly (List String) r.idList).of_ok hids
    rw [ids, EStateM.bind_of_ok hids, EStateM.bind_of_ok (x := Action.memory) rfl] at h
    rcases hgather : gather (Simulation.vehicleFactory live) (r.objects c₁.memory) listed ∅ c₁ with
      ⟨found, c₂⟩ | ⟨e', c₂⟩
    · rw [EStateM.bind_of_ok hgather] at h
      cases h
    · rw [EStateM.bind_of_error hgather] at h
      cases h
      obtain ⟨rfl, -⟩ := gather_eq_error hgather
      exact hcells
  · rw [ids, EStateM.bind_of_error hids] at h
    cases h
    exact (ReadQuery.getAs_cellsOnly (List String) r.idList).of_error hids

variable {k : Kind} {q : Repository k} {factory : String → Action σ Handle} {listed : List String}

theorem ids_of_gather {found : Registry} {c₁ c₂ : Client σ}
    (hread : q.idList.getAs (List String) c = .ok listed c₁)
    (hgather : gather factory (q.objects c₁.memory) listed ∅ c₁ = .ok found c₂) :
    q.ids factory c = .ok listed { c₂ with memory := c₂.memory.setHolding q.handle found } := by
  rw [ids, EStateM.bind_of_ok hread, EStateM.bind_of_ok (x := Action.memory) rfl,
    EStateM.bind_of_ok hgather]
  rfl

theorem ids_of_gather_error {e : ClientError} {c₁ c₂ : Client σ}
    (hread : q.idList.getAs (List String) c = .ok listed c₁)
    (hgather : gather factory (q.objects c₁.memory) listed ∅ c₁ = .error e c₂) :
    q.ids factory c = .error e c₂ := by
  rw [ids, EStateM.bind_of_ok hread, EStateM.bind_of_ok (x := Action.memory) rfl,
    EStateM.bind_of_error hgather]

theorem find?_of_ids (h : q.ids factory c = .ok listed c') (id : String) :
    q.find? factory id c = .ok ((q.objects c'.memory)[id]?.map (⟨·, id⟩)) c' := by
  have hdiscard : (discard (q.ids factory) : Action σ PUnit) c = .ok ⟨⟩ c' :=
    EStateM.map_of_ok (Function.const (List String) PUnit.unit) h
  rw [find?, EStateM.bind_of_ok hdiscard]
  rfl

theorem all_of_ids (h : q.ids factory c = .ok listed c') :
    q.all factory c = .ok ((q.objects c'.memory).toList.map fun (id, h) => ⟨h, id⟩) c' := by
  have hdiscard : (discard (q.ids factory) : Action σ PUnit) c = .ok ⟨⟩ c' :=
    EStateM.map_of_ok (Function.const (List String) PUnit.unit) h
  rw [all, EStateM.bind_of_ok hdiscard]
  rfl

theorem of_ids_error {e : ClientError} (h : q.ids factory c = .error e c') :
    (∀ id, q.find? factory id c = .error e c') ∧ q.all factory c = .error e c' := by
  have hdiscard : (discard (q.ids factory) : Action σ PUnit) c = .error e c' :=
    EStateM.map_eq_error_iff.mpr h
  exact ⟨fun id => EStateM.bind_of_error hdiscard, EStateM.bind_of_error hdiscard⟩

/-- Asking for one object is a listing, after which the object held is given. -/
theorem find?_eq_ok {id : String} {result : Option (Entity k)}
    (h : q.find? factory id c = .ok result c') :
    (∃ listed, q.ids factory c = .ok listed c') ∧
      result = (q.objects c'.memory)[id]?.map (⟨·, id⟩) := by
  obtain ⟨_, c₁, hids, h⟩ := EStateM.bind_eq_ok_iff.mp h
  obtain ⟨m, c₂, hm, h⟩ := EStateM.bind_eq_ok_iff.mp h
  cases hm
  cases h
  exact ⟨EStateM.discard_eq_ok hids, rfl⟩

/-- Asking for all objects is a listing, after which the objects held are given. -/
theorem all_eq_ok {entries : List (Entity k)} (h : q.all factory c = .ok entries c') :
    (∃ listed, q.ids factory c = .ok listed c') ∧
      entries = (q.objects c'.memory).toList.map fun (id, h) => ⟨h, id⟩ := by
  obtain ⟨_, c₁, hids, h⟩ := EStateM.bind_eq_ok_iff.mp h
  obtain ⟨m, c₂, hm, h⟩ := EStateM.bind_eq_ok_iff.mp h
  cases hm
  cases h
  exact ⟨EStateM.discard_eq_ok hids, rfl⟩

end Repository

end TrafficControl

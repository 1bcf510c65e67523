import TrafficControl.Proofs.Entity.Adoption
import TrafficControl.Proofs.Query.Fetching
import TrafficControl.Proofs.Traffic.Replies

/-!
# Repositories in line with what is listed

A sync reads the listing, has the factory make an object for each listed id that is new, and drops the objects
of ids that are not listed any more. It is the factory's own business whether it makes an object, and it may
decide otherwise each time. If the listing or one object fails, the repository holds what it held.

* `Synced`, `Stopped`: how a sync goes that goes well, and one that does not.
* `Course`: what may happen to a repository, with the syncs that went well.
* `in_line_with_listings`: single syncs, and all that happens to a repository.
-/

namespace TrafficControl

namespace Repository

variable {σ : Type} {k : Kind} {factory : String → Action σ Handle} {c c' : Client σ}

/-! ### Single syncs -/

/-- A factory that leaves alone what a repository holds, as it must: the repository is locked while it is
brought in line. -/
def Spares (r : Repository k) (factory : String → Action σ Handle) : Prop :=
  ∀ id c, r.objects ((factory id).after c).memory = r.objects c.memory

/-- A factory that makes no round trips. -/
def Offline (factory : String → Action σ Handle) : Prop :=
  ∀ id c, ((factory id).after c).link = c.link ∧ ((factory id).after c).roundTrips = c.roundTrips

theorem Makes.offline {made : List (String × Handle)} (hoffline : Offline factory)
    (h : Makes factory c made c') : c'.link = c.link ∧ c'.roundTrips = c.roundTrips :=
  ⟨h.keeps (f := Client.link) fun id c => (hoffline id c).1,
    h.keeps (f := Client.roundTrips) fun id c => (hoffline id c).2⟩

/-! The two factories there are leave alone what a repository holds, and make no round trips. -/

theorem spares_vehicleFactory (r : Repository k) (live : Registry) :
    r.Spares (Simulation.vehicleFactory live : String → Action σ Handle) := by
  intro id c
  unfold Simulation.vehicleFactory
  cases live[id]? <;> rfl

theorem offline_vehicleFactory (live : Registry) :
    Offline (Simulation.vehicleFactory live : String → Action σ Handle) := by
  intro id c
  unfold Simulation.vehicleFactory
  cases live[id]? <;> exact ⟨rfl, rfl⟩

theorem spares_entityFactory (r : Repository k) :
    r.Spares (Simulation.entityFactory : String → Action σ Handle) := fun _ _ => rfl

theorem offline_entityFactory :
    Offline (Simulation.entityFactory : String → Action σ Handle) := fun _ _ => ⟨rfl, rfl⟩

/-- A sync that went well: the listing, and the objects that were made for it. -/
structure Sync where
  listed : List String
  made : List (String × Handle)

variable [Link σ] {r : Repository k} {listed : List String} {e : ClientError} {s : Sync}

/-- How a listing is read. One that is remembered is given, and the client is left alone. -/
structure Lists (r : Repository k) (c : Client σ) (listed : List String) (c' : Client σ) : Prop where
  gives : r.idList.getAs (List String) c = .ok listed c'
  remembered : r.idList.cached? c'.memory.cells = some (.textList listed)
  still : (r.idList.cached? c.memory.cells).isSome → c' = c

theorem lists_of_getAs (h : r.idList.getAs (List String) c = .ok listed c') : r.Lists c listed c' := by
  obtain ⟨v, c₁, hget, hread⟩ := EStateM.bind_eq_ok_iff.mp h
  refine ⟨h, ?_, fun hsome => ?_⟩
  · rcases hv : (Readable.ofValue v : Except ClientError (List String)) with e | items
    · rw [hv] at hread
      cases hread
    · rw [hv] at hread
      cases hread
      rw [ReadQuery.cached_of_get hget]
      cases v with
      | textList items =>
        cases hv
        rfl
      | _ => cases hv
  · obtain ⟨v, hv⟩ := Option.isSome_iff_exists.mp hsome
    rw [← Action.after_of_ok h, ReadQuery.after_getAs, ReadQuery.after_get_of_cached hv]

/-- How a sync goes that goes well. The ids that are new are passed to the factory, each once, in the order in
which they first appear. The repository then holds objects for the listed ids and for no others: those that it
held, and those that the factory made. -/
structure Synced (r : Repository k) (factory : String → Action σ Handle) (c : Client σ) (s : Sync)
    (c' : Client σ) : Prop where
  gives : r.ids factory c = .ok s.listed c'
  course : ∃ c₁ c₂, r.Lists c s.listed c₁ ∧ Makes factory c₁ s.made c₂ ∧
    c' = { c₂ with memory := c₂.memory.setHolding r.handle (r.objects c'.memory) }
  passed : s.made.map Prod.fst = newcomers (r.objects c.memory).contains s.listed
  mem_iff : ∀ id, id ∈ r.objects c'.memory ↔ id ∈ s.listed
  kept : ∀ (id : String) (h : Handle), id ∈ s.listed → (r.objects c.memory)[id]? = some h →
    (r.objects c'.memory)[id]? = some h
  new : ∀ id h, (id, h) ∈ s.made → (r.objects c'.memory)[id]? = some h

theorem synced_of_ids (h : r.ids factory c = .ok listed c') :
    ∃ made, r.Synced factory c ⟨listed, made⟩ c' := by
  obtain ⟨ids, c₁, hread, h'⟩ := EStateM.bind_eq_ok_iff.mp h
  obtain ⟨m, _, hm, h'⟩ := EStateM.bind_eq_ok_iff.mp h'
  obtain ⟨found, c₂, hgather, h'⟩ := EStateM.bind_eq_ok_iff.mp h'
  obtain ⟨_, _, hset, h'⟩ := EStateM.bind_eq_ok_iff.mp h'
  cases hm
  cases hset
  cases h'
  obtain ⟨made, hmade, hgathered⟩ := makes_of_gather hgather
  have hbefore : r.objects c₁.memory = r.objects c.memory :=
    ((ReadQuery.getAs_cellsOnly (List String) r.idList).of_ok hread).holding_eq r.handle
  have hafter : r.objects (c₂.memory.setHolding r.handle found) = found :=
    Memory.holding_setHolding r.handle found c₂.memory
  rw [hbefore] at hgathered
  refine ⟨made, h, ⟨c₁, c₂, lists_of_getAs hread, hmade, ?_⟩, ?_, ?_, ?_, ?_⟩
  · rw [hafter]
  · rw [hgathered.newcomers_eq, known_empty]
  · intro id
    show id ∈ r.objects (c₂.memory.setHolding r.handle found) ↔ _
    rw [hafter, hgathered.mem_iff]
    simp
  · intro id object hid hheld
    show (r.objects (c₂.memory.setHolding r.handle found))[id]? = _
    rw [hafter]
    exact hgathered.of_held id object hid (by simp) hheld
  · intro id object hmem
    show (r.objects (c₂.memory.setHolding r.handle found))[id]? = _
    rw [hafter]
    exact hgathered.of_made id object hmem

/-- How a sync fails. -/
inductive Stopped (r : Repository k) (factory : String → Action σ Handle) (c : Client σ) (e : ClientError) :
    Client σ → Prop
  /-- There is no listing. -/
  | unlisted {c' : Client σ} (h : r.idList.getAs (List String) c = .error e c') : Stopped r factory c e c'
  /-- The factory fails at an id. Those that come after it are not passed to the factory. -/
  | refused {listed later : List String} {made : List (String × Handle)} {id : String}
      {c₁ c₂ c' : Client σ} (lists : r.Lists c listed c₁) (makes : Makes factory c₁ made c₂)
      (fails : factory id c₂ = .error e c')
      (passed : newcomers (r.objects c.memory).contains listed = made.map Prod.fst ++ id :: later) :
      Stopped r factory c e c'

theorem stopped_of_ids (h : r.ids factory c = .error e c') : r.Stopped factory c e c' := by
  rcases EStateM.bind_eq_error_iff.mp h with hread | ⟨listed, c₁, hread, h⟩
  · exact .unlisted hread
  rcases EStateM.bind_eq_error_iff.mp h with hm | ⟨m, _, hm, h⟩
  · cases hm
  cases hm
  rcases EStateM.bind_eq_error_iff.mp h with hgather | ⟨found, c₂, -, h⟩
  · obtain ⟨made, c₂, id, later, hmade, hfails, hnew⟩ := stops_of_gather hgather
    have hbefore : r.objects c₁.memory = r.objects c.memory :=
      ((ReadQuery.getAs_cellsOnly (List String) r.idList).of_ok hread).holding_eq r.handle
    rw [known_empty, hbefore] at hnew
    exact .refused (lists_of_getAs hread) hmade hfails hnew
  · cases h

/-- A sync that fails leaves what the repository holds. -/
theorem Stopped.objects_eq (hspares : r.Spares factory) (h : r.Stopped factory c e c') :
    r.objects c'.memory = r.objects c.memory := by
  have hread := ReadQuery.getAs_cellsOnly (σ := σ) (List String) r.idList
  cases h with
  | unlisted h => exact (hread.of_error h).holding_eq r.handle
  | @refused _ _ _ id _ c₂ _ lists makes fails passed =>
    have hmade := makes.keeps (f := fun c => r.objects c.memory) hspares
    have hfailed := hspares id c₂
    rw [Action.after_of_error fails] at hfailed
    rw [hfailed, hmade]
    exact (hread.of_ok lists.gives).holding_eq r.handle

/-- While the listing is remembered a sync makes no round trip, however it ends. -/
theorem offline_ids (hoffline : Offline factory) (hcached : (r.idList.cached? c.memory.cells).isSome) :
    ((r.ids factory).after c).link = c.link ∧ ((r.ids factory).after c).roundTrips = c.roundTrips := by
  rcases hids : r.ids factory c with ⟨listed, c'⟩ | ⟨e, c'⟩
  · rw [Action.after_of_ok hids]
    obtain ⟨made, hsynced⟩ := synced_of_ids hids
    obtain ⟨c₁, c₂, hlists, hmade, heq⟩ := hsynced.course
    obtain rfl := hlists.still hcached
    have hoff := hmade.offline hoffline
    rw [heq]
    exact hoff
  · rw [Action.after_of_error hids]
    cases stopped_of_ids hids with
    | unlisted h =>
      obtain ⟨v, hv⟩ := Option.isSome_iff_exists.mp hcached
      have hstill := ReadQuery.after_getAs (List String) r.idList c
      rw [ReadQuery.after_get_of_cached hv, Action.after_of_error h] at hstill
      rw [hstill]
      exact ⟨rfl, rfl⟩
    | @refused _ _ _ id c₁ c₂ _ lists makes fails passed =>
      obtain rfl := lists.still hcached
      have hfailed := hoffline id c₂
      rw [Action.after_of_error fails] at hfailed
      obtain ⟨hlink, htrips⟩ := makes.offline hoffline
      exact ⟨hfailed.1.trans hlink, hfailed.2.trans htrips⟩

/-! ### All that happens to a repository -/

/-- `Course r past c`: a repository was made, and by now its client has become `c`. The syncs that went well are
`past`, the last one first. Each sync may have a factory of its own, and asking for one object or for all is a
sync. What others do does not change what the repository holds. -/
inductive Course (r : Repository k) : List Sync → Client σ → Prop
  | made {c : Client σ} (empty : r.objects c.memory = ∅) : Course r [] c
  | synced {past : List Sync} {factory : String → Action σ Handle} {s : Sync} {c c' : Client σ}
      (course : Course r past c) (h : r.Synced factory c s c') : Course r (s :: past) c'
  | stopped {past : List Sync} {factory : String → Action σ Handle} {e : ClientError} {c c' : Client σ}
      (course : Course r past c) (spares : r.Spares factory) (h : r.ids factory c = .error e c') :
      Course r past c'
  /-- A step is passed on to the repository. -/
  | stepped {past : List Sync} {c : Client σ} (course : Course r past c) :
      Course r past { c with memory := r.nextStep c.memory }
  /-- The listing is put out of date. -/
  | outdated {past : List Sync} {c : Client σ} (course : Course r past c) :
      Course r past (r.idList.forget.after c)
  | elsewhere {past : List Sync} {c c' : Client σ} (course : Course r past c)
      (h : r.objects c'.memory = r.objects c.memory) : Course r past c'

/-- `MadeSince past id h`: an object was made for an id at some sync, and the id has been listed at every later
one. -/
def MadeSince (past : List Sync) (id : String) (h : Handle) : Prop :=
  ∃ later s earlier, past = later ++ s :: earlier ∧ (id, h) ∈ s.made ∧ ∀ s' ∈ later, id ∈ s'.listed

omit [Link σ] in
theorem madeSince_cons {past : List Sync} {id : String} {h : Handle} :
    MadeSince (s :: past) id h ↔ (id, h) ∈ s.made ∨ id ∈ s.listed ∧ MadeSince past id h := by
  constructor
  · rintro ⟨_ | ⟨s', later⟩, s₁, earlier, heq, hmade, hlisted⟩
    · cases heq
      exact Or.inl hmade
    · cases heq
      obtain ⟨hs, hlater⟩ := List.forall_mem_cons.mp hlisted
      exact Or.inr ⟨hs, later, s₁, earlier, rfl, hmade, hlater⟩
  · rintro (hmade | ⟨hs, later, s₁, earlier, rfl, hmade, hlater⟩)
    · exact ⟨[], s, past, rfl, hmade, by simp⟩
    · exact ⟨s :: later, s₁, earlier, rfl, hmade, List.forall_mem_cons.mpr ⟨hs, hlater⟩⟩

/-- After a sync an object that is held was made for it, or was held before. -/
theorem Synced.getElem?_eq_some_iff (h : r.Synced factory c s c') {id : String} {object : Handle} :
    (r.objects c'.memory)[id]? = some object ↔
      (id, object) ∈ s.made ∨ id ∈ s.listed ∧ (r.objects c.memory)[id]? = some object := by
  constructor
  · intro hobject
    have hlisted := (h.mem_iff id).mp (Registry.mem_iff_exists.mpr ⟨object, hobject⟩)
    rcases hbefore : (r.objects c.memory)[id]? with _ | before
    · have hnot := mt Std.ExtTreeMap.contains_iff_mem.mp ((getElem?_eq_none_iff _ id).mp hbefore)
      have hnew : id ∈ s.made.map Prod.fst := by
        rw [h.passed]
        exact mem_newcomers.mpr ⟨hlisted, Bool.eq_false_iff.mpr hnot⟩
      obtain ⟨⟨id', made⟩, hmem, rfl⟩ := List.mem_map.mp hnew
      cases (h.new id' made hmem).symm.trans hobject
      exact Or.inl hmem
    · exact Or.inr ⟨hlisted, (h.kept id before hlisted hbefore).symm.trans hobject⟩
  · rintro (hmade | ⟨hlisted, hbefore⟩)
    · exact h.new id object hmade
    · exact h.kept id object hlisted hbefore

/-- The repository holds the objects that were made since their ids have been listed without a break. -/
theorem Course.getElem?_eq_some_iff {past : List Sync} (course : r.Course past c) {id : String}
    {object : Handle} : (r.objects c.memory)[id]? = some object ↔ MadeSince past id object := by
  induction course with
  | made empty =>
    rw [empty]
    simp [MadeSince]
  | synced _ h ih => rw [h.getElem?_eq_some_iff, ih, madeSince_cons]
  | stopped _ spares h ih => rw [(stopped_of_ids h).objects_eq spares, ih]
  | stepped _ ih => exact ih
  | outdated _ ih => exact ih
  | elsewhere _ h ih => rw [h, ih]

/-- (1) A sync that goes well gives the listing. The ids that are new are passed to the factory, each once and in
the order in which they first appear, and the repository then holds objects for the listed ids alone: those that
it held and those that the factory made. An object is found for an id exactly if it is listed. (2) A sync that
fails leaves what the repository holds. Either there was no listing, or the factory has failed at an id, and then
no later one was passed to it. (3) While the listing is remembered no round trip is made. (4) Whatever happens,
the repository holds for an id the object that was made for it at the sync since which every listing names it. -/
theorem in_line_with_listings (r : Repository k) :
    (∀ (factory : String → Action σ Handle) (c c' : Client σ) (listed : List String),
      r.ids factory c = .ok listed c' →
      ∃ made, r.Synced factory c ⟨listed, made⟩ c' ∧ (made.map Prod.fst).Nodup ∧
        ∀ id, ∃ found, r.find? factory id c = .ok found c' ∧ (found.isSome = true ↔ id ∈ listed) ∧
          found = (r.objects c'.memory)[id]?.map (⟨·, id⟩)) ∧
    (∀ (factory : String → Action σ Handle) (c c' : Client σ) (e : ClientError), r.Spares factory →
      r.ids factory c = .error e c' →
      r.Stopped factory c e c' ∧ r.objects c'.memory = r.objects c.memory ∧
        ∀ id, r.find? factory id c = .error e c') ∧
    (∀ (factory : String → Action σ Handle) (c : Client σ), Offline factory →
      (r.idList.cached? c.memory.cells).isSome = true →
      ((r.ids factory).after c).link = c.link ∧ ((r.ids factory).after c).roundTrips = c.roundTrips) ∧
    ∀ (past : List Sync) (c : Client σ), r.Course past c →
      ∀ (id : String) (h : Handle), (r.objects c.memory)[id]? = some h ↔ MadeSince past id h := by
  refine ⟨fun factory c c' listed h => ?_, fun factory c c' e hspares h => ?_,
    fun factory c hoffline hcached => offline_ids hoffline hcached,
    fun past c course id h => course.getElem?_eq_some_iff⟩
  · obtain ⟨made, hsynced⟩ := synced_of_ids h
    refine ⟨made, hsynced, ?_, fun id => ⟨_, find?_of_ids h id, ?_, rfl⟩⟩
    · rw [hsynced.passed]
      exact nodup_newcomers _ _
    · rw [Option.isSome_map, ← Std.ExtTreeMap.mem_iff_isSome_getElem?]
      exact hsynced.mem_iff id
  · have hstopped := stopped_of_ids h
    exact ⟨hstopped, hstopped.objects_eq hspares, (of_ids_error h).1⟩

/-- Vehicle "v2" is listed before it is registered. The sync fails; once "v2" is registered the next one goes
well without a round trip. Vehicle "v1" has kept its object since it was first listed, and "v0" is gone. -/
theorem in_line_after_refusal :
    ∃ (r : Repository .vehicle) (early late : Registry) (c c₁ c₂ c₃ : Client Stream) (e : ClientError)
      (past : List Sync),
      r.ids (Simulation.vehicleFactory early) c = .ok ["v0", "v1", "v0"] c₁ ∧
      r.ids (Simulation.vehicleFactory early) (r.idList.forget.after c₁) = .error e c₂ ∧
      r.objects c₂.memory = r.objects c₁.memory ∧
      r.ids (Simulation.vehicleFactory late) c₂ = .ok ["v1", "v2"] c₃ ∧ c₃.link = c₂.link ∧
      r.Course past c₃ ∧ past.length = 2 ∧
      ∃ h h', (r.objects c₁.memory)["v1"]? = some h ∧ MadeSince past "v1" h ∧ MadeSince past "v2" h' ∧
        ¬ ∃ h, MadeSince past "v0" h := by
  let r : Repository .vehicle := ⟨0, "vehicle", true, false⟩
  let early : Registry := .ofList [("v0", 3), ("v1", 4)]
  let late : Registry := .ofList [("v0", 3), ("v1", 5), ("v2", 6)]
  let c : Client Stream := { link := .awaiting [[r.idList.container (.textList ["v0", "v1", "v0"])],
    [r.idList.container (.textList ["v1", "v2"])]] }
  have hplay : (r.ids (Simulation.vehicleFactory early)).succeedsWith (fun listed c₁ =>
      listed == ["v0", "v1", "v0"] && (r.ids (Simulation.vehicleFactory early)).failsWith (fun _ c₂ =>
        (r.idList.cached? c₂.memory.cells).isSome &&
          (r.ids (Simulation.vehicleFactory late)).succeedsWith (fun listed _ =>
            listed == ["v1", "v2"]) c₂) (r.idList.forget.after c₁)) c = true := by
    decide +kernel
  obtain ⟨listed, c₁, hfirst, htest⟩ := Action.of_succeedsWith hplay
  obtain ⟨hlisted, htest⟩ := Bool.and_eq_true_iff.mp htest
  obtain ⟨e, c₂, hsecond, htest⟩ := Action.of_failsWith htest
  obtain ⟨hcached, htest⟩ := Bool.and_eq_true_iff.mp htest
  obtain ⟨listed', c₃, hthird, hlisted'⟩ := Action.of_succeedsWith htest
  obtain rfl := beq_iff_eq.mp hlisted
  obtain rfl := beq_iff_eq.mp hlisted'
  obtain ⟨hgood, hbad, hstill, hcourse⟩ := in_line_with_listings (σ := Stream) r
  obtain ⟨made, hsynced, -, -⟩ := hgood _ _ _ _ hfirst
  obtain ⟨made', hsynced', -, -⟩ := hgood _ _ _ _ hthird
  have hspares := spares_vehicleFactory (σ := Stream) r early
  obtain ⟨-, hsame, -⟩ := hbad _ _ _ _ hspares hsecond
  replace hsame : r.objects c₂.memory = r.objects c₁.memory := hsame
  have hlink := (hstill _ c₂ (offline_vehicleFactory late) hcached).1
  rw [Action.after_of_ok hthird] at hlink
  have course : r.Course [⟨_, made'⟩, ⟨_, made⟩] c₃ :=
    .synced (.stopped (.outdated (.synced (.made rfl) hsynced)) hspares hsecond) hsynced'
  obtain ⟨h, hv1⟩ := Registry.mem_iff_exists.mp ((hsynced.mem_iff "v1").mpr (by simp))
  obtain ⟨h', hv2⟩ := Registry.mem_iff_exists.mp ((hsynced'.mem_iff "v2").mpr (by simp))
  have hkept := hsynced'.kept "v1" h (by simp) (hsame ▸ hv1)
  refine ⟨r, early, late, c, c₁, c₂, c₃, e, _, hfirst, hsecond, hsame, hthird, hlink, course, rfl, h, h',
    hv1, (hcourse _ _ course _ _).mp hkept, (hcourse _ _ course _ _).mp hv2, ?_⟩
  rintro ⟨gone, hgone⟩
  have hmem := Registry.mem_iff_exists.mpr ⟨gone, (hcourse _ _ course "v0" gone).mpr hgone⟩
  simpa using (hsynced'.mem_iff "v0").mp hmem

end Repository

end TrafficControl

import TrafficControl.Proofs.Protocol.Encodability
import TrafficControl.Proofs.Query.Coherence
import TrafficControl.Proofs.Query.Verdict

/-!
# Reads that can be asked for again

A read that remembers an answer was asked for once, in a batch that had a frame. Its command has not become
another one since, for a new parameter puts the answer out of date. So it still has a frame of its own.

* `Request.encode_of_mem`: commands that have a frame, and others that are no longer.
* `SlotRun.framed`: a read that remembers an answer can be asked for again.
-/

namespace TrafficControl

/-! ### Frames -/

namespace Command

theorem size_le_of_length_le {c c' : Command} (h : c.payload.length ≤ c'.payload.length) :
    c.size ≤ c'.size := by
  unfold size isLong
  by_cases hlong : 253 < c.payload.length
  · have hlong' : 253 < c'.payload.length := by omega
    simp only [hlong, hlong', decide_true, if_true]
    omega
  · simp only [hlong, decide_false, Bool.false_eq_true, if_false]
    split <;> omega

end Command

/-- If several commands have a frame, a command has one that is no longer than one of them. -/
theorem Request.encode_of_mem {commands : List Command} {frame : Bytes}
    (h : Request.encode commands = .ok frame) {c c' : Command} (hc : c ∈ commands)
    (hle : c'.payload.length ≤ c.payload.length) : ∃ frame', Request.encode [c'] = .ok frame' := by
  obtain ⟨before, after, rfl⟩ := List.append_of_mem hc
  have hfits := Request.exists_encode_iff.mp ⟨frame, h⟩
  have hframe : 4 + ((before ++ c :: after).map Command.size).sum ≤ 4294967295 :=
    hfits (.total _) (List.mem_append_right _ (List.mem_singleton_self _))
  rw [List.map_append, List.sum_append_nat, List.map_cons, List.sum_cons] at hframe
  have hsize := Command.size_le_of_length_le hle
  have hcounts : Request.counts [c'] = [.total c'.size, .total (4 + c'.size)] := rfl
  rw [Request.exists_encode_iff, hcounts, List.forall_mem_cons, List.forall_mem_singleton]
  simp only [Count.Fits, Count.size, Count.limit]
  omega

/-! ### Reads -/

namespace ReadQuery

/-- A read has a command, and that has a frame. -/
def Framed (q : ReadQuery) (cells : Cells) : Prop :=
  ∃ command frame, q.request cells = .ok command ∧ Request.encode [command] = .ok frame

theorem Framed.congr {q : ReadQuery} {cells cells' : Cells} (h : q.Framed cells)
    (hparameter : cells'.parameters[q.cell]? = cells.parameters[q.cell]?) : q.Framed cells' := by
  unfold Framed request at h ⊢
  rwa [hparameter]

end ReadQuery

/-! ### Batches -/

variable {σ : Type} [Link σ]

/-- A query of a batch that has a frame has one of its own, if it is a read. -/
theorem Sends.framed_of_mem {queries : List Query} (hlib : ∀ q ∈ queries, q.BuiltIn) {cells : Cells}
    {requests : List (List Command)} {frame : Bytes} (h : Sends cells queries requests frame)
    {q : ReadQuery} (hq : .read q ∈ queries) : q.Framed cells := by
  obtain ⟨place, hplace⟩ := List.mem_iff_getElem?.mp hq
  obtain ⟨command, hcommand, hrequests⟩ := h.made.command_at hlib hplace
  obtain ⟨command', hrequest, heq⟩ := Except.map_eq_ok_iff.mp hrequests
  cases heq
  obtain ⟨frame', hframe'⟩ :=
    Request.encode_of_mem h.framed (List.mem_of_getElem? hcommand) (Nat.le_refl _)
  exact ⟨command, frame', hrequest, hframe'⟩

variable {reads : Set ReadQuery} {history : List SlotEvent} {c : Client σ} {q : ReadQuery} {v : Value}

/-- However a batch ends, a read that remembers an answer remembered one before, or is one of the batch. In
either case it can be asked for again. -/
theorem ReadQuery.framed_of_dispatch {queries : List Query} (hlib : ∀ q ∈ queries, q.BuiltIn)
    (hreads : ∀ r, .read r ∈ queries → r.cell = q.cell → r = q)
    (hbefore : ∀ v, q.cached? c.memory.cells = some v → q.Framed c.memory.cells)
    (h : q.cached? ((Action.dispatch queries).after c).memory.cells = some v) :
    q.Framed ((Action.dispatch queries).after c).memory.cells := by
  have hframed : q.Framed c.memory.cells := by
    rw [Action.memory_of_dispatch hlib] at h
    rcases Effect.cached_of_applyAll h with hcached | hkept
    · exact hbefore v hcached
    · obtain ⟨requests, frame, containers, hsends, hfare⟩ := Action.effects_of_verdict hkept
      obtain ⟨r, hr, hcell⟩ := read_of_fare hfare
      obtain rfl := hreads r hr hcell
      exact hsends.framed_of_mem hlib hr
  rw [Action.memory_of_dispatch hlib]
  refine hframed.congr ?_
  exact congrArg (·[q.cell]?) (Effect.parameters_applyAll _ c.memory.cells)

theorem ReadQuery.framed_of_get {r : ReadQuery} (hreads : r.cell = q.cell → r = q)
    (hbefore : ∀ v, q.cached? c.memory.cells = some v → q.Framed c.memory.cells)
    (h : q.cached? (r.get.after c).memory.cells = some v) : q.Framed (r.get.after c).memory.cells := by
  rcases hcached : r.cached? c.memory.cells with _ | w
  · rw [after_get_of_empty hcached] at h ⊢
    refine framed_of_dispatch (List.forall_mem_singleton.mpr trivial) (fun r' hr' hcell => ?_) hbefore h
    obtain rfl : r' = r := by simpa using hr'
    exact hreads hcell
  · rw [after_get_of_cached hcached] at h ⊢
    exact hbefore v h

/-- Forgetting an answer leaves what can be asked for again. -/
theorem ReadQuery.framed_of_forget {cells : Cells} {cell : Cell}
    (hbefore : ∀ v, q.cached? cells = some v → q.Framed cells)
    (h : q.cached? (cells.forget cell) = some v) : q.Framed (cells.forget cell) := by
  replace h : (cells.forget cell).cached[q.cell]? = some v := h
  rw [Cells.cached_forget] at h
  split at h
  · cases h
  · exact (hbefore v h).congr rfl

/-- A parameter that counts as another one leaves nothing remembered. -/
theorem ReadQuery.framed_of_setParameter {cells : Cells} {cell : Cell} {w : Value}
    (hbefore : ∀ v, q.cached? cells = some v → q.Framed cells)
    (h : q.cached? (cells.setParameter cell w) = some v) : q.Framed (cells.setParameter cell w) := by
  rcases hsame : cells.parameters[cell]?.any (·.same w) with _ | _
  · replace h : (cells.setParameter cell w).cached[q.cell]? = some v := h
    rw [Cells.cached_setParameter hsame] at h
    split at h
    · cases h
    · next hne =>
      refine (hbefore v h).congr ?_
      rw [Cells.parameters_setParameter hsame, if_neg hne]
  · rw [Cells.setParameter_of_same hsame] at h ⊢
    exact hbefore v h

/-! ### Runs -/

/-- However reads with slots of their own have been used, one that remembers an answer can be asked for again. -/
theorem SlotRun.framed (hcells : Set.InjOn ReadQuery.cell reads) (h : SlotRun reads history c)
    (hq : q ∈ reads) (hv : q.cached? c.memory.cells = some v) : q.Framed c.memory.cells := by
  induction h generalizing v with
  | start h =>
    rw [(h q hq).2] at hv
    cases hv
  | elsewhere _ hcached hparameter ih =>
    rw [hcached q hq] at hv
    exact (ih hv).congr (hparameter q hq)
  | forget _ _ ih => exact ReadQuery.framed_of_forget (fun _ => ih) hv
  | nextStep _ _ _ ih => exact ReadQuery.framed_of_forget (fun _ => ih) hv
  | setParameter _ _ w ih => exact ReadQuery.framed_of_setParameter (fun _ => ih) hv
  | batch _ hlib hreads ih =>
    exact ReadQuery.framed_of_dispatch hlib (fun r hr hcell => hcells (hreads r hr) hq hcell)
      (fun _ => ih) hv
  | get _ hr ih => exact ReadQuery.framed_of_get (fun hcell => hcells hr hq hcell) (fun _ => ih) hv
  | getAs _ hr α ih =>
    rw [ReadQuery.after_getAs] at hv ⊢
    exact ReadQuery.framed_of_get (fun hcell => hcells hr hq hcell) (fun _ => ih) hv

end TrafficControl

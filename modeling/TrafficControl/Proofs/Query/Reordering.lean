import Mathlib.Data.List.Perm.Basic
import TrafficControl.Proofs.Query.Inversion

/-!
# Batches in another order

A batch hands containers out by their places. If its queries and the containers that come back are put
into another order, each query still gets its own container. Whether a batch succeeds depends on the
pairs of a query and its container alone, and what the pairs of a successful batch leave behind can be
remembered in any order, as long as no query of the batch puts a read of the batch out of date. So the
batch succeeds in one order if it does in the other, and with the same outcome (`dispatch_perm`).

* `Effect.apply_comm`: answers about different things are remembered in any order.
* `Frame.close_perm`: a frame around pieces in another order can be made, too.
* `Settled`, `dispatch_of_settled`, `settled_of_dispatch`: a batch succeeds exactly if every pair is
  settled.
-/

namespace TrafficControl

/-! ### Answers in another order -/

/-- Entries at different places of a table are made in any order. -/
theorem Table.insert_comm {α : Type} (t : Table α) {c d : Cell} (h : c ≠ d) (a b : α) :
    (t.insert c a).insert d b = (t.insert d b).insert c a := by
  refine Std.ExtTreeMap.ext_getElem? fun x => ?_
  simp only [Std.ExtTreeMap.getElem?_insert, Std.LawfulEqCmp.compare_eq_iff_eq]
  split <;> split <;> simp_all

namespace Cells

/-- What may be done before or after each single answer is forgotten may be done before or after all
of them are. -/
theorem forgetAll_of_forget {f : Cells → Cells} {cs : List Cell}
    (h : ∀ c ∈ cs, ∀ cells, (f cells).forget c = f (cells.forget c)) (cells : Cells) :
    (f cells).forgetAll cs = f (cells.forgetAll cs) := by
  induction cs generalizing cells with
  | nil => rfl
  | cons c cs ih =>
    show ((f cells).forget c).forgetAll cs = f ((cells.forget c).forgetAll cs)
    rw [h c List.mem_cons_self]
    exact ih (fun d hd => h d (List.mem_cons_of_mem c hd)) _

theorem forget_keep_comm {c d : Cell} (h : c ≠ d) (v : Value) (cells : Cells) :
    (cells.keep c v).forget d = (cells.forget d).keep c v := by
  have hcached : (cells.cached.insert c v).erase d = (cells.cached.erase d).insert c v := by
    refine Std.ExtTreeMap.ext_getElem? fun x => ?_
    simp only [Std.ExtTreeMap.getElem?_insert, Std.ExtTreeMap.getElem?_erase,
      Std.LawfulEqCmp.compare_eq_iff_eq]
    split <;> split <;> simp_all
  exact congrArg (fun cached => { cells with cached }) hcached

/-- Answers that are not the one kept are forgotten before or after it is kept. -/
theorem forgetAll_keep_comm {c : Cell} {cs : List Cell} (h : c ∉ cs) (v : Value) (cells : Cells) :
    (cells.keep c v).forgetAll cs = (cells.forgetAll cs).keep c v :=
  forgetAll_of_forget (f := (·.keep c v)) (fun _ hd cells =>
    forget_keep_comm (ne_of_mem_of_not_mem hd h).symm v cells) cells

end Cells

namespace Effect

/-- Answers about different things are remembered in any order. -/
theorem apply_comm {e e' : Effect} (h : ¬ e.Overrides e') (cells : Cells) :
    e'.apply (e.apply cells) = e.apply (e'.apply cells) := by
  cases e with
  | kept cell v =>
    cases e' with
    | kept cell' v' =>
      have hne : cell ≠ cell' := h
      exact congrArg (fun cached => { cells with cached }) (Table.insert_comm cells.cached hne v v')
    | outdated outdates =>
      have hnot : cell ∉ outdates := h
      exact Cells.forgetAll_keep_comm hnot v cells
    | stepped | identified | nothing => rfl
  | outdated outdates =>
    cases e' with
    | kept cell v =>
      have hnot : cell ∉ outdates := h
      exact (Cells.forgetAll_keep_comm hnot v cells).symm
    | outdated outdates' => exact cells.forgetAll_comm outdates outdates'
    | stepped cell answers =>
      exact (Cells.forgetAll_of_forget (f := (·.setAnswers cell answers)) (fun _ _ _ => rfl) cells).symm
    | identified cell version =>
      exact (Cells.forgetAll_of_forget (f := (·.setVersion cell version)) (fun _ _ _ => rfl) cells).symm
    | nothing => rfl
  | stepped cell answers =>
    cases e' with
    | stepped cell' answers' =>
      have hne : cell ≠ cell' := h
      exact congrArg (fun table => { cells with answers := table })
        (Table.insert_comm cells.answers hne answers answers')
    | outdated outdates =>
      exact Cells.forgetAll_of_forget (f := (·.setAnswers cell answers)) (fun _ _ _ => rfl) cells
    | kept | identified | nothing => rfl
  | identified cell version =>
    cases e' with
    | identified cell' version' =>
      have hne : cell ≠ cell' := h
      exact congrArg (fun versions => { cells with versions })
        (Table.insert_comm cells.versions hne version version')
    | outdated outdates =>
      exact Cells.forgetAll_of_forget (f := (·.setVersion cell version)) (fun _ _ _ => rfl) cells
    | kept | stepped | nothing => rfl
  | nothing => rfl

/-- Answers of which no two are about the same thing are remembered in any order. -/
theorem applyAll_perm {effects effects' : List Effect} (h : effects.Perm effects')
    (hother : effects.Pairwise fun e e' => ¬ e.Overrides e') (cells : Cells) :
    applyAll effects cells = applyAll effects' cells := by
  have hpairs : effects.Pairwise fun e e' => ∀ cells, e'.apply (e.apply cells) =
      e.apply (e'.apply cells) := hother.imp fun h => apply_comm h
  have hcomm := hpairs.forall_of_forall_of_flip (fun _ _ _ => rfl)
    (hpairs.imp fun h cells => (h cells).symm)
  exact h.foldl_eq' (fun e he e' he' cells => hcomm he he' cells) cells

end Effect

/-! ### Queries with nothing in common -/

namespace Query

/-- The queries remember their answers in different places. What a change or a close leaves behind is
not remembered in a place of its own. -/
def Distinct : Query → Query → Prop
  | .read q, .read r => q.cell ≠ r.cell
  | .step cell, .step cell' => cell ≠ cell'
  | .version cell, .version cell' => cell ≠ cell'
  | _, _ => True

theorem Distinct.symm {q r : Query} (h : q.Distinct r) : r.Distinct q := by
  cases q <;> cases r <;> first | exact trivial | exact Ne.symm h

/-- The first query is a change that puts the second one, a read, out of date. -/
def Outdates : Query → Query → Prop
  | .change r, .read q => q.cell ∈ r.outdates
  | _, _ => False

/-- `q.MayLeave e`: the query makes such an effect of some containers. -/
inductive MayLeave : Query → Effect → Prop
  | read (q : ReadQuery) (v : Value) : MayLeave (.read q) (.kept q.cell v)
  | change (q : ChangeQuery) : MayLeave (.change q) (.outdated q.outdates)
  | step (cell : Cell) (answers : List Command) : MayLeave (.step cell) (.stepped cell answers)
  | version (cell : Cell) (v : Int32 × String) : MayLeave (.version cell) (.identified cell v)
  | close : MayLeave .close .nothing
  | raw (cell : Cell) (commands : List Command) (takes : Nat) :
      MayLeave (.raw cell commands takes) .nothing

theorem mayLeave_of_effectOf {q : Query} {container : Container} {e : Effect}
    (h : q.effectOf container = .ok e) : q.MayLeave e := by
  cases q with
  | read q =>
    obtain ⟨v, -, rfl⟩ := Except.map_eq_ok_iff.mp h
    exact .read q v
  | change q =>
    obtain ⟨_, -, rfl⟩ := Except.map_eq_ok_iff.mp h
    exact .change q
  | step cell =>
    rw [effectOf] at h
    split at h
    · cases h
      exact .step cell _
    · cases h
  | version cell =>
    obtain ⟨v, -, rfl⟩ := Except.map_eq_ok_iff.mp h
    exact .version cell v
  | close =>
    cases h
    exact .close
  | raw cell commands takes =>
    cases h
    exact .raw cell commands takes

/-- Queries whose answers are about the same thing have something in common. -/
theorem MayLeave.common_of_overrides {q r : Query} {e e' : Effect} (hq : q.MayLeave e)
    (hr : r.MayLeave e') (h : e.Overrides e') : ¬ q.Distinct r ∨ q.Outdates r ∨ r.Outdates q := by
  cases hq <;> cases hr <;> simp_all [Effect.Overrides, Distinct, Outdates]

end Query

/-- Built-in queries and the containers at their places. No two of the queries remember their answers in
the same place, and none puts another one out of date. The containers have the shapes that their
statuses announce. -/
structure Independent (pairs : List (Query × Container)) : Prop where
  builtIn : ∀ p ∈ pairs, p.1.BuiltIn
  distinct : pairs.Pairwise fun p p' => p.1.Distinct p'.1
  kept : ∀ p ∈ pairs, ∀ p' ∈ pairs, ¬ p.1.Outdates p'.1
  shaped : ∀ p ∈ pairs, p.2.Shaped

theorem Independent.perm {pairs pairs' : List (Query × Container)} (h : Independent pairs)
    (hperm : pairs.Perm pairs') : Independent pairs' where
  builtIn p hp := h.builtIn p (hperm.mem_iff.mpr hp)
  distinct := hperm.pairwise h.distinct Query.Distinct.symm
  kept p hp p' hp' := h.kept p (hperm.mem_iff.mpr hp) p' (hperm.mem_iff.mpr hp')
  shaped p hp := h.shaped p (hperm.mem_iff.mpr hp)

/-! ### Frames in another order -/

/-- Pieces that can be written can be written in another order, and take as many bytes. -/
theorem Emission.concat_perm {pieces pieces' : List Emission} (h : pieces.Perm pieces')
    (hs : (concat pieces).stopped = none) :
    (concat pieces').stopped = none ∧ (concat pieces').bytes.length = (concat pieces).bytes.length := by
  induction h with
  | nil => exact ⟨hs, rfl⟩
  | @cons a pieces pieces' _ ih =>
    obtain ⟨ha, hmore⟩ := append_stopped_eq_none.mp (concat_cons a pieces ▸ hs)
    obtain ⟨hs', hlen⟩ := ih hmore
    rw [concat_cons, concat_cons, append_stopped_eq_none, append_bytes _ ha, append_bytes _ ha,
      List.length_append, List.length_append, hlen]
    exact ⟨⟨ha, hs'⟩, rfl⟩
  | swap a b pieces =>
    rw [concat_cons, concat_cons, append_stopped_eq_none, append_stopped_eq_none] at hs
    obtain ⟨hb, ha, hmore⟩ := hs
    simp only [concat_cons, append_stopped_eq_none, append_bytes _ ha, append_bytes _ hb,
      List.length_append]
    exact ⟨⟨ha, hb, hmore⟩, by omega⟩
  | trans _ _ ih ih' =>
    obtain ⟨hs', hlen⟩ := ih hs
    obtain ⟨hs'', hlen'⟩ := ih' hs'
    exact ⟨hs'', hlen'.trans hlen⟩

/-- A frame around pieces in another order can be made, too. -/
theorem Frame.close_perm {pieces pieces' : List Emission} (h : pieces.Perm pieces') {frame : Bytes}
    (hclose : close (.concat pieces) = .ok frame) : ∃ frame', close (.concat pieces') = .ok frame' := by
  obtain ⟨hs, hfits, -⟩ := close_eq_ok_iff.mp hclose
  obtain ⟨hs', hlen⟩ := Emission.concat_perm h hs
  exact ⟨_, close_eq_ok_iff.mpr ⟨hs', hlen ▸ hfits, rfl⟩⟩

/-! ### Pairs of a query and its container -/

/-- A query, the container that stands at its place, the command that the query sends, and what it
makes of the container, which acknowledges the command. -/
def Settled (cells : Cells) (p : Query × Container) (x : Command × Effect) : Prop :=
  p.1.requests cells = .ok [x.1] ∧ p.2.Acknowledges x.1 ∧ p.1.effectOf p.2 = .ok x.2

/-- Whatever it is sent, the link hands out the frame of these containers. -/
def Delivers {σ : Type} [Link σ] (link : σ) (containers : List Container) : Prop :=
  ∀ reply, Response.encode containers = .ok reply → ∀ request, ∃ after,
    Link.transact request link = .ok reply after

section

variable {cells : Cells} {pairs : List (Query × Container)} {settled : List (Command × Effect)}

theorem Settled.makes (h : List.Forall₂ (Settled cells) pairs settled) :
    Makes cells (pairs.map Prod.fst) ((settled.map Prod.fst).map ([·])) := by
  induction h with
  | nil => exact .nil
  | cons hp _ ih => exact .cons hp.1 ih

theorem Settled.acknowledges (h : List.Forall₂ (Settled cells) pairs settled) :
    List.Forall₂ Container.Acknowledges (pairs.map Prod.snd) (settled.map Prod.fst) := by
  induction h with
  | nil => exact .nil
  | cons hp _ ih => exact .cons hp.2.1 ih

theorem Settled.takes (h : List.Forall₂ (Settled cells) pairs settled) :
    Takes (pairs.map Prod.fst) (pairs.map Prod.snd) (settled.map Prod.snd) := by
  induction h with
  | nil => exact .nil
  | cons hp _ ih => exact .cons hp.2.2 ih

/-- Queries that make their commands, get containers that acknowledge these, and make something of
them, are settled with their containers. -/
theorem exists_settled {queries : List Query} {containers : List Container} {commands : List Command}
    {effects : List Effect}
    (hmade : List.Forall₂ (fun q command => q.requests cells = .ok [command]) queries commands)
    (hack : List.Forall₂ Container.Acknowledges containers commands)
    (htakes : Takes queries containers effects) :
    List.Forall₂ (Settled cells) (queries.zip containers) (commands.zip effects) := by
  induction htakes generalizing commands with
  | nil => cases hmade; exact .nil
  | cons heffect _ ih =>
    cases hmade with
    | cons hmade hmades =>
      cases hack with
      | cons hack hacks => exact .cons ⟨hmade, hack, heffect⟩ (ih hmades hacks)

theorem Settled.exists_pair (h : List.Forall₂ (Settled cells) pairs settled) :
    ∀ x ∈ settled, ∃ p ∈ pairs, Settled cells p x := by
  induction h with
  | nil => exact fun _ h => nomatch h
  | @cons p x _ _ hp _ ih =>
    intro y hy
    rcases List.mem_cons.mp hy with rfl | hy
    · exact ⟨p, List.mem_cons_self, hp⟩
    · obtain ⟨p', hp', hy⟩ := ih y hy
      exact ⟨p', List.mem_cons_of_mem p hp', hy⟩

/-- What queries that have nothing in common make of their containers is not about the same thing. -/
theorem Settled.not_overrides (h : List.Forall₂ (Settled cells) pairs settled)
    (hdistinct : pairs.Pairwise fun p p' => p.1.Distinct p'.1)
    (hkept : ∀ p ∈ pairs, ∀ p' ∈ pairs, ¬ p.1.Outdates p'.1) :
    (settled.map Prod.snd).Pairwise fun e e' => ¬ e.Overrides e' := by
  induction h with
  | nil => exact .nil
  | @cons p x pairs settled hp hs ih =>
    obtain ⟨hfirst, hdistinct⟩ := List.pairwise_cons.mp hdistinct
    refine List.pairwise_cons.mpr ⟨?_, ih hdistinct fun q hq r hr =>
      hkept q (List.mem_cons_of_mem _ hq) r (List.mem_cons_of_mem _ hr)⟩
    intro e' he' hoverrides
    obtain ⟨y, hy, rfl⟩ := List.mem_map.mp he'
    obtain ⟨p', hp', hp'y⟩ := exists_pair hs y hy
    rcases (Query.mayLeave_of_effectOf hp.2.2).common_of_overrides
      (Query.mayLeave_of_effectOf hp'y.2.2) hoverrides with hsame | hhook | hhook
    · exact hsame (hfirst p' hp')
    · exact hkept p List.mem_cons_self p' (List.mem_cons_of_mem _ hp') hhook
    · exact hkept p' (List.mem_cons_of_mem _ hp') p List.mem_cons_self hhook

/-! ### Batches -/

variable {σ : Type} [Link σ] {c c' d : Client σ} {reply : Bytes}

/-- A batch all of whose pairs are settled succeeds and remembers what its queries made of their
containers. -/
theorem dispatch_of_settled (hpairs : Independent pairs)
    (h : List.Forall₂ (Settled c.memory.cells) pairs settled) {frame : Bytes}
    (hframe : Request.encode (settled.map Prod.fst) = .ok frame)
    (hreply : Response.encode (pairs.map Prod.snd) = .ok reply)
    (hlink : Delivers c.link (pairs.map Prod.snd)) :
    ∃ d, Action.dispatch (pairs.map Prod.fst) c = .ok () d ∧
      d.memory = c.memory.mapCells (Effect.applyAll (settled.map Prod.snd)) := by
  have hflatten : ((settled.map Prod.fst).map ([·])).flatten = settled.map Prod.fst :=
    List.flatMap_def.symm.trans (List.flatMap_singleton' _)
  by_cases hempty : settled.map Prod.fst = []
  · obtain rfl : settled = [] := List.map_eq_nil_iff.mp hempty
    exact ⟨c, Action.dispatch_of_silent (Settled.makes h) rfl, rfl⟩
  · obtain ⟨link, htransact⟩ := hlink reply hreply frame
    have hlib : ∀ q ∈ pairs.map Prod.fst, q.BuiltIn := List.forall_mem_map.mpr hpairs.builtIn
    have hsends : Sends c.memory.cells (pairs.map Prod.fst) ((settled.map Prod.fst).map ([·])) frame :=
      ⟨Settled.makes h, hflatten.symm ▸ hempty, hflatten.symm ▸ hframe⟩
    have hgood : Acknowledged ((settled.map Prod.fst).map ([·])).flatten reply (pairs.map Prod.snd) :=
      ⟨Response.decode_encode hreply (List.forall_mem_map.mpr hpairs.shaped),
        hflatten.symm ▸ Settled.acknowledges h⟩
    have htake := takeAll_of_takes (Settled.takes h) hlib [] 0 c.memory.cells
    rw [List.append_nil] at htake
    have hdispatch := Action.dispatch_of_acknowledged hlib hsends htransact hgood
    rw [htake] at hdispatch
    exact ⟨_, hdispatch, rfl⟩

/-- All pairs of a batch that succeeds are settled. -/
theorem settled_of_dispatch (hpairs : Independent pairs)
    (hreply : Response.encode (pairs.map Prod.snd) = .ok reply)
    (hlink : Delivers c.link (pairs.map Prod.snd))
    (h : Action.dispatch (pairs.map Prod.fst) c = .ok () d) :
    ∃ settled frame, List.Forall₂ (Settled c.memory.cells) pairs settled ∧
      Request.encode (settled.map Prod.fst) = .ok frame := by
  have hlib : ∀ q ∈ pairs.map Prod.fst, q.BuiltIn := List.forall_mem_map.mpr hpairs.builtIn
  obtain ⟨way, hends⟩ := exists_endsBy hlib c
  rw [h] at hends
  cases hends with
  | empty hempty =>
    obtain rfl : pairs = [] := List.map_eq_nil_iff.mp hempty
    exact ⟨[], _, .nil, rfl⟩
  | @completed requests frame reply' link containers cells hsends htransact hgood hall =>
    obtain ⟨after, hdelivered⟩ := hlink reply hreply frame
    rw [hdelivered] at htransact
    cases htransact
    have hdecode := Response.decode_encode hreply (List.forall_mem_map.mpr hpairs.shaped)
    cases hdecode.symm.trans hgood.1
    obtain ⟨taken, effects, htaken, htakes, -⟩ := takes_of_takeAll hlib hall
    rw [List.append_nil] at htaken
    subst htaken
    have hsettled := exists_settled (hsends.made.forall₂_flatten hlib) hgood.2 htakes
    rw [List.zip_map', List.map_id'] at hsettled
    have hlen := (hsends.made.forall₂_flatten hlib).length_eq
    obtain ⟨hcontainers, heffects⟩ := htakes.length_eq
    refine ⟨_, frame, hsettled, ?_⟩
    rw [List.map_fst_zip (by omega)]
    exact hsends.framed

/-- A batch that succeeds does so in another order, too, and leaves the same behind. -/
theorem dispatch_perm_of_ok {pairs' : List (Query × Container)} (hperm : pairs.Perm pairs')
    (hpairs : Independent pairs) (hreply : Response.encode (pairs.map Prod.snd) = .ok reply)
    (hmemory : c'.memory = c.memory) (hlink : Delivers c.link (pairs.map Prod.snd))
    (hlink' : Delivers c'.link (pairs'.map Prod.snd))
    (h : Action.dispatch (pairs.map Prod.fst) c = .ok () d) :
    ∃ d', Action.dispatch (pairs'.map Prod.fst) c' = .ok () d' ∧ d'.memory = d.memory := by
  obtain ⟨settled, frame, hsettled, hframe⟩ := settled_of_dispatch hpairs hreply hlink h
  obtain ⟨settled', hsettled', hsame⟩ := List.perm_comp_forall₂ hperm.symm hsettled
  obtain ⟨frame', hframe'⟩ :=
    Frame.close_perm ((hsame.symm.map Prod.fst).map Command.emit) hframe
  obtain ⟨reply', hreply'⟩ := Frame.close_perm ((hperm.map Prod.snd).map Container.emit) hreply
  obtain ⟨d₁, hd₁, hmemory₁⟩ := dispatch_of_settled hpairs hsettled hframe hreply hlink
  obtain ⟨d', hd', hmemory'⟩ := dispatch_of_settled (hpairs.perm hperm) (hmemory.symm ▸ hsettled')
    hframe' hreply' hlink'
  cases h.symm.trans hd₁
  refine ⟨d', hd', ?_⟩
  rw [hmemory', hmemory₁, hmemory]
  have happly := Effect.applyAll_perm (hsame.map Prod.snd).symm
    (Settled.not_overrides hsettled hpairs.distinct hpairs.kept) c.memory.cells
  exact congrArg (fun cells => c.memory.mapCells fun _ => cells) happly.symm

end

/-! ### The theorem -/

/-- Independent queries meet containers whose frame can be made. In another order, together with their
containers, they succeed as a batch if and only if they do in the order given, whatever the containers
say; and if they do, everything is remembered in the same way. -/
theorem dispatch_perm {σ : Type} [Link σ] {pairs pairs' : List (Query × Container)}
    {c c' : Client σ} (hperm : pairs.Perm pairs') (hpairs : Independent pairs)
    (hencodes : ∃ reply, Response.encode (pairs.map Prod.snd) = .ok reply)
    (hmemory : c'.memory = c.memory) (hlink : Delivers c.link (pairs.map Prod.snd))
    (hlink' : Delivers c'.link (pairs'.map Prod.snd)) :
    ((∃ d, Action.dispatch (pairs.map Prod.fst) c = .ok () d) ↔
      ∃ d', Action.dispatch (pairs'.map Prod.fst) c' = .ok () d') ∧
    ∀ d d', Action.dispatch (pairs.map Prod.fst) c = .ok () d →
      Action.dispatch (pairs'.map Prod.fst) c' = .ok () d' → d'.memory = d.memory := by
  obtain ⟨reply, hreply⟩ := hencodes
  obtain ⟨reply', hreply'⟩ := Frame.close_perm ((hperm.map Prod.snd).map Container.emit) hreply
  refine ⟨⟨?_, ?_⟩, ?_⟩
  · rintro ⟨d, h⟩
    obtain ⟨d', hd', -⟩ := dispatch_perm_of_ok hperm hpairs hreply hmemory hlink hlink' h
    exact ⟨d', hd'⟩
  · rintro ⟨d', h⟩
    obtain ⟨d, hd, -⟩ := dispatch_perm_of_ok hperm.symm (hpairs.perm hperm) hreply' hmemory.symm
      hlink' hlink h
    exact ⟨d, hd⟩
  · intro d d' h h'
    obtain ⟨d₁, hd₁, hsame⟩ := dispatch_perm_of_ok hperm hpairs hreply hmemory hlink hlink' h
    cases h'.symm.trans hd₁
    exact hsame

/-! A read, a change that puts some other read out of date, a step and a close, forwards and backwards. -/

namespace Backwards

def speed : ReadQuery where
  cell := ⟨0, 0⟩
  command := Code.getVehicle
  object := "v0"
  code := Code.speed
  type := .double

def route : ChangeQuery where
  cell := ⟨0, 1⟩
  command := Code.setVehicle
  object := "v0"
  code := Code.changeTarget
  outdates := [⟨0, 9⟩]

def pairs : List (Query × Container) :=
  [(.read speed, .accepting ⟨Code.getVehicle, []⟩ (.single (speed.answer (.double ⟨1⟩))) ""),
    (.change route, .accepting ⟨Code.setVehicle, []⟩ .bare ""),
    (.step ⟨1, 0⟩, .accepting ⟨Code.simulationStep, []⟩ (.several []) ""),
    (.close, .accepting ⟨Code.close, []⟩ .bare "")]

def cells : Cells := (({} : Cells).setChange ⟨0, 1⟩ (.text "e1")).keep ⟨0, 9⟩ (.text "e0")

/-- A client whose link delivers the containers in their order. -/
def client (pairs : List (Query × Container)) : Client Stream where
  link := .awaiting [pairs.map Prod.snd]
  memory := { cells }

theorem independent : Independent pairs where
  builtIn := by decide
  distinct := by simp [pairs, Query.Distinct]
  kept := by simp [pairs, Query.Outdates, route, speed]
  shaped := by simp [pairs, Container.accepting, Container.Shaped]; decide

theorem delivers (pairs : List (Query × Container))
    (hfits : ∀ reply, Response.encode (pairs.map Prod.snd) = .ok reply →
      reply.length ≤ Stream.maxFrame) : Delivers (client pairs).link (pairs.map Prod.snd) := by
  intro reply hreply request
  obtain ⟨hheader, hle⟩ := Frame.value_take_of_close hreply
  have hin : (client pairs).link.inbound = reply ++ [] := by
    show ([pairs.map Prod.snd].map fun cs => (Response.encode cs).toOption.getD []).flatten = _
    rw [List.map_singleton, hreply, List.flatten_singleton, List.append_nil]
    rfl
  obtain ⟨after, hexchange, -⟩ := Stream.exchange_of_fluent (.awaiting _) request hin hheader hle
    (hfits reply hreply)
  exact ⟨after, hexchange⟩

end Backwards

open Backwards in
/-- Forwards and backwards the batch succeeds, keeps the same speed and puts the same route out of
date. -/
theorem dispatch_backwards :
    ∃ d d', Action.dispatch (pairs.map Prod.fst) (client pairs) = .ok () d ∧
      Action.dispatch (pairs.reverse.map Prod.fst) (client pairs.reverse) = .ok () d' ∧
      d'.memory = d.memory ∧ d.memory.cells.cached.contains ⟨0, 0⟩ = true ∧
      d.memory.cells.cached.contains ⟨0, 9⟩ = false := by
  have hperm : pairs.Perm pairs.reverse := (List.reverse_perm pairs).symm
  have hencodes : ∃ reply, Response.encode (pairs.map Prod.snd) = .ok reply := ⟨_, rfl⟩
  have hfits : ∀ reply, Response.encode (pairs.map Prod.snd) = .ok reply →
      reply.length ≤ Stream.maxFrame := by
    intro reply hreply
    cases hreply
    decide
  have hfits' : ∀ reply, Response.encode (pairs.reverse.map Prod.snd) = .ok reply →
      reply.length ≤ Stream.maxFrame := by
    intro reply hreply
    cases hreply
    decide
  have hmemory : (client pairs.reverse).memory = (client pairs).memory := rfl
  obtain ⟨hiff, hsame⟩ := dispatch_perm hperm independent hencodes hmemory (delivers pairs hfits)
    (delivers pairs.reverse hfits')
  have hplay : (Action.dispatch (pairs.map Prod.fst)).succeedsWith (fun _ d =>
      d.memory.cells.cached.contains ⟨0, 0⟩ && !d.memory.cells.cached.contains ⟨0, 9⟩)
      (client pairs) = true := by
    decide +kernel
  obtain ⟨_, d, hd, htest⟩ := Action.of_succeedsWith hplay
  obtain ⟨d', hd'⟩ := hiff.mp ⟨d, hd⟩
  simp only [Bool.and_eq_true, Bool.not_eq_true'] at htest
  exact ⟨d, d', hd, hd', hsame d d' hd hd', htest⟩

end TrafficControl

import TrafficControl.Proofs.Bytes.Takes

/-!
# Strides over the bytes

A reader goes over a byte string in strides: a primitive takes the bytes it needs, the next one starts
where it ended. `r.Walks c strides result` says that a reader does so from `c` and ends with `result`. It
can only end with a result, with a failure that is about the bytes it has taken, or before a stride for
which there are not enough bytes. So a walk does not leave the byte string (`Walks.stands`,
`Walks.stride_in`), what lacks bytes is its last stride (`Walks.underflow_iff`), and what it gives follows
from the bytes it took and from no fewer (`Walks.decodes`).
-/

namespace TrafficControl

variable {α β : Type}

/-! ### Places in a byte string -/

namespace Cursor

/-- The place in a byte string behind its first `pos` bytes. -/
def into (data : Bytes) (pos : Nat) : Cursor := ⟨data.drop pos, pos⟩

theorem into_append (front rest : Bytes) : into (front ++ rest) front.length = ⟨rest, front.length⟩ := by
  simp [into]

/-- A cursor is a place in a byte string: not behind its end, and with what follows left to read. -/
structure StandsIn (c : Cursor) (data : Bytes) : Prop where
  pos_le : c.pos ≤ data.length
  rest_eq : c.rest = data.drop c.pos

namespace StandsIn

variable {c : Cursor} {data : Bytes}

theorem eq_into (h : c.StandsIn data) : c = into data c.pos := by
  obtain ⟨rest, pos⟩ := c
  exact congrArg (Cursor.mk · pos) h.rest_eq

/-- The bytes left are those behind the place. -/
theorem remaining_eq (h : c.StandsIn data) : c.remaining = data.length - c.pos := by
  rw [remaining, h.rest_eq, List.length_drop]

theorem start (data : Bytes) : StandsIn ⟨data, 0⟩ data := ⟨Nat.zero_le _, rfl⟩

/-- Bytes that are there can be passed over. -/
theorem advance {n : Nat} (h : c.StandsIn data) (hn : n ≤ c.remaining) :
    StandsIn ⟨c.rest.drop n, c.pos + n⟩ data where
  pos_le := by
    have hpos := h.pos_le
    rw [h.remaining_eq] at hn
    show c.pos + n ≤ data.length
    omega
  rest_eq := by simp [h.rest_eq]

end StandsIn

end Cursor

/-! ### Walks -/

namespace Reader

/-- A stride over bytes: where it starts, and how many bytes it needs. -/
structure Stride where
  start : Nat
  needed : Nat
  deriving DecidableEq, Repr

/-- Run from `c`, a reader takes bytes stride by stride and then ends with `result`. -/
inductive Walks : Reader α → Cursor → List Stride → EStateM.Result FrameError Cursor α → Prop
  /-- It gives a result. -/
  | done (a : α) (c : Cursor) : Walks (pure a) c [] (.ok a c)
  /-- Something is wrong with what it has taken. -/
  | refused {e : FrameError} (he : ∀ needed remaining, e ≠ .underflow needed remaining) (c : Cursor) :
      Walks (throw e) c [] (.error e c)
  /-- There are not enough bytes for the next stride. -/
  | lacking {n : Nat} {f : Bytes → Reader α} {c : Cursor} (hlt : c.remaining < n) :
      Walks (take n >>= f) c [⟨c.pos, n⟩] (.error (.underflow n c.remaining) c)
  /-- It takes the bytes of the next stride, and they decide how it goes on. -/
  | taken {n : Nat} {f : Bytes → Reader α} {c : Cursor} {strides : List Stride}
      {result : EStateM.Result FrameError Cursor α} (hle : n ≤ c.remaining)
      (h : Walks (f (c.rest.take n)) ⟨c.rest.drop n, c.pos + n⟩ strides result) :
      Walks (take n >>= f) c (⟨c.pos, n⟩ :: strides) result

namespace Walks

variable {r : Reader α} {x : Reader β} {f : β → Reader α} {c c₁ : Cursor} {b : β} {e : FrameError}
  {strides strides' : List Stride} {result : EStateM.Result FrameError Cursor α}

/-- A walk ends as the reader does. -/
theorem eq (h : r.Walks c strides result) : r c = result := by
  induction h with
  | done a c => rfl
  | refused he c => rfl
  | lacking hlt => exact EStateM.bind_of_error (take_of_lt hlt)
  | taken hle _ ih =>
    rw [EStateM.bind_of_ok (take_of_le hle)]
    exact ih

/-! ### Readers put together -/

theorem bind_of_ok (hx : x.Walks c strides (.ok b c₁)) (hf : (f b).Walks c₁ strides' result) :
    (x >>= f).Walks c (strides ++ strides') result := by
  generalize hend : EStateM.Result.ok b c₁ = ending at hx
  induction hx with
  | done b' c =>
    cases hend
    rw [pure_bind]
    exact hf
  | refused => cases hend
  | lacking => cases hend
  | taken hle _ ih =>
    rw [bind_assoc]
    exact .taken hle (ih hend)

theorem bind_of_error (hx : x.Walks c strides (.error e c₁)) :
    (x >>= f).Walks c strides (.error e c₁) := by
  generalize hend : EStateM.Result.error e c₁ = ending at hx
  induction hx with
  | done => cases hend
  | refused he c =>
    cases hend
    show (throw e : Reader α).Walks c₁ [] (.error e c₁)
    exact .refused he c₁
  | lacking hlt =>
    cases hend
    rw [bind_assoc]
    exact .lacking hlt
  | taken hle _ ih =>
    rw [bind_assoc]
    exact .taken hle (ih hend)

/-- What follows a reader walks on from where the reader has ended. -/
theorem bind (hx : x.Walks c strides (x c))
    (hf : ∀ b c₁, x c = .ok b c₁ → ∃ strides', (f b).Walks c₁ strides' (f b c₁)) :
    ∃ strides', (x >>= f).Walks c strides' ((x >>= f) c) := by
  rcases hend : x c with ⟨b, c₁⟩ | ⟨e, c₁⟩
  · obtain ⟨strides', hrest⟩ := hf b c₁ hend
    rw [EStateM.bind_of_ok hend]
    exact ⟨_, bind_of_ok (hend ▸ hx) hrest⟩
  · rw [EStateM.bind_of_error hend]
    exact ⟨_, bind_of_error (hend ▸ hx)⟩

/-- What takes no bytes adds no stride. -/
theorem bind_still (hx : x.Walks c strides (x c)) (hf : ∀ b c₁, (f b).Walks c₁ [] (f b c₁)) :
    (x >>= f).Walks c strides ((x >>= f) c) := by
  rcases hend : x c with ⟨b, c₁⟩ | ⟨e, c₁⟩
  · rw [EStateM.bind_of_ok hend, ← List.append_nil strides]
    exact bind_of_ok (hend ▸ hx) (hf b c₁)
  · rw [EStateM.bind_of_error hend]
    exact bind_of_error (hend ▸ hx)

theorem map (g : β → α) (hx : x.Walks c strides (x c)) : (g <$> x).Walks c strides ((g <$> x) c) := by
  rw [map_eq_pure_bind]
  exact hx.bind_still fun b c₁ => .done (g b) c₁

/-! ### Primitives -/

theorem of_take (n : Nat) (c : Cursor) : (take n).Walks c [⟨c.pos, n⟩] (take n c) := by
  rw [← bind_pure (take n)]
  rcases Nat.lt_or_ge c.remaining n with hlt | hle
  · rw [EStateM.bind_of_error (take_of_lt hlt)]
    exact .lacking hlt
  · rw [EStateM.bind_of_ok (take_of_le hle)]
    exact .taken hle (.done _ _)

theorem byte_eq : byte = (·.headD 0) <$> take 1 := by
  funext c
  obtain ⟨rest, pos⟩ := c
  cases rest with
  | nil => rfl
  | cons b rest =>
    have hle : 1 ≤ (Cursor.mk (b :: rest) pos).remaining := Nat.succ_le_succ (Nat.zero_le _)
    rw [EStateM.map_of_ok _ (take_of_le hle)]
    rfl

theorem of_byte (c : Cursor) : byte.Walks c [⟨c.pos, 1⟩] (byte c) := by
  rw [byte_eq]
  exact (of_take 1 c).map _

theorem of_word (width : Nat) (c : Cursor) :
    (word width).Walks c [⟨c.pos, width⟩] (word width c) := (of_take width c).map _

theorem of_int32 (c : Cursor) : int32.Walks c [⟨c.pos, 4⟩] (int32 c) := ((of_word 4 c).map _).map _

/-- Whether a count is negative is seen after its bytes were taken. -/
theorem of_count (c : Cursor) : count.Walks c [⟨c.pos, 4⟩] (count c) := by
  refine (of_int32 c).bind_still fun n c₁ => ?_
  split
  · refine .refused ?_ c₁
    exact nofun
  · exact .done _ c₁

/-! ### Where walks go -/

variable {data : Bytes}

theorem pos_le (h : r.Walks c strides result) : c.pos ≤ result.final.pos := by
  induction h with
  | done a c => exact Nat.le_refl _
  | refused he c => exact Nat.le_refl _
  | lacking hlt => exact Nat.le_refl _
  | taken hle _ ih => exact Nat.le_trans (Nat.le_add_right _ _) ih

theorem remaining_le (h : r.Walks c strides result) : result.final.remaining ≤ c.remaining := by
  induction h with
  | done a c => exact Nat.le_refl _
  | refused he c => exact Nat.le_refl _
  | lacking hlt => exact Nat.le_refl _
  | taken hle _ ih =>
    refine Nat.le_trans ih ?_
    rw [Cursor.remaining, List.length_drop]
    exact Nat.sub_le _ _

/-- A walk stays in the byte string. -/
theorem stands (h : r.Walks c strides result) (hc : c.StandsIn data) :
    result.final.StandsIn data := by
  induction h with
  | done a c => exact hc
  | refused he c => exact hc
  | lacking hlt => exact hc
  | taken hle _ ih => exact ih (hc.advance hle)

/-- A stride is over bytes that are there and are then passed over, or it is what the reader fails
with, and where it is left. -/
theorem stride_cases (h : r.Walks c strides result) {s : Stride} (hs : s ∈ strides) :
    c.pos ≤ s.start ∧ (s.start + s.needed ≤ result.final.pos ∨
      result.final.pos = s.start ∧ result.final.remaining < s.needed ∧
        result = .error (.underflow s.needed result.final.remaining) result.final) := by
  induction h with
  | done => cases hs
  | refused => cases hs
  | lacking hlt =>
    obtain rfl := List.mem_singleton.mp hs
    exact ⟨Nat.le_refl _, .inr ⟨rfl, hlt, rfl⟩⟩
  | taken hle h ih =>
    rcases List.mem_cons.mp hs with rfl | hs
    · exact ⟨Nat.le_refl _, .inl h.pos_le⟩
    · obtain ⟨hstart, hcases⟩ := ih hs
      exact ⟨Nat.le_trans (Nat.le_add_right _ _) hstart, hcases⟩

/-- In terms of the byte string: a stride starts in it and does not lead out of it. -/
theorem stride_in (h : r.Walks c strides result) (hc : c.StandsIn data) {s : Stride}
    (hs : s ∈ strides) :
    c.pos ≤ s.start ∧ s.start ≤ data.length ∧ (s.start + s.needed ≤ result.final.pos ∨
      data.length < s.start + s.needed ∧
        result = .error (.underflow s.needed (data.length - s.start)) (.into data s.start)) := by
  have hend := h.stands hc
  have hle := hend.pos_le
  obtain ⟨hstart, hpassed | ⟨hpos, hlt, hresult⟩⟩ := h.stride_cases hs
  · exact ⟨hstart, by omega, .inl hpassed⟩
  · have hplace := hend.eq_into
    rw [hend.remaining_eq, hpos] at hlt hresult
    rw [hpos] at hle hplace
    refine ⟨hstart, hle, .inr ⟨by omega, ?_⟩⟩
    rw [← hplace]
    exact hresult

/-- What lacked bytes is the last stride. It is reported with the bytes it needed and those that are left
where it started, which is where the cursor stays. -/
theorem of_underflow {needed remaining : Nat} {c' : Cursor}
    (h : r.Walks c strides (.error (.underflow needed remaining) c')) :
    strides.getLast? = some ⟨c'.pos, needed⟩ ∧ remaining = c'.remaining ∧ remaining < needed := by
  generalize hend : EStateM.Result.error (FrameError.underflow needed remaining) c' = ending at h
  induction h with
  | done => cases hend
  | refused he c =>
    cases hend
    exact absurd rfl (he needed remaining)
  | lacking hlt =>
    cases hend
    exact ⟨rfl, rfl, hlt⟩
  | taken hle _ ih =>
    obtain ⟨hlast, hremaining⟩ := ih hend
    exact ⟨by simp [List.getLast?_cons, hlast], hremaining⟩

/-- A reader lacks bytes exactly if its last stride does. -/
theorem underflow_iff (h : r.Walks c strides result) (hc : c.StandsIn data) {needed remaining : Nat} :
    result = .error (.underflow needed remaining) result.final ↔
      strides.getLast? = some ⟨result.final.pos, needed⟩ ∧
        remaining = data.length - result.final.pos ∧ remaining < needed := by
  have hend := h.stands hc
  constructor
  · intro heq
    rw [heq] at h
    obtain ⟨hlast, hremaining, hlt⟩ := h.of_underflow
    exact ⟨hlast, hremaining.trans hend.remaining_eq, hlt⟩
  · rintro ⟨hlast, rfl, hlt⟩
    obtain ⟨-, -, hpassed | ⟨-, heq⟩⟩ := h.stride_in hc (List.mem_of_getLast? hlast)
    · -- a stride that ends where it starts needs nothing
      have hnothing : result.final.pos + needed ≤ result.final.pos := hpassed
      omega
    · rwa [← hend.eq_into] at heq

end Walks

/-! ### What follows from the bytes taken -/

/-- A reader gives `a` for just these bytes: it does so wherever they stand and whatever follows them, and
lacks bytes if it is given only some of them. -/
structure Decodes (r : Reader α) (bytes : Bytes) (a : α) : Prop where
  reads : r.Reads (.raw bytes) a
  lacks {part : Bytes} (hpart : part <+: bytes) (hne : part ≠ bytes) (pos : Nat) :
    ∃ needed remaining c, remaining < needed ∧ r ⟨part, pos⟩ = .error (.underflow needed remaining) c

namespace Decodes

theorem pure (a : α) : (Pure.pure a : Reader α).Decodes [] a where
  reads := .pure a
  lacks hpart hne := absurd (List.prefix_nil.mp hpart) hne

/-- Bytes in front are needed all, and then those behind them. -/
theorem take_bind {n : Nat} {f : Bytes → Reader α} {front bytes : Bytes} {a : α}
    (hfront : front.length = n) (h : (f front).Decodes bytes a) :
    (take n >>= f).Decodes (front ++ bytes) a where
  reads := by
    subst hfront
    exact (reads_take front).bind h.reads
  lacks {part} hpart hne pos := by
    subst hfront
    rcases Nat.lt_or_ge part.length front.length with hlt | hle
    · exact ⟨_, _, _, hlt, EStateM.bind_of_error (take_of_lt hlt)⟩
    · obtain ⟨part', rfl⟩ := List.prefix_of_prefix_length_le (List.prefix_append _ _) hpart hle
      have htake : take front.length ⟨front ++ part', pos⟩ = .ok front ⟨part', pos + front.length⟩ :=
        reads_take front rfl part' pos
      rw [EStateM.bind_of_ok htake]
      exact h.lacks ((List.prefix_append_right_inj front).mp hpart) (fun heq => hne (by rw [heq])) _

end Decodes

/-- The bytes decide wherever they stand in a byte string: neither what is before them matters, nor what
is behind them. -/
theorem Decodes.anywhere {r : Reader α} {bytes : Bytes} {a : α} (h : r.Decodes bytes a)
    (front back : Bytes) :
    r (.into (front ++ bytes ++ back) front.length) =
      .ok a (.into (front ++ bytes ++ back) (front.length + bytes.length)) := by
  have hstart : Cursor.into (front ++ bytes ++ back) front.length = ⟨bytes ++ back, front.length⟩ := by
    rw [List.append_assoc, Cursor.into_append]
  have hend := Cursor.into_append (front ++ bytes) back
  rw [List.length_append] at hend
  rw [hstart, hend]
  exact h.reads rfl back front.length

/-- What a walk gives follows from the bytes it went over. -/
theorem Walks.decodes {r : Reader α} {c c' : Cursor} {strides : List Stride} {a : α}
    (h : r.Walks c strides (.ok a c')) :
    ∃ bytes, c.Passes (.raw bytes) c' ∧ r.Decodes bytes a := by
  generalize hend : EStateM.Result.ok a c' = ending at h
  induction h with
  | done a c =>
    cases hend
    exact ⟨[], .nothing _, .pure _⟩
  | refused => cases hend
  | lacking => cases hend
  | taken hle _ ih =>
    obtain ⟨bytes, hpass, hdecodes⟩ := ih hend
    exact ⟨_, (takes_take _ (take_of_le hle)).append hpass, .take_bind (List.length_take_of_le hle) hdecodes⟩

end Reader

end TrafficControl

/-!
# Words as bytes, most significant byte first

Every multi-byte number of the protocol is written in network order. `Word.bytes` writes the low
bytes of a natural number and `Word.value` reads a byte string as a number; on strings of a fixed
width the two undo each other (`value_bytes`, `bytes_value`).
-/

namespace TrafficControl

-- Powers of natural numbers are those of the core library, whatever else is in scope.
attribute [local instance (high)] instPowNat

/-- A byte string. -/
abbrev Bytes := List UInt8

namespace Word

/-- The `width` low bytes of a number, the most significant first. -/
def bytes : Nat → Nat → Bytes
  | 0, _ => []
  | width + 1, n => UInt8.ofNat (n / 256 ^ width) :: bytes width n

/-- The number that a byte string spells in base 256. -/
def value (bs : Bytes) : Nat :=
  bs.foldl (fun n b => n * 256 + b.toNat) 0

@[simp] theorem length_bytes (width n : Nat) : (bytes width n).length = width := by
  induction width with
  | zero => rfl
  | succ width ih => simp [bytes, ih]

/-- Reading on from a number already read shifts that number by the bytes read. -/
theorem foldl_eq (bs : Bytes) (n : Nat) :
    bs.foldl (fun n b => n * 256 + b.toNat) n = n * 256 ^ bs.length + value bs := by
  induction bs generalizing n with
  | nil => simp [value]
  | cons b bs ih =>
    simp only [value, List.foldl_cons, List.length_cons]
    rw [ih, ih (0 * 256 + b.toNat), Nat.pow_succ]
    simp only [Nat.zero_mul, Nat.zero_add, Nat.add_mul]
    rw [Nat.mul_assoc, Nat.mul_comm 256 (256 ^ bs.length), Nat.add_assoc]

theorem value_cons (b : UInt8) (bs : Bytes) :
    value (b :: bs) = b.toNat * 256 ^ bs.length + value bs := by
  have h := foldl_eq bs (0 * 256 + b.toNat)
  simpa [value] using h

theorem value_lt (bs : Bytes) : value bs < 256 ^ bs.length := by
  induction bs with
  | nil => simp [value]
  | cons b bs ih =>
    rw [value_cons, List.length_cons, Nat.pow_succ]
    have hb : b.toNat + 1 ≤ 256 := b.toNat_lt
    have := Nat.mul_le_mul_right (256 ^ bs.length) hb
    rw [Nat.add_mul, Nat.one_mul] at this
    rw [Nat.mul_comm (256 ^ bs.length) 256]
    omega

theorem value_bytes_mod (width n : Nat) : value (bytes width n) = n % 256 ^ width := by
  induction width with
  | zero => simp [bytes, value, Nat.mod_one]
  | succ width ih =>
    have hbyte : (UInt8.ofNat (n / 256 ^ width)).toNat = n / 256 ^ width % 256 := by
      simp [UInt8.toNat_ofNat']
    rw [bytes, value_cons, ih, length_bytes, hbyte, Nat.pow_succ 256 width, Nat.mod_mul,
      Nat.mul_comm (256 ^ width), Nat.add_comm]

/-- A number that fits is read back from its bytes. -/
theorem value_bytes {width n : Nat} (h : n < 256 ^ width) : value (bytes width n) = n := by
  rw [value_bytes_mod, Nat.mod_eq_of_lt h]

/-- A byte string is written back from the number that it spells. -/
theorem bytes_value (bs : Bytes) (m : Nat) :
    bytes bs.length (m * 256 ^ bs.length + value bs) = bs := by
  induction bs generalizing m with
  | nil => rfl
  | cons b bs ih =>
    have hlt := value_lt bs
    have hpos : 0 < 256 ^ bs.length := Nat.pow_pos (by omega)
    have hsplit : m * 256 ^ (bs.length + 1) + (b.toNat * 256 ^ bs.length + value bs)
        = (m * 256 + b.toNat) * 256 ^ bs.length + value bs := by
      rw [Nat.pow_succ, Nat.add_mul, Nat.mul_assoc, Nat.mul_comm 256 (256 ^ bs.length),
        Nat.add_assoc]
    rw [value_cons, List.length_cons, hsplit, bytes, ih]
    congr 1
    rw [Nat.add_comm, Nat.add_mul_div_right _ _ hpos, Nat.div_eq_of_lt hlt, Nat.zero_add]
    apply UInt8.toNat_inj.mp
    rw [UInt8.toNat_ofNat']
    have := b.toNat_lt
    omega

end Word

end TrafficControl

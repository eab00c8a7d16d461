/-!
# Words in bytes

A report travels as a string of bytes, and every word in it is written least
significant byte first. This module holds the two halves of that rule: the
bytes of a word, and the word a string of bytes spells.

Taking words off the front of a byte string is the work of a `Reader`. A
reader *faults* when fewer bytes are left than it was asked for. A fault is not
a rejected datagram: it is a mistake of whoever asked without looking first, so
the decoders built on readers look first, and it is a theorem about each of
them that it never faults.
-/

namespace PeerTelemetry

-- Powers of numbers are the core library's own, whatever algebra is loaded besides.
attribute [local instance (high)] instPowNat

/-! ## The bytes of a word -/

/-- **The `n` low bytes of a number**, least significant first. -/
def littleEndian : Nat → Nat → List UInt8
  | 0, _ => []
  | n + 1, value => UInt8.ofNat value :: littleEndian n (value / 256)

/-- **The number a string of bytes spells**, least significant byte first. -/
def ofLittleEndian : List UInt8 → Nat
  | [] => 0
  | byte :: bytes => byte.toNat + 256 * ofLittleEndian bytes

@[simp] theorem length_littleEndian (n value : Nat) : (littleEndian n value).length = n := by
  induction n generalizing value with
  | zero => rfl
  | succ n ih => simp [littleEndian, ih]

/-- A string of `n` bytes spells a number below `256 ^ n`. -/
theorem ofLittleEndian_lt (bytes : List UInt8) :
    ofLittleEndian bytes < 256 ^ bytes.length := by
  induction bytes with
  | nil => simp [ofLittleEndian]
  | cons byte bytes ih =>
    have := byte.toNat_lt
    simp only [ofLittleEndian, List.length_cons, Nat.pow_succ]
    omega

/-- The bytes of a number spell it, reduced to the width they hold. -/
theorem ofLittleEndian_littleEndian (n value : Nat) :
    ofLittleEndian (littleEndian n value) = value % 256 ^ n := by
  induction n generalizing value with
  | zero => simp [littleEndian, ofLittleEndian, Nat.mod_one]
  | succ n ih =>
    have hpow : 256 ^ (n + 1) = 256 * 256 ^ n := by rw [Nat.pow_succ, Nat.mul_comm]
    rw [littleEndian, ofLittleEndian, ih, UInt8.toNat_ofNat', hpow, Nat.mod_mul]

/-- A string of bytes is the one spelling of its own number at its own width. -/
theorem littleEndian_ofLittleEndian (bytes : List UInt8) :
    littleEndian bytes.length (ofLittleEndian bytes) = bytes := by
  induction bytes with
  | nil => rfl
  | cons byte bytes ih =>
    have := byte.toNat_lt
    have hlow : UInt8.ofNat (byte.toNat + 256 * ofLittleEndian bytes) = byte := by
      apply UInt8.toNat_inj.mp
      rw [UInt8.toNat_ofNat']
      omega
    have hhigh : (byte.toNat + 256 * ofLittleEndian bytes) / 256 = ofLittleEndian bytes := by
      omega
    simp only [ofLittleEndian, List.length_cons, littleEndian, hlow, hhigh, ih]

/-! ## Readers -/

/-- **A reader** takes a value off the front of a byte string and leaves the
rest unread, or faults. -/
abbrev Reader := StateT (List UInt8) Option

namespace Reader

/-- The number of bytes not yet read. -/
def remaining : Reader Nat := fun bytes => some (bytes.length, bytes)

/-- The next `n` bytes; a fault when fewer are left. -/
def take (n : Nat) : Reader (List UInt8) := fun bytes =>
  if n ≤ bytes.length then some (bytes.take n, bytes.drop n) else none

/-- The next byte. -/
def byte : Reader UInt8 := fun
  | [] => none
  | byte :: bytes => some (byte, bytes)

/-- The next 16-bit word. -/
def word16 : Reader UInt16 := (fun bytes => UInt16.ofNat (ofLittleEndian bytes)) <$> take 2

/-- The next 32-bit word. -/
def word32 : Reader UInt32 := (fun bytes => UInt32.ofNat (ofLittleEndian bytes)) <$> take 4

/-- The next 64-bit word. -/
def word64 : Reader UInt64 := (fun bytes => UInt64.ofNat (ofLittleEndian bytes)) <$> take 8

/-- A difference that faults instead of going below zero. -/
def difference (m n : Nat) : Reader Nat := fun bytes =>
  if n ≤ m then some (m - n, bytes) else none

@[simp] theorem remaining_apply (bytes : List UInt8) :
    remaining bytes = some (bytes.length, bytes) := rfl

/-- Bytes put in front are the bytes taken. -/
@[simp] theorem take_append {n : Nat} {front : List UInt8} (rest : List UInt8)
    (h : front.length = n) : take n (front ++ rest) = some (front, rest) := by
  subst h
  simp [take]

theorem take_of_le {n : Nat} {bytes : List UInt8} (h : n ≤ bytes.length) :
    take n bytes = some (bytes.take n, bytes.drop n) := by
  simp [take, h]

theorem take_eq_none_iff {n : Nat} {bytes : List UInt8} :
    take n bytes = none ↔ bytes.length < n := by
  simp [take]

@[simp] theorem byte_cons (b : UInt8) (bytes : List UInt8) : byte (b :: bytes) = some (b, bytes) :=
  rfl

theorem word16_of_le {bytes : List UInt8} (h : 2 ≤ bytes.length) :
    word16 bytes = some (UInt16.ofNat (ofLittleEndian (bytes.take 2)), bytes.drop 2) := by
  simp [word16, Functor.map, StateT.map, take_of_le h]

theorem word32_of_le {bytes : List UInt8} (h : 4 ≤ bytes.length) :
    word32 bytes = some (UInt32.ofNat (ofLittleEndian (bytes.take 4)), bytes.drop 4) := by
  simp [word32, Functor.map, StateT.map, take_of_le h]

theorem word64_of_le {bytes : List UInt8} (h : 8 ≤ bytes.length) :
    word64 bytes = some (UInt64.ofNat (ofLittleEndian (bytes.take 8)), bytes.drop 8) := by
  simp [word64, Functor.map, StateT.map, take_of_le h]

/-- What follows a reader that does not fault reads on from where it stopped. -/
theorem bind_of_eq_some {α β : Type} {x : Reader α} {f : α → Reader β} {bytes rest : List UInt8}
    {a : α} (h : x bytes = some (a, rest)) : (x >>= f) bytes = f a rest := by
  simp [bind, StateT.bind, h]

@[simp] theorem difference_of_le {m n : Nat} (h : n ≤ m) (bytes : List UInt8) :
    difference m n bytes = some (m - n, bytes) := by
  simp [difference, h]

end Reader

end PeerTelemetry

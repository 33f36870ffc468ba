import Mathlib.Data.Nat.Digits.Lemmas
import PropertyGraph.TypeRef.KeyHash

/-!
# Short keys keep their bits

As long as the highest byte of the state is zero, a rotation by one byte only makes room for another
byte, and adding that byte carries nothing. A fresh hash has room for eight bytes. So what it shows
after at most eight bytes is the number that they denote, the least first, and keys of one length
are told apart.
-/
namespace PropertyGraph.KeyHash

/-- The number that bytes denote, the least byte first. -/
def number (bytes : List UInt8) : Nat :=
  Nat.ofDigits 256 (bytes.map (·.toNat))

/-- The eight bytes of a word, the least first. -/
def bytesOf (word : UInt64) : List UInt8 :=
  (List.range 8).map fun place => (word >>> UInt64.ofNat (8 * place)).toUInt8

/-- The hash takes the byte without loss. -/
structure Absorbs (hash : KeyHash) (byte : UInt8) : Prop where
  /-- The rotation moves every byte up by one place, and none around to the lowest. -/
  rotated : (rotateByte hash.state).toNat = 256 * hash.state.toNat
  /-- Where the byte has a bit, the rotated state has none, so that no bit is carried. -/
  apart : rotateByte hash.state &&& byte.toUInt64 = 0
  /-- The sum is no longer than a word. -/
  fits : (rotateByte hash.state).toNat + byte.toNat < 2 ^ 64

/-! ## One byte -/

/-- Where the highest byte is free, rotation multiplies by the size of a byte. -/
theorem toNat_rotateByte {word : UInt64} (room : word.toNat < 2 ^ 56) :
    (rotateByte word).toNat = 256 * word.toNat := by
  have up : (word <<< 8).toNat = 256 * word.toNat := by
    have bound : word.toNat * 2 ^ 8 < 2 ^ 64 := by omega
    rw [UInt64.toNat_shiftLeft, show (8 : UInt64).toNat % 64 = 8 from rfl, Nat.shiftLeft_eq,
      Nat.mod_eq_of_lt bound]
    omega
  have around : (word >>> 56).toNat = 0 := by
    rw [UInt64.toNat_shiftRight, show (56 : UInt64).toNat % 64 = 56 from rfl,
      Nat.shiftRight_eq_div_pow, Nat.div_eq_of_lt room]
  rw [rotateByte, UInt64.toNat_or, up, around, Nat.or_zero]

/-- A hash whose highest byte is zero takes any byte. -/
theorem absorbs_of_lt {hash : KeyHash} (room : hash.state.toNat < 2 ^ 56) (byte : UInt8) :
    hash.Absorbs byte := by
  have rotated := toNat_rotateByte room
  have small : byte.toNat < 2 ^ 8 := byte.toNat_lt
  refine ⟨rotated, ?_, by omega⟩
  rw [← UInt64.toNat_inj, UInt64.toNat_and, UInt8.toNat_toUInt64, rotated]
  -- A multiple of 256 has no bit among the lowest eight, and a byte has bits nowhere else.
  calc 256 * hash.state.toNat &&& byte.toNat
      = 256 * hash.state.toNat &&& ((2 ^ 8 - 1) &&& byte.toNat) := by
        rw [Nat.and_comm (2 ^ 8 - 1), Nat.and_two_pow_sub_one_eq_mod, Nat.mod_eq_of_lt small]
    _ = 256 * hash.state.toNat % 2 ^ 8 &&& byte.toNat := by
        rw [← Nat.and_assoc, Nat.and_two_pow_sub_one_eq_mod]
    _ = 0 := by
        rw [show 256 * hash.state.toNat % 2 ^ 8 = 0 from Nat.mul_mod_right 256 _, Nat.zero_and]

/-- What the hash shows after a byte that it takes without loss. -/
theorem Absorbs.toNat_addByte {hash : KeyHash} {byte : UInt8} (absorbs : hash.Absorbs byte) :
    (hash.addByte byte).state.toNat = byte.toNat + 256 * hash.state.toNat := by
  rw [addByte, UInt64.toNat_add, UInt8.toNat_toUInt64, Nat.mod_eq_of_lt absorbs.fits,
    absorbs.rotated, Nat.add_comm]

/-! ## Rows of bytes -/

/-- The first byte of a row is added last. -/
theorem write_cons (hash : KeyHash) (byte : UInt8) (bytes : List UInt8) :
    hash.write (byte :: bytes) = (hash.write bytes).addByte byte := by
  rw [write, write, List.reverse_cons, List.foldl_append, List.foldl_cons, List.foldl_nil]

/-- The first byte is the lowest. -/
theorem number_cons (byte : UInt8) (bytes : List UInt8) :
    number (byte :: bytes) = byte.toNat + 256 * number bytes := by
  rw [number, List.map_cons, Nat.ofDigits_cons, number]

/-- Bytes are digits. -/
theorem digit_lt {bytes : List UInt8} : ∀ digit ∈ bytes.map (·.toNat), digit < 256 := by
  intro digit among
  obtain ⟨byte, -, rfl⟩ := List.mem_map.1 among
  exact byte.toNat_lt

/-- A row of bytes denotes a number below the power of its length. -/
theorem number_lt (bytes : List UInt8) : number bytes < 256 ^ bytes.length := by
  simpa [number] using Nat.ofDigits_lt_base_pow_length (by decide) (@digit_lt bytes)

/-- Rows of one length that denote the same number are the same. -/
theorem eq_of_number_eq {bytes others : List UInt8} (lengths : bytes.length = others.length)
    (same : number bytes = number others) : bytes = others := by
  have digits : bytes.map (·.toNat) = others.map (·.toNat) :=
    Nat.ofDigits_inj_of_len_eq (by decide : 1 < 256) (by simpa using lengths) digit_lt digit_lt same
  exact List.map_injective_iff.2 (fun _ _ => UInt8.toNat_inj.1) digits

/-- Up to seven bytes leave the highest byte of the state zero. -/
theorem room_of_length {bytes : List UInt8} (short : bytes.length < 8) :
    number bytes < 2 ^ 56 :=
  calc number bytes < 256 ^ bytes.length := number_lt bytes
    _ ≤ 256 ^ 7 := Nat.pow_le_pow_right (by decide) (by omega)
    _ = 2 ^ 56 := by norm_num

/-- A fresh hash shows the number that the bytes denote. -/
theorem toNat_write {bytes : List UInt8} (short : bytes.length ≤ 8) :
    (write {} bytes).state.toNat = number bytes := by
  induction bytes with
  | nil => rfl
  | cons byte rest ih =>
    rw [List.length_cons] at short
    have before := ih (by omega)
    have room : (write {} rest).state.toNat < 2 ^ 56 := before ▸ room_of_length (by omega)
    rw [write_cons, (absorbs_of_lt room byte).toNat_addByte, before, number_cons]

/-- The lowest digits of a number denote what is left of it modulo a power of the base. -/
theorem ofDigits_range (value places : Nat) :
    Nat.ofDigits 256 ((List.range places).map fun place => value / 256 ^ place % 256) =
      value % 256 ^ places := by
  induction places with
  | zero => simp [Nat.mod_one]
  | succ places ih =>
    rw [List.range_succ, List.map_append, Nat.ofDigits_append, ih, Nat.mod_pow_succ]
    simp

/-- The bytes of a word denote its number. -/
theorem number_bytesOf (word : UInt64) : number (bytesOf word) = word.toNat := by
  have digits : (bytesOf word).map (·.toNat) =
      (List.range 8).map fun place => word.toNat / 256 ^ place % 256 := by
    rw [bytesOf, List.map_map]
    refine List.map_congr_left fun place among => ?_
    have bound : 8 * place < 64 := by
      have := List.mem_range.1 among
      omega
    have shift : (UInt64.ofNat (8 * place)).toNat % 64 = 8 * place := by
      rw [UInt64.toNat_ofNat']
      omega
    rw [Function.comp_apply, UInt64.toNat_toUInt8, UInt64.toNat_shiftRight, shift,
      Nat.shiftRight_eq_div_pow, Nat.pow_mul]
  rw [number, digits, ofDigits_range, Nat.mod_eq_of_lt]
  exact word.toNat_lt

/-- Up to eight bytes that are written at once to a fresh hash are kept as they are: the hash shows
the number that they denote, the least byte first, and takes each byte without loss. So the eight
bytes of a word do what the word does, and different rows of one length are told apart. -/
theorem write_keeps_bits :
    (∀ bytes : List UInt8, bytes.length ≤ 8 →
      (write {} bytes).state.toNat = number bytes ∧
      ∀ front byte back, bytes = front ++ byte :: back → (write {} back).Absorbs byte) ∧
    (∀ (word : UInt64) (hash : KeyHash), write {} (bytesOf word) = hash.writeWord word) ∧
    (∀ bytes others : List UInt8, bytes.length ≤ 8 → others.length = bytes.length →
      bytes ≠ others → (write {} bytes).state ≠ (write {} others).state) := by
  refine ⟨fun bytes short => ⟨toNat_write short, ?_⟩, fun word hash => ?_, ?_⟩
  · rintro front byte back rfl
    rw [List.length_append, List.length_cons] at short
    have shown : (write {} back).state.toNat = number back := toNat_write (by omega)
    exact absorbs_of_lt (shown ▸ room_of_length (by omega)) byte
  · have shown : (write {} (bytesOf word)).state = word := by
      rw [← UInt64.toNat_inj, toNat_write (by simp [bytesOf]), number_bytesOf]
    exact congrArg mk shown
  · intro bytes others short lengths different same
    refine different (eq_of_number_eq lengths.symm ?_)
    rw [← toNat_write short, ← toNat_write (lengths ▸ short), same]

/-- A highest byte is kept in its place, and two bytes that change places are told apart. -/
theorem write_keeps_bits_of_highest :
    (write {} [255, 0, 0, 0, 0, 0, 0, 128]).state = 0x80000000000000ff ∧
    (write {} [0, 0, 0, 0, 0, 0, 128]).Absorbs 255 ∧
    (write {} [0, 1]).state ≠ (write {} [1, 0]).state := by
  obtain ⟨shows, -, differ⟩ := write_keeps_bits
  obtain ⟨shown, absorbs⟩ := shows [255, 0, 0, 0, 0, 0, 0, 128] (by decide)
  refine ⟨?_, absorbs [] 255 _ rfl, differ [0, 1] [1, 0] (by decide) rfl (by decide)⟩
  rw [← UInt64.toNat_inj, shown]
  rfl

end PropertyGraph.KeyHash

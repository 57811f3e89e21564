import Mathlib.Data.List.Basic
import Mathlib.Tactic.Ring

set_option autoImplicit false

namespace RingServer.Library

-- Least significant byte first; bits above the width are dropped.
def leBytes : Nat → Nat → List UInt8
  | 0, _ => []
  | count + 1, value => UInt8.ofNat value :: leBytes count (value / 256)

def leValue : List UInt8 → Nat
  | [] => 0
  | byte :: rest => byte.toNat + 256 * leValue rest

@[simp] theorem le_bytes_length (count value : Nat) : (leBytes count value).length = count := by
  induction count generalizing value with
  | zero => rfl
  | succ count ih => simp [leBytes, ih]

theorem le_value_bytes (count value : Nat) (small : value < 256 ^ count) : leValue (leBytes count value) = value := by
  induction count generalizing value with
  | zero =>
      have zero : value = 0 := by simpa using small
      simp [leBytes, leValue, zero]
  | succ count ih =>
      have rest : value / 256 < 256 ^ count := by
        rw [Nat.pow_succ] at small
        omega
      have low : (UInt8.ofNat value).toNat = value % 256 := by simp
      rw [leBytes, leValue, ih (value / 256) rest, low]
      omega

theorem int64_add_small (a b : Int64) (low : -2 ^ 63 ≤ a.toInt + b.toInt) (high : a.toInt + b.toInt < 2 ^ 63) :
    (a + b).toInt = a.toInt + b.toInt := by
  rw [Int64.toInt_add]
  exact Int.bmod_eq_of_le (by omega) (by omega)

theorem int64_sub_small (a b : Int64) (low : -2 ^ 63 ≤ a.toInt - b.toInt) (high : a.toInt - b.toInt < 2 ^ 63) :
    (a - b).toInt = a.toInt - b.toInt := by
  rw [Int64.toInt_sub]
  exact Int.bmod_eq_of_le (by omega) (by omega)

theorem int32_add_small (a b : Int32) (low : -2 ^ 31 ≤ a.toInt + b.toInt) (high : a.toInt + b.toInt < 2 ^ 31) :
    (a + b).toInt = a.toInt + b.toInt := by
  rw [Int32.toInt_add]
  exact Int.bmod_eq_of_le (by omega) (by omega)

theorem int32_sub_small (a b : Int32) (low : -2 ^ 31 ≤ a.toInt - b.toInt) (high : a.toInt - b.toInt < 2 ^ 31) :
    (a - b).toInt = a.toInt - b.toInt := by
  rw [Int32.toInt_sub]
  exact Int.bmod_eq_of_le (by omega) (by omega)

theorem tdiv_split (n k : Int) : n.tdiv k = if 0 ≤ n then n / k else -(-n / k) := by
  split
  · next nonneg => exact Int.tdiv_eq_ediv_of_nonneg nonneg
  · have nonneg : 0 ≤ -n := by omega
    have opposite := Int.neg_tdiv (-n) k
    have floor : (-n).tdiv k = -n / k := Int.tdiv_eq_ediv_of_nonneg nonneg
    rwa [Int.neg_neg, floor] at opposite

theorem uint32_to_int64 (value : UInt32) : value.toUInt64.toInt64.toInt = value.toNat := by
  have small : value.toUInt64.toNat < 2 ^ 63 := by
    have bound := value.toNat_lt
    rw [UInt32.toNat_toUInt64]
    omega
  have cast : value.toUInt64.toInt64 = Int64.ofNat value.toUInt64.toNat := by
    rw [← UInt64.toInt64_ofNat', UInt64.ofNat_toNat]
  rw [cast, Int64.toInt_ofNat_of_lt small, UInt32.toNat_toUInt64]

theorem int64_to_int32 (n : Nat) (small : n < 2 ^ 31) : (Int64.ofNat n).toInt32.toInt = n := by
  rw [Int64.toInt32_ofNat', Int32.toInt_ofNat_of_lt small]

structure Buffer where
  length : Nat
  byte : Nat → UInt8

namespace Buffer

def slice (buffer : Buffer) (start count : Nat) : List UInt8 := (List.range count).map fun i => buffer.byte (start + i)

def blit (buffer : Buffer) (start : Nat) (bytes : List UInt8) : Buffer :=
  { buffer with
    byte := fun i => if start ≤ i ∧ i < start + bytes.length then bytes.getD (i - start) 0 else buffer.byte i }

@[simp] theorem slice_length (buffer : Buffer) (start count : Nat) : (buffer.slice start count).length = count := by
  simp [slice]

@[simp] theorem blit_length (buffer : Buffer) (start : Nat) (bytes : List UInt8) :
    (buffer.blit start bytes).length = buffer.length := rfl

theorem slice_get (buffer : Buffer) (start count i : Nat) (inside : i < count) :
    (buffer.slice start count)[i]? = some (buffer.byte (start + i)) := by
  simp [slice, inside]

theorem slice_congr (buffer buffer' : Buffer) (start count : Nat)
    (same : ∀ i, i < count → buffer'.byte (start + i) = buffer.byte (start + i)) :
    buffer'.slice start count = buffer.slice start count := by
  apply List.map_congr_left
  intro i member
  exact same i (List.mem_range.mp member)

theorem slice_append (buffer : Buffer) (start first second : Nat) :
    buffer.slice start (first + second) = buffer.slice start first ++ buffer.slice (start + first) second := by
  simp only [slice, List.range_add, List.map_append, List.map_map]
  congr 1
  apply List.map_congr_left
  intro i _
  simp [Nat.add_assoc]

theorem slice_blit_same (buffer : Buffer) (start : Nat) (bytes : List UInt8) :
    (buffer.blit start bytes).slice start bytes.length = bytes := by
  apply List.ext_getElem?
  intro i
  by_cases inside : i < bytes.length
  · rw [slice_get _ _ _ _ inside]
    simp [blit, inside]
  · rw [List.getElem?_eq_none (by simpa using inside), List.getElem?_eq_none (by simpa using inside)]

theorem slice_blit_apart (buffer : Buffer) (start other count : Nat) (bytes : List UInt8)
    (apart : other + count ≤ start ∨ start + bytes.length ≤ other) :
    (buffer.blit start bytes).slice other count = buffer.slice other count := by
  apply slice_congr
  intro i inside
  have outside : ¬ (start ≤ other + i ∧ other + i < start + bytes.length) := by omega
  simp [blit, outside]

theorem slice_take (buffer : Buffer) (start count part : Nat) (inside : part ≤ count) :
    (buffer.slice start count).take part = buffer.slice start part := by
  obtain ⟨rest, rfl⟩ := Nat.exists_eq_add_of_le inside
  rw [slice_append, List.take_left' (by simp)]

theorem slice_drop (buffer : Buffer) (start count part : Nat) (inside : part ≤ count) :
    (buffer.slice start count).drop part = buffer.slice (start + part) (count - part) := by
  obtain ⟨rest, rfl⟩ := Nat.exists_eq_add_of_le inside
  rw [slice_append, List.drop_left' (by simp)]
  simp

theorem slice_part (buffer : Buffer) (start count skip part : Nat) (bytes : List UInt8)
    (known : buffer.slice start count = bytes) (inside : skip + part ≤ count) :
    buffer.slice (start + skip) part = (bytes.drop skip).take part := by
  rw [← known, slice_drop _ _ _ _ (by omega), slice_take _ _ _ _ (by omega)]

end Buffer

def readAll {α β : Type} (read : List α → Option (β × List α)) : Nat → List α → Option (List β)
  | _, [] => some []
  | 0, _ :: _ => none
  | fuel + 1, byte :: bytes =>
      match read (byte :: bytes) with
      | none => none
      | some (item, rest) => (readAll read fuel rest).map (item :: ·)

theorem read_all_nil {α β : Type} (read : List α → Option (β × List α)) (fuel : Nat) : readAll read fuel [] = some [] := by
  cases fuel <;> rfl

theorem read_all_step {α β : Type} (read : List α → Option (β × List α)) (fuel : Nat) (bytes rest : List α) (item : β)
    (some : bytes ≠ []) (isItem : read bytes = .some (item, rest)) :
    readAll read (fuel + 1) bytes = (readAll read fuel rest).map (item :: ·) := by
  cases bytes with
  | nil => exact absurd rfl some
  | cons byte bytes => rw [readAll, isItem]

theorem read_all_items {α β γ : Type} (read : List α → Option (β × List α)) (encode : γ → List α) (item : γ → β) (items : List γ)
    (nonempty : ∀ x ∈ items, encode x ≠ []) (each : ∀ x ∈ items, ∀ rest, read (encode x ++ rest) = some (item x, rest)) (fuel : Nat)
    (enough : (items.flatMap encode).length ≤ fuel) : readAll read fuel (items.flatMap encode) = some (items.map item) := by
  induction items generalizing fuel with
  | nil => exact read_all_nil read fuel
  | cons x items ih =>
      have here := List.length_pos_iff.mpr (nonempty x List.mem_cons_self)
      rw [List.flatMap_cons, List.length_append] at enough
      obtain ⟨less, rfl⟩ : ∃ less, fuel = less + 1 := ⟨fuel - 1, by omega⟩
      have some : encode x ++ items.flatMap encode ≠ [] := fun none => nonempty x List.mem_cons_self (List.append_eq_nil_iff.mp none).1
      rw [List.flatMap_cons, read_all_step read less _ _ (item x) some (each x List.mem_cons_self _),
        ih (fun y member => nonempty y (List.mem_cons_of_mem x member)) (fun y member => each y (List.mem_cons_of_mem x member)) less
          (by omega)]
      rfl

def bitAt (bytes : List UInt8) (i : Nat) : Bool := (bytes.getD (i / 8) 0).toNat.testBit (7 - i % 8)

theorem byte_bits (a b : UInt8) (same : ∀ i, i < 8 → a.toNat.testBit i = b.toNat.testBit i) : a = b := by
  apply UInt8.toNat_inj.mp
  apply Nat.eq_of_testBit_eq
  intro i
  by_cases inside : i < 8
  · exact same i inside
  · have beyond : 2 ^ 8 ≤ 2 ^ i := Nat.pow_le_pow_right (by decide) (by omega)
    have small : ∀ c : UInt8, c.toNat.testBit i = false := fun c =>
      Nat.testBit_lt_two_pow (Nat.lt_of_lt_of_le c.toNat_lt beyond)
    rw [small a, small b]

theorem byte_and_iff (a b mask : UInt8) : a &&& mask = b &&& mask ↔
    ∀ i, i < 8 → mask.toNat.testBit i = true → a.toNat.testBit i = b.toNat.testBit i := by
  constructor
  · intro same i _ masked
    have bits := congrArg (fun c : UInt8 => c.toNat.testBit i) same
    simp only [UInt8.toNat_and, Nat.testBit_and, masked, Bool.and_true] at bits
    exact bits
  · intro same
    apply byte_bits
    intro i inside
    simp only [UInt8.toNat_and, Nat.testBit_and]
    cases masked : mask.toNat.testBit i with
    | false => rw [Bool.and_false, Bool.and_false]
    | true => rw [same i inside masked]

end RingServer.Library

import Mathlib.Data.Nat.Digits.Defs
import Usbutils.Lib.Prog

/-! Little-endian numbers in memory: the value of the bytes at an address, and
the bytes of a value. -/
namespace ByteProg

def leValue (m : Memory) (a n : Nat) : Nat :=
  Nat.ofDigits 256 ((List.range' a n).map fun i => (m i).toNat)

def leBytes : Nat → Nat → List UInt8
  | 0, _ => []
  | n + 1, v => UInt8.ofNat v :: leBytes n (v / 256)

def Holds (m : Memory) (a : Nat) (bytes : List UInt8) : Prop :=
  (List.range' a bytes.length).map m = bytes

instance (m : Memory) (a : Nat) (bytes : List UInt8) : Decidable (Holds m a bytes) :=
  inferInstanceAs (Decidable (_ = _))

theorem leValue_zero (m : Memory) (a : Nat) : leValue m a 0 = 0 := rfl

theorem leValue_succ (m : Memory) (a n : Nat) :
    leValue m a (n + 1) = (m a).toNat + 256 * leValue m (a + 1) n := by
  simp [leValue, List.range'_succ, Nat.ofDigits_cons]

theorem leValue_one (m : Memory) (a : Nat) : leValue m a 1 = (m a).toNat := by
  simp [leValue_succ, leValue_zero]

theorem leValue_succ_last (m : Memory) (a n : Nat) :
    leValue m a (n + 1) = leValue m a n + 256 ^ n * (m (a + n)).toNat := by
  simp [leValue, List.range'_concat, Nat.ofDigits_append]

theorem leValue_lt (m : Memory) (a n : Nat) : leValue m a n < 256 ^ n := by
  have h := @Nat.ofDigits_lt_base_pow_length 256 ((List.range' a n).map fun i => (m i).toNat)
    (by omega) (by rintro x hx; obtain ⟨i, -, rfl⟩ := List.mem_map.mp hx; exact (m i).toNat_lt)
  simpa [leValue] using h

theorem leValue_digit (m : Memory) {a n k : Nat} (hk : k < n) :
    leValue m a n / 256 ^ k % 256 = (m (a + k)).toNat := by
  induction n generalizing a k with
  | zero => omega
  | succ n ih =>
      have hbyte := (m a).toNat_lt
      rw [leValue_succ]
      cases k with
      | zero =>
          rw [Nat.pow_zero, Nat.div_one, Nat.add_zero, Nat.add_mul_mod_self_left]
          exact Nat.mod_eq_of_lt hbyte
      | succ k =>
          have hrest : ((m a).toNat + 256 * leValue m (a + 1) n) / 256 = leValue m (a + 1) n := by
            omega
          rw [Nat.pow_succ', ← Nat.div_div_eq_div_mul, hrest, ih (by omega)]
          congr 2
          omega

theorem leValue_inj {m m' : Memory} {a b n : Nat} :
    leValue m a n = leValue m' b n ↔ ∀ k < n, m (a + k) = m' (b + k) := by
  constructor
  · intro h k hk
    apply UInt8.toNat_inj.mp
    rw [← leValue_digit m hk, h, leValue_digit m' hk]
  · intro h
    induction n generalizing a b with
    | zero => rfl
    | succ n ih =>
        have hrest : leValue m (a + 1) n = leValue m' (b + 1) n := by
          apply ih
          intro k hk
          have hbyte := h (k + 1) (by omega)
          rwa [Nat.add_comm k 1, ← Nat.add_assoc, ← Nat.add_assoc] at hbyte
        have hfirst : m a = m' b := h 0 (by omega)
        rw [leValue_succ, leValue_succ, hrest, hfirst]

theorem leValue_eq_zero {m : Memory} {a n : Nat} : leValue m a n = 0 ↔ ∀ k < n, m (a + k) = 0 := by
  have hzero : leValue (fun _ => 0) 0 n = 0 := by
    induction n with
    | zero => rfl
    | succ n ih => rw [leValue_succ_last, ih, UInt8.toNat_zero, Nat.mul_zero]
  rw [← hzero, leValue_inj]

theorem leValue_mod (m : Memory) (a k n : Nat) :
    leValue m a (min n k) = leValue m a n % 256 ^ k := by
  rcases Nat.le_total n k with hle | hle
  · rw [Nat.min_eq_left hle, Nat.mod_eq_of_lt]
    exact Nat.lt_of_lt_of_le (leValue_lt m a n) (Nat.pow_le_pow_right (by decide) hle)
  · obtain ⟨j, rfl⟩ := Nat.exists_eq_add_of_le hle
    rw [Nat.min_eq_right hle]
    clear hle
    induction j with
    | zero => exact (Nat.mod_eq_of_lt (leValue_lt m a k)).symm
    | succ j ih =>
        rw [ih, ← Nat.add_assoc, leValue_succ_last, Nat.pow_add, Nat.mul_assoc,
          Nat.add_mul_mod_self_left]

theorem leValue_or_shift (m : Memory) (a n : Nat) :
    (m (a + n)).toNat <<< (8 * n) ||| leValue m a n = leValue m a (n + 1) := by
  have hlt : leValue m a n < 2 ^ (8 * n) := by
    rw [Nat.pow_mul]
    exact leValue_lt m a n
  rw [← Nat.shiftLeft_add_eq_or_of_lt hlt, leValue_succ_last, Nat.shiftLeft_eq, Nat.pow_mul]
  ring

theorem leValue_two (m : Memory) (a : Nat) :
    (m a).toNat ||| (m (a + 1)).toNat <<< 8 = leValue m a 2 := by
  rw [← leValue_or_shift, leValue_one, Nat.or_comm]

theorem leValue_three (m : Memory) (a : Nat) :
    (m a).toNat ||| (m (a + 1)).toNat <<< 8 ||| (m (a + 2)).toNat <<< 16 = leValue m a 3 := by
  rw [← leValue_or_shift, leValue_two, Nat.or_comm]

theorem leValue_four (m : Memory) (a : Nat) :
    (m a).toNat ||| (m (a + 1)).toNat <<< 8 ||| (m (a + 2)).toNat <<< 16 |||
      (m (a + 3)).toNat <<< 24 = leValue m a 4 := by
  rw [← leValue_or_shift, leValue_three, Nat.or_comm]

@[simp] theorem length_leBytes (n v : Nat) : (leBytes n v).length = n := by
  induction n generalizing v with
  | zero => rfl
  | succ n ih => simp [leBytes, ih]

theorem holds_append (m : Memory) (a : Nat) (left right : List UInt8) :
    Holds m a (left ++ right) ↔ Holds m a left ∧ Holds m (a + left.length) right := by
  unfold Holds
  rw [List.length_append, ← List.range'_append_1, List.map_append]
  constructor
  · exact fun h => List.append_inj h (by simp)
  · rintro ⟨hl, hr⟩
    rw [hl, hr]

theorem holds_cons (m : Memory) (a : Nat) (byte : UInt8) (rest : List UInt8) :
    Holds m a (byte :: rest) ↔ m a = byte ∧ Holds m (a + 1) rest := by
  simp [Holds, List.range'_succ]

theorem holds_getElem {m : Memory} {a i : Nat} {bytes : List UInt8} (h : Holds m a bytes)
    (hi : i < bytes.length) : m (a + i) = bytes[i] := by
  have hget := congrArg (fun list => list[i]?) h
  simpa [hi] using hget

theorem Holds.leValue_eq {m : Memory} {a n v : Nat} (h : Holds m a (leBytes n v))
    (hv : v < 256 ^ n) : leValue m a n = v := by
  induction n generalizing a v with
  | zero =>
      rw [Nat.pow_zero] at hv
      rw [leValue_zero]
      omega
  | succ n ih =>
      obtain ⟨hbyte, hrest⟩ := (holds_cons ..).mp h
      have hv' : v / 256 < 256 ^ n := by
        rw [Nat.pow_succ] at hv
        omega
      rw [leValue_succ, hbyte, ih hrest hv', UInt8.toNat_ofNat']
      omega

theorem and_one_ne_zero (value i : Nat) : (value >>> i &&& 1 ≠ 0) ↔ value.testBit i = true := by
  rw [Nat.testBit, bne_iff_ne, Nat.and_comm]

end ByteProg

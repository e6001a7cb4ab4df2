import Usbutils.Lib.Text
import Usbutils.Lsusb.ReportState

/-! The text of a unit item of a report descriptor, as the factors that its nibbles stand for. -/
namespace Usbutils
open ByteProg Text

namespace Report

def nibble (data i : Nat) : Nat := data / 16 ^ i % 16

/-- The positions of a unit that are not zero; the first nibble is the system. -/
def positions (data : Nat) : List Nat := (List.range' 1 7).filter fun i => nibble data i ≠ 0

def factor (names : StringTable) (data i : Nat) : List Effect :=
  .print "%s" [.str names[i]?.join] ::
    if signed 4 (nibble data i) = 1 then [] else [.print "^%d" [.int (signed 4 (nibble data i))]]

def unitText (names : StringTable) (data : Nat) : List Effect :=
  if positions data = [] then [.print "(None)" []]
  else [Effect.print "*" []].intercalate ((positions data).map (factor names data))

section Factors

variable {m : Memory}

theorem nibbleExponent_eq : ∀ nibble < 16, nibbleExponent nibble = signed 4 nibble := by decide

theorem signed_eq_one : ∀ nibble < 16, signed 4 nibble = 1 ↔ nibble = 1 := by decide

theorem and_nibble (data i : Nat) : data / 16 ^ i &&& 0xf = nibble data i :=
  and_mask (data / 16 ^ i) 4

theorem shift_nibble (data i : Nat) : (data / 16 ^ i) >>> 4 = data / 16 ^ (i + 1) := by
  rw [Nat.shiftRight_eq_div_pow, Nat.div_div_eq_div_mul, Nat.pow_succ 16]

theorem dumpFactors_run (names : StringTable) (data count i earlierUnit : Nat) :
    printed ((dumpFactors names count i (data / 16 ^ i) earlierUnit).acts m) =
        pieces [.print "*" []] (earlierUnit > 0)
          (((List.range' i count).filter fun i => nibble data i ≠ 0).map (factor names data)) ∧
      (dumpFactors names count i (data / 16 ^ i) earlierUnit).result m =
        .ok (earlierUnit + ((List.range' i count).filter fun i => nibble data i ≠ 0).length) := by
  induction count generalizing i earlierUnit with
  | zero => exact ⟨(pieces_nil _ _).symm, rfl⟩
  | succ count ih =>
      have hlt : nibble data i < 16 := Nat.mod_lt _ (by decide)
      rw [dumpFactors, and_nibble, shift_nibble, List.range'_succ]
      by_cases hzero : nibble data i = 0
      · rw [if_neg (not_not_intro hzero), List.filter_cons_of_neg (by simp [hzero])]
        exact ih (i + 1) earlierUnit
      · obtain ⟨hprinted, hresult⟩ := ih (i + 1) (earlierUnit + 1)
        have hlater : pieces [.print "*" []] true (((List.range' (i + 1) count).filter fun i =>
            nibble data i ≠ 0).map (factor names data)) = printed ((dumpFactors names count (i + 1)
              (data / 16 ^ (i + 1)) (earlierUnit + 1)).acts m) := by
          simpa using hprinted.symm
        rw [if_pos hzero, List.filter_cons_of_pos (by simp [hzero]), List.map_cons, pieces_cons, hlater]
        constructor
        · have hone := signed_eq_one _ hlt
          have hexponent := nibbleExponent_eq _ hlt
          by_cases hearlier : earlierUnit > 0 <;> by_cases hsigned : signed 4 (nibble data i) = 1 <;>
            simp [Prog.acts_bind, Prog.when, lookup, piece, factor, hearlier, hsigned, ← hone,
              hexponent]
        · simp [hresult]
          omega

theorem positions_eq {data len : Nat} (hlen : len ≤ 4) (hdata : data < 256 ^ len) :
    (List.range' 1 (len * 2 - 1)).filter (fun i => nibble data i ≠ 0) = positions data := by
  have hsplit : List.range' 1 7 =
      List.range' 1 (len * 2 - 1) ++ List.range' (1 + (len * 2 - 1)) (7 - (len * 2 - 1)) := by
    rw [List.range'_append_1]
    congr 1
    omega
  have hnone : (List.range' (1 + (len * 2 - 1)) (7 - (len * 2 - 1))).filter
      (fun i => nibble data i ≠ 0) = [] := by
    rw [List.filter_eq_nil_iff]
    intro i hi
    have hi : len * 2 ≤ i := by
      rw [List.mem_range'_1] at hi
      omega
    have hsmall : data < 16 ^ i := calc
      data < 256 ^ len := hdata
      _ = 16 ^ (2 * len) := by rw [Nat.pow_mul]
      _ ≤ 16 ^ i := Nat.pow_le_pow_right (by decide) (by omega)
    simp [nibble, Nat.div_eq_of_lt hsmall]
  rw [positions, hsplit, List.filter_append, hnone, List.append_nil]

/-- The factors of a unit in one of the known systems are those of its nibbles that are not zero,
in their order, each with its nibble as a signed exponent. -/
theorem dumpUnit_factors {data len : Nat} (hlen : len ≤ 4) (hdata : data < 256 ^ len)
    (hsys : data % 16 ≤ 4) :
    printed ((dumpUnit data len).acts m) =
        .print "System: %s, Unit: " [.str systems[data % 16]?.join] ::
          (unitText (units[data % 16]?.getD []) data ++ [.print "\n" []]) ∧
      ∀ index size, .lookup index size ∈ (dumpUnit data len).acts m → index < size := by
  constructor
  · have hand : data &&& 0xf = data % 16 := and_mask data 4
    have hshift : data >>> 4 = data / 16 ^ 1 := Nat.shiftRight_eq_div_pow data 4
    obtain ⟨hprinted, hresult⟩ :=
      @dumpFactors_run m (units[data % 16]?.getD []) data (len * 2 - 1) 1 0
    rw [positions_eq hlen hdata] at hprinted hresult
    rw [dumpUnit, hand, hshift, if_neg (by omega)]
    generalize dumpFactors _ _ _ _ _ = factors at hprinted hresult ⊢
    have htext : pieces [Effect.print "*" []] false
        ((positions data).map (factor (units[data % 16]?.getD []) data)) ++
          printed ((Prog.when ((positions data).length = 0) (print "(None)" [])).acts m) =
        unitText (units[data % 16]?.getD []) data := by
      cases hpositions : positions data <;> simp [unitText, hpositions, Prog.when, pieces]
    rw [← htext]
    simp [Prog.acts_bind, lookup, hprinted, hresult]
  · intro index size hmem
    exact @dumpUnit_within m 0 0 data len hlen _ (Prog.mem_acts.mp hmem)

theorem dumpUnit_factors_velocity : printed ((dumpUnit 0xf011 2).acts fun _ => 0) =
    [.print "System: %s, Unit: " [.str (some "SI Linear")], .print "%s" [.str (some "Centimeter")],
      .print "*" [], .print "%s" [.str (some "Seconds")], .print "^%d" [.int (-1)],
      .print "\n" []] := by
  have htext : unitText (units[0xf011 % 16]?.getD []) 0xf011 =
      [.print "%s" [.str (some "Centimeter")], .print "*" [], .print "%s" [.str (some "Seconds")],
        .print "^%d" [.int (-1)]] := by
    decide
  rw [(dumpUnit_factors (by decide) (by decide) (by decide)).1, htext]
  rfl

end Factors
end Report
end Usbutils

import Mathlib.Algebra.Group.Int.Defs
import Mathlib.Algebra.Group.Nat.Defs
import Mathlib.Data.List.Basic

/-! The names of entries in `/sys/bus/usb/devices`, and the functions of the C library
that `lsusb-t.c` takes them apart with. -/
namespace Usbutils

/-- A C string, without its null character. -/
abbrev Name := List Char

def isSpace (c : Char) : Bool :=
  c == ' ' || c == '\t' || c == '\n' || c == '\x0b' || c == '\x0c' || c == '\r'

def ulongMax : Nat := 2 ^ 64 - 1

/-- `strtoul(s, &end, 10)`: the value, and the string from `end` on. -/
def strtoul (s : Name) : Nat × Name :=
  let body := s.dropWhile isSpace
  let negative := body.head? == some '-'
  let digits := if negative ∨ body.head? = some '+' then body.tail else body
  if digits.takeWhile Char.isDigit = [] then (0, s)
  else
    let value := Nat.ofDigitChars 10 (digits.takeWhile Char.isDigit) 0
    (if value > ulongMax then ulongMax
      else if negative then (2 ^ 64 - value) % 2 ^ 64 else value,
      digits.dropWhile Char.isDigit)

def afterFirst (c : Char) (s : Name) : Name := (s.dropWhile (· ≠ c)).tail

/-- The string up to the last `c`; `none` where `strrchr` finds none. -/
def beforeLast (c : Char) (s : Name) : Option Name :=
  if c ∈ s then some (s.reverse.dropWhile (· ≠ c)).tail.reverse else none

def afterLast (c : Char) (s : Name) : Name :=
  if c ∈ s then (s.reverse.takeWhile (· ≠ c)).reverse else []

def decimal (n : Nat) : Name := Nat.toDigits 10 n

/-- `p1.p2...pk` -/
def portPath : List Nat → Name
  | [] => []
  | [p] => decimal p
  | p :: q :: rest => decimal p ++ '.' :: portPath (q :: rest)

def deviceName (busnum : Nat) (ports : List Nat) : Name := decimal busnum ++ '-' :: portPath ports

inductive SysfsEntry where
  | rootHub (busnum : Nat)
  | device (busnum : Nat) (ports : List Nat)
  /-- An interface of a device or, with the one port 0, of a root hub. -/
  | interface (busnum : Nat) (ports : List Nat) (configuration ifnum : Nat)
  deriving DecidableEq, Repr

namespace SysfsEntry

def name : SysfsEntry → Name
  | rootHub busnum => 'u' :: 's' :: 'b' :: decimal busnum
  | device busnum ports => deviceName busnum ports
  | interface busnum ports configuration ifnum =>
      deviceName busnum ports ++ ':' :: decimal configuration ++ '.' :: decimal ifnum

end SysfsEntry

/-- The number is at least 1 and fits an `unsigned int`. -/
def IsNumber (n : Nat) : Prop := 1 ≤ n ∧ n < 2 ^ 32

instance (n : Nat) : Decidable (IsNumber n) := inferInstanceAs (Decidable (_ ∧ _))

def IsPath (ports : List Nat) : Prop := ports ≠ [] ∧ ∀ p ∈ ports, IsNumber p

instance (ports : List Nat) : Decidable (IsPath ports) := inferInstanceAs (Decidable (_ ∧ _))

namespace SysfsEntry

/-- An entry as the kernel makes them, with a name that fits the buffers. -/
def Valid (e : SysfsEntry) : Prop :=
  e.name.length < 255 ∧
    match e with
    | rootHub busnum => IsNumber busnum
    | device busnum ports => IsNumber busnum ∧ IsPath ports
    | interface busnum ports configuration ifnum =>
        IsNumber busnum ∧ (IsPath ports ∨ ports = [0]) ∧ configuration < 2 ^ 32 ∧ ifnum < 2 ^ 32

instance : (e : SysfsEntry) → Decidable e.Valid
  | rootHub busnum => inferInstanceAs (Decidable (_ ∧ IsNumber busnum))
  | device busnum ports => inferInstanceAs (Decidable (_ ∧ IsNumber busnum ∧ IsPath ports))
  | interface busnum ports configuration ifnum =>
      inferInstanceAs (Decidable (_ ∧ IsNumber busnum ∧ (IsPath ports ∨ ports = [0]) ∧
        configuration < 2 ^ 32 ∧ ifnum < 2 ^ 32))

end SysfsEntry

theorem isDigit_of_mem_decimal {n : Nat} {c : Char} (h : c ∈ decimal n) : c.isDigit = true :=
  Nat.isDigit_of_mem_toDigits (by decide) (by decide) h

theorem decimal_ne_nil (n : Nat) : decimal n ≠ [] := Nat.toDigits_ne_nil

theorem decimal_append_ne (n : Nat) (s : Name) : s ≠ decimal n ++ s := by
  intro h
  have hlength := congrArg List.length h
  have hpos := List.length_pos_iff.mpr (decimal_ne_nil n)
  rw [List.length_append] at hlength
  omega

def Stops (s : Name) : Prop := ∀ c ∈ s.head?, c.isDigit = false

theorem stops_nil : Stops [] := fun _ h => nomatch h

theorem stops_cons {c : Char} (s : Name) (h : c.isDigit = false) : Stops (c :: s) := by
  intro d hd
  rwa [← Option.some.inj hd]

theorem takeWhile_decimal {n : Nat} {s : Name} (h : Stops s) :
    (decimal n ++ s).takeWhile Char.isDigit = decimal n := by
  rw [List.takeWhile_append_of_pos fun c hc => isDigit_of_mem_decimal hc]
  cases s with
  | nil => simp
  | cons c s => simp [h c rfl]

theorem dropWhile_decimal {n : Nat} {s : Name} (h : Stops s) :
    (decimal n ++ s).dropWhile Char.isDigit = s := by
  rw [List.dropWhile_append_of_pos fun c hc => isDigit_of_mem_decimal hc]
  cases s with
  | nil => rfl
  | cons c s => simp [h c rfl]

theorem strtoul_decimal {n : Nat} {s : Name} (hn : n < 2 ^ 64) (h : Stops s) :
    strtoul (decimal n ++ s) = (n, s) := by
  obtain ⟨c, digits, hdecimal⟩ := List.exists_cons_of_ne_nil (decimal_ne_nil n)
  have hc : c.isDigit = true := isDigit_of_mem_decimal (by rw [hdecimal]; simp)
  have hspace : isSpace c = false := by
    by_contra h
    simp only [isSpace, Bool.or_eq_true, beq_iff_eq, Bool.not_eq_false] at h
    rcases h with (((((rfl | rfl) | rfl) | rfl) | rfl) | rfl) <;> cases hc
  have hminus : c ≠ '-' := by
    rintro rfl
    cases hc
  have hplus : c ≠ '+' := by
    rintro rfl
    cases hc
  have hbody : (decimal n ++ s).dropWhile isSpace = decimal n ++ s := by
    rw [hdecimal]
    simp [hspace]
  have hhead : (decimal n ++ s).head? = some c := by
    rw [hdecimal]
    rfl
  have hvalue : Nat.ofDigitChars 10 (decimal n) 0 = n := Nat.ofDigitChars_ten_toDigits
  unfold strtoul
  simp only [hbody, hhead]
  simp [hminus, hplus, ulongMax, takeWhile_decimal h, dropWhile_decimal h, decimal_ne_nil, hvalue]
  omega

theorem decimal_append_inj {a b : Nat} {s t : Name} (hs : Stops s) (ht : Stops t)
    (h : decimal a ++ s = decimal b ++ t) : a = b ∧ s = t := by
  have hdigits : decimal a = decimal b := by
    rw [← takeWhile_decimal hs, h, takeWhile_decimal ht]
  refine ⟨?_, ?_⟩
  · calc
      a = Nat.ofDigitChars 10 (decimal a) 0 := Nat.ofDigitChars_ten_toDigits.symm
      _ = Nat.ofDigitChars 10 (decimal b) 0 := by rw [hdigits]
      _ = b := Nat.ofDigitChars_ten_toDigits
  · rw [← dropWhile_decimal hs, h, dropWhile_decimal ht]

theorem portPath_cons {p : Nat} {ports : List Nat} (h : ports ≠ []) :
    portPath (p :: ports) = decimal p ++ '.' :: portPath ports := by
  cases ports with
  | nil => exact absurd rfl h
  | cons q rest => rfl

theorem portPath_concat {ports : List Nat} (h : ports ≠ []) (p : Nat) :
    portPath (ports ++ [p]) = portPath ports ++ '.' :: decimal p := by
  induction ports with
  | nil => exact absurd rfl h
  | cons q rest ih =>
      cases rest with
      | nil => rfl
      | cons r rest =>
          rw [List.cons_append, portPath_cons (by simp), ih (by simp),
            @portPath_cons q (r :: rest) (by simp), List.append_assoc, List.cons_append]

theorem mem_portPath {ports : List Nat} {c : Char} (h : c ∈ portPath ports) :
    c.isDigit = true ∨ c = '.' := by
  induction ports with
  | nil => cases h
  | cons p rest ih =>
      cases rest with
      | nil => exact Or.inl (isDigit_of_mem_decimal h)
      | cons q rest =>
          rw [portPath_cons (by simp)] at h
          rcases List.mem_append.mp h with hp | hrest
          · exact Or.inl (isDigit_of_mem_decimal hp)
          · exact (List.mem_cons.mp hrest).elim Or.inr ih

theorem portPath_inj {ports ports' : List Nat} (hne : ports ≠ []) (hne' : ports' ≠ [])
    (h : portPath ports = portPath ports') : ports = ports' := by
  induction ports generalizing ports' with
  | nil => exact absurd rfl hne
  | cons p rest ih =>
      obtain ⟨p', rest', rfl⟩ := List.exists_cons_of_ne_nil hne'
      have hdot : ∀ s, Stops ('.' :: s) := fun s => stops_cons s (by decide)
      cases rest with
      | nil =>
          cases rest' with
          | nil =>
              have := decimal_append_inj stops_nil stops_nil (by simpa [portPath] using h)
              rw [this.1]
          | cons q' rest' =>
              have := decimal_append_inj stops_nil (hdot _) (by simpa [portPath] using h)
              cases this.2
      | cons q rest =>
          cases rest' with
          | nil =>
              have := decimal_append_inj (hdot _) stops_nil (by simpa [portPath] using h)
              cases this.2
          | cons q' rest' =>
              obtain ⟨rfl, hrest⟩ := decimal_append_inj (hdot _) (hdot _) h
              rw [ih (by simp) (by simp) (List.cons.inj hrest).2]

theorem stops_dash (s : Name) : Stops ('-' :: s) := stops_cons s (by decide)

theorem mem_deviceName {busnum : Nat} {ports : List Nat} {c : Char}
    (h : c ∈ deviceName busnum ports) : c.isDigit = true ∨ c = '-' ∨ c = '.' := by
  rcases List.mem_append.mp h with hbus | hports
  · exact Or.inl (isDigit_of_mem_decimal hbus)
  · rcases List.mem_cons.mp hports with rfl | hports
    · exact Or.inr (Or.inl rfl)
    · exact (mem_portPath hports).imp_right Or.inr

theorem deviceName_inj {busnum busnum' : Nat} {ports ports' : List Nat} (hne : ports ≠ [])
    (hne' : ports' ≠ []) (h : deviceName busnum ports = deviceName busnum' ports') :
    busnum = busnum' ∧ ports = ports' := by
  obtain ⟨hbus, hports⟩ := decimal_append_inj (stops_dash _) (stops_dash _) h
  exact ⟨hbus, portPath_inj hne hne' (List.cons.inj hports).2⟩

theorem strtoul_deviceName {busnum : Nat} (ports : List Nat) (h : busnum < 2 ^ 32) :
    strtoul (deviceName busnum ports) = (busnum, '-' :: portPath ports) :=
  strtoul_decimal (by omega) (stops_dash _)

theorem colon_not_mem_deviceName {busnum : Nat} {ports : List Nat} :
    ':' ∉ deviceName busnum ports := by
  intro h
  have := mem_deviceName h
  revert this
  decide

theorem beforeLast_append {c : Char} (s : Name) {t : Name} (h : c ∉ t) :
    beforeLast c (s ++ c :: t) = some s := by
  have hreverse : (s ++ c :: t).reverse.dropWhile (· ≠ c) = c :: s.reverse := by
    rw [List.reverse_append, List.reverse_cons, List.append_assoc, List.dropWhile_append_of_pos]
    · simp
    · intro d hd
      simp only [decide_eq_true_eq]
      rintro rfl
      exact h (List.mem_reverse.mp hd)
  rw [beforeLast, if_pos (by simp), hreverse]
  simp

theorem afterFirst_append {c : Char} {s : Name} (t : Name) (h : c ∉ s) :
    afterFirst c (s ++ c :: t) = t := by
  rw [afterFirst, List.dropWhile_append_of_pos]
  · simp
  · intro d hd
    simp only [decide_eq_true_eq]
    rintro rfl
    exact h hd

/-- The name of the hub that a device hangs on is its own name up to the last dot. -/
theorem beforeLast_deviceName (busnum : Nat) {ports : List Nat} (h : ports ≠ []) (p : Nat) :
    beforeLast '.' (deviceName busnum (ports ++ [p])) = some (deviceName busnum ports) := by
  have hdot : '.' ∉ decimal p := fun hmem => absurd (isDigit_of_mem_decimal hmem) (by decide)
  have hname : deviceName busnum (ports ++ [p]) = deviceName busnum ports ++ '.' :: decimal p := by
    rw [deviceName, portPath_concat h]
    simp [deviceName]
  rw [hname, beforeLast_append _ hdot]

theorem beforeLast_rootDevice (busnum p : Nat) : beforeLast '.' (deviceName busnum [p]) = none := by
  have hdot : '.' ∉ deviceName busnum [p] := by
    intro hmem
    rcases List.mem_append.mp hmem with hbus | hport
    · exact absurd (isDigit_of_mem_decimal hbus) (by decide)
    · rcases List.mem_cons.mp hport with heq | hport
      · exact absurd heq (by decide)
      · exact absurd (isDigit_of_mem_decimal hport) (by decide)
  rw [beforeLast, if_neg hdot]

end Usbutils

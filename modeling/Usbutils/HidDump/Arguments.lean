import Mathlib.Data.List.DropRight
import Usbutils.Lib.Text
import Usbutils.Tree.Names

/-! The parsers of `usbhid-dump.c` for the numbers in its arguments. -/
namespace Usbutils
open Text

def longMax : Int := 2 ^ 63 - 1
def longMin : Int := -2 ^ 63

/-- `strtol` and `strtoll`: the value, whether `errno` is set, and the string from `end` on. -/
def strtol (base : Nat) (s : Name) : Int × Bool × Name :=
  match scanNumber base (s.dropWhile isSpace) with
  | none => (0, false, s)
  | some (n, rest) =>
      if n < longMin then (longMin, true, rest)
      else if n > longMax then (longMax, true, rest)
      else (n, false, rest)

/-- What all parsers begin with: space is skipped and a number is extracted; `none` for an error,
or if nothing was read. -/
def extractNumber (base : Nat) (str : Name) : Option (Int × Name) :=
  match strtol base (str.dropWhile isSpace) with
  | (n, erange, rest) =>
      if erange then none
      else if rest = str.dropWhile isSpace then none
      else some (n, rest)

def parseNumberPair (base : Nat) (str : Name) : Option (Int × Int) :=
  match extractNumber base str with
  | none => none
  | some (n1, rest) =>
      match rest.dropWhile isSpace with
      | [] => some (n1, 0)
      | c :: p =>
          if c ≠ ':' then none
          else
            match extractNumber base p with
            | none => none
            | some (n2, rest) => if rest.dropWhile isSpace = [] then some (n1, n2) else none

section Parsers

variable {β : Type} (base : Nat) (max : Int) (convert : Int → β)

/-- The result, and what is in the two outputs then; an output is `none` for a null pointer. -/
def parsePair (str : Name) (pfirst psecond : Option β) : Bool × Option β × Option β :=
  match parseNumberPair base str with
  | none => (false, pfirst, psecond)
  | some (n1, n2) =>
      if n1 < 0 ∨ n1 > max ∨ n2 < 0 ∨ n2 > max then (false, pfirst, psecond)
      else (true, pfirst.map fun _ => convert n1, psecond.map fun _ => convert n2)

def parseScalar (str : Name) (pnumber : Option β) : Bool × Option β :=
  match extractNumber 10 str with
  | none => (false, pnumber)
  | some (n, _) =>
      if n < 0 ∨ n > max then (false, pnumber) else (true, pnumber.map fun _ => convert n)

end Parsers

def parseAddress : Name → Option UInt8 → Option UInt8 → Bool × Option UInt8 × Option UInt8 :=
  parsePair 10 255 .ofInt

def parseModel : Name → Option UInt16 → Option UInt16 → Bool × Option UInt16 × Option UInt16 :=
  parsePair 16 65535 .ofInt

def parseIfaceNum : Name → Option UInt8 → Bool × Option UInt8 := parseScalar 255 .ofInt

def parseTimeout : Name → Option UInt32 → Bool × Option UInt32 := parseScalar 4294967295 .ofInt

def Blank (text : Name) : Prop := ∀ c ∈ text, isSpace c = true

inductive IsScalar (base : Nat) : Name → Int → Prop where
  | mk {left text right : Name} {n : Int} : Blank left → Text.IsNumber base text n → Blank right →
      IsScalar base (left ++ text ++ right) n

inductive IsPair (base : Nat) : Name → Int → Int → Prop where
  | single {str : Name} {n : Int} : IsScalar base str n → IsPair base str n 0
  | pair {str str' : Name} {n m : Int} : IsScalar base str n → IsScalar base str' m →
      IsPair base (str ++ ':' :: str') n m

/-- A parser for pairs accepts the pairs in range and no other strings, outputs the numbers, and
leaves the outputs as they are if it does not accept the string. -/
structure ParsesPairs {β : Type} (base : Nat) (max : Int) (toInt : β → Int)
    (parse : Name → Option β → Option β → Bool × Option β × Option β) : Prop where
  accepts : ∀ str pfirst psecond, (parse str pfirst psecond).1 = true ↔
    ∃ n m, IsPair base str n m ∧ (0 ≤ n ∧ n ≤ max) ∧ 0 ≤ m ∧ m ≤ max
  outputs : ∀ str pfirst psecond n m, IsPair base str n m → 0 ≤ n ∧ n ≤ max → 0 ≤ m ∧ m ≤ max →
    ∃ first second, toInt first = n ∧ toInt second = m ∧
      (parse str pfirst psecond).2 = (pfirst.map fun _ => first, psecond.map fun _ => second)
  unchanged : ∀ str pfirst psecond, (parse str pfirst psecond).1 = false →
    (parse str pfirst psecond).2 = (pfirst, psecond)

structure ParsesScalar {β : Type} (max : Int) (toInt : β → Int)
    (parse : Name → Option β → Bool × Option β) (str : Name) : Prop where
  accepts : ∀ pnumber, (parse str pnumber).1 = true ↔ ∃ n, IsScalar 10 str n ∧ 0 ≤ n ∧ n ≤ max
  outputs : ∀ pnumber n, IsScalar 10 str n → 0 ≤ n ∧ n ≤ max →
    ∃ number, toInt number = n ∧ (parse str pnumber).2 = pnumber.map fun _ => number
  unchanged : ∀ pnumber, (parse str pnumber).1 = false → (parse str pnumber).2 = pnumber

/-- If there is a number in range at the start of a string, only white space follows it. -/
def NothingBehind (max : Int) (str : Name) : Prop :=
  ∀ left text rest n, str = left ++ text ++ rest → Blank left → Text.IsNumber 10 text n →
    0 ≤ n ∧ n ≤ max → (∀ c ∈ rest.head?, isDigit 10 c = false) → Blank rest

section Extraction

variable {base : Nat} {str left text right rest : Name} {n m : Int}

theorem digitValue_blank {c : Char} (h : isSpace c = true ∨ c = ':') : digitValue c = 36 := by
  simp only [isSpace, Bool.or_eq_true, beq_iff_eq] at h
  rcases h with (((((rfl | rfl) | rfl) | rfl) | rfl) | rfl) | rfl <;> decide

theorem ends_of_blank (hbase : base ≤ 36) (h : ∀ c ∈ rest.head?, isSpace c = true ∨ c = ':') :
    Ends base rest := by
  intro c hc
  have hvalue := digitValue_blank (h c hc)
  refine ⟨decide_eq_false (by omega), fun _ => ⟨?_, ?_⟩⟩
  all_goals
    rintro rfl
    exact absurd hvalue (by decide)

theorem number_head (h : Text.IsNumber base text n) (hbase : base ≤ 36) :
    ∀ c ∈ (text ++ rest).head?, isSpace c = false := by
  intro c hc
  rw [List.head?_append_of_ne_nil _ (h.ne_nil hbase)] at hc
  cases h with
  | unsigned h =>
      obtain ⟨d, hhead, hd⟩ := h.head hbase
      obtain rfl := Option.some.inj (hhead.symm.trans hc)
      by_contra hspace
      have hvalue := digitValue_blank (Or.inl (by simpa using hspace))
      omega
  | plus => obtain rfl := Option.some.inj hc; rfl
  | minus => obtain rfl := Option.some.inj hc; rfl

theorem extractNumber_eq (hbase : base ≤ 36) (str : Name) : extractNumber base str =
    (scanNumber base (str.dropWhile isSpace)).filter
      fun (n, _) => longMin ≤ n ∧ n ≤ longMax := by
  have hskip : (str.dropWhile isSpace).dropWhile isSpace = str.dropWhile isSpace :=
    List.dropWhile_idempotent isSpace str
  unfold extractNumber strtol
  rw [hskip]
  cases hscan : scanNumber base (str.dropWhile isSpace) with
  | none => simp
  | some read =>
      obtain ⟨n, rest⟩ := read
      obtain ⟨text, heq, hnumber, -⟩ := scanNumber_sound hscan
      have hmoved : rest ≠ str.dropWhile isSpace := by
        intro h
        rw [h] at heq
        exact hnumber.ne_nil hbase (List.self_eq_append_left.mp heq)
      by_cases hmin : n < longMin
      · simp [hmin, Option.filter, Int.not_le.mpr hmin]
      · by_cases hmax : n > longMax
        · simp [hmin, hmax, Option.filter, Int.not_le.mpr hmax]
        · simp [hmin, hmax, hmoved, Option.filter, Int.not_lt.mp hmin, Int.not_lt.mp hmax]

theorem extractNumber_sound (hbase : base ≤ 36) (h : extractNumber base str = some (n, rest)) :
    ∃ left text, str = left ++ text ++ rest ∧ Blank left ∧ Text.IsNumber base text n ∧
      ∀ c ∈ rest.head?, isDigit base c = false := by
  rw [extractNumber_eq hbase] at h
  obtain ⟨hscan, -⟩ := Option.filter_eq_some_iff.mp h
  obtain ⟨text, heq, hnumber, hrest⟩ := scanNumber_sound hscan
  refine ⟨str.takeWhile isSpace, text, ?_, fun c hc => List.mem_takeWhile_imp hc, hnumber, hrest⟩
  rw [List.append_assoc, ← heq, List.takeWhile_append_dropWhile]

theorem extractNumber_complete (hbase : base ≤ 36) (hleft : Blank left)
    (hnumber : Text.IsNumber base text n) (hrest : Ends base rest)
    (hfit : longMin ≤ n ∧ n ≤ longMax) :
    extractNumber base (left ++ text ++ rest) = some (n, rest) := by
  rw [extractNumber_eq hbase, List.append_assoc,
    (span_append hleft (number_head hnumber hbase)).2, hnumber.scan hbase hrest]
  simp [hfit]

theorem extractNumber_scalar (hbase : base ≤ 36) (h : IsScalar base str n) (behind : Name)
    (hbehind : ∀ c ∈ behind.head?, c = ':') (hfit : longMin ≤ n ∧ n ≤ longMax) :
    ∃ right, Blank right ∧ extractNumber base (str ++ behind) = some (n, right ++ behind) := by
  obtain ⟨hleft, hnumber, hright⟩ := h
  rename_i left text right
  refine ⟨right, hright, ?_⟩
  rw [List.append_assoc (left ++ text)]
  apply extractNumber_complete hbase hleft hnumber _ hfit
  apply ends_of_blank hbase
  intro c hc
  cases right with
  | nil => exact Or.inr (hbehind c hc)
  | cons d right =>
      obtain rfl := Option.some.inj hc
      exact Or.inl (hright d List.mem_cons_self)

theorem parseNumberPair_sound (hbase : base ≤ 36) (h : parseNumberPair base str = some (n, m)) :
    IsPair base str n m := by
  unfold parseNumberPair at h
  split at h
  · cases h
  · next n1 rest hfirst =>
      obtain ⟨left, text, rfl, hleft, hnumber, -⟩ := extractNumber_sound hbase hfirst
      split at h
      · next hend =>
          obtain ⟨rfl, rfl⟩ := Prod.mk.inj (Option.some.inj h)
          exact .single (.mk hleft hnumber (List.dropWhile_eq_nil_iff.mp hend))
      · next c p hcolon =>
          have hsplit : rest = rest.takeWhile isSpace ++ c :: p := by
            rw [← hcolon, List.takeWhile_append_dropWhile]
          have hright : Blank (rest.takeWhile isSpace) := fun c hc => List.mem_takeWhile_imp hc
          split at h
          · cases h
          · next hc =>
              obtain rfl := not_not.mp hc
              split at h
              · cases h
              · next n2 rest' hsecond =>
                  obtain ⟨left', text', rfl, hleft', hnumber', -⟩ :=
                    extractNumber_sound hbase hsecond
                  split at h
                  · next hend =>
                      obtain ⟨rfl, rfl⟩ := Prod.mk.inj (Option.some.inj h)
                      have hblank := List.dropWhile_eq_nil_iff.mp hend
                      rw [hsplit, ← List.append_assoc]
                      exact .pair (.mk hleft hnumber hright) (.mk hleft' hnumber' hblank)
                  · cases h

theorem parseNumberPair_complete (hbase : base ≤ 36) (h : IsPair base str n m)
    (hn : longMin ≤ n ∧ n ≤ longMax) (hm : longMin ≤ m ∧ m ≤ longMax) :
    parseNumberPair base str = some (n, m) := by
  have hend {right : Name} (hright : Blank right) : right.dropWhile isSpace = [] :=
    List.dropWhile_eq_nil_iff.mpr hright
  cases h with
  | single hfirst =>
      obtain ⟨right, hright, hextract⟩ :=
        extractNumber_scalar hbase hfirst [] nofun hn
      rw [List.append_nil, List.append_nil] at hextract
      rw [parseNumberPair, hextract]
      simp only [hend hright]
  | @pair first second _ _ hfirst hsecond =>
      obtain ⟨right, hright, hextract⟩ :=
        extractNumber_scalar hbase hfirst (':' :: second) (fun c hc => (Option.some.inj hc).symm) hn
      obtain ⟨right', hright', hextract'⟩ :=
        extractNumber_scalar hbase hsecond [] nofun hm
      rw [List.append_nil, List.append_nil] at hextract'
      have hcolon : (right ++ ':' :: second).dropWhile isSpace = ':' :: second :=
        (span_append hright (by simp [isSpace])).2
      rw [parseNumberPair, hextract]
      simp only [hcolon, hextract', hend hright', ne_eq, not_true_eq_false, if_false, if_true]

end Extraction

section Parsers

variable {β : Type} {base : Nat} {max : Int} {convert : Int → β} {toInt : β → Int}

theorem fits_of_range {n : Int} (hmax : max ≤ longMax) (h : 0 ≤ n ∧ n ≤ max) :
    longMin ≤ n ∧ n ≤ longMax :=
  ⟨Int.le_trans (by decide) h.1, Int.le_trans h.2 hmax⟩

variable (hmax : max ≤ longMax) (hconvert : ∀ n, 0 ≤ n → n ≤ max → toInt (convert n) = n)
include hmax hconvert

theorem parsePair_parses (hbase : base ≤ 36) :
    ParsesPairs base max toInt (parsePair base max convert) := by
  have haccept {str : Name} {n m : Int} (hpair : IsPair base str n m) (hn : 0 ≤ n ∧ n ≤ max)
      (hm : 0 ≤ m ∧ m ≤ max) (pfirst psecond : Option β) : parsePair base max convert str pfirst
        psecond = (true, pfirst.map fun _ => convert n, psecond.map fun _ => convert m) := by
    rw [parsePair, parseNumberPair_complete hbase hpair (fits_of_range hmax hn)
      (fits_of_range hmax hm)]
    exact if_neg (by omega)
  refine ⟨?_, ?_, ?_⟩
  · intro str pfirst psecond
    constructor
    · intro h
      unfold parsePair at h
      split at h
      · cases h
      · next n m hpair =>
          split at h
          · cases h
          · exact ⟨n, m, parseNumberPair_sound hbase hpair, by omega, by omega⟩
    · rintro ⟨n, m, hpair, hn, hm⟩
      rw [haccept hpair hn hm]
  · intro str pfirst psecond n m hpair hn hm
    exact ⟨convert n, convert m, hconvert n hn.1 hn.2, hconvert m hm.1 hm.2,
      by rw [haccept hpair hn hm]⟩
  · intro str pfirst psecond h
    unfold parsePair at h ⊢
    split at h
    · rfl
    · split at h
      · next hrange => exact congrArg Prod.snd (if_pos hrange)
      · cases h

theorem parseScalar_iff (str : Name) :
    ParsesScalar max toInt (parseScalar max convert) str ↔ NothingBehind max str := by
  have hbase : 10 ≤ 36 := by decide
  have hscalar {n : Int} (h : IsScalar 10 str n) (hn : 0 ≤ n ∧ n ≤ max) :
      ∃ right, Blank right ∧ extractNumber 10 str = some (n, right) := by
    simpa using extractNumber_scalar hbase h [] nofun (fits_of_range hmax hn)
  have haccept {n : Int} {rest : Name} (h : extractNumber 10 str = some (n, rest))
      (hn : 0 ≤ n ∧ n ≤ max) (pnumber : Option β) :
      parseScalar max convert str pnumber = (true, pnumber.map fun _ => convert n) := by
    rw [parseScalar, h]
    exact if_neg (by omega)
  constructor
  · rintro h left text rest n rfl hleft hnumber hn hrest
    have hends : Ends 10 rest := fun c hc => ⟨hrest c hc, nofun⟩
    have hextract := extractNumber_complete hbase hleft hnumber hends (fits_of_range hmax hn)
    obtain ⟨m, hm, hrange⟩ := (h.accepts none).mp (by rw [haccept hextract hn])
    obtain ⟨right, hright, hextract'⟩ := hscalar hm hrange
    obtain ⟨-, rfl⟩ := Prod.mk.inj (Option.some.inj (hextract.symm.trans hextract'))
    exact hright
  · intro h
    refine ⟨?_, ?_, ?_⟩
    · intro pnumber
      constructor
      · intro htrue
        unfold parseScalar at htrue
        split at htrue
        · cases htrue
        · next n rest hextract =>
            split at htrue
            · cases htrue
            · obtain ⟨left, text, heq, hleft, hnumber, hrest⟩ :=
                extractNumber_sound hbase hextract
              have hn : 0 ≤ n ∧ n ≤ max := by omega
              have hblank := h left text rest n heq hleft hnumber hn hrest
              exact ⟨n, heq ▸ .mk hleft hnumber hblank, hn⟩
      · rintro ⟨n, hn, hrange⟩
        obtain ⟨right, -, hextract⟩ := hscalar hn hrange
        rw [haccept hextract hrange]
    · intro pnumber n hn hrange
      obtain ⟨right, -, hextract⟩ := hscalar hn hrange
      exact ⟨convert n, hconvert n hrange.1 hrange.2, by rw [haccept hextract hrange]⟩
    · intro pnumber hfalse
      unfold parseScalar at hfalse ⊢
      split at hfalse
      · rfl
      · split at hfalse
        · next hrange => exact congrArg Prod.snd (if_pos hrange)
        · cases hfalse

end Parsers

theorem toNat_ofInt8 (n : Int) (hn : 0 ≤ n) (hmax : n ≤ 255) :
    ((UInt8.ofInt n).toNat : Int) = n := by
  rw [UInt8.ofInt, UInt8.toNat_ofNat']
  omega

theorem toNat_ofInt16 (n : Int) (hn : 0 ≤ n) (hmax : n ≤ 65535) :
    ((UInt16.ofInt n).toNat : Int) = n := by
  rw [UInt16.ofInt, UInt16.toNat_ofNat']
  omega

theorem toNat_ofInt32 (n : Int) (hn : 0 ≤ n) (hmax : n ≤ 4294967295) :
    ((UInt32.ofInt n).toNat : Int) = n := by
  rw [UInt32.ofInt, UInt32.toNat_ofNat']
  omega

/-- The parsers for pairs accept the pairs in range only, and change nothing otherwise. -/
theorem parsers_pairs :
    ParsesPairs 10 255 (fun n : UInt8 => n.toNat) parseAddress ∧
      ParsesPairs 16 65535 (fun n : UInt16 => n.toNat) parseModel :=
  ⟨parsePair_parses (by decide) toNat_ofInt8 (by decide),
    parsePair_parses (by decide) toNat_ofInt16 (by decide)⟩

theorem parseIfaceNum_iff (str : Name) :
    ParsesScalar 255 (fun n : UInt8 => n.toNat) parseIfaceNum str ↔ NothingBehind 255 str := by
  apply parseScalar_iff (by decide)
  exact toNat_ofInt8

theorem parseTimeout_iff (str : Name) :
    ParsesScalar 4294967295 (fun n : UInt32 => n.toNat) parseTimeout str ↔
      NothingBehind 4294967295 str := by
  apply parseScalar_iff (by decide)
  exact toNat_ofInt32

/-- The parsers for one number are right about the strings with nothing behind the number. -/
theorem parsers_scalar (str : Name) :
    (ParsesScalar 255 (fun n : UInt8 => n.toNat) parseIfaceNum str ↔ NothingBehind 255 str) ∧
      (ParsesScalar 4294967295 (fun n : UInt32 => n.toNat) parseTimeout str ↔
        NothingBehind 4294967295 str) :=
  ⟨parseIfaceNum_iff str, parseTimeout_iff str⟩

theorem parsers_scalar_letters :
    parseIfaceNum "5abc".toList (some 0) = (true, some 5) ∧
      parseTimeout "5abc".toList (some 0) = (true, some 5) ∧
      ¬ParsesScalar 255 (fun n : UInt8 => n.toNat) parseIfaceNum "5abc".toList ∧
      ¬ParsesScalar 4294967295 (fun n : UInt32 => n.toNat) parseTimeout "5abc".toList := by
  have hfive : Text.IsNumber 10 "5".toList 5 :=
    .unsigned (@isNumeral_of_all 10 "5".toList (by decide))
  have hbehind (max : Int) (hmax : 5 ≤ max) : ¬NothingBehind max "5abc".toList := by
    intro h
    have hend : ∀ c ∈ "abc".toList.head?, isDigit 10 c = false := by
      rintro c hc
      obtain rfl : 'a' = c := Option.some.inj hc
      rfl
    have hblank := h [] "5".toList "abc".toList 5 rfl nofun hfive ⟨by decide, hmax⟩ hend
    exact absurd (hblank 'a' (by decide)) (by decide)
  refine ⟨by decide, by decide, fun h => ?_, fun h => ?_⟩
  · exact hbehind 255 (by decide) ((parseIfaceNum_iff _).mp h)
  · exact hbehind 4294967295 (by decide) ((parseTimeout_iff _).mp h)

end Usbutils

import Usbutils.Lsusb.Print

/-! Which bytes of a descriptor a decoder takes for its fields, and which bytes it lists as they
are. The listing is the last thing that a decoder prints: a byte that is read before it begins
belongs to a field, a byte that is read behind its beginning is listed. -/
namespace Usbutils
open ByteProg

/-- The lines that list bytes: those behind the last field, and those of a format that is not
known. -/
def listings : List String := ["%sjunk at descriptor end:", "        Invalid desc format type:"]

@[simp] theorem mem_listings (format : String) : format ∈ listings ↔
    format = "%sjunk at descriptor end:" ∨ format = "        Invalid desc format type:" := by
  simp [listings]

theorem junk_mem_listings : "%sjunk at descriptor end:" ∈ listings := by decide

theorem invalid_mem_listings : "        Invalid desc format type:" ∈ listings := by decide

def startsListing : Entry Effect → Bool
  | .act (.print format _) => listings.contains format
  | _ => false

section Listing

variable {α : Type} (p : Dump α) (m : Memory) (a : Nat)

/-- The byte is read before bytes are listed: it belongs to a field that is printed. -/
def Decodes : Prop := .read a ∈ (p.log m).takeWhile fun entry => !startsListing entry

def Reports : Prop := .read a ∈ (p.log m).dropWhile fun entry => !startsListing entry

instance : Decidable (Decodes p m a) := inferInstanceAs (Decidable (_ ∈ _))

instance : Decidable (Reports p m a) := inferInstanceAs (Decidable (_ ∈ _))

end Listing

/-- Each byte behind the subtype is either decoded or listed. -/
def Accounted (p : Dump Unit) (m : Memory) (buf : Nat) : Prop :=
  ∀ i < (m buf).toNat, 3 ≤ i → (Decodes p m (buf + i) ↔ ¬Reports p m (buf + i))

instance (p : Dump Unit) (m : Memory) (buf : Nat) : Decidable (Accounted p m buf) :=
  inferInstanceAs (Decidable (∀ i < (m buf).toNat, _))

def Quiet (entry : Entry Effect) : Prop := startsListing entry = false

def Unread (a : Nat) (entry : Entry Effect) : Prop := entry ≠ .read a

section Rules

variable {α : Type} {p : Dump α} {f : α → Dump Unit} {m : Memory} {a : Nat}

@[simp] theorem quiet_read (b : Nat) : Quiet (.read b) := rfl

@[simp] theorem quiet_lookup (i n : Nat) : Quiet (.act (.lookup i n)) := rfl

@[simp] theorem quiet_print (format : String) (args : List Arg) :
    Quiet (.act (.print format args)) ↔ format ∉ listings := by
  simp [Quiet, startsListing]

@[simp] theorem unread_read (b : Nat) : Unread a (.read b) ↔ b ≠ a := by
  simp [Unread]

@[simp] theorem unread_act (e : Effect) : Unread a (.act e) := nofun

theorem read_mem_log : .read a ∈ p.log m ↔ ¬Prog.All (Unread a) p m := Prog.mem_log_iff

theorem quiet_log (hp : Prog.All Quiet p m) : ∀ entry ∈ p.log m, (!startsListing entry) = true := by
  intro entry hentry
  rw [hp entry hentry]
  rfl

@[simp] theorem decodes_bind (hp : Prog.All Quiet p m) : Decodes (p >>= f) m a ↔
    ¬Prog.All (Unread a) p m ∨ ∃ v, p.result m = .ok v ∧ Decodes (f v) m a := by
  rw [Decodes, Prog.log_bind, List.takeWhile_append_of_pos (quiet_log hp), List.mem_append,
    read_mem_log]
  cases p.result m <;> simp [Decodes]

@[simp] theorem reports_bind (hp : Prog.All Quiet p m) : Reports (p >>= f) m a ↔
    ∃ v, p.result m = .ok v ∧ Reports (f v) m a := by
  rw [Reports, Prog.log_bind, List.dropWhile_append_of_pos (quiet_log hp)]
  cases p.result m <;> simp [Reports]

theorem decodes_of_quiet {p : Dump Unit} (hp : Prog.All Quiet p m) :
    Decodes p m a ↔ ¬Prog.All (Unread a) p m := by
  have hbind := decodes_bind (f := pure) (a := a) hp
  rw [bind_pure] at hbind
  simpa [Decodes] using hbind

theorem reports_of_quiet {p : Dump Unit} (hp : Prog.All Quiet p m) : ¬Reports p m a := by
  have hbind := reports_bind (f := pure) (a := a) hp
  rw [bind_pure] at hbind
  rw [hbind]
  simp [Reports]

theorem log_print_bind (format : String) (args : List Arg) (rest : Unit → Dump Unit) :
    (print format args >>= rest).log m = .act (.print format args) :: (rest ()).log m := rfl

theorem startsListing_print {format : String} (hformat : format ∈ listings) (args : List Arg) :
    startsListing (.act (.print format args)) = true := by
  simpa [startsListing] using hformat

theorem reports_listing {format : String} (hformat : format ∈ listings) (args : List Arg)
    (rest : Unit → Dump Unit) :
    Reports (print format args >>= rest) m a ↔ ¬Prog.All (Unread a) (rest ()) m := by
  rw [Reports, log_print_bind, List.dropWhile_cons, startsListing_print hformat, ← read_mem_log]
  simp

theorem decodes_listing {format : String} (hformat : format ∈ listings) (args : List Arg)
    (rest : Unit → Dump Unit) : ¬Decodes (print format args >>= rest) m a := by
  rw [Decodes, log_print_bind, List.takeWhile_cons, startsListing_print hformat]
  simp

theorem guardLength_pass {bLength need : Nat} (h : need ≤ bLength) (rest : Dump Unit) :
    guardLength bLength need rest = rest := if_neg (Nat.not_lt.mpr h)

end Rules

section Programs

variable {m : Memory} {buf i : Nat}

theorem exists_shifted {n base i : Nat} : (∃ j < n, base + j = i) ↔ base ≤ i ∧ i < base + n := by
  constructor
  · rintro ⟨j, hj, rfl⟩
    omega
  · rintro ⟨hlo, hhi⟩
    exact ⟨i - base, by omega, by omega⟩

/-- The bytes from the start that is passed to it on are what `dump_junk` lists. -/
@[simp] theorem dumpJunk_reports (indent : String) (len : Nat) :
    Reports (dumpJunk buf indent len) m (buf + i) ↔ len ≤ i ∧ i < (m buf).toNat := by
  rw [dumpJunk, reports_bind (by simp)]
  simp only [Prog.result_byte, Except.ok.injEq, exists_eq_left', Prog.when]
  split
  case isTrue hlen =>
    rw [reports_listing junk_mem_listings]
    simp [Prog.all_loop_iff, Prog.result_loop, exists_shifted]
    omega
  case isFalse hlen =>
    simp [reports_of_quiet]
    omega

@[simp] theorem dumpJunk_decodes (indent : String) (len : Nat) :
    Decodes (dumpJunk buf indent len) m (buf + i) ↔ i = 0 := by
  rw [dumpJunk, decodes_bind (by simp)]
  simp only [Prog.result_byte, Except.ok.injEq, exists_eq_left', Prog.when]
  split
  case isTrue hlen => simp [decodes_listing junk_mem_listings]
  case isFalse hlen => simp [decodes_of_quiet]

def LongEnough (p : Dump Unit) (m : Memory) : Prop :=
  .print "      Warning: Descriptor too short\n" [] ∉ p.acts m

instance (p : Dump Unit) (m : Memory) : Decidable (LongEnough p m) :=
  inferInstanceAs (Decidable (_ ∉ _))

theorem longEnough_iff {p : Dump Unit} : LongEnough p m ↔
    Prog.All (Avoids (.print "      Warning: Descriptor too short\n" [])) p m := by
  rw [LongEnough, mem_acts_iff_avoids, not_not]

theorem LongEnough.bind {α : Type} {p : Dump α} {f : α → Dump Unit} {v : α}
    (h : LongEnough (p >>= f) m) (hp : p.result m = .ok v) : LongEnough (f v) m := by
  rw [LongEnough, Prog.acts_bind_ok hp, List.mem_append, not_or] at h
  exact h.2

theorem LongEnough.guard {bLength need : Nat} {rest : Dump Unit}
    (h : LongEnough (guardLength bLength need rest) m) : need ≤ bLength ∧ LongEnough rest m := by
  unfold guardLength at h
  split at h
  case isTrue => exact absurd (List.mem_singleton_self _) h
  case isFalse hlen => exact ⟨Nat.not_lt.mp hlen, h⟩

/-- Which bytes a decoder takes for its fields, from an index on, and which it lists. -/
structure Parts (p : Dump Unit) (m : Memory) (buf first : Nat) (taken left : Nat → Prop) :
    Prop where
  decodes : ∀ i, first ≤ i → (Decodes p m (buf + i) ↔ taken i)
  reports : ∀ i, Reports p m (buf + i) ↔ left i

theorem Parts.accounted {p : Dump Unit} {taken left : Nat → Prop}
    (h : Parts p m buf 3 taken left) :
    Accounted p m buf ↔ ∀ i < (m buf).toNat, 3 ≤ i → (taken i ↔ ¬left i) := by
  apply forall₂_congr
  intro i _
  apply imp_congr_right
  intro hi
  rw [h.decodes i hi, h.reports i]

theorem Parts.after_print {p : Dump Unit} {first : Nat} {taken left : Nat → Prop}
    {format : String} {args : List Arg} (hformat : format ∉ listings)
    (h : Parts p m buf first taken left) :
    Parts (do print format args; p) m buf first taken left := by
  have hquiet : Prog.All Quiet (print format args) m :=
    (all_print ..).mpr ((quiet_print ..).mpr hformat)
  constructor
  · intro i hi
    simp [hquiet, h.decodes i hi]
  · intro i
    simp [hquiet, h.reports i]

/-- The bytes before the start of the listing are taken, and no others. -/
abbrev SplitsAt (p : Dump Unit) (m : Memory) (buf first start : Nat) : Prop :=
  Parts p m buf first (fun i => i < start) fun i => start ≤ i ∧ i < (m buf).toNat

theorem SplitsAt.accounted {p : Dump Unit} {start : Nat} (h : SplitsAt p m buf 3 start) :
    Accounted p m buf := by
  apply (Parts.accounted h).mpr
  intro i hi _
  omega

theorem headed_longEnough {type : Nat} {title : String} {rest : Nat → Nat → Dump Unit}
   (h : LongEnough (do
      checkType buf type
      let bLength ← Prog.byte buf
      guardLength bLength 3 do
        interfaceHeading title buf
        rest bLength (← Prog.byte (buf + 2))) m) :
    3 ≤ (m buf).toNat ∧ LongEnough (rest (m buf).toNat (m (buf + 2)).toNat) m := by
  obtain ⟨hlen, hrest⟩ := ((h.bind (result_checkType ..)).bind (Prog.result_byte ..)).guard
  exact ⟨hlen, (hrest.bind (result_interfaceHeading ..)).bind (Prog.result_byte ..)⟩

theorem headed_accounted {type : Nat} {title : String} {rest : Nat → Nat → Dump Unit}
    (htitle : title ∉ listings) (hlen : 3 ≤ (m buf).toNat) :
    Accounted (do
      checkType buf type
      let bLength ← Prog.byte buf
      guardLength bLength 3 do
        interfaceHeading title buf
        rest bLength (← Prog.byte (buf + 2))) m buf ↔
      Accounted (rest (m buf).toNat (m (buf + 2)).toNat) m buf := by
  rw [mem_listings, not_or] at htitle
  have hcheck : Prog.All Quiet (checkType buf type) m := by simp [checkType]
  have hheading : Prog.All Quiet (interfaceHeading title buf) m := by
    simp [interfaceHeading, htitle]
  apply Parts.accounted
  constructor
  · intro i hi
    have hcheck' : Prog.All (Unread (buf + i)) (checkType buf type) m := by
      simp [checkType]
      omega
    have hheading' : Prog.All (Unread (buf + i)) (interfaceHeading title buf) m := by
      simp [interfaceHeading]
      omega
    have h0 : i ≠ 0 := by omega
    have h2 : 2 ≠ i := by omega
    simp [hcheck, hcheck', hheading, hheading', guardLength_pass hlen, h0, h2]
  · intro i
    simp [hcheck, hheading, guardLength_pass hlen]

end Programs

end Usbutils

import Usbutils.Lib.Forest

/-! Forests as lists of lines with a depth each, as an indented text has them. -/
namespace Linked.Forest

variable {node : Type}

def outline (depth : Nat) : Forest node → List (Nat × node)
  | nil => []
  | cons i kids rest => (depth, i) :: (kids.outline (depth + 1) ++ rest.outline depth)

/-- The lines at this depth, each with the deeper lines behind it, up to one that is less deep. -/
def ofOutline (depth : Nat) : List (Nat × node) → Forest node
  | [] => nil
  | (d, i) :: lines =>
      if d = depth then cons i (ofOutline (depth + 1) lines) (ofOutline depth lines)
      else if depth < d then ofOutline depth lines
      else nil

def EndsBefore (depth : Nat) (lines : List (Nat × node)) : Prop :=
  ∀ line ∈ lines.head?, line.1 < depth

variable {depth : Nat} {lines : List (Nat × node)}

theorem EndsBefore.ofOutline (h : EndsBefore depth lines) : ofOutline depth lines = nil := by
  cases lines with
  | nil => rfl
  | cons line lines =>
      have hlt : line.1 < depth := h line rfl
      rw [Forest.ofOutline, if_neg (Nat.ne_of_lt hlt), if_neg (Nat.not_lt_of_lt hlt)]

theorem EndsBefore.outline (h : EndsBefore depth lines) (f : Forest node) :
    EndsBefore (depth + 1) (f.outline depth ++ lines) := by
  cases f with
  | nil => exact fun line hline => Nat.lt_succ_of_lt (h line hline)
  | cons i kids rest =>
      rintro line ⟨⟩
      exact Nat.lt_succ_self depth

theorem ofOutline_deeper {d : Nat} (hd : depth < d) (f : Forest node) :
    ofOutline depth (f.outline d ++ lines) = ofOutline depth lines := by
  induction f generalizing d lines with
  | nil => rfl
  | cons i kids rest ihkids ihrest =>
      rw [outline, List.cons_append, ofOutline, if_neg (Nat.ne_of_gt hd), if_pos hd,
        List.append_assoc, ihkids (Nat.lt_succ_of_lt hd), ihrest hd]

/-- The lines of a forest make up the forest. -/
theorem ofOutline_append (f : Forest node) (h : EndsBefore depth lines) :
    ofOutline depth (f.outline depth ++ lines) = f := by
  induction f generalizing depth lines with
  | nil => exact h.ofOutline
  | cons i kids rest ihkids ihrest =>
      rw [outline, List.cons_append, ofOutline, if_pos rfl, List.append_assoc,
        ihkids (h.outline rest), ofOutline_deeper (Nat.lt_succ_self depth), ihrest h]

theorem endsBefore_nil : EndsBefore depth ([] : List (Nat × node)) := by simp [EndsBefore]

end Linked.Forest

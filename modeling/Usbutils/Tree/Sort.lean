import Usbutils.Tree.Connect

/-! The sorts of `lsusb-t.c`: the children of each hub by port, the interfaces of each
device by number and the buses by number. A pass over the children of a hub sorts all
that is behind each of them again before it compares the two. -/
namespace Usbutils
open Linked

section Sorts

variable (st : State)

def sortDevInterfaces (i : IfaceCell) (links : Links IfaceCell Nat) :
    Option (Links IfaceCell Nat) :=
  Links.bubbleSort .next
    [Bubble.above fun i => (st.interface i).configuration,
      Bubble.above fun i => (st.interface i).ifnum]
    i links

def port (d : Nat) : Nat := (st.device d).portnum

mutual

def Wires.sortDevSiblings (d : DeviceCell) (w : Wires) : Option Wires := do
  let p ← w.devices d
  let w ← (if w.devices (.child p) = none then some w else w |>.sortDevSiblings (.child p))
  let ifaces ←
    (if w.ifaces (.ofDevice p) = none then some w.ifaces
    else sortDevInterfaces st (.ofDevice p) w.ifaces)
  { w with ifaces } |>.siblingPasses d
partial_fixpoint

/-- The `do` loop of `sort_dev_siblings`. -/
def Wires.siblingPasses (d : DeviceCell) (w : Wires) : Option Wires := do
  let p ← w.devices d
  let (w, swapped) ← w |>.siblingPass d p false
  if swapped then w |>.siblingPasses d else return w
partial_fixpoint

/-- The `while` loop of `sort_dev_siblings`. -/
def Wires.siblingPass (pp : DeviceCell) (p : Nat) (swapped : Bool) (w : Wires) :
    Option (Wires × Bool) :=
  match w.devices (.next p) with
  | none => some (w, swapped)
  | some _ => do
      let w ← w |>.sortDevSiblings (.next p)
      let (devices, p, swapped) ← Linked.compare .next pp (w.devices, p, swapped) (Bubble.above (port st))
      let q ← devices (.next p)
      { w with devices } |>.siblingPass (.next p) q swapped
partial_fixpoint

end

def sortDevices (w : Wires) : Option Wires :=
  Links.forEach .next st.busLinks
    (fun b w => if w.devices (.root b) = none then some w else w.sortDevSiblings st (.root b))
    .usbbuslist w

def sortBusses (busLinks : Links BusCell Nat) : Option (Links BusCell Nat) :=
  if busLinks .usbbuslist = none then some busLinks
  else Links.bubbleSort .next [Bubble.above fun b => (st.bus b).busnum] .usbbuslist busLinks

end Sorts

section Interfaces

variable {st : State} {links links' : Links IfaceCell Nat} {cell : IfaceCell} {nodes : List Nat}

def InterfaceOrder (st : State) (a b : Nat) : Prop :=
  (st.interface a).configuration < (st.interface b).configuration ∨
    (st.interface a).configuration = (st.interface b).configuration ∧
      (st.interface a).ifnum ≤ (st.interface b).ifnum

/-- No interface has a smaller number and a larger configuration than another one. -/
def Consistent (st : State) (nodes : List Nat) : Prop :=
  ∀ a ∈ nodes, ∀ b ∈ nodes, (st.interface a).ifnum < (st.interface b).ifnum →
    (st.interface a).configuration ≤ (st.interface b).configuration

instance (nodes : List Nat) : Decidable (Consistent st nodes) :=
  inferInstanceAs (Decidable (∀ a ∈ nodes, ∀ b ∈ nodes, _ → _))

/-- The last pass has left every interface alone, so both orders agree with the result. -/
theorem consistent_of_returned (h : Chain .next links cell nodes) (hne : nodes ≠ [])
    (hrun : sortDevInterfaces st cell links = some links') : Consistent st nodes := by
  obtain ⟨sorted, -, hperm, hagree⟩ := bubbleSort_returned h hne hrun
  have hboth : sorted.IsChain fun a b =>
      (st.interface a).configuration ≤ (st.interface b).configuration ∧
        (st.interface a).ifnum ≤ (st.interface b).ifnum := by
    apply hagree.imp
    intro a b hab
    simpa [Bubble.above] using hab
  have htrans : IsTrans Nat fun a b =>
      (st.interface a).configuration ≤ (st.interface b).configuration ∧
        (st.interface a).ifnum ≤ (st.interface b).ifnum :=
    ⟨fun _ _ _ h h' => ⟨h.1.trans h'.1, h.2.trans h'.2⟩⟩
  have hpairs := hboth.pairwise
  have hany := List.Pairwise.forall_of_forall_of_flip (l := sorted)
    (R := fun a b => (st.interface a).ifnum < (st.interface b).ifnum →
      (st.interface a).configuration ≤ (st.interface b).configuration)
    (fun a _ _ => le_rfl) (hpairs.imp fun hab _ => hab.1)
    (hpairs.imp fun hab hba => absurd hab.2 hba.not_ge)
  exact fun a ha b hb => hany (hperm.mem_iff.mpr ha) (hperm.mem_iff.mpr hb)

theorem sortDevInterfaces_consistent (h : Chain .next links cell nodes) (hne : nodes ≠ [])
    (hconsistent : Consistent st nodes) :
    ∃ links' sorted, sortDevInterfaces st cell links = some links' ∧
      Chain .next links' cell sorted ∧ sorted.Perm nodes ∧ sorted.Pairwise (InterfaceOrder st) := by
  obtain ⟨links', hrun, hchain, -⟩ := bubbleSort_byKey
    (fun i => toLex ((st.interface i).ifnum, (st.interface i).configuration)) h hne
    fun a ha b hb => Bubble.amount_keys (fun i => (st.interface i).configuration)
      (fun i => (st.interface i).ifnum) (hconsistent a ha b hb) (hconsistent b hb a ha)
  have hperm := Bubble.byKey_perm
    (fun i => toLex ((st.interface i).ifnum, (st.interface i).configuration)) nodes
  have hascending := Bubble.pairwise_byKey
    (fun i => toLex ((st.interface i).ifnum, (st.interface i).configuration)) nodes
  refine ⟨links', _, hrun, hchain, hperm, hascending.imp_of_mem fun {a b} ha hb hab => ?_⟩
  have hagree := hconsistent a (hperm.subset ha) b (hperm.subset hb)
  rw [Prod.Lex.toLex_le_toLex] at hab
  unfold InterfaceOrder
  omega

/-- The sort returns and leaves the interfaces in order if and only if their numbers and
their configurations do not contradict each other. -/
theorem sortDevInterfaces_sorts_iff (h : Chain .next links cell nodes) (hne : nodes ≠ []) :
    (∃ links' sorted, sortDevInterfaces st cell links = some links' ∧
      Chain .next links' cell sorted ∧ sorted.Perm nodes ∧
        sorted.Pairwise (InterfaceOrder st)) ↔ Consistent st nodes := by
  constructor
  · rintro ⟨links', sorted, hrun, -⟩
    exact consistent_of_returned h hne hrun
  · exact sortDevInterfaces_consistent h hne

def crossedInterfaces : State :=
  { State.initial with
    interfaces :=
      [{ (default : UsbInterface) with configuration := 1, ifnum := 1 },
        { (default : UsbInterface) with configuration := 2, ifnum := 0 }] }

def crossedLinks : Links IfaceCell Nat
  | .ofDevice 0 => some 0
  | .next 0 => some 1
  | _ => none

/-- Each pass exchanges the two for their numbers and back for their configurations. -/
theorem sortDevInterfaces_endless :
    Chain .next crossedLinks (.ofDevice 0) [0, 1] ∧
      sortDevInterfaces crossedInterfaces (.ofDevice 0) crossedLinks = none := by
  have hchain : Chain .next crossedLinks (.ofDevice 0) [0, 1] := ⟨rfl, rfl, rfl⟩
  refine ⟨hchain, ?_⟩
  by_contra hreturned
  obtain ⟨links', hrun⟩ := Option.ne_none_iff_exists'.mp hreturned
  have hconsistent := consistent_of_returned hchain (by simp) hrun
  exact absurd hconsistent (by decide)

def reversedInterfaces : State :=
  { State.initial with
    interfaces :=
      [{ (default : UsbInterface) with configuration := 1, ifnum := 1 },
        { (default : UsbInterface) with configuration := 1, ifnum := 0 }] }

theorem sortDevInterfaces_reversed :
    ∃ links' sorted, sortDevInterfaces reversedInterfaces (.ofDevice 0) crossedLinks = some links' ∧
      Chain .next links' (.ofDevice 0) sorted ∧ sorted.Perm [0, 1] ∧
        sorted.Pairwise (InterfaceOrder reversedInterfaces) :=
  have hchain : Chain .next crossedLinks (.ofDevice 0) [0, 1] := ⟨rfl, rfl, rfl⟩
  (sortDevInterfaces_sorts_iff hchain (by simp)).mpr (by decide)

end Interfaces

variable {st : State} {lists : IfaceCell → List Nat} {done done' : List Nat} {w w' w'' : Wires}

structure Sortable (st : State) (lists : IfaceCell → List Nat) : Prop where
  configuration : ∀ d, ∀ a ∈ lists (.ofDevice d), ∀ b ∈ lists (.ofDevice d),
    (st.interface a).configuration = (st.interface b).configuration
  ifnums : ∀ d, ((lists (.ofDevice d)).map fun i => (st.interface i).ifnum).Nodup

def OneConfiguration (st : State) (lists : IfaceCell → List Nat) (d : Nat) : Prop :=
  ∀ a ∈ lists (.ofDevice d), ∀ b ∈ lists (.ofDevice d),
    (st.interface a).configuration = (st.interface b).configuration

instance (d : Nat) : Decidable (OneConfiguration st lists d) :=
  inferInstanceAs (Decidable (∀ a ∈ lists (.ofDevice d), ∀ b ∈ lists (.ofDevice d), _ = _))

def resort (st : State) (lists : IfaceCell → List Nat) (done : List Nat) : IfaceCell → List Nat
  | .ofDevice d =>
      if d ∈ done then Bubble.byKey (fun i => (st.interface i).ifnum) (lists (.ofDevice d))
      else lists (.ofDevice d)
  | c => lists c

theorem resort_nil : resort st lists [] = lists := by
  funext c
  cases c <;> simp [resort]

theorem resort_congr (h : ∀ d, d ∈ done' ↔ d ∈ done) :
    resort st lists done' = resort st lists done := by
  funext c
  cases c <;> simp [resort, h]

theorem resort_perm (d : Nat) :
    (resort st lists done (.ofDevice d)).Perm (lists (.ofDevice d)) := by
  rw [resort]
  split
  · exact Bubble.byKey_perm (fun i => (st.interface i).ifnum) _
  · exact List.Perm.refl _

theorem resort_cons (d : Nat) :
    resort st lists (d :: done) = Function.update (resort st lists done) (.ofDevice d)
      (Bubble.byKey (fun i => (st.interface i).ifnum) (resort st lists done (.ofDevice d))) := by
  funext c
  by_cases hc : c = .ofDevice d
  · subst hc
    rw [Function.update_self]
    by_cases hd : d ∈ done
    · simp [resort, hd, Bubble.byKey_byKey]
    · simp [resort, hd]
  · rw [Function.update_of_ne hc]
    cases c with
    | ofDevice d' =>
        have hd : d' ≠ d := fun h => hc (congrArg IfaceCell.ofDevice h)
        simp [resort, hd]
    | ofBus b => rfl
    | next i => rfl

theorem sortDevInterfaces_lists {links : Links IfaceCell Nat} {d : Nat}
    (hone : OneConfiguration st lists d) (h : Lists .next links (resort st lists done)) :
    ∃ links', (if links (.ofDevice d) = none then some links
        else sortDevInterfaces st (.ofDevice d) links) = some links' ∧
      Lists .next links' (resort st lists (d :: done)) := by
  have hhead : ∀ i, IfaceCell.ofDevice d ≠ .next i := by simp
  have hchain := h.chain (.ofDevice d) hhead
  have hperm := @resort_perm st lists done d
  rw [resort_cons d]
  cases hlist : resort st lists done (.ofDevice d) with
  | nil =>
      rw [hlist] at hchain
      refine ⟨links, if_pos hchain, ?_⟩
      convert h using 1
      funext c
      by_cases hc : c = .ofDevice d
      · subst hc
        simp [hlist, Bubble.byKey]
      · rw [Function.update_of_ne hc]
  | cons i rest =>
      rw [hlist] at hchain
      rw [if_neg (by simp [hchain.1]), ← hlist]
      apply @Lists.sort _ _ _ _ (.ofDevice d) _ (resort st lists done) _ _
        (fun i => (st.interface i).ifnum) [Bubble.above fun i => (st.interface i).configuration] h
        (fun a b hab => by cases hab; rfl) hhead (by simp [hlist])
      intro wrong hwrong a ha b hb
      obtain rfl := List.mem_singleton.mp hwrong
      have heq := hone a (hperm.subset ha) b (hperm.subset hb)
      simp [Bubble.above, heq]

variable {cell : DeviceCell} {f f' f'' kids rest below others : Forest Nat} {p t : Nat}

/-- The forest at the cell, and the interfaces. -/
structure Arranged (st : State) (lists : IfaceCell → List Nat) (w : Wires) (cell : DeviceCell)
    (f : Forest Nat) (done : List Nat) : Prop where
  holds : Forest.Holds w.devices cell f
  nodup : f.nodes.Nodup
  outside : ¬f.Inside cell
  ifaces : Lists .next w.ifaces (resort st lists done)

/-- The forest has become another one of the same nodes, and nothing else is changed. -/
structure Rearranged (st : State) (lists : IfaceCell → List Nat) (w w' : Wires) (cell : DeviceCell)
    (f f' : Forest Nat) (done : List Nat) : Prop where
  arranged : Arranged st lists w' cell f' done
  perm : f'.nodes.Perm f.nodes
  frame : ∀ c, c ≠ cell → ¬f.Inside c → w'.devices c = w.devices c

theorem Rearranged.trans (h : Rearranged st lists w w' cell f f' done)
    (h' : Rearranged st lists w' w'' cell f' f'' done') :
    Rearranged st lists w w'' cell f f'' done' where
  arranged := h'.arranged
  perm := h'.perm.trans h.perm
  frame := fun c hc hin =>
    (h'.frame c hc fun hin' => hin (hin'.of_perm h.perm)).trans (h.frame c hc hin)

theorem Rearranged.congr (h : Rearranged st lists w w' cell f f' done)
    (hdone : ∀ d, d ∈ done' ↔ d ∈ done) : Rearranged st lists w w' cell f f' done' := by
  obtain ⟨⟨hholds, hnodup, houtside, hifaces⟩, hperm, hframe⟩ := h
  rw [← resort_congr hdone] at hifaces
  exact ⟨⟨hholds, hnodup, houtside, hifaces⟩, hperm, hframe⟩

theorem Arranged.refl (h : Arranged st lists w cell f done) :
    Rearranged st lists w w cell f f done :=
  ⟨h, List.Perm.refl _, fun _ _ _ => rfl⟩

theorem Arranged.child (h : Arranged st lists w cell (.cons p kids rest) done) :
    Arranged st lists w (.child p) kids done := by
  have hnodup := List.nodup_cons.mp h.nodup
  exact ⟨h.holds.2.1, (List.nodup_append.mp hnodup.2).1,
    fun hin => hnodup.1 (List.mem_append_left _ hin), h.ifaces⟩

theorem Arranged.next (h : Arranged st lists w cell (.cons p kids rest) done) :
    Arranged st lists w (.next p) rest done := by
  have hnodup := List.nodup_cons.mp h.nodup
  exact ⟨h.holds.2.2, (List.nodup_append.mp hnodup.2).2.1,
    fun hin => hnodup.1 (List.mem_append_right _ hin), h.ifaces⟩

theorem inside_disjoint {c : DeviceCell} (hnodup : (Forest.cons p kids rest).nodes.Nodup)
    (hkids : kids.Inside c) : c ≠ .next p ∧ ¬rest.Inside c := by
  simp only [Forest.nodes, List.nodup_cons, List.mem_append, not_or, List.nodup_append] at hnodup
  obtain ⟨hp, -, -, hdisj⟩ := hnodup
  cases c with
  | root b => exact absurd hkids id
  | child i => exact ⟨by simp, fun hrest => hdisj i hkids i hrest rfl⟩
  | next i =>
      refine ⟨?_, fun hrest => hdisj i hkids i hrest rfl⟩
      intro heq
      cases heq
      exact hp.1 hkids

/-- A change at a cell of the first node of a forest, and inside the part behind the cell. -/
theorem Arranged.inPart {first : DeviceCell} {part part' f' : Forest Nat}
    (h : Arranged st lists w cell (.cons p kids rest) done)
    (hpart : Rearranged st lists w w' first part part' done')
    (hfirst : (Forest.cons p kids rest).Inside first)
    (hinside : ∀ c : DeviceCell, part.Inside c → (Forest.cons p kids rest).Inside c)
    (hperm : f'.nodes.Perm (Forest.cons p kids rest).nodes)
    (hholds : w'.devices cell = some p → Forest.Holds w'.devices cell f') :
    Rearranged st lists w w' cell (.cons p kids rest) f' done' := by
  have hframe : ∀ c, ¬(Forest.cons p kids rest).Inside c → w'.devices c = w.devices c := by
    intro c hc
    apply hpart.frame c
    · rintro rfl
      exact hc hfirst
    · exact fun hin => hc (hinside c hin)
  refine ⟨⟨hholds ?_, ?_, ?_, hpart.arranged.ifaces⟩, hperm, fun c _ hc => hframe c hc⟩
  · exact (hframe cell h.outside).trans h.holds.1
  · exact hperm.nodup_iff.mpr h.nodup
  · exact fun hin => h.outside (hin.of_perm hperm)

theorem Arranged.behind (h : Arranged st lists w cell (.cons p kids rest) done)
    (hrest : Rearranged st lists w w' (.next p) rest others done') :
    Rearranged st lists w w' cell (.cons p kids rest) (.cons p kids others) done' := by
  apply h.inPart hrest Forest.inside_next fun c hc => hc.of_rest
  · exact (hrest.perm.append_left _).cons p
  · intro hcell
    refine ⟨hcell, h.holds.2.1.of_agree ?_ fun c hc => ?_, hrest.arranged.holds⟩
    · exact hrest.frame _ (by simp) fun hin =>
        (List.nodup_cons.mp h.nodup).1 (List.mem_append_right _ hin)
    · exact hrest.frame c (inside_disjoint h.nodup hc).1 (inside_disjoint h.nodup hc).2

theorem Arranged.under (h : Arranged st lists w cell (.cons p kids rest) done)
    (hkids : Rearranged st lists w w' (.child p) kids below done') :
    Rearranged st lists w w' cell (.cons p kids rest) (.cons p below rest) done' := by
  have hp := (List.nodup_cons.mp h.nodup).1
  apply h.inPart hkids Forest.inside_child fun c hc => hc.of_kids
  · exact (hkids.perm.append_right _).cons p
  · intro hcell
    refine ⟨hcell, hkids.arranged.holds, h.holds.2.2.of_agree ?_ fun c hc => ?_⟩
    · exact hkids.frame _ (by simp) fun hin => hp (List.mem_append_left _ hin)
    · apply hkids.frame c
      · rintro rfl
        exact hp (List.mem_append_right _ hc)
      · exact fun hin => (inside_disjoint h.nodup hin).2 hc

theorem Arranged.exchange
    (h : Arranged st lists w cell (.cons p kids (.cons t below rest)) done) :
    Rearranged st lists w { w with devices := Linked.exchange .next w.devices cell p t } cell
      (.cons p kids (.cons t below rest)) (.cons t below (.cons p kids rest)) done := by
  have hperm : (Forest.cons t below (Forest.cons p kids rest)).nodes.Perm
      (Forest.cons p kids (Forest.cons t below rest)).nodes :=
    List.perm_append_comm_assoc (t :: below.nodes) (p :: kids.nodes) rest.nodes
  refine ⟨⟨Forest.holds_exchange h.holds h.nodup h.outside, hperm.nodup_iff.mpr h.nodup, ?_,
    h.ifaces⟩, hperm, fun c hc hin => ?_⟩
  · exact fun hin => h.outside (hin.of_perm hperm)
  · apply exchange_of_ne hc
    · rintro rfl
      exact hin Forest.inside_next
    · rintro rfl
      exact hin (Forest.Inside.of_rest Forest.inside_next)

/-- The sort puts the forest at the cell in order, whatever else is in memory. -/
def SortsForest (st : State) (lists : IfaceCell → List Nat) (f : Forest Nat) : Prop :=
  ∀ cell w done, Arranged st lists w cell f done →
    ∃ w', w.sortDevSiblings st cell = some w' ∧
      Rearranged st lists w w' cell f (f.sorted (port st)) (f.nodes ++ done)

def SortsUpTo (st : State) (lists : IfaceCell → List Nat) (size : Nat) : Prop :=
  ∀ f, f ≠ .nil → f.nodes.length ≤ size → (∀ d ∈ f.nodes, OneConfiguration st lists d) →
    SortsForest st lists f

def exchanges (st : State) (p : Nat) : Forest Nat → Bool
  | .nil => false
  | .cons t _ _ => Bubble.above (port st) p t

theorem exchanges_of_ascending (h : Forest.Ascending (port st) (.cons p kids rest)) :
    exchanges st p rest = false := by
  cases rest with
  | nil => rfl
  | cons t below behind =>
      simpa [exchanges, Bubble.above] using h.2.2 t (List.mem_cons_self ..)

/-- A pass sorts what is behind the node and carries the node to its place there. -/
theorem siblingPass_insert {size : Nat} (hsort : SortsUpTo st lists size)
    (hsize : rest.nodes.length ≤ size) (hone : ∀ d ∈ rest.nodes, OneConfiguration st lists d)
    (swapped : Bool) (h : Arranged st lists w cell (.cons p kids rest) done) :
    ∃ w', Wires.siblingPass st cell p swapped w =
        some (w', swapped || exchanges st p (rest.sorted (port st))) ∧
      Rearranged st lists w w' cell (.cons p kids rest)
        (Forest.insert (port st) p kids (rest.sorted (port st))) (rest.nodes ++ done) := by
  induction hn : rest.nodes.length using Nat.strong_induction_on
    generalizing rest cell p kids swapped w done with
  | _ n ih =>
      cases hrest : rest with
      | nil =>
          subst hrest
          have hnull : w.devices (.next p) = none := h.holds.2.2
          refine ⟨w, ?_, h.refl⟩
          rw [Wires.siblingPass, hnull]
          simp [Forest.sorted, exchanges]
      | cons q more others =>
          have hq : w.devices (.next p) = some q := by
            have hholds := h.holds.2.2
            rw [hrest] at hholds
            exact hholds.1
          rw [← hrest]
          obtain ⟨w₁, hrun₁, hbehind⟩ := hsort rest (by simp [hrest]) hsize hone _ w done h.next
          have h₁ := h.behind hbehind
          have hascending := Forest.ascending_sorted (port st) rest
          have hperm := hbehind.perm
          rw [Wires.siblingPass, hq]
          simp only [hrun₁, Option.bind_eq_bind, Option.bind_some]
          cases hsorted : rest.sorted (port st) with
          | nil =>
              rw [hsorted, hrest] at hperm
              exact absurd hperm.symm.eq_nil (by simp [Forest.nodes])
          | cons t below behind =>
              rw [hsorted] at h₁ hascending hperm
              have hsame := Forest.sorted_of_ascending (port st) hascending.2.1
              have hless : behind.nodes.length < n := by
                have hlength := hperm.length_eq
                simp only [Forest.nodes, List.length_cons, List.length_append] at hlength
                omega
              have honeBehind : ∀ d ∈ behind.nodes, OneConfiguration st lists d := by
                intro d hd
                apply hone d
                rw [← hperm.mem_iff]
                exact List.mem_cons_of_mem t (List.mem_append_right _ hd)
              have hmem : ∀ d, d ∈ rest.nodes ++ done ↔ d ∈ behind.nodes ++ (rest.nodes ++ done) := by
                intro d
                simp only [List.mem_append, ← hperm.mem_iff, Forest.nodes, List.mem_cons]
                tauto
              have ht : w₁.devices (.next p) = some t := h₁.arranged.holds.2.2.1
              simp only [Linked.compare, ht, Option.bind_eq_bind, Option.bind_some]
              by_cases habove : Bubble.above (port st) p t = true
              case pos =>
                -- `p` and `t` are exchanged, and `p` is compared with what stands behind `t`
                have h₂ := h₁.arranged.exchange
                obtain ⟨w₃, hrun₃, h₃⟩ := ih _ hless (by omega) honeBehind true h₂.arranged.next rfl
                rw [hsame] at hrun₃ h₃
                have hp : exchange .next w₁.devices cell p t (.next t) = some p :=
                  h₂.arranged.holds.2.2.1
                refine ⟨w₃, ?_, ?_⟩
                · simpa [habove, exchanges, hp] using hrun₃
                · have hmove := (h₁.trans h₂).trans (h₂.arranged.behind h₃)
                  have hlt : port st t < port st p := of_decide_eq_true habove
                  rw [Forest.insert, if_pos hlt]
                  exact hmove.congr hmem
              case neg =>
                -- `p` stays; what stands behind it is in order, so nothing more is exchanged
                obtain ⟨w₃, hrun₃, h₃⟩ := ih _ hless (by omega) honeBehind swapped h₁.arranged.next rfl
                rw [hsame] at hrun₃ h₃
                rw [Forest.insert_of_ascending (port st) hascending] at h₃
                rw [exchanges_of_ascending hascending, Bool.or_false] at hrun₃
                refine ⟨w₃, ?_, ?_⟩
                · simpa [habove, exchanges, ht] using hrun₃
                · have hmove := h₁.trans (h₁.arranged.behind h₃)
                  have hle : ¬port st t < port st p := fun hlt => habove (decide_eq_true hlt)
                  rw [Forest.insert, if_neg hle]
                  exact hmove.congr hmem

/-- The first pass sorts all children, and a second one finds nothing to exchange. -/
theorem siblingPasses_insert {size : Nat} (hsort : SortsUpTo st lists size)
    (hsize : kids.nodes.length + rest.nodes.length ≤ size)
    (hone : ∀ d ∈ (Forest.cons p kids rest).nodes, OneConfiguration st lists d)
    (hkids : Forest.Ascending (port st) kids) (hdone : ∀ d ∈ p :: kids.nodes, d ∈ done)
    (h : Arranged st lists w cell (.cons p kids rest) done) :
    ∃ w', w.siblingPasses st cell = some w' ∧
      Rearranged st lists w w' cell (.cons p kids rest)
        (Forest.insert (port st) p kids (rest.sorted (port st))) (rest.nodes ++ done) := by
  have honeRest : ∀ d ∈ rest.nodes, OneConfiguration st lists d := fun d hd =>
    hone d (List.mem_cons_of_mem p (List.mem_append_right _ hd))
  obtain ⟨w₁, hrun₁, h₁⟩ := siblingPass_insert hsort (by omega) honeRest false h
  rw [Wires.siblingPasses, h.holds.1]
  simp only [hrun₁, Option.bind_eq_bind, Option.bind_some, Bool.false_or]
  cases hswapped : exchanges st p (rest.sorted (port st)) with
  | false => exact ⟨w₁, rfl, h₁⟩
  | true =>
      have hascending := Forest.ascending_insert (port st) p hkids
        (Forest.ascending_sorted (port st) rest)
      have hperm := h₁.perm
      cases hinsert : Forest.insert (port st) p kids (rest.sorted (port st)) with
      | nil =>
          rw [hinsert] at hperm
          exact absurd hperm.symm.eq_nil (by simp [Forest.nodes])
      | cons q below behind =>
          rw [hinsert] at h₁ hascending hperm
          have hsame := Forest.sorted_of_ascending (port st) hascending.2.1
          have hlength := hperm.length_eq
          simp only [Forest.nodes, List.length_cons, List.length_append] at hlength
          have honeBehind : ∀ d ∈ behind.nodes, OneConfiguration st lists d := fun d hd =>
            hone d (hperm.subset (List.mem_cons_of_mem q (List.mem_append_right _ hd)))
          obtain ⟨w₂, hrun₂, h₂⟩ := siblingPass_insert hsort (by omega) honeBehind false h₁.arranged
          rw [hsame, exchanges_of_ascending hascending] at hrun₂
          rw [hsame, Forest.insert_of_ascending (port st) hascending] at h₂
          refine ⟨w₂, ?_, (h₁.trans h₂).congr fun d => ?_⟩
          · rw [Wires.siblingPasses, h₁.arranged.holds.1]
            simp [hrun₂]
          · have hbehind : d ∈ behind.nodes → d ∈ done ∨ d ∈ rest.nodes := by
              intro hd
              have hmem := hperm.subset
                (List.mem_cons_of_mem q (List.mem_append_right below.nodes hd))
              rw [Forest.nodes, ← List.cons_append] at hmem
              exact (List.mem_append.mp hmem).imp_left (hdone d)
            simp only [List.mem_append]
            tauto

theorem sortDevSiblings_first (hone : OneConfiguration st lists p)
    (hsort : kids ≠ .nil → SortsForest st lists kids)
    (h : Arranged st lists w cell (.cons p kids rest) done) :
    ∃ w', Rearranged st lists w w' cell (.cons p kids rest)
        (.cons p (kids.sorted (port st)) rest) (p :: (kids.nodes ++ done)) ∧
      w.sortDevSiblings st cell = w'.siblingPasses st cell := by
  have hkids : ∃ w₁, (if w.devices (.child p) = none then some w
        else w.sortDevSiblings st (.child p)) = some w₁ ∧
      Rearranged st lists w w₁ (.child p) kids (kids.sorted (port st)) (kids.nodes ++ done) := by
    have hchild := h.holds.2.1
    cases kids with
    | nil => exact ⟨w, if_pos hchild, h.child.refl⟩
    | cons i more others =>
        rw [if_neg (by simp [hchild.1])]
        exact hsort (by simp) (.child p) w done h.child
  obtain ⟨w₁, hrun₁, hbelow⟩ := hkids
  have h₁ := h.under hbelow
  obtain ⟨ifaces, hrun₂, hifaces⟩ := sortDevInterfaces_lists hone h₁.arranged.ifaces
  refine ⟨{ w₁ with ifaces }, ⟨⟨h₁.arranged.holds, h₁.arranged.nodup, h₁.arranged.outside, hifaces⟩,
    h₁.perm, h₁.frame⟩, ?_⟩
  rw [Wires.sortDevSiblings, h.holds.1]
  simp only [hrun₁, hrun₂, Option.bind_eq_bind, Option.bind_some]

theorem sortDevSiblings_sorted (f : Forest Nat) (hne : f ≠ .nil)
    (hone : ∀ d ∈ f.nodes, OneConfiguration st lists d) : SortsForest st lists f := by
  induction hn : f.nodes.length using Nat.strong_induction_on generalizing f with
  | _ n ih =>
      intro cell w done h
      cases f with
      | nil => exact absurd rfl hne
      | cons p kids rest =>
          simp only [Forest.nodes, List.length_cons, List.length_append] at hn
          have hsort : SortsUpTo st lists (kids.nodes.length + rest.nodes.length) :=
            fun f hf hsize honef => ih f.nodes.length (by omega) f hf honef rfl
          have honeKids : ∀ d ∈ kids.nodes, OneConfiguration st lists d := fun d hd =>
            hone d (List.mem_cons_of_mem p (List.mem_append_left _ hd))
          obtain ⟨w₁, h₁, hrun⟩ := sortDevSiblings_first (hone p List.mem_cons_self)
            (fun hkids => hsort kids hkids (by omega) honeKids) h
          have hperm := Forest.nodes_sorted (port st) kids
          obtain ⟨w₂, hrun₂, h₂⟩ := siblingPasses_insert hsort (by rw [hperm.length_eq])
            (fun d hd => hone d (h₁.perm.subset hd))
            (Forest.ascending_sorted (port st) kids)
            (fun d hd => by
              rw [List.mem_cons, hperm.mem_iff] at hd
              simp only [List.mem_cons, List.mem_append]
              tauto) h₁.arranged
          refine ⟨w₂, hrun.trans hrun₂, (h₁.trans h₂).congr fun d => ?_⟩
          simp only [Forest.nodes, List.mem_cons, List.mem_append]
          tauto

/-- `sort_dev_siblings` returns. At the cell and below each device of its forest the list of
siblings becomes its stable sort by port, and the list of interfaces of each of them its stable
sort by interface number; nothing else is changed. -/
theorem sortDevSiblings_stable (hholds : Forest.Holds w.devices cell f) (hne : f ≠ .nil)
    (hnodup : f.nodes.Nodup) (houtside : ¬f.Inside cell) (hifaces : Lists .next w.ifaces lists)
    (hone : ∀ d ∈ f.nodes, OneConfiguration st lists d) :
    ∃ w', w.sortDevSiblings st cell = some w' ∧
      Forest.Holds w'.devices cell (f.sorted (port st)) ∧
      (∀ c, c = cell ∨ (∃ d ∈ f.nodes, c = .child d) →
        ∃ siblings, Chain .next w.devices c siblings ∧
          Chain .next w'.devices c (Bubble.byKey (port st) siblings)) ∧
      (∀ c, c ≠ cell → ¬f.Inside c → w'.devices c = w.devices c) ∧
      Lists .next w'.ifaces (resort st lists f.nodes) := by
  have harranged : Arranged st lists w cell f [] :=
    ⟨hholds, hnodup, houtside, by rwa [resort_nil]⟩
  obtain ⟨w', hrun, hmove⟩ := sortDevSiblings_sorted f hne hone cell w [] harranged
  have hsorted := hmove.arranged.holds
  have hlists := hmove.arranged.ifaces
  rw [List.append_nil] at hlists
  refine ⟨w', hrun, hsorted, ?_, hmove.frame, hlists⟩
  rintro c (rfl | ⟨d, hd, rfl⟩)
  · exact ⟨f.roots, hholds.chain, hsorted.chain_sorted (port st)⟩
  · exact Forest.children_sorted (port st) hholds.below (hsorted.below_sorted (port st)) d hd

def reversedDevices : State :=
  { reversedInterfaces with
    devices :=
      [{ (default : UsbDevice) with portnum := 2 }, { (default : UsbDevice) with portnum := 1 }] }

def reversedWires : Wires where
  devices
    | .root 0 => some 0
    | .next 0 => some 1
    | _ => none
  ifaces := crossedLinks
  ifaceParent := fun _ => none

def crossedLists : IfaceCell → List Nat
  | .ofDevice 0 => [0, 1]
  | _ => []

theorem crossedLists_crossedLinks : Lists .next crossedLinks crossedLists where
  chain := by
    intro c hc
    cases c with
    | ofBus b => rfl
    | ofDevice d =>
        cases d with
        | zero => exact ⟨rfl, rfl, rfl⟩
        | succ d => rfl
    | next i => exact absurd rfl (hc i)
  nodup := by
    intro c
    unfold crossedLists
    split <;> decide
  once := by
    intro c c' i hi hi'
    unfold crossedLists at hi hi'
    split at hi
    · split at hi'
      · rfl
      · cases hi'
    · cases hi
  unused := by
    intro i hi
    cases i with
    | zero => exact absurd (List.mem_cons_self ..) (hi (.ofDevice 0))
    | succ i => rfl

theorem sortDevSiblings_stable_reversed :
    ∃ w', Wires.sortDevSiblings reversedDevices (.root 0) reversedWires = some w' ∧
      Chain .next w'.devices (.root 0) [1, 0] ∧ Chain .next w'.ifaces (.ofDevice 0) [1, 0] := by
  have hholds : Forest.Holds reversedWires.devices (.root 0)
      (.cons 0 .nil (.cons 1 .nil .nil)) := ⟨rfl, rfl, rfl, rfl, rfl⟩
  obtain ⟨w', hrun, hsorted, -, -, hifaces⟩ := @sortDevSiblings_stable reversedDevices
    crossedLists reversedWires _ _ hholds nofun (by decide) nofun crossedLists_crossedLinks (by decide)
  exact ⟨w', hrun, hsorted.chain, hifaces.chain (.ofDevice 0) (by simp)⟩

structure Planted (st : State) (lists : IfaceCell → List Nat) (w : Wires) (buses : List Nat)
    (forests : Nat → Forest Nat) (done : List Nat) : Prop where
  holds : ∀ b ∈ buses, Forest.Holds w.devices (.root b) (forests b)
  nodup : ∀ b ∈ buses, (forests b).nodes.Nodup
  disjoint : ∀ b ∈ buses, ∀ b' ∈ buses, b ≠ b' → ∀ d ∈ (forests b).nodes, d ∉ (forests b').nodes
  ifaces : Lists .next w.ifaces (resort st lists done)

variable {buses : List Nat} {forests : Nat → Forest Nat} {b : Nat}

theorem Planted.rearrange (h : Planted st lists w buses forests done) (hb : b ∈ buses)
    (hmove : Rearranged st lists w w' (.root b) (forests b) f done') :
    Planted st lists w' buses (Function.update forests b f) done' := by
  have hnodes : ∀ b' d, d ∈ (Function.update forests b f b').nodes ↔ d ∈ (forests b').nodes := by
    intro b' d
    by_cases hb' : b' = b
    · subst hb'
      rw [Function.update_self, hmove.perm.mem_iff]
    · rw [Function.update_of_ne hb']
  refine ⟨fun b' hb' => ?_, fun b' hb' => ?_, fun b₁ h₁ b₂ h₂ hne d => ?_, hmove.arranged.ifaces⟩
  · by_cases heq : b' = b
    · subst heq
      rw [Function.update_self]
      exact hmove.arranged.holds
    · rw [Function.update_of_ne heq]
      apply (h.holds b' hb').of_agree
      · exact hmove.frame _ (by simpa using heq) id
      · intro c hc
        cases c with
        | root r => exact absurd hc id
        | child i => exact hmove.frame _ (by simp) (h.disjoint b' hb' b hb heq i hc)
        | next i => exact hmove.frame _ (by simp) (h.disjoint b' hb' b hb heq i hc)
  · by_cases heq : b' = b
    · subst heq
      rw [Function.update_self]
      exact hmove.arranged.nodup
    · rw [Function.update_of_ne heq]
      exact h.nodup b' hb'
  · rw [hnodes, hnodes]
    exact h.disjoint b₁ h₁ b₂ h₂ hne d

theorem sortBus_planted (hsortable : Sortable st lists)
    (h : Planted st lists w buses forests done) (hb : b ∈ buses) :
    ∃ w', (if w.devices (.root b) = none then some w else w.sortDevSiblings st (.root b)) = some w' ∧
      Planted st lists w' buses (Function.update forests b ((forests b).sorted (port st)))
        ((forests b).nodes ++ done) := by
  have hholds := h.holds b hb
  have harranged : Arranged st lists w (.root b) (forests b) done :=
    ⟨hholds, h.nodup b hb, id, h.ifaces⟩
  cases hforest : forests b with
  | nil =>
      rw [hforest] at hholds harranged
      refine ⟨w, if_pos hholds, ?_⟩
      apply h.rearrange hb
      rw [hforest]
      exact harranged.refl
  | cons i kids rest =>
      have hroot : w.devices (.root b) ≠ none := by
        rw [hforest] at hholds
        simp [hholds.1]
      obtain ⟨w', hrun, hmove⟩ :=
        sortDevSiblings_sorted (forests b) (by simp [hforest])
          (fun d _ => hsortable.configuration d) _ w done harranged
      rw [← hforest]
      exact ⟨w', (if_neg hroot).trans hrun, h.rearrange hb hmove⟩

def sortedOn (st : State) (sorted : List Nat) (forests : Nat → Forest Nat) (b : Nat) : Forest Nat :=
  if b ∈ sorted then (forests b).sorted (port st) else forests b

def allNodes (forests : Nat → Forest Nat) (buses : List Nat) : List Nat :=
  buses.flatMap fun b => (forests b).nodes

theorem sortBuses_planted (hsortable : Sortable st lists) (hbuses : buses.Nodup)
    {before todo : List Nat} (hsplit : buses = before ++ todo)
    (h : Planted st lists w buses (sortedOn st before forests) (allNodes forests before)) :
    ∃ w', todo.foldlM (fun w b => if w.devices (.root b) = none then some w
        else w.sortDevSiblings st (.root b)) w = some w' ∧
      Planted st lists w' buses (sortedOn st buses forests) (allNodes forests buses) := by
  induction todo generalizing before w with
  | nil =>
      rw [List.append_nil] at hsplit
      exact ⟨w, rfl, hsplit ▸ h⟩
  | cons b rest ih =>
      have hb : b ∉ before := by
        intro hmem
        rw [hsplit] at hbuses
        exact (List.nodup_append.mp hbuses).2.2 b hmem b (List.mem_cons_self ..) rfl
      have hunsorted : sortedOn st before forests b = forests b := if_neg hb
      obtain ⟨w₁, hfirst, h₁⟩ := sortBus_planted hsortable h (b := b) (by simp [hsplit])
      have hnext : Function.update (sortedOn st before forests) b ((forests b).sorted (port st)) =
          sortedOn st (before ++ [b]) forests := by
        funext b'
        by_cases hb' : b' = b
        · subst hb'
          simp [sortedOn]
        · simp [sortedOn, hb']
      rw [hunsorted, hnext] at h₁
      have hdone : ∀ d, d ∈ allNodes forests (before ++ [b]) ↔
          d ∈ (forests b).nodes ++ allNodes forests before := by
        intro d
        simp [allNodes, or_comm]
      have hplanted : Planted st lists w₁ buses (sortedOn st (before ++ [b]) forests)
          (allNodes forests (before ++ [b])) :=
        ⟨h₁.holds, h₁.nodup, h₁.disjoint, resort_congr hdone ▸ h₁.ifaces⟩
      obtain ⟨w₂, hrest, h₂⟩ := ih (hsplit.trans (List.append_cons ..)) hplanted
      refine ⟨w₂, ?_, h₂⟩
      rw [List.foldlM_cons, hfirst]
      exact hrest

/-- `sort_devices` sorts the forest of each bus and the interfaces of all devices in them. -/
theorem sortDevices_sorted (hsortable : Sortable st lists)
    (hchain : Chain .next st.busLinks .usbbuslist buses) (hbuses : buses.Nodup)
    (h : Planted st lists w buses forests []) :
    ∃ w', sortDevices st w = some w' ∧
      Planted st lists w' buses (sortedOn st buses forests) (allNodes forests buses) := by
  have hnone : sortedOn st [] forests = forests := by
    funext b
    simp [sortedOn]
  rw [sortDevices, forEach_chain hchain]
  apply sortBuses_planted hsortable hbuses (List.nil_append _).symm
  rw [hnone]
  exact h

theorem sortBusses_sorted (hchain : Chain .next st.busLinks .usbbuslist buses) :
    ∃ busLinks, sortBusses st st.busLinks = some busLinks ∧
      Chain .next busLinks .usbbuslist (Bubble.byKey (fun b => (st.bus b).busnum) buses) := by
  unfold sortBusses
  cases hbuses : buses with
  | nil =>
      rw [hbuses] at hchain
      exact ⟨st.busLinks, if_pos hchain, hchain⟩
  | cons b rest =>
      rw [hbuses] at hchain
      rw [if_neg (by simp [hchain.1])]
      obtain ⟨busLinks, hrun, hsorted, -⟩ := @bubbleSort_chain _ _ _ _ _ _ _ _ _
        (fun b => (st.bus b).busnum) [] hchain (by simp) (fun _ h => nomatch h)
      exact ⟨busLinks, hrun, hsorted⟩

end Usbutils

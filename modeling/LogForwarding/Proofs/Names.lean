import LogForwarding.Names
import Mathlib.Data.String.Basic
import Mathlib.Data.List.Basic

/-!
# Sorted names and numbered names

The names of a `sortedSet` are strictly increasing, so that the first of them with a
property is the least. Sorting other things by their names keeps those of the same name
in their order, so that looking up a name finds the same before and after. A name that is made
by writing a number tells the number.

## What is proved

* `pairwise_sortedSet`: a sorted set is strictly increasing.
* `find?_eq_some_of_least`: the first name with a property is the least.
* `find?_mergeSort_name`: sorting by name does not change what a name stands for.
* `pairwise_lt_iff_nodup`: names in order are strictly increasing iff they are distinct.
* `toDigits_ten_inj`: the digits of a number tell the number.
* `numbered_eq_iff`: a name with a number behind it tells the name and the number.
-/

namespace LogForwarding

theorem pairwise_insertName {name : String} {names : List String}
    (h : names.Pairwise (· < ·)) : (insertName name names).Pairwise (· < ·) := by
  induction names with
  | nil => exact List.pairwise_singleton _ _
  | cons other rest ih =>
    obtain ⟨hother, hrest⟩ := List.pairwise_cons.1 h
    unfold insertName
    split_ifs with hlt heq
    · refine List.pairwise_cons.2 ⟨fun x hx => ?_, h⟩
      rcases List.mem_cons.1 hx with rfl | hx
      · exact hlt
      · exact hlt.trans (hother x hx)
    · exact h
    · refine List.pairwise_cons.2 ⟨fun x hx => ?_, ih hrest⟩
      rcases mem_insertName.1 hx with rfl | hx
      · exact lt_of_le_of_ne (not_lt.1 hlt) (Ne.symm heq)
      · exact hother x hx

/-- A sorted set is strictly increasing. -/
theorem pairwise_sortedSet (names : List String) : (sortedSet names).Pairwise (· < ·) := by
  induction names with
  | nil => exact .nil
  | cons name rest ih => exact pairwise_insertName ih

/-- The first of strictly increasing names with a property is the least. -/
theorem find?_eq_some_of_least {names : List String} {p : String → Bool} {x : String}
    (h : names.Pairwise (· < ·)) (hmem : x ∈ names) (hx : p x)
    (hleast : ∀ y ∈ names, p y → x ≤ y) : names.find? p = some x := by
  induction names with
  | nil => exact absurd hmem List.not_mem_nil
  | cons name rest ih =>
    obtain ⟨hname, hrest⟩ := List.pairwise_cons.1 h
    rcases List.mem_cons.1 hmem with rfl | hmem
    · exact List.find?_cons_of_pos hx
    · have hnot : ¬ p name := fun hp =>
        absurd (hname x hmem) (not_lt.2 (hleast name List.mem_cons_self hp))
      rw [List.find?_cons_of_neg hnot]
      exact ih hrest hmem fun y hy => hleast y (List.mem_cons_of_mem name hy)

section ByName

variable {α : Type} (name : α → String)

theorem decide_name_le_trans (a b c : α) (hab : decide (name a ≤ name b))
    (hbc : decide (name b ≤ name c)) : decide (name a ≤ name c) :=
  decide_eq_true ((of_decide_eq_true hab).trans (of_decide_eq_true hbc))

theorem decide_name_le_total (a b : α) :
    decide (name a ≤ name b) || decide (name b ≤ name a) := by
  simpa using le_total (name a) (name b)

/-- Sorting by name puts the names in order. -/
theorem pairwise_mergeSort_name (l : List α) :
    (l.mergeSort fun a b => name a ≤ name b).Pairwise (name · ≤ name ·) :=
  (List.pairwise_mergeSort (decide_name_le_trans name) (decide_name_le_total name) l).imp
    of_decide_eq_true

/-- Sorting by name does not change what a name stands for. -/
theorem find?_mergeSort_name (l : List α) (x : String) :
    (l.mergeSort fun a b => name a ≤ name b).find? (name · == x) = l.find? (name · == x) := by
  have hsame : (l.filter (name · == x)).Pairwise fun a b => decide (name a ≤ name b) :=
    List.pairwise_filter.2 <| List.pairwise_of_forall fun a b ha hb =>
      decide_eq_true ((eq_of_beq ha).trans (eq_of_beq hb).symm).le
  -- The members of the name are in order already, so sorting keeps them as a sublist.
  have hsub := (List.sublist_mergeSort (decide_name_le_trans name) (decide_name_le_total name)
    hsame List.filter_sublist).filter (name · == x)
  rw [List.filter_filter, funext fun a => Bool.and_self (name a == x)] at hsub
  have heq := hsub.eq_of_length ((List.mergeSort_perm l _).filter _).length_eq.symm
  rw [← List.head?_filter, ← List.head?_filter, ← heq]

/-- Names in order are strictly increasing iff they are distinct. -/
theorem pairwise_lt_iff_nodup {l : List α} (h : l.Pairwise (name · ≤ name ·)) :
    l.Pairwise (name · < name ·) ↔ (l.map name).Nodup := by
  rw [List.Nodup, List.pairwise_map]
  constructor
  · exact fun hlt => hlt.imp fun hlt => hlt.ne
  · exact fun hne => (h.and hne).imp fun hboth => lt_of_le_of_ne hboth.1 hboth.2

end ByName

/-! ### Numbered names -/

/-- The digits of a number tell the number. -/
theorem toDigits_ten_inj {number other : Nat} :
    Nat.toDigits 10 number = Nat.toDigits 10 other ↔ number = other := by
  refine ⟨fun h => ?_, congrArg _⟩
  calc number = Nat.ofDigitChars 10 (Nat.toDigits 10 number) 0 :=
        Nat.ofDigitChars_ten_toDigits.symm
    _ = Nat.ofDigitChars 10 (Nat.toDigits 10 other) 0 := by rw [h]
    _ = other := Nat.ofDigitChars_ten_toDigits

/-- A number that is written between two texts is told by them. -/
theorem append_repr_append_inj {front back : String} {number other : Nat} :
    front ++ number.repr ++ back = front ++ other.repr ++ back ↔ number = other := by
  rw [String.append_left_inj, String.append_right_inj, ← String.toList_inj, Nat.toList_repr,
    Nat.toList_repr, toDigits_ten_inj]

theorem toList_numbered (name : String) (number : Nat) :
    s!"{name}-{number}".toList = name.toList ++ '-' :: Nat.toDigits 10 number := by
  have hnumbered : s!"{name}-{number}" = name ++ "-" ++ number.repr := rfl
  rw [hnumbered, String.toList_append, String.toList_append, Nat.toList_repr, List.append_assoc]
  rfl

theorem dash_notMem_toDigits (number : Nat) : '-' ∉ Nat.toDigits 10 number := fun h =>
  absurd (Nat.isDigit_of_mem_toDigits (by decide) (by decide) h) (by decide)

/-- A list with a mark in it, and no other one behind, is known in both halves. -/
theorem eq_of_append_cons_eq {α : Type} {mark : α} {front front' back back' : List α}
    (h : front ++ mark :: back = front' ++ mark :: back') (hback : mark ∉ back)
    (hback' : mark ∉ back') : front = front' ∧ back = back' := by
  rcases List.append_eq_append_iff.1 h with ⟨between, hfront, hrest⟩ | ⟨between, hfront, hrest⟩
  · cases between with
    | nil => exact ⟨by rw [hfront, List.append_nil], (List.cons.inj hrest).2⟩
    | cons first others =>
      rw [(List.cons.inj hrest).2] at hback
      exact absurd (List.mem_append_right _ List.mem_cons_self) hback
  · cases between with
    | nil => exact ⟨by rw [hfront, List.append_nil], (List.cons.inj hrest).2.symm⟩
    | cons first others =>
      rw [(List.cons.inj hrest).2] at hback'
      exact absurd (List.mem_append_right _ List.mem_cons_self) hback'

/-- A numbered name tells the name and the number. -/
theorem numbered_eq_iff {name other : String} {number further : Nat} :
    s!"{name}-{number}" = s!"{other}-{further}" ↔ name = other ∧ number = further := by
  constructor
  · intro h
    have hlist := congrArg String.toList h
    rw [toList_numbered, toList_numbered] at hlist
    obtain ⟨hname, hdigits⟩ :=
      eq_of_append_cons_eq hlist (dash_notMem_toDigits number) (dash_notMem_toDigits further)
    exact ⟨String.toList_inj.1 hname, toDigits_ten_inj.1 hdigits⟩
  · rintro ⟨rfl, rfl⟩
    rfl

/-- No name is that of a numbered part of its own. -/
theorem ne_numbered (name : String) (number : Nat) : name ≠ s!"{name}-{number}" := by
  intro h
  have hlength := congrArg (·.toList.length) h
  simp only [toList_numbered, List.length_append, List.length_cons] at hlength
  omega

end LogForwarding

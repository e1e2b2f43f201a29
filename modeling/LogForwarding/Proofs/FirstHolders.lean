import Mathlib.Data.List.Nodup

/-!
# First holders of a name

Both reviews of a specification let a name be taken once: of several usable entities
with one name, the first one in the list holds it. `firstHolders` is that rule on its
own, for any list of named things and any list of names that are taken already.

## What is proved

* `nodup_map_firstHolders`: no two holders share a name.
* `mem_map_firstHolders`: a name has a holder iff it occurs and was not taken.
* `filter_firstHolders`: a free name that occurs has one holder, the first in the list.
* `firstHolders_append_of_held`: where names are distinct, everything is a holder, and nothing
  that follows under the same names is.
-/

namespace LogForwarding

variable {α : Type} {name : α → String}

/-- The members of a list that are the first with their name, leaving out those whose
name is taken already. -/
def firstHolders (name : α → String) : List String → List α → List α
  | _, [] => []
  | taken, a :: rest =>
    if name a ∈ taken then firstHolders name taken rest
    else a :: firstHolders name (name a :: taken) rest

@[simp] theorem firstHolders_nil (taken : List String) : firstHolders name taken [] = [] := rfl

theorem firstHolders_cons_of_mem {taken : List String} {a : α} (h : name a ∈ taken)
    (rest : List α) : firstHolders name taken (a :: rest) = firstHolders name taken rest :=
  if_pos h

theorem firstHolders_cons_of_notMem {taken : List String} {a : α} (h : name a ∉ taken)
    (rest : List α) :
    firstHolders name taken (a :: rest) = a :: firstHolders name (name a :: taken) rest :=
  if_neg h

theorem firstHolders_sublist (taken : List String) (l : List α) :
    (firstHolders name taken l).Sublist l := by
  induction l generalizing taken with
  | nil => exact .slnil
  | cons a rest ih =>
    by_cases h : name a ∈ taken
    · rw [firstHolders_cons_of_mem h]
      exact (ih taken).cons a
    · rw [firstHolders_cons_of_notMem h]
      exact (ih _).cons_cons a

theorem mem_of_mem_firstHolders {taken : List String} {l : List α} {a : α}
    (h : a ∈ firstHolders name taken l) : a ∈ l :=
  (firstHolders_sublist taken l).mem h

/-- A name has a holder iff it occurs and was not taken. -/
theorem mem_map_firstHolders {taken : List String} {l : List α} {x : String} :
    x ∈ (firstHolders name taken l).map name ↔ x ∈ l.map name ∧ x ∉ taken := by
  induction l generalizing taken with
  | nil => simp
  | cons a rest ih =>
    by_cases h : name a ∈ taken
    · rw [firstHolders_cons_of_mem h, ih, List.map_cons, List.mem_cons]
      constructor
      · exact fun ⟨hx, ht⟩ => ⟨Or.inr hx, ht⟩
      · rintro ⟨rfl | hx, ht⟩
        · exact absurd h ht
        · exact ⟨hx, ht⟩
    · rw [firstHolders_cons_of_notMem h, List.map_cons, List.mem_cons, ih, List.map_cons,
        List.mem_cons, List.mem_cons]
      by_cases hx : x = name a
      · subst hx
        simp [h]
      · simp [hx]

/-- No two holders share a name. -/
theorem nodup_map_firstHolders (taken : List String) (l : List α) :
    ((firstHolders name taken l).map name).Nodup := by
  induction l generalizing taken with
  | nil => exact List.nodup_nil
  | cons a rest ih =>
    by_cases h : name a ∈ taken
    · rw [firstHolders_cons_of_mem h]
      exact ih taken
    · rw [firstHolders_cons_of_notMem h, List.map_cons, List.nodup_cons]
      refine ⟨fun ha => ?_, ih _⟩
      exact (mem_map_firstHolders.1 ha).2 List.mem_cons_self

/-- Where names are distinct and free, everything is a holder, and what comes after it under
the same names is not. -/
theorem firstHolders_append_of_held {taken : List String} {l extra : List α}
    (h : (l.map name).Nodup) (hfree : ∀ a ∈ l, name a ∉ taken)
    (hheld : ∀ a ∈ extra, name a ∈ taken ∨ name a ∈ l.map name) :
    firstHolders name taken (l ++ extra) = l := by
  induction l generalizing taken with
  | nil =>
    refine List.eq_nil_iff_forall_not_mem.2 fun a ha => ?_
    have htaken := (hheld a (mem_of_mem_firstHolders ha)).resolve_right List.not_mem_nil
    exact (mem_map_firstHolders.1 (List.mem_map_of_mem ha)).2 htaken
  | cons a rest ih =>
    rw [List.map_cons, List.nodup_cons] at h
    rw [List.cons_append, firstHolders_cons_of_notMem (hfree a List.mem_cons_self), ih h.2]
    · intro b hb hmem
      rcases List.mem_cons.1 hmem with heq | hmem
      · exact h.1 (heq ▸ List.mem_map_of_mem hb)
      · exact hfree b (List.mem_cons_of_mem _ hb) hmem
    · intro b hb
      rw [List.mem_cons, or_assoc, or_left_comm, ← List.mem_cons, ← List.map_cons]
      exact hheld b hb

/-- Where names are distinct and free, everything is a holder. -/
theorem firstHolders_eq_self {taken : List String} {l : List α} (h : (l.map name).Nodup)
    (hfree : ∀ a ∈ l, name a ∉ taken) : firstHolders name taken l = l := by
  simpa using firstHolders_append_of_held h hfree (List.forall_mem_nil _)

/-- A list is what stands before a member, the member itself, and what follows. -/
theorem eq_take_append_cons_drop {l : List α} {position : Nat} {a : α}
    (h : l[position]? = some a) : l = l.take position ++ a :: l.drop (position + 1) := by
  obtain ⟨hlt, rfl⟩ := List.getElem?_eq_some_iff.1 h
  rw [List.getElem_cons_drop, List.take_append_drop]

/-- Where names are distinct, nothing that stands before a member has its name. -/
theorem name_ne_of_mem_take {l : List α} {position : Nat} {a b : α} (h : (l.map name).Nodup)
    (ha : l[position]? = some a) (hb : b ∈ l.take position) : name b ≠ name a := by
  obtain ⟨hlt, rfl⟩ := List.getElem?_eq_some_iff.1 ha
  have hlater : l[position] ∈ l.drop position := by
    rw [List.drop_eq_getElem_cons hlt]
    exact List.mem_cons_self
  have hdisjoint := List.disjoint_take_drop h (Nat.le_refl position)
  rw [← List.map_take, ← List.map_drop] at hdisjoint
  exact fun heq => hdisjoint (heq ▸ List.mem_map_of_mem hb) (List.mem_map_of_mem hlater)

/-- The holder of a free name is the first member of the list with that name, and the only
holder of it. -/
theorem filter_firstHolders {taken : List String} {x : String} (hx : x ∉ taken) (l : List α) :
    (firstHolders name taken l).filter (name · == x) = (l.find? (name · == x)).toList := by
  induction l generalizing taken with
  | nil => rfl
  | cons a rest ih =>
    by_cases h : name a ∈ taken
    · have hne : (name a == x) = false := by
        rw [beq_eq_false_iff_ne]
        exact fun heq => hx (heq ▸ h)
      rw [firstHolders_cons_of_mem h, List.find?_cons, hne, ih hx]
    · rw [firstHolders_cons_of_notMem h, List.find?_cons, List.filter_cons]
      by_cases heq : name a = x
      · have hrest : (firstHolders name (name a :: taken) rest).filter (name · == x) = [] := by
          refine List.filter_eq_nil_iff.2 fun b hb hname => ?_
          have hfree := (mem_map_firstHolders.1 (List.mem_map_of_mem hb)).2
          exact hfree (List.mem_cons.2 (Or.inl ((eq_of_beq hname).trans heq.symm)))
        rw [hrest, beq_iff_eq.2 heq]
        rfl
      · rw [beq_eq_false_iff_ne.2 heq]
        exact ih fun hmem => (List.mem_cons.1 hmem).elim (fun h' => heq h'.symm) hx

/-- Looking up a free name among the holders finds what looking it up in the whole list
finds. -/
theorem find?_firstHolders {taken : List String} {x : String} (hx : x ∉ taken) (l : List α) :
    (firstHolders name taken l).find? (name · == x) = l.find? (name · == x) := by
  rw [← List.head?_filter, filter_firstHolders hx, Option.head?_toList]

end LogForwarding

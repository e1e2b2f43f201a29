import LogForwarding.Dictionary
import Mathlib.Data.List.Nodup

/-!
# Dictionaries of entries in any order

A dictionary lists its entries in the order of their keys. A list of entries with distinct
keys therefore makes the same dictionary in whatever order it is, and the entries of a
dictionary make this dictionary again.

## What is proved

* `Dictionary.ofList_eq_of_perm`: the order of entries with distinct keys does not matter.
* `Dictionary.get?_ofList_eq_some_iff`: the value of a key.
* `Dictionary.ofList_entries`: a dictionary is made of its entries.
-/

namespace LogForwarding

variable {α : Type}

/-- Putting in an entry with a new key adds it to the others. -/
theorem insertEntry_perm {key : String} {value : α} {entries : List (String × α)}
    (h : key ∉ entries.map (·.1)) :
    (insertEntry key value entries).Perm ((key, value) :: entries) := by
  induction entries with
  | nil => exact List.Perm.refl _
  | cons entry rest ih =>
    rw [List.map_cons, List.mem_cons, not_or] at h
    simp only [insertEntry, if_neg h.1]
    split
    · exact List.Perm.refl _
    · exact ((ih h.2).cons entry).trans (List.Perm.swap _ _ _)

namespace Dictionary

/-- Two dictionaries with the same entries are equal. -/
theorem eq_of_perm {a b : Dictionary α} (h : a.entries.Perm b.entries) : a = b := by
  have hentries : a.entries = b.entries :=
    h.eq_of_pairwise (fun _ _ _ _ hlt hgt => absurd (String.lt_trans hlt hgt) (String.lt_irrefl _))
      a.increasing b.increasing
  obtain ⟨entries, increasing⟩ := a
  subst hentries
  rfl

theorem isEmpty_iff {dictionary : Dictionary α} : dictionary.isEmpty ↔ dictionary = .empty := by
  obtain ⟨entries, increasing⟩ := dictionary
  simp [isEmpty, empty]

theorem nodup_keys (dictionary : Dictionary α) : (dictionary.entries.map (·.1)).Nodup := by
  refine List.pairwise_map.2 (dictionary.increasing.imp fun hlt heq => ?_)
  rw [heq] at hlt
  exact String.lt_irrefl _ hlt

/-- Entries with new keys are added to those that are there. -/
theorem entries_foldl_insert_perm {entries : List (String × α)} {dictionary : Dictionary α}
    (h : ((entries ++ dictionary.entries).map (·.1)).Nodup) :
    (entries.foldl (fun dictionary (key, value) => dictionary.insert key value)
      dictionary).entries.Perm (entries ++ dictionary.entries) := by
  induction entries generalizing dictionary with
  | nil => exact List.Perm.refl _
  | cons entry rest ih =>
    obtain ⟨key, value⟩ := entry
    rw [List.cons_append, List.map_cons, List.nodup_cons, List.map_append, List.mem_append,
      not_or] at h
    have hinsert : (dictionary.insert key value).entries.Perm
        ((key, value) :: dictionary.entries) := insertEntry_perm h.1.2
    have hperm : (rest ++ (dictionary.insert key value).entries).Perm
        ((key, value) :: (rest ++ dictionary.entries)) :=
      (hinsert.append_left rest).trans List.perm_middle
    refine (ih ?_).trans hperm
    rw [(hperm.map _).nodup_iff, List.map_cons, List.nodup_cons, List.map_append, List.mem_append,
      not_or]
    exact h

/-- The dictionary of entries with distinct keys has these entries. -/
theorem entries_ofList_perm {entries : List (String × α)} (h : (entries.map (·.1)).Nodup) :
    (ofList entries).entries.Perm entries := by
  have hperm : (ofList entries).entries.Perm (entries ++ empty.entries) := by
    refine entries_foldl_insert_perm ?_
    rwa [show empty.entries = ([] : List (String × α)) from rfl, List.append_nil]
  rwa [show empty.entries = ([] : List (String × α)) from rfl, List.append_nil] at hperm

/-- **The order of entries** with distinct keys does not matter. -/
theorem ofList_eq_of_perm {entries others : List (String × α)} (h : entries.Perm others)
    (hkeys : (entries.map (·.1)).Nodup) : ofList entries = ofList others := by
  have hothers : (others.map (·.1)).Nodup := (h.map _).nodup_iff.1 hkeys
  exact eq_of_perm (((entries_ofList_perm hkeys).trans h).trans (entries_ofList_perm hothers).symm)

theorem get?_eq_some_iff {dictionary : Dictionary α} {key : String} {value : α} :
    dictionary.get? key = some value ↔ (key, value) ∈ dictionary.entries := by
  unfold get?
  constructor
  · intro h
    obtain ⟨entry, hfind, rfl⟩ := Option.map_eq_some_iff.1 h
    obtain rfl : entry.1 = key := eq_of_beq (List.find?_some hfind :)
    exact List.mem_of_find?_eq_some hfind
  · intro hmem
    cases hfind : dictionary.entries.find? (·.1 == key) with
    | none => exact absurd (beq_self_eq_true key) (List.find?_eq_none.1 hfind _ hmem)
    | some entry =>
      have hkey : entry.1 = key := eq_of_beq (List.find?_some hfind :)
      rw [Option.map_some, List.inj_on_of_nodup_map dictionary.nodup_keys
        (List.mem_of_find?_eq_some hfind) hmem hkey]

/-- **The value of a key** is the one that it is listed with. -/
theorem get?_ofList_eq_some_iff {entries : List (String × α)} (h : (entries.map (·.1)).Nodup)
    {key : String} {value : α} : (ofList entries).get? key = some value ↔ (key, value) ∈ entries :=
  get?_eq_some_iff.trans (entries_ofList_perm h).mem_iff

/-- **A dictionary is made of its entries.** -/
@[simp] theorem ofList_entries (dictionary : Dictionary α) :
    ofList dictionary.entries = dictionary :=
  eq_of_perm (entries_ofList_perm dictionary.nodup_keys)

end Dictionary

end LogForwarding

/-!
# Dictionaries

A dictionary gives each of finitely many texts a value. Its entries are listed in
increasing order of the keys, each key once; that order is part of the type, so two
dictionaries with the same entries are equal. Texts are compared character by
character, which is the same as byte by byte in UTF-8.
-/

namespace LogForwarding

/-- Puts an entry into a list of entries with increasing keys. The new value of a
key replaces an old one. -/
def insertEntry {α : Type} (key : String) (value : α) :
    List (String × α) → List (String × α)
  | [] => [(key, value)]
  | entry :: rest =>
    if key < entry.1 then (key, value) :: entry :: rest
    else if key = entry.1 then (key, value) :: rest
    else entry :: insertEntry key value rest

theorem fst_mem_insertEntry {α : Type} {key : String} {value : α}
    {entries : List (String × α)} {entry : String × α}
    (h : entry ∈ insertEntry key value entries) : entry.1 = key ∨ entry ∈ entries := by
  induction entries with
  | nil => simp_all [insertEntry]
  | cons head rest ih =>
    simp only [insertEntry] at h
    split at h
    · simp only [List.mem_cons] at h ⊢
      rcases h with rfl | h
      · exact Or.inl rfl
      · exact Or.inr h
    · split at h
      · simp only [List.mem_cons] at h ⊢
        rcases h with rfl | h
        · exact Or.inl rfl
        · exact Or.inr (Or.inr h)
      · simp only [List.mem_cons] at h ⊢
        rcases h with rfl | h
        · exact Or.inr (Or.inl rfl)
        · exact (ih h).imp_right Or.inr

theorem pairwise_insertEntry {α : Type} {key : String} {value : α}
    {entries : List (String × α)} (h : entries.Pairwise (·.1 < ·.1)) :
    (insertEntry key value entries).Pairwise (·.1 < ·.1) := by
  induction entries with
  | nil => simp [insertEntry]
  | cons head rest ih =>
    rw [List.pairwise_cons] at h
    simp only [insertEntry]
    split
    · rename_i hlt
      refine List.pairwise_cons.2 ⟨fun entry hentry => ?_, List.pairwise_cons.2 h⟩
      rcases List.mem_cons.1 hentry with rfl | hentry
      · exact hlt
      · exact String.lt_trans hlt (h.1 entry hentry)
    · split
      · rename_i heq
        exact List.pairwise_cons.2 ⟨fun entry hentry => heq ▸ h.1 entry hentry, h.2⟩
      · rename_i hlt hne
        refine List.pairwise_cons.2 ⟨fun entry hentry => ?_, ih h.2⟩
        rcases fst_mem_insertEntry hentry with hkey | hentry
        · rw [hkey]
          exact Decidable.byContradiction fun hnot =>
            hne (String.le_antisymm (String.not_lt.1 hnot) (String.not_lt.1 hlt))
        · exact h.1 entry hentry

/-- Finitely many texts with a value each. -/
structure Dictionary (α : Type) where
  /-- The keys and values in increasing order of the keys. -/
  entries : List (String × α)
  /-- The keys increase strictly. -/
  increasing : entries.Pairwise (·.1 < ·.1)
  deriving DecidableEq

namespace Dictionary

variable {α : Type}

/-- The dictionary without entries. -/
def empty : Dictionary α := ⟨[], List.Pairwise.nil⟩

instance : Inhabited (Dictionary α) := ⟨empty⟩

instance [Repr α] : Repr (Dictionary α) :=
  ⟨fun dictionary precedence => reprPrec dictionary.entries precedence⟩

/-- The dictionary with one entry put in. -/
def insert (dictionary : Dictionary α) (key : String) (value : α) : Dictionary α :=
  ⟨insertEntry key value dictionary.entries, pairwise_insertEntry dictionary.increasing⟩

/-- The dictionary of a list of entries; the last value of a key counts. -/
def ofList (entries : List (String × α)) : Dictionary α :=
  entries.foldl (fun dictionary (key, value) => dictionary.insert key value) empty

/-- Whether there are no entries. -/
def isEmpty (dictionary : Dictionary α) : Bool := dictionary.entries.isEmpty

/-- The keys in increasing order. -/
def keys (dictionary : Dictionary α) : List String := dictionary.entries.map (·.1)

/-- The number of entries. -/
def size (dictionary : Dictionary α) : Nat := dictionary.entries.length

/-- The value of a key. -/
def get? (dictionary : Dictionary α) (key : String) : Option α :=
  (dictionary.entries.find? (·.1 == key)).map (·.2)

/-- Whether a key has a value. -/
def contains (dictionary : Dictionary α) (key : String) : Bool :=
  dictionary.entries.any (·.1 == key)

end Dictionary

end LogForwarding

import LogForwarding.Number.Shortest

/-!
# Documents

A document is what a JSON or YAML text stands for: a tree of scalars, lists and maps.
The entries of a map keep their order. Tags exist in YAML only; they say nothing about
what a value holds.
-/

namespace LogForwarding

/-- What a JSON or YAML text stands for. -/
inductive Document where
  /-- The absent value. -/
  | null
  /-- A truth value. -/
  | bool (value : Bool)
  /-- A whole number. -/
  | integer (value : Int)
  /-- Any other number. -/
  | float (value : Binary64)
  /-- A text. -/
  | text (value : String)
  /-- Values in a row. -/
  | list (items : List Document)
  /-- Values under keys, in order. -/
  | map (entries : List (Document × Document))
  /-- A value with a tag. -/
  | tagged (tag : String) (value : Document)
  deriving Repr, Inhabited

namespace Document

/-- A value without its tags. -/
def untag : Document → Document
  | tagged _ value => value.untag
  | value => value

/-- A map with texts as keys. -/
def record (entries : List (String × Document)) : Document :=
  map (entries.map fun (key, value) => (text key, value))

/-- Whether a document is the given text, without a tag. -/
def isText (key : String) : Document → Bool
  | text value => value == key
  | _ => false

/-- The value that a map holds under a text. -/
def get? (document : Document) (key : String) : Option Document :=
  match document.untag with
  | map entries => (entries.find? fun entry => entry.1.isText key).map (·.2)
  | _ => none

/-- Whether a document is the absent value, without a tag. -/
def isNull : Document → Bool
  | null => true
  | _ => false

/-! ### Equality -/

mutual

/-- Decides whether two documents are equal, entries in their order. -/
def decEq : (document other : Document) → Decidable (document = other)
  | null, other =>
    match other with
    | null => isTrue rfl
    | bool _ | integer _ | float _ | text _ | list _ | map _ | tagged _ _ => isFalse nofun
  | bool value, other =>
    match other with
    | bool same => decidable_of_iff (value = same) ⟨congrArg bool, bool.inj⟩
    | null | integer _ | float _ | text _ | list _ | map _ | tagged _ _ => isFalse nofun
  | integer value, other =>
    match other with
    | integer same => decidable_of_iff (value = same) ⟨congrArg integer, integer.inj⟩
    | null | bool _ | float _ | text _ | list _ | map _ | tagged _ _ => isFalse nofun
  | float value, other =>
    match other with
    | float same => decidable_of_iff (value = same) ⟨congrArg float, float.inj⟩
    | null | bool _ | integer _ | text _ | list _ | map _ | tagged _ _ => isFalse nofun
  | text value, other =>
    match other with
    | text same => decidable_of_iff (value = same) ⟨congrArg text, text.inj⟩
    | null | bool _ | integer _ | float _ | list _ | map _ | tagged _ _ => isFalse nofun
  | list items, other =>
    match other with
    | list same =>
      have := decEqItems items same
      decidable_of_iff (items = same) ⟨congrArg list, list.inj⟩
    | null | bool _ | integer _ | float _ | text _ | map _ | tagged _ _ => isFalse nofun
  | map entries, other =>
    match other with
    | map same =>
      have := decEqEntries entries same
      decidable_of_iff (entries = same) ⟨congrArg map, map.inj⟩
    | null | bool _ | integer _ | float _ | text _ | list _ | tagged _ _ => isFalse nofun
  | tagged tag value, other =>
    match other with
    | tagged mark same =>
      have := decEq value same
      decidable_of_iff (tag = mark ∧ value = same) ⟨fun h => by rw [h.1, h.2], tagged.inj⟩
    | null | bool _ | integer _ | float _ | text _ | list _ | map _ => isFalse nofun

/-- Decides whether two lists of documents are equal. -/
def decEqItems : (items others : List Document) → Decidable (items = others)
  | [], [] => isTrue rfl
  | [], _ :: _ | _ :: _, [] => isFalse nofun
  | item :: items, other :: others =>
    have := decEq item other
    have := decEqItems items others
    decidable_of_iff (item = other ∧ items = others) ⟨fun h => by rw [h.1, h.2], List.cons.inj⟩

/-- Decides whether two lists of entries are equal. -/
def decEqEntries : (entries others : List (Document × Document)) → Decidable (entries = others)
  | [], [] => isTrue rfl
  | [], _ :: _ | _ :: _, [] => isFalse nofun
  | (key, value) :: entries, (name, other) :: others =>
    have := decEq key name
    have := decEq value other
    have := decEqEntries entries others
    decidable_of_iff ((key = name ∧ value = other) ∧ entries = others) (by simp)

end

instance : DecidableEq Document := decEq

/-! ### Keys -/

mutual

/-- Whether two documents are the same key of a map. The order of the entries of a map
does not matter, nor does the sign of zero. -/
def sameKey : Document → Document → Bool
  | null, null => true
  | bool a, bool b => a == b
  | integer a, integer b => a == b
  | float a, float b => a.sameValue b
  | text a, text b => a == b
  | list as, list bs => sameItems as bs
  | map as, map bs => as.length == bs.length && includedEntries as bs
  | tagged tag a, tagged other b => tag == other && sameKey a b
  | _, _ => false

/-- Whether two lists agree item by item. -/
def sameItems : List Document → List Document → Bool
  | [], [] => true
  | a :: as, b :: bs => sameKey a b && sameItems as bs
  | _, _ => false

/-- Whether every entry of one map is also in another. -/
def includedEntries : List (Document × Document) → List (Document × Document) → Bool
  | [], _ => true
  | (key, value) :: rest, others =>
    others.any (fun other => sameKey key other.1 && sameKey value other.2)
      && includedEntries rest others

end

end Document

end LogForwarding

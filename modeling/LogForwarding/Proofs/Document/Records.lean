import LogForwarding.Document.Shape
import LogForwarding.Proofs.Results
import Mathlib.Tactic.SplitIfs

/-!
# Reading records

A reader of records looks at the entries of a map one after the other. What one entry does is
one `EntryStep`: an entry under another name is passed over, and the entry of a field that has
not been read is read into the record.

## What is proved

* `Reader.recordEntries_cons_eq_ok_iff`: reading entries takes one step after the other.
* `Reader.EntryStep.preserves`, `Reader.record_preserves`: what every field preserves holds of
  the record that is read, for one step and for a whole document.
* `Reader.recordEntries_textKeyed_cons`: the step for an entry whose key is a text.
-/

namespace LogForwarding

variable {α β ρ : Type}

namespace Reader

variable {fields : List (Field ρ)} {state next last : List String × ρ}

/-- What reading one entry of a map does to the names of the fields already read and to the
record. -/
inductive EntryStep (fields : List (Field ρ)) :
    Document × Document → List String × ρ → List String × ρ → Prop where
  /-- An entry under another name is passed over. -/
  | skip {key value : Document} {name : String} {state : List String × ρ}
      (hname : fieldName key = .ok name) (hnone : fields.find? (·.isNamed name) = none) :
      EntryStep fields (key, value) state state
  /-- The entry of a field that has not been read is read into the record. -/
  | read {key value : Document} {name : String} {field : Field ρ} {seen : List String}
      {record result : ρ} (hname : fieldName key = .ok name)
      (hfield : fields.find? (·.isNamed name) = some field) (hnew : field.name ∉ seen)
      (hread : field.read value record = .ok result) :
      EntryStep fields (key, value) (seen, record) (field.name :: seen, result)

/-- Reading entries takes one step after the other. -/
theorem recordEntries_cons_eq_ok_iff {entry : Document × Document}
    {rest : List (Document × Document)} :
    recordEntries fields (entry :: rest) state.1 state.2 = .ok last ↔
      ∃ next, EntryStep fields entry state next
        ∧ recordEntries fields rest next.1 next.2 = .ok last := by
  obtain ⟨key, value⟩ := entry
  obtain ⟨seen, record⟩ := state
  rw [recordEntries, bind_eq_ok_iff]
  constructor
  · rintro ⟨name, hname, hrest⟩
    cases hfield : fields.find? (·.isNamed name) with
    | none =>
      simp only [hfield] at hrest
      exact ⟨_, .skip hname hfield, hrest⟩
    | some field =>
      by_cases hseen : field.name ∈ seen
      · simp [hfield, hseen] at hrest
      · simp only [hfield, hseen, if_false, bind_eq_ok_iff] at hrest
        obtain ⟨result, hread, hrest⟩ := hrest
        exact ⟨_, .read hname hfield hseen hread, hrest⟩
  · rintro ⟨next, hstep, hrest⟩
    cases hstep with
    | skip hname hnone => exact ⟨_, hname, by simpa only [hnone] using hrest⟩
    | read hname hfield hnew hread =>
      exact ⟨_, hname, by simpa [hfield, hnew, bind_eq_ok_iff, hread] using hrest⟩

end Reader

/-! ### What all fields preserve -/

/-- Whether a field preserves what holds of a record. -/
def Field.Preserves (field : Field ρ) (P : ρ → Prop) : Prop :=
  ∀ ⦃document : Document⦄ ⦃record result : ρ⦄, P record →
    field.read document record = .ok result → P result

theorem Field.preserves_of {field : Field ρ} {P : ρ → Prop} {reader : Reader α}
    {set : ρ → α → ρ}
    (hfield : field.read = fun document record => set record <$> reader document)
    (h : ∀ document value record, reader document = .ok value → P record → P (set record value)) :
    field.Preserves P := by
  intro document record result hrecord hread
  rw [hfield] at hread
  obtain ⟨value, hvalue, rfl⟩ := map_eq_ok_iff.1 hread
  exact h _ _ _ hvalue hrecord

namespace Reader

variable {P : ρ → Prop} {fields : List (Field ρ)} {state next last : List String × ρ}

theorem EntryStep.preserves {entry : Document × Document}
    (hfields : ∀ field ∈ fields, field.Preserves P) (hstep : EntryStep fields entry state next)
    (h : P state.2) : P next.2 := by
  cases hstep with
  | skip => exact h
  | read _ hfield _ hread => exact hfields _ (List.mem_of_find?_eq_some hfield) h hread

theorem recordEntries_preserves {entries : List (Document × Document)}
    (hfields : ∀ field ∈ fields, field.Preserves P) (h : P state.2)
    (hread : recordEntries fields entries state.1 state.2 = .ok last) : P last.2 := by
  induction entries generalizing state with
  | nil =>
    obtain rfl := Except.ok.inj hread
    exact h
  | cons entry rest ih =>
    obtain ⟨next, hstep, hrest⟩ := recordEntries_cons_eq_ok_iff.1 hread
    exact ih (hstep.preserves hfields h) hrest

theorem recordOfEntries_preserves {entries : List (Document × Document)} {empty record : ρ}
    (hfields : ∀ field ∈ fields, field.Preserves P) (h : P empty)
    (hread : recordOfEntries fields empty entries = .ok record) : P record := by
  obtain ⟨last, hentries, hrest⟩ := bind_eq_ok_iff.1 hread
  have hlast : P last.2 := @recordEntries_preserves _ P fields ([], empty) _ _ hfields h hentries
  dsimp only at hrest
  split at hrest
  · exact absurd hrest nofun
  · obtain rfl := Except.ok.inj hrest
    exact hlast

theorem recordItems_preserves {dialect : Dialect} {name : String} {count position : Nat}
    {record result : ρ} {items : List Document} (hfields : ∀ field ∈ fields, field.Preserves P)
    (h : P record)
    (hread : recordItems dialect name count fields items position record = .ok result) :
    P result := by
  induction fields generalizing items position record with
  | nil =>
    cases items with
    | nil => exact Except.ok.inj hread ▸ h
    | cons item rest =>
      unfold recordItems at hread
      split_ifs at hread
      exact Except.ok.inj hread ▸ h
  | cons field fields ih =>
    rw [List.forall_mem_cons] at hfields
    cases items with
    | nil =>
      unfold recordItems at hread
      split_ifs at hread
      exact ih hfields.2 h hread
    | cons item rest =>
      rw [recordItems, bind_eq_ok_iff] at hread
      obtain ⟨next, hitem, hrest⟩ := hread
      exact ih hfields.2 (hfields.1 h hitem) hrest

/-- **What all fields preserve**, and what holds of an empty record, holds of every record that
is read. -/
theorem record_preserves {dialect : Dialect} {name : String} {empty record : ρ}
    {document : Document} (hfields : fields.Forall fun field => field.Preserves P) (h : P empty)
    (hread : Reader.record dialect name fields empty document = .ok record) : P record := by
  have hfields := List.forall_iff_forall_mem.1 hfields
  unfold Reader.record at hread
  split at hread
  · exact recordOfEntries_preserves hfields h hread
  · split_ifs at hread
    · exact recordItems_preserves hfields h hread
    · exact absurd hread nofun
  · split_ifs at hread
    · exact recordOfEntries_preserves hfields h hread
    · exact absurd hread nofun
  · exact absurd hread nofun

/-- What holds of every value that is read holds of every member of a list that is read. -/
theorem forall_mem_of_list {dialect : Dialect} {reader : Reader α} {P : α → Prop}
    (h : ∀ document value, reader document = .ok value → P value) {document : Document}
    {values : List α} (hread : list dialect reader document = .ok values) :
    ∀ value ∈ values, P value := by
  unfold list at hread
  split at hread
  · intro value hmem
    obtain ⟨item, -, hitem⟩ := exists_mem_of_forall₂ (mapM_eq_ok_iff.1 hread).flip hmem
    exact h item value hitem
  · split_ifs at hread
    · obtain rfl := Except.ok.inj hread
      exact List.forall_mem_nil _
    · exact absurd hread nofun
  · exact absurd hread nofun

end Reader

/-! ### Reading what was written -/

section

variable {name key : String} {reader : Reader α} {set : ρ → α → ρ} {dialect : Dialect}

@[simp] theorem Field.name_of : (Field.of name reader set).name = name := rfl

@[simp] theorem Field.required_of : (Field.of name reader set).required = false := rfl

@[simp] theorem Field.isNamed_of : (Field.of name reader set).isNamed key = (name == key) := by
  simp [isNamed, of]

@[simp] theorem Field.isNamed_mk {otherName : Option String} {required : Bool}
    {read : Document → ρ → Except ShapeError ρ} :
    (Field.mk name otherName required read).isNamed key =
      (name == key || otherName == some key) := rfl

@[simp] theorem Field.read_of {document : Document} {record : ρ} :
    (Field.of name reader set).read document record = set record <$> reader document := rfl

namespace Reader

@[simp] theorem text_text {value : String} : text (.text value) = .ok value := rfl

@[simp] theorem bool_bool {value : Bool} : bool (.bool value) = .ok value := rfl

@[simp] theorem option_text {value : String} :
    option reader (.text value) = some <$> reader (.text value) := rfl

@[simp] theorem option_record {entries : List (String × Document)} :
    option reader (.record entries) = some <$> reader (.record entries) := rfl

/-- A list that was written member by member is read member by member. -/
theorem list_map {write : α → Document} {values : List α}
    (h : ∀ value ∈ values, reader (write value) = .ok value) :
    list dialect reader (.list (values.map write)) = .ok values := by
  simp only [list, Document.untag, mapM_eq_ok_iff, List.forall₂_map_left_iff, List.forall₂_same]
  exact h

/-- The texts of a map from texts. -/
theorem textEntries_record_eq_ok_iff {entries : List (String × Document)}
    {texts : List (String × String)} : textEntries dialect (.record entries) = .ok texts ↔
      List.Forall₂ (fun entry read => read.1 = entry.1 ∧ text entry.2 = .ok read.2)
        entries texts := by
  simp only [textEntries, Document.record, Document.untag, mapM_eq_ok_iff,
    List.forall₂_map_left_iff, bind_eq_ok_iff, pure_eq_ok_iff]
  constructor
  · refine fun h => h.imp ?_
    rintro ⟨key, value⟩ read ⟨_, hkey, _, hvalue, rfl⟩
    exact ⟨(Except.ok.inj hkey).symm, hvalue⟩
  · refine fun h => h.imp ?_
    rintro ⟨key, value⟩ ⟨_, read⟩ ⟨rfl, hvalue⟩
    exact ⟨_, rfl, _, hvalue, rfl⟩

/-- An optional value that is there is read as itself, unless it is written as the absent one. -/
theorem option_eq_ok {write : α → Document} {value : α} (hread : reader (write value) = .ok value)
    (hnull : write value ≠ .null) : option reader (write value) = .ok (some value) := by
  unfold option
  split
  · contradiction
  · rw [hread]
    rfl

/-- The entries of a map from texts. -/
def textKeyed (entries : List (String × Document)) : List (Document × Document) :=
  entries.map fun (key, value) => (.text key, value)

variable {fields : List (Field ρ)} {empty record : ρ} {seen : List String}

@[simp] theorem record_record {entries : List (String × Document)} :
    Reader.record dialect name fields empty (.record entries) =
      recordOfEntries fields empty (textKeyed entries) := rfl

@[simp] theorem recordEntries_textKeyed_nil :
    recordEntries fields (textKeyed []) seen record = .ok (seen, record) := rfl

/-- One entry of a record is one step of its reader. -/
@[simp] theorem recordEntries_textKeyed_cons {value : Document}
    {rest : List (String × Document)} :
    recordEntries fields (textKeyed ((key, value) :: rest)) seen record =
      match fields.find? (·.isNamed key) with
      | none => recordEntries fields (textKeyed rest) seen record
      | some field =>
        if field.name ∈ seen then .error (.duplicateField field.name)
        else field.read value record >>=
          recordEntries fields (textKeyed rest) (field.name :: seen) := rfl

end Reader

end

end LogForwarding

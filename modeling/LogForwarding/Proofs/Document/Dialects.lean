import LogForwarding.Proofs.Document.Rearranged

/-!
# What two dialects have in common

A reader asks for a kind of value at every place of a document that it comes to. A `Shape` is
what it asks for, all the way down, and `Shape.Asks` says what it asks for where. JSON and YAML
differ in two points only. Where a list, a map or a record is asked for, YAML takes the absent
value for an empty one, and JSON refuses it; and where a record is asked for, JSON takes the
list of its fields, and YAML refuses it. A document with neither is read the same.

That a value is refused wherever it stands goes up through the readers in the same way for both
points: a reader that refuses it in a part refuses the whole (`Reader.Refuses`).

## What is proved

* `Reader.Agrees.option`, `Reader.Agrees.list`, `Reader.agrees_textEntries`: the readers of two
  dialects agree on options, lists and maps if they do on what is in them.
* `Field.Agree.find?`: a name stands for the same field in both dialects.
* `Reader.agrees_record`: the readers of records agree if those of their fields do.
-/

namespace LogForwarding

variable {α β ρ : Type}

/-! ### Shapes -/

/-- What is asked of a document. -/
inductive Shape where
  /-- One value, a text or a truth value. -/
  | scalar
  /-- A value that may be absent. -/
  | option (value : Shape)
  /-- Values in a row. -/
  | list (item : Shape)
  /-- Texts under texts. -/
  | entries
  /-- Values under the names of fields. A field may have several names. -/
  | record (fields : List (List String × Shape))

namespace Shape

/-- What is asked for at the places of a document that a reader comes to. -/
inductive Asks : Shape → Document → Shape → Document → Prop where
  /-- The shape itself is asked for. -/
  | here {shape : Shape} {document : Document} : Asks shape document shape document
  /-- The shape of an optional value is asked for unless the value is absent. -/
  | present {value asked : Shape} {document part : Document} (hpresent : document ≠ .null)
      (h : Asks value document asked part) : Asks (.option value) document asked part
  /-- The shape of items is asked for in every item of a list. -/
  | item {shape asked : Shape} {document part item : Document} {items : List Document}
      (hitems : document.untag = .list items) (hitem : item ∈ items)
      (h : Asks shape item asked part) : Asks (.list shape) document asked part
  /-- The shape of a field is asked for under each of its names. -/
  | field {fields : List (List String × Shape)} {names : List String} {shape asked : Shape}
      {document part key value : Document} {name : String} {entries : List (Document × Document)}
      (hentries : document.untag = .map entries) (hentry : (key, value) ∈ entries)
      (hname : key.untag = .text name)
      (hfield : fields.find? (name ∈ ·.1) = some (names, shape))
      (h : Asks shape value asked part) : Asks (.record fields) document asked part

/-- Whether something stands in a place where a reader comes to it. -/
def Has (shape : Shape) (fault : Shape → Document → Prop) (document : Document) : Prop :=
  ∃ asked part, shape.Asks document asked part ∧ fault asked part

/-- Whether a value has parts. -/
def isContainer : Shape → Bool
  | scalar => false
  | option _ => false
  | list _ => true
  | entries => true
  | record _ => true

/-- The absent value stands where a list, a map or a record is asked for. -/
def NullFault (asked : Shape) (part : Document) : Prop := asked.isContainer ∧ part.untag = .null

/-- A list stands where a record is asked for. -/
def ListFault (asked : Shape) (part : Document) : Prop :=
  (∃ fields, asked = .record fields) ∧ ∃ items, part.untag = .list items

variable {shape : Shape} {fault : Shape → Document → Prop} {document : Document}

theorem has_of_fault (h : fault shape document) : shape.Has fault document :=
  ⟨shape, document, .here, h⟩

theorem Has.present (hpresent : document ≠ .null) (h : shape.Has fault document) :
    (Shape.option shape).Has fault document := by
  obtain ⟨asked, part, hasks, hfault⟩ := h
  exact ⟨asked, part, .present hpresent hasks, hfault⟩

theorem Has.item {items : List Document} {item : Document}
    (hitems : document.untag = .list items) (hitem : item ∈ items) (h : shape.Has fault item) :
    (Shape.list shape).Has fault document := by
  obtain ⟨asked, part, hasks, hfault⟩ := h
  exact ⟨asked, part, .item hitems hitem hasks, hfault⟩

theorem Has.field {fields : List (List String × Shape)} {names : List String}
    {key value : Document} {name : String} {entries : List (Document × Document)}
    (hentries : document.untag = .map entries) (hentry : (key, value) ∈ entries)
    (hname : key.untag = .text name) (hfield : fields.find? (name ∈ ·.1) = some (names, shape))
    (h : shape.Has fault value) : (Shape.record fields).Has fault document := by
  obtain ⟨asked, part, hasks, hfault⟩ := h
  exact ⟨asked, part, .field hentries hentry hname hfield hasks, hfault⟩

end Shape

/-! ### Readers that refuse a value -/

namespace Reader

/-- Whether a reader refuses every document in which something stands in its way. -/
def Refuses (reader : Reader α) (shape : Shape) (fault : Shape → Document → Prop) : Prop :=
  ∀ ⦃document⦄, shape.Has fault document → ∀ value, reader document ≠ .ok value

variable {reader : Reader α} {shape : Shape} {fault : Shape → Document → Prop}

theorem refuse_ne_ok {document : Document} {wanted : String} {value : α} :
    refuse document wanted ≠ .ok value := by
  rintro ⟨⟩

theorem Refuses.map (h : Refuses reader shape fault) (f : α → β) :
    Refuses (fun document => f <$> reader document) shape fault := by
  intro document hfault value hvalue
  obtain ⟨a, ha, -⟩ := map_eq_ok_iff.1 hvalue
  exact h hfault a ha

theorem refuses_scalar (reader : Reader α) (hfault : ∀ document, ¬ fault .scalar document) :
    Refuses reader .scalar fault := by
  rintro document ⟨asked, part, hasks, hpart⟩
  cases hasks
  exact absurd hpart (hfault document)

theorem Refuses.option (h : Refuses reader shape fault)
    (hfault : ∀ document, ¬ fault (.option shape) document) :
    Refuses (Reader.option reader) (.option shape) fault := by
  rintro document ⟨asked, part, hasks, hpart⟩ value hvalue
  cases hasks with
  | here => exact hfault document hpart
  | present hpresent hasks =>
    unfold Reader.option at hvalue
    split at hvalue
    · exact hpresent rfl
    · exact h.map some ⟨asked, part, hasks, hpart⟩ value hvalue

theorem Refuses.list {dialect : Dialect} (h : Refuses reader shape fault)
    (hfault : ∀ document, fault (.list shape) document →
      ∀ value, Reader.list dialect reader document ≠ .ok value) :
    Refuses (Reader.list dialect reader) (.list shape) fault := by
  rintro document ⟨asked, part, hasks, hpart⟩ value hvalue
  cases hasks with
  | here => exact hfault document hpart value hvalue
  | item hitems hitem hasks =>
    simp only [Reader.list, hitems, mapM_eq_ok_iff] at hvalue
    obtain ⟨read, -, hread⟩ := exists_mem_of_forall₂ hvalue hitem
    exact h ⟨asked, part, hasks, hpart⟩ read hread

theorem fieldName_eq_ok_iff {key : Document} {name : String} :
    fieldName key = .ok name ↔ key.untag = .text name := by
  unfold fieldName
  split
  · rename_i value heq
    rw [heq, Except.ok.injEq, Document.text.injEq]
  · rename_i hother
    constructor
    · exact nofun
    · exact fun heq => absurd heq (hother name)

/-- A record is refused if one of its fields is. -/
theorem recordEntries_ne_ok {fields : List (Field ρ)} {entries : List (Document × Document)}
    {key value : Document} {name : String} {field : Field ρ} {state last : List String × ρ}
    (hentry : (key, value) ∈ entries) (hname : key.untag = .text name)
    (hfield : fields.find? (·.isNamed name) = some field)
    (hread : ∀ record result, field.read value record ≠ .ok result) :
    recordEntries fields entries state.1 state.2 ≠ .ok last := by
  induction entries generalizing state with
  | nil => exact absurd hentry List.not_mem_nil
  | cons entry rest ih =>
    intro hok
    obtain ⟨next, hstep, hrest⟩ := recordEntries_cons_eq_ok_iff.1 hok
    rcases List.mem_cons.1 hentry with rfl | hentry
    · have hkey := fieldName_eq_ok_iff.2 hname
      cases hstep with
      | skip hother hnone =>
        obtain rfl := Except.ok.inj (hkey.symm.trans hother)
        rw [hfield] at hnone
        cases hnone
      | read hother hfound _ hresult =>
        obtain rfl := Except.ok.inj (hkey.symm.trans hother)
        obtain rfl := Option.some.inj (hfield.symm.trans hfound)
        exact hread _ _ hresult
    · exact ih hentry hrest

end Reader

/-! ### Readers that agree -/

namespace Reader

/-- How the readers of one shape in JSON and in YAML go together. -/
structure Agrees (json yaml : Reader α) (shape : Shape) : Prop where
  /-- JSON refuses the absent value. -/
  refuses_null : Refuses json shape Shape.NullFault
  /-- YAML refuses the list of fields. -/
  refuses_list : Refuses yaml shape Shape.ListFault
  /-- Otherwise both read the same, or fail for the same reason. -/
  eq : ∀ ⦃document⦄, ¬ shape.Has Shape.NullFault document → ¬ shape.Has Shape.ListFault document →
    json document = yaml document

variable {json yaml : Reader α} {shape : Shape}

theorem Agrees.map (h : Agrees json yaml shape) (f : α → β) :
    Agrees (fun document => f <$> json document) (fun document => f <$> yaml document) shape :=
  ⟨h.refuses_null.map f, h.refuses_list.map f, fun _ hnull hlist => by rw [h.eq hnull hlist]⟩

/-- A reader of single values is the same in both dialects. -/
theorem agrees_scalar (reader : Reader α) : Agrees reader reader .scalar where
  refuses_null := refuses_scalar reader fun _ h => absurd h.1 (by decide)
  refuses_list := refuses_scalar reader fun _ h => absurd h.1 nofun
  eq _ _ _ := rfl

theorem Agrees.option (h : Agrees json yaml shape) :
    Agrees (Reader.option json) (Reader.option yaml) (.option shape) where
  refuses_null := h.refuses_null.option fun _ hfault => absurd hfault.1 nofun
  refuses_list := h.refuses_list.option fun _ hfault => absurd hfault.1 nofun
  eq document hnull hlist := by
    by_cases hpresent : document = .null
    · rw [hpresent]
      rfl
    · have heq := h.eq (fun hfault => hnull (hfault.present hpresent))
        (fun hfault => hlist (hfault.present hpresent))
      unfold Reader.option
      split
      · rfl
      · rw [heq]

theorem mapM_congr {f g : α → Except ShapeError β} {l : List α} (h : ∀ a ∈ l, f a = g a) :
    l.mapM f = l.mapM g := by
  induction l with
  | nil => rfl
  | cons a rest ih =>
    rw [List.forall_mem_cons] at h
    rw [List.mapM_cons, List.mapM_cons, h.1, ih h.2]

theorem Agrees.list (h : Agrees json yaml shape) :
    Agrees (Reader.list .json json) (Reader.list .yaml yaml) (.list shape) where
  refuses_null := h.refuses_null.list fun document hfault value => by
    simp only [Reader.list, hfault.2]
    exact refuse_ne_ok
  refuses_list := h.refuses_list.list fun document hfault => absurd hfault.1 nofun
  eq document hnull hlist := by
    unfold Reader.list
    split
    · rename_i items hitems
      refine mapM_congr fun item hitem => h.eq ?_ ?_
      · exact fun hfault => hnull (hfault.item hitems hitem)
      · exact fun hfault => hlist (hfault.item hitems hitem)
    · rename_i habsent
      exact absurd (Shape.has_of_fault ⟨rfl, habsent⟩) hnull
    · rfl

/-- The texts of a map are read the same, and the absent value only in YAML. -/
theorem agrees_textEntries :
    Agrees (textEntries .json) (textEntries .yaml) .entries where
  refuses_null := by
    rintro document ⟨asked, part, hasks, -, habsent⟩ value
    cases hasks
    simp only [textEntries, habsent]
    exact refuse_ne_ok
  refuses_list := by
    rintro document ⟨asked, part, hasks, ⟨fields, hrecord⟩, -⟩
    cases hasks
    cases hrecord
  eq document hnull hlist := by
    unfold textEntries
    split
    · rfl
    · rename_i habsent
      exact absurd (Shape.has_of_fault ⟨rfl, habsent⟩) hnull
    · rfl

end Reader

/-! ### Records -/

/-- How the two dialects of an optional field go together, given its names and its shape. -/
structure Field.Agrees (json yaml : Field ρ) (names : List String) (shape : Shape) : Prop where
  /-- These are its names in JSON. -/
  json_names : names = json.name :: json.otherName.toList
  /-- These are its names in YAML. -/
  yaml_names : names = yaml.name :: yaml.otherName.toList
  /-- It may be missing. -/
  json_required : json.required = false
  /-- It may be missing. -/
  yaml_required : yaml.required = false
  /-- Its value is read by readers that agree. -/
  read : ∀ record, Reader.Agrees (fun document => json.read document record)
    (fun document => yaml.read document record) shape

/-- How the fields of a record go together, one by one. -/
inductive Field.Agree : List (Field ρ) → List (Field ρ) → List (List String × Shape) → Prop where
  /-- There is no field. -/
  | nil : Agree [] [] []
  /-- One more field. -/
  | cons {json yaml : Field ρ} {names : List String} {shape : Shape}
      {jsons yamls : List (Field ρ)} {shapes : List (List String × Shape)}
      (h : json.Agrees yaml names shape) (hrest : Agree jsons yamls shapes) :
      Agree (json :: jsons) (yaml :: yamls) ((names, shape) :: shapes)

namespace Field

/-- A field that stores what a reader reads. -/
theorem agrees_of {json yaml : Field ρ} {names : List String} {shape : Shape}
    {reader other : Reader α} {set : ρ → α → ρ}
    (hjsonNames : names = json.name :: json.otherName.toList)
    (hyamlNames : names = yaml.name :: yaml.otherName.toList)
    (hjsonRequired : json.required = false) (hyamlRequired : yaml.required = false)
    (hjson : json.read = fun document record => set record <$> reader document)
    (hyaml : yaml.read = fun document record => set record <$> other document)
    (h : Reader.Agrees reader other shape) : json.Agrees yaml names shape := by
  refine ⟨hjsonNames, hyamlNames, hjsonRequired, hyamlRequired, fun record => ?_⟩
  rw [hjson, hyaml]
  exact h.map (set record)

theorem isNamed_eq_decide (field : Field ρ) (name : String) :
    field.isNamed name = decide (name ∈ field.name :: field.otherName.toList) := by
  rw [Bool.eq_iff_iff, decide_eq_true_eq, isNamed, Bool.or_eq_true, beq_iff_eq, beq_iff_eq,
    List.mem_cons, Option.mem_toList]
  exact or_congr_left eq_comm

theorem Agrees.name_eq {json yaml : Field ρ} {names : List String} {shape : Shape}
    (h : json.Agrees yaml names shape) : json.name = yaml.name :=
  (List.cons.inj (h.json_names.symm.trans h.yaml_names)).1

variable {jsons yamls : List (Field ρ)} {shapes : List (List String × Shape)}

/-- **A name stands for the same field** in both dialects, or for none. -/
theorem Agree.find? (h : Agree jsons yamls shapes) (name : String) :
    (jsons.find? (·.isNamed name) = none ∧ yamls.find? (·.isNamed name) = none
        ∧ shapes.find? (name ∈ ·.1) = none)
      ∨ ∃ json yaml names shape, jsons.find? (·.isNamed name) = some json
        ∧ yamls.find? (·.isNamed name) = some yaml
        ∧ shapes.find? (name ∈ ·.1) = some (names, shape) ∧ json.Agrees yaml names shape := by
  induction h with
  | nil => exact .inl ⟨rfl, rfl, rfl⟩
  | @cons json yaml names shape _ _ _ hfirst _ ih =>
    simp only [List.find?_cons, isNamed_eq_decide, ← hfirst.json_names, ← hfirst.yaml_names] at ih ⊢
    by_cases hname : name ∈ names
    · simp only [hname, decide_true]
      exact .inr ⟨json, yaml, names, shape, rfl, rfl, rfl, hfirst⟩
    · simpa only [hname, decide_false] using ih

/-- The fields of a name that stands for a shape. -/
theorem Agree.exists_of_find? (h : Agree jsons yamls shapes) {name : String}
    {names : List String} {shape : Shape}
    (hshape : shapes.find? (name ∈ ·.1) = some (names, shape)) :
    ∃ json yaml, jsons.find? (·.isNamed name) = some json
      ∧ yamls.find? (·.isNamed name) = some yaml ∧ json.Agrees yaml names shape := by
  rcases h.find? name with ⟨-, -, hnone⟩ | ⟨json, yaml, _, _, hjson, hyaml, hsome, hagrees⟩
  · rw [hshape] at hnone
    cases hnone
  · obtain ⟨rfl, rfl⟩ := Prod.mk.inj (Option.some.inj (hshape.symm.trans hsome))
    exact ⟨json, yaml, hjson, hyaml, hagrees⟩

/-- No field is missed. -/
theorem Agree.find?_required (h : Agree jsons yamls shapes) (seen : List String) :
    jsons.find? (fun field => field.required && field.name ∉ seen) = none
      ∧ yamls.find? (fun field => field.required && field.name ∉ seen) = none := by
  induction h with
  | nil => exact ⟨rfl, rfl⟩
  | cons hfirst _ ih =>
    simpa only [List.find?_cons, hfirst.json_required, hfirst.yaml_required, Bool.false_and]
      using ih

end Field

namespace Reader

variable {jsons yamls : List (Field ρ)} {shapes : List (List String × Shape)}

/-- Entries whose values have no fault are read the same in both dialects. -/
theorem recordEntries_congr (h : Field.Agree jsons yamls shapes)
    {entries : List (Document × Document)} {seen : List String} {record : ρ}
    (hvalues : ∀ key value name names shape, (key, value) ∈ entries → key.untag = .text name →
      shapes.find? (name ∈ ·.1) = some (names, shape) →
        ¬ shape.Has Shape.NullFault value ∧ ¬ shape.Has Shape.ListFault value) :
    recordEntries jsons entries seen record = recordEntries yamls entries seen record := by
  induction entries generalizing seen record with
  | nil => rfl
  | cons entry rest ih =>
    obtain ⟨key, value⟩ := entry
    have hrest {seen : List String} {record : ρ} :
        recordEntries jsons rest seen record = recordEntries yamls rest seen record :=
      ih fun key value name names shape hentry =>
        hvalues key value name names shape (List.mem_cons_of_mem _ hentry)
    rw [recordEntries, recordEntries]
    cases hkey : fieldName key with
    | error error => rfl
    | ok name =>
      simp only [ok_bind]
      rcases h.find? name with ⟨hjson, hyaml, -⟩ |
        ⟨json, yaml, names, shape, hjson, hyaml, hshape, hagrees⟩
      · simp only [hjson, hyaml, hrest]
      · obtain ⟨hnull, hlist⟩ := hvalues key value name names shape List.mem_cons_self
          (fieldName_eq_ok_iff.1 hkey) hshape
        simp only [hjson, hyaml, hagrees.name_eq, (hagrees.read record).eq hnull hlist, hrest]

/-- A record is refused if a value is that is to be refused as a record or by one of its fields. -/
theorem Refuses.record {dialect : Dialect} {name : String} {fields : List (Field ρ)} {empty : ρ}
    {fault : Shape → Document → Prop}
    (hrecord : ∀ document, fault (.record shapes) document →
      ∀ value, Reader.record dialect name fields empty document ≠ .ok value)
    (hfields : ∀ name names shape, shapes.find? (name ∈ ·.1) = some (names, shape) →
      ∃ field, fields.find? (·.isNamed name) = some field
        ∧ ∀ record, Refuses (fun document => field.read document record) shape fault) :
    Refuses (Reader.record dialect name fields empty) (.record shapes) fault := by
  rintro document ⟨asked, part, hasks, hfault⟩ value hvalue
  cases hasks with
  | here => exact hrecord document hfault value hvalue
  | field hentries hentry hname hfield hasks =>
    obtain ⟨field, hfound, hrefuses⟩ := hfields _ _ _ hfield
    simp only [Reader.record, hentries] at hvalue
    obtain ⟨last, hlast, -⟩ := bind_eq_ok_iff.1 hvalue
    exact @recordEntries_ne_ok _ _ _ _ _ _ _ ([], empty) _ hentry hname hfound
      (fun record result => hrefuses record ⟨asked, part, hasks, hfault⟩ result) hlast

/-- **Records** are read the same in both dialects if their fields are. -/
theorem agrees_record {name : String} {empty : ρ} (h : Field.Agree jsons yamls shapes) :
    Agrees (record .json name jsons empty) (record .yaml name yamls empty) (.record shapes) where
  refuses_null := by
    refine .record (fun document hfault value => ?_) fun name names shape hshape => ?_
    · simp only [record, hfault.2]
      exact refuse_ne_ok
    · obtain ⟨json, yaml, hjson, -, hagrees⟩ := h.exists_of_find? hshape
      exact ⟨json, hjson, fun record => (hagrees.read record).refuses_null⟩
  refuses_list := by
    refine .record (fun document hfault value => ?_) fun name names shape hshape => ?_
    · obtain ⟨-, items, hitems⟩ := hfault
      simp only [record, hitems]
      exact refuse_ne_ok
    · obtain ⟨json, yaml, -, hyaml, hagrees⟩ := h.exists_of_find? hshape
      exact ⟨yaml, hyaml, fun record => (hagrees.read record).refuses_list⟩
  eq document hnull hlist := by
    unfold record
    split
    · rename_i entries hentries
      have hread := @recordEntries_congr _ _ _ _ h entries [] empty
        fun key value name names shape hentry hname hfield =>
          ⟨fun hfault => hnull (hfault.field hentries hentry hname hfield),
            fun hfault => hlist (hfault.field hentries hentry hname hfield)⟩
      simp only [recordOfEntries, hread, (h.find?_required _).1, (h.find?_required _).2]
    · rename_i items hitems
      exact absurd (Shape.has_of_fault ⟨⟨_, rfl⟩, items, hitems⟩) hlist
    · rename_i habsent
      exact absurd (Shape.has_of_fault ⟨rfl, habsent⟩) hnull
    · rfl

end Reader

end LogForwarding

import LogForwarding.Proofs.Dictionary
import LogForwarding.Proofs.Document.Records
import Mathlib.Data.List.Pairwise
import Mathlib.Data.List.Perm.Basic
import Mathlib.Tactic.SplitIfs

/-!
# Entries in any order

The entries of a map may come back from a text in another order than they were written in: a
JSON text gives them by their keys. A reader of records looks at one entry after the other, and
puts what it finds into the record that it has so far; since each field has a place of its own,
the order does not matter.

Two steps of a reader may be taken in either order, and what it remembers of the fields it has
seen matters as a set only; by induction on a permutation, all entries may be in any order.

## What is proved

* `Reader.EntryStep.swap`, `Reader.recordEntries_of_perm`: the order of entries does not matter
  to fields that commute, for two steps and for a whole map.
* `Reader.stable_record`: reading a record does not depend on a rearrangement of the document,
  at any depth.
* `Document.Rearranged.get?`: what is under a key is rearranged with the document.
-/

namespace LogForwarding

/-- Whether a document is another one but for the order of entries: in maps from distinct texts,
at any depth, they may stand in any order. -/
inductive Document.Rearranged : Document → Document → Prop where
  /-- Nothing is moved. -/
  | refl (document : Document) : Rearranged document document
  /-- Something may be moved inside the items of a list. -/
  | list {items others : List Document} (hitems : List.Forall₂ Rearranged items others) :
      Rearranged (.list items) (.list others)
  /-- Something may be moved inside the values of a map, and then the entries. -/
  | record {entries others shuffled : List (String × Document)}
      (hkeys : entries.map (·.1) = others.map (·.1)) (hnodup : (entries.map (·.1)).Nodup)
      (hvalues : List.Forall₂ Rearranged (entries.map (·.2)) (others.map (·.2)))
      (hperm : others.Perm shuffled) : Rearranged (.record entries) (.record shuffled)

namespace Document

/-- Whether an entry of a map is another one but for the order of entries inside its value. -/
def EntryRearranged (entry other : String × Document) : Prop :=
  entry.1 = other.1 ∧ entry.2.Rearranged other.2

theorem forall₂_entryRearranged {entries others : List (String × Document)}
    (hkeys : entries.map (·.1) = others.map (·.1))
    (hvalues : List.Forall₂ Rearranged (entries.map (·.2)) (others.map (·.2))) :
    List.Forall₂ EntryRearranged entries others := by
  rw [← List.forall₂_eq_eq_eq, List.forall₂_map_left_iff, List.forall₂_map_right_iff] at hkeys
  rw [List.forall₂_map_left_iff, List.forall₂_map_right_iff] at hvalues
  exact hkeys.mp (fun _ _ => And.intro) hvalues

/-- A rearrangement can be undone. -/
theorem Rearranged.symm {document other : Document} (h : document.Rearranged other) :
    other.Rearranged document := by
  -- the induction goes into the items of lists and the values of maps at once
  refine @Rearranged.rec (fun document other _ => other.Rearranged document)
    (fun items others _ => List.Forall₂ Rearranged others items)
    .refl (fun _ => .list) ?record .nil (fun _ _ => .cons) document other h
  intro entries others shuffled hkeys hnodup _ hperm hback
  obtain ⟨back, hentries, hpermBack⟩ :=
    List.perm_comp_forall₂ hperm.symm (forall₂_entryRearranged hkeys.symm hback)
  refine .record ?_ ?_ ?_ hpermBack
  · rw [← List.forall₂_eq_eq_eq, List.forall₂_map_left_iff, List.forall₂_map_right_iff]
    exact hentries.imp fun _ _ hentry => hentry.1
  · exact (hperm.map _).nodup_iff.1 (hkeys ▸ hnodup)
  · rw [List.forall₂_map_left_iff, List.forall₂_map_right_iff]
    exact hentries.imp fun _ _ hentry => hentry.2

end Document

namespace Reader

variable {α β ρ : Type}

/-- Whether a reader does not depend on the order of entries: it reads the same from a document
after a rearrangement. -/
def Stable (reader : Reader α) : Prop :=
  ∀ ⦃document other : Document⦄, document.Rearranged other →
    ∀ ⦃value : α⦄, reader document = .ok value → reader other = .ok value

theorem stable_of_scalar {reader : Reader α}
    (hlist : ∀ items value, reader (.list items) ≠ .ok value)
    (hmap : ∀ entries value, reader (.map entries) ≠ .ok value) : reader.Stable := by
  intro document other hrearranged value hread
  cases hrearranged with
  | refl => exact hread
  | list => exact absurd hread (hlist _ _)
  | record => exact absurd hread (hmap _ _)

theorem stable_text : text.Stable := stable_of_scalar (fun _ _ => nofun) (fun _ _ => nofun)

theorem stable_bool : bool.Stable := stable_of_scalar (fun _ _ => nofun) (fun _ _ => nofun)

theorem Stable.map {reader : Reader α} (h : reader.Stable) (f : α → β) :
    Reader.Stable fun document => f <$> reader document := by
  intro document other hrearranged value hread
  obtain ⟨a, ha, rfl⟩ := map_eq_ok_iff.1 hread
  exact map_eq_ok_iff.2 ⟨a, h hrearranged ha, rfl⟩

theorem Stable.option {reader : Reader α} (h : reader.Stable) : (option reader).Stable := by
  intro document other hrearranged value hread
  cases hrearranged with
  | refl => exact hread
  | list hitems => exact h.map some (.list hitems) hread
  | record hkeys hnodup hvalues hperm => exact h.map some (.record hkeys hnodup hvalues hperm) hread

theorem mapM_eq_ok_of_rearranged {reader : Reader α} (h : reader.Stable)
    {items others : List Document} (hitems : List.Forall₂ Document.Rearranged items others)
    {values : List α} (hread : items.mapM reader = .ok values) :
    others.mapM reader = .ok values := by
  rw [mapM_eq_ok_iff] at hread ⊢
  exact forall₂_of_forall₂ hitems hread fun _ _ _ hitem hvalue => h hitem hvalue

theorem Stable.list {dialect : Dialect} {reader : Reader α} (h : reader.Stable) :
    (list dialect reader).Stable := by
  intro document other hrearranged value hread
  cases hrearranged with
  | refl => exact hread
  | list hitems => exact mapM_eq_ok_of_rearranged h hitems hread
  | record => exact absurd hread nofun

end Reader

/-! ### Records -/

namespace Field

variable {α β ρ : Type}

/-- Whether a field is read the same after a rearrangement of its value. -/
def Stable (field : Field ρ) : Prop :=
  ∀ ⦃document other : Document⦄, document.Rearranged other → ∀ ⦃record result : ρ⦄,
    field.read document record = .ok result → field.read other record = .ok result

theorem stable_of {field : Field ρ} {reader : Reader α} {set : ρ → α → ρ}
    (hfield : field.read = fun document record => set record <$> reader document)
    (h : reader.Stable) : field.Stable := by
  intro document other hrearranged record result hread
  rw [hfield] at hread ⊢
  exact h.map (set record) hrearranged hread

/-- It is enough that what is stored of a value does not depend on a rearrangement. -/
theorem stable_of_map {name : String} {reader : Reader α} {store : α → β} {set : ρ → β → ρ}
    (h : Reader.Stable fun document => store <$> reader document) :
    (Field.of name reader fun record value => set record (store value)).Stable := by
  intro document other hrearranged record result hread
  obtain ⟨value, hvalue, rfl⟩ := map_eq_ok_iff.1 hread
  obtain ⟨value', hvalue', hstore⟩ := map_eq_ok_iff.1
    (h hrearranged (map_eq_ok_iff.2 ⟨value, hvalue, rfl⟩))
  exact map_eq_ok_iff.2 ⟨value', hvalue', congrArg (set record) hstore⟩

/-- Whether it does not matter which of two fields is read first. -/
def Commute (field other : Field ρ) : Prop :=
  ∀ (document value : Document) (record result : ρ),
    (field.read document record >>= other.read value) = .ok result ↔
      (other.read value record >>= field.read document) = .ok result

instance : Std.Symm (@Commute ρ) :=
  ⟨fun _ _ h document value record result => (h value document record result).symm⟩

/-- Fields that are put in different places commute. -/
theorem commute_of {field other : Field ρ} {reader : Reader α} {otherReader : Reader β}
    {set : ρ → α → ρ} {otherSet : ρ → β → ρ}
    (hfield : field.read = fun document record => set record <$> reader document)
    (hother : other.read = fun document record => otherSet record <$> otherReader document)
    (h : ∀ record a b, otherSet (set record a) b = set (otherSet record b) a) :
    field.Commute other := by
  intro document value record result
  simp only [hfield, hother, bind_eq_ok_iff, map_eq_ok_iff]
  constructor
  · rintro ⟨_, ⟨a, ha, rfl⟩, b, hb, rfl⟩
    exact ⟨_, ⟨b, hb, rfl⟩, a, ha, (h record a b).symm⟩
  · rintro ⟨_, ⟨b, hb, rfl⟩, a, ha, rfl⟩
    exact ⟨_, ⟨a, ha, rfl⟩, b, hb, h record a b⟩

end Field

namespace Reader

variable {ρ : Type} {fields : List (Field ρ)} {state next other : List String × ρ}

/-- Whether two states differ in the order at most in which fields were read. -/
def SameState (state other : List String × ρ) : Prop :=
  (∀ name, name ∈ state.1 ↔ name ∈ other.1) ∧ state.2 = other.2

theorem SameState.rfl : SameState state state := ⟨fun _ => Iff.rfl, Eq.refl _⟩

theorem SameState.trans {third : List String × ρ} (h : SameState state other)
    (h' : SameState other third) : SameState state third :=
  ⟨fun name => (h.1 name).trans (h'.1 name), h.2.trans h'.2⟩

theorem EntryStep.of_sameState {entry : Document × Document}
    (hstep : EntryStep fields entry state next) (hsame : SameState state other) :
    ∃ after, EntryStep fields entry other after ∧ SameState next after := by
  obtain ⟨hseen, hrecord⟩ := hsame
  obtain ⟨seen, record⟩ := other
  cases hstep with
  | skip hname hnone => exact ⟨_, .skip hname hnone, hseen, hrecord⟩
  | read hname hfield hnew hread =>
    subst hrecord
    exact ⟨_, .read hname hfield (fun hold => hnew ((hseen _).2 hold)) hread,
      fun name => by simp only [List.mem_cons, hseen], Eq.refl _⟩

/-- Two steps may be taken in either order. -/
theorem EntryStep.swap {first second : Document × Document} {last : List String × ρ}
    (hcommute : fields.Pairwise Field.Commute) (hfirst : EntryStep fields first state next)
    (hsecond : EntryStep fields second next last) :
    ∃ middle after, EntryStep fields second state middle ∧ EntryStep fields first middle after
      ∧ SameState last after := by
  cases hfirst with
  | skip hname hnone => exact ⟨_, _, hsecond, .skip hname hnone, .rfl⟩
  | @read key value name field seen record result hname hfield hnew hread =>
    cases hsecond with
    | skip hname' hnone => exact ⟨_, _, .skip hname' hnone, .read hname hfield hnew hread, .rfl⟩
    | @read key' value' name' field' _ _ result' hname' hfield' hnew' hread' =>
      rw [List.mem_cons, not_or] at hnew'
      have hdistinct : field ≠ field' := fun heq => hnew'.1 (congrArg Field.name heq.symm)
      have hfields : field.Commute field' :=
        hcommute.forall (List.mem_of_find?_eq_some hfield) (List.mem_of_find?_eq_some hfield')
          hdistinct
      obtain ⟨between, hbetween, hlast⟩ := bind_eq_ok_iff.1
        ((hfields value value' record result').1 (bind_eq_ok_iff.2 ⟨result, hread, hread'⟩))
      exact ⟨_, _, .read hname' hfield' hnew'.2 hbetween,
        .read hname hfield (by simpa [hnew] using Ne.symm hnew'.1) hlast,
        fun name => by simp only [List.mem_cons, or_left_comm], Eq.refl _⟩

theorem recordEntries_of_sameState {entries : List (Document × Document)} {last : List String × ρ}
    (hsame : SameState state other)
    (h : recordEntries fields entries state.1 state.2 = .ok last) :
    ∃ after, recordEntries fields entries other.1 other.2 = .ok after ∧ SameState last after := by
  induction entries generalizing state other with
  | nil =>
    obtain rfl := Except.ok.inj h
    exact ⟨other, rfl, hsame⟩
  | cons entry rest ih =>
    obtain ⟨next, hstep, hrest⟩ := recordEntries_cons_eq_ok_iff.1 h
    obtain ⟨between, hbetween, hnext⟩ := hstep.of_sameState hsame
    obtain ⟨after, hafter, hlast⟩ := ih hnext hrest
    exact ⟨after, recordEntries_cons_eq_ok_iff.2 ⟨between, hbetween, hafter⟩, hlast⟩

/-- **The order of entries** does not matter for fields that commute. -/
theorem recordEntries_of_perm {entries others : List (Document × Document)}
    {last : List String × ρ} (hcommute : fields.Pairwise Field.Commute)
    (hperm : entries.Perm others) (h : recordEntries fields entries state.1 state.2 = .ok last) :
    ∃ after, recordEntries fields others state.1 state.2 = .ok after ∧ SameState last after := by
  induction hperm generalizing state last with
  | nil => exact ⟨last, h, .rfl⟩
  | cons entry _ ih =>
    obtain ⟨next, hstep, hrest⟩ := recordEntries_cons_eq_ok_iff.1 h
    obtain ⟨after, hafter, hlast⟩ := ih hrest
    exact ⟨after, recordEntries_cons_eq_ok_iff.2 ⟨next, hstep, hafter⟩, hlast⟩
  | swap first second rest =>
    obtain ⟨next, hsecond, htail⟩ := recordEntries_cons_eq_ok_iff.1 h
    obtain ⟨between, hfirst, hrest⟩ := recordEntries_cons_eq_ok_iff.1 htail
    obtain ⟨middle, met, hfirst', hsecond', hmet⟩ := EntryStep.swap hcommute hsecond hfirst
    obtain ⟨after, hafter, hlast⟩ := recordEntries_of_sameState hmet hrest
    exact ⟨after, recordEntries_cons_eq_ok_iff.2 ⟨middle, hfirst',
      recordEntries_cons_eq_ok_iff.2 ⟨met, hsecond', hafter⟩⟩, hlast⟩
  | trans _ _ ih ih' =>
    obtain ⟨middle, hmiddle, hfirst⟩ := ih h
    obtain ⟨after, hafter, hsecond⟩ := ih' hmiddle
    exact ⟨after, hafter, hfirst.trans hsecond⟩

theorem recordEntries_of_rearranged {entries others : List (String × Document)}
    {last : List String × ρ} (hstable : ∀ field ∈ fields, field.Stable)
    (hentries : List.Forall₂ Document.EntryRearranged entries others)
    (h : recordEntries fields (textKeyed entries) state.1 state.2 = .ok last) :
    recordEntries fields (textKeyed others) state.1 state.2 = .ok last := by
  induction hentries generalizing state with
  | nil => exact h
  | @cons entry other _ _ hentry _ ih =>
    obtain ⟨key, value⟩ := entry
    obtain ⟨key', value'⟩ := other
    obtain ⟨rfl, hvalue⟩ := hentry
    obtain ⟨next, hstep, hrest⟩ := recordEntries_cons_eq_ok_iff.1 h
    refine recordEntries_cons_eq_ok_iff.2 ⟨next, ?_, ih hrest⟩
    cases hstep with
    | skip hname hnone => exact .skip hname hnone
    | read hname hfield hnew hread =>
      exact .read hname hfield hnew (hstable _ (List.mem_of_find?_eq_some hfield) hvalue hread)

theorem recordItems_of_rearranged {dialect : Dialect} {name : String} {count position : Nat}
    {record result : ρ} {items others : List Document} (hstable : ∀ field ∈ fields, field.Stable)
    (hitems : List.Forall₂ Document.Rearranged items others)
    (h : recordItems dialect name count fields items position record = .ok result) :
    recordItems dialect name count fields others position record = .ok result := by
  induction fields generalizing items others position record with
  | nil =>
    cases hitems with
    | nil => exact h
    | cons hitem hitems =>
      unfold recordItems at h ⊢
      split_ifs at h ⊢
      exact h
  | cons field fields ih =>
    rw [List.forall_mem_cons] at hstable
    cases hitems with
    | nil => exact h
    | cons hitem hitems =>
      rw [recordItems, bind_eq_ok_iff] at h ⊢
      obtain ⟨next, hread, hrest⟩ := h
      exact ⟨next, hstable.1 hitem hread, ih hstable.2 hitems hrest⟩

theorem recordOfEntries_of_rearranged {empty result : ρ}
    {entries others shuffled : List (String × Document)}
    (hstable : ∀ field ∈ fields, field.Stable) (hcommute : fields.Pairwise Field.Commute)
    (hentries : List.Forall₂ Document.EntryRearranged entries others)
    (hperm : others.Perm shuffled)
    (h : recordOfEntries fields empty (textKeyed entries) = .ok result) :
    recordOfEntries fields empty (textKeyed shuffled) = .ok result := by
  obtain ⟨⟨found, record⟩, hread, hrest⟩ := bind_eq_ok_iff.1 h
  obtain ⟨⟨all, record'⟩, hall, hseen, hrecord⟩ :=
    @recordEntries_of_perm _ fields ([], empty) _ _ _ hcommute (hperm.map _)
      (@recordEntries_of_rearranged _ fields ([], empty) _ _ _ hstable hentries hread)
  refine bind_eq_ok_iff.2 ⟨_, hall, ?_⟩
  dsimp only at hseen hrecord hrest ⊢
  simpa only [← hseen, ← hrecord] using hrest

/-- **A record** does not depend on the order of entries, if its fields do not and commute. -/
theorem stable_record {dialect : Dialect} {name : String} {empty : ρ}
    (hfields : fields.Forall Field.Stable) (hcommute : fields.Pairwise Field.Commute) :
    (record dialect name fields empty).Stable := by
  have hstable := List.forall_iff_forall_mem.1 hfields
  intro document other hrearranged value hread
  cases hrearranged with
  | refl => exact hread
  | list hitems =>
    simp only [record, Document.untag] at hread ⊢
    split_ifs at hread ⊢
    · exact recordItems_of_rearranged hstable hitems hread
    · cases hread
  | record hkeys hnodup hvalues hperm =>
    exact recordOfEntries_of_rearranged hstable hcommute
      (Document.forall₂_entryRearranged hkeys hvalues) hperm hread

/-! ### Labels -/

/-- Reading a map as a dictionary does not depend on the order of entries. -/
theorem stable_dictionary {dialect : Dialect} :
    Reader.Stable fun document => Dictionary.ofList <$> textEntries dialect document := by
  intro document other hrearranged value hread
  cases hrearranged with
  | refl => exact hread
  | list => exact absurd hread nofun
  | @record entries others shuffled hkeys hnodup hvalues hperm =>
    obtain ⟨texts, htexts, rfl⟩ := map_eq_ok_iff.1 hread
    rw [textEntries_record_eq_ok_iff] at htexts
    have hothers : List.Forall₂ (fun entry read => read.1 = entry.1 ∧ text entry.2 = .ok read.2)
        others texts := by
      refine forall₂_of_forall₂ (Document.forall₂_entryRearranged hkeys hvalues) htexts ?_
      rintro entry other read ⟨hkey, hvalue⟩ ⟨hread, htext⟩
      exact ⟨hread.trans hkey, stable_text hvalue htext⟩
    obtain ⟨shuffledTexts, hshuffled, htextsPerm⟩ := List.perm_comp_forall₂ hperm.symm hothers
    have hnodupTexts : (texts.map (·.1)).Nodup := by
      have hsame : texts.map (·.1) = entries.map (·.1) := by
        rw [← List.forall₂_eq_eq_eq, List.forall₂_map_left_iff, List.forall₂_map_right_iff]
        exact htexts.flip.imp fun _ _ h => h.1
      rw [hsame]
      exact hnodup
    exact map_eq_ok_iff.2 ⟨shuffledTexts, textEntries_record_eq_ok_iff.2 hshuffled,
      (Dictionary.ofList_eq_of_perm htextsPerm.symm hnodupTexts).symm⟩

end Reader

namespace Document

theorem get?_record_eq_some_iff {entries : List (String × Document)} {key : String}
    {value : Document} (hnodup : (entries.map (·.1)).Nodup) :
    (record entries).get? key = some value ↔ (key, value) ∈ entries := by
  have hlookup : ∀ entries : List (String × Document),
      (record entries).get? key = (entries.find? (·.1 == key)).map (·.2) := by
    intro entries
    simp [get?, record, untag, List.find?_map, Function.comp_def, isText]
  rw [hlookup]
  induction entries with
  | nil => simp
  | cons entry rest ih =>
    obtain ⟨other, found⟩ := entry
    rw [List.map_cons, List.nodup_cons] at hnodup
    by_cases h : other = key
    · subst h
      have hrest : (other, value) ∉ rest := fun hmem =>
        hnodup.1 (List.mem_map.2 ⟨_, hmem, rfl⟩)
      simp [hrest, eq_comm]
    · simp [h, Ne.symm h, ih hnodup.2]

/-- **What is under a key** of a document is rearranged with the document. -/
theorem Rearranged.get? {document other : Document} (h : document.Rearranged other)
    (key : String) : Option.Rel Rearranged (document.get? key) (other.get? key) := by
  cases h with
  | refl =>
    cases document.get? key with
    | none => exact .none
    | some value => exact .some (.refl value)
  | list => exact .none
  | @record entries others shuffled hkeys hnodup hvalues hperm =>
    have hnodup' : (shuffled.map (·.1)).Nodup :=
      (hperm.map _).nodup_iff.1 (hkeys ▸ hnodup)
    cases hfound : (Document.record entries).get? key with
    | some value =>
      obtain ⟨⟨_, value'⟩, hmem, rfl, hvalue⟩ :=
        exists_mem_of_forall₂ (forall₂_entryRearranged hkeys hvalues)
          ((get?_record_eq_some_iff hnodup).1 hfound)
      rw [(get?_record_eq_some_iff hnodup').2 (hperm.mem_iff.1 hmem)]
      exact .some hvalue
    | none =>
      have hnone : (Document.record shuffled).get? key = none := by
        rw [Option.eq_none_iff_forall_ne_some]
        intro value' hvalue'
        have hmem : key ∈ others.map (·.1) := List.mem_map.2
          ⟨_, hperm.mem_iff.2 ((get?_record_eq_some_iff hnodup').1 hvalue'), rfl⟩
        obtain ⟨⟨_, value⟩, hentry, rfl⟩ := List.mem_map.1 (hkeys ▸ hmem)
        rw [(get?_record_eq_some_iff hnodup).2 hentry] at hfound
        exact absurd hfound nofun
      rw [hnone]
      exact .none

theorem Rearranged.isNull {document other : Document} (h : document.Rearranged other) :
    other.isNull = document.isNull := by
  cases h <;> rfl

end Document
end LogForwarding

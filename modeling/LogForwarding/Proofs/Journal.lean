import LogForwarding.Journal
import Mathlib.Data.List.Basic

/-!
# Adding up a journal

What an observer can count is a sum over the entries of a journal: a counter, the number of
look-ups, and how often the log warns with a given message. `Journal.tally` is that sum for any
way to value the entries, so that what a part of a run adds to all of them is found in one walk
through that part.

## What is proved

* `Journal.tally_append`, `Journal.tally_flatMap_eq_countP`: sums over journals that are put
  together.
* `Traced.tally_foldlM_eq_zero`: a loop of steps that are worth nothing is worth nothing.
* `Journal.count_eq_tally`, `Journal.length_lookups_eq_tally`, `Journal.warnings_eq_tally`: what is
  counted is such a sum.
-/

namespace LogForwarding

namespace Entry

/-- What an entry adds to the number of look-ups. -/
def looksUp : Entry → Nat
  | .lookup _ => 1
  | _ => 0

/-- What an entry adds to the number of warnings with a message. -/
def warns (message : String) : Entry → Nat
  | .event told => if told.level = .warn ∧ told.message = message then 1 else 0
  | _ => 0

variable {counter other : Counter} {level : Level} {component : Component} {message told : String}
  {fields : List (String × FieldValue)} {amount : Nat} {secret : String}

@[simp] theorem raise_tell : raise counter (.tell level component told fields) = 0 := rfl

@[simp] theorem raise_count :
    raise counter (.count other amount) = if other = counter then amount else 0 := rfl

@[simp] theorem raise_lookup : raise counter (.lookup secret) = 0 := rfl

@[simp] theorem looksUp_tell : looksUp (.tell level component told fields) = 0 := rfl

@[simp] theorem looksUp_count : looksUp (.count counter amount) = 0 := rfl

@[simp] theorem looksUp_lookup : looksUp (.lookup secret) = 1 := rfl

@[simp] theorem warns_tell : warns message (.tell level component told fields) =
    if level = .warn ∧ told = message then 1 else 0 := rfl

@[simp] theorem warns_count : warns message (.count counter amount) = 0 := rfl

@[simp] theorem warns_lookup : warns message (.lookup secret) = 0 := rfl

end Entry

namespace Journal

/-- The sum of what the entries of a journal are worth. -/
def tally (worth : Entry → Nat) (journal : Journal) : Nat :=
  journal.foldr (fun entry total => worth entry + total) 0

/-- How often a journal warns with a message. -/
def warnings (journal : Journal) (message : String) : Nat :=
  journal.events.countP fun event => event.level = .warn ∧ event.message = message

variable {worth : Entry → Nat} {journal : Journal}

@[simp] theorem tally_nil : tally worth [] = 0 := rfl

@[simp] theorem tally_cons (entry : Entry) (journal : Journal) :
    tally worth (entry :: journal) = worth entry + tally worth journal := rfl

@[simp] theorem tally_append (first second : Journal) :
    tally worth (first ++ second) = tally worth first + tally worth second := by
  induction first with
  | nil => exact (Nat.zero_add _).symm
  | cons entry rest ih => rw [List.cons_append, tally_cons, tally_cons, ih, Nat.add_assoc]

section Parts

variable {α : Type} {part : α → Journal} {l : List α}

/-- Where every part of a journal is worth one or nothing, the journal is worth the number of parts
that are worth one. -/
theorem tally_flatMap_eq_countP {p : α → Bool}
    (h : ∀ a ∈ l, tally worth (part a) = if p a then 1 else 0) :
    tally worth (l.flatMap part) = l.countP p := by
  induction l with
  | nil => rfl
  | cons a rest ih =>
    rw [List.forall_mem_cons] at h
    rw [List.flatMap_cons, tally_append, h.1, ih h.2, List.countP_cons, Nat.add_comm]

/-- Where every part of a journal is worth nothing, the journal is. -/
theorem tally_flatMap_eq_zero (h : ∀ a ∈ l, tally worth (part a) = 0) :
    tally worth (l.flatMap part) = 0 := by
  rw [tally_flatMap_eq_countP (p := fun _ => false) h, List.countP_false]
  rfl

end Parts

/-! ### What is counted -/

/-- **A counter** is a sum over the journal. -/
theorem count_eq_tally (counter : Counter) :
    journal.count counter = journal.tally (Entry.raise counter) := rfl

theorem count_append (first second : Journal) (counter : Counter) :
    (first ++ second).count counter = first.count counter + second.count counter := by
  simp only [count_eq_tally, tally_append]

/-- **The number of look-ups** is a sum over the journal. -/
theorem length_lookups_eq_tally : journal.lookups.length = journal.tally Entry.looksUp := by
  induction journal with
  | nil => rfl
  | cons entry rest ih =>
    rw [tally_cons, ← ih]
    cases entry with
    | event event => exact (Nat.zero_add (lookups rest).length).symm
    | count counter amount => exact (Nat.zero_add (lookups rest).length).symm
    | lookup secret => exact Nat.add_comm (lookups rest).length 1

theorem lookups_eq_nil_iff : journal.lookups = [] ↔ journal.tally Entry.looksUp = 0 := by
  rw [← length_lookups_eq_tally, List.length_eq_zero_iff]

/-- **The number of warnings** with a message is a sum over the journal. -/
theorem warnings_eq_tally (message : String) :
    journal.warnings message = journal.tally (Entry.warns message) := by
  induction journal with
  | nil => rfl
  | cons entry rest ih =>
    rw [tally_cons, ← ih]
    cases entry with
    | event event =>
      have hevents : events (.event event :: rest) = event :: events rest := rfl
      rw [warnings, hevents, List.countP_cons, Entry.warns, Nat.add_comm, warnings]
      simp only [decide_eq_true_eq]
    | count counter amount => exact (Nat.zero_add (warnings rest message)).symm
    | lookup secret => exact (Nat.zero_add (warnings rest message)).symm

theorem warnings_append (first second : Journal) (message : String) :
    (first ++ second).warnings message = first.warnings message + second.warnings message := by
  simp only [warnings_eq_tally, tally_append]

end Journal

namespace Traced

variable {α β : Type} {worth : Entry → Nat}

theorem tally_bind (first : Traced α) (next : α → Traced β) :
    (first >>= next).journal.tally worth =
      first.journal.tally worth + (next first.value).journal.tally worth := by
  rw [journal_bind, Journal.tally_append]

/-- A loop of steps that are worth nothing is worth nothing. -/
theorem tally_foldlM_eq_zero {step : β → α → Traced β}
    (h : ∀ state a, (step state a).journal.tally worth = 0) (l : List α) (state : β) :
    (l.foldlM step state).journal.tally worth = 0 := by
  induction l generalizing state with
  | nil => rfl
  | cons a rest ih => rw [List.foldlM_cons, tally_bind, h, ih]

end Traced

end LogForwarding

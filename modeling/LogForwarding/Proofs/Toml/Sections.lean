import LogForwarding.Toml.Reader
import LogForwarding.Proofs.Toml.Quoted

/-!
# Sections of texts are read back

The writer of TOML is used for one form of documents: sections with texts under keys that need
no quotes. Here what is written of such a document is read line by line. The invariant of the
reader is the table that holds what stands in the lines so far: the sections that are done, and
the one at hand with the entries that have been read (`sectionsItem`).

## What is proved

* `toList_write`: the lines that are written.
* `key?_append`: a key that needs no quotes is read up to where it ends.
* `line?_header`, `line?_entry`: what one line does to the table.
* `exists_run?_entries`, `exists_run?_part`, `run?_parts`: what the lines of entries, of a section
  and of all sections do.
* `read_write`: a document of sections is read back from what is written of it.
-/

namespace LogForwarding.Toml

/-- Texts under their keys. -/
abbrev TextEntries : Type := List (String × String)

/-- Texts under their keys, in sections under their names. -/
abbrev TextSections : Type := List (String × TextEntries)

/-- The document of texts under their keys. -/
def entriesDocument (entries : TextEntries) : Document :=
  .record (entries.map fun (key, value) => (key, .text value))

/-- The document of texts in sections. -/
def sectionsDocument (sections : TextSections) : Document :=
  .record (sections.map fun (name, entries) => (name, entriesDocument entries))

/-- Whether names need no quotes and differ from each other. -/
structure AreKeys (names : List String) : Prop where
  /-- No name needs quotes. -/
  bare : ∀ name ∈ names, isBareKey name
  /-- No two names are the same. -/
  nodup : names.Nodup

/-- Whether the names of sections and the keys in each of them need no quotes and differ. -/
structure IsPlain (sections : TextSections) : Prop where
  /-- The names of the sections. -/
  names : AreKeys (sections.map (·.1))
  /-- The keys of every section. -/
  keys : ∀ part ∈ sections, AreKeys (part.2.map (·.1))

variable {key name value : String} {entries : TextEntries} {sections : TextSections}

/-! ### What is written -/

/-- The line of an entry. -/
def entryLine (entry : String × String) : List Char :=
  entry.1.toList ++ (' ' :: '=' :: ' ' :: ((quote entry.2).toList ++ ['\n']))

/-- The line with the name of a section. -/
def headerLine (name : String) : List Char := '[' :: (name.toList ++ [']', '\n'])

/-- The lines of a section. -/
def partLines (part : String × TextEntries) : List Char :=
  headerLine part.1 ++ part.2.flatMap entryLine

theorem keyText_text (h : isBareKey name) : keyText (.text name) = name := by
  rw [keyText, if_pos h]

theorem entryTexts_map (h : ∀ entry ∈ entries, isBareKey entry.1) :
    (entryTexts (entries.map fun entry => (.text entry.1, .text entry.2))).map (· ++ "\n") =
      entries.map fun entry => String.ofList (entryLine entry) := by
  induction entries with
  | nil => rfl
  | cons entry entries ih =>
    rw [List.forall_mem_cons] at h
    rw [List.map_cons, entryTexts, List.map_cons, ih h.2, keyText_text h.1, List.map_cons]
    congr 1
    rw [← String.toList_inj]
    simp [entryLine, valueText]

theorem toList_sectionText (hname : isBareKey name) (hkeys : AreKeys (entries.map (·.1))) :
    (sectionText (.text name, entriesDocument entries)).toList = partLines (name, entries) := by
  have hbare := List.forall_mem_map.1 hkeys.bare
  simp only [entriesDocument, Document.record, List.map_map, sectionText, keyText_text hname]
  have htexts := entryTexts_map hbare
  simp only [Function.comp_def, htexts, String.join_cons, String.toList_append]
  simp [partLines, headerLine, String.toList_join, List.flatMap_map]

/-- **The lines that are written**: those of all sections, with a blank one between them. -/
theorem toList_write (h : IsPlain sections) : (write (sectionsDocument sections)).toList =
    ['\n'].intercalate (sections.map partLines) := by
  have hsections : ∀ part ∈ sections,
      (sectionText (.text part.1, entriesDocument part.2)).toList = partLines part :=
    fun part hpart =>
      toList_sectionText (h.names.bare _ (List.mem_map_of_mem hpart)) (h.keys part hpart)
  have hall : ∀ entry ∈ sections.map fun part => (Document.text part.1, entriesDocument part.2),
      isSection entry := List.forall_mem_map.2 fun _ _ => rfl
  have hpartition : (sections.map fun part =>
      (Document.text part.1, entriesDocument part.2)).partition isSection =
        (sections.map fun part => (.text part.1, entriesDocument part.2), []) := by
    rw [List.partition_eq_filter_filter, Prod.mk.injEq, List.filter_eq_self, List.filter_eq_nil_iff]
    exact ⟨hall, fun entry hentry => by simp [hall entry hentry]⟩
  have hrecord : sectionsDocument sections =
      .map (sections.map fun part => (.text part.1, entriesDocument part.2)) := by
    simp [sectionsDocument, Document.record]
  rw [hrecord, write, hpartition]
  simp only [List.isEmpty_nil, if_true, List.nil_append, String.toList_intercalate, List.map_map]
  congr 1
  exact List.map_congr_left hsections

/-! ### Keys -/

variable {text rest : List Char} {fuel : Nat}

theorem isKeyChar_of_isBareKey (h : isBareKey key) : ∀ c ∈ key.toList, isKeyChar c := by
  simp only [isBareKey, Bool.and_eq_true, List.all_eq_true] at h
  exact h.2

theorem exists_cons_of_isBareKey (h : isBareKey key) : ∃ c rest, key.toList = c :: rest
    ∧ isKeyChar c := by
  have hne : key.toList ≠ [] := by
    simp only [isBareKey, Bool.and_eq_true, Bool.not_eq_true', String.isEmpty_eq_false_iff] at h
    simpa using h.1
  obtain ⟨c, rest, hcons⟩ := List.exists_cons_of_ne_nil hne
  exact ⟨c, rest, hcons, isKeyChar_of_isBareKey h c (hcons ▸ List.mem_cons_self)⟩

/-- A key that needs no quotes is read up to where it ends. -/
theorem key?_append (h : isBareKey key) (hstop : text.takeWhile isKeyChar = [])
    (hdot : (skipBlank text).head? ≠ some '.') :
    key? (fuel + 1) (key.toList ++ text) = some ([key], skipBlank text) := by
  obtain ⟨c, rest, hcons, hc⟩ := exists_cons_of_isBareKey h
  have hblank : skipBlank (key.toList ++ text) = key.toList ++ text := by
    rw [hcons, skipBlank, List.cons_append, List.dropWhile_cons_of_neg]
    rw [isBlank, Bool.or_eq_true, decide_eq_true_eq, decide_eq_true_eq]
    rintro (rfl | rfl) <;> exact absurd hc (by decide)
  have hbare : (key.toList ++ text).takeWhile isKeyChar = key.toList := by
    rw [List.takeWhile_append_of_pos (isKeyChar_of_isBareKey h), hstop, List.append_nil]
  have hsimple : simpleKey? (fuel + 1) (key.toList ++ text) = some (key, text) := by
    simp [simpleKey?, hbare, hcons.symm ▸ List.cons_ne_nil c rest, List.isEmpty_iff]
  simp only [key?, hblank, hsimple, Option.bind_eq_bind, Option.bind_some]
  split
  · rename_i heq
    rw [heq] at hdot
    exact absurd rfl hdot
  · rfl

/-! ### Tables -/

/-- The table of entries. -/
def entriesItem (entries : TextEntries) : Item :=
  .table .header (entries.map fun entry => (entry.1, .value (.text entry.2)))

/-- The table of sections. -/
def sectionsItem (sections : TextSections) : Item :=
  .table .header (sections.map fun part => (part.1, entriesItem part.2))

theorem toEntries_map {α : Type} (key : α → String) (item : α → Item) (l : List α) :
    Item.toEntries (l.map fun a => (key a, item a)) =
      l.map fun a => (.text (key a), (item a).toDocument) := by
  induction l with
  | nil => rfl
  | cons a l ih => rw [List.map_cons, Item.toEntries, ih, List.map_cons]

theorem toDocument_entriesItem (entries : TextEntries) :
    (entriesItem entries).toDocument = entriesDocument entries := by
  simp [entriesItem, entriesDocument, Document.record, Item.toDocument, toEntries_map]

theorem toDocument_sectionsItem (sections : TextSections) :
    (sectionsItem sections).toDocument = sectionsDocument sections := by
  simp [sectionsItem, sectionsDocument, Document.record, Item.toDocument, toEntries_map,
    toDocument_entriesItem]

variable {α : Type} (item : α → Item) (new : Item) {l : List (String × α)}

theorem putEntry_append (h : key ∉ l.map (·.1)) (rest : List (String × Item)) :
    Item.putEntry key new (l.map (fun a => (a.1, item a.2)) ++ rest) =
      l.map (fun a => (a.1, item a.2)) ++ Item.putEntry key new rest := by
  induction l with
  | nil => rfl
  | cons a l ih =>
    rw [List.map_cons, List.mem_cons, not_or] at h
    rw [List.map_cons, List.cons_append, Item.putEntry, if_neg (Ne.symm h.1), ih h.2,
      List.cons_append]

theorem lookup_append (h : key ∉ l.map (·.1)) (rest : List (String × Item)) :
    (l.map (fun a => (a.1, item a.2)) ++ rest).lookup key = rest.lookup key := by
  induction l with
  | nil => rfl
  | cons a l ih =>
    rw [List.map_cons, List.mem_cons, not_or] at h
    rw [List.map_cons, List.cons_append, List.lookup_cons, beq_eq_false_iff_ne.2 h.1, ih h.2]

/-- A header adds a section without entries. -/
theorem openTable?_sectionsItem (h : name ∉ sections.map (·.1)) :
    Item.openTable? name (sectionsItem sections) =
      some (sectionsItem (sections ++ [(name, [])])) := by
  have hlookup := lookup_append entriesItem h []
  have hput := putEntry_append entriesItem .root h []
  rw [List.append_nil] at hlookup hput
  simp only [Item.openTable?, sectionsItem, Item.get?, Item.entries, hlookup, List.lookup_nil,
    Item.put, hput]
  simp [Item.putEntry, entriesItem, Item.root]

/-- An entry is added to the section at hand. -/
theorem change?_sectionsItem (hname : name ∉ sections.map (·.1)) (hkey : key ∉ entries.map (·.1)) :
    (sectionsItem (sections ++ [(name, entries)])).change? false
        (Item.assignPath? [key] (.text value)) [name] =
      some (sectionsItem (sections ++ [(name, entries ++ [(key, value)])])) := by
  have hsection := lookup_append entriesItem hname [(name, entriesItem entries)]
  have hentry := lookup_append (fun text => .value (.text text)) hkey []
  rw [List.append_nil] at hentry
  have hput := putEntry_append (fun text => .value (.text text)) (.value (.text value)) hkey []
  rw [List.append_nil] at hput
  have hassign : Item.assignPath? [key] (.text value) (entriesItem entries) =
      some (entriesItem (entries ++ [(key, value)])) := by
    simp [Item.assignPath?, Item.change?, Item.assign?, entriesItem, Item.isDotted, Item.get?,
      Item.entries, hentry, Item.put, hput, Item.putEntry]
  have hreplace := putEntry_append entriesItem (entriesItem (entries ++ [(key, value)])) hname
    [(name, entriesItem entries)]
  have hget : (sectionsItem (sections ++ [(name, entries)])).get? name =
      some (entriesItem entries) := by
    simp [sectionsItem, Item.get?, Item.entries, hsection]
  have hplace : (sectionsItem (sections ++ [(name, entries)])).put name
      (entriesItem (entries ++ [(key, value)])) =
        sectionsItem (sections ++ [(name, entries ++ [(key, value)])]) := by
    simp [sectionsItem, Item.put, hreplace, Item.putEntry]
  rw [Item.change?, hget]
  change Option.map _ (Item.change? false _ [] (entriesItem entries)) = _
  rw [Item.change?, hassign, Option.map_some, hplace]

/-! ### Lines -/

theorem skipBlank_cons {c : Char} (h : isBlank c = false) : skipBlank (c :: rest) = c :: rest := by
  rw [skipBlank, List.dropWhile_cons_of_neg]
  simp [h]

theorem endLine?_break : endLine? ('\n' :: rest) = some rest := by
  rw [endLine?, skipBlank_cons rfl]
  rfl

/-- The line with the name of a section opens it. -/
theorem line?_header {current : List String} (hname : isBareKey name)
    (hnew : name ∉ sections.map (·.1)) :
    Reading.line? (fuel + 1) ⟨sectionsItem sections, current⟩ (headerLine name ++ rest) =
      some (⟨sectionsItem (sections ++ [(name, [])]), [name]⟩, rest) := by
  have hkey : key? (fuel + 1) (name.toList ++ ']' :: '\n' :: rest) =
      some ([name], ']' :: '\n' :: rest) := by
    rw [key?_append hname rfl (by rw [skipBlank_cons rfl]; simp), skipBlank_cons rfl]
  have hopen : (Reading.mk (sectionsItem sections) current).openHeader? [name] Item.openTable? =
      some ⟨sectionsItem (sections ++ [(name, [])]), [name]⟩ := by
    simp [Reading.openHeader?, Item.change?, openTable?_sectionsItem hnew]
  have htext : headerLine name ++ rest = '[' :: (name.toList ++ ']' :: '\n' :: rest) := by
    simp [headerLine]
  obtain ⟨c, tail, hcons, hc⟩ := exists_cons_of_isBareKey hname
  rw [htext, Reading.line?]
  · simp [hkey, hopen, endLine?_break]
  · intro more hmore
    rw [hcons, List.cons_append, List.cons.injEq] at hmore
    rw [hmore.1] at hc
    exact absurd hc (by decide)

theorem exists_cons_quote (value : String) :
    ∃ mark rest, (quote value).toList = mark :: rest ∧ (mark = '"' ∨ mark = '\'') := by
  rcases head?_quote value with h | h
  · obtain ⟨rest, hrest⟩ := List.head?_eq_some_iff.1 h
    exact ⟨_, rest, hrest, Or.inl rfl⟩
  · obtain ⟨rest, hrest⟩ := List.head?_eq_some_iff.1 h
    exact ⟨_, rest, hrest, Or.inr rfl⟩

/-- A text is read as a value. -/
theorem value?_quote {depth : Nat} (hfuel : value.toList.length ≤ fuel)
    (hdouble : rest.head? ≠ some '"') (hsingle : rest.head? ≠ some '\'') :
    value? (fuel + 1) depth ((quote value).toList ++ rest) = some (.text value, rest) := by
  have hquoted := quoted?_quote (Nat.lt_succ_of_le hfuel) hdouble hsingle
  obtain ⟨mark, tail, hcons, hmark⟩ := exists_cons_quote value
  rw [hcons, List.cons_append] at hquoted ⊢
  rcases hmark with rfl | rfl <;> simp [value?, hquoted]

theorem exists_cons_entryLine (value : String) (h : isBareKey key) :
    ∃ c rest, entryLine (key, value) = c :: rest ∧ isKeyChar c := by
  obtain ⟨c, rest, hcons, hc⟩ := exists_cons_of_isBareKey h
  exact ⟨c, _, by rw [entryLine, hcons, List.cons_append], hc⟩

theorem length_lt_entryLine : value.toList.length < (entryLine (key, value)).length := by
  have hquote := length_le_quote value
  simp only [entryLine, List.length_append, List.length_cons]
  omega

/-- The line of an entry adds it to the section at hand. -/
theorem line?_entry (hkey : isBareKey key) (hname : name ∉ sections.map (·.1))
    (hnew : key ∉ entries.map (·.1)) (hfuel : value.toList.length ≤ fuel) :
    Reading.line? (fuel + 1) ⟨sectionsItem (sections ++ [(name, entries)]), [name]⟩
        (entryLine (key, value) ++ rest) =
      some (⟨sectionsItem (sections ++ [(name, entries ++ [(key, value)])]), [name]⟩, rest) := by
  have hread : key? (fuel + 1) (entryLine (key, value) ++ rest) =
      some ([key], '=' :: ' ' :: ((quote value).toList ++ '\n' :: rest)) := by
    have htext : entryLine (key, value) ++ rest =
        key.toList ++ ' ' :: '=' :: ' ' :: ((quote value).toList ++ '\n' :: rest) := by
      simp [entryLine]
    rw [htext, key?_append hkey rfl (by simp [skipBlank, isBlank])]
    rfl
  have hvalue : value? (fuel + 1) depthLimit ((quote value).toList ++ '\n' :: rest) =
      some (.text value, '\n' :: rest) := value?_quote hfuel (by simp) (by simp)
  have hafter : afterEquals? ('=' :: ' ' :: ((quote value).toList ++ '\n' :: rest)) =
      some ((quote value).toList ++ '\n' :: rest) := by
    obtain ⟨mark, tail, hcons, hmark⟩ := exists_cons_quote value
    rw [hcons, afterEquals?]
    rcases hmark with rfl | rfl <;> rfl
  have hbracket : ∀ more, entryLine (key, value) ++ rest ≠ '[' :: more := by
    obtain ⟨c, tail, hcons, hc⟩ := exists_cons_entryLine value hkey
    intro more hmore
    rw [hcons, List.cons_append, List.cons.injEq] at hmore
    rw [hmore.1] at hc
    exact absurd hc (by decide)
  unfold Reading.line?
  split
  · exact absurd ‹_› (hbracket _)
  · exact absurd ‹_› (hbracket _)
  · simp [hread, hafter, hvalue, change?_sectionsItem hname hnew, endLine?_break]

/-- A line that starts with a character of its own is not skipped. -/
theorem skipLines_cons {c : Char} (h : isKeyChar c ∨ c = '[') :
    skipLines fuel (c :: rest) = c :: rest := by
  have hblank : skipBlank (c :: rest) = c :: rest := by
    refine skipBlank_cons ?_
    rw [isBlank, Bool.or_eq_false_iff, decide_eq_false_iff_not, decide_eq_false_iff_not]
    constructor <;> rintro rfl <;> exact absurd h (by decide)
  have hcomment : skipComment (c :: rest) = c :: rest := by
    unfold skipComment
    split
    · rename_i heq
      rw [(List.cons.inj heq).1] at h
      exact absurd h (by decide)
    · rfl
  have hbreak : afterBreak? (c :: rest) = none := by
    refine afterBreak?_eq_none ?_
    constructor <;> rintro ⟨⟩ <;> exact absurd h (by decide)
  cases fuel with
  | zero => rfl
  | succ fuel => simp only [skipLines, hblank, hcomment, hbreak]

theorem skipLines_break_cons {c : Char} (h : isKeyChar c ∨ c = '[') :
    skipLines (fuel + 1) ('\n' :: c :: rest) = c :: rest := by
  rw [skipLines, skipBlank_cons rfl]
  exact skipLines_cons h

theorem run?_of_line? {reading next : Reading} {c : Char} {line : List Char}
    (hskip : skipLines (fuel + 1) text = c :: line)
    (h : reading.line? (fuel + 1) (c :: line) = some (next, rest)) :
    reading.run? (fuel + 1) text = next.run? fuel rest := by
  simp only [Reading.run?, hskip, h]

/-! ### All lines -/

/-- The lines of entries add them to the section at hand. -/
theorem exists_run?_entries {seen : TextEntries} (hname : name ∉ sections.map (·.1))
    (hkeys : AreKeys ((seen ++ entries).map (·.1)))
    (hfuel : (entries.flatMap entryLine ++ rest).length < fuel) : ∃ left, rest.length < left
      ∧ Reading.run? fuel ⟨sectionsItem (sections ++ [(name, seen)]), [name]⟩
          (entries.flatMap entryLine ++ rest) =
        Reading.run? left ⟨sectionsItem (sections ++ [(name, seen ++ entries)]), [name]⟩ rest := by
  induction entries generalizing seen fuel with
  | nil => exact ⟨fuel, hfuel, by simp⟩
  | cons entry entries ih =>
    obtain ⟨key, value⟩ := entry
    obtain ⟨fuel, rfl⟩ := Nat.exists_eq_add_one.2 (Nat.zero_lt_of_lt hfuel)
    have hkey : isBareKey key := hkeys.bare key (by simp)
    have hnew : key ∉ seen.map (·.1) := by
      have hnodup := hkeys.nodup
      rw [List.map_append, List.nodup_append] at hnodup
      exact fun hmem => hnodup.2.2 key hmem key (by simp) rfl
    rw [List.append_cons] at hkeys
    have hlength := @length_lt_entryLine key value
    rw [List.flatMap_cons, List.append_assoc, List.length_append] at hfuel
    obtain ⟨left, hleft, hrun⟩ := @ih fuel _ hkeys (by omega)
    obtain ⟨c, tail, hcons, hc⟩ := exists_cons_entryLine value hkey
    have hline := @line?_entry key name value seen sections (entries.flatMap entryLine ++ rest) fuel
      hkey hname hnew (by omega)
    refine ⟨left, hleft, ?_⟩
    rw [List.append_cons seen, ← hrun, List.flatMap_cons, List.append_assoc]
    rw [hcons, List.cons_append] at hline ⊢
    exact run?_of_line? (skipLines_cons (Or.inl hc)) hline

/-- The lines of a section, perhaps behind a blank one, add it to the table. -/
theorem exists_run?_part {blank : List Char} {current : List String}
    (hblank : blank = [] ∨ blank = ['\n']) (hname : isBareKey name)
    (hnew : name ∉ sections.map (·.1)) (hkeys : AreKeys (entries.map (·.1)))
    (hfuel : (blank ++ (partLines (name, entries) ++ rest)).length < fuel) :
    ∃ left, rest.length < left
      ∧ Reading.run? fuel ⟨sectionsItem sections, current⟩
          (blank ++ (partLines (name, entries) ++ rest)) =
        Reading.run? left ⟨sectionsItem (sections ++ [(name, entries)]), [name]⟩ rest := by
  obtain ⟨fuel, rfl⟩ := Nat.exists_eq_add_one.2 (Nat.zero_lt_of_lt hfuel)
  have hparts : partLines (name, entries) ++ rest =
      headerLine name ++ (entries.flatMap entryLine ++ rest) := List.append_assoc _ _ _
  rw [hparts] at hfuel ⊢
  have hrest : (entries.flatMap entryLine ++ rest).length < fuel := by
    have hheader : 0 < (headerLine name).length := by simp [headerLine]
    rw [List.length_append, @List.length_append _ (headerLine name)] at hfuel
    omega
  obtain ⟨left, hleft, hrun⟩ := @exists_run?_entries _ _ _ _ _ [] hnew hkeys hrest
  have hline := @line?_header name sections (entries.flatMap entryLine ++ rest) fuel current
    hname hnew
  refine ⟨left, hleft, (run?_of_line? (c := '[') ?_ hline).trans hrun⟩
  rcases hblank with rfl | rfl
  · exact skipLines_cons (Or.inr rfl)
  · exact skipLines_break_cons (Or.inr rfl)

/-- The lines of sections, each behind a blank one, make up the table. -/
theorem run?_parts {done : TextSections} {current : List String} (h : IsPlain (done ++ sections))
    (hfuel : (sections.flatMap fun part => '\n' :: partLines part).length < fuel) :
    Reading.run? fuel ⟨sectionsItem done, current⟩
        (sections.flatMap fun part => '\n' :: partLines part) =
      some (sectionsDocument (done ++ sections)) := by
  induction sections generalizing done current fuel with
  | nil =>
    obtain ⟨fuel, rfl⟩ := Nat.exists_eq_add_one.2 (Nat.zero_lt_of_lt hfuel)
    rw [List.append_nil, ← toDocument_sectionsItem]
    rfl
  | cons part sections ih =>
    obtain ⟨name, entries⟩ := part
    have hname : isBareKey name := h.names.bare name (by simp)
    have hnew : name ∉ done.map (·.1) := by
      have hnodup := h.names.nodup
      rw [List.map_append, List.nodup_append] at hnodup
      exact fun hmem => hnodup.2.2 name hmem name (by simp) rfl
    have hkeys : AreKeys (entries.map (·.1)) := h.keys (name, entries) (by simp)
    obtain ⟨left, hleft, hrun⟩ := exists_run?_part (Or.inr rfl) hname hnew hkeys hfuel
    rw [List.append_cons] at h ⊢
    exact hrun.trans (ih h hleft)

theorem intercalate_cons_eq_flatMap {c : Char} (line : List Char) (lines : List (List Char)) :
    [c].intercalate (line :: lines) = line ++ lines.flatMap (c :: ·) := by
  induction lines generalizing line with
  | nil => simp
  | cons next lines ih => rw [List.intercalate_cons_cons, ih]; simp

/-- **A document of sections is read back** from what is written of it. -/
theorem read_write (h : IsPlain sections) :
    read (write (sectionsDocument sections)) = some (sectionsDocument sections) := by
  have hwrite := toList_write h
  cases sections with
  | nil => rfl
  | cons part sections =>
    obtain ⟨name, entries⟩ := part
    have hlines : (write (sectionsDocument ((name, entries) :: sections))).toList =
        partLines (name, entries) ++ sections.flatMap fun part => '\n' :: partLines part := by
      rw [hwrite, List.map_cons, intercalate_cons_eq_flatMap, List.flatMap_map]
    have hmark : withoutByteOrderMark
        (partLines (name, entries) ++ sections.flatMap fun part => '\n' :: partLines part) =
          partLines (name, entries) ++ sections.flatMap fun part => '\n' :: partLines part := rfl
    have hfuel (length : Nat) : length < 2 * length + 2 := by omega
    rw [read, hlines, hmark]
    obtain ⟨left, hleft, hrun⟩ := @exists_run?_part _ _ [] _ _ _ [] (Or.inl rfl)
      (h.names.bare name (by simp)) List.not_mem_nil (h.keys (name, entries) (by simp)) (hfuel _)
    exact hrun.trans (@run?_parts _ _ [(name, entries)] _ h hleft)

end LogForwarding.Toml

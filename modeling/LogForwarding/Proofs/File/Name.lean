import LogForwarding.File.Tree
import Mathlib.Data.List.Nodup
import Mathlib.Tactic.SplitIfs

/-!
# Names of files

A text is a name by its bytes, and a name is a text if its bytes are some text's. The byte of
an ASCII character is in a text's bytes iff the character is in the text, so that a path is cut
into segments at its slashes and nowhere else.

In a well-formed tree the entries of a directory have distinct names, and each could be a
segment of a path.

## What is proved

* `FileName.text?_eq_some_iff`: a name is the text that it is read as.
* `FileName.mem_ofText_iff`: which ASCII characters are in a text.
* `FileName.isEntryName_ofText_iff`: which texts can be names of entries.
* `FileTree.WellFormed.of_below?`: what lies in a well-formed tree is well-formed.
-/

namespace LogForwarding

/-! ### Bytes of a text -/

/-- Reading an array byte by byte goes on with the bytes from a position on. -/
theorem toList_loop (bytes : ByteArray) (position : Nat) (collected : List UInt8) :
    ByteArray.toList.loop bytes position collected =
      collected.reverse ++ bytes.data.toList.drop position := by
  fun_induction ByteArray.toList.loop bytes position collected with
  | case1 position collected h ih =>
    have hlt : position < bytes.data.toList.length := by simpa using h
    have hbyte : bytes.get! position = bytes.data.toList[position] := by
      rw [ByteArray.get!]
      exact getElem!_pos bytes.data position (by simpa using hlt)
    rw [ih, List.drop_eq_getElem_cons hlt, hbyte]
    simp
  | case2 position collected h =>
    have hle : bytes.data.toList.length ≤ position := by simpa using h
    rw [List.drop_eq_nil_of_le hle, List.append_nil]

namespace FileName

/-- The name that a text is. -/
def ofText (text : String) : FileName := text.toUTF8.toList

/-- The text that a name is, if it is one. -/
def text? (name : FileName) : Option String := String.fromUTF8? (ByteArray.mk name.toArray)

theorem ofText_eq (text : String) : ofText text = text.toByteArray.data.toList :=
  toList_loop _ 0 []

theorem ofText_eq_flatMap (text : String) :
    ofText text = text.toList.flatMap String.utf8EncodeChar := by
  rw [ofText_eq, ← String.utf8Encode_toList, List.utf8Encode, List.toList_data_toByteArray]

theorem length_ofText (text : String) : (ofText text).length = text.utf8ByteSize := by
  rw [ofText_eq, Array.length_toList]
  rfl

theorem ofText_append (first second : String) :
    ofText (first ++ second) = ofText first ++ ofText second := by
  simp only [ofText_eq, String.toByteArray_append, ByteArray.toList_data_append]

/-- **A name is the text** that it is read as. -/
theorem text?_eq_some_iff {name : FileName} {text : String} :
    name.text? = some text ↔ name = ofText text := by
  rw [ofText_eq]
  unfold text? String.fromUTF8?
  constructor
  · intro h
    split_ifs at h with hvalid
    obtain rfl := Option.some.inj h
    rfl
  · rintro rfl
    rw [Array.toArray_toList, dif_pos text.isValidUTF8]
    rfl

@[simp] theorem text?_ofText (text : String) : (ofText text).text? = some text :=
  text?_eq_some_iff.2 rfl

theorem ofText_inj {first second : String} : ofText first = ofText second ↔ first = second := by
  rw [← text?_eq_some_iff, text?_ofText, Option.some_inj]

theorem ofText_eq_nil_iff {text : String} : ofText text = [] ↔ text = "" := by
  rw [← ofText_inj, ofText_eq_flatMap ""]
  rfl

/-- A byte below 128 is the number of one character, and no part of another. -/
theorem mem_utf8EncodeChar_iff {byte : UInt8} (h : byte.toNat < 128) {c : Char} :
    byte ∈ String.utf8EncodeChar c ↔ c.toNat = byte.toNat := by
  have hbyte : ∀ number : Nat, byte = UInt8.ofNat number ↔ byte.toNat = number % 256 := by
    intro number
    rw [← UInt8.toNat_inj, UInt8.toNat_ofNat']
  unfold String.utf8EncodeChar
  simp only [Char.toNat]
  split_ifs <;> simp only [List.mem_cons, List.not_mem_nil, or_false, hbyte] <;> omega

/-- **An ASCII character** is in a text iff its byte is among the text's. -/
theorem mem_ofText_iff {c : Char} (h : c.toNat < 128) {text : String} :
    UInt8.ofNat c.toNat ∈ ofText text ↔ c ∈ text.toList := by
  have hbyte : (UInt8.ofNat c.toNat).toNat = c.toNat := by
    rw [UInt8.toNat_ofNat']
    omega
  have hlt : (UInt8.ofNat c.toNat).toNat < 128 := by rwa [hbyte]
  simp only [ofText_eq_flatMap, List.mem_flatMap, mem_utf8EncodeChar_iff hlt, hbyte]
  constructor
  · rintro ⟨other, hmem, hnumber⟩
    rwa [← Char.ofNat_toNat c, ← hnumber, Char.ofNat_toNat]
  · exact fun hmem => ⟨c, hmem, rfl⟩

theorem slash_mem_ofText_iff {text : String} :
    FileTree.slash ∈ ofText text ↔ '/' ∈ text.toList :=
  mem_ofText_iff (c := '/') (by decide)

theorem zero_mem_ofText_iff {text : String} : 0 ∈ ofText text ↔ '\x00' ∈ text.toList :=
  mem_ofText_iff (c := '\x00') (by decide)

/-- Whether a name can be that of an entry of a directory. -/
structure IsEntryName (name : FileName) : Prop where
  /-- The name is not empty. -/
  ne_nil : name ≠ []
  /-- It does not stand for the directory itself. -/
  ne_dot : name ≠ [0x2E]
  /-- It does not stand for the directory above. -/
  ne_dots : name ≠ [0x2E, 0x2E]
  /-- It is one segment of a path. -/
  slash_notMem : FileTree.slash ∉ name
  /-- A path can have it in it. -/
  zero_notMem : 0 ∉ name
  /-- It is not too long. -/
  length_le : name.length ≤ FileTree.nameLimit

theorem ofText_slash : ofText "/" = [FileTree.slash] := by
  rw [ofText_eq_flatMap]
  rfl

theorem ofText_dot : ofText "." = [0x2E] := by
  rw [ofText_eq_flatMap]
  rfl

theorem ofText_dots : ofText ".." = [0x2E, 0x2E] := by
  rw [ofText_eq_flatMap]
  rfl

theorem isEntryName_ofText_iff {text : String} : (ofText text).IsEntryName ↔
    text ≠ "" ∧ text ≠ "." ∧ text ≠ ".." ∧ '/' ∉ text.toList ∧ '\x00' ∉ text.toList
      ∧ text.utf8ByteSize ≤ FileTree.nameLimit := by
  rw [← slash_mem_ofText_iff, ← zero_mem_ofText_iff, ← length_ofText, ne_eq, ← ofText_eq_nil_iff,
    ne_eq, ← ofText_inj, ofText_dot, ne_eq, ← ofText_inj, ofText_dots]
  constructor
  · exact fun h => ⟨h.ne_nil, h.ne_dot, h.ne_dots, h.slash_notMem, h.zero_notMem, h.length_le⟩
  · exact fun ⟨hnil, hdot, hdots, hslash, hzero, hlength⟩ =>
      ⟨hnil, hdot, hdots, hslash, hzero, hlength⟩

instance (text : String) : Decidable (ofText text).IsEntryName :=
  decidable_of_iff _ isEntryName_ofText_iff.symm

end FileName

/-! ### Well-formed trees -/

namespace FileTree

/-- Looking a name up finds its entry, where names are distinct. -/
theorem lookup_eq_some_iff_mem {α : Type} {entries : List (FileName × α)}
    (h : (entries.map Prod.fst).Nodup) {name : FileName} {value : α} :
    entries.lookup name = some value ↔ (name, value) ∈ entries := by
  induction entries with
  | nil => simp
  | cons entry rest ih =>
    obtain ⟨first, found⟩ := entry
    rw [List.map_cons, List.nodup_cons] at h
    rw [List.lookup_cons, List.mem_cons, Prod.mk.injEq]
    by_cases hname : name = first
    · subst hname
      have hrest : (name, value) ∉ rest := by
        intro hmem
        exact h.1 (List.mem_map.2 ⟨_, hmem, rfl⟩)
      simp [hrest, eq_comm]
    · rw [beq_eq_false_iff_ne.2 hname]
      simp [hname, ih h.2]

/-- Whether a tree can be one of a file system: the entries of each directory have distinct
names, and each could be a segment of a path. -/
inductive WellFormed : FileTree → Prop where
  /-- A file. -/
  | file (content : ByteArray) : WellFormed (file content)
  /-- A link. -/
  | link (target : FileName) : WellFormed (link target)
  /-- A pipe, a socket or a device. -/
  | special (content : Except FileError ByteArray) : WellFormed (special content)
  /-- A directory. -/
  | directory {entries : List (FileName × FileTree)} :
      (∀ entry ∈ entries, FileName.IsEntryName entry.1) → (entries.map Prod.fst).Nodup →
        (∀ entry ∈ entries, WellFormed entry.2) → WellFormed (directory entries)

namespace WellFormed

variable {tree inner : FileTree}

theorem isEntryName {entries : List (FileName × FileTree)}
    (h : (FileTree.directory entries).WellFormed) {entry : FileName × FileTree}
    (hmem : entry ∈ entries) : FileName.IsEntryName entry.1 := by
  cases h with
  | directory hnames => exact hnames entry hmem

theorem nodup {entries : List (FileName × FileTree)}
    (h : (FileTree.directory entries).WellFormed) : (entries.map Prod.fst).Nodup := by
  cases h with
  | directory _ hnodup => exact hnodup

theorem of_entry (h : tree.WellFormed) {name : FileName} (hentry : tree.entry? name = some inner) :
    inner.WellFormed := by
  cases h with
  | file _ | link _ | special _ => cases hentry
  | directory _ hnodup hinner =>
    exact hinner _ ((lookup_eq_some_iff_mem hnodup).1 hentry)

/-- **What lies in a well-formed tree** is well-formed. -/
theorem of_below? (h : tree.WellFormed) {place : List FileName}
    (hplace : tree.below? place = some inner) : inner.WellFormed := by
  induction place generalizing tree with
  | nil =>
    obtain rfl : tree = inner := Option.some.inj hplace
    exact h
  | cons name rest ih =>
    obtain ⟨next, hnext, hrest⟩ := Option.bind_eq_some_iff.1 hplace
    exact ih (h.of_entry hnext) hrest

end WellFormed

/-- Entries whose names are texts. -/
def named (entries : List (String × FileTree)) : List (FileName × FileTree) :=
  entries.map fun entry => (FileName.ofText entry.1, entry.2)

theorem mem_names_named {entries : List (String × FileTree)} {text : String} :
    FileName.ofText text ∈ (named entries).map Prod.fst ↔ text ∈ entries.map Prod.fst := by
  simp only [named, List.map_map, List.mem_map, Function.comp, FileName.ofText_inj]

/-- Names that are texts are looked up as texts. -/
theorem lookup_named (entries : List (String × FileTree)) (name : String) :
    (named entries).lookup (FileName.ofText name) = entries.lookup name := by
  induction entries with
  | nil => rfl
  | cons entry rest ih =>
    have hbeq : (FileName.ofText name == FileName.ofText entry.1) = (name == entry.1) := by
      rw [Bool.eq_iff_iff, beq_iff_eq, beq_iff_eq, FileName.ofText_inj]
    rw [named, List.map_cons, List.lookup_cons, List.lookup_cons, hbeq, ← named, ih]

theorem wellFormed_named {entries : List (String × FileTree)}
    (hnames : ∀ name ∈ entries.map Prod.fst, (FileName.ofText name).IsEntryName)
    (hnodup : (entries.map Prod.fst).Nodup) (hinner : ∀ entry ∈ entries, WellFormed entry.2) :
    (directory (named entries)).WellFormed := by
  refine .directory (List.forall_mem_map.2 ?_) ?_ (List.forall_mem_map.2 hinner)
  · exact fun entry hmem => hnames entry.1 (List.mem_map_of_mem hmem)
  · rw [List.Nodup, List.pairwise_map, named, List.pairwise_map]
    exact (List.pairwise_map.1 hnodup).imp fun hne heq => hne (FileName.ofText_inj.1 heq)

end FileTree

end LogForwarding
